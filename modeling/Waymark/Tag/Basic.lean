import Waymark.Tag.Color

set_option autoImplicit false

/-! Tags: the named kinds of markers (`TODO`, `NOTE`, `SECTION`, …) and how their anchors behave and
are shown. A tag is identified by its uppercased name. -/

namespace Waymark

inductive Behavior where
  | marker
  | region
  | link
deriving DecidableEq, Repr

namespace Behavior

def name : Behavior → String
  | marker => "marker"
  | region => "region"
  | link => "link"

/-- Reads the name of a behavior; `anchor` is a second name of the marker. -/
def ofName? : String → Option Behavior
  | "marker" | "anchor" => some marker
  | "region" => some region
  | "link" => some link
  | _ => none

end Behavior

inductive Scope where
  /-- Only in the listing of their document. -/
  | document
  /-- In the listing of the whole workspace, and in epics. -/
  | workspace
deriving DecidableEq, Repr

namespace Scope

def name : Scope → String
  | document => "document"
  | workspace => "workspace"

/-- Reads the name of a scope; `file` is a second name of the document scope. -/
def ofName? : String → Option Scope
  | "document" | "file" => some document
  | "workspace" => some workspace
  | _ => none

end Scope

structure Tag where
  name : String
  behavior : Behavior
  scope : Scope
  displayLineNumber : Bool := true
  /-- The whole comment is highlighted and not only the tag. -/
  styleComment : Bool := false
  iconColor : IconColor := .auto
  highlightColor : Option String := none
  backgroundColor : Option String := none
  bold : Bool := true
  italic : Bool := true
deriving DecidableEq, Repr

namespace Tag

/-- A tag with the default display options; its name is uppercased. -/
def named (name : String) (behavior : Behavior) (scope : Scope) : Tag :=
  { name := Text.upper name, behavior, scope }

def colored (tag : Tag) (icon highlight : String) : Tag :=
  { tag with
    iconColor := (IconColor.resolve icon).getD .auto
    highlightColor := some highlight }

def isRegion (tag : Tag) : Bool := tag.behavior == .region

def isWorkspaceVisible (tag : Tag) : Bool := tag.scope == .workspace

/-- The forms in which a tag is written: its name and, for a region, the name after the end mark. -/
def tokens (endTag : String) (tag : Tag) : List String :=
  if tag.isRegion then [tag.name, endTag ++ tag.name] else [tag.name]

def toJson (tag : Tag) : Json :=
  .object
    [("name", .string tag.name),
     ("behavior", .string tag.behavior.name),
     ("scope", .string tag.scope.name),
     ("display_line_number", .bool tag.displayLineNumber),
     ("style_comment", .bool tag.styleComment),
     ("icon_color", tag.iconColor.toJson),
     ("highlight_color", .optional tag.highlightColor),
     ("background_color", .optional tag.backgroundColor),
     ("bold", .bool tag.bold),
     ("italic", .bool tag.italic)]

end Tag

end Waymark
