import Waymark.Anchor.Attributes
import Waymark.Tag.Basic
import Waymark.Path

set_option autoImplicit false

/-! Anchors: marks that were found in a document, with their text, place and attributes. -/

namespace Waymark

structure RegionClose where
  start : Nat
  /-- The byte offset just past it. -/
  stop : Nat
  /-- Its line, counted from 1. -/
  line : Nat
deriving DecidableEq, Repr

inductive AnchorKind where
  | plain
  | region (close : Option RegionClose)
deriving DecidableEq, Repr

structure Anchor where
  tag : String
  /-- The text that is shown, and by which the anchor can be looked up. -/
  text : String
  comment : String
  start : Nat
  /-- The byte offset at which the highlight ends. -/
  stop : Nat
  /-- The line, counted from 1. -/
  line : Nat
  behavior : Behavior
  scope : Scope
  showLine : Bool
  document : Path
  attributes : Attributes
  kind : AnchorKind
deriving DecidableEq, Repr

namespace Anchor

def isRegion (anchor : Anchor) : Bool :=
  match anchor.kind with
  | .plain => false
  | .region _ => true

def close? (anchor : Anchor) : Option RegionClose :=
  match anchor.kind with
  | .plain => none
  | .region close => close

def isWorkspaceVisible (anchor : Anchor) : Bool := anchor.scope == .workspace

/-- Records the end marker of a region; an anchor that is no region stays as it is. -/
def setClose (anchor : Anchor) (close : RegionClose) : Anchor :=
  match anchor.kind with
  | .plain => anchor
  | .region _ => { anchor with kind := .region (some close) }

/-- The label with or without lines: `[12] text`, `[12 - 30] text` for a closed region,
`[12 - ?] text` for an open one. -/
def labelWith (anchor : Anchor) (showLine : Bool) : String :=
  if showLine then
    let line := toString anchor.line
    match anchor.kind with
    | .plain => "[" ++ line ++ "] " ++ anchor.text
    | .region none => "[" ++ line ++ " - ?] " ++ anchor.text
    | .region (some close) => "[" ++ line ++ " - " ++ toString close.line ++ "] " ++ anchor.text
  else anchor.text

def label (anchor : Anchor) : String := anchor.labelWith anchor.showLine

end Anchor

namespace RegionClose

def toJson (close : RegionClose) : Json :=
  .object [("start", .nat close.start), ("end", .nat close.stop), ("line", .nat close.line)]

end RegionClose

namespace Anchor

def kindFields : AnchorKind → List (String × Json)
  | .plain => [("kind", .string "plain")]
  | .region close =>
      [("kind", .string "region"), ("close", close.elim .null RegionClose.toJson)]

def jsonFields (anchor : Anchor) : List (String × Json) :=
  [("tag", .string anchor.tag),
   ("text", .string anchor.text),
   ("comment", .string anchor.comment),
   ("start", .nat anchor.start),
   ("end", .nat anchor.stop),
   ("line", .nat anchor.line),
   ("behavior", .string anchor.behavior.name),
   ("scope", .string anchor.scope.name),
   ("show_line", .bool anchor.showLine),
   ("document", .string anchor.document.text),
   ("attributes", anchor.attributes.toJson)] ++ kindFields anchor.kind

def toJson (anchor : Anchor) : Json := .object anchor.jsonFields

end Anchor

end Waymark
