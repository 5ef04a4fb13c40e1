import Waymark.Tag.Basic
import Waymark.Text.Trim

set_option autoImplicit false

/-! User settings for one tag. Every setting but the name is optional; an absent one keeps what the
tag has. -/

namespace Waymark

structure TagOverride where
  tag : String := ""
  enabled : Option Bool := none
  behavior : Option Behavior := none
  /-- An older way to ask for the region behavior. -/
  isRegion : Option Bool := none
  scope : Option Scope := none
  displayLineNumber : Option Bool := none
  styleComment : Option Bool := none
  iconColor : Option String := none
  highlightColor : Option String := none
  backgroundColor : Option String := none
  isBold : Option Bool := none
  isItalic : Option Bool := none
deriving DecidableEq, Repr

namespace TagOverride

/-- The name of the tag that is meant: trimmed, then uppercased. -/
def key (entry : TagOverride) : String :=
  Text.upper (Text.trimmed entry.tag)

def disables (entry : TagOverride) : Bool :=
  entry.enabled == some false

/-- The behavior after the settings; the older region setting has the last word. -/
def behaviorFrom (entry : TagOverride) (old : Behavior) : Behavior :=
  if entry.isRegion == some true then .region else entry.behavior.getD old

/-- The configured text that decides the icon: an icon color, or for a tag that is new the highlight
color. -/
def iconText (entry : TagOverride) (isNew : Bool) : Option String :=
  entry.iconColor.or (if isNew then entry.highlightColor else none)

/-- The icon color after the settings; a text that names no color makes it automatic. -/
def iconFrom (entry : TagOverride) (isNew : Bool) (old : IconColor) : IconColor :=
  match entry.iconText isNew with
  | some raw => (IconColor.resolve raw).getD .auto
  | none => old

def applyTo (entry : TagOverride) (isNew : Bool) (tag : Tag) : Tag :=
  { name := tag.name
    behavior := entry.behaviorFrom tag.behavior
    scope := entry.scope.getD tag.scope
    displayLineNumber := entry.displayLineNumber.getD tag.displayLineNumber
    styleComment := entry.styleComment.getD tag.styleComment
    iconColor := entry.iconFrom isNew tag.iconColor
    highlightColor := entry.highlightColor.or tag.highlightColor
    backgroundColor := entry.backgroundColor.or tag.backgroundColor
    bold := entry.isBold.getD tag.bold
    italic := entry.isItalic.getD tag.italic }

/-- What the settings make of the tag that was there before, if any: nothing if they disable it, the
changed tag, or a new workspace marker with the settings. -/
def resultFor (entry : TagOverride) (existing : Option Tag) : Option Tag :=
  if entry.disables then none
  else
    match existing with
    | some tag => some (entry.applyTo false tag)
    | none => some (entry.applyTo true (Tag.named entry.key .marker .workspace))

def toJson (entry : TagOverride) : Json :=
  let flag (value : Option Bool) : Json := value.elim .null .bool
  .object
    [("tag", .string entry.tag),
     ("enabled", flag entry.enabled),
     ("behavior", .optional (entry.behavior.map Behavior.name)),
     ("is_region", flag entry.isRegion),
     ("scope", .optional (entry.scope.map Scope.name)),
     ("display_line_number", flag entry.displayLineNumber),
     ("style_comment", flag entry.styleComment),
     ("icon_color", .optional entry.iconColor),
     ("highlight_color", .optional entry.highlightColor),
     ("background_color", .optional entry.backgroundColor),
     ("is_bold", flag entry.isBold),
     ("is_italic", flag entry.isItalic)]

end TagOverride

end Waymark
