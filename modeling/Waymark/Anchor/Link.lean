import Waymark.Anchor.Basic

set_option autoImplicit false

/-! Targets of link anchors: a path and perhaps a line (`main.rs:42`) or the id of an anchor
(`notes.txt#intro`). The path is the shortest beginning of the text after which nothing or a
position follows. -/

namespace Waymark

inductive LinkPosition where
  | line (number : Nat)
  | anchor (id : String)
deriving DecidableEq, Repr

structure LinkTarget where
  path : Path
  position : Option LinkPosition
deriving DecidableEq, Repr

namespace LinkTarget

def isIdChar (c : Char) : Bool := Text.isWord c || c == '-'

/-- Whether a text is a position: `:` and digits, or `#` and an id. -/
def isPosition : List Char → Bool
  | ':' :: digits => !digits.isEmpty && digits.all Text.isDigit
  | '#' :: id => !id.isEmpty && id.all isIdChar
  | _ => false

/-- The shortest beginning after `taken` that leaves nothing or a position, and what it leaves. -/
def splitPosition (taken : List Char) : List Char → List Char × List Char
  | [] => (taken.reverse, [])
  | c :: rest =>
      if isPosition (c :: rest) then (taken.reverse, c :: rest) else splitPosition (c :: taken) rest

/-- The position that a text stands for; a line that does not fit in 64 bits stands for none. -/
def readPosition : List Char → Option LinkPosition
  | ':' :: digits => (Text.readUnsigned? 10 digits).map .line
  | '#' :: id => some (.anchor (String.ofList id))
  | _ => none

/-- Reads a target; there is none in a blank text and in a text of several lines. -/
def parse (text : String) : Option LinkTarget :=
  match Text.trim text.toList with
  | [] => none
  | c :: rest =>
      if (c :: rest).contains '\n' then none
      else
        let (path, position) := splitPosition [c] rest
        some ⟨⟨String.ofList path⟩, readPosition position⟩

def ofAnchor (anchor : Anchor) : Option LinkTarget :=
  if anchor.behavior = .link then parse anchor.comment else none

def resolve (target : LinkTarget) (document : Path) : Path :=
  match document.parent? with
  | some directory => directory.join target.path
  | none => target.path

def describe (target : LinkTarget) : String :=
  match target.position with
  | none => target.path.text
  | some (.line number) => target.path.text ++ " line " ++ toString number
  | some (.anchor id) => target.path.text ++ " anchor " ++ id

def positionJson : Option LinkPosition → Json
  | none => .null
  | some (.line number) => .object [("line", .nat number)]
  | some (.anchor id) => .object [("anchor", .string id)]

end LinkTarget

end Waymark
