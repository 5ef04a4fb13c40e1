import Waymark.Text.Trim

set_option autoImplicit false

/-! Places in a YAML text, and the character classes of its tokens. -/

namespace Waymark.Yaml

def isBlank (c : Char) : Bool := c == ' ' || c == '\t'

def isBreak (c : Char) : Bool :=
  c == '\r' || c == '\n' || c == '\x85' || c == '\u2028' || c == '\u2029'

def isSpacing (c : Char) : Bool := isBlank c || isBreak c

/-- A character of a name: a basic letter or digit, `_` or `-`. -/
def isNameChar (c : Char) : Bool := c.isAlphanum || c == '_' || c == '-'

def isFlowMark (c : Char) : Bool :=
  c == ',' || c == '[' || c == ']' || c == '\x7b' || c == '\x7d'

def isAllowed (c : Char) : Bool :=
  let point := c.toNat
  point == 0x09 || point == 0x0A || point == 0x0D || (0x20 ≤ point && point ≤ 0x7E)
    || point == 0x85 || (0xA0 ≤ point && point ≤ 0xD7FF) || (0xE000 ≤ point && point ≤ 0xFFFD)
    || 0x10000 ≤ point

/-- A place in a text: what follows it, and how far it is from the start: in lines, in characters of
its line and in bytes. -/
structure Cursor where
  rest : List Char
  line : Nat := 0
  column : Nat := 0
  offset : Nat := 0

namespace Cursor

def peek? (cursor : Cursor) (distance : Nat := 0) : Option Char := cursor.rest[distance]?

def isAt (cursor : Cursor) (c : Char) (distance : Nat := 0) : Bool := cursor.peek? distance == some c

/-- Whether the character at a distance separates tokens, or the text has ended there. -/
def isSpacingAt (cursor : Cursor) (distance : Nat := 0) : Bool :=
  (cursor.peek? distance).all isSpacing

def atEnd (cursor : Cursor) : Bool := cursor.rest.isEmpty

def skip (cursor : Cursor) (count : Nat := 1) : Cursor :=
  { cursor with
    rest := cursor.rest.drop count
    column := cursor.column + count
    offset := cursor.offset + Text.byteLength (cursor.rest.take count) }

def skipWhile (cursor : Cursor) (test : Char → Bool) : Cursor :=
  cursor.skip (cursor.rest.takeWhile test).length

def skipBlanks (cursor : Cursor) : Cursor := cursor.skipWhile isBlank

def takeWhile (cursor : Cursor) (test : Char → Bool) : List Char × Cursor :=
  (cursor.rest.takeWhile test, cursor.skipWhile test)

/-- Takes a line break; the breaks that are no separators of their own count as a line feed. -/
def takeBreak (cursor : Cursor) : List Char × Cursor :=
  let next (count : Nat) : Cursor :=
    { rest := cursor.rest.drop count
      line := cursor.line + 1
      column := 0
      offset := cursor.offset + Text.byteLength (cursor.rest.take count) }
  match cursor.rest with
  | '\r' :: '\n' :: _ => (['\n'], next 2)
  | '\r' :: _ => (['\n'], next 1)
  | '\n' :: _ => (['\n'], next 1)
  | '\x85' :: _ => (['\n'], next 1)
  | c :: _ => if isBreak c then ([c], next 1) else ([], cursor)
  | [] => ([], cursor)

/-- Goes on over a comment and to the end of the line; `none` if something else stands there. -/
def skipLineRest (cursor : Cursor) : Option Cursor :=
  let cursor := cursor.skipBlanks
  let cursor := if cursor.isAt '#' then cursor.skipWhile (!isBreak ·) else cursor
  if cursor.atEnd || (cursor.peek?).any isBreak then some cursor.takeBreak.2 else none

def isMarker (cursor : Cursor) (c : Char) : Bool :=
  cursor.column == 0 && cursor.isAt c && cursor.isAt c 1 && cursor.isAt c 2 && cursor.isSpacingAt 3

def atDocumentMarker (cursor : Cursor) : Bool := cursor.isMarker '-' || cursor.isMarker '.'

end Cursor

end Waymark.Yaml
