import Waymark.Text.Case

set_option autoImplicit false

/-! The order in which separators are tried. A space in a separator stands for one or more spaces, so
a separator can take the spaces that another one asks for. Separators that all begin alike, up to a
space, share those spaces: the ones that ask for fewer further spaces are tried first. Otherwise the
configured order stands. -/

namespace Waymark.Separator

/-- The parts of a separator. A space is a part, and so is a character with case variants where case
is ignored; the other characters stay together. -/
def parts (matchCase : Bool) (separator : List Char) : List (List Char) :=
  let together (c : Char) : Bool := c != ' ' && (matchCase || !Text.hasCase c)
  separator.splitBy fun a b => together a && together b

def sameParts (matchCase : Bool) : List Char → List Char → Bool
  | [], [] => true
  | a :: rest, b :: others => Text.sameChar matchCase a b && sameParts matchCase rest others
  | _, _ => false

def commonParts (matchCase : Bool) : List (List Char) → List (List Char) → List (List Char)
  | a :: rest, b :: others =>
      if sameParts matchCase a b then a :: commonParts matchCase rest others else []
  | _, _ => []

def shared (matchCase : Bool) (separators : List (List Char)) : List Char :=
  match separators.map (parts matchCase) with
  | [] => []
  | first :: others =>
      if others.isEmpty || (first :: others).any (·.length ≤ 1) then []
      else (others.foldl (commonParts matchCase) first).flatten

def leadingSpaces (text : List Char) : Nat :=
  (text.takeWhile (· == ' ')).length

def order (matchCase : Bool) (separators : List (List Char)) : List (List Char) :=
  let start := shared matchCase separators
  if start.getLast? = some ' ' then
    separators.mergeSort fun a b =>
      leadingSpaces (a.drop start.length) ≤ leadingSpaces (b.drop start.length)
  else separators

end Waymark.Separator
