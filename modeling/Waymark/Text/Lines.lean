import Waymark.Text.Trim

set_option autoImplicit false

/-! Lines by byte offset. A carriage return, a line feed, and the two in this order each end one
line. The line of an offset is found by bisection in the ascending list of line starts. -/

namespace Waymark.Text

/-- The offsets at which the lines after the first begin, for a text that starts at `offset`. -/
def lineStartsFrom (offset : Nat) : List Char → List Nat
  | [] => []
  | '\r' :: '\n' :: rest => (offset + 2) :: lineStartsFrom (offset + 2) rest
  | c :: rest =>
      let next := offset + c.utf8Size
      if isBreak c then next :: lineStartsFrom next rest else lineStartsFrom next rest

structure LineIndex where
  starts : Array Nat

namespace LineIndex

def ofText (text : List Char) : LineIndex :=
  ⟨(0 :: lineStartsFrom 0 text).toArray⟩

/-- How a search among line starts ends: at one of them, or where the sought one would stand. -/
inductive Search where
  | found (place : Nat)
  | missing (place : Nat)
deriving DecidableEq, Repr

/-- Bisection for `offset` among the ascending `starts` between `low` and `high`. -/
def search (starts : Array Nat) (offset low high : Nat) : Search :=
  if low < high then
    let middle := (low + high) / 2
    let start := starts.getD middle 0
    if start = offset then .found middle
    else if start < offset then search starts offset (middle + 1) high
    else search starts offset low middle
  else .missing low
termination_by high - low

/-- The number of the line that holds `offset`, counted from 1. -/
def lineOf (index : LineIndex) (offset : Nat) : Nat :=
  match search index.starts offset 0 index.starts.size with
  | .found place => place + 1
  | .missing place => place

end LineIndex

end Waymark.Text
