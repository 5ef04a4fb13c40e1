import Waymark.Text.WordRanges
import Waymark.Text.DigitRanges

set_option autoImplicit false

/-! Character classes: word characters, decimal digits and blanks. The first 128 code points are
decided directly, the others by table. -/

namespace Waymark.Text

/-- Membership in a list of ascending closed ranges; the search stops at the first range above. -/
def inRanges : List (Nat × Nat) → Nat → Bool
  | [], _ => false
  | (low, high) :: rest, point =>
      if point < low then false else point ≤ high || inRanges rest point

def isWord (c : Char) : Bool :=
  if c.toNat < 128 then c.isAlphanum || c == '_' else inRanges wordRanges c.toNat

/-- A decimal digit of any script. -/
def isDigit (c : Char) : Bool :=
  if c.toNat < 128 then c.isDigit else inRanges digitRanges c.toNat

def blankRanges : List (Nat × Nat) :=
  [(0x85, 0x85), (0xA0, 0xA0), (0x1680, 0x1680), (0x2000, 0x200A), (0x2028, 0x2029),
   (0x202F, 0x202F), (0x205F, 0x205F), (0x3000, 0x3000)]

/-- White space: the space, the five controls from tab to carriage return, and the blanks of other
scripts. -/
def isBlank (c : Char) : Bool :=
  if c.toNat < 128 then c == ' ' || (9 ≤ c.toNat && c.toNat ≤ 13) else inRanges blankRanges c.toNat

def isBreak (c : Char) : Bool :=
  c == '\r' || c == '\n'

end Waymark.Text
