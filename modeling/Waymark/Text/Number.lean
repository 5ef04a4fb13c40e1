set_option autoImplicit false

/-! Integers written in decimal, with the bounds of 64-bit words. -/

namespace Waymark.Text

def minSigned : Int := -9223372036854775808

def maxSigned : Int := 9223372036854775807

def maxUnsigned : Nat := 18446744073709551615

def digitValue? (base : Nat) (c : Char) : Option Nat :=
  let value :=
    if c.isDigit then c.toNat - '0'.toNat
    else if 'a' ≤ c ∧ c ≤ 'f' then c.toNat - 'a'.toNat + 10
    else if 'A' ≤ c ∧ c ≤ 'F' then c.toNat - 'A'.toNat + 10
    else base
  if value < base then some value else none

/-- Reads digits of a base after an already read `value`. -/
def readDigits (base value : Nat) : List Char → Option Nat
  | [] => some value
  | c :: rest => (digitValue? base c).bind fun digit => readDigits base (value * base + digit) rest

def readNatural? (base : Nat) : List Char → Option Nat
  | [] => none
  | digits => readDigits base 0 digits

def readInteger? (base : Nat) : List Char → Option Int
  | '+' :: digits => (readNatural? base digits).map Int.ofNat
  | '-' :: digits => (readNatural? base digits).map fun value => -Int.ofNat value
  | digits => (readNatural? base digits).map Int.ofNat

def readSigned? (base : Nat) (text : List Char) : Option Int :=
  (readInteger? base text).filter fun value => minSigned ≤ value && value ≤ maxSigned

/-- Reads an unsigned integer that fits in 64 bits; a plus sign may precede it. -/
def readUnsigned? (base : Nat) (text : List Char) : Option Nat :=
  let digits :=
    match text with
    | '+' :: digits => digits
    | digits => digits
  (readNatural? base digits).filter (· ≤ maxUnsigned)

def saturatingAdd (a b : Int) : Int :=
  max minSigned (min maxSigned (a + b))

end Waymark.Text
