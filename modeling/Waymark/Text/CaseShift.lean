set_option autoImplicit false

/-! Case mappings as runs of code points that all move by one distance. Most letters of a script come
in such runs, either side by side or with upper and lower case alternating. -/

namespace Waymark.Text

/-- The code points `first`, `first + step`, … up to `last` move by `distance`. -/
structure CaseShift where
  first : Nat
  last : Nat
  step : Nat
  distance : Int
deriving Repr

namespace CaseShift

def covers (shift : CaseShift) (point : Nat) : Bool :=
  shift.first ≤ point && point ≤ shift.last && (point - shift.first) % shift.step == 0

def reaches (shift : CaseShift) (point : Nat) : Bool :=
  shift.covers (Int.ofNat point - shift.distance).toNat

/-- Where a list of runs moves a code point; a point that no run covers stays. -/
def target (shifts : List CaseShift) (point : Nat) : Nat :=
  match shifts.find? (·.covers point) with
  | some shift => (Int.ofNat point + shift.distance).toNat
  | none => point

end CaseShift

end Waymark.Text
