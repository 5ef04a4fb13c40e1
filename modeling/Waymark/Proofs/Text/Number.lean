import Waymark.Text.Number

set_option autoImplicit false

/-! Numbers as they are written. Each integer within the signed 64-bit range is read back from its
sign and its decimal digits, the least one included, and each natural number within the unsigned
range from its digits. -/

namespace Waymark.Text

theorem digitValue?_of_isDigit {c : Char} (digit : c.isDigit = true) :
    digitValue? 10 c = some (c.toNat - '0'.toNat) := by
  have bounds : 48 ≤ c.toNat ∧ c.toNat ≤ 57 := Char.isDigit_iff_toNat.mp digit
  unfold digitValue?
  rw [if_pos digit]
  exact if_pos (by change c.toNat - 48 < 10; omega)

theorem readDigits_eq (value : Nat) {text : List Char} (digits : ∀ c, c ∈ text → c.isDigit = true) :
    readDigits 10 value text = some (Nat.ofDigitChars 10 text value) := by
  induction text generalizing value with
  | nil => rfl
  | cons c rest ih =>
      obtain ⟨digit, restDigits⟩ := List.forall_mem_cons.mp digits
      rw [readDigits, digitValue?_of_isDigit digit, Option.bind_some, ih _ restDigits,
        Nat.ofDigitChars_cons, Nat.mul_comm]

theorem isDigit_toDigits (number : Nat) : ∀ c, c ∈ Nat.toDigits 10 number → c.isDigit = true :=
  fun _ => Nat.isDigit_of_mem_toDigits (by decide) (by decide)

theorem readNatural?_toDigits (number : Nat) :
    readNatural? 10 (Nat.toDigits 10 number) = some number := by
  cases digits : Nat.toDigits 10 number with
  | nil => exact absurd digits Nat.toDigits_ne_nil
  | cons first rest =>
      change readDigits 10 0 (first :: rest) = some number
      rw [← digits, readDigits_eq 0 (isDigit_toDigits number),
        Nat.ofDigitChars_toDigits (by decide) (by decide)]

theorem readUnsigned?_toString {number : Nat} (fits : number ≤ maxUnsigned) :
    readUnsigned? 10 (toString number).toList = some number := by
  have written : (toString number).toList = Nat.toDigits 10 number := Nat.toList_repr
  have unsigned : ∀ digits, Nat.toDigits 10 number ≠ '+' :: digits := by
    intro digits signed
    have digit := isDigit_toDigits number '+' (by rw [signed]; exact List.mem_cons_self)
    cases digit
  rw [written]
  unfold readUnsigned?
  split
  · exact absurd ‹_› (unsigned _)
  · dsimp only
    rw [readNatural?_toDigits, Option.filter_some, decide_eq_true fits]
    rfl

theorem toList_toString_ofNat (number : Nat) :
    (toString (Int.ofNat number)).toList = Nat.toDigits 10 number := by
  change (Nat.repr number).toList = _
  rw [Nat.toList_repr]

theorem toList_toString_negSucc (number : Nat) :
    (toString (Int.negSucc number)).toList = '-' :: Nat.toDigits 10 (number + 1) := by
  change ("-" ++ Nat.repr (number + 1)).toList = _
  rw [String.toList_append, Nat.toList_repr]
  rfl

theorem readInteger?_toString (number : Int) :
    readInteger? 10 (toString number).toList = some number := by
  cases number with
  | ofNat number =>
      rw [toList_toString_ofNat]
      have read := readNatural?_toDigits number
      have allDigits := isDigit_toDigits number
      cases digits : Nat.toDigits 10 number with
      | nil => exact absurd digits Nat.toDigits_ne_nil
      | cons first rest =>
          rw [digits] at read allDigits
          have digit := allDigits first List.mem_cons_self
          have notPlus : first ≠ '+' := by
            rintro rfl
            cases digit
          have notMinus : first ≠ '-' := by
            rintro rfl
            cases digit
          unfold readInteger?
          split
          · exact absurd (List.cons.inj ‹_›).1 notPlus
          · exact absurd (List.cons.inj ‹_›).1 notMinus
          · rw [read]
            rfl
  | negSucc number =>
      rw [toList_toString_negSucc, readInteger?, readNatural?_toDigits]
      rfl

theorem readSigned?_toString {number : Int} (low : minSigned ≤ number)
    (high : number ≤ maxSigned) : readSigned? 10 (toString number).toList = some number := by
  rw [readSigned?, readInteger?_toString, Option.filter_some]
  simp [low, high]

/-- The sum is read back, however large its summands are. -/
theorem readSigned?_saturatingAdd (first second : Int) :
    readSigned? 10 (toString (saturatingAdd first second)).toList =
      some (saturatingAdd first second) := by
  apply readSigned?_toString
  · exact Int.le_max_left _ _
  · unfold saturatingAdd minSigned maxSigned
    omega

theorem mem_toString {number : Int} {c : Char} (member : c ∈ (toString number).toList) :
    c = '-' ∨ c.isDigit = true := by
  cases number with
  | ofNat number =>
      rw [toList_toString_ofNat] at member
      exact Or.inr (isDigit_toDigits number c member)
  | negSucc number =>
      rw [toList_toString_negSucc] at member
      exact (List.mem_cons.mp member).imp id (isDigit_toDigits (number + 1) c)

theorem toList_toString_ne_nil (number : Int) : (toString number).toList ≠ [] := by
  cases number with
  | ofNat number =>
      rw [toList_toString_ofNat]
      exact Nat.toDigits_ne_nil
  | negSucc number =>
      rw [toList_toString_negSucc]
      exact List.cons_ne_nil _ _

end Waymark.Text
