import Mathlib.Data.List.Forall2
import Waymark.Proofs.Text.CaseTables

set_option autoImplicit false

/-! Folding and uppercasing of characters and texts. Uppercasing twice is uppercasing once. Two
characters with the same folded form have the same uppercase form unless one of them is among five
exceptions. Below the letters, a character is folded only to itself. -/

namespace Waymark.Text

private theorem upperPoints_basic :
    ∀ point, point < 128 →
      (upperBetween 0 127 point).map Char.ofNat = [(Char.ofNat point).toUpper] := by
  decide +kernel

private theorem target_fold_basic :
    ∀ point, point < 128 →
      Char.ofNat (CaseShift.target (restrict CaseShift.first CaseShift.last 0 127 foldShifts) point) =
        (Char.ofNat point).toLower := by
  decide +kernel

theorem upperChar_eq (c : Char) : upperChar c = (upperPoints c.toNat).map Char.ofNat := by
  unfold upperChar
  by_cases basic : c.toNat < 128
  · rw [if_pos basic, ← upperBetween_eq (Nat.zero_le _) (Nat.le_of_lt_succ basic),
      upperPoints_basic c.toNat basic, Char.ofNat_toNat]
  · rw [if_neg basic]
    unfold upperPoints upperBy
    cases upperExpansions.lookup c.toNat <;> rfl

theorem foldChar_eq (c : Char) : foldChar c = Char.ofNat (CaseShift.target foldShifts c.toNat) := by
  unfold foldChar
  by_cases basic : c.toNat < 128
  · rw [if_pos basic, ← CaseShift.target_restrict foldShifts (Nat.zero_le _)
        (Nat.le_of_lt_succ basic), target_fold_basic c.toNat basic, Char.ofNat_toNat]
  · rw [if_neg basic]

theorem toNat_ofNat_of_valid {point : Nat} (valid : point.isValidChar) :
    (Char.ofNat point).toNat = point := by
  unfold Char.ofNat
  rw [dif_pos valid]
  rfl

/-! ### Uppercase forms -/

theorem upperChar_of_mem {c upper : Char} (member : upper ∈ upperChar c) :
    upperChar upper = [upper] := by
  rw [upperChar_eq] at member
  obtain ⟨point, known, same⟩ := List.mem_map.mp member
  subst same
  by_cases valid : point.isValidChar
  · rw [upperChar_eq, toNat_ofNat_of_valid valid, upperPoints_of_mem known]
    rfl
  · have null : Char.ofNat point = Char.ofNat 0 := by
      unfold Char.ofNat
      rw [dif_neg valid]
      rfl
    rw [null]
    rfl

theorem upperChar_ne_nil (c : Char) : upperChar c ≠ [] := by
  rw [upperChar_eq, ne_eq, List.map_eq_nil_iff]
  exact upperPoints_ne_nil c.toNat

theorem toList_upper (text : String) : (upper text).toList = text.toList.flatMap upperChar := by
  unfold upper
  rw [String.toList_ofList]

theorem upper_upper (text : String) : upper (upper text) = upper text := by
  apply String.toList_inj.mp
  rw [toList_upper, toList_upper]
  induction text.toList with
  | nil => rfl
  | cons c rest ih =>
      rw [List.flatMap_cons, List.flatMap_append, ih]
      congr 1
      have fixed (d : Char) (member : d ∈ upperChar c) : upperChar d = [d] :=
        upperChar_of_mem member
      rw [List.flatMap_congr fixed, List.flatMap_singleton']

/-- Only the empty text has an empty uppercase form. -/
theorem upper_eq_empty_iff (text : String) : upper text = "" ↔ text = "" := by
  rw [← String.toList_eq_nil_iff, ← String.toList_eq_nil_iff, toList_upper, List.flatMap_eq_nil_iff]
  constructor
  · intro vanish
    rw [List.eq_nil_iff_forall_not_mem]
    intro c member
    exact upperChar_ne_nil c (vanish c member)
  · intro empty c member
    rw [empty] at member
    cases member

/-! ### Folded forms -/

private theorem move_valid :
    (foldShifts.all fun shift => 64 < shift.move shift.first ∧
      (shift.move shift.last < 0xD800 ∨
        0xDFFF < shift.move shift.first ∧ shift.move shift.last < 0x110000)) = true := by
  decide +kernel

theorem target_fold_valid (c : Char) : (CaseShift.target foldShifts c.toNat).isValidChar := by
  rcases CaseShift.target_cases foldShifts c.toNat with stays | ⟨shift, known, covered, moved⟩
  · rw [stays]
    exact c.valid
  · have checked := of_decide_eq_true (List.all_eq_true.mp move_valid shift known)
    obtain ⟨above, below, _⟩ := (shift.covers_iff _).mp covered
    have low := shift.move_mono above
    have high := shift.move_mono below
    rw [moved]
    unfold Nat.isValidChar
    omega

/-- Folding keeps the uppercase form of every character but five. -/
theorem upperChar_foldChar {c : Char} (agrees : c.toNat ∉ foldedApart) :
    upperChar (foldChar c) = upperChar c := by
  rw [foldChar_eq, upperChar_eq, upperChar_eq, toNat_ofNat_of_valid (target_fold_valid c),
    upperPoints_fold agrees]

theorem upperChar_eq_of_sameFold {a b : Char} (same : sameFold a b = true)
    (agreesA : a.toNat ∉ foldedApart) (agreesB : b.toNat ∉ foldedApart) :
    upperChar a = upperChar b := by
  unfold sameFold at same
  rw [Bool.or_eq_true, beq_iff_eq, beq_iff_eq] at same
  rcases same with equal | folded
  · rw [equal]
  · rw [← upperChar_foldChar agreesA, ← upperChar_foldChar agreesB, folded]

def AgreesOnCase (text : List Char) : Prop :=
  ∀ c, c ∈ text → c.toNat ∉ foldedApart

instance (text : List Char) : Decidable (AgreesOnCase text) :=
  List.decidableBAll _ text

theorem upper_eq_of_sameFold {first second : List Char}
    (same : List.Forall₂ (fun a b => sameFold a b = true) first second)
    (firstAgrees : AgreesOnCase first) (secondAgrees : AgreesOnCase second) :
    first.flatMap upperChar = second.flatMap upperChar := by
  induction same with
  | nil => rfl
  | cons sameHead _ ih =>
      rw [List.flatMap_cons, List.flatMap_cons,
        upperChar_eq_of_sameFold sameHead (firstAgrees _ List.mem_cons_self)
          (secondAgrees _ List.mem_cons_self)]
      rw [ih (fun c member => firstAgrees c (List.mem_cons_of_mem _ member))
        (fun c member => secondAgrees c (List.mem_cons_of_mem _ member))]

/-- Nothing is folded to a character below the letters but itself. -/
theorem foldChar_eq_iff_of_low {c low : Char} (below : low.toNat ≤ 64) :
    foldChar c = low ↔ c = low := by
  have target : foldChar c = low ↔ CaseShift.target foldShifts c.toNat = low.toNat := by
    rw [foldChar_eq]
    constructor
    · intro same
      rw [← same, toNat_ofNat_of_valid (target_fold_valid c)]
    · intro same
      rw [same, Char.ofNat_toNat]
  have unmoved (point : Nat) (small : point ≤ 64) : CaseShift.target foldShifts point = point := by
    rcases CaseShift.target_cases foldShifts point with stays | ⟨shift, known, covered, _⟩
    · exact stays
    · have first : (foldShifts.all fun shift => 64 < shift.first) = true := by decide +kernel
      have started := of_decide_eq_true (List.all_eq_true.mp first shift known)
      obtain ⟨above, _, _⟩ := (shift.covers_iff point).mp covered
      omega
  rw [target]
  constructor
  · intro same
    rcases CaseShift.target_cases foldShifts c.toNat with stays | ⟨shift, known, covered, moved⟩
    · rw [stays] at same
      rw [← Char.ofNat_toNat c, same, Char.ofNat_toNat]
    · have checked := of_decide_eq_true (List.all_eq_true.mp move_valid shift known)
      obtain ⟨above, _, _⟩ := (shift.covers_iff _).mp covered
      have moveAbove := shift.move_mono above
      omega
  · intro same
    rw [same, unmoved low.toNat below]

/-- A character below the letters stands only for itself. -/
theorem eq_of_sameChar_of_low {matchCase : Bool} {a b : Char} (same : sameChar matchCase a b = true)
    (low : a.toNat ≤ 64 ∨ b.toNat ≤ 64) : a = b := by
  unfold sameChar at same
  cases matchCase with
  | true => simpa using same
  | false =>
      simp only [sameFold, Bool.false_eq_true, if_false, Bool.or_eq_true, beq_iff_eq] at same
      rcases same with equal | folded
      · exact equal
      · rcases low with below | below
        · have fixed := (foldChar_eq_iff_of_low below).mpr (rfl : a = a)
          rw [fixed] at folded
          exact ((foldChar_eq_iff_of_low below).mp folded.symm).symm
        · have fixed := (foldChar_eq_iff_of_low below).mpr (rfl : b = b)
          rw [fixed] at folded
          exact (foldChar_eq_iff_of_low below).mp folded

end Waymark.Text
