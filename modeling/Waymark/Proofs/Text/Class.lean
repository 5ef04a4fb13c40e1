import Waymark.Text.Class

set_option autoImplicit false

/-! The characters that are blank, one by one. None of them is part of a word, so a word has no blank
ends. -/

namespace Waymark.Text

theorem exists_range_of_inRanges {ranges : List (Nat × Nat)} {point : Nat}
    (inside : inRanges ranges point = true) :
    ∃ range, range ∈ ranges ∧ range.1 ≤ point ∧ point ≤ range.2 := by
  induction ranges with
  | nil => cases inside
  | cons range rest ih =>
      unfold inRanges at inside
      split at inside
      · cases inside
      · rename_i above
        rcases Bool.or_eq_true_iff.mp inside with within | later
        · exact ⟨range, List.mem_cons_self, Nat.not_lt.mp above, of_decide_eq_true within⟩
        · obtain ⟨other, member, bounds⟩ := ih later
          exact ⟨other, List.mem_cons_of_mem _ member, bounds⟩

def blankPoints : List Nat :=
  32 :: (List.range' 9 5 ++ blankRanges.flatMap fun range =>
    List.range' range.1 (range.2 + 1 - range.1))

theorem toNat_mem_of_isBlank {c : Char} (blank : isBlank c = true) : c.toNat ∈ blankPoints := by
  unfold isBlank at blank
  unfold blankPoints
  rw [List.mem_cons, List.mem_append]
  split at blank
  · rcases Bool.or_eq_true_iff.mp blank with space | control
    · rw [eq_of_beq space]
      exact Or.inl rfl
    · rw [Bool.and_eq_true_iff, decide_eq_true_iff, decide_eq_true_iff] at control
      exact Or.inr (Or.inl (List.mem_range'_1.mpr (by omega)))
  · obtain ⟨range, member, bounds⟩ := exists_range_of_inRanges blank
    refine Or.inr (Or.inr (List.mem_flatMap.mpr ⟨range, member, ?_⟩))
    exact List.mem_range'_1.mpr (by omega)

theorem isBlank_of_isWord {c : Char} (word : isWord c = true) : isBlank c = false := by
  have noWord : ∀ point, point ∈ blankPoints → isWord (Char.ofNat point) = false := by
    decide +kernel
  rw [Bool.eq_false_iff]
  intro blank
  have other := noWord c.toNat (toNat_mem_of_isBlank blank)
  rw [Char.ofNat_toNat, word] at other
  cases other

theorem isWord_of_digit {c : Char} (digit : c.isDigit = true) : isWord c = true := by
  have bounds : 48 ≤ c.toNat ∧ c.toNat ≤ 57 := Char.isDigit_iff_toNat.mp digit
  unfold isWord
  rw [if_pos (by omega), Char.isAlphanum, digit, Bool.or_true, Bool.true_or]

theorem isDigit_of_digit {c : Char} (digit : c.isDigit = true) : isDigit c = true := by
  have bounds : 48 ≤ c.toNat ∧ c.toNat ≤ 57 := Char.isDigit_iff_toNat.mp digit
  unfold isDigit
  rw [if_pos (by omega), digit]

end Waymark.Text
