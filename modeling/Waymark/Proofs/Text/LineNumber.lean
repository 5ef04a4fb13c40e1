import Waymark.Proofs.Text.Lines

set_option autoImplicit false

/-! Line numbers. Bisection in the ascending line starts counts those up to an offset, so that every
place of a line, its end included, has the number of that line. Hence of two lines the later has the
larger number. -/

namespace Waymark.Text

/-! ### Bisection -/

namespace LineIndex

/-- Whether the line starts with an index below `count` are those up to the offset. -/
structure Counts (starts : Array Nat) (offset count : Nat) : Prop where
  within : count ≤ starts.size
  upTo : ∀ i, i < starts.size → (i < count ↔ starts.getD i 0 ≤ offset)

section Bisection

variable {starts : Array Nat} {offset low high place : Nat}

private theorem getD_lt_getD (ascending : starts.toList.Pairwise (· < ·)) {i j : Nat} (less : i < j)
    (present : j < starts.size) : starts.getD i 0 < starts.getD j 0 := by
  have placed := List.pairwise_iff_getElem.mp ascending i j
    (by rw [Array.length_toList]; omega) (by rw [Array.length_toList]; exact present) less
  rw [Array.getD_eq_getD_getElem?, Array.getD_eq_getD_getElem?,
    Array.getElem?_eq_getElem (by omega), Array.getElem?_eq_getElem present]
  exact placed

/-- A start that is found is the last of those up to the offset. -/
theorem counts_of_found (ascending : starts.toList.Pairwise (· < ·)) (inside : high ≤ starts.size)
    (found : search starts offset low high = .found place) : Counts starts offset (place + 1) := by
  fun_induction search starts offset low high with
  | case1 low high less middle start same =>
      have reached : middle = place := Search.found.inj found
      have start : starts.getD place 0 = offset := reached ▸ same
      refine ⟨by omega, ?_⟩
      intro i known
      constructor
      · intro upTo
        rcases Nat.lt_or_eq_of_le (Nat.le_of_lt_succ upTo) with earlier | equal
        · have before := getD_lt_getD ascending earlier (by omega)
          omega
        · rw [equal]
          exact Nat.le_of_eq start
      · intro small
        apply Nat.lt_of_not_le
        intro behind
        have later := getD_lt_getD ascending behind known
        omega
  | case2 low high less middle start other before ih => exact ih inside found
  | case3 low high less middle start other behind ih => exact ih (by omega) found
  | case4 low high done => cases found

/-- A start that is missing would stand right behind those up to the offset. -/
theorem counts_of_missing (ascending : starts.toList.Pairwise (· < ·)) (ordered : low ≤ high)
    (inside : high ≤ starts.size) (reached : ∀ i, i < low → starts.getD i 0 ≤ offset)
    (passed : ∀ i, high ≤ i → i < starts.size → offset < starts.getD i 0)
    (missing : search starts offset low high = .missing place) : Counts starts offset place := by
  fun_induction search starts offset low high with
  | case1 low high less middle start same => cases missing
  | case2 low high less middle start other before ih =>
      -- What starts before the middle starts no later than the middle.
      refine ih (by omega) inside ?_ passed missing
      intro i below
      have small : starts.getD middle 0 < offset := before
      rcases Nat.lt_or_eq_of_le (Nat.le_of_lt_succ below) with earlier | equal
      · have first := getD_lt_getD ascending earlier (by omega)
        omega
      · rw [equal]
        exact Nat.le_of_lt small
  | case3 low high less middle start other behind ih =>
      refine ih (by omega) (by omega) reached ?_ missing
      intro i after known
      have large : offset < starts.getD middle 0 := by omega
      rcases Nat.lt_or_eq_of_le after with later | equal
      · have last := getD_lt_getD ascending later known
        omega
      · rw [← equal]
        exact large
  | case4 low high done =>
      cases missing
      refine ⟨by omega, ?_⟩
      intro i known
      constructor
      · exact reached i
      · intro small
        apply Nat.lt_of_not_le
        intro outside
        have beyond := passed i (by omega) known
        omega

end Bisection

/-- Whether the search finds a start or misses it, the number of a line counts the starts up to the
offset. -/
theorem counts_lineOf {index : LineIndex} (ascending : index.starts.toList.Pairwise (· < ·))
    (offset : Nat) : Counts index.starts offset (index.lineOf offset) := by
  unfold lineOf
  cases ended : search index.starts offset 0 index.starts.size with
  | found place => exact counts_of_found ascending (Nat.le_refl _) ended
  | missing place =>
      exact counts_of_missing ascending (Nat.zero_le _) (Nat.le_refl _) (by omega) (by omega) ended

theorem lt_lineOf_iff {index : LineIndex}
    (ascending : index.starts.toList.Pairwise (· < ·)) (offset : Nat) {number : Nat}
    (known : number < index.starts.size) :
    number < index.lineOf offset ↔ index.starts.getD number 0 ≤ offset :=
  (counts_lineOf ascending offset).upTo number known

/-- An offset at or behind a line start has a larger number than one before it. -/
theorem lineOf_lt_of_start_between {index : LineIndex}
    (ascending : index.starts.toList.Pairwise (· < ·)) {start low high : Nat}
    (known : start ∈ index.starts.toList) (before : low < start) (upTo : start ≤ high) :
    index.lineOf low < index.lineOf high := by
  obtain ⟨number, inside, rfl⟩ := List.mem_iff_getElem.mp known
  rw [Array.length_toList] at inside
  rw [Array.getElem_toList] at before upTo
  have value : index.starts.getD number 0 = index.starts[number] := by
    rw [Array.getD_eq_getD_getElem?, Array.getElem?_eq_getElem inside]
    rfl
  have notLow : ¬number < index.lineOf low := by
    rw [lt_lineOf_iff ascending low inside, value]
    omega
  have toHigh := (lt_lineOf_iff ascending high inside).mpr (value ▸ upTo)
  omega

end LineIndex

/-! ### Lines one after the other -/

private theorem le_offset_linesFrom (offset : Nat) (before : Option Char) (content text : List Char) :
    ∀ line, line ∈ linesFrom offset before content text → offset ≤ line.offset := by
  fun_induction linesFrom offset before content text with
  | case1 offset before content =>
      intro line member
      cases List.mem_singleton.mp member
      exact Nat.le_refl _
  | case2 offset before content rest ih =>
      intro line member
      rcases List.mem_cons.mp member with rfl | later
      · exact Nat.le_refl _
      · have bound := ih line later
        omega
  | case3 offset before content c rest notPair breaks ih =>
      intro line member
      rcases List.mem_cons.mp member with rfl | later
      · exact Nat.le_refl _
      · have bound := ih line later
        omega
  | case4 offset before content c rest notPair plain ih => exact ih

private theorem linesFrom_pairwise (offset : Nat) (before : Option Char)
    (content text : List Char) :
    (linesFrom offset before content text).Pairwise fun left right =>
      left.stop < right.offset := by
  fun_induction linesFrom offset before content text with
  | case1 offset before content => exact List.pairwise_singleton _ _
  | case2 offset before content rest ih =>
      refine List.Pairwise.cons ?_ ih
      intro line later
      have bound := le_offset_linesFrom _ _ _ _ line later
      simp only [Line.stop]
      omega
  | case3 offset before content c rest notPair breaks ih =>
      refine List.Pairwise.cons ?_ ih
      intro line later
      have bound := le_offset_linesFrom _ _ _ _ line later
      have positive := c.utf8Size_pos
      simp only [Line.stop]
      omega
  | case4 offset before content c rest notPair plain ih => exact ih

/-- Each line of a text ends before the next begins. -/
theorem lines_pairwise (text : String) :
    (lines text).Pairwise fun left right => left.stop < right.offset :=
  linesFrom_pairwise 0 none [] text.toList

theorem starts_pairwise (text : String) :
    (LineIndex.ofText text.toList).starts.toList.Pairwise (· < ·) := by
  rw [← offset_lines, List.pairwise_map]
  refine (lines_pairwise text).imp ?_
  intro left right apart
  exact Nat.lt_of_le_of_lt (Nat.le_add_right _ _) apart

theorem le_offset_placesFrom (offset : Nat) (before : Char) (content : List Char) :
    ∀ place, place ∈ placesFrom offset before content → offset ≤ place.offset := by
  induction content generalizing offset before with
  | nil =>
      intro place member
      cases List.mem_singleton.mp member
      exact Nat.le_refl _
  | cons c rest ih =>
      intro place member
      rcases List.mem_cons.mp member with rfl | later
      · exact Nat.le_refl _
      · have bound := ih _ _ place later
        omega

theorem Line.offset_le_of_mem_places {line : Line} {place : Place} (member : place ∈ line.places) :
    line.offset ≤ place.offset := by
  obtain ⟨offset, before, content⟩ := line
  cases before with
  | some before => exact le_offset_placesFrom _ _ _ place member
  | none =>
      cases content with
      | nil => cases member
      | cons c rest =>
          exact Nat.le_trans (Nat.le_add_right _ _) (le_offset_placesFrom _ _ _ place member)

/-- The places of a line have smaller numbers than those of every line that follows it. -/
theorem lineOf_lt_of_stop_lt {text : String} {left right : Line} (known : right ∈ lines text)
    (apart : left.stop < right.offset) {earlier later : Place} (inLeft : earlier ∈ left.places)
    (inRight : later ∈ right.places) :
    (LineIndex.ofText text.toList).lineOf earlier.offset <
      (LineIndex.ofText text.toList).lineOf later.offset := by
  have ends := (Line.places_suffix inLeft).2
  have begins : right.offset ∈ (LineIndex.ofText text.toList).starts.toList := by
    rw [← offset_lines]
    exact List.mem_map_of_mem known
  exact LineIndex.lineOf_lt_of_start_between (starts_pairwise text) begins (by omega)
    (Line.offset_le_of_mem_places inRight)

end Waymark.Text
