import Waymark.Proofs.Text.CaseFold
import Waymark.Text.Class

set_option autoImplicit false

/-! Case and words. Folding keeps whether a character is part of a word, and the uppercase form of a
character that is not has none that is. Both are found by going through the case tables, by whole
runs where a run is inside one range of word characters. Only few of these ranges have characters
with case, and the runs are looked up among those. -/

namespace Waymark.Text

/-- Whether all points from `low` to `high` are in one of some ascending ranges. -/
noncomputable def spanInRanges (low high : Nat) (ranges : List (Nat × Nat)) : Bool :=
  -- By the recursor, as the search in the tables that this is used with.
  List.rec (motive := fun _ => Bool) false
    (fun range _ rest =>
      Bool.rec (motive := fun _ => Bool)
        (Bool.rec (motive := fun _ => Bool) rest true (Nat.ble high range.2)) false
        (Nat.ble (Nat.succ low) range.1))
    ranges

theorem spanInRanges_cons (low high : Nat) (range : Nat × Nat) (ranges : List (Nat × Nat)) :
    spanInRanges low high (range :: ranges) =
      if low < range.1 then false else high ≤ range.2 || spanInRanges low high ranges := by
  change Bool.rec (motive := fun _ => Bool)
    (Bool.rec (motive := fun _ => Bool) (spanInRanges low high ranges) true
      (Nat.ble high range.2)) false (Nat.ble (Nat.succ low) range.1) = _
  have started : Nat.ble (Nat.succ low) range.1 = decide (low < range.1) := by
    rw [Bool.eq_iff_iff, Nat.ble_eq, decide_eq_true_eq, Nat.succ_le_iff]
  have ended : Nat.ble high range.2 = decide (high ≤ range.2) := by
    rw [Bool.eq_iff_iff, Nat.ble_eq, decide_eq_true_eq]
  rw [started, ended]
  by_cases before : low < range.1
  · simp [before]
  · by_cases within : high ≤ range.2 <;> simp [before, within]

theorem inRanges_of_span {low high : Nat} {ranges : List (Nat × Nat)}
    (inside : spanInRanges low high ranges = true) {point : Nat} (above : low ≤ point)
    (below : point ≤ high) : inRanges ranges point = true := by
  induction ranges with
  | nil => cases inside
  | cons range rest ih =>
      rw [spanInRanges_cons] at inside
      split at inside
      · cases inside
      · rename_i started
        have after : ¬point < range.1 := by omega
        unfold inRanges
        rw [if_neg after, Bool.or_eq_true, decide_eq_true_eq]
        rcases Bool.or_eq_true_iff.mp inside with within | later
        · exact Or.inl (Nat.le_trans below (of_decide_eq_true within))
        · exact Or.inr (ih later)

theorem spanInRanges_self (ranges : List (Nat × Nat)) (point : Nat) :
    spanInRanges point point ranges = inRanges ranges point := by
  induction ranges with
  | nil => rfl
  | cons range rest ih =>
      rw [spanInRanges_cons, ih]
      rfl

/-! ### The tables, entry by entry -/

/-- The ranges of word characters in which case mappings begin and end. -/
def casedRanges : List (Nat × Nat) :=
  [(0x41, 0x5A), (0x61, 0x7A), (0xB5, 0xB5), (0xC0, 0xD6), (0xD8, 0xF6), (0xF8, 0x2C1),
   (0x300, 0x374), (0x376, 0x377), (0x37A, 0x37D), (0x37F, 0x37F), (0x386, 0x386),
   (0x388, 0x38A), (0x38C, 0x38C), (0x38E, 0x3A1), (0x3A3, 0x3F5), (0x3F7, 0x481),
   (0x483, 0x52F), (0x531, 0x556), (0x560, 0x588), (0x10A0, 0x10C5), (0x10C7, 0x10C7),
   (0x10CD, 0x10CD), (0x10D0, 0x10FA), (0x10FC, 0x1248), (0x13A0, 0x13F5), (0x13F8, 0x13FD),
   (0x1C80, 0x1C8A), (0x1C90, 0x1CBA), (0x1CBD, 0x1CBF), (0x1D00, 0x1F15), (0x1F18, 0x1F1D),
   (0x1F20, 0x1F45), (0x1F48, 0x1F4D), (0x1F50, 0x1F57), (0x1F59, 0x1F59), (0x1F5B, 0x1F5B),
   (0x1F5D, 0x1F5D), (0x1F5F, 0x1F7D), (0x1F80, 0x1FB4), (0x1FB6, 0x1FBC), (0x1FBE, 0x1FBE),
   (0x1FC2, 0x1FC4), (0x1FC6, 0x1FCC), (0x1FD0, 0x1FD3), (0x1FD6, 0x1FDB), (0x1FE0, 0x1FEC),
   (0x1FF2, 0x1FF4), (0x1FF6, 0x1FFC), (0x2126, 0x2126), (0x212A, 0x212D), (0x212F, 0x2139),
   (0x214E, 0x214E), (0x2160, 0x2188), (0x24B6, 0x24E9), (0x2C00, 0x2CE4), (0x2CEB, 0x2CF3),
   (0x2D00, 0x2D25), (0x2D27, 0x2D27), (0x2D2D, 0x2D2D), (0xA640, 0xA672), (0xA67F, 0xA6F1),
   (0xA722, 0xA788), (0xA78B, 0xA7CD), (0xA7D0, 0xA7D1), (0xA7D3, 0xA7D3), (0xA7D5, 0xA7DC),
   (0xA7F2, 0xA827), (0xAB30, 0xAB5A), (0xAB70, 0xABEA), (0xFB00, 0xFB06), (0xFB13, 0xFB17),
   (0xFF21, 0xFF3A), (0xFF41, 0xFF5A), (0x10400, 0x1049D), (0x104B0, 0x104D3),
   (0x104D8, 0x104FB), (0x10570, 0x1057A), (0x1057C, 0x1058A), (0x1058C, 0x10592),
   (0x10594, 0x10595), (0x10597, 0x105A1), (0x105A3, 0x105B1), (0x105B3, 0x105B9),
   (0x105BB, 0x105BC), (0x10C80, 0x10CB2), (0x10CC0, 0x10CF2), (0x10D40, 0x10D65),
   (0x10D6F, 0x10D85), (0x118A0, 0x118E9), (0x16E40, 0x16E7F), (0x1E900, 0x1E94B)]

def areAmong : List (Nat × Nat) → List (Nat × Nat) → Bool
  | [], _ => true
  | _ :: _, [] => false
  | range :: rest, other :: others =>
      if range = other then areAmong rest others
      else other.1 ≤ range.1 && areAmong (range :: rest) others

theorem inRanges_of_areAmong {ranges others : List (Nat × Nat)}
    (among : areAmong ranges others = true) {point : Nat} (inside : inRanges ranges point = true) :
    inRanges others point = true := by
  fun_induction areAmong ranges others with
  | case1 => cases inside
  | case2 => cases among
  | case3 range rest others ih =>
      unfold inRanges at inside ⊢
      split at inside
      · cases inside
      · rename_i started
        rw [if_neg started, Bool.or_eq_true]
        rcases Bool.or_eq_true_iff.mp inside with within | later
        · exact Or.inl within
        · exact Or.inr (ih among later)
  | case4 range rest other others different ih =>
      obtain ⟨earlier, further⟩ := Bool.and_eq_true_iff.mp among
      have before : other.1 ≤ range.1 := of_decide_eq_true earlier
      have found := ih further inside
      unfold inRanges at inside ⊢
      split at inside
      · cases inside
      · rename_i started
        have after : ¬point < other.1 := by omega
        rw [if_neg after, found, Bool.or_true]

private noncomputable def foldsWords (shift : CaseShift) : Bool :=
  spanInRanges shift.first shift.last casedRanges &&
      spanInRanges (shift.move shift.first) (shift.move shift.last) casedRanges ||
    shift.points.all fun point =>
      spanInRanges point point casedRanges &&
        spanInRanges (shift.move point) (shift.move point) casedRanges

private noncomputable def keepsOther (shift : CaseShift) : Bool :=
  spanInRanges shift.first shift.last casedRanges ||
    shift.points.all fun point =>
      spanInRanges point point casedRanges ||
        !spanInRanges (shift.move point) (shift.move point) wordRanges

private def basicWord (point : Nat) : Bool :=
  isWord (Char.ofNat point) == inRanges wordRanges point

private structure TablesChecked : Prop where
  cased : areAmong casedRanges wordRanges = true
  basic : (List.range 128).all basicWord = true
  folds : foldShifts.all foldsWords = true
  uppers : upperShifts.all keepsOther = true
  expansions : (upperExpansions.all fun entry => spanInRanges entry.1 entry.1 casedRanges) = true

private theorem tablesChecked : TablesChecked := by
  -- One evaluation for all of them.
  have all : areAmong casedRanges wordRanges = true ∧ (List.range 128).all basicWord = true ∧
      foldShifts.all foldsWords = true ∧ upperShifts.all keepsOther = true ∧
      (upperExpansions.all fun entry => spanInRanges entry.1 entry.1 casedRanges) = true := by
    decide +kernel
  obtain ⟨cased, basic, folds, uppers, expansions⟩ := all
  exact ⟨cased, basic, folds, uppers, expansions⟩

theorem inRanges_of_cased {low high : Nat} (cased : spanInRanges low high casedRanges = true)
    {point : Nat} (above : low ≤ point) (below : point ≤ high) :
    inRanges wordRanges point = true :=
  inRanges_of_areAmong tablesChecked.cased (inRanges_of_span cased above below)

theorem isWord_eq (c : Char) : isWord c = inRanges wordRanges c.toNat := by
  by_cases low : c.toNat < 128
  · have checked := List.all_eq_true.mp tablesChecked.basic c.toNat (List.mem_range.mpr low)
    have same := beq_iff_eq.mp checked
    rwa [Char.ofNat_toNat] at same
  · unfold isWord
    rw [if_neg low]

theorem isWord_ofNat {point : Nat} (valid : point.isValidChar) :
    isWord (Char.ofNat point) = inRanges wordRanges point := by
  rw [isWord_eq, toNat_ofNat_of_valid valid]

/-! ### Folding -/

theorem inRanges_target_fold (point : Nat) :
    inRanges wordRanges (CaseShift.target foldShifts point) = inRanges wordRanges point := by
  rcases CaseShift.target_cases foldShifts point with stays | ⟨shift, known, covered, moved⟩
  · rw [stays]
  · have checked := List.all_eq_true.mp tablesChecked.folds shift known
    obtain ⟨above, below, _⟩ := (shift.covers_iff point).mp covered
    rw [moved]
    rcases Bool.or_eq_true_iff.mp checked with spans | each
    · obtain ⟨span, moves⟩ := Bool.and_eq_true_iff.mp spans
      rw [inRanges_of_cased span above below,
        inRanges_of_cased moves (shift.move_mono above) (shift.move_mono below)]
    · have both := List.all_eq_true.mp each point (CaseShift.mem_points_of_covers covered)
      obtain ⟨here, there⟩ := Bool.and_eq_true_iff.mp both
      rw [inRanges_of_cased here (Nat.le_refl _) (Nat.le_refl _),
        inRanges_of_cased there (Nat.le_refl _) (Nat.le_refl _)]

theorem isWord_foldChar (c : Char) : isWord (foldChar c) = isWord c := by
  rw [foldChar_eq, isWord_ofNat (target_fold_valid c), inRanges_target_fold, isWord_eq]

/-- Characters that differ at most in case are both part of a word or neither is. -/
theorem isWord_of_sameChar {matchCase : Bool} {a b : Char} (same : sameChar matchCase a b = true) :
    isWord a = isWord b := by
  unfold sameChar sameFold at same
  cases matchCase with
  | true => rw [beq_iff_eq.mp same]
  | false =>
      rcases Bool.or_eq_true_iff.mp same with equal | folded
      · rw [beq_iff_eq.mp equal]
      · rw [← isWord_foldChar a, beq_iff_eq.mp folded, isWord_foldChar]

/-! ### Uppercase forms -/

private theorem inRanges_upperPoints {point upper : Nat}
    (other : inRanges wordRanges point = false) (member : upper ∈ upperPoints point) :
    inRanges wordRanges upper = false := by
  rcases upperBy_cases point with ⟨points, entry, _⟩ | stays | ⟨shift, known, covered, moved⟩
  · have word := List.all_eq_true.mp tablesChecked.expansions _ entry
    rw [inRanges_of_cased word (Nat.le_refl _) (Nat.le_refl _)] at other
    cases other
  · rw [stays, List.mem_singleton] at member
    rw [member, other]
  · rw [moved, List.mem_singleton] at member
    have checked := List.all_eq_true.mp tablesChecked.uppers shift known
    obtain ⟨above, below, _⟩ := (shift.covers_iff point).mp covered
    rcases Bool.or_eq_true_iff.mp checked with span | each
    · rw [inRanges_of_cased span above below] at other
      cases other
    · have kept := List.all_eq_true.mp each point (CaseShift.mem_points_of_covers covered)
      rcases Bool.or_eq_true_iff.mp kept with cased | outside
      · rw [inRanges_of_cased cased (Nat.le_refl _) (Nat.le_refl _)] at other
        cases other
      · rw [spanInRanges_self, Bool.not_eq_true'] at outside
        rw [member, outside]

/-- A character that is not part of a word has an uppercase form without such characters. -/
theorem isWord_of_mem_upperChar {c upper : Char} (other : isWord c = false)
    (member : upper ∈ upperChar c) : isWord upper = false := by
  rw [isWord_eq] at other
  rw [upperChar_eq] at member
  obtain ⟨point, known, rfl⟩ := List.mem_map.mp member
  by_cases valid : point.isValidChar
  · rw [isWord_ofNat valid, inRanges_upperPoints other known]
  · have null : Char.ofNat point = Char.ofNat 0 := by
      unfold Char.ofNat
      rw [dif_neg valid]
      rfl
    rw [null]
    decide

end Waymark.Text
