import Mathlib.Order.Monotone.Defs
import Mathlib.Order.Nat
import Waymark.Proofs.Text.LineNumber

set_option autoImplicit false

/-! Line numbers count line breaks. Whether a break ends at a place can be seen from the characters on
its two sides, so the breaks are found without keeping track of the line. The line starts are the
places where they end, and bisection among these counts the breaks up to an offset. -/

namespace Waymark.Text

def cutsFrom (before : List Char) : List Char → List (List Char × List Char)
  | [] => [(before, [])]
  | c :: rest => (before, c :: rest) :: cutsFrom (before ++ [c]) rest

/-- Whether a line break ends where a text is cut. A carriage return ends none if a line feed follows,
since that belongs to the same break. -/
def endsBreak (before after : List Char) : Bool :=
  before.getLast? == some '\n' || (before.getLast? == some '\r' && after.head? != some '\n')

def breakStopsFrom (before text : List Char) : List Nat :=
  ((cutsFrom before text).filter fun cut => endsBreak cut.1 cut.2).map fun cut => byteLength cut.1

def breakStops (text : String) : List Nat := breakStopsFrom [] text.toList

/-! ### Breaks and line starts -/

theorem breakStopsFrom_cons (before : List Char) (c : Char) (rest : List Char) :
    breakStopsFrom before (c :: rest) =
      (if endsBreak before (c :: rest) then [byteLength before] else []) ++
        breakStopsFrom (before ++ [c]) rest := by
  unfold breakStopsFrom
  rw [cutsFrom, List.filter_cons]
  split <;> rfl

/-- Unless a carriage return and its line feed are torn apart, a break ends behind every character
that ends lines. -/
theorem endsBreak_concat (before : List Char) {c : Char} {rest : List Char}
    (notPair : ∀ more, c = '\r' → rest = '\n' :: more → False) :
    endsBreak (before ++ [c]) rest = isBreak c := by
  unfold endsBreak isBreak
  rw [List.getLast?_concat]
  by_cases carriageReturn : c = '\r'
  · have noLineFeed : rest.head? ≠ some '\n' := by
      intro follows
      obtain ⟨more, same⟩ := List.head?_eq_some_iff.mp follows
      exact notPair more carriageReturn same
    simp [carriageReturn, noLineFeed]
  · rw [beq_eq_false_iff_ne.mpr fun same => carriageReturn (Option.some.inj same),
      beq_eq_false_iff_ne.mpr carriageReturn, Bool.false_and, Bool.or_false, Bool.false_or]
    rfl

/-- The breaks of the rest of a text end where its lines begin, and one may end right before it. -/
theorem breakStopsFrom_eq (before text : List Char) :
    breakStopsFrom before text =
      (if endsBreak before text then [byteLength before] else []) ++
        lineStartsFrom (byteLength before) text := by
  generalize place : byteLength before = offset
  fun_induction lineStartsFrom offset text generalizing before with
  | case1 offset =>
      rw [breakStopsFrom, cutsFrom, List.filter_cons, place.symm]
      split <;> rfl
  | case2 offset rest ih =>
      have between : endsBreak (before ++ ['\r']) ('\n' :: rest) = false := by simp [endsBreak]
      have behind : endsBreak (before ++ ['\r'] ++ ['\n']) rest = true := by simp [endsBreak]
      have stop : byteLength (before ++ ['\r'] ++ ['\n']) = offset + 2 := by
        rw [byteLength_append, byteLength_append, place]
        rfl
      rw [breakStopsFrom_cons, breakStopsFrom_cons, between, ih _ stop, behind, place]
      rfl
  | case3 offset c rest notPair next breaks ih =>
      have stop : byteLength (before ++ [c]) = next := by
        rw [byteLength_append, place]
        rfl
      rw [breakStopsFrom_cons, ih _ stop, endsBreak_concat before notPair, if_pos breaks, place]
      rfl
  | case4 offset c rest notPair next plain ih =>
      have stop : byteLength (before ++ [c]) = next := by
        rw [byteLength_append, place]
        rfl
      rw [breakStopsFrom_cons, ih _ stop, endsBreak_concat before notPair, if_neg plain, place]
      rfl

/-- Behind the start of the first line, the lines of a text begin where its breaks end. -/
theorem starts_eq (text : String) :
    (LineIndex.ofText text.toList).starts.toList = 0 :: breakStops text := by
  rw [breakStops, breakStopsFrom_eq]
  rfl

/-! ### Counting -/

theorem countP_eq_of_lt_iff {items : List Nat} {has : Nat → Bool} {count : Nat}
    (bound : count ≤ items.length)
    (counted : ∀ i (inside : i < items.length), i < count ↔ has items[i] = true) :
    items.countP has = count := by
  have first : (items.take count).countP has = count := by
    have all : ∀ item, item ∈ items.take count → has item = true := by
      intro item member
      obtain ⟨i, inside, rfl⟩ := List.mem_iff_getElem.mp member
      rw [List.length_take] at inside
      rw [List.getElem_take]
      exact (counted i (by omega)).mp (by omega)
    rw [List.countP_eq_length.mpr all, List.length_take, Nat.min_eq_left bound]
  have others : (items.drop count).countP has = 0 := by
    apply List.countP_eq_zero.mpr
    intro item member
    obtain ⟨i, inside, rfl⟩ := List.mem_iff_getElem.mp member
    rw [List.length_drop] at inside
    rw [List.getElem_drop]
    exact mt (counted (count + i) (by omega)).mpr (by omega)
  rw [← List.take_append_drop count items, List.countP_append, first, others, Nat.add_zero]

namespace LineIndex

/-- Among ascending line starts, bisection counts those up to an offset. -/
theorem lineOf_eq_countP {index : LineIndex} (ascending : index.starts.toList.Pairwise (· < ·))
    (offset : Nat) : index.lineOf offset = index.starts.toList.countP (· ≤ offset) := by
  refine (countP_eq_of_lt_iff ?_ ?_).symm
  · rw [Array.length_toList]
    exact (counts_lineOf ascending offset).within
  · intro number inside
    rw [Array.length_toList] at inside
    rw [lt_lineOf_iff ascending offset inside, Array.getElem_toList, Array.getD_eq_getD_getElem?,
      Array.getElem?_eq_getElem inside, Option.getD_some, decide_eq_true_iff]

end LineIndex

/-- The number of the line at an offset is one more than the number of breaks that end at or before
it. The line starts ascend, so that bisection tells the starts up to an offset from the others; and
a larger offset is on no earlier line. -/
theorem lineOf_counts_breaks (text : String) :
    let index := LineIndex.ofText text.toList
    (∀ offset, index.lineOf offset = 1 + (breakStops text).countP (· ≤ offset)) ∧
      index.starts.toList.Pairwise (· < ·) ∧
      (∀ offset number start, index.starts[number]? = some start →
        (number < index.lineOf offset ↔ start ≤ offset)) ∧
      Monotone index.lineOf := by
  intro index
  have ascending : index.starts.toList.Pairwise (· < ·) := starts_pairwise text
  have counts (offset : Nat) : index.lineOf offset = 1 + (breakStops text).countP (· ≤ offset) := by
    rw [LineIndex.lineOf_eq_countP ascending, starts_eq, List.countP_cons_of_pos (by simp),
      Nat.add_comm]
  refine ⟨counts, ascending, ?_, ?_⟩
  · intro offset number start found
    obtain ⟨inside, rfl⟩ := Array.getElem?_eq_some_iff.mp found
    rw [LineIndex.lt_lineOf_iff ascending offset inside, Array.getD_eq_getD_getElem?, found,
      Option.getD_some]
  · intro low high less
    rw [counts, counts]
    refine Nat.add_le_add_left (List.countP_mono_left ?_) 1
    intro stop _ upTo
    simp only [decide_eq_true_eq] at upTo ⊢
    exact Nat.le_trans upTo less

example : breakStops "a\r\nb\r\rc\n" = [3, 5, 6, 8] := by decide

end Waymark.Text
