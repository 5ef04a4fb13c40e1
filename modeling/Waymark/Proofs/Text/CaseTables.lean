import Mathlib.Data.List.Basic
import Waymark.Text.Case

set_option autoImplicit false

/-! Two facts about the case tables, found by going through all their entries. An uppercase form is
its own uppercase form. A character and its folded form have the same uppercase form, except for five
characters: the Kelvin, Angstrom and Ohm signs, the capital theta symbol and the capital sharp s. -/

namespace Waymark.Text

/-! ### Looking up in a part of a table -/

/-- The entries of a table whose points meet those from `low` to `high`. -/
noncomputable def restrict {α : Type} (first last : α → Nat) (low high : Nat) (table : List α) :
    List α :=
  -- The recursor is evaluated many times faster than a recursive definition, and the tables are
  -- searched once for each of their entries.
  List.rec (motive := fun _ => List α) []
    (fun entry _ rest =>
      Bool.rec (motive := fun _ => List α) rest (entry :: rest)
        (Nat.beq (Nat.add (Nat.sub low (last entry)) (Nat.sub (first entry) high)) 0))
    table

theorem restrict_eq_filter {α : Type} (first last : α → Nat) (low high : Nat) (table : List α) :
    restrict first last low high table =
      table.filter fun entry => low ≤ last entry ∧ first entry ≤ high := by
  induction table with
  | nil => rfl
  | cons entry rest ih =>
      have test : Nat.beq (Nat.add (Nat.sub low (last entry)) (Nat.sub (first entry) high)) 0 =
          decide (low ≤ last entry ∧ first entry ≤ high) := by
        rw [Bool.eq_iff_iff, Nat.beq_eq, decide_eq_true_eq]
        change low - last entry + (first entry - high) = 0 ↔ _
        omega
      change Bool.rec (motive := fun _ => List α) (restrict first last low high rest)
        (entry :: restrict first last low high rest)
        (Nat.beq (Nat.add (Nat.sub low (last entry)) (Nat.sub (first entry) high)) 0) = _
      rw [test, ih, List.filter_cons]
      cases decide (low ≤ last entry ∧ first entry ≤ high) <;> rfl

namespace CaseShift

theorem covers_iff (shift : CaseShift) (point : Nat) :
    shift.covers point = true ↔
      shift.first ≤ point ∧ point ≤ shift.last ∧ (point - shift.first) % shift.step = 0 := by
  simp [covers, and_assoc]

theorem target_restrict (shifts : List CaseShift) {low high point : Nat} (above : low ≤ point)
    (below : point ≤ high) :
    target (restrict CaseShift.first CaseShift.last low high shifts) point =
      target shifts point := by
  unfold target
  rw [restrict_eq_filter, List.find?_filter]
  have same : (fun shift : CaseShift => decide (decide (low ≤ shift.last ∧ shift.first ≤ high) =
      true ∧ shift.covers point = true)) = (·.covers point) := by
    funext shift
    rw [Bool.eq_iff_iff, decide_eq_true_eq, decide_eq_true_eq, and_iff_right_iff_imp, covers_iff]
    omega
  rw [same]

def move (shift : CaseShift) (point : Nat) : Nat := (Int.ofNat point + shift.distance).toNat

theorem target_cases (shifts : List CaseShift) (point : Nat) :
    target shifts point = point ∨
      ∃ shift, shift ∈ shifts ∧ shift.covers point = true ∧
        target shifts point = shift.move point := by
  unfold target
  cases found : shifts.find? (·.covers point) with
  | none => exact Or.inl rfl
  | some shift =>
      have covered := List.find?_some found
      exact Or.inr ⟨shift, List.mem_of_find?_eq_some found, covered, rfl⟩

def points (shift : CaseShift) : List Nat :=
  (List.range ((shift.last - shift.first) / shift.step + 1)).map fun index =>
    shift.first + shift.step * index

theorem mem_points_of_covers {shift : CaseShift} {point : Nat} (covered : shift.covers point = true) :
    point ∈ shift.points := by
  obtain ⟨above, below, divides⟩ := (shift.covers_iff point).mp covered
  refine List.mem_map.mpr ⟨(point - shift.first) / shift.step, ?_, ?_⟩
  · have quotient : (point - shift.first) / shift.step ≤ (shift.last - shift.first) / shift.step :=
      Nat.div_le_div_right (Nat.sub_le_sub_right below _)
    exact List.mem_range.mpr (Nat.lt_succ_of_le quotient)
  · have divided := Nat.div_add_mod (point - shift.first) shift.step
    omega

end CaseShift

theorem lookup_restrict {α : Type} (table : List (Nat × α)) {low high point : Nat}
    (above : low ≤ point) (below : point ≤ high) :
    (restrict Prod.fst Prod.fst low high table).lookup point = table.lookup point := by
  rw [restrict_eq_filter]
  induction table with
  | nil => rfl
  | cons entry rest ih =>
      obtain ⟨key, value⟩ := entry
      by_cases same : point = key
      · subst same
        rw [List.filter_cons_of_pos (by simp [above, below]), List.lookup_cons, List.lookup_cons]
        simp
      · have differs : (point == key) = false := by simpa using same
        rw [List.filter_cons, List.lookup_cons, differs]
        split
        · rw [List.lookup_cons, differs]
          exact ih
        · exact ih

/-! ### Case by code point -/

def upperBy (shifts : List CaseShift) (expansions : List (Nat × List Nat)) (point : Nat) : List Nat :=
  (expansions.lookup point).getD [CaseShift.target shifts point]

def upperPoints (point : Nat) : List Nat := upperBy upperShifts upperExpansions point

/-- The uppercase form by the entries for the code points from `low` to `high`. -/
noncomputable def upperBetween (low high point : Nat) : List Nat :=
  upperBy (restrict CaseShift.first CaseShift.last low high upperShifts)
    (restrict Prod.fst Prod.fst low high upperExpansions) point

theorem upperBetween_eq {low high point : Nat} (above : low ≤ point) (below : point ≤ high) :
    upperBetween low high point = upperPoints point := by
  unfold upperBetween upperPoints upperBy
  rw [CaseShift.target_restrict upperShifts above below, lookup_restrict upperExpansions above below]

theorem upperBy_cases (point : Nat) :
    (∃ points, (point, points) ∈ upperExpansions ∧ upperPoints point = points) ∨
      upperPoints point = [point] ∨
      ∃ shift, shift ∈ upperShifts ∧ shift.covers point = true ∧
        upperPoints point = [shift.move point] := by
  unfold upperPoints upperBy
  cases found : upperExpansions.lookup point with
  | some points =>
      obtain ⟨before, after, split, _⟩ := List.lookup_eq_some_iff.mp found
      exact Or.inl ⟨points, by rw [split]; simp, rfl⟩
  | none =>
      rcases CaseShift.target_cases upperShifts point with stays | ⟨shift, member, covered, moved⟩
      · exact Or.inr (Or.inl (by rw [stays]; rfl))
      · exact Or.inr (Or.inr ⟨shift, member, covered, by rw [moved]; rfl⟩)

theorem CaseShift.move_mono (shift : CaseShift) {low high : Nat} (below : low ≤ high) :
    shift.move low ≤ shift.move high := by
  unfold move
  have moved : Int.ofNat low + shift.distance ≤ Int.ofNat high + shift.distance :=
    Int.add_le_add_right (Int.ofNat_le.mpr below) _
  exact Int.toNat_le_toNat moved

/-! ### The tables, entry by entry -/

private noncomputable def movesToUpper (shift : CaseShift) : Bool :=
  shift.points.all fun point =>
    upperBetween (shift.move shift.first) (shift.move shift.last) (shift.move point) =
      [shift.move point]

private theorem upperShifts_movesToUpper : upperShifts.all movesToUpper = true := by
  decide +kernel

private theorem upperExpansions_upper :
    (upperExpansions.all fun entry =>
      entry.2.all fun point => upperBetween point point point = [point]) = true := by
  decide +kernel

theorem upperPoints_of_mem {point upper : Nat} (member : upper ∈ upperPoints point) :
    upperPoints upper = [upper] := by
  rcases upperBy_cases point with ⟨points, entry, found⟩ | stays | ⟨shift, known, covered, moved⟩
  · rw [found] at member
    have checked := List.all_eq_true.mp upperExpansions_upper _ entry
    have fixed := of_decide_eq_true (List.all_eq_true.mp checked upper member)
    rw [upperBetween_eq (Nat.le_refl _) (Nat.le_refl _)] at fixed
    exact fixed
  · rw [stays, List.mem_singleton] at member
    subst member
    exact stays
  · rw [moved, List.mem_singleton] at member
    subst member
    have checked := List.all_eq_true.mp upperShifts_movesToUpper shift known
    have fixed := of_decide_eq_true
      (List.all_eq_true.mp checked point (CaseShift.mem_points_of_covers covered))
    obtain ⟨above, below, _⟩ := (shift.covers_iff point).mp covered
    rw [upperBetween_eq (shift.move_mono above) (shift.move_mono below)] at fixed
    exact fixed

private theorem upperExpansions_ne_nil : ∀ entry, entry ∈ upperExpansions → entry.2 ≠ [] := by
  decide +kernel

theorem upperPoints_ne_nil (point : Nat) : upperPoints point ≠ [] := by
  rcases upperBy_cases point with ⟨points, entry, found⟩ | stays | ⟨shift, _, _, moved⟩
  · rw [found]
    exact upperExpansions_ne_nil _ entry
  · rw [stays]
    exact List.cons_ne_nil _ _
  · rw [moved]
    exact List.cons_ne_nil _ _

/-- The code points whose folded form has another uppercase form. -/
def foldedApart : List Nat := [0x3F4, 0x1E9E, 0x2126, 0x212A, 0x212B]

private noncomputable def foldsWithUpper (shift : CaseShift) : Bool :=
  shift.points.all fun point =>
    foldedApart.contains point ||
      upperBetween (shift.move shift.first) (shift.move shift.last) (shift.move point) =
        upperBetween shift.first shift.last point

private theorem foldShifts_foldsWithUpper : foldShifts.all foldsWithUpper = true := by
  decide +kernel

theorem upperPoints_fold {point : Nat} (agrees : point ∉ foldedApart) :
    upperPoints (CaseShift.target foldShifts point) = upperPoints point := by
  rcases CaseShift.target_cases foldShifts point with stays | ⟨shift, known, covered, moved⟩
  · rw [stays]
  · rw [moved]
    have checked := List.all_eq_true.mp foldShifts_foldsWithUpper shift known
    have same := List.all_eq_true.mp checked point (CaseShift.mem_points_of_covers covered)
    rw [Bool.or_eq_true, List.contains_iff_mem] at same
    have equal := of_decide_eq_true (same.resolve_left agrees)
    obtain ⟨above, below, _⟩ := (shift.covers_iff point).mp covered
    rw [upperBetween_eq (shift.move_mono above) (shift.move_mono below),
      upperBetween_eq above below] at equal
    exact equal

end Waymark.Text
