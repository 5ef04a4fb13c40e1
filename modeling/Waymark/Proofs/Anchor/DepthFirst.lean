import Mathlib.Data.List.Nodup
import Mathlib.Logic.Relation
import Waymark.Anchor.Forest

set_option autoImplicit false

/-! Walking from any anchors of a forest, whatever is below them: an anchor can be named twice, or
be below another one that is named, or below itself. The walk with a list of waiting anchors is the
recursion that skips what has been seen. It meets what can be reached, each anchor once. -/

namespace Waymark.Forest

def Reaches (forest : Forest) : Nat → Nat → Prop :=
  Relation.ReflTransGen fun upper lower => lower ∈ forest.children upper

def unseen (forest : Forest) (seen : List Nat) : List Nat :=
  (List.range forest.size).filter (· ∉ seen)

section Unseen

variable {forest : Forest} {seen more : List Nat} {id : Nat}

theorem mem_unseen_iff : id ∈ forest.unseen seen ↔ id < forest.size ∧ id ∉ seen := by
  rw [unseen, List.mem_filter, List.mem_range, decide_eq_true_iff]

theorem unseen_congr (same : ∀ id, id ∈ seen ↔ id ∈ more) :
    forest.unseen seen = forest.unseen more :=
  List.filter_congr fun id _ => by simp only [same id]

theorem erase_unseen : (forest.unseen seen).erase id = forest.unseen (id :: seen) := by
  rw [unseen, unseen, (List.nodup_range.filter _).erase_eq_filter, List.filter_filter]
  apply List.filter_congr
  intro other _
  rw [Bool.eq_iff_iff]
  simp

theorem length_unseen_lt (fresh : id < forest.size ∧ id ∉ seen) (added : id ∈ more)
    (kept : ∀ other, other ∈ seen → other ∈ more) :
    (forest.unseen more).length < (forest.unseen seen).length := by
  have part : forest.unseen more = (forest.unseen seen).filter (· ∉ more) := by
    rw [unseen, unseen, List.filter_filter]
    apply List.filter_congr
    intro other _
    rw [Bool.eq_iff_iff]
    simp only [decide_eq_true_eq, Bool.and_eq_true, iff_self_and]
    exact fun absent seenBefore => absent (kept other seenBefore)
  rw [part, List.length_filter_lt_length_iff_exists]
  exact ⟨id, mem_unseen_iff.mpr fresh, by simpa using added⟩

end Unseen

/-- The recursion: an anchor that has not been seen, then what its children lead to, then the rest;
each part skips what has been seen before it. -/
def descend (forest : Forest) (seen : List Nat) : List Nat → List Nat
  | [] => []
  | id :: rest =>
      if id < forest.size ∧ id ∉ seen then
        let below := forest.descend (id :: seen) (forest.children id)
        id :: (below ++ forest.descend (id :: below ++ seen) rest)
      else forest.descend seen rest
termination_by ids => ((forest.unseen seen).length, ids.length)
decreasing_by
  · rename_i fresh
    apply Prod.Lex.left
    exact length_unseen_lt fresh List.mem_cons_self fun _ => List.mem_cons_of_mem id
  · rename_i fresh
    apply Prod.Lex.left
    exact length_unseen_lt fresh List.mem_cons_self fun _ => List.mem_append_right _
  · apply Prod.Lex.right
    simp

variable {forest : Forest}

theorem descend_of_fresh {seen : List Nat} {id : Nat} (fresh : id < forest.size ∧ id ∉ seen)
    (rest : List Nat) :
    forest.descend seen (id :: rest) =
      id :: (forest.descend (id :: seen) (forest.children id) ++
        forest.descend (id :: forest.descend (id :: seen) (forest.children id) ++ seen) rest) := by
  rw [descend, if_pos fresh]

theorem descend_of_not_fresh {seen : List Nat} {id : Nat}
    (skipped : ¬(id < forest.size ∧ id ∉ seen)) (rest : List Nat) :
    forest.descend seen (id :: rest) = forest.descend seen rest := by
  rw [descend, if_neg skipped]

/-! ### The walk and the recursion -/

/-- The walk goes down from the first waiting anchors as the recursion does, and then on to the
others. -/
theorem visit_append (seen ids waiting : List Nat) :
    forest.visit (forest.unseen seen) (ids ++ waiting) =
      forest.descend seen ids ++
        forest.visit (forest.unseen (forest.descend seen ids ++ seen)) waiting := by
  induction seen, ids using descend.induct forest generalizing waiting with
  | case1 seen => rw [descend]; rfl
  | case2 seen id rest fresh below visitBelow visitRest =>
      have seenBelow : forest.unseen (below ++ id :: seen) = forest.unseen (id :: below ++ seen) :=
        unseen_congr fun _ => List.perm_middle.mem_iff
      have seenRest (after : List Nat) :
          forest.unseen (after ++ (id :: below ++ seen)) =
            forest.unseen (id :: (below ++ after) ++ seen) := by
        apply unseen_congr
        intro other
        simp only [List.mem_append, List.mem_cons]
        grind
      rw [descend_of_fresh fresh, List.cons_append, visit, if_pos (mem_unseen_iff.mpr fresh),
        erase_unseen, visitBelow, seenBelow, visitRest, seenRest]
      simp only [below, List.cons_append, List.append_assoc]
  | case3 seen id rest skipped visitRest =>
      rw [descend_of_not_fresh skipped, List.cons_append, visit,
        if_neg (mt mem_unseen_iff.mp skipped), visitRest]

theorem flatten_eq_descend (ids : List Nat) : forest.flatten ids = forest.descend [] ids := by
  have all : List.range forest.size = forest.unseen [] := by simp [unseen]
  have visits : forest.visit (forest.unseen []) (ids ++ []) = _ := visit_append [] ids []
  rw [List.append_nil, ← all, visit, List.append_nil] at visits
  exact visits

/-! ### What the recursion meets -/

theorem fresh_of_mem_descend {seen ids : List Nat} {id : Nat} (met : id ∈ forest.descend seen ids) :
    id < forest.size ∧ id ∉ seen := by
  induction seen, ids using descend.induct forest with
  | case1 seen => simp [descend] at met
  | case2 seen first rest fresh below freshBelow freshRest =>
      rw [descend_of_fresh fresh, List.mem_cons, List.mem_append] at met
      rcases met with rfl | met | met
      · exact fresh
      · have found := freshBelow met
        exact ⟨found.1, fun before => found.2 (List.mem_cons_of_mem _ before)⟩
      · have found := freshRest met
        exact ⟨found.1, fun before => found.2 (List.mem_append_right _ before)⟩
  | case3 seen first rest skipped freshRest =>
      rw [descend_of_not_fresh skipped] at met
      exact freshRest met

theorem nodup_descend (seen ids : List Nat) : (forest.descend seen ids).Nodup := by
  induction seen, ids using descend.induct forest with
  | case1 seen => rw [descend]; exact List.nodup_nil
  | case2 seen id rest fresh below nodupBelow nodupRest =>
      rw [descend_of_fresh fresh, ← List.cons_append]
      refine List.nodup_append.mpr ⟨List.nodup_cons.mpr ⟨?_, nodupBelow⟩, nodupRest, ?_⟩
      · intro again
        exact (fresh_of_mem_descend again).2 List.mem_cons_self
      · rintro other before _ after rfl
        exact (fresh_of_mem_descend after).2 (List.mem_append_left _ before)
  | case3 seen id rest skipped nodupRest =>
      rw [descend_of_not_fresh skipped]
      exact nodupRest

theorem reaches_of_mem_descend {seen ids : List Nat} {id : Nat}
    (met : id ∈ forest.descend seen ids) : ∃ start, start ∈ ids ∧ forest.Reaches start id := by
  induction seen, ids using descend.induct forest with
  | case1 seen => simp [descend] at met
  | case2 seen first rest fresh below reachesBelow reachesRest =>
      rw [descend_of_fresh fresh, List.mem_cons, List.mem_append] at met
      rcases met with rfl | met | met
      · exact ⟨id, List.mem_cons_self, .refl⟩
      · obtain ⟨child, known, leads⟩ := reachesBelow met
        exact ⟨first, List.mem_cons_self, .head known leads⟩
      · obtain ⟨start, known, leads⟩ := reachesRest met
        exact ⟨start, List.mem_cons_of_mem first known, leads⟩
  | case3 seen first rest skipped reachesRest =>
      rw [descend_of_not_fresh skipped] at met
      obtain ⟨start, known, leads⟩ := reachesRest met
      exact ⟨start, List.mem_cons_of_mem first known, leads⟩

/-- What the recursion starts with, and the children of what it meets, have been seen at the end. -/
theorem descend_complete (seen ids : List Nat) :
    ∀ id, id < forest.size →
      (id ∈ ids ∨ ∃ upper, upper ∈ forest.descend seen ids ∧ id ∈ forest.children upper) →
        id ∈ seen ∨ id ∈ forest.descend seen ids := by
  induction seen, ids using descend.induct forest with
  | case1 seen => simp [descend]
  | case2 seen first rest fresh below completeBelow completeRest =>
      intro id inside reason
      have fromBelow := completeBelow id inside
      have fromRest := completeRest id inside
      rw [descend_of_fresh fresh] at reason ⊢
      simp only [List.mem_cons, List.mem_append] at reason fromBelow fromRest ⊢
      rcases reason with (rfl | later) | ⟨upper, rfl | met | met, child⟩
      · exact Or.inr (Or.inl rfl)
      · have met := fromRest (Or.inl later)
        grind
      · have met := fromBelow (Or.inl child)
        grind
      · have met := fromBelow (Or.inr ⟨upper, met, child⟩)
        grind
      · have met := fromRest (Or.inr ⟨upper, met, child⟩)
        grind
  | case3 seen first rest skipped completeRest =>
      intro id inside reason
      rw [descend_of_not_fresh skipped] at reason ⊢
      rcases reason with member | further
      · rcases List.mem_cons.mp member with rfl | later
        · left
          by_contra absent
          exact skipped ⟨inside, absent⟩
        · exact completeRest id inside (Or.inl later)
      · exact completeRest id inside (Or.inr further)

theorem lt_size_of_mem_children_left {upper lower : Nat} (below : lower ∈ forest.children upper) :
    upper < forest.size := by
  by_contra outside
  have missing : forest.nodes[upper]? = none := Array.getElem?_eq_none (Nat.not_lt.mp outside)
  rw [children, missing] at below
  cases below

/-- The walk meets the anchors that can be reached from those it starts with. -/
theorem mem_flatten_iff {ids : List Nat} {id : Nat} :
    id ∈ forest.flatten ids ↔
      id < forest.size ∧ ∃ start, start ∈ ids ∧ forest.Reaches start id := by
  rw [flatten_eq_descend]
  have complete := forest.descend_complete [] ids
  constructor
  · intro met
    exact ⟨(fresh_of_mem_descend met).1, reaches_of_mem_descend met⟩
  · rintro ⟨inside, start, known, leads⟩
    induction leads with
    | refl => exact (complete start inside (Or.inl known)).resolve_left List.not_mem_nil
    | @tail upper lower _ below met =>
        have metUpper := met (lt_size_of_mem_children_left below)
        exact (complete lower inside (Or.inr ⟨upper, metUpper, below⟩)).resolve_left
          List.not_mem_nil

/-! ### Walking again -/

theorem descend_append_of_seen {seen first : List Nat} (known : ∀ id, id ∈ first → id ∈ seen)
    (rest : List Nat) : forest.descend seen (first ++ rest) = forest.descend seen rest := by
  induction first with
  | nil => rfl
  | cons id more ih =>
      obtain ⟨seenBefore, knownMore⟩ := List.forall_mem_cons.mp known
      rw [List.cons_append, descend_of_not_fresh fun fresh => fresh.2 seenBefore, ih knownMore]

theorem descend_descend (seen ids : List Nat) :
    forest.descend seen (forest.descend seen ids) = forest.descend seen ids := by
  induction seen, ids using descend.induct forest with
  | case1 seen => simp only [descend]
  | case2 seen id rest fresh below _ again =>
      -- Behind the anchor the list names all that is below it, which has been seen by then.
      have seenBelow : ∀ other, other ∈ below → other ∈ id :: below ++ seen := fun other met =>
        List.mem_append_left _ (List.mem_cons_of_mem id met)
      rw [descend_of_fresh fresh, descend_of_fresh fresh, descend_append_of_seen seenBelow, again]
  | case3 seen id rest skipped again => rw [descend_of_not_fresh skipped, again]

/-- Walking down from any list of numbers is the recursion that skips what has been seen. No anchor
is met twice, those that are met are the ones that can be reached from the list, and walking from
these again changes nothing. -/
theorem flatten_walks_depth_first (forest : Forest) (ids : List Nat) :
    forest.flatten ids = forest.descend [] ids ∧
      (forest.flatten ids).Nodup ∧
      (∀ id, id ∈ forest.flatten ids ↔
        id < forest.size ∧ ∃ start, start ∈ ids ∧ forest.Reaches start id) ∧
      forest.flatten (forest.flatten ids) = forest.flatten ids := by
  have recursion := forest.flatten_eq_descend
  refine ⟨recursion ids, ?_, fun id => mem_flatten_iff, ?_⟩
  · rw [recursion]
    exact nodup_descend [] ids
  · rw [recursion, recursion]
    exact descend_descend [] ids

end Waymark.Forest
