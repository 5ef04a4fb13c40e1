import Mathlib.Data.List.Basic
import Waymark.Anchor.Forest

set_option autoImplicit false

/-! What adding and changing anchors does to the anchors, children and roots of a forest, and when
walking a forest from its roots gives its anchors in the order in which they were added. The second
part works with any assignment of parents that the lists of children and roots follow. -/

namespace Waymark.Forest

/-! ### Adding and changing anchors -/

theorem get?_eq_none_iff (forest : Forest) (id : Nat) :
    forest.get? id = none ↔ forest.size ≤ id := by
  simp only [get?, size, Option.map_eq_none_iff, Array.getElem?_eq_none_iff]

theorem lt_size_of_get? {forest : Forest} {id : Nat} {anchor : Anchor}
    (found : forest.get? id = some anchor) : id < forest.size := by
  by_contra outside
  have missing := (forest.get?_eq_none_iff id).mpr (Nat.not_lt.mp outside)
  rw [missing] at found
  cases found

theorem exists_get?_of_lt {forest : Forest} {id : Nat} (inside : id < forest.size) :
    ∃ anchor, forest.get? id = some anchor := by
  cases found : forest.get? id with
  | none =>
      have outside := (forest.get?_eq_none_iff id).mp found
      omega
  | some anchor => exact ⟨anchor, rfl⟩

@[simp] theorem push_number (forest : Forest) (anchor : Anchor) (parent : Option Nat) :
    (forest.push anchor parent).2 = forest.size := by
  unfold push
  dsimp only
  split <;> rfl

@[simp] theorem size_push (forest : Forest) (anchor : Anchor) (parent : Option Nat) :
    (forest.push anchor parent).1.size = forest.size + 1 := by
  unfold push
  dsimp only
  split <;> simp [size]

theorem get?_push (forest : Forest) (anchor : Anchor) (parent : Option Nat) (id : Nat) :
    (forest.push anchor parent).1.get? id =
      if id = forest.size then some anchor else forest.get? id := by
  unfold push get? size
  dsimp only
  split
  · rw [Array.getElem?_modify, Array.getElem?_push]
    split <;> split <;> simp [Function.comp_def]
  · rw [Array.getElem?_push]
    split <;> simp

/-- Where a new anchor is placed: below the parent it names if that is there by then, which it is
itself, and else among the roots. -/
def placeOfNew (forest : Forest) (parent : Option Nat) : Option Nat :=
  parent.filter (· ≤ forest.size)

private theorem filter_lt_size_push (forest : Forest) (anchor : Anchor) (parent : Option Nat) :
    parent.filter (· < (forest.nodes.push { anchor }).size) = forest.placeOfNew parent := by
  unfold placeOfNew size
  congr 1
  funext above
  simp only [Array.size_push, Nat.lt_succ_iff]

private theorem children_push_nodes (forest : Forest) (anchor : Anchor) (id : Nat) :
    (forest.nodes.push { anchor })[id]?.elim [] (·.children.toList) = forest.children id := by
  unfold children
  rw [Array.getElem?_push]
  by_cases new : id = forest.nodes.size
  · rw [if_pos new, new, Array.getElem?_eq_none (Nat.le_refl _)]
    rfl
  · rw [if_neg new]

/-- A new anchor is the last child where it is placed; no other list of children changes. -/
theorem children_push (forest : Forest) (anchor : Anchor) (parent : Option Nat) (id : Nat) :
    (forest.push anchor parent).1.children id =
      if forest.placeOfNew parent = some id then forest.children id ++ [forest.size]
      else forest.children id := by
  rw [← children_push_nodes forest anchor id]
  unfold push
  simp only [filter_lt_size_push]
  cases placed : forest.placeOfNew parent with
  | none => rfl
  | some above =>
      have known := of_decide_eq_true (Option.filter_eq_some_iff.mp placed).2
      have present : above < (forest.nodes.push { anchor }).size := by
        rw [Array.size_push]
        exact Nat.lt_succ_of_le known
      simp only [children, Array.getElem?_modify]
      by_cases same : above = id
      · subst same
        rw [if_pos rfl, if_pos rfl, Array.getElem?_eq_getElem present]
        simp [size]
      · rw [if_neg same, if_neg fun equal => same (Option.some.inj equal)]

theorem rootList_push (forest : Forest) (anchor : Anchor) (parent : Option Nat) :
    (forest.push anchor parent).1.rootList =
      if forest.placeOfNew parent = none then forest.rootList ++ [forest.size]
      else forest.rootList := by
  unfold push
  simp only [filter_lt_size_push]
  cases forest.placeOfNew parent with
  | none => simp [rootList, size]
  | some above => rfl

@[simp] theorem size_modify (forest : Forest) (id : Nat) (change : Anchor → Anchor) :
    (forest.modify id change).size = forest.size := by
  simp [modify, size]

theorem get?_modify (forest : Forest) (target : Nat) (change : Anchor → Anchor) (id : Nat) :
    (forest.modify target change).get? id =
      if target = id then (forest.get? id).map change else forest.get? id := by
  simp only [modify, get?, Array.getElem?_modify]
  split <;> simp [Function.comp_def]

@[simp] theorem children_modify (forest : Forest) (target : Nat) (change : Anchor → Anchor)
    (id : Nat) : (forest.modify target change).children id = forest.children id := by
  simp only [modify, children, Array.getElem?_modify]
  split
  · cases forest.nodes[id]? <;> simp
  · rfl

@[simp] theorem rootList_modify (forest : Forest) (target : Nat) (change : Anchor → Anchor) :
    (forest.modify target change).rootList = forest.rootList := rfl

/-! ### Walking a forest -/

/-- The lists of children and roots hold the anchors in ascending order, each where `parent` puts
it. -/
structure Arranged (forest : Forest) (parent : Nat → Option Nat) : Prop where
  children_eq : ∀ id,
    forest.children id = (List.range forest.size).filter fun child => parent child = some id
  roots_eq : forest.rootList = (List.range forest.size).filter fun id => parent id = none

theorem arranged_empty (parent : Nat → Option Nat) : Arranged {} parent where
  children_eq := by intro id; simp [children, size]
  roots_eq := by simp [rootList, size]

private theorem filter_range_congr {count : Nat} {first second : Nat → Bool}
    (same : ∀ id, id < count → first id = second id) :
    (List.range count).filter first = (List.range count).filter second := by
  apply List.filter_congr
  intro id member
  exact same id (List.mem_range.mp member)

/-- A new anchor leaves the others in their place. -/
theorem Arranged.push_given {forest : Forest} {parent next : Nat → Option Nat}
    (arranged : Arranged forest parent) (anchor : Anchor) {given : Option Nat}
    (kept : ∀ id, id < forest.size → next id = parent id)
    (placed : next forest.size = forest.placeOfNew given) :
    Arranged (forest.push anchor given).1 next where
  children_eq := by
    intro id
    have keptChildren : (List.range forest.size).filter (fun child => next child = some id) =
        forest.children id := by
      rw [arranged.children_eq id]
      exact filter_range_congr fun child inside => by rw [kept child inside]
    rw [children_push, size_push, List.range_succ, List.filter_append, keptChildren]
    by_cases here : forest.placeOfNew given = some id <;> simp [placed, here]
  roots_eq := by
    have keptRoots : (List.range forest.size).filter (fun id => next id = none) =
        forest.rootList := by
      rw [arranged.roots_eq]
      exact filter_range_congr fun id inside => by rw [kept id inside]
    rw [rootList_push, size_push, List.range_succ, List.filter_append, keptRoots]
    by_cases root : forest.placeOfNew given = none <;> simp [placed, root]

/-- An anchor that is added below an earlier one, or as a root, is placed there. -/
theorem Arranged.push {forest : Forest} {parent next : Nat → Option Nat}
    (arranged : Arranged forest parent) (anchor : Anchor)
    (kept : ∀ id, id < forest.size → next id = parent id)
    (earlier : ∀ above, next forest.size = some above → above < forest.size) :
    Arranged (forest.push anchor (next forest.size)).1 next := by
  apply arranged.push_given anchor kept
  cases given : next forest.size with
  | none => rfl
  | some above => simp [placeOfNew, Option.filter, Nat.le_of_lt (earlier above given)]

theorem Arranged.modify {forest : Forest} {parent next : Nat → Option Nat}
    (arranged : Arranged forest parent) (target : Nat) (change : Anchor → Anchor)
    (kept : ∀ id, id < forest.size → next id = parent id) :
    Arranged (forest.modify target change) next where
  children_eq := by
    intro id
    rw [children_modify, size_modify, arranged.children_eq id]
    exact filter_range_congr fun child inside => by rw [kept child inside]
  roots_eq := by
    rw [rootList_modify, size_modify, arranged.roots_eq]
    exact filter_range_congr fun id inside => by rw [kept id inside]

theorem Arranged.mem_children_iff {forest : Forest} {parent : Nat → Option Nat}
    (arranged : Arranged forest parent) {child id : Nat} :
    child ∈ forest.children id ↔ child < forest.size ∧ parent child = some id := by
  rw [arranged.children_eq id]
  simp

theorem Arranged.mem_rootList_iff {forest : Forest} {parent : Nat → Option Nat}
    (arranged : Arranged forest parent) {id : Nat} :
    id ∈ forest.rootList ↔ id < forest.size ∧ parent id = none := by
  rw [arranged.roots_eq]
  simp

/-- Parents come before their children, and between a parent and its child there are only anchors
at or below the parent. -/
structure Contiguous (count : Nat) (parent : Nat → Option Nat) : Prop where
  earlier : ∀ child above, child < count → parent child = some above → above < child
  between : ∀ child above inner, child < count → parent child = some above →
    above < inner → inner < child → ∃ nearer, parent inner = some nearer ∧ above ≤ nearer

/-- The anchors that wait when the first `visited` ones have been visited, if the walk goes in
ascending order. -/
private def waitingAt (count : Nat) (parent : Nat → Option Nat) (visited : Nat) : List Nat :=
  (List.range' visited (count - visited)).filter fun id => (parent id).all (· < visited)

private theorem filter_or_of_before {first second : Nat → Bool} (ids : List Nat)
    (disjoint : ∀ id, second id = true → first id = false)
    (before : ids.Pairwise fun left right => second left = true → first right = false) :
    ids.filter (fun id => first id || second id) = ids.filter first ++ ids.filter second := by
  induction ids with
  | nil => rfl
  | cons head rest ih =>
      obtain ⟨headBefore, restBefore⟩ := List.pairwise_cons.mp before
      have tail := ih restBefore
      cases isSecond : second head with
      | true =>
          have notFirst := disjoint head isSecond
          have noneLater : rest.filter first = [] := by
            rw [List.filter_eq_nil_iff]
            intro id member isFirst
            rw [headBefore id member isSecond] at isFirst
            cases isFirst
          rw [noneLater, List.nil_append] at tail
          simp [isSecond, notFirst, noneLater, tail]
      | false =>
          cases isFirst : first head <;> simp [isSecond, isFirst, tail]

/-- Visiting the next anchor puts its children before those that waited already. -/
private theorem waitingAt_succ {forest : Forest} {parent : Nat → Option Nat}
    (arranged : Arranged forest parent) (contiguous : Contiguous forest.size parent)
    {visited : Nat} (inside : visited < forest.size) :
    forest.children visited ++
        (List.range' (visited + 1) (forest.size - (visited + 1))).filter
          (fun id => (parent id).all (· < visited)) =
      waitingAt forest.size parent (visited + 1) := by
  have childrenLater : forest.children visited =
      (List.range' (visited + 1) (forest.size - (visited + 1))).filter
        fun child => parent child = some visited := by
    have split : List.range forest.size =
        List.range (visited + 1) ++ List.range' (visited + 1) (forest.size - (visited + 1)) := by
      have total : forest.size = (visited + 1) + (forest.size - (visited + 1)) := by omega
      rw [List.range_eq_range', List.range_eq_range', total, ← List.range'_append_1]
      simp
    rw [arranged.children_eq visited, split, List.filter_append]
    have noneBefore : (List.range (visited + 1)).filter
        (fun child => decide (parent child = some visited)) = [] := by
      rw [List.filter_eq_nil_iff]
      intro child member placed
      have below : child < visited + 1 := List.mem_range.mp member
      have after := contiguous.earlier child visited (by omega) (of_decide_eq_true placed)
      omega
    rw [noneBefore, List.nil_append]
  rw [childrenLater, ← filter_or_of_before]
  · unfold waitingAt
    apply List.filter_congr
    intro id _member
    cases parent id with
    | none => simp
    | some above =>
        rw [Bool.eq_iff_iff]
        simp only [Option.some.injEq, Option.all_some, Bool.or_eq_true, decide_eq_true_eq]
        omega
  · intro id waits
    cases placed : parent id with
    | none => simp
    | some above =>
        rw [placed] at waits
        simp only [Option.all_some, decide_eq_true_eq] at waits
        simp only [Option.some.injEq, decide_eq_false_iff_not]
        omega
  · apply List.Pairwise.imp_of_mem _ (List.pairwise_lt_range' (s := visited + 1))
    intro left right leftMember rightMember ascending waits
    have leftInside := List.mem_range'_1.mp leftMember
    have rightInside := List.mem_range'_1.mp rightMember
    rw [decide_eq_false_iff_not]
    intro placed
    obtain ⟨nearer, atNearer, reaches⟩ :=
      contiguous.between right visited left (by omega) placed (by omega) ascending
    rw [atNearer] at waits
    simp only [Option.all_some, decide_eq_true_eq] at waits
    omega

private theorem visit_waitingAt {forest : Forest} {parent : Nat → Option Nat}
    (arranged : Arranged forest parent) (contiguous : Contiguous forest.size parent)
    (left : Nat) : ∀ visited, visited + left = forest.size →
      forest.visit (List.range' visited left) (waitingAt forest.size parent visited) =
        List.range' visited left := by
  induction left with
  | zero =>
      intro visited complete
      have done : forest.size - visited = 0 := by omega
      simp [waitingAt, done, visit]
  | succ left ih =>
      intro visited complete
      have inside : visited < forest.size := by omega
      have ready : (parent visited).all (· < visited) = true := by
        cases placed : parent visited with
        | none => rfl
        | some above =>
            simpa using contiguous.earlier visited above inside placed
      have count : forest.size - visited = left + 1 := by omega
      have countLater : forest.size - (visited + 1) = left := by omega
      have head : waitingAt forest.size parent visited =
          visited :: (List.range' (visited + 1) left).filter
            fun id => (parent id).all (· < visited) := by
        unfold waitingAt
        rw [count, List.range'_succ, List.filter_cons, if_pos ready]
      have next := waitingAt_succ arranged contiguous inside
      rw [countLater] at next
      rw [head, visit, List.range'_succ, if_pos List.mem_cons_self, List.erase_cons_head, next,
        ih (visited + 1) (by omega)]

/-- Walking from the roots meets the anchors in the order in which they were added. -/
theorem flatten_rootList_eq_range {forest : Forest} {parent : Nat → Option Nat}
    (arranged : Arranged forest parent) (contiguous : Contiguous forest.size parent) :
    forest.flatten forest.rootList = List.range forest.size := by
  have start : waitingAt forest.size parent 0 = forest.rootList := by
    unfold waitingAt
    rw [arranged.roots_eq, List.range_eq_range', Nat.sub_zero]
    apply List.filter_congr
    intro id _member
    cases parent id <;> simp
  unfold flatten
  rw [← start, List.range_eq_range']
  exact visit_waitingAt arranged contiguous forest.size 0 (Nat.zero_add _)

end Waymark.Forest
