import Mathlib.Data.List.Perm.Subperm
import Mathlib.Logic.Relation
import Waymark.Proofs.Anchor.Forest

set_option autoImplicit false

/-! Walking a forest that has grown anchor by anchor. Whatever parents the anchors have, each comes
after its parent, so that what holds of the anchors below one and of those beside it holds of all.
The walk from the roots meets each anchor at most once, since two anchors with one parent have no
anchor below both. -/

namespace Waymark.Forest

/-- The forests that are built by adding anchors, each as a root or below an anchor that is there
already, and by changing anchors. -/
inductive Grown : Forest → Prop
  | empty : Grown {}
  | push {forest : Forest} (anchor : Anchor) (parent : Option Nat) :
      Grown forest → (∀ above, parent = some above → above < forest.size) →
      Grown (forest.push anchor parent).1
  | modify {forest : Forest} (id : Nat) (change : Anchor → Anchor) :
      Grown forest → Grown (forest.modify id change)

def parent? (forest : Forest) (id : Nat) : Option Nat :=
  (List.range id).find? fun above => (forest.children above).contains id

theorem lt_of_parent? {forest : Forest} {id above : Nat} (placed : forest.parent? id = some above) :
    above < id :=
  List.mem_range.mp (List.mem_of_find?_eq_some placed)

def lineage (forest : Forest) (id : Nat) : List Nat :=
  match placed : forest.parent? id with
  | some above =>
      have : above < id := lt_of_parent? placed
      forest.lineage above ++ [id]
  | none => [id]

/-- The lists of children and roots hold the anchors in ascending order, each below its parent. -/
def Planted (forest : Forest) : Prop := forest.Arranged forest.parent?

/-- The anchors of a list, each followed by the walk over the anchors below it. -/
inductive Walk (forest : Forest) : List Nat → List Nat → Prop
  | nil : Walk forest [] []
  | cons {id : Nat} {rest below after : List Nat} :
      Walk forest (forest.children id) below → Walk forest rest after →
      Walk forest (id :: rest) (id :: (below ++ after))

variable {forest : Forest}

/-! ### Parents -/

theorem Arranged.parent?_eq {parent : Nat → Option Nat} (arranged : forest.Arranged parent)
    (earlier : ∀ child above, child < forest.size → parent child = some above → above < child)
    {id : Nat} (inside : id < forest.size) : forest.parent? id = parent id := by
  have holds (above : Nat) :
      (forest.children above).contains id = true ↔ parent id = some above := by
    rw [List.contains_iff_mem, arranged.mem_children_iff, and_iff_right inside]
  cases found : forest.parent? id with
  | some above =>
      have below := List.find?_some (p := fun above => (forest.children above).contains id) found
      exact ((holds above).mp below).symm
  | none =>
      cases placed : parent id with
      | none => rfl
      | some above =>
          have before := List.mem_range.mpr (earlier id above inside placed)
          exact absurd ((holds above).mpr placed) (List.find?_eq_none.mp found above before)

theorem Arranged.planted {parent : Nat → Option Nat} (arranged : forest.Arranged parent)
    (earlier : ∀ child above, child < forest.size → parent child = some above → above < child) :
    forest.Planted := by
  have same (id : Nat) (member : id ∈ List.range forest.size) : parent id = forest.parent? id :=
    (arranged.parent?_eq earlier (List.mem_range.mp member)).symm
  constructor
  · intro id
    rw [arranged.children_eq id]
    exact List.filter_congr fun child member => by rw [same child member]
  · rw [arranged.roots_eq]
    exact List.filter_congr fun id member => by rw [same id member]

theorem Grown.planted (grown : forest.Grown) : forest.Planted := by
  induction grown with
  | empty => exact arranged_empty _
  | @push forest anchor parent _ known ih =>
      let next (id : Nat) : Option Nat := if id = forest.size then parent else forest.parent? id
      have atNew : next forest.size = parent := if_pos rfl
      have kept (id : Nat) (inside : id < forest.size) : next id = forest.parent? id :=
        if_neg (Nat.ne_of_lt inside)
      have arranged := Arranged.push ih anchor kept (by rw [atNew]; exact known)
      rw [atNew] at arranged
      apply arranged.planted
      intro child above _ placed
      by_cases new : child = forest.size
      · rw [new, atNew] at placed
        rw [new]
        exact known above placed
      · exact lt_of_parent? ((if_neg new).symm.trans placed)
  | modify id change _ ih =>
      exact (Arranged.modify ih id change fun _ _ => rfl).planted fun _ _ _ => lt_of_parent?

namespace Planted

theorem mem_children_iff (planted : forest.Planted) {child id : Nat} :
    child ∈ forest.children id ↔ child < forest.size ∧ forest.parent? child = some id :=
  Arranged.mem_children_iff planted

theorem lt_size_of_mem_children (planted : forest.Planted) {child id : Nat}
    (below : child ∈ forest.children id) : child < forest.size :=
  (planted.mem_children_iff.mp below).1

theorem lt_of_mem_children (planted : forest.Planted) {child id : Nat}
    (below : child ∈ forest.children id) : id < child :=
  lt_of_parent? (planted.mem_children_iff.mp below).2

theorem lt_size_of_mem_rootList (planted : forest.Planted) {id : Nat}
    (root : id ∈ forest.rootList) : id < forest.size :=
  (Arranged.mem_rootList_iff planted).mp root |>.1

/-- What holds of no anchors, and of an anchor and others once it holds of the anchors below it and
of the others, holds of all lists of anchors. -/
theorem induction_below (planted : forest.Planted) {motive : List Nat → Prop} (nil : motive [])
    (cons : ∀ id rest, motive (forest.children id) → motive rest → motive (id :: rest)) :
    ∀ ids, motive ids := by
  -- An anchor is the lower in the forest the larger its number is.
  have bounded : ∀ count ids, (∀ id, id ∈ ids → forest.size ≤ id + count) → motive ids := by
    intro count
    induction count with
    | zero =>
        intro ids outside
        induction ids with
        | nil => exact nil
        | cons id rest ih =>
            obtain ⟨outsideHead, outsideRest⟩ := List.forall_mem_cons.mp outside
            have childless : forest.children id = [] := by
              apply List.eq_nil_iff_forall_not_mem.mpr
              intro child below
              have inside := planted.lt_size_of_mem_children below
              have later := planted.lt_of_mem_children below
              omega
            exact cons id rest (childless ▸ nil) (ih outsideRest)
    | succ count further =>
        intro ids outside
        induction ids with
        | nil => exact nil
        | cons id rest ih =>
            obtain ⟨outsideHead, outsideRest⟩ := List.forall_mem_cons.mp outside
            refine cons id rest (further _ ?_) (ih outsideRest)
            intro child below
            have later := planted.lt_of_mem_children below
            omega
  intro ids
  exact bounded forest.size ids fun id _ => Nat.le_add_left _ _

theorem exists_walk (planted : forest.Planted) (ids : List Nat) :
    ∃ visited, forest.Walk ids visited := by
  induction ids using planted.induction_below with
  | nil => exact ⟨[], .nil⟩
  | cons id rest below after =>
      obtain ⟨_, walkBelow⟩ := below
      obtain ⟨_, walkAfter⟩ := after
      exact ⟨_, walkBelow.cons walkAfter⟩

/-! ### Lineages -/

theorem lineage_child (planted : forest.Planted) {child id : Nat}
    (below : child ∈ forest.children id) :
    forest.lineage child = forest.lineage id ++ [child] := by
  have placed := (planted.mem_children_iff.mp below).2
  rw [lineage]
  split
  · rename_i above found
    rw [placed] at found
    rw [Option.some.inj found]
  · rename_i missing
    rw [placed] at missing
    cases missing

theorem lineage_root (planted : forest.Planted) {id : Nat} (root : id ∈ forest.rootList) :
    forest.lineage id = [id] := by
  have placed := ((Arranged.mem_rootList_iff planted).mp root).2
  rw [lineage]
  split
  · rename_i above found
    rw [placed] at found
    cases found
  · rfl

/-- The lineage of an anchor consists of the anchor and all that it is below. -/
theorem mem_lineage_iff (planted : forest.Planted) {above id : Nat} (inside : id < forest.size) :
    above ∈ forest.lineage id ↔
      Relation.ReflTransGen (fun upper lower => lower ∈ forest.children upper) above id := by
  induction id using Nat.strongRecOn with
  | ind id ih =>
      rw [Relation.ReflTransGen.cases_tail_iff]
      cases placed : forest.parent? id with
      | none =>
          have root := (Arranged.mem_rootList_iff planted).mpr ⟨inside, placed⟩
          rw [planted.lineage_root root, List.mem_singleton]
          constructor
          · intro same
            exact Or.inl same.symm
          · rintro (same | ⟨upper, _, below⟩)
            · exact same.symm
            · rw [(planted.mem_children_iff.mp below).2] at placed
              cases placed
      | some upper =>
          have below := planted.mem_children_iff.mpr ⟨inside, placed⟩
          have earlier := lt_of_parent? placed
          rw [planted.lineage_child below, List.mem_append, List.mem_singleton,
            ih upper earlier (Nat.lt_trans earlier inside)]
          constructor
          · rintro (higher | same)
            · exact Or.inr ⟨upper, higher, below⟩
            · exact Or.inl same.symm
          · rintro (same | ⟨other, higher, otherBelow⟩)
            · exact Or.inr same.symm
            · rw [(planted.mem_children_iff.mp otherBelow).2] at placed
              exact Or.inl (Option.some.inj placed ▸ higher)

end Planted

theorem le_of_mem_lineage {above id : Nat} (member : above ∈ forest.lineage id) : above ≤ id := by
  induction id using Nat.strongRecOn with
  | ind id ih =>
      rw [lineage] at member
      split at member
      · rename_i upper placed
        have earlier := lt_of_parent? placed
        rcases List.mem_append.mp member with higher | same
        · have bound := ih upper earlier higher
          omega
        · exact Nat.le_of_eq (List.mem_singleton.mp same)
      · exact Nat.le_of_eq (List.mem_singleton.mp member)

/-! ### Walks -/

/-- Anchors side by side: they have one lineage up to themselves. -/
def Beside (forest : Forest) (trail ids : List Nat) : Prop :=
  ∀ id, id ∈ ids → id < forest.size ∧ forest.lineage id = trail ++ [id]

namespace Planted

theorem beside_children (planted : forest.Planted) (id : Nat) :
    forest.Beside (forest.lineage id) (forest.children id) := by
  intro child below
  exact ⟨planted.lt_size_of_mem_children below, planted.lineage_child below⟩

theorem beside_rootList (planted : forest.Planted) : forest.Beside [] forest.rootList := by
  intro id root
  exact ⟨planted.lt_size_of_mem_rootList root, planted.lineage_root root⟩

theorem nodup_children (planted : forest.Planted) (id : Nat) : (forest.children id).Nodup := by
  rw [Arranged.children_eq planted id]
  exact List.nodup_range.filter _

theorem nodup_rootList (planted : forest.Planted) : forest.rootList.Nodup := by
  rw [Arranged.roots_eq planted]
  exact List.nodup_range.filter _

end Planted

namespace Walk

variable {ids visited trail : List Nat}

theorem lt_size (walk : forest.Walk ids visited) (planted : forest.Planted)
    (inside : ∀ id, id ∈ ids → id < forest.size) : ∀ id, id ∈ visited → id < forest.size := by
  induction walk with
  | nil => exact inside
  | cons _ _ belowInside afterInside =>
      intro id member
      rcases List.mem_cons.mp member with rfl | further
      · exact inside id List.mem_cons_self
      · rcases List.mem_append.mp further with below | after
        · exact belowInside (fun _ => planted.lt_size_of_mem_children) id below
        · exact afterInside (fun other known => inside other (List.mem_cons_of_mem _ known)) id after

/-- A walk meets only anchors at or below those that it starts with. -/
theorem exists_start (walk : forest.Walk ids visited) (planted : forest.Planted) :
    ∀ id, id ∈ visited → ∃ start, start ∈ ids ∧ forest.lineage start <+: forest.lineage id := by
  induction walk with
  | nil =>
      intro id member
      cases member
  | @cons first rest _ _ _ _ belowPrefix afterPrefix =>
      intro id member
      rcases List.mem_cons.mp member with rfl | further
      · exact ⟨id, List.mem_cons_self, List.prefix_refl _⟩
      · rcases List.mem_append.mp further with below | after
        · obtain ⟨child, known, leads⟩ := belowPrefix id below
          refine ⟨first, List.mem_cons_self, ?_⟩
          rw [planted.lineage_child known] at leads
          exact (List.prefix_append _ _).trans leads
        · obtain ⟨start, known, leads⟩ := afterPrefix id after
          exact ⟨start, List.mem_cons_of_mem first known, leads⟩

theorem lineage_below {id other : Nat} (walk : forest.Walk (forest.children id) visited)
    (planted : forest.Planted) (member : other ∈ visited) :
    ∃ child rest, forest.lineage other = forest.lineage id ++ child :: rest := by
  obtain ⟨child, known, rest, leads⟩ := walk.exists_start planted other member
  refine ⟨child, rest, ?_⟩
  rw [← leads, planted.lineage_child known, List.append_assoc, List.singleton_append]

/-- A walk that starts with different anchors side by side meets no anchor twice. -/
theorem nodup (walk : forest.Walk ids visited) (planted : forest.Planted)
    (beside : forest.Beside trail ids) (different : ids.Nodup) : visited.Nodup := by
  induction walk generalizing trail with
  | nil => exact List.nodup_nil
  | @cons first rest below after walkBelow walkAfter belowNodup afterNodup =>
      obtain ⟨⟨_, firstTrail⟩, restBeside⟩ := List.forall_mem_cons.mp beside
      obtain ⟨firstApart, restNodup⟩ := List.nodup_cons.mp different
      have underFirst : ∀ id, id ∈ first :: below → forest.lineage first <+: forest.lineage id := by
        intro id member
        rcases List.mem_cons.mp member with rfl | further
        · exact List.prefix_refl _
        · obtain ⟨child, path, leads⟩ := walkBelow.lineage_below planted further
          exact leads ▸ List.prefix_append _ _
      have notFirst : ∀ id, id ∈ after → ¬forest.lineage first <+: forest.lineage id := by
        intro id member leads
        obtain ⟨start, known, startLeads⟩ := walkAfter.exists_start planted id member
        rw [firstTrail] at leads
        rw [(restBeside start known).2] at startLeads
        have same := List.prefix_of_prefix_length_le leads startLeads (by simp)
        have equal := same.eq_of_length (by simp)
        have heads := List.singleton_inj.mp (List.append_cancel_left equal)
        exact firstApart (heads ▸ known)
      have firstOutside : first ∉ below := by
        intro member
        obtain ⟨child, path, leads⟩ := walkBelow.lineage_below planted member
        have longer := congrArg List.length leads
        rw [List.length_append, List.length_cons] at longer
        omega
      have nodupBelow := belowNodup (planted.beside_children first) (planted.nodup_children first)
      rw [← List.cons_append]
      apply List.nodup_append.mpr
      refine ⟨List.nodup_cons.mpr ⟨firstOutside, nodupBelow⟩, afterNodup restBeside restNodup, ?_⟩
      intro id member other otherMember same
      exact notFirst other otherMember (same ▸ underFirst id member)

theorem length_le_size (walk : forest.Walk ids visited) (planted : forest.Planted)
    (beside : forest.Beside trail ids) (different : ids.Nodup) : visited.length ≤ forest.size := by
  have inside := walk.lt_size planted fun id member => (beside id member).1
  have among : visited ⊆ List.range forest.size := fun id member =>
    List.mem_range.mpr (inside id member)
  have fits := (List.subperm_of_subset (walk.nodup planted beside different) among).length_le
  rwa [List.length_range] at fits

/-- A visit to anchors none of which has been visited follows the walk over them. -/
theorem visit_append (walk : forest.Walk ids visited) (different : visited.Nodup) :
    ∀ remaining waiting, (∀ id, id ∈ visited → id ∈ remaining) →
      forest.visit remaining (ids ++ waiting) =
        visited ++ forest.visit (remaining.diff visited) waiting := by
  induction walk with
  | nil =>
      intro remaining waiting _
      rfl
  | @cons first rest below after _ _ visitBelow visitAfter =>
      intro remaining waiting known
      obtain ⟨firstKnown, restKnown⟩ := List.forall_mem_cons.mp known
      obtain ⟨firstApart, restNodup⟩ := List.nodup_cons.mp different
      obtain ⟨belowNodup, afterNodup, apart⟩ := List.nodup_append.mp restNodup
      have still : ∀ id, id ∈ below ++ after → id ∈ remaining.erase first := by
        intro id member
        have other : id ≠ first := fun same => firstApart (same ▸ member)
        exact (List.mem_erase_of_ne other).mpr (restKnown id member)
      rw [List.cons_append, visit, if_pos firstKnown,
        visitBelow belowNodup _ _ fun id member => still id (List.mem_append_left _ member),
        visitAfter afterNodup]
      · rw [List.diff_cons, List.diff_append, List.cons_append, List.append_assoc]
      · intro id member
        apply List.mem_diff_of_mem (still id (List.mem_append_right _ member))
        intro visitedBelow
        exact apart id visitedBelow id member rfl

end Walk

theorem Planted.flatten_rootList (planted : forest.Planted) {visited : List Nat}
    (walk : forest.Walk forest.rootList visited) : forest.flatten forest.rootList = visited := by
  have different := walk.nodup planted planted.beside_rootList planted.nodup_rootList
  have inside := walk.lt_size planted fun _ => planted.lt_size_of_mem_rootList
  have visits := walk.visit_append different (List.range forest.size) []
    fun id member => List.mem_range.mpr (inside id member)
  rw [List.append_nil] at visits
  rw [flatten, visits, visit, List.append_nil]

end Waymark.Forest
