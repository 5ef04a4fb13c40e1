import Mathlib.Data.List.Induction
import Waymark.Proofs.Anchor.DepthFirst
import Waymark.Proofs.Anchor.Listing

set_option autoImplicit false

/-! Forests that are built by adding anchors below any parents that they name. Each anchor is listed
once, among the roots or the children of one anchor. One that names a parent which is not there is a
root, with one exception: it is there itself by the time its parent is looked up, so one that names
its own number becomes its own child. The walk from the roots does not meet it, nor anything below
it, and a tree listing that gets to it never ends. -/

namespace Waymark.Forest

def pushAll (entries : List (Anchor × Option Nat)) : Forest :=
  entries.foldl (fun forest (anchor, parent) => (forest.push anchor parent).1) empty

def namedParent (entries : List (Anchor × Option Nat)) (id : Nat) : Option Nat :=
  entries[id]?.bind (·.2)

structure BuildsForest (entries : List (Anchor × Option Nat)) : Prop where
  /-- An anchor that names no parent, or one that has not been added before it, is a root. -/
  rooted : ∀ id, id ∈ (pushAll entries).rootList ↔
    id < entries.length ∧ ∀ above, namedParent entries id = some above → id ≤ above
  later : ∀ id child, child ∈ (pushAll entries).children id → id < child
  once : ((pushAll entries).rootList ++
    (List.range entries.length).flatMap (pushAll entries).children).Perm
      (List.range entries.length)
  visited : ∀ id, id < entries.length →
    id ∈ (pushAll entries).flatten (pushAll entries).rootList
  listed : ∀ ids showLine keep, ∃ nodes,
    (pushAll entries).project? ids true showLine keep = some nodes

/-- An anchor that names its own number is no root, and below itself. No walk from the roots meets
it, and its listing does not end. -/
theorem own_number_as_parent :
    let entries := [(noteOf "own" 1, some 0)]
    ¬BuildsForest entries ∧ (pushAll entries).children 0 = [0] ∧
      (pushAll entries).rootList = [] ∧
      (pushAll entries).flatten (pushAll entries).rootList = [] ∧
      (pushAll entries).project? [0] true none (fun _ => true) = none := by
  have rootless : (pushAll [(noteOf "own" 1, some 0)]).rootList = [] := rfl
  refine ⟨?_, rfl, rootless, ?_, rfl⟩
  · intro builds
    exact absurd (builds.later 0 0 (List.mem_singleton.mpr rfl)) (Nat.lt_irrefl 0)
  · rw [rootless, flatten_eq_descend, descend]

/-! ### What is built -/

section Built

variable (entries : List (Anchor × Option Nat))

theorem pushAll_append (anchor : Anchor) (parent : Option Nat) :
    pushAll (entries ++ [(anchor, parent)]) = ((pushAll entries).push anchor parent).1 := by
  unfold pushAll
  rw [List.foldl_append]
  rfl

@[simp] theorem size_pushAll : (pushAll entries).size = entries.length := by
  induction entries using List.reverseRecOn with
  | nil => rfl
  | append_singleton entries entry ih =>
      rw [pushAll_append, size_push, ih, List.length_append, List.length_singleton]

/-- The parent below which an anchor is placed: the one it names, if its number is not larger. -/
def placedBelow (id : Nat) : Option Nat :=
  (namedParent entries id).filter (· ≤ id)

theorem placedBelow_eq_some_iff {id above : Nat} :
    placedBelow entries id = some above ↔ namedParent entries id = some above ∧ above ≤ id := by
  rw [placedBelow, Option.filter_eq_some_iff, decide_eq_true_iff]

theorem arranged_pushAll : (pushAll entries).Arranged (placedBelow entries) := by
  induction entries using List.reverseRecOn with
  | nil => exact arranged_empty _
  | append_singleton entries entry ih =>
      rw [pushAll_append]
      apply ih.push_given entry.1
      · intro id inside
        rw [size_pushAll] at inside
        unfold placedBelow namedParent
        rw [List.getElem?_append_left inside]
      · unfold placedBelow namedParent placeOfNew
        simp

/-- The same anchors, with their own numbers and those of later ones as parents left out. -/
def upright : List (Anchor × Option Nat) :=
  entries.mapIdx fun id entry => (entry.1, entry.2.filter (· < id))

@[simp] theorem length_upright : (upright entries).length = entries.length :=
  List.length_mapIdx

theorem placedBelow_upright_eq_some_iff {id above : Nat} :
    placedBelow (upright entries) id = some above ↔
      placedBelow entries id = some above ∧ above ≠ id := by
  have named : namedParent (upright entries) id = (namedParent entries id).filter (· < id) := by
    unfold namedParent upright
    rw [List.getElem?_mapIdx]
    cases entries[id]? <;> rfl
  rw [placedBelow_eq_some_iff, placedBelow_eq_some_iff, named, Option.filter_eq_some_iff,
    decide_eq_true_iff]
  constructor
  · rintro ⟨⟨given, before⟩, _⟩
    exact ⟨⟨given, Nat.le_of_lt before⟩, Nat.ne_of_lt before⟩
  · rintro ⟨⟨given, known⟩, other⟩
    exact ⟨⟨given, Nat.lt_of_le_of_ne known other⟩, known⟩

theorem planted_upright : (pushAll (upright entries)).Planted := by
  apply (arranged_pushAll (upright entries)).planted
  intro child above _ placed
  obtain ⟨given, other⟩ := (placedBelow_upright_eq_some_iff entries).mp placed
  exact Nat.lt_of_le_of_ne ((placedBelow_eq_some_iff entries).mp given).2 other

end Built

/-! ### Anchors that are below themselves -/

section Itself

variable {entries : List (Anchor × Option Nat)}

theorem mem_children_pushAll {id child : Nat} :
    child ∈ (pushAll entries).children id ↔ namedParent entries child = some id ∧ id ≤ child := by
  rw [(arranged_pushAll entries).mem_children_iff, size_pushAll, placedBelow_eq_some_iff]
  apply and_iff_right_of_imp
  rintro ⟨named, _⟩
  by_contra outside
  rw [namedParent, List.getElem?_eq_none (Nat.not_lt.mp outside)] at named
  cases named

theorem mem_rootList_pushAll {id : Nat} :
    id ∈ (pushAll entries).rootList ↔
      id < entries.length ∧ ∀ above, namedParent entries id = some above → id < above := by
  rw [(arranged_pushAll entries).mem_rootList_iff, size_pushAll, Option.eq_none_iff_forall_ne_some]
  apply and_congr_right
  intro _
  apply forall_congr'
  intro above
  rw [ne_eq, placedBelow_eq_some_iff, not_and, Nat.not_le]

theorem eq_of_mem_children {upper other lower : Nat}
    (first : lower ∈ (pushAll entries).children upper)
    (second : lower ∈ (pushAll entries).children other) : upper = other := by
  have named := (mem_children_pushAll.mp first).1
  rw [(mem_children_pushAll.mp second).1] at named
  exact (Option.some.inj named).symm

theorem not_mem_children_of_root {id : Nat} (root : id ∈ (pushAll entries).rootList) (upper : Nat) :
    id ∉ (pushAll entries).children upper := by
  intro below
  obtain ⟨named, known⟩ := mem_children_pushAll.mp below
  exact Nat.not_lt.mpr known ((mem_rootList_pushAll.mp root).2 upper named)

theorem named_ne_self_of_reaches {start id : Nat} (root : start ∈ (pushAll entries).rootList)
    (leads : (pushAll entries).Reaches start id) :
    ∀ above, (pushAll entries).Reaches above id → namedParent entries above ≠ some above := by
  induction leads with
  | refl =>
      intro above higher own
      rcases higher.cases_tail with rfl | ⟨upper, _, below⟩
      · have itself := mem_children_pushAll.mpr ⟨own, Nat.le_refl _⟩
        exact not_mem_children_of_root root _ itself
      · exact not_mem_children_of_root root upper below
  | @tail upper lower _ below ih =>
      intro above higher own
      rcases higher.cases_tail with rfl | ⟨other, higher, otherBelow⟩
      -- An anchor that names itself is below nothing else.
      · have same := eq_of_mem_children below (mem_children_pushAll.mpr ⟨own, Nat.le_refl _⟩)
        subst same
        exact ih upper .refl own
      · rw [eq_of_mem_children otherBelow below] at higher
        exact ih above higher own

theorem exists_lower_parent {id : Nat} (inside : id < entries.length)
    (other : namedParent entries id ≠ some id) (unrooted : id ∉ (pushAll entries).rootList) :
    ∃ upper, upper < id ∧ id ∈ (pushAll entries).children upper := by
  have placed : ∃ upper, namedParent entries id = some upper ∧ ¬id < upper := by
    by_contra none
    apply unrooted
    refine mem_rootList_pushAll.mpr ⟨inside, fun above named => ?_⟩
    by_contra known
    exact none ⟨above, named, known⟩
  obtain ⟨upper, named, notAfter⟩ := placed
  have known := Nat.not_lt.mp notAfter
  have apart : upper ≠ id := by
    rintro rfl
    exact other named
  exact ⟨upper, Nat.lt_of_le_of_ne known apart, mem_children_pushAll.mpr ⟨named, known⟩⟩

theorem exists_root_above {id : Nat} (inside : id < entries.length)
    (free : ∀ above, (pushAll entries).Reaches above id → namedParent entries above ≠ some above) :
    ∃ start, start ∈ (pushAll entries).rootList ∧ (pushAll entries).Reaches start id := by
  induction id using Nat.strongRecOn with
  | ind id ih =>
      by_cases root : id ∈ (pushAll entries).rootList
      · exact ⟨id, root, .refl⟩
      · obtain ⟨upper, before, below⟩ := exists_lower_parent inside (free id .refl) root
        obtain ⟨start, atRoot, leads⟩ := ih upper before (Nat.lt_trans before inside)
          fun above higher => free above (higher.tail below)
        exact ⟨start, atRoot, leads.tail below⟩

/-- The walk from the roots meets the anchors that are not below one which names itself. -/
theorem mem_flatten_rootList_pushAll {id : Nat} :
    id ∈ (pushAll entries).flatten (pushAll entries).rootList ↔
      id < entries.length ∧ ∀ above, (pushAll entries).Reaches above id →
        namedParent entries above ≠ some above := by
  rw [mem_flatten_iff, size_pushAll]
  apply and_congr_right
  intro inside
  constructor
  · rintro ⟨start, root, leads⟩
    exact named_ne_self_of_reaches root leads
  · exact exists_root_above inside

end Itself

/-! ### Listings without end -/

/-- An anchor that is kept, and so is all on the way from it down to one that is below itself. -/
inductive Endless (forest : Forest) (keep : Anchor → Bool) : Nat → Prop
  | itself {id : Nat} {anchor : Anchor} : (forest.get? id).filter keep = some anchor →
      id ∈ forest.children id → Endless forest keep id
  | further {id child : Nat} {anchor : Anchor} : (forest.get? id).filter keep = some anchor →
      child ∈ forest.children id → Endless forest keep child → Endless forest keep id

section Endless

variable {forest : Forest} {keep : Anchor → Bool} {showLine : Option Bool}

theorem Endless.accepted {id : Nat} (endless : forest.Endless keep id) :
    ∃ anchor, (forest.get? id).filter keep = some anchor := by
  cases endless with
  | itself accepted _ => exact ⟨_, accepted⟩
  | further accepted _ _ => exact ⟨_, accepted⟩

theorem Endless.exists_child {id : Nat} (endless : forest.Endless keep id) :
    ∃ child, child ∈ forest.children id ∧ forest.Endless keep child := by
  cases endless with
  | itself accepted own => exact ⟨id, own, .itself accepted own⟩
  | further _ known endless => exact ⟨_, known, endless⟩

theorem runFrames_eq_none_of_endless (steps : Nat) (frame : Frame) (outer : List Frame)
    (waits : ∃ opened, opened ∈ frame :: outer ∧
      ∃ id, id ∈ opened.pending ∧ forest.Endless keep id) :
    forest.runFrames showLine keep steps frame outer = none := by
  -- One waits after each step: the frame that is opened for it has another.
  induction steps generalizing frame outer with
  | zero => rfl
  | succ steps ih =>
      obtain ⟨anchor, finished, pending⟩ := frame
      rw [List.exists_mem_cons_iff] at waits
      cases pending with
      | nil =>
          have outside := waits.resolve_left fun ⟨_, known, _⟩ => List.not_mem_nil known
          cases outer with
          | nil =>
              obtain ⟨_, member, _⟩ := outside
              cases member
          | cons next outer =>
              rw [runFrames_inner _ _ _ _ _ _ rfl]
              apply ih
              rw [List.exists_mem_cons_iff] at outside ⊢
              exact outside
      | cons child pending =>
          rw [List.exists_mem_cons_iff] at waits
          cases found : (forest.get? child).filter keep with
          | none =>
              rw [runFrames_of_rejected found]
              apply ih
              rw [List.exists_mem_cons_iff]
              rcases waits with (endless | later) | further
              · obtain ⟨_, accepted⟩ := endless.accepted
                rw [found] at accepted
                cases accepted
              · exact Or.inl later
              · exact Or.inr further
          | some inner =>
              rw [runFrames_of_accepted found]
              apply ih
              rw [List.exists_mem_cons_iff, List.exists_mem_cons_iff]
              rcases waits with (endless | later) | further
              · exact Or.inl endless.exists_child
              · exact Or.inr (Or.inl later)
              · exact Or.inr (Or.inr further)

theorem runFrames_below_eq_none {id : Nat} (endless : forest.Endless keep id) (anchor : Anchor)
    (steps : Nat) :
    forest.runFrames showLine keep steps ⟨anchor, [], forest.children id⟩ [] = none :=
  runFrames_eq_none_of_endless steps _ _ ⟨_, List.mem_cons_self, endless.exists_child⟩

theorem projectTrees?_eq_none_of_endless {ids : List Nat} {id : Nat} (member : id ∈ ids)
    (endless : forest.Endless keep id) : forest.projectTrees? showLine keep ids = none := by
  induction ids with
  | nil => cases member
  | cons first rest ih =>
      rw [projectTrees?]
      rcases List.mem_cons.mp member with rfl | later
      · obtain ⟨anchor, accepted⟩ := endless.accepted
        rw [projectTree?, accepted]
        dsimp only
        rw [runFrames_below_eq_none endless]
        rfl
      · rw [ih later]
        cases forest.projectTree? showLine keep first <;> rfl

variable {entries : List (Anchor × Option Nat)}

theorem exists_projectTrees?_of_not_endless (showLine : Option Bool) {ids : List Nat}
    (calm : ∀ id, id ∈ ids → ¬(pushAll entries).Endless keep id) :
    ∃ nodes, (pushAll entries).projectTrees? showLine keep ids = some nodes := by
  have sameSize : (pushAll (upright entries)).size = (pushAll entries).size := by simp
  -- Where no anchor on the way is below itself, the forest is like one in which these are roots.
  have agree : ∀ id anchor, ¬(pushAll entries).Endless keep id →
      ((pushAll entries).get? id).filter keep = some anchor →
      (pushAll entries).children id = (pushAll (upright entries)).children id ∧
        ∀ child, child ∈ (pushAll entries).children id → ¬(pushAll entries).Endless keep child := by
    intro id anchor notEndless accepted
    refine ⟨?_, fun child known endless => notEndless (.further accepted known endless)⟩
    rw [(arranged_pushAll entries).children_eq, (arranged_pushAll (upright entries)).children_eq,
      sameSize]
    apply List.filter_congr
    intro child inside
    rw [decide_eq_decide, placedBelow_upright_eq_some_iff]
    apply (and_iff_left_of_imp _).symm
    rintro placed rfl
    have own := (arranged_pushAll entries).mem_children_iff.mpr ⟨List.mem_range.mp inside, placed⟩
    exact notEndless (.itself accepted own)
  obtain ⟨nodes, _, listed, _⟩ :=
    (planted_upright entries).finishes_where sameSize _ agree showLine ids calm
  exact ⟨nodes, listed⟩

theorem project?_pushAll_eq_none_iff (ids : List Nat) :
    (pushAll entries).project? ids true showLine keep = none ↔
      ∃ id, id ∈ ids ∧ (pushAll entries).Endless keep id := by
  rw [project?, if_pos rfl]
  constructor
  · intro missing
    by_contra none
    obtain ⟨nodes, listed⟩ := exists_projectTrees?_of_not_endless showLine
      fun id member endless => none ⟨id, member, endless⟩
    rw [missing] at listed
    cases listed
  · rintro ⟨id, member, endless⟩
    exact projectTrees?_eq_none_of_endless member endless

theorem Endless.exists_own {id : Nat} (endless : (pushAll entries).Endless keep id) :
    ∃ own, namedParent entries own = some own := by
  induction endless with
  | itself _ own => exact ⟨_, (mem_children_pushAll.mp own).1⟩
  | further _ _ _ ih => exact ih

end Endless

/-! ### Each anchor once -/

theorem perm_range_pushAll (entries : List (Anchor × Option Nat)) :
    ((pushAll entries).rootList ++
      (List.range entries.length).flatMap (pushAll entries).children).Perm
        (List.range entries.length) := by
  have arranged := arranged_pushAll entries
  have childrenNodup (id : Nat) : ((pushAll entries).children id).Nodup := by
    rw [arranged.children_eq]
    exact List.nodup_range.filter _
  have rootsNodup : (pushAll entries).rootList.Nodup := by
    rw [arranged.roots_eq]
    exact List.nodup_range.filter _
  have nodup : ((pushAll entries).rootList ++
      (List.range entries.length).flatMap (pushAll entries).children).Nodup := by
    refine List.nodup_append.mpr ⟨rootsNodup, ?_, ?_⟩
    · refine List.nodup_flatMap.mpr ⟨fun id _ => childrenNodup id, ?_⟩
      refine List.nodup_range.imp ?_
      intro upper other different child first second
      exact different (eq_of_mem_children first second)
    · rintro id root child below rfl
      obtain ⟨above, _, known⟩ := List.mem_flatMap.mp below
      rw [arranged.mem_children_iff] at known
      rw [arranged.mem_rootList_iff, known.2] at root
      cases root.2
  refine (List.perm_ext_iff_of_nodup nodup List.nodup_range).mpr ?_
  intro id
  rw [List.mem_append, List.mem_flatMap, List.mem_range]
  simp only [arranged.mem_rootList_iff, arranged.mem_children_iff, size_pushAll, List.mem_range]
  constructor
  · rintro (⟨inside, _⟩ | ⟨_, _, inside, _⟩) <;> exact inside
  · intro inside
    cases placed : placedBelow entries id with
    | none => exact Or.inl ⟨inside, rfl⟩
    | some above =>
        have known := ((placedBelow_eq_some_iff entries).mp placed).2
        exact Or.inr ⟨above, Nat.lt_of_le_of_lt known inside, inside, rfl⟩

/-- Anchors make up a forest whatever parents they name, as long as none names its own number. In
any case each is listed once, with its parent if that is not larger than its own number. One that
names itself takes what is below it out of the walk from the roots, and a listing that gets to it
does not end after any number of steps. -/
theorem pushes_build_forest_iff (entries : List (Anchor × Option Nat)) :
    (BuildsForest entries ↔ ∀ id, namedParent entries id ≠ some id) ∧
      (∀ id, id ∈ (pushAll entries).rootList ↔
        id < entries.length ∧ ∀ above, namedParent entries id = some above → id < above) ∧
      (∀ id child, child ∈ (pushAll entries).children id ↔
        namedParent entries child = some id ∧ id ≤ child) ∧
      ((pushAll entries).rootList ++
        (List.range entries.length).flatMap (pushAll entries).children).Perm
          (List.range entries.length) ∧
      (∀ id, id ∈ (pushAll entries).flatten (pushAll entries).rootList ↔
        id < entries.length ∧ ∀ above, (pushAll entries).Reaches above id →
          namedParent entries above ≠ some above) ∧
      (∀ ids showLine keep, (pushAll entries).project? ids true showLine keep = none ↔
        ∃ id, id ∈ ids ∧ (pushAll entries).Endless keep id) ∧
      (∀ id showLine keep anchor steps, (pushAll entries).Endless keep id →
        (pushAll entries).runFrames showLine keep steps
          ⟨anchor, [], (pushAll entries).children id⟩ [] = none) := by
  have once := perm_range_pushAll entries
  refine ⟨⟨fun builds id own => ?_, fun noneOwn => ?_⟩, fun id => mem_rootList_pushAll,
    fun id child => mem_children_pushAll, once, fun id => mem_flatten_rootList_pushAll,
    fun ids _ _ => project?_pushAll_eq_none_iff ids,
    fun _ _ _ anchor steps endless => runFrames_below_eq_none endless anchor steps⟩
  · exact Nat.lt_irrefl id
      (builds.later id id (mem_children_pushAll.mpr ⟨own, Nat.le_refl id⟩))
  · refine ⟨fun id => ?_, fun id child below => ?_, once, fun id inside => ?_,
      fun ids showLine keep => ?_⟩
    · rw [mem_rootList_pushAll]
      apply and_congr_right
      intro _
      apply forall_congr'
      intro above
      apply imp_congr_right
      intro named
      have other : id ≠ above := by
        rintro rfl
        exact noneOwn id named
      exact (Nat.le_iff_lt_or_eq.trans (or_iff_left other)).symm
    · obtain ⟨named, known⟩ := mem_children_pushAll.mp below
      refine Nat.lt_of_le_of_ne known ?_
      rintro rfl
      exact noneOwn id named
    · exact mem_flatten_rootList_pushAll.mpr ⟨inside, fun above _ => noneOwn above⟩
    · apply Option.ne_none_iff_exists'.mp
      intro missing
      obtain ⟨id, _, endless⟩ := (project?_pushAll_eq_none_iff ids).mp missing
      obtain ⟨own, named⟩ := endless.exists_own
      exact noneOwn own named

end Waymark.Forest
