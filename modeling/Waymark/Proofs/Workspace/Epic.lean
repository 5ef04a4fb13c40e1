import Mathlib.Data.String.Basic
import Waymark.Workspace.Epic
import Waymark.Proofs.Data.SortedMap
import Waymark.Proofs.Data.StableSort
import Waymark.Path.Order

set_option autoImplicit false

/-! Epics as a partition of the roots that the workspace shows. The roots stand in the order of their
documents and of their places there; each is put at the end of the list of its epic, and the lists
are sorted by `seq`, which leaves that order among the roots with one `seq`. -/

namespace Waymark

/-- A root, its document, and how many roots come before it there. -/
structure PlacedRoot where
  document : Path
  place : Nat
  anchor : Anchor

namespace PlacedRoot

def belongsTo (epic : String) (root : PlacedRoot) : Bool :=
  root.anchor.isWorkspaceVisible && root.anchor.attributes.epic == some epic

def Before (first second : PlacedRoot) : Prop :=
  compare first.document second.document = .lt ∨
    first.document = second.document ∧ first.place < second.place

def Precedes (first second : PlacedRoot) : Prop :=
  first.anchor.attributes.seq < second.anchor.attributes.seq ∨
    first.anchor.attributes.seq = second.anchor.attributes.seq ∧ first.Before second

theorem Before.asymm {first second : PlacedRoot} (before : first.Before second) :
    ¬ second.Before first := by
  unfold Before at before ⊢
  intro after
  rcases before with earlier | ⟨same, smaller⟩
  · rcases after with later | ⟨equal, _⟩
    · exact Std.OrientedCmp.not_lt_of_lt earlier later
    · rw [equal, Std.compare_self] at earlier
      cases earlier
  · rcases after with later | ⟨_, greater⟩
    · rw [same, Std.compare_self] at later
      cases later
    · omega

theorem Precedes.asymm {first second : PlacedRoot} (before : first.Precedes second) :
    ¬ second.Precedes first := by
  unfold Precedes at before ⊢
  intro after
  rcases before with smaller | ⟨same, earlier⟩
  · rcases after with greater | ⟨equal, _⟩ <;> omega
  · rcases after with greater | ⟨_, later⟩
    · omega
    · exact earlier.asymm later

end PlacedRoot

namespace Workspace

def placedRoots (workspace : Workspace) : List PlacedRoot :=
  workspace.documents.entries.flatMap fun (document, index) =>
    index.roots.mapIdx fun place anchor => ⟨document, place, anchor⟩

/-! ### Roots in order -/

private theorem map_anchor_mapIdx (document : Path) (anchors : List Anchor) :
    (anchors.mapIdx fun place anchor => PlacedRoot.mk document place anchor).map
      PlacedRoot.anchor = anchors := by
  apply List.ext_getElem
  · rw [List.length_map, List.length_mapIdx]
  · intro place _ _
    rw [List.getElem_map, List.getElem_mapIdx]

theorem visibleRoots_eq (workspace : Workspace) :
    workspace.visibleRoots =
      (workspace.placedRoots.filter fun root => root.anchor.isWorkspaceVisible).map
        PlacedRoot.anchor := by
  unfold visibleRoots placedRoots SortedMap.values
  rw [List.flatMap_map, List.filter_flatMap, List.map_flatMap]
  congr 1
  funext entry
  have kept := List.filter_map (f := PlacedRoot.anchor) (p := Anchor.isWorkspaceVisible)
    (l := entry.2.roots.mapIdx fun place anchor => PlacedRoot.mk entry.1 place anchor)
  rw [map_anchor_mapIdx] at kept
  exact kept

theorem placedRoots_pairwise (workspace : Workspace) :
    workspace.placedRoots.Pairwise PlacedRoot.Before := by
  unfold placedRoots
  rw [List.pairwise_flatMap]
  constructor
  · intro entry _
    rw [List.pairwise_iff_getElem]
    intro first second _ _ before
    rw [List.getElem_mapIdx, List.getElem_mapIdx]
    exact Or.inr ⟨rfl, before⟩
  · refine List.Pairwise.imp ?_ workspace.documents.ascending
    intro first second before root member other otherMember
    obtain ⟨place, inside, same⟩ := List.mem_mapIdx.mp member
    obtain ⟨otherPlace, otherInside, otherSame⟩ := List.mem_mapIdx.mp otherMember
    rw [← same, ← otherSame]
    exact Or.inl before

/-! ### Lists by epic -/

section Grouping

variable {epics : Epics}

def carries (epic : String) (anchor : Anchor) : Bool := anchor.attributes.epic == some epic

def Filled (epics : Epics) : Prop := ∀ epic anchors, epics.find? epic = some anchors → anchors ≠ []

theorem find?_addToEpic (anchor : Anchor) (epic : String) :
    (addToEpic epics anchor).find? epic =
      if carries epic anchor then some ((epics.find? epic).getD [] ++ [anchor])
      else epics.find? epic := by
  unfold addToEpic carries
  cases own : anchor.attributes.epic with
  | none => rfl
  | some other =>
      dsimp only
      rw [SortedMap.find?_insert]
      by_cases same : epic = other
      · rw [same, if_pos Std.ReflCmp.compare_self, if_pos (beq_self_eq_true _)]
      · have apart : compare epic other ≠ .eq := fun equal => same (Std.LawfulEqOrd.eq_of_compare equal)
        have unlike : ¬ (some other == some epic) = true := by
          intro equal
          exact same (Option.some.inj (eq_of_beq equal)).symm
        rw [if_neg apart, if_neg unlike]

theorem Filled.addToEpic (filled : Filled epics) (anchor : Anchor) :
    Filled (addToEpic epics anchor) := by
  intro epic anchors found
  rw [find?_addToEpic] at found
  split at found
  · rw [← Option.some.inj found]
    exact List.append_ne_nil_of_right_ne_nil _ (List.cons_ne_nil anchor [])
  · exact filled epic anchors found

theorem getD_find?_addToEpic (anchor : Anchor) (epic : String) :
    ((addToEpic epics anchor).find? epic).getD [] =
      (epics.find? epic).getD [] ++ [anchor].filter (carries epic) := by
  rw [find?_addToEpic]
  by_cases own : carries epic anchor = true
  · rw [if_pos own, List.filter_cons_of_pos own]
    rfl
  · rw [if_neg own, List.filter_cons_of_neg own, List.filter_nil, List.append_nil]

structure Grouped (anchors : List Anchor) (epics : Epics) : Prop where
  filled : Filled epics
  lookups : ∀ epic, (epics.find? epic).getD [] = anchors.filter (carries epic)

theorem Grouped.addToEpic {anchors : List Anchor} (grouped : Grouped anchors epics)
    (anchor : Anchor) : Grouped (anchors ++ [anchor]) (addToEpic epics anchor) := by
  refine ⟨grouped.filled.addToEpic anchor, ?_⟩
  intro epic
  rw [getD_find?_addToEpic, grouped.lookups, List.filter_append]

theorem Grouped.foldl {earlier : List Anchor} (grouped : Grouped earlier epics)
    (anchors : List Anchor) : Grouped (earlier ++ anchors) (anchors.foldl Workspace.addToEpic epics) := by
  induction anchors generalizing earlier epics with
  | nil =>
      rw [List.append_nil]
      exact grouped
  | cons anchor rest ih =>
      rw [List.append_cons]
      exact ih (grouped.addToEpic anchor)

theorem grouped_visibleRoots (workspace : Workspace) :
    Grouped workspace.visibleRoots (workspace.visibleRoots.foldl Workspace.addToEpic {}) := by
  have empty : Grouped [] {} := by
    refine ⟨?_, fun _ => rfl⟩
    intro epic anchors found
    cases found
  exact empty.foldl workspace.visibleRoots

theorem Grouped.eq_of_mem {anchors members : List Anchor} (grouped : Grouped anchors epics)
    {epic : String} (member : (epic, members) ∈ epics.entries) :
    members = anchors.filter (carries epic) ∧ members ≠ [] := by
  have found := SortedMap.find?_of_mem member
  have listed := grouped.lookups epic
  rw [found] at listed
  exact ⟨listed, grouped.filled epic members found⟩

theorem Grouped.mem_keys_iff {anchors : List Anchor} (grouped : Grouped anchors epics)
    (epic : String) : epic ∈ epics.keys ↔ ∃ anchor, anchor ∈ anchors ∧ carries epic anchor = true := by
  constructor
  · intro stored
    obtain ⟨entry, member, rfl⟩ := List.mem_map.mp stored
    obtain ⟨listed, filled⟩ := grouped.eq_of_mem member
    obtain ⟨anchor, inside⟩ := List.exists_mem_of_ne_nil entry.2 filled
    rw [listed] at inside
    exact ⟨anchor, List.mem_filter.mp inside⟩
  · intro ⟨anchor, member, own⟩
    have listed : anchor ∈ (epics.find? epic).getD [] := by
      rw [grouped.lookups]
      exact List.mem_filter.mpr ⟨member, own⟩
    cases found : epics.find? epic with
    | none =>
        rw [found] at listed
        cases listed
    | some members =>
        have entry := (SortedMap.find?_eq_some_iff epics epic members).mp found
        exact List.mem_map_of_mem entry

end Grouping

/-! ### Lists by `seq` -/

private theorem seq_transitive (a b c : PlacedRoot)
    (first : decide (a.anchor.attributes.seq ≤ b.anchor.attributes.seq) = true)
    (second : decide (b.anchor.attributes.seq ≤ c.anchor.attributes.seq) = true) :
    decide (a.anchor.attributes.seq ≤ c.anchor.attributes.seq) = true := by
  rw [decide_eq_true_iff] at first second ⊢
  omega

private theorem seq_total (a b : PlacedRoot) :
    (decide (a.anchor.attributes.seq ≤ b.anchor.attributes.seq) ||
      decide (b.anchor.attributes.seq ≤ a.anchor.attributes.seq)) = true := by
  rw [Bool.or_eq_true, decide_eq_true_iff, decide_eq_true_iff]
  omega

theorem pairwise_sort_seq {roots : List PlacedRoot} (ordered : roots.Pairwise PlacedRoot.Before) :
    (roots.mergeSort fun a b =>
      decide (a.anchor.attributes.seq ≤ b.anchor.attributes.seq)).Pairwise
        PlacedRoot.Precedes := by
  refine List.Pairwise.imp ?_ (StableSort.pairwise_mergeSort seq_transitive seq_total ordered)
  intro first second ⟨forward, tie⟩
  rw [decide_eq_true_iff] at forward tie
  unfold PlacedRoot.Precedes
  by_cases later : second.anchor.attributes.seq ≤ first.anchor.attributes.seq
  · exact Or.inr ⟨by omega, tie later⟩
  · exact Or.inl (by omega)

theorem carries_visibleRoots (workspace : Workspace) (epic : String) :
    workspace.visibleRoots.filter (carries epic) =
      (workspace.placedRoots.filter (PlacedRoot.belongsTo epic)).map PlacedRoot.anchor := by
  rw [visibleRoots_eq, List.filter_map, List.filter_filter]
  congr 2
  funext root
  exact Bool.and_comm _ _

/-- The epics of a workspace are a partition of the roots that it shows and that have an epic: the
names ascend, none of the lists is empty, and each holds the roots of its own epic, each once, by
`seq`, then by document, then by place in the document. -/
theorem epics_partition_roots (workspace : Workspace) :
    SortedMap.Ascending workspace.epics.entries ∧
    (∀ epic, epic ∈ workspace.epics.keys ↔
      ∃ root, root ∈ workspace.placedRoots ∧ root.belongsTo epic = true) ∧
    ∀ epic anchors, (epic, anchors) ∈ workspace.epics.entries →
      anchors ≠ [] ∧ ∃ roots : List PlacedRoot, anchors = roots.map PlacedRoot.anchor ∧
        roots.Perm (workspace.placedRoots.filter (PlacedRoot.belongsTo epic)) ∧
        roots.Pairwise PlacedRoot.Precedes := by
  have grouped := grouped_visibleRoots workspace
  refine ⟨workspace.epics.ascending, ?_, ?_⟩
  · intro epic
    have keys : workspace.epics.keys = (workspace.visibleRoots.foldl addToEpic {}).keys :=
      List.map_map
    rw [keys, grouped.mem_keys_iff, visibleRoots_eq]
    constructor
    · intro ⟨anchor, member, own⟩
      obtain ⟨root, shown, rfl⟩ := List.mem_map.mp member
      obtain ⟨placed, visible⟩ := List.mem_filter.mp shown
      exact ⟨root, placed, Bool.and_eq_true_iff.mpr ⟨visible, own⟩⟩
    · intro ⟨root, placed, belongs⟩
      obtain ⟨visible, own⟩ := Bool.and_eq_true_iff.mp belongs
      exact ⟨root.anchor, List.mem_map_of_mem (List.mem_filter.mpr ⟨placed, visible⟩), own⟩
  · intro epic anchors member
    obtain ⟨entry, listed, same⟩ := List.mem_map.mp member
    obtain ⟨rfl, rfl⟩ := Prod.mk.inj same
    obtain ⟨equal, filled⟩ := grouped.eq_of_mem listed
    have sorted := List.map_mergeSort (f := PlacedRoot.anchor)
      (s := fun a b => decide (a.attributes.seq ≤ b.attributes.seq))
      (l := workspace.placedRoots.filter (PlacedRoot.belongsTo entry.1))
      (fun a _ b _ => rfl)
    rw [← carries_visibleRoots, ← equal] at sorted
    refine ⟨?_, _, sorted.symm, List.mergeSort_perm _ _, ?_⟩
    · intro empty
      have lengths := congrArg List.length empty
      rw [List.length_mergeSort] at lengths
      exact filled (List.eq_nil_of_length_eq_zero lengths)
    · exact pairwise_sort_seq (workspace.placedRoots_pairwise.filter _)

def rootOf (document : Path) (epic : String) (seq : Int) : Anchor :=
  { tag := "TODO", text := "TODO", comment := "", start := 0, stop := 4, line := 1
    behavior := .marker, scope := .workspace, showLine := true, document
    attributes := { epic := some epic, seq, id := none }, kind := .plain }

def indexOf (document : Path) (seq : Int) : Index :=
  .build document (Forest.empty.push (rootOf document "walk" seq) none).1

/-- The smaller `seq` comes first, though its document comes last. -/
theorem epics_partition_roots_two_documents :
    let workspace := (({} : Workspace).insert ⟨"b"⟩ (indexOf ⟨"b"⟩ (-1))).insert ⟨"a"⟩
      (indexOf ⟨"a"⟩ 3)
    SortedMap.Ascending workspace.documents.entries ∧ "walk" ∈ workspace.epics.keys ∧
      ∀ anchors, ("walk", anchors) ∈ workspace.epics.entries →
        anchors = [rootOf ⟨"b"⟩ "walk" (-1), rootOf ⟨"a"⟩ "walk" 3] := by
  intro workspace
  obtain ⟨_, keys, lists⟩ := epics_partition_roots workspace
  have placed : workspace.placedRoots =
      [⟨⟨"a"⟩, 0, rootOf ⟨"a"⟩ "walk" 3⟩, ⟨⟨"b"⟩, 0, rootOf ⟨"b"⟩ "walk" (-1)⟩] := rfl
  refine ⟨workspace.documents.ascending, (keys "walk").mpr ?_, ?_⟩
  · rw [placed]
    exact ⟨_, List.mem_cons_self, rfl⟩
  · intro anchors member
    obtain ⟨_, roots, rfl, perm, ordered⟩ := lists "walk" anchors member
    rw [placed] at perm
    have sorted : [⟨⟨"b"⟩, 0, rootOf ⟨"b"⟩ "walk" (-1)⟩, ⟨⟨"a"⟩, 0, rootOf ⟨"a"⟩ "walk" 3⟩].Pairwise
        PlacedRoot.Precedes := List.pairwise_pair.mpr (Or.inl (by decide))
    have same := List.Perm.eq_of_pairwise
      (fun a b _ _ before after => absurd after before.asymm) ordered sorted
      (perm.trans (List.Perm.swap _ _ _))
    rw [same]
    rfl

end Workspace

end Waymark
