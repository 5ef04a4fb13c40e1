import Waymark.Anchor.Listing
import Waymark.Proofs.Anchor.Walk

set_option autoImplicit false

/-! The tree listing of a forest. It is built with a stack of unfinished nodes, and is what the
recursion over the anchors below each anchor gives. Read from the top down, it lists the anchors of
the walk that the listing keeps along with everything that they are below. -/

namespace Waymark

namespace AnchorNode

mutual

def unfolded : AnchorNode → List AnchorNode
  | ⟨label, anchor, children⟩ => ⟨label, anchor, []⟩ :: unfoldedEach children

def unfoldedEach : List AnchorNode → List AnchorNode
  | [] => []
  | node :: rest => unfolded node ++ unfoldedEach rest

end

def single (showLine : Option Bool) (anchor : Anchor) : AnchorNode :=
  ofAnchor showLine anchor []

theorem unfoldedEach_cons_ofAnchor (showLine : Option Bool) (anchor : Anchor)
    (children rest : List AnchorNode) :
    unfoldedEach (ofAnchor showLine anchor children :: rest) =
      single showLine anchor :: (unfoldedEach children ++ unfoldedEach rest) := rfl

end AnchorNode

namespace Forest

/-- Whether a function lists anchors by recursion: a node for each anchor that `keep` accepts, and
below it the list of its children. -/
def ListsBelow (forest : Forest) (showLine : Option Bool) (keep : Anchor → Bool)
    (list : List Nat → List AnchorNode) : Prop :=
  ∀ ids, list ids = ids.filterMap fun id => ((forest.get? id).filter keep).map fun anchor =>
    .ofAnchor showLine anchor (list (forest.children id))

def keepsLineage (forest : Forest) (keep : Anchor → Bool) (id : Nat) : Bool :=
  (forest.lineage id).all fun above => (forest.get? above).any keep

variable {forest : Forest} {showLine : Option Bool} {keep : Anchor → Bool}

theorem keepsLineage_of_all (all : ∀ id anchor, forest.get? id = some anchor → keep anchor = true)
    {id : Nat} (inside : id < forest.size) : forest.keepsLineage keep id = true := by
  apply List.all_eq_true.mpr
  intro above member
  have bound := le_of_mem_lineage member
  obtain ⟨anchor, found⟩ := exists_get?_of_lt (Nat.lt_of_le_of_lt bound inside)
  rw [found]
  exact all above anchor found

/-! ### Frames -/

theorem runFrames_of_rejected {child : Nat}
    (rejected : (forest.get? child).filter keep = none) (steps : Nat) (anchor : Anchor)
    (finished : List AnchorNode) (pending : List Nat) (below : List Frame) :
    forest.runFrames showLine keep (steps + 1) ⟨anchor, finished, child :: pending⟩ below =
      forest.runFrames showLine keep steps ⟨anchor, finished, pending⟩ below := by
  simp only [runFrames, rejected]

theorem runFrames_of_accepted {child : Nat} {inner : Anchor}
    (accepted : (forest.get? child).filter keep = some inner) (steps : Nat) (anchor : Anchor)
    (finished : List AnchorNode) (pending : List Nat) (below : List Frame) :
    forest.runFrames showLine keep (steps + 1) ⟨anchor, finished, child :: pending⟩ below =
      forest.runFrames showLine keep steps ⟨inner, [], forest.children child⟩
        (⟨anchor, finished, pending⟩ :: below) := by
  simp only [runFrames, accepted]

theorem runFrames_inner (steps : Nat) (frame : Frame) (outer : Anchor)
    (finished : List AnchorNode) (pending : List Nat) (below : List Frame)
    (complete : frame.pending = []) :
    forest.runFrames showLine keep (steps + 1) frame (⟨outer, finished, pending⟩ :: below) =
      forest.runFrames showLine keep steps
        ⟨outer, frame.node showLine :: finished, pending⟩ below := by
  simp only [runFrames, complete]

theorem runFrames_last (steps : Nat) (frame : Frame) (complete : frame.pending = []) :
    forest.runFrames showLine keep (steps + 1) frame [] = some (frame.node showLine) := by
  simp only [runFrames, complete]

/-- In some steps the anchors that wait in a frame become its next finished nodes. -/
def Finishes (forest : Forest) (showLine : Option Bool) (keep : Anchor → Bool) (cost : Nat)
    (ids : List Nat) (nodes : List AnchorNode) : Prop :=
  ∀ steps anchor finished more below,
    forest.runFrames showLine keep (cost + steps) ⟨anchor, finished, ids ++ more⟩ below =
      forest.runFrames showLine keep steps ⟨anchor, nodes.reverse ++ finished, more⟩ below

theorem finishes_nil : forest.Finishes showLine keep 0 [] [] := by
  intro steps anchor finished more below
  rw [Nat.zero_add]
  rfl

theorem Finishes.skip {id cost : Nat} {rest : List Nat} {nodes : List AnchorNode}
    (rejected : (forest.get? id).filter keep = none)
    (finishes : forest.Finishes showLine keep cost rest nodes) :
    forest.Finishes showLine keep (cost + 1) (id :: rest) nodes := by
  intro steps anchor finished more below
  rw [Nat.add_right_comm, List.cons_append, runFrames_of_rejected rejected, finishes]

/-- A step opens the frame of an accepted anchor, and another closes it once all below is done. -/
theorem Finishes.node {id cost restCost : Nat} {rest : List Nat} {anchor : Anchor}
    {children nodes : List AnchorNode} (accepted : (forest.get? id).filter keep = some anchor)
    (childrenFinish : forest.Finishes showLine keep cost (forest.children id) children)
    (finishes : forest.Finishes showLine keep restCost rest nodes) :
    forest.Finishes showLine keep (cost + restCost + 2) (id :: rest)
      (.ofAnchor showLine anchor children :: nodes) := by
  intro steps outer finished more below
  have filled := childrenFinish (restCost + steps + 1) anchor [] []
    (⟨outer, finished, rest ++ more⟩ :: below)
  rw [List.append_nil, List.append_nil] at filled
  rw [show cost + restCost + 2 + steps = cost + (restCost + steps + 1) + 1 by omega,
    List.cons_append, runFrames_of_accepted accepted, filled, runFrames_inner _ _ _ _ _ _ rfl,
    finishes, Frame.node, List.reverse_reverse, List.reverse_cons, List.append_assoc,
    List.singleton_append]

theorem projectTrees?_cons_of_rejected {id : Nat} (rest : List Nat)
    (rejected : (forest.get? id).filter keep = none) :
    forest.projectTrees? showLine keep (id :: rest) = forest.projectTrees? showLine keep rest := by
  simp [projectTrees?, projectTree?, rejected]

/-- The steps of a listing are enough for the anchors below one anchor of the forest. -/
theorem projectTrees?_cons_of_accepted {id cost : Nat} (rest : List Nat) {anchor : Anchor}
    {children : List AnchorNode} (accepted : (forest.get? id).filter keep = some anchor)
    (childrenFinish : forest.Finishes showLine keep cost (forest.children id) children)
    (enough : cost ≤ 2 * forest.size) :
    forest.projectTrees? showLine keep (id :: rest) =
      (forest.projectTrees? showLine keep rest).map (.ofAnchor showLine anchor children :: ·) := by
  have filled := childrenFinish (2 * forest.size - cost + 1) anchor [] [] []
  rw [List.append_nil, List.append_nil, runFrames_last _ _ rfl, Frame.node, List.reverse_reverse]
    at filled
  have tree : forest.projectTree? showLine keep id =
      some [.ofAnchor showLine anchor children] := by
    simp only [projectTree?, accepted]
    rw [show 2 * forest.size + 1 = cost + (2 * forest.size - cost + 1) by omega, filled]
    rfl
  rw [projectTrees?, tree]
  rfl

theorem Planted.steps_below (planted : forest.Planted) {id cost : Nat}
    (bound : ∀ visited, forest.Walk (forest.children id) visited → cost ≤ 2 * visited.length) :
    cost ≤ 2 * forest.size := by
  obtain ⟨visited, walk⟩ := planted.exists_walk (forest.children id)
  -- The walk meets no anchor twice, so it is no longer than the forest is large.
  have fits := walk.length_le_size planted (planted.beside_children id) (planted.nodup_children id)
  have steps := bound visited walk
  omega

/-- The listing of anchors below which the forest is like one that is planted, and how many steps it
takes at most. -/
theorem Planted.finishes_where {upright : Forest} (planted : upright.Planted)
    (sameSize : upright.size = forest.size) (calm : Nat → Prop)
    (agree : ∀ id anchor, calm id → (forest.get? id).filter keep = some anchor →
      forest.children id = upright.children id ∧ ∀ child, child ∈ forest.children id → calm child)
    (showLine : Option Bool) (ids : List Nat) :
    (∀ id, id ∈ ids → calm id) →
      ∃ nodes cost, forest.projectTrees? showLine keep ids = some nodes ∧
        forest.Finishes showLine keep cost ids nodes ∧
        ∀ visited, upright.Walk ids visited → cost ≤ 2 * visited.length := by
  -- Each anchor of the walk takes one step if it is rejected, and two if it is accepted.
  induction ids using planted.induction_below with
  | nil => exact fun _ => ⟨[], 0, rfl, finishes_nil, fun _ _ => Nat.zero_le _⟩
  | cons id rest below after =>
      intro allCalm
      obtain ⟨idCalm, restCalm⟩ := List.forall_mem_cons.mp allCalm
      obtain ⟨nodes, restCost, listed, finishes, restBound⟩ := after restCalm
      cases found : (forest.get? id).filter keep with
      | none =>
          refine ⟨nodes, restCost + 1, ?_, finishes.skip found, ?_⟩
          · rw [projectTrees?_cons_of_rejected rest found, listed]
          · rintro _ (_ | ⟨_, walkAfter⟩)
            have further := restBound _ walkAfter
            simp only [List.length_cons, List.length_append]
            omega
      | some anchor =>
          obtain ⟨sameChildren, childrenCalm⟩ := agree id anchor idCalm found
          rw [sameChildren] at childrenCalm
          obtain ⟨children, cost, _, childrenFinish, bound⟩ := below childrenCalm
          have enough := planted.steps_below bound
          rw [← sameChildren] at childrenFinish
          rw [sameSize] at enough
          refine ⟨_, cost + restCost + 2, ?_, childrenFinish.node found finishes, ?_⟩
          · rw [projectTrees?_cons_of_accepted rest found childrenFinish enough, listed]
            rfl
          · rintro _ (_ | ⟨walkBelow, walkAfter⟩)
            have steps := bound _ walkBelow
            have further := restBound _ walkAfter
            simp only [List.length_cons, List.length_append]
            omega

/-- The listing of any anchors of the forest, and how many steps it takes at most. -/
theorem Planted.finishes (planted : forest.Planted) (showLine : Option Bool)
    (keep : Anchor → Bool) (ids : List Nat) :
    ∃ nodes cost, forest.projectTrees? showLine keep ids = some nodes ∧
      forest.Finishes showLine keep cost ids nodes ∧
      ∀ visited, forest.Walk ids visited → cost ≤ 2 * visited.length :=
  planted.finishes_where rfl (fun _ => True) (fun _ _ _ _ => ⟨rfl, fun _ _ => trivial⟩) showLine ids
    fun _ _ => trivial

/-! ### The recursion -/

theorem Planted.exists_listsBelow (planted : forest.Planted) (showLine : Option Bool)
    (keep : Anchor → Bool) :
    ∃ list, forest.ListsBelow showLine keep list ∧
      ∀ ids, forest.projectTrees? showLine keep ids = some (list ids) := by
  let list (ids : List Nat) := (forest.projectTrees? showLine keep ids).getD []
  have listed (ids : List Nat) : forest.projectTrees? showLine keep ids = some (list ids) := by
    obtain ⟨nodes, _, found, _, _⟩ := planted.finishes showLine keep ids
    simp only [list, found, Option.getD_some]
  refine ⟨list, ?_, listed⟩
  intro ids
  apply Option.some.inj
  rw [← listed]
  induction ids with
  | nil => rfl
  | cons id rest ih =>
      cases found : (forest.get? id).filter keep with
      | none =>
          rw [projectTrees?_cons_of_rejected rest found, ih]
          simp only [List.filterMap_cons, found, Option.map_none]
      | some anchor =>
          obtain ⟨children, cost, below, finishes, bound⟩ :=
            planted.finishes showLine keep (forest.children id)
          rw [listed] at below
          rw [projectTrees?_cons_of_accepted rest found finishes (planted.steps_below bound), ih]
          simp only [List.filterMap_cons, found, Option.map_some, Option.some.inj below]

namespace ListsBelow

variable {list : List Nat → List AnchorNode}

theorem nil (lists : forest.ListsBelow showLine keep list) : list [] = [] := lists []

theorem cons_of_rejected (lists : forest.ListsBelow showLine keep list) {id : Nat}
    (rest : List Nat) (rejected : (forest.get? id).filter keep = none) :
    list (id :: rest) = list rest := by
  rw [lists (id :: rest), lists rest, List.filterMap_cons, rejected]
  rfl

theorem cons_of_accepted (lists : forest.ListsBelow showLine keep list) {id : Nat} {anchor : Anchor}
    (rest : List Nat) (accepted : (forest.get? id).filter keep = some anchor) :
    list (id :: rest) = .ofAnchor showLine anchor (list (forest.children id)) :: list rest := by
  rw [lists (id :: rest), lists rest, List.filterMap_cons, accepted]
  rfl

theorem unique (lists : forest.ListsBelow showLine keep list) (planted : forest.Planted)
    {other : List Nat → List AnchorNode} (listsToo : forest.ListsBelow showLine keep other) :
    other = list := by
  funext ids
  induction ids using planted.induction_below with
  | nil => rw [lists.nil, listsToo.nil]
  | cons id rest below after =>
      cases found : (forest.get? id).filter keep with
      | none => rw [lists.cons_of_rejected rest found, listsToo.cons_of_rejected rest found, after]
      | some anchor =>
          rw [lists.cons_of_accepted rest found, listsToo.cons_of_accepted rest found, below, after]

/-- Anchors side by side whose parents are all kept are listed in the order of the walk, without
what is at or below an anchor that is not kept. -/
theorem unfoldedEach_eq (lists : forest.ListsBelow showLine keep list) (planted : forest.Planted)
    {ids visited trail : List Nat} (walk : forest.Walk ids visited)
    (beside : forest.Beside trail ids)
    (kept : (trail.all fun above => (forest.get? above).any keep) = true) :
    AnchorNode.unfoldedEach (list ids) =
      ((visited.filter (forest.keepsLineage keep)).filterMap forest.get?).map
        (AnchorNode.single showLine) := by
  induction walk generalizing trail with
  | nil => rw [lists.nil]; rfl
  | @cons id rest below after walkBelow _ listBelow listAfter =>
      obtain ⟨⟨_, idTrail⟩, restBeside⟩ := List.forall_mem_cons.mp beside
      have decided : forest.keepsLineage keep id = (forest.get? id).any keep := by
        rw [keepsLineage, idTrail, List.all_append, kept]
        simp
      rw [List.filter_cons, List.filter_append]
      cases found : (forest.get? id).filter keep with
      | none =>
          have rejected : (forest.get? id).any keep = false := by
            cases looked : forest.get? id with
            | none => rfl
            | some anchor => simpa [looked, Option.filter] using found
          -- Everything below the anchor has it in its lineage.
          have noneBelow : below.filter (forest.keepsLineage keep) = [] := by
            apply List.filter_eq_nil_iff.mpr
            intro other member
            obtain ⟨child, path, leads⟩ := walkBelow.lineage_below planted member
            rw [keepsLineage, leads, List.all_append, ← keepsLineage, decided, rejected]
            simp
          rw [lists.cons_of_rejected rest found, listAfter restBeside kept, decided, rejected,
            noneBelow]
          rfl
      | some anchor =>
          obtain ⟨looked, passes⟩ := Option.filter_eq_some_iff.mp found
          have accepted : (forest.get? id).any keep = true := by
            rw [looked]
            exact passes
          have keptToo : ((forest.lineage id).all fun above => (forest.get? above).any keep) =
              true := decided.trans accepted
          rw [lists.cons_of_accepted rest found, AnchorNode.unfoldedEach_cons_ofAnchor,
            listBelow (planted.beside_children id) keptToo, listAfter restBeside kept, decided,
            if_pos accepted, List.filterMap_cons_some looked, List.filterMap_append, List.map_cons,
            List.map_append]

end ListsBelow

/-- The listing of a forest as trees is what the recursion over children gives. Read from the top
down it is the walk from the roots, restricted to anchors that are kept along with all that they are
below; if everything is kept, it is the listing at one level. -/
theorem trees_follow_recursion (grown : forest.Grown) (showLine : Option Bool)
    (keep : Anchor → Bool) :
    ∃ list, forest.ListsBelow showLine keep list ∧
      (∀ other, forest.ListsBelow showLine keep other → other = list) ∧
      forest.project? forest.rootList true showLine keep = some (list forest.rootList) ∧
      AnchorNode.unfoldedEach (list forest.rootList) =
        (((forest.flatten forest.rootList).filter (forest.keepsLineage keep)).filterMap
          forest.get?).map (AnchorNode.single showLine) ∧
      (∀ id, id < forest.size → ∀ above, above ∈ forest.lineage id ↔
        Relation.ReflTransGen (fun upper lower => lower ∈ forest.children upper) above id) ∧
      (∀ node, node ∈ AnchorNode.unfoldedEach (list forest.rootList) →
        node.label = node.anchor.label ∧
          ∀ shown, showLine = some shown → node.anchor.showLine = shown) ∧
      ((∀ id anchor, forest.get? id = some anchor → keep anchor = true) →
        forest.project? forest.rootList false showLine keep =
          some (AnchorNode.unfoldedEach (list forest.rootList))) := by
  have planted := grown.planted
  obtain ⟨list, lists, listed⟩ := planted.exists_listsBelow showLine keep
  obtain ⟨visited, walk⟩ := planted.exists_walk forest.rootList
  have unfolds := lists.unfoldedEach_eq planted walk planted.beside_rootList rfl
  rw [← planted.flatten_rootList walk] at unfolds
  refine ⟨list, lists, fun other => lists.unique planted, listed _, unfolds,
    fun id inside above => planted.mem_lineage_iff inside, ?_, ?_⟩
  · intro node member
    rw [unfolds] at member
    obtain ⟨anchor, _, rfl⟩ := List.mem_map.mp member
    exact ⟨rfl, fun shown overridden => by rw [overridden]; rfl⟩
  · intro all
    have inside := walk.lt_size planted fun _ => planted.lt_size_of_mem_rootList
    rw [← planted.flatten_rootList walk] at inside
    have allKept : (forest.flatten forest.rootList).filter (forest.keepsLineage keep) =
        forest.flatten forest.rootList :=
      List.filter_eq_self.mpr fun id member => keepsLineage_of_all all (inside id member)
    have allPass : ((forest.flatten forest.rootList).filterMap forest.get?).filter keep =
        (forest.flatten forest.rootList).filterMap forest.get? := by
      apply List.filter_eq_self.mpr
      intro anchor member
      obtain ⟨id, _, found⟩ := List.mem_filterMap.mp member
      exact all id anchor found
    rw [unfolds, allKept, project?, if_neg (by decide), projectFlat, allPass]
    rfl

def noteOf (text : String) (line : Nat) : Anchor :=
  { tag := "NOTE", text, comment := text, start := 0, stop := 4, line
    behavior := .marker, scope := .workspace, showLine := true, document := ⟨"plan.md"⟩
    attributes := { seq := 0 }, kind := .plain }

def planForest : Forest :=
  [(noteOf "plan" 1, none), (noteOf "review" 4, none), (noteOf "step" 2, some 0),
    (noteOf "aside" 5, some 1)].foldl (fun forest (anchor, parent) => (forest.push anchor parent).1)
    empty

/-- The first root is listed with the note below it; the note below the second goes with it. -/
theorem trees_follow_recursion_rejected_root :
    let keep (anchor : Anchor) := anchor.text != "review"
    planForest.Grown ∧ ∃ list, planForest.ListsBelow (some false) keep list ∧
      planForest.project? [0, 1] true (some false) keep = some (list [0, 1]) ∧
      planForest.flatten [0, 1] = [0, 2, 1, 3] ∧
      AnchorNode.unfoldedEach (list [0, 1]) =
        [AnchorNode.single (some false) (noteOf "plan" 1),
          AnchorNode.single (some false) (noteOf "step" 2)] := by
  intro keep
  have grown : planForest.Grown := by
    refine .push _ _ (.push _ _ (.push _ _ (.push _ _ .empty nofun) nofun) ?_) ?_
    all_goals
      rintro _ ⟨⟩
      decide
  have stop : planForest.Walk [] [] := .nil
  have walkStep : planForest.Walk (planForest.children 2) [] := stop
  have walkAside : planForest.Walk (planForest.children 3) [] := stop
  have walkPlan : planForest.Walk (planForest.children 0) [2] := walkStep.cons stop
  have walkReview : planForest.Walk (planForest.children 1) [3] := walkAside.cons stop
  have walk : planForest.Walk planForest.rootList [0, 2, 1, 3] :=
    walkPlan.cons (walkReview.cons stop)
  have visits := grown.planted.flatten_rootList walk
  have first : planForest.lineage 0 = [0] := grown.planted.lineage_root (by decide)
  have second : planForest.lineage 1 = [1] := grown.planted.lineage_root (by decide)
  have below : planForest.lineage 2 = planForest.lineage 0 ++ [2] :=
    grown.planted.lineage_child (by decide)
  have aside : planForest.lineage 3 = planForest.lineage 1 ++ [3] :=
    grown.planted.lineage_child (by decide)
  have kept : [0, 2, 1, 3].filter (planForest.keepsLineage keep) = [0, 2] := by
    simp only [List.filter_cons, List.filter_nil, keepsLineage, below, aside, first, second]
    rfl
  obtain ⟨list, lists, _, listed, unfolds, _⟩ := trees_follow_recursion grown (some false) keep
  rw [visits, kept] at unfolds
  exact ⟨grown, list, lists, listed, visits, unfolds⟩

end Forest

end Waymark
