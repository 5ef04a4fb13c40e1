import Waymark.Index
import Waymark.Proofs.Anchor.Listing
import Waymark.Proofs.Anchor.Sorting
import Waymark.Proofs.Parser.Shape

set_option autoImplicit false

/-! The order of the listings of a text. The anchors of a text are numbered in the order of their
places, and side by side they stand in the order of their numbers. So whatever a listing leaves out,
it is in the order of places at every level. -/

namespace Waymark

namespace Forest

def Ascending (forest : Forest) : Prop :=
  ∀ i j first second, i < j → forest.get? i = some first → forest.get? j = some second →
    first.startsBefore second

variable {forest : Forest} {showLine : Option Bool} {keep : Anchor → Bool} {ids : List Nat}

theorem Planted.children_pairwise (planted : forest.Planted) (id : Nat) :
    (forest.children id).Pairwise (· < ·) := by
  rw [Arranged.children_eq planted id]
  exact List.pairwise_lt_range.filter _

theorem Planted.rootList_pairwise (planted : forest.Planted) :
    forest.rootList.Pairwise (· < ·) := by
  rw [Arranged.roots_eq planted]
  exact List.pairwise_lt_range.filter _

theorem ListsBelow.exists_of_mem {list : List Nat → List AnchorNode}
    (lists : forest.ListsBelow showLine keep list) {node : AnchorNode} (member : node ∈ list ids) :
    ∃ id anchor, id ∈ ids ∧ forest.get? id = some anchor ∧
      node.anchor = AnchorNode.shown showLine anchor := by
  rw [lists ids] at member
  obtain ⟨id, listed, made⟩ := List.mem_filterMap.mp member
  obtain ⟨anchor, accepted, rfl⟩ := Option.map_eq_some_iff.mp made
  exact ⟨id, anchor, listed, (Option.filter_eq_some_iff.mp accepted).1, rfl⟩

theorem ListsBelow.ordered {list : List Nat → List AnchorNode}
    (lists : forest.ListsBelow showLine keep list) (planted : forest.Planted)
    (ascending : forest.Ascending) :
    ids.Pairwise (· < ·) → AnchorNode.OrderedBy Anchor.startsBefore (list ids) := by
  induction ids using planted.induction_below with
  | nil =>
      intro _
      rw [lists.nil]
      exact .nil
  | cons id rest below after =>
      intro numbered
      obtain ⟨idFirst, restNumbered⟩ := List.pairwise_cons.mp numbered
      cases found : (forest.get? id).filter keep with
      | none =>
          rw [lists.cons_of_rejected rest found]
          exact after restNumbered
      | some anchor =>
          rw [lists.cons_of_accepted rest found]
          refine .cons (below (planted.children_pairwise id)) ?_ (after restNumbered)
          intro node member
          obtain ⟨other, original, listed, atOther, same⟩ := lists.exists_of_mem member
          have atId := (Option.filter_eq_some_iff.mp found).1
          have before := ascending id other anchor original (idFirst other listed) atId atOther
          rw [same]
          exact before

theorem Ascending.projectFlat (ascending : forest.Ascending)
    (numbered : (forest.flatten ids).Pairwise (· < ·)) :
    AnchorNode.OrderedBy Anchor.startsBefore (forest.projectFlat showLine keep ids) := by
  have anchors : ((forest.flatten ids).filterMap forest.get?).Pairwise Anchor.startsBefore := by
    rw [List.pairwise_filterMap]
    refine numbered.imp ?_
    intro i j less first atFirst second atSecond
    exact ascending i j first second less atFirst atSecond
  refine .level (List.pairwise_map.mpr (anchors.filter keep)) ?_
  intro node member
  obtain ⟨anchor, _, rfl⟩ := List.mem_map.mp member
  exact .nil

/-- A listing of anchors whose numbers follow their places is in the order of places. -/
theorem Planted.exists_ordered_project (planted : forest.Planted) (ascending : forest.Ascending)
    (flattened : (forest.flatten forest.rootList).Pairwise (· < ·)) (hierarchy : Bool)
    (showLine : Option Bool) (keep : Anchor → Bool) :
    ∃ nodes, forest.project? forest.rootList hierarchy showLine keep = some nodes ∧
      AnchorNode.OrderedBy Anchor.startsBefore nodes := by
  cases hierarchy with
  | true =>
      obtain ⟨list, lists, listed⟩ := planted.exists_listsBelow showLine keep
      exact ⟨_, listed _, lists.ordered planted ascending planted.rootList_pairwise⟩
  | false => exact ⟨_, rfl, ascending.projectFlat flattened⟩

end Forest

namespace AnchorNode

structure SortsFromPlaces (nodes : List AnchorNode) : Prop where
  line : sort .line nodes = nodes
  type : OrderedBy Anchor.comesBefore (sort .type nodes)
  rearranged : Rearranged nodes (sort .type nodes)
  back : sort .line (sort .type nodes) = nodes

theorem OrderedBy.sortsFromPlaces {nodes : List AnchorNode}
    (ordered : OrderedBy Anchor.startsBefore nodes) : SortsFromPlaces nodes where
  line := sort_line_eq_self ordered
  type := ordered_sort_type ordered
  rearranged := rearranged_sort .type nodes
  back := sort_line_sort ordered .type

end AnchorNode

namespace Parser

theorem planted_parse (parser : Parser) (document : Path) (text : String) :
    (parser.parse document text).forest.Planted :=
  (parser.arranged_parse document text).planted
    (parser.nested_parse document text).contiguous_placeOf.earlier

theorem exists_ordered_listing (parser : Parser) (document : Path) (text : String)
    (hierarchy : Bool) (keep : Anchor → Bool) :
    ∃ nodes, (parser.parse document text).forest.project?
        (parser.parse document text).forest.rootList hierarchy none keep = some nodes ∧
      AnchorNode.OrderedBy Anchor.startsBefore nodes := by
  refine (parser.planted_parse document text).exists_ordered_project
    (parser.nested_parse document text).ascending ?_ hierarchy none keep
  rw [parser.flatten_parse document text]
  exact List.pairwise_lt_range

/-- The listings of a text, of the document or of what the workspace shows, as trees or at one level,
stand in the order of places. The order of tags moves the siblings at each level to the order of tag
names and then of places, and the order of places moves them back. -/
theorem listings_sort_from_places (parser : Parser) (document : Path) (text : String)
    (hierarchy : Bool) :
    let index := Index.ofText parser document text
    let list (keep : Anchor → Bool) :=
      index.forest.project? index.forest.rootList hierarchy none keep
    (list fun _ => true) = some (index.project hierarchy) ∧
      list Anchor.isWorkspaceVisible = some (index.projectWorkspace hierarchy) ∧
      AnchorNode.SortsFromPlaces (index.project hierarchy) ∧
      AnchorNode.SortsFromPlaces (index.projectWorkspace hierarchy) := by
  intro index list
  obtain ⟨whole, listed, ordered⟩ :=
    parser.exists_ordered_listing document text hierarchy fun _ => true
  obtain ⟨shown, shownListed, shownOrdered⟩ :=
    parser.exists_ordered_listing document text hierarchy Anchor.isWorkspaceVisible
  have atWhole : index.project hierarchy = whole := congrArg (Option.getD · []) listed
  have atShown : index.projectWorkspace hierarchy = shown :=
    congrArg (Option.getD · []) shownListed
  rw [atWhole, atShown]
  exact ⟨listed, shownListed, ordered.sortsFromPlaces, shownOrdered.sortsFromPlaces⟩

end Parser

end Waymark
