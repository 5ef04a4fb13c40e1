import Mathlib.Data.List.Nodup
import Mathlib.Data.String.Basic
import Waymark.Anchor.Listing
import Waymark.Proofs.Data.StableSort

set_option autoImplicit false

/-! Listings that are sorted at every level. Sorting moves siblings and nothing else, so a listing
that is in the order of places is brought back from any order by that of places; and the order of tags
keeps the order of places among the siblings of one tag. -/

namespace Waymark

namespace Anchor

def startsBefore (first second : Anchor) : Prop := first.start < second.start

def comesBefore (first second : Anchor) : Prop :=
  first.tag < second.tag ∨ first.tag = second.tag ∧ first.start < second.start

end Anchor

namespace AnchorNode

inductive OrderedBy (before : Anchor → Anchor → Prop) : List AnchorNode → Prop
  | level {nodes : List AnchorNode} :
      nodes.Pairwise (fun first second => before first.anchor second.anchor) →
      (∀ node, node ∈ nodes → OrderedBy before node.children) → OrderedBy before nodes

/-- Whether two listings have the same nodes at every level, in any order, and below each node the
same again. -/
inductive Rearranged : List AnchorNode → List AnchorNode → Prop
  | nil : Rearranged [] []
  | cons {label : String} {anchor : Anchor} {children moved rest others : List AnchorNode} :
      Rearranged children moved → Rearranged rest others →
      Rearranged (⟨label, anchor, children⟩ :: rest) (⟨label, anchor, moved⟩ :: others)
  | perm {nodes others moved : List AnchorNode} :
      Rearranged nodes others → others.Perm moved → Rearranged nodes moved

variable {before : Anchor → Anchor → Prop} {nodes rest : List AnchorNode}

theorem OrderedBy.nil : OrderedBy before [] :=
  .level List.Pairwise.nil nofun

theorem OrderedBy.cons {node : AnchorNode} (below : OrderedBy before node.children)
    (first : ∀ other, other ∈ rest → before node.anchor other.anchor)
    (after : OrderedBy before rest) : OrderedBy before (node :: rest) := by
  obtain ⟨ordered, orderedBelow⟩ := after
  refine .level (List.pairwise_cons.mpr ⟨first, ordered⟩) ?_
  intro other member
  rcases List.mem_cons.mp member with rfl | later
  · exact below
  · exact orderedBelow other later

/-- What holds of no nodes, and of a node and others once it holds of its children and of the others,
holds of all listings. -/
theorem induction_on_levels {motive : List AnchorNode → Prop} (nil : motive [])
    (cons : ∀ label anchor children rest, motive children → motive rest →
      motive (⟨label, anchor, children⟩ :: rest)) (nodes : List AnchorNode) : motive nodes :=
  @AnchorNode.rec_1 (fun node => motive node.children) motive (fun _ _ _ below => below) nil
    (fun ⟨label, anchor, children⟩ rest below after => cons label anchor children rest below after)
    nodes

/-! ### One level -/

theorem sortEach_eq_map (method : SortMethod) (nodes : List AnchorNode) :
    sortEach method nodes = nodes.map (sortBelow method) := by
  induction nodes with
  | nil => rfl
  | cons node rest ih => rw [sortEach, ih, List.map_cons]

theorem anchor_sortBelow (method : SortMethod) (node : AnchorNode) :
    (sortBelow method node).anchor = node.anchor := by
  cases node
  rfl

theorem children_sortBelow (method : SortMethod) (node : AnchorNode) :
    (sortBelow method node).children = sort method node.children := by
  cases node
  rfl

theorem sort_perm (method : SortMethod) (nodes : List AnchorNode) :
    (sort method nodes).Perm (nodes.map (sortBelow method)) := by
  rw [← sortEach_eq_map]
  exact List.mergeSort_perm _ _

theorem sortBelow_eq_self {method : SortMethod} {node : AnchorNode}
    (unmoved : sort method node.children = node.children) : sortBelow method node = node := by
  obtain ⟨label, anchor, children⟩ := node
  exact congrArg (AnchorNode.mk label anchor) unmoved

theorem precedes_trans (method : SortMethod) (a b c : AnchorNode)
    (first : method.precedes a b = true) (second : method.precedes b c = true) :
    method.precedes a c = true := by
  cases method with
  | line =>
      exact decide_eq_true (Nat.le_trans (of_decide_eq_true first) (of_decide_eq_true second))
  | type =>
      exact decide_eq_true (String.le_trans (of_decide_eq_true first) (of_decide_eq_true second))

theorem precedes_total (method : SortMethod) (a b : AnchorNode) :
    (method.precedes a b || method.precedes b a) = true := by
  rw [Bool.or_eq_true]
  cases method with
  | line => exact (Nat.le_total _ _).imp decide_eq_true decide_eq_true
  | type => exact (String.le_total _ _).imp decide_eq_true decide_eq_true

/-! ### All levels -/

theorem rearranged_sort (method : SortMethod) (nodes : List AnchorNode) :
    Rearranged nodes (sort method nodes) := by
  have each : Rearranged nodes (sortEach method nodes) := by
    induction nodes using induction_on_levels with
    | nil => exact .nil
    | cons label anchor children rest below after =>
        exact .cons (.perm below (List.mergeSort_perm _ _).symm) after
  exact .perm each (List.mergeSort_perm _ _).symm

theorem sort_line_eq_self (ordered : OrderedBy Anchor.startsBefore nodes) :
    sort .line nodes = nodes := by
  induction ordered with
  | @level nodes places _ unmoved =>
      have each : sortEach .line nodes = nodes := by
        rw [sortEach_eq_map, List.map_congr_left fun node member =>
          sortBelow_eq_self (unmoved node member), List.map_id'']
        exact fun _ => rfl
      rw [sort, each]
      exact List.mergeSort_of_pairwise (places.imp fun before => decide_eq_true before.le)

/-- Places decide the order of siblings, so it does not matter in which order they were before. -/
theorem sort_line_sort (ordered : OrderedBy Anchor.startsBefore nodes) (method : SortMethod) :
    sort .line (sort method nodes) = nodes := by
  induction ordered with
  | @level nodes places _ back =>
      -- Below each node everything is back in place, so only the order of this level is open.
      have each : (nodes.map (sortBelow method)).map (sortBelow .line) = nodes := by
        rw [List.map_map, List.map_congr_left (g := id)]
        · exact List.map_id _
        · intro node member
          obtain ⟨label, anchor, children⟩ := node
          exact congrArg (AnchorNode.mk label anchor) (back _ member)
      have same : (sort .line (sort method nodes)).Perm nodes := by
        have moved := (sort_perm .line (sort method nodes)).trans
          ((sort_perm method nodes).map (sortBelow .line))
        rw [each] at moved
        exact moved
      have distinct : (nodes.map fun node => node.anchor.start).Nodup :=
        List.pairwise_map.mpr (places.imp Nat.ne_of_lt)
      refine same.eq_of_pairwise ?_
        (List.pairwise_mergeSort (precedes_trans .line) (precedes_total .line) _)
        (places.imp fun before => decide_eq_true before.le)
      intro first second firstMember secondMember forward backward
      exact List.inj_on_of_nodup_map distinct (same.mem_iff.mp firstMember) secondMember
        (Nat.le_antisymm (of_decide_eq_true forward) (of_decide_eq_true backward))

theorem ordered_sort_type (ordered : OrderedBy Anchor.startsBefore nodes) :
    OrderedBy Anchor.comesBefore (sort .type nodes) := by
  induction ordered with
  | @level nodes places _ below =>
      have each : (sortEach .type nodes).Pairwise fun first second =>
          first.anchor.startsBefore second.anchor := by
        rw [sortEach_eq_map, List.pairwise_map]
        simpa only [anchor_sortBelow] using places
      refine .level ?_ ?_
      · refine List.Pairwise.imp ?_
          (StableSort.pairwise_mergeSort (precedes_trans .type) (precedes_total .type) each)
        intro first second ⟨forward, tie⟩
        -- The order of tags says nothing of two equal tags: they stand as they stood before.
        rcases lt_or_eq_of_le (of_decide_eq_true forward) with less | equal
        · exact Or.inl less
        · exact Or.inr ⟨equal, tie (decide_eq_true (by rw [equal]))⟩
      · intro node member
        obtain ⟨original, listed, rfl⟩ :=
          List.mem_map.mp ((sort_perm .type nodes).mem_iff.mp member)
        rw [children_sortBelow]
        exact below original listed

end AnchorNode

end Waymark
