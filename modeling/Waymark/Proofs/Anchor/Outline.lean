import Waymark.Proofs.Anchor.Listing
import Waymark.Proofs.Anchor.Sorting

set_option autoImplicit false

/-! Listings read from the top down, with the depth at which each node stands. The nodes of a listing
that leaves nothing out are those of the walk from the roots, and sorting moves them without losing
one. -/

namespace Waymark

namespace AnchorNode

mutual

def outline (depth : Nat) : AnchorNode → List (Nat × AnchorNode)
  | ⟨label, anchor, children⟩ =>
      (depth, ⟨label, anchor, children⟩) :: outlineEach (depth + 1) children

def outlineEach (depth : Nat) : List AnchorNode → List (Nat × AnchorNode)
  | [] => []
  | node :: rest => outline depth node ++ outlineEach depth rest

end

theorem outlineEach_cons (depth : Nat) (label : String) (anchor : Anchor)
    (children rest : List AnchorNode) :
    outlineEach depth (⟨label, anchor, children⟩ :: rest) =
      (depth, ⟨label, anchor, children⟩) ::
        (outlineEach (depth + 1) children ++ outlineEach depth rest) := by
  simp only [outlineEach, outline, List.cons_append]

def alone (node : AnchorNode) : AnchorNode := { node with children := [] }

theorem map_alone_outlineEach (depth : Nat) (nodes : List AnchorNode) :
    (outlineEach depth nodes).map (fun entry => entry.2.alone) = unfoldedEach nodes := by
  induction nodes using induction_on_levels generalizing depth with
  | nil => rfl
  | cons label anchor children rest below after =>
      rw [outlineEach_cons, List.map_cons, List.map_append, below, after]
      rfl

theorem map_anchor_outlineEach (depth : Nat) (nodes : List AnchorNode) :
    (outlineEach depth nodes).map (fun entry => entry.2.anchor) =
      (unfoldedEach nodes).map AnchorNode.anchor := by
  rw [← map_alone_outlineEach depth, List.map_map]
  rfl

theorem map_anchor_single (anchors : List Anchor) :
    (anchors.map (single none)).map AnchorNode.anchor = anchors := by
  rw [List.map_map]
  exact List.map_id anchors

theorem unfoldedEach_eq_flatMap (nodes : List AnchorNode) :
    unfoldedEach nodes = nodes.flatMap unfolded := by
  induction nodes with
  | nil => rfl
  | cons node rest ih => rw [unfoldedEach, ih, List.flatMap_cons]

theorem Rearranged.unfoldedEach_perm {nodes others : List AnchorNode}
    (rearranged : Rearranged nodes others) : (unfoldedEach nodes).Perm (unfoldedEach others) := by
  induction rearranged with
  | nil => exact .refl _
  | cons _ _ below after => exact (below.append after).cons _
  | @perm nodes others moved _ permuted same =>
      rw [unfoldedEach_eq_flatMap others] at same
      rw [unfoldedEach_eq_flatMap moved]
      exact same.trans (permuted.flatMap_right _)

end AnchorNode

namespace Forest

variable {forest : Forest}

/-- Either listing of a planted forest that leaves nothing out has the anchors of the walk from the
roots, from the top down. -/
theorem Planted.exists_whole_listing (planted : forest.Planted) (hierarchy : Bool)
    (showLine : Option Bool) :
    ∃ nodes, forest.project? forest.rootList hierarchy showLine (fun _ => true) = some nodes ∧
      AnchorNode.unfoldedEach nodes =
        ((forest.flatten forest.rootList).filterMap forest.get?).map
          (AnchorNode.single showLine) := by
  cases hierarchy with
  | true =>
      obtain ⟨list, lists, listed⟩ := planted.exists_listsBelow showLine fun _ => true
      obtain ⟨visited, walk⟩ := planted.exists_walk forest.rootList
      have unfolds := lists.unfoldedEach_eq planted walk planted.beside_rootList rfl
      have inside := walk.lt_size planted fun _ => planted.lt_size_of_mem_rootList
      have allKept : visited.filter (forest.keepsLineage fun _ => true) = visited :=
        List.filter_eq_self.mpr fun id member =>
          keepsLineage_of_all (fun _ _ _ => rfl) (inside id member)
      refine ⟨_, listed _, ?_⟩
      rw [unfolds, allKept, planted.flatten_rootList walk]
  | false =>
      refine ⟨_, rfl, ?_⟩
      rw [projectFlat, List.filter_eq_self.mpr fun _ _ => rfl]
      induction (forest.flatten forest.rootList).filterMap forest.get? with
      | nil => rfl
      | cons anchor rest ih =>
          rw [List.map_cons, AnchorNode.unfoldedEach_cons_ofAnchor, ih]
          rfl

end Forest

end Waymark
