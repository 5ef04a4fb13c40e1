import Waymark.Anchor.Forest

set_option autoImplicit false

/-! Listings: trees of labelled anchors, copied out of a forest, and their order. -/

namespace Waymark

structure AnchorNode where
  label : String
  anchor : Anchor
  children : List AnchorNode
deriving Repr

namespace AnchorNode

/-- The anchor as it is listed: its line is shown as asked, or else as the anchor has it. -/
def shown (showLine : Option Bool) (anchor : Anchor) : Anchor :=
  { anchor with showLine := showLine.getD anchor.showLine }

def ofAnchor (showLine : Option Bool) (anchor : Anchor) (children : List AnchorNode) : AnchorNode :=
  ⟨(shown showLine anchor).label, shown showLine anchor, children⟩

mutual

def toJson : AnchorNode → Json
  | ⟨label, anchor, children⟩ =>
      let nested := if children.isEmpty then [] else [("children", Json.array (listJson children))]
      .object ([("label", .string label)] ++ anchor.jsonFields ++ nested)

def listJson : List AnchorNode → List Json
  | [] => []
  | node :: rest => toJson node :: listJson rest

end

end AnchorNode

inductive SortMethod where
  | line
  | type
deriving DecidableEq, Repr

namespace SortMethod

def name : SortMethod → String
  | line => "line"
  | type => "type"

def ofName? : String → Option SortMethod
  | "line" => some line
  | "type" => some type
  | _ => none

/-- Whether a node may stand before another; nodes that may stand either way keep their order. -/
def precedes : SortMethod → AnchorNode → AnchorNode → Bool
  | line, a, b => a.anchor.start ≤ b.anchor.start
  | type, a, b => a.anchor.tag ≤ b.anchor.tag

end SortMethod

namespace AnchorNode

mutual

def sortBelow (method : SortMethod) : AnchorNode → AnchorNode
  | ⟨label, anchor, children⟩ =>
      ⟨label, anchor, (sortEach method children).mergeSort method.precedes⟩

def sortEach (method : SortMethod) : List AnchorNode → List AnchorNode
  | [] => []
  | node :: rest => sortBelow method node :: sortEach method rest

end

def sort (method : SortMethod) (nodes : List AnchorNode) : List AnchorNode :=
  (sortEach method nodes).mergeSort method.precedes

end AnchorNode

namespace Forest

/-- A node under construction: its finished children, last first, and those to come. -/
structure Frame where
  anchor : Anchor
  finished : List AnchorNode
  pending : List Nat

def Frame.node (showLine : Option Bool) (frame : Frame) : AnchorNode :=
  .ofAnchor showLine frame.anchor frame.finished.reverse

/-- Builds the tree of the lowest frame, the innermost node first. An anchor that `keep` rejects is
left out with all that is below it. Without enough steps there is no result. -/
def runFrames (forest : Forest) (showLine : Option Bool) (keep : Anchor → Bool) :
    Nat → Frame → List Frame → Option AnchorNode
  | 0, _, _ => none
  | steps + 1, frame, below =>
      match frame.pending, below with
      | child :: pending, below =>
          match (forest.get? child).filter keep with
          | some anchor =>
              forest.runFrames showLine keep steps ⟨anchor, [], forest.children child⟩
                ({ frame with pending } :: below)
          | none => forest.runFrames showLine keep steps { frame with pending } below
      | [], [] => some (frame.node showLine)
      | [], outer :: below =>
          forest.runFrames showLine keep steps
            { outer with finished := frame.node showLine :: outer.finished } below

/-- The listing of one anchor and all below it: at most one node. A tree of anchors takes at most two
steps for each of them, so the result is missing only if an anchor is below itself. -/
def projectTree? (forest : Forest) (showLine : Option Bool) (keep : Anchor → Bool) (id : Nat) :
    Option (List AnchorNode) :=
  match (forest.get? id).filter keep with
  | none => some []
  | some anchor =>
      (forest.runFrames showLine keep (2 * forest.size + 1) ⟨anchor, [], forest.children id⟩ []).map
        ([·])

def projectTrees? (forest : Forest) (showLine : Option Bool) (keep : Anchor → Bool) :
    List Nat → Option (List AnchorNode)
  | [] => some []
  | id :: rest =>
      (forest.projectTree? showLine keep id).bind fun nodes =>
        (forest.projectTrees? showLine keep rest).map (nodes ++ ·)

def projectFlat (forest : Forest) (showLine : Option Bool) (keep : Anchor → Bool)
    (ids : List Nat) : List AnchorNode :=
  (((forest.flatten ids).filterMap forest.get?).filter keep).map
    (AnchorNode.ofAnchor showLine · [])

/-- The listing of anchors, as trees or at one level. There is none only for a tree without end. -/
def project? (forest : Forest) (ids : List Nat) (hierarchy : Bool) (showLine : Option Bool)
    (keep : Anchor → Bool) : Option (List AnchorNode) :=
  if hierarchy then forest.projectTrees? showLine keep ids
  else some (forest.projectFlat showLine keep ids)

end Forest

end Waymark
