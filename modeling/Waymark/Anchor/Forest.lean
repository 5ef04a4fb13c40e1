import Waymark.Anchor.Basic

set_option autoImplicit false

/-! Anchors of a document as an ordered forest. An anchor is identified by the number of anchors that
were added before it; roots and children are listed in the order in which they were added. -/

namespace Waymark

structure ForestNode where
  anchor : Anchor
  children : Array Nat := #[]
deriving DecidableEq, Repr

structure Forest where
  nodes : Array ForestNode := #[]
  roots : Array Nat := #[]
deriving DecidableEq, Repr

namespace Forest

def empty : Forest := {}

def size (forest : Forest) : Nat := forest.nodes.size

def isEmpty (forest : Forest) : Bool := forest.nodes.isEmpty

def get? (forest : Forest) (id : Nat) : Option Anchor :=
  forest.nodes[id]?.map (·.anchor)

def children (forest : Forest) (id : Nat) : List Nat :=
  forest.nodes[id]?.elim [] (·.children.toList)

def rootList (forest : Forest) : List Nat := forest.roots.toList

/-- Adds an anchor as the last child of `parent`, or as the last root without one. The new anchor is
already present when its parent is looked up. The result is the forest and the new number. -/
def push (forest : Forest) (anchor : Anchor) (parent : Option Nat) : Forest × Nat :=
  let id := forest.nodes.size
  let nodes := forest.nodes.push { anchor }
  match parent.filter (· < nodes.size) with
  | some parent =>
      let adopt (node : ForestNode) := { node with children := node.children.push id }
      ({ forest with nodes := nodes.modify parent adopt }, id)
  | none => ({ nodes, roots := forest.roots.push id }, id)

def modify (forest : Forest) (id : Nat) (change : Anchor → Anchor) : Forest :=
  { forest with
    nodes := forest.nodes.modify id fun node => { node with anchor := change node.anchor } }

/-- Walks down from the first of the waiting anchors before the others, and visits each anchor of
`remaining` at most once. -/
def visit (forest : Forest) (remaining : List Nat) : List Nat → List Nat
  | [] => []
  | id :: waiting =>
      if id ∈ remaining then
        id :: forest.visit (remaining.erase id) (forest.children id ++ waiting)
      else forest.visit remaining waiting
termination_by waiting => (remaining.length, waiting.length)
decreasing_by
  · rename_i member
    apply Prod.Lex.left
    rw [List.length_erase_of_mem member]
    have : 0 < remaining.length := List.length_pos_of_mem member
    omega
  · apply Prod.Lex.right
    simp

/-- All anchors that are reached from a list of numbers through children, each once, parents before
their children and earlier ones first. -/
def flatten (forest : Forest) (ids : List Nat) : List Nat :=
  forest.visit (List.range forest.size) ids

def preorder (forest : Forest) : List (Nat × Anchor) :=
  (forest.flatten forest.rootList).filterMap fun id => (forest.get? id).map (id, ·)

end Forest

end Waymark
