import Std.Data.HashMap
import Waymark.Anchor.Listing
import Waymark.Parser

set_option autoImplicit false

/-! The index of one document: its anchors and a look-up by text. Of two anchors with one text the
later is found. -/

namespace Waymark

structure Index where
  document : Path
  forest : Forest
  /-- The last anchor with each text. -/
  byText : Std.HashMap String Nat

namespace Index

def build (document : Path) (forest : Forest) : Index :=
  { document, forest
    byText := forest.preorder.foldl (fun map (id, anchor) => map.insert anchor.text id) {} }

def empty : Index := build ⟨""⟩ {}

def ofText (parser : Parser) (document : Path) (text : String) : Index :=
  build document (parser.parse document text).forest

def roots (index : Index) : List Anchor := index.forest.rootList.filterMap index.forest.get?

def children (index : Index) (id : Nat) : List Anchor :=
  (index.forest.children id).filterMap index.forest.get?

def size (index : Index) : Nat := index.forest.size

def isEmpty (index : Index) : Bool := index.forest.isEmpty

def flatten (index : Index) : List Anchor := index.forest.preorder.map (·.2)

/-- The last anchor with a text. -/
def findByText? (index : Index) (text : String) : Option Anchor :=
  index.byText[text]?.bind index.forest.get?

/-- The first anchor with an id. -/
def findById? (index : Index) (id : String) : Option Anchor :=
  index.flatten.find? (·.attributes.id == some id)

def foldRanges (index : Index) : List (Nat × Nat) :=
  index.flatten.filterMap fun anchor => anchor.close?.map fun close => (anchor.line, close.line)

def visibleCount (index : Index) : Nat := index.roots.countP Anchor.isWorkspaceVisible

def hiddenCount (index : Index) : Nat := index.roots.countP (!·.isWorkspaceVisible)

def project (index : Index) (hierarchy : Bool) : List AnchorNode :=
  (index.forest.project? index.forest.rootList hierarchy none fun _ => true).getD []

def projectWorkspace (index : Index) (hierarchy : Bool) : List AnchorNode :=
  (index.forest.project? index.forest.rootList hierarchy none Anchor.isWorkspaceVisible).getD []

end Index

end Waymark
