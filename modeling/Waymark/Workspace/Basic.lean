import Waymark.Workspace.Scan

set_option autoImplicit false

/-! The workspace: the indexes of all documents in path order, and how far its scan is. -/

namespace Waymark

inductive ScanStatus where
  | notScanned
  | scanning
  | loaded
deriving DecidableEq, Repr

namespace ScanStatus

def text : ScanStatus → String
  | notScanned => "not scanned"
  | scanning => "scanning"
  | loaded => "loaded"

def name : ScanStatus → String
  | notScanned => "not_scanned"
  | scanning => "scanning"
  | loaded => "loaded"

def ofName? : String → Option ScanStatus
  | "not_scanned" => some notScanned
  | "scanning" => some scanning
  | "loaded" => some loaded
  | _ => none

end ScanStatus

structure Workspace where
  documents : SortedMap Path Index := {}
  status : ScanStatus := .notScanned

namespace Workspace

def ofScan (scan : Scan) : Workspace :=
  { documents := scan.indexed, status := .loaded }

def insert (workspace : Workspace) (document : Path) (index : Index) : Workspace :=
  { workspace with documents := workspace.documents.insert document index }

def remove (workspace : Workspace) (document : Path) : Workspace :=
  { workspace with documents := workspace.documents.erase document }

def find? (workspace : Workspace) (document : Path) : Option Index :=
  workspace.documents.find? document

def contains (workspace : Workspace) (document : Path) : Bool :=
  workspace.documents.contains document

def size (workspace : Workspace) : Nat := workspace.documents.size

def setStatus (workspace : Workspace) (status : ScanStatus) : Workspace :=
  { workspace with status }

/-- The workspace marked as not scanned; the documents stay. -/
def reset (workspace : Workspace) : Workspace := workspace.setStatus .notScanned

def beginScan (_ : Workspace) : Workspace := { status := .scanning }

def finishScan (workspace : Workspace) : Workspace := workspace.setStatus .loaded

/-- The workspace after a scan of documents from a source, which begins without the documents that
were there before. -/
def rescanFrom (workspace : Workspace) (parser : Parser) (source : Source) (documents : List Path)
    (maxFiles : Nat) : Workspace :=
  let scan := (Scan.start documents maxFiles Scan.defaultBatchSize).run parser source
  { workspace.beginScan with documents := scan.indexed }.finishScan

/-- The workspace after a scan of given texts, in the given order. For a document that is given twice
the last text counts. -/
def rescan (workspace : Workspace) (parser : Parser) (documents : List (Path × String))
    (maxFiles : Nat) : Workspace :=
  workspace.rescanFrom parser (MemorySource.read (SortedMap.ofList documents))
    (documents.map (·.1)) maxFiles

def scanFrom (parser : Parser) (source : Source) (documents : List Path) (maxFiles : Nat) :
    Workspace :=
  rescanFrom {} parser source documents maxFiles

def scan (parser : Parser) (documents : List (Path × String)) (maxFiles : Nat) : Workspace :=
  rescan {} parser documents maxFiles

end Workspace

structure DocumentView where
  document : Path
  visible : Nat
  hidden : Nat
  anchors : List AnchorNode

namespace DocumentView

def sort (method : SortMethod) (view : DocumentView) : DocumentView :=
  { view with anchors := AnchorNode.sort method view.anchors }

def toJson (view : DocumentView) : Json :=
  .object
    [("document", .string view.document.text),
     ("visible", .nat view.visible),
     ("hidden", .nat view.hidden),
     ("anchors", .array (AnchorNode.listJson view.anchors))]

end DocumentView

namespace Workspace

/-- The listing of the workspace: the documents with an anchor to show. -/
def views (workspace : Workspace) (hierarchy : Bool) : List DocumentView :=
  (workspace.documents.entries.filter fun entry => 0 < entry.2.visibleCount).map
    fun (document, index) =>
      { document
        visible := index.visibleCount
        hidden := index.hiddenCount
        anchors := index.projectWorkspace hierarchy }

end Workspace

end Waymark
