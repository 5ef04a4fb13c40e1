import Waymark.Workspace.Basic

set_option autoImplicit false

/-! Epics: the anchors of the workspace that belong together, across documents, in the order of
their `seq`. Only anchors at the top of a document count. -/

namespace Waymark

structure EpicCompletion where
  epic : String
  nextSeq : Int
deriving DecidableEq, Repr

namespace EpicCompletion

def text (item : EpicCompletion) : String :=
  "epic=" ++ item.epic ++ ",seq=" ++ toString item.nextSeq

def toJson (item : EpicCompletion) : Json :=
  .object [("epic", .string item.epic), ("next_seq", .number item.nextSeq)]

end EpicCompletion

abbrev Epics := SortedMap String (List Anchor)

namespace Workspace

/-- The anchors at the top that the workspace shows, in document order. -/
def visibleRoots (workspace : Workspace) : List Anchor :=
  workspace.documents.values.flatMap fun index => index.roots.filter Anchor.isWorkspaceVisible

def addToEpic (epics : Epics) (anchor : Anchor) : Epics :=
  match anchor.attributes.epic with
  | some epic => epics.insert epic ((epics.find? epic).getD [] ++ [anchor])
  | none => epics

/-- The epics of the workspace, each by ascending `seq`; for one `seq` the order of the documents and
of the anchors in them is kept. -/
def epics (workspace : Workspace) : Epics :=
  (workspace.visibleRoots.foldl addToEpic {}).mapValues fun anchors =>
    anchors.mergeSort fun a b => a.attributes.seq ≤ b.attributes.seq

/-- The greatest of some sequence numbers, 0 if there are none. -/
def greatestSeq : List Anchor → Int
  | [] => 0
  | anchor :: rest => rest.foldl (fun seq next => max seq next.attributes.seq) anchor.attributes.seq

/-- What continues each epic: its greatest `seq` and a step, within the signed 64-bit range. -/
def epicCompletions (workspace : Workspace) (seqStep : Int) : List EpicCompletion :=
  workspace.epics.entries.map fun (epic, anchors) =>
    ⟨epic, Text.saturatingAdd (greatestSeq anchors) seqStep⟩

end Workspace

end Waymark
