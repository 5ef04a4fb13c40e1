import Waymark.Index
import Waymark.Workspace.Source

set_option autoImplicit false

/-! Scans: reading and indexing a list of documents, in batches, until the list is done or enough
documents are indexed. A document that cannot be read is counted and passed over. -/

namespace Waymark

def loadDocument (parser : Parser) (source : Source) (document : Path) :
    Except SourceError Index :=
  (source document).map (Index.ofText parser document)

structure Scan where
  pending : List Path
  indexed : SortedMap Path Index := {}
  maxFiles : Nat
  batchSize : Nat
  failed : Nat := 0

inductive BatchOutcome where
  | more
  | done
deriving DecidableEq, Repr

namespace Scan

def defaultBatchSize : Nat := 10

/-- A new scan; a batch has at least one document. -/
def start (documents : List Path) (maxFiles batchSize : Nat) : Scan :=
  { pending := documents, maxFiles, batchSize := max batchSize 1 }

def isDone (scan : Scan) : Bool :=
  scan.pending.isEmpty || scan.maxFiles ≤ scan.indexed.size

def step (parser : Parser) (source : Source) (scan : Scan) : Scan :=
  if scan.isDone then scan
  else
    match scan.pending with
    | [] => scan
    | document :: pending =>
        match loadDocument parser source document with
        | .ok index => { scan with pending, indexed := scan.indexed.insert document index }
        | .error _ => { scan with pending, failed := scan.failed + 1 }

def steps (parser : Parser) (source : Source) : Nat → Scan → Scan
  | 0, scan => scan
  | count + 1, scan => steps parser source count (scan.step parser source)

def reads (parser : Parser) (source : Source) : Nat → Scan → List Path
  | 0, _ => []
  | count + 1, scan =>
      if scan.isDone then []
      else scan.pending.head?.toList ++ reads parser source count (scan.step parser source)

def batchLength (scan : Scan) : Nat := min scan.batchSize scan.pending.length

def batchReads (parser : Parser) (source : Source) (scan : Scan) : List Path :=
  reads parser source scan.batchLength scan

def nextBatch (parser : Parser) (source : Source) (scan : Scan) : Scan :=
  steps parser source scan.batchLength scan

def outcome (scan : Scan) : BatchOutcome := if scan.isDone then .done else .more

/-- Takes up to a number of batches, at least one, until the scan is done. -/
def runBatches (parser : Parser) (source : Source) : Nat → Scan → Scan
  | 0, scan => scan.nextBatch parser source
  | count + 1, scan =>
      let scan := scan.nextBatch parser source
      if scan.isDone then scan else runBatches parser source count scan

/-- Takes batches until the scan is done; each takes a document, so their number is bounded. -/
def run (parser : Parser) (source : Source) (scan : Scan) : Scan :=
  runBatches parser source scan.pending.length scan

end Scan

end Waymark
