import Waymark.Engine.Basic

set_option autoImplicit false

/-! Scans of the workspace of an engine. A scan shows the workspace as being scanned until it ends;
one that is cancelled or fails puts back the workspace from before. -/

namespace Waymark

structure ScanReport where
  indexed : Nat := 0
  failed : Nat := 0
  /-- How many documents were not visited. -/
  skipped : Nat := 0
  /-- The scan was cancelled, and what it found is gone. -/
  cancelled : Bool := false
deriving DecidableEq, Repr

namespace ScanReport

def ofScan (scan : Scan) (cancelled : Bool) : ScanReport :=
  { indexed := scan.indexed.size
    failed := scan.failed
    skipped := scan.pending.length
    cancelled }

end ScanReport

inductive ScanEnd where
  | finished (scan : Scan)
  | cancelled (scan : Scan)
  | broken

namespace Engine

/-- Takes batches until the scan is done. With `cancelAfter` the scan is cancelled before the batch
that follows that many. Each batch takes a document, so `steps`, the number of documents, bounds
them. -/
def runBatches (environment : Environment) (parser : Parser) (cancelAfter : Option Nat)
    (steps : Nat) (scan : Scan) : ScanEnd :=
  if cancelAfter = some 0 then .cancelled scan
  else if (scan.batchReads parser environment.source).any environment.breaks then .broken
  else
    let scan := scan.nextBatch parser environment.source
    match steps with
    | 0 => .finished scan
    | steps + 1 =>
        if scan.isDone then .finished scan
        else runBatches environment parser (cancelAfter.map (· - 1)) steps scan

def markScanning (engine : Engine) : Engine :=
  engine.update .workspace fun workspace => workspace.reset.setStatus .scanning

def restore (engine : Engine) (previous : Workspace) : Engine :=
  engine.publish previous .workspace

def scan (engine : Engine) (environment : Environment) (cancelAfter : Option Nat) :
    Engine × Except EngineError ScanReport :=
  match engine.requireParser with
  | .error error => (engine, .error error)
  | .ok parser =>
      let workspace := engine.config.workspace
      if !workspace.enabled then (engine, .ok {})
      else
        let marked := engine.markScanning
        match environment.disk.documents engine.root workspace.matchFiles workspace.excludeFiles with
        | .error error => (marked.restore engine.snapshot, .error (.enumeration error))
        | .ok documents =>
            let scan := Scan.start documents workspace.maxFiles Scan.defaultBatchSize
            match runBatches environment parser cancelAfter documents.length scan with
            | .broken => (marked.restore engine.snapshot, .error .scanBroken)
            | .cancelled scan =>
                (marked.restore engine.snapshot, .ok (.ofScan scan true))
            | .finished scan =>
                (marked.publish (.ofScan scan) .workspace, .ok (.ofScan scan false))

end Engine

end Waymark
