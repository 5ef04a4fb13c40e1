import Waymark.Proofs.Engine.Refresh
import Waymark.Proofs.Workspace.Edits

set_option autoImplicit false

/-! A scan while others store and drop documents. The scan goes on in steps, between which requests
of others are answered. If it is cancelled or fails, it puts back the workspace that it took at its
beginning, without what was asked for since. -/

namespace Waymark.Engine

inductive Request where
  | update (document : Path) (text : String)
  | remove (document : Path)

namespace Request

def document : Request → Path
  | update document _ => document
  | remove document => document

def operation : Request → Operation
  | update document text => .update document text
  | remove document => .remove document

def edit (parser : Parser) : Request → Workspace.Edit
  | update document text => .insert document (Index.ofText parser document text)
  | remove document => .remove document

theorem document_edit (parser : Parser) (request : Request) :
    (request.edit parser).document = request.document := by
  cases request <;> rfl

end Request

def answerAll (engine : Engine) (asked : List Request) : Engine :=
  engine.performAll (asked.map Request.operation)

section Requests

variable {engine : Engine}

theorem answerAll_append (engine : Engine) (asked later : List Request) :
    engine.answerAll (asked ++ later) = (engine.answerAll asked).answerAll later := by
  unfold answerAll performAll
  rw [List.map_append, List.foldl_append]

theorem snapshot_perform_request {parser : Parser} (ready : engine.parser = some parser)
    (request : Request) :
    (engine.perform request.operation).snapshot = engine.snapshot.edit (request.edit parser) := by
  cases request with
  | update document text =>
      show (engine.updateDocument document text).1.snapshot = _
      unfold updateDocument
      rw [engine.requireParser_of_some ready]
      rfl
  | remove document => exact engine.snapshot_removeDocument document

theorem sameSettings_perform_request (engine : Engine) (request : Request) :
    engine.SameSettings (engine.perform request.operation) := by
  cases request with
  | update document text => exact (engine.moves_updateDocument document text).sameSettings
  | remove document => exact (engine.moves_removeDocument document).sameSettings

theorem snapshot_answerAll {parser : Parser} (ready : engine.parser = some parser)
    (asked : List Request) :
    (engine.answerAll asked).snapshot =
      (asked.map (Request.edit parser)).foldl Workspace.edit engine.snapshot := by
  induction asked generalizing engine with
  | nil => rfl
  | cons request rest ih =>
      have kept := (engine.sameSettings_perform_request request).parser.trans ready
      rw [List.map_cons, List.foldl_cons, ← snapshot_perform_request ready]
      exact ih kept

theorem parser_answerAll (engine : Engine) (asked : List Request) :
    (engine.answerAll asked).parser = engine.parser := by
  induction asked generalizing engine with
  | nil => rfl
  | cons request rest ih =>
      exact (ih _).trans (engine.sameSettings_perform_request request).parser

def touches (asked : List Request) (path : Path) : Bool :=
  asked.any fun request => path.same request.document

theorem touches_iff (parser : Parser) (asked : List Request) (path : Path) :
    touches asked path = true ↔
      ∃ edit ∈ asked.map (Request.edit parser), compare path edit.document = .eq := by
  simp only [touches, List.any_eq_true, List.mem_map, exists_exists_and_eq_and,
    Request.document_edit, Path.same_iff_compare]

/-- Requests decide what the documents have that they are about, and leave the others alone. -/
theorem find?_answerAll {parser : Parser} (ready : engine.parser = some parser)
    (asked : List Request) (path : Path) :
    (engine.answerAll asked).snapshot.find? path =
      if touches asked path then Workspace.lastWrite (asked.map (Request.edit parser)) path
      else engine.snapshot.find? path := by
  rw [snapshot_answerAll ready, Workspace.find?_foldl_edit]
  exact if_congr (touches_iff parser asked path).symm rfl rfl

/-- The same documents, and the same parser for those to come. -/
structure Agrees (first second : Engine) : Prop where
  parser : first.parser = second.parser
  documents : first.snapshot.documents = second.snapshot.documents

theorem Agrees.trans {first second third : Engine} (agrees : Agrees first second)
    (others : Agrees second third) : Agrees first third :=
  ⟨agrees.parser.trans others.parser, agrees.documents.trans others.documents⟩

theorem Agrees.perform {first second : Engine} (agrees : Agrees first second) (request : Request) :
    Agrees (first.perform request.operation) (second.perform request.operation) := by
  have firstKept := first.sameSettings_perform_request request
  have secondKept := second.sameSettings_perform_request request
  refine ⟨firstKept.parser.trans (agrees.parser.trans secondKept.parser.symm), ?_⟩
  cases request with
  | update document text =>
      show (first.updateDocument document text).1.snapshot.documents =
        (second.updateDocument document text).1.snapshot.documents
      unfold updateDocument requireParser
      rw [agrees.parser]
      cases second.parser with
      | none => exact agrees.documents
      | some parser =>
          exact congrArg (SortedMap.insert · document (Index.ofText parser document text))
            agrees.documents
  | remove document =>
      show (first.removeDocument document).1.snapshot.documents =
        (second.removeDocument document).1.snapshot.documents
      rw [snapshot_removeDocument, snapshot_removeDocument]
      exact congrArg (SortedMap.erase · document) agrees.documents

end Requests

/-! ### The steps of a scan -/

structure ScanJob where
  parser : Parser
  settings : WorkspaceSettings
  previous : Workspace

def scanJob (engine : Engine) (parser : Parser) : ScanJob :=
  { parser, settings := engine.config.workspace, previous := engine.snapshot }

inductive ScanStage where
  | waiting
  | taken (job : ScanJob)
  | marked (job : ScanJob)
  | reading (job : ScanJob) (scan : Scan)
  /-- The scan has only to publish the workspace that it leaves. -/
  | leaving (workspace : Workspace) (outcome : Except EngineError ScanReport)
  | ended (outcome : Except EngineError ScanReport)

/-- Whether a scan with this outcome puts back what it took. -/
def discarded : Except EngineError ScanReport → Bool
  | .ok report => report.cancelled
  | .error (.noParser _) => false
  | .error _ => true

def ScanJob.leave (job : ScanJob) : ScanEnd → ScanStage
  | .finished scan => .leaving (.ofScan scan) (.ok (.ofScan scan false))
  | .cancelled scan => .leaving job.previous (.ok (.ofScan scan true))
  | .broken => .leaving job.previous (.error .scanBroken)

def ScanStage.previous? : ScanStage → Option Workspace
  | taken job => some job.previous
  | marked job => some job.previous
  | reading job _ => some job.previous
  | leaving workspace outcome => if discarded outcome then some workspace else none
  | _ => none

structure Progress where
  engine : Engine
  stage : ScanStage := .waiting

namespace Progress

/-- Takes the next step of the scan. `cancelled` tells whether it has been cancelled by then. -/
def scanStep (progress : Progress) (environment : Environment) (cancelled : Bool) : Progress :=
  let engine := progress.engine
  match progress.stage with
  | .waiting =>
      match engine.requireParser with
      | .error error => { engine, stage := .ended (.error error) }
      | .ok parser =>
          if !engine.config.workspace.enabled then { engine, stage := .ended (.ok {}) }
          else { engine, stage := .taken (engine.scanJob parser) }
  | .taken job => { engine := engine.markScanning, stage := .marked job }
  | .marked job =>
      match environment.disk.documents engine.root job.settings.matchFiles
          job.settings.excludeFiles with
      | .error error => { engine, stage := .leaving job.previous (.error (.enumeration error)) }
      | .ok documents =>
          let scan := Scan.start documents job.settings.maxFiles Scan.defaultBatchSize
          { engine, stage := .reading job scan }
  | .reading job scan =>
      if cancelled then { engine, stage := job.leave (.cancelled scan) }
      else if breaksNext environment job.parser scan then { engine, stage := job.leave .broken }
      else
        let scan := scan.nextBatch job.parser environment.source
        if scan.isDone then { engine, stage := job.leave (.finished scan) }
        else { engine, stage := .reading job scan }
  | .leaving workspace outcome =>
      { engine := engine.publish workspace .workspace, stage := .ended outcome }
  | .ended _ => progress

end Progress

inductive Act where
  | scan (environment : Environment) (cancelled : Bool)
  | request (asked : Request)

def Act.request? : Act → Option Request
  | scan _ _ => none
  | request asked => some asked

def requests (acts : List Act) : List Request := acts.filterMap Act.request?

def Progress.act (progress : Progress) : Act → Progress
  | .scan environment cancelled => progress.scanStep environment cancelled
  | .request asked => { progress with engine := progress.engine.perform asked.operation }

def interleave (engine : Engine) (acts : List Act) : Progress :=
  acts.foldl Progress.act { engine }

theorem interleave_append (engine : Engine) (acts : List Act) (act : Act) :
    engine.interleave (acts ++ [act]) = (engine.interleave acts).act act :=
  List.foldl_append

theorem requests_append (acts later : List Act) :
    requests (acts ++ later) = requests acts ++ requests later :=
  List.filterMap_append

theorem requests_cons_of_none {act : Act} (scans : act.request? = none) (acts : List Act) :
    requests (act :: acts) = requests acts :=
  List.filterMap_cons_none scans

/-! ### A scan that is left alone -/

section Alone

variable {engine : Engine} {environment : Environment} {job : ScanJob} {scan : Scan}

theorem act_of_ready {parser : Parser} (ready : engine.parser = some parser)
    (enabled : engine.config.workspace.enabled = true) (cancelled : Bool) :
    (Progress.mk engine .waiting).act (.scan environment cancelled) =
      ⟨engine, .taken (engine.scanJob parser)⟩ := by
  simp only [Progress.act, Progress.scanStep, engine.requireParser_of_some ready, enabled,
    Bool.not_true, Bool.false_eq_true, if_false]

theorem act_of_unlisted {error : WalkError}
    (unlisted : environment.disk.documents engine.root job.settings.matchFiles
      job.settings.excludeFiles = .error error) (cancelled : Bool) :
    (Progress.mk engine (.marked job)).act (.scan environment cancelled) =
      ⟨engine, .leaving job.previous (.error (.enumeration error))⟩ := by
  simp only [Progress.act, Progress.scanStep, unlisted]

theorem act_of_listed {documents : List Path}
    (listed : environment.disk.documents engine.root job.settings.matchFiles
      job.settings.excludeFiles = .ok documents) (cancelled : Bool) :
    (Progress.mk engine (.marked job)).act (.scan environment cancelled) =
      ⟨engine, .reading job
        (Scan.start documents job.settings.maxFiles Scan.defaultBatchSize)⟩ := by
  simp only [Progress.act, Progress.scanStep, listed]

theorem act_of_breaks (breaks : breaksNext environment job.parser scan = true) :
    (Progress.mk engine (.reading job scan)).act (.scan environment false) =
      ⟨engine, job.leave .broken⟩ := by
  simp only [Progress.act, Progress.scanStep, breaks, Bool.false_eq_true, if_false, if_true]

theorem act_of_done (whole : breaksNext environment job.parser scan = false)
    (done : (scan.nextBatch job.parser environment.source).isDone = true) :
    (Progress.mk engine (.reading job scan)).act (.scan environment false) =
      ⟨engine, job.leave (.finished (scan.nextBatch job.parser environment.source))⟩ := by
  simp only [Progress.act, Progress.scanStep, whole, done, Bool.false_eq_true, if_false, if_true]

theorem act_of_more (whole : breaksNext environment job.parser scan = false)
    (more : (scan.nextBatch job.parser environment.source).isDone = false) :
    (Progress.mk engine (.reading job scan)).act (.scan environment false) =
      ⟨engine, .reading job (scan.nextBatch job.parser environment.source)⟩ := by
  simp only [Progress.act, Progress.scanStep, whole, more, Bool.false_eq_true, if_false]

theorem foldl_act_runBatches (environment : Environment) (engine : Engine) (job : ScanJob)
    (scan : Scan) (cancelAfter : Option Nat) {steps : Nat}
    (bounded : scan.pending.length ≤ steps) (positive : 0 < scan.batchSize) :
    ∃ flags : List Bool,
      (flags.map (Act.scan environment)).foldl Progress.act ⟨engine, .reading job scan⟩ =
        ⟨engine, job.leave (runBatches environment job.parser cancelAfter steps scan)⟩ := by
  fun_induction runBatches environment job.parser cancelAfter steps scan with
  | case1 steps scan => exact ⟨[true], rfl⟩
  | case2 steps cancelAfter scan unasked breaks => exact ⟨[false], act_of_breaks breaks⟩
  | case3 cancelAfter scan unasked whole next =>
      rw [Bool.not_eq_true] at whole
      refine ⟨[false], act_of_done whole ?_⟩
      cases more : (scan.nextBatch job.parser environment.source).isDone with
      | true => rfl
      | false =>
          have fewer :=
            Scan.length_pending_nextBatch_lt job.parser environment.source positive more
          omega
  | case4 cancelAfter scan unasked whole next steps done =>
      rw [Bool.not_eq_true] at whole
      exact ⟨[false], act_of_done whole done⟩
  | case5 cancelAfter scan unasked whole next steps more ih =>
      rw [Bool.not_eq_true] at whole more
      have fewer : next.pending.length < scan.pending.length :=
        Scan.length_pending_nextBatch_lt job.parser environment.source positive more
      have kept : next.batchSize = scan.batchSize := by
        unfold next
        rw [Scan.nextBatch_eq_iterate, Scan.batchSize_iterate]
      obtain ⟨flags, rest⟩ := ih (by omega) (by omega)
      refine ⟨false :: flags, ?_⟩
      rw [List.map_cons, List.foldl_cons, act_of_more whole more]
      exact rest

theorem interleave_marked {parser : Parser} (ready : engine.parser = some parser)
    (enabled : engine.config.workspace.enabled = true) :
    engine.interleave [.scan environment false, .scan environment false] =
      ⟨engine.markScanning, .marked (engine.scanJob parser)⟩ :=
  congrArg (Progress.act · (.scan environment false)) (act_of_ready ready enabled false)

theorem interleave_unlisted {parser : Parser} {error : WalkError}
    (ready : engine.parser = some parser) (enabled : engine.config.workspace.enabled = true)
    (unlisted : environment.disk.documents engine.root engine.config.workspace.matchFiles
      engine.config.workspace.excludeFiles = .error error) :
    engine.interleave ([false, false, false, false].map (.scan environment)) =
      ⟨engine.markScanning.restore engine.snapshot, .ended (.error (.enumeration error))⟩ :=
  calc engine.interleave ([false, false, false, false].map (.scan environment))
      = [Act.scan environment false, .scan environment false].foldl Progress.act
          (engine.interleave [.scan environment false, .scan environment false]) := rfl
    _ = ⟨engine.markScanning.restore engine.snapshot, .ended (.error (.enumeration error))⟩ := by
        rw [interleave_marked ready enabled, List.foldl_cons, act_of_unlisted unlisted]
        rfl

theorem interleave_listed {parser : Parser} {documents : List Path}
    (ready : engine.parser = some parser) (enabled : engine.config.workspace.enabled = true)
    (listed : environment.disk.documents engine.root engine.config.workspace.matchFiles
      engine.config.workspace.excludeFiles = .ok documents) (cancelAfter : Option Nat) :
    ∃ flags : List Bool, engine.interleave (flags.map (.scan environment)) =
      (Progress.mk engine.markScanning ((engine.scanJob parser).leave
        (runBatches environment parser cancelAfter documents.length
          (Scan.start documents engine.config.workspace.maxFiles
            Scan.defaultBatchSize)))).act (.scan environment false) := by
  obtain ⟨flags, read⟩ := foldl_act_runBatches environment engine.markScanning
    (engine.scanJob parser)
    (Scan.start documents engine.config.workspace.maxFiles Scan.defaultBatchSize) cancelAfter
    (Nat.le_refl documents.length) (Nat.le_max_right Scan.defaultBatchSize 1)
  refine ⟨[false, false, false] ++ flags ++ [false], ?_⟩
  have steps : engine.interleave (([false, false, false] ++ flags ++ [false]).map
      (.scan environment)) =
        ((flags.map (.scan environment)).foldl Progress.act
          ((engine.interleave [.scan environment false, .scan environment false]).act
            (.scan environment false))).act (.scan environment false) := by
    rw [List.map_append, List.map_append]
    unfold interleave
    rw [List.foldl_append, List.foldl_append]
    rfl
  rw [steps, interleave_marked ready enabled, act_of_listed listed]
  exact congrArg (Progress.act · (.scan environment false)) read

/-- A scan that no request interrupts does what it does in one operation. -/
theorem interleave_alone (engine : Engine) (environment : Environment) (cancelAfter : Option Nat) :
    ∃ flags : List Bool, engine.interleave (flags.map (.scan environment)) =
      ⟨(engine.scan environment cancelAfter).1,
        .ended (engine.scan environment cancelAfter).2⟩ := by
  cases parsed : engine.parser with
  | none =>
      refine ⟨[false], ?_⟩
      simp only [interleave, List.map_cons, List.map_nil, List.foldl_cons, List.foldl_nil,
        Progress.act, Progress.scanStep, Engine.scan, engine.requireParser_of_none parsed]
  | some parser =>
      cases enabled : engine.config.workspace.enabled with
      | false =>
          refine ⟨[false], ?_⟩
          simp only [interleave, List.map_cons, List.map_nil, List.foldl_cons, List.foldl_nil,
            Progress.act, Progress.scanStep, Engine.scan, engine.requireParser_of_some parsed,
            enabled, Bool.not_false, if_true]
      | true =>
          cases listed : environment.disk.documents engine.root engine.config.workspace.matchFiles
              engine.config.workspace.excludeFiles with
          | error error =>
              refine ⟨[false, false, false, false], ?_⟩
              rw [interleave_unlisted parsed enabled listed,
                engine.scan_of_enumeration_error parsed enabled listed,
                engine.restore_markScanning]
          | ok documents =>
              obtain ⟨flags, ran⟩ := interleave_listed parsed enabled listed cancelAfter
              refine ⟨flags, ?_⟩
              rw [ran, engine.scan_of_documents parsed enabled listed,
                ← engine.restore_markScanning]
              cases runBatches environment parser cancelAfter documents.length
                (Scan.start documents engine.config.workspace.maxFiles
                  Scan.defaultBatchSize) <;> rfl

end Alone

/-! ### What acts keep -/

inductive ScanMoves (progress next : Progress) : Prop where
  | opens (waiting : progress.stage = .waiting) (ready : progress.engine.parser.isSome = true)
      (same : next.engine = progress.engine)
      (taken : next.stage.previous? = some progress.engine.snapshot)
  | continues (previous : Workspace) (before : progress.stage.previous? = some previous)
      (after : next.stage.previous? = some previous) (agrees : Agrees next.engine progress.engine)
  | closes (workspace : Workspace) (outcome : Except EngineError ScanReport)
      (leaving : progress.stage = .leaving workspace outcome)
      (published : next = ⟨progress.engine.publish workspace .workspace, .ended outcome⟩)
  | rests (same : next = progress)
  /-- The scan is refused or has finished, so it puts nothing back. -/
  | keeps (begun : next.stage ≠ .waiting) (nothing : next.stage.previous? = none)
      (kept : ∀ outcome, next.stage = .ended outcome → discarded outcome = false)

theorem scanMoves (progress : Progress) (environment : Environment) (cancelled : Bool) :
    ScanMoves progress (progress.scanStep environment cancelled) := by
  obtain ⟨engine, stage⟩ := progress
  cases stage with
  | waiting =>
      unfold Progress.scanStep
      cases parsed : engine.parser with
      | none =>
          simp only [engine.requireParser_of_none parsed]
          refine .keeps nofun rfl ?_
          intro outcome ended
          cases ended
          rfl
      | some parser =>
          simp only [engine.requireParser_of_some parsed]
          split
          · refine .keeps nofun rfl ?_
            intro outcome ended
            cases ended
            rfl
          · exact .opens rfl (Option.isSome_iff_exists.mpr ⟨parser, parsed⟩) rfl rfl
  | taken job => exact .continues job.previous rfl rfl ⟨rfl, rfl⟩
  | marked job =>
      unfold Progress.scanStep
      dsimp only
      split
      · exact .continues job.previous rfl rfl ⟨rfl, rfl⟩
      · exact .continues job.previous rfl rfl ⟨rfl, rfl⟩
  | reading job scan =>
      unfold Progress.scanStep
      dsimp only
      split
      · exact .continues job.previous rfl rfl ⟨rfl, rfl⟩
      · split
        · exact .continues job.previous rfl rfl ⟨rfl, rfl⟩
        · split
          · exact .keeps nofun rfl nofun
          · exact .continues job.previous rfl rfl ⟨rfl, rfl⟩
  | leaving workspace outcome => exact .closes workspace outcome rfl rfl
  | ended outcome => exact .rests rfl

/-- A scan has taken its workspace after the acts before the one that opens it. -/
structure Opened (engine : Engine) (before : List Act) (opening : Act)
    (previous : Workspace) : Prop where
  waiting : (engine.interleave before).stage = .waiting
  scans : opening.request? = none
  ready : engine.parser.isSome = true
  taken : previous.documents = (engine.answerAll (requests before)).snapshot.documents

/-- Among some acts a scan has taken the workspace that it is to put back. -/
def Taken (engine : Engine) (acts : List Act) (previous : Workspace) : Prop :=
  ∃ before opening during, acts = before ++ opening :: during ∧
    Opened engine before opening previous

/-- Where among some acts a scan was under way that put back what it took. -/
structure Window (engine : Engine) (acts : List Act)
    (outcome : Except EngineError ScanReport) where
  before : List Act
  opening : Act
  during : List Act
  closing : Act
  after : List Act
  previous : Workspace
  split : acts = before ++ opening :: (during ++ closing :: after)
  opened : Opened engine before opening previous
  leaving : (engine.interleave (before ++ opening :: during)).stage = .leaving previous outcome
  closes : closing.request? = none

/-- What acts tell of the documents. No request is lost unless a scan puts back what it took. -/
structure Tells (engine : Engine) (acts : List Act) : Prop where
  waiting : (engine.interleave acts).stage = .waiting →
    Agrees (engine.interleave acts).engine (engine.answerAll (requests acts))
  underway : ∀ previous, (engine.interleave acts).stage.previous? = some previous →
    Agrees (engine.interleave acts).engine (engine.answerAll (requests acts)) ∧
      Taken engine acts previous
  ended : ∀ outcome, (engine.interleave acts).stage = .ended outcome → discarded outcome = true →
    ∃ window : Window engine acts outcome,
      Agrees (engine.interleave acts).engine
        (engine.answerAll (requests window.before ++ requests window.after))

section Tells

variable {engine : Engine} {acts : List Act} {act : Act} {previous : Workspace}
  {outcome : Except EngineError ScanReport}

theorem Taken.append (taken : Taken engine acts previous) (act : Act) :
    Taken engine (acts ++ [act]) previous := by
  obtain ⟨before, opening, during, split, opened⟩ := taken
  refine ⟨before, opening, during ++ [act], ?_, opened⟩
  rw [split, List.append_assoc, List.cons_append]

def Window.append (window : Window engine acts outcome) (act : Act) :
    Window engine (acts ++ [act]) outcome :=
  { window with
    after := window.after ++ [act]
    split := by
      have longer := congrArg (· ++ [act]) window.split
      simpa only [List.append_assoc, List.cons_append] using longer }

theorem Window.requests_eq (window : Window engine acts outcome) :
    requests acts =
      requests window.before ++ requests window.during ++ requests window.after := by
  refine (congrArg requests window.split).trans ?_
  rw [requests_append, requests_cons_of_none window.opened.scans, requests_append,
    requests_cons_of_none window.closes, List.append_assoc]

theorem Agrees.request {current : Engine} {asked : List Request}
    (agrees : Agrees current (engine.answerAll asked)) (request : Request) :
    Agrees (current.perform request.operation) (engine.answerAll (asked ++ [request])) := by
  rw [answerAll_append]
  exact agrees.perform request

theorem Tells.request (tells : Tells engine acts) (request : Request) :
    Tells engine (acts ++ [.request request]) := by
  have asked : requests (acts ++ [.request request]) = requests acts ++ [request] :=
    requests_append acts _
  constructor
  · rw [interleave_append, asked]
    intro waiting
    exact (tells.waiting waiting).request request
  · rw [interleave_append, asked]
    intro previous underway
    obtain ⟨agrees, taken⟩ := tells.underway previous underway
    exact ⟨agrees.request request, taken.append (.request request)⟩
  · rw [interleave_append]
    intro outcome ended restored
    obtain ⟨window, agrees⟩ := tells.ended outcome ended restored
    refine ⟨window.append (.request request), ?_⟩
    have after : requests (window.append (.request request)).after =
        requests window.after ++ [request] := requests_append window.after _
    rw [after, ← List.append_assoc]
    exact agrees.request request

theorem requests_append_of_none (scans : act.request? = none) (acts : List Act) :
    requests (acts ++ [act]) = requests acts := by
  rw [requests_append, requests_cons_of_none scans]
  exact List.append_nil _

theorem tells_of_underway
    (underway : (engine.interleave acts).stage.previous? = some previous)
    (agrees : Agrees (engine.interleave acts).engine (engine.answerAll (requests acts)))
    (taken : Taken engine acts previous) : Tells engine acts := by
  constructor
  · intro waiting
    rw [waiting] at underway
    cases underway
  · intro other known
    rw [underway, Option.some.injEq] at known
    rw [← known]
    exact ⟨agrees, taken⟩
  · intro outcome ended
    rw [ended] at underway
    cases underway

theorem Tells.opens (tells : Tells engine acts) (scans : act.request? = none)
    (waiting : (engine.interleave acts).stage = .waiting)
    (ready : (engine.interleave acts).engine.parser.isSome = true)
    (same : (engine.interleave (acts ++ [act])).engine = (engine.interleave acts).engine)
    (underway : (engine.interleave (acts ++ [act])).stage.previous? =
      some (engine.interleave acts).engine.snapshot) : Tells engine (acts ++ [act]) := by
  have agrees := tells.waiting waiting
  rw [agrees.parser, parser_answerAll] at ready
  apply tells_of_underway underway
  · rw [same, requests_append_of_none scans]
    exact agrees
  · exact ⟨acts, act, [], rfl, waiting, scans, ready, agrees.documents⟩

theorem Tells.continues (tells : Tells engine acts) (scans : act.request? = none)
    (before : (engine.interleave acts).stage.previous? = some previous)
    (after : (engine.interleave (acts ++ [act])).stage.previous? = some previous)
    (kept : Agrees (engine.interleave (acts ++ [act])).engine (engine.interleave acts).engine) :
    Tells engine (acts ++ [act]) := by
  obtain ⟨agrees, taken⟩ := tells.underway previous before
  apply tells_of_underway after
  · rw [requests_append_of_none scans]
    exact kept.trans agrees
  · exact taken.append act

theorem Tells.closes (tells : Tells engine acts) (scans : act.request? = none)
    (leaving : (engine.interleave acts).stage = .leaving previous outcome)
    (published : engine.interleave (acts ++ [act]) =
      ⟨(engine.interleave acts).engine.publish previous .workspace, .ended outcome⟩) :
    Tells engine (acts ++ [act]) := by
  constructor
  · rw [published]
    exact nofun
  · rw [published]
    exact nofun
  · rw [published]
    intro other ended restored
    cases ended
    have underway : (engine.interleave acts).stage.previous? = some previous := by
      rw [leaving]
      exact if_pos restored
    obtain ⟨agrees, before, opening, during, split, opened⟩ := tells.underway previous underway
    -- Nothing has been asked for since, so what was asked for before the scan is all there is.
    have documents : previous.documents =
        (engine.answerAll (requests before ++ requests [])).snapshot.documents := by
      rw [opened.taken]
      exact congrArg (fun asked => (engine.answerAll asked).snapshot.documents)
        (List.append_nil _).symm
    refine ⟨
      { before, opening, during, closing := act, after := [], previous, split := ?_, opened
        leaving := ?_, closes := scans }, ?_, documents⟩
    · rw [split, List.append_assoc, List.cons_append]
    · rw [← split]
      exact leaving
    · exact agrees.parser.trans
        ((engine.parser_answerAll _).trans (engine.parser_answerAll _).symm)

theorem Tells.rests (tells : Tells engine acts) (scans : act.request? = none)
    (same : engine.interleave (acts ++ [act]) = engine.interleave acts) :
    Tells engine (acts ++ [act]) := by
  have asked := requests_append_of_none scans
  constructor
  · rw [same, asked]
    exact tells.waiting
  · rw [same, asked]
    intro previous underway
    obtain ⟨agrees, taken⟩ := tells.underway previous underway
    exact ⟨agrees, taken.append act⟩
  · rw [same]
    intro outcome ended restored
    obtain ⟨window, agrees⟩ := tells.ended outcome ended restored
    refine ⟨window.append act, ?_⟩
    have after : requests (window.append act).after = requests window.after := asked window.after
    rw [after]
    exact agrees

theorem Tells.scan (tells : Tells engine acts) (environment : Environment) (cancelled : Bool) :
    Tells engine (acts ++ [.scan environment cancelled]) := by
  have moves := scanMoves (engine.interleave acts) environment cancelled
  have ran : engine.interleave (acts ++ [.scan environment cancelled]) =
      (engine.interleave acts).scanStep environment cancelled := interleave_append _ _ _
  rw [← ran] at moves
  cases moves with
  | opens waiting ready same underway => exact tells.opens rfl waiting ready same underway
  | continues previous before after kept => exact tells.continues rfl before after kept
  | closes workspace outcome leaving published => exact tells.closes rfl leaving published
  | rests same => exact tells.rests rfl same
  | keeps begun nothing kept =>
      constructor
      · intro waiting
        exact absurd waiting begun
      · intro previous underway
        rw [nothing] at underway
        cases underway
      · intro outcome ended restored
        rw [kept outcome ended] at restored
        cases restored

theorem tells_interleave (engine : Engine) (acts : List Act) : Tells engine acts := by
  induction acts using List.reverseRecOn with
  | nil =>
      refine ⟨fun _ => ⟨rfl, rfl⟩, ?_, ?_⟩
      · intro previous underway
        cases underway
      · intro outcome ended
        cases ended
  | append_singleton acts act ih =>
      cases act with
      | scan environment cancelled => exact ih.scan environment cancelled
      | request asked => exact ih.request asked

end Tells

/-- A scan that is cancelled or fails puts back the workspace that it took, without what was asked
for while it was under way. So the documents are those that the requests alone would leave exactly
if, for each path that is not asked for later, what was asked for meanwhile changes nothing. -/
theorem discarded_scan_drops_requests (engine : Engine) (acts : List Act)
    {outcome : Except EngineError ScanReport}
    (ended : (engine.interleave acts).stage = .ended outcome) (restored : discarded outcome = true) :
    ∃ window : Window engine acts outcome,
      (engine.interleave acts).engine.snapshot.documents =
        (engine.answerAll (requests window.before ++ requests window.after)).snapshot.documents ∧
      ((∀ path, (engine.interleave acts).engine.snapshot.find? path =
          (engine.answerAll (requests acts)).snapshot.find? path) ↔
        ∀ path, touches (requests window.after) path ∨
          (engine.answerAll (requests window.before)).snapshot.find? path =
            (engine.answerAll (requests window.before ++ requests window.during)).snapshot.find?
              path) := by
  obtain ⟨window, agrees⟩ := (tells_interleave engine acts).ended outcome ended restored
  refine ⟨window, agrees.documents, forall_congr' fun path => ?_⟩
  obtain ⟨parser, ready⟩ := Option.isSome_iff_exists.mp window.opened.ready
  have left : (engine.interleave acts).engine.snapshot.find? path =
      (engine.answerAll (requests window.before ++ requests window.after)).snapshot.find? path :=
    congrArg (SortedMap.find? · path) agrees.documents
  have before := (engine.parser_answerAll (requests window.before)).trans ready
  have meanwhile :=
    (engine.parser_answerAll (requests window.before ++ requests window.during)).trans ready
  rw [left, window.requests_eq, answerAll_append engine _ (requests window.after),
    answerAll_append engine _ (requests window.after), find?_answerAll before,
    find?_answerAll meanwhile]
  -- A later request decides what its document has, whatever was there when the scan ended.
  cases touches (requests window.after) path with
  | true => exact iff_of_true rfl (Or.inl rfl)
  | false => exact (or_iff_right Bool.false_ne_true).symm

/-- A document is stored before a scan and another one while it is under way; then the scan is
cancelled. -/
def lateRequest : List Act :=
  [.request (.update ⟨"/a"⟩ "TODO one"), .scan (holding "a" "TODO one") false,
    .scan (holding "a" "TODO one") false, .scan (holding "a" "TODO one") false,
    .request (.update ⟨"/b"⟩ "TODO two"), .scan (holding "a" "TODO one") true,
    .scan (holding "a" "TODO one") true]

private theorem interleave_lateRequest (parser : Parser) :
    ∃ report, ((lister parser).interleave lateRequest).stage = .ended (.ok report) ∧
      report.cancelled = true ∧
      ((lister parser).interleave lateRequest).engine.snapshot.documents.keys = [⟨"/a"⟩] := by
  let engine := (lister parser).perform (.update ⟨"/a"⟩ "TODO one")
  have ready : engine.parser = some parser := rfl
  have enabled : engine.config.workspace.enabled = true := rfl
  have listed : (holding "a" "TODO one").disk.documents engine.markScanning.root
      (engine.scanJob parser).settings.matchFiles (engine.scanJob parser).settings.excludeFiles =
        .ok [⟨"/a"⟩] := documents_holding (Or.inl rfl) "TODO one"
  have asked : (Progress.mk (lister parser) .waiting).act
      (.request (.update ⟨"/a"⟩ "TODO one")) = ⟨engine, .waiting⟩ := rfl
  have marked : (Progress.mk engine (.taken (engine.scanJob parser))).act
      (.scan (holding "a" "TODO one") false) =
        ⟨engine.markScanning, .marked (engine.scanJob parser)⟩ := rfl
  unfold interleave lateRequest
  rw [List.foldl_cons, asked, List.foldl_cons, act_of_ready ready enabled, List.foldl_cons, marked,
    List.foldl_cons, act_of_listed listed]
  exact ⟨_, rfl, rfl, rfl⟩

/-- The scan ends with the documents of the request before it. -/
theorem discarded_scan_drops_requests_late :
    ∃ parser report,
      ((lister parser).interleave lateRequest).stage = .ended (.ok report) ∧
      report.cancelled = true ∧
      ∃ window : Window (lister parser) lateRequest (.ok report),
        ((lister parser).interleave lateRequest).engine.snapshot.documents =
          ((lister parser).answerAll
            (requests window.before ++ requests window.after)).snapshot.documents := by
  obtain ⟨parser, _⟩ := Config.parser_default
  obtain ⟨report, ended, cancelled, _⟩ := interleave_lateRequest parser
  obtain ⟨window, documents, _⟩ :=
    discarded_scan_drops_requests (lister parser) lateRequest ended cancelled
  exact ⟨parser, report, ended, cancelled, window, documents⟩

/-- The request that was made while the scan was under way is lost. -/
theorem late_request_lost :
    ∃ parser report,
      ((lister parser).interleave lateRequest).stage = .ended (.ok report) ∧
      report.cancelled = true ∧
      ((lister parser).interleave lateRequest).engine.snapshot.documents.keys = [⟨"/a"⟩] ∧
      ((lister parser).answerAll (requests lateRequest)).snapshot.documents.keys =
        [⟨"/a"⟩, ⟨"/b"⟩] := by
  obtain ⟨parser, _⟩ := Config.parser_default
  obtain ⟨report, ended, cancelled, keys⟩ := interleave_lateRequest parser
  exact ⟨parser, report, ended, cancelled, keys, rfl⟩

end Waymark.Engine
