import Waymark.Proofs.Engine.Batches
import Waymark.Proofs.Engine.Operation

set_option autoImplicit false

/-! Operations that fail. A scan that ends early puts back the workspace that it found, wherever it
ends; all other failures leave the engine as it is, but for the error of settings that cannot be
used. -/

namespace Waymark.Engine

section Failures

variable (engine : Engine)

/-- The engine after a scan that has put back the workspace: it was told of twice. -/
def afterRestore : Engine :=
  { engine with
    published := engine.snapshot
    version := engine.version + 2
    changes := engine.changes ++ [.workspace, .workspace] }

theorem restore_markScanning :
    engine.markScanning.restore engine.snapshot = engine.afterRestore := by
  have told : (engine.changes ++ [Change.workspace]) ++ [Change.workspace] =
      engine.changes ++ [.workspace, .workspace] := List.append_assoc _ _ _
  unfold afterRestore
  rw [← told]
  rfl

theorem requireParser_of_some {parser : Parser} (ready : engine.parser = some parser) :
    engine.requireParser = .ok parser := by
  unfold requireParser
  rw [ready]

theorem requireParser_of_none (missing : engine.parser = none) :
    engine.requireParser =
      .error (.noParser (engine.configError.getD "no parser configured")) := by
  unfold requireParser
  rw [missing]

/-- What a scan does is decided by its documents and the end of its batches. -/
theorem scan_of_documents {environment : Environment} {parser : Parser} {documents : List Path}
    (ready : engine.parser = some parser) (enabled : engine.config.workspace.enabled = true)
    (listed : environment.disk.documents engine.root engine.config.workspace.matchFiles
      engine.config.workspace.excludeFiles = .ok documents) (cancelAfter : Option Nat) :
    engine.scan environment cancelAfter =
      match runBatches environment parser cancelAfter documents.length
          (Scan.start documents engine.config.workspace.maxFiles Scan.defaultBatchSize) with
      | .broken => (engine.afterRestore, .error .scanBroken)
      | .cancelled scan => (engine.afterRestore, .ok (.ofScan scan true))
      | .finished scan =>
          (engine.markScanning.publish (.ofScan scan) .workspace, .ok (.ofScan scan false)) := by
  generalize ended : runBatches environment parser cancelAfter documents.length
    (Scan.start documents engine.config.workspace.maxFiles Scan.defaultBatchSize) = ending
  unfold scan
  rw [engine.requireParser_of_some ready, ← engine.restore_markScanning]
  cases ending <;>
    simp only [enabled, Bool.not_true, Bool.false_eq_true, if_false, listed, ended]

theorem scan_of_enumeration_error {environment : Environment} {parser : Parser} {error : WalkError}
    (ready : engine.parser = some parser) (enabled : engine.config.workspace.enabled = true)
    (unlisted : environment.disk.documents engine.root engine.config.workspace.matchFiles
      engine.config.workspace.excludeFiles = .error error) (cancelAfter : Option Nat) :
    engine.scan environment cancelAfter = (engine.afterRestore, .error (.enumeration error)) := by
  unfold scan
  rw [engine.requireParser_of_some ready, ← engine.restore_markScanning]
  simp only [enabled, Bool.not_true, Bool.false_eq_true, if_false, unlisted]

theorem scan_of_reaches {environment : Environment} {parser : Parser} {documents : List Path}
    {count : Nat} (ready : engine.parser = some parser)
    (enabled : engine.config.workspace.enabled = true)
    (listed : environment.disk.documents engine.root engine.config.workspace.matchFiles
      engine.config.workspace.excludeFiles = .ok documents)
    (reached : Reaches environment parser
      (Scan.start documents engine.config.workspace.maxFiles Scan.defaultBatchSize) count) :
    engine.scan environment (some count) =
      (engine.afterRestore, .ok (.ofScan (afterBatches environment parser
        (Scan.start documents engine.config.workspace.maxFiles Scan.defaultBatchSize) count)
        true)) := by
  have ended := runBatches_of_reaches reached (Nat.le_refl documents.length)
    (Nat.le_max_right Scan.defaultBatchSize 1)
  rw [engine.scan_of_documents ready enabled listed, ended]

theorem scan_of_disabled (disabled : engine.config.workspace.enabled = false)
    (environment : Environment) (cancelAfter : Option Nat) :
    (engine.scan environment cancelAfter).1 = engine := by
  unfold scan
  cases engine.requireParser with
  | error error => rfl
  | ok parser => simp only [disabled, Bool.not_false, if_true]

theorem refreshDocument_of_error {environment : Environment} {document : Path} {error : SourceError}
    (unread : environment.source document = .error error) (there : ∀ path, error ≠ .notFound path) :
    (engine.refreshDocument environment document).1 = engine := by
  unfold refreshDocument loadDocument
  cases engine.requireParser with
  | error error => rfl
  | ok parser =>
      simp only [unread]
      split
      · rfl
      · cases error with
        | notFound path => exact absurd rfl (there path)
        | failed path reason => rfl

theorem refreshDocument_of_breaks {environment : Environment} {document : Path}
    (breaks : environment.breaks document = true) :
    (engine.refreshDocument environment document).1 = engine := by
  unfold refreshDocument
  cases engine.requireParser with
  | error error => rfl
  | ok parser => simp only [breaks, if_true]

theorem removeDocument_of_unknown {document : Path}
    (unknown : ∀ key, key ∈ engine.snapshot.documents.keys → key.same document = false) :
    engine.removeDocument document = (engine, false) := by
  have absent : engine.snapshot.contains document = false := by
    rw [Bool.eq_false_iff]
    intro contained
    obtain ⟨key, stored, same⟩ := (SortedMap.isSome_find?_iff _ document).mp contained
    have written := (Path.same_iff_compare key document).mpr (Std.OrientedCmp.eq_symm same)
    rw [unknown key stored] at written
    cases written
  unfold removeDocument
  rw [absent]
  rfl

end Failures

/-- Failures leave no trace, whatever state the engine is in. A scan that is cancelled before a
batch that it reaches, or whose documents cannot be listed, ends with the workspace that it found;
so does each scan that does not report what it found. The other failures change nothing, and
settings that cannot be used change their error only. -/
theorem failures_leave_no_trace (engine : Engine) :
    (∀ environment parser documents count,
      engine.parser = some parser → engine.config.workspace.enabled = true →
      environment.disk.documents engine.root engine.config.workspace.matchFiles
        engine.config.workspace.excludeFiles = .ok documents →
      Reaches environment parser
        (Scan.start documents engine.config.workspace.maxFiles Scan.defaultBatchSize) count →
      engine.scan environment (some count) =
        (engine.afterRestore, .ok (.ofScan (afterBatches environment parser
          (Scan.start documents engine.config.workspace.maxFiles Scan.defaultBatchSize) count)
          true))) ∧
    (∀ environment parser cancelAfter error,
      engine.parser = some parser → engine.config.workspace.enabled = true →
      environment.disk.documents engine.root engine.config.workspace.matchFiles
        engine.config.workspace.excludeFiles = .error error →
      engine.scan environment cancelAfter = (engine.afterRestore, .error (.enumeration error))) ∧
    (∀ environment cancelAfter,
      (engine.scan environment cancelAfter).1.snapshot = engine.snapshot ∨
        ∃ report, (engine.scan environment cancelAfter).2 = .ok report ∧
          report.cancelled = false) ∧
    (engine.parser = none → ∃ reason, ∀ environment cancelAfter document text,
      engine.scan environment cancelAfter = (engine, .error (.noParser reason)) ∧
        engine.refreshDocument environment document = (engine, .error (.noParser reason)) ∧
        engine.updateDocument document text = (engine, .error (.noParser reason))) ∧
    (engine.config.workspace.enabled = false → ∀ environment cancelAfter,
      (engine.scan environment cancelAfter).1 = engine) ∧
    (∀ environment document error, environment.source document = .error error →
      (∀ path, error ≠ .notFound path) →
      (engine.refreshDocument environment document).1 = engine) ∧
    (∀ environment document, environment.breaks document = true →
      (engine.refreshDocument environment document).1 = engine) ∧
    (∀ document,
      (∀ key, key ∈ engine.snapshot.documents.keys → key.same document = false) →
      engine.removeDocument document = (engine, false)) ∧
    ∀ disk message, Config.fault? disk engine.configPath = some message →
      engine.reloadConfig disk = { engine with configError := some message } := by
  refine ⟨?_, ?_, ?_, ?_, engine.scan_of_disabled, ?_, ?_, ?_, ?_⟩
  · intro environment parser documents count ready enabled listed reached
    exact engine.scan_of_reaches ready enabled listed reached
  · intro environment parser cancelAfter error ready enabled unlisted
    exact engine.scan_of_enumeration_error ready enabled unlisted cancelAfter
  · intro environment cancelAfter
    rcases engine.scan_cases environment cancelAfter with same | back | ⟨scan, shown⟩
    · exact Or.inl (congrArg snapshot same)
    · rw [back]
      exact Or.inl rfl
    · rw [shown]
      exact Or.inr ⟨_, rfl, rfl⟩
  · intro missing
    refine ⟨engine.configError.getD "no parser configured", ?_⟩
    intro environment cancelAfter document text
    unfold scan refreshDocument updateDocument
    rw [engine.requireParser_of_none missing]
    exact ⟨rfl, rfl, rfl⟩
  · intro environment document error unread there
    exact engine.refreshDocument_of_error unread there
  · intro environment document breaks
    exact engine.refreshDocument_of_breaks breaks
  · intro document unknown
    exact engine.removeDocument_of_unknown unknown
  · intro disk message fault
    exact engine.reloadConfig_of_fault fault

def holding (name text : String) : Environment :=
  { disk := { entries := [(name, .file text.toUTF8)] }
    source := MemorySource.read (SortedMap.empty.insert ⟨"/" ++ name⟩ text) }

def lister (parser : Parser) : Engine :=
  { root := ⟨"/"⟩, configPath := ⟨"/settings"⟩
    config := { workspace := { matchFiles := [], excludeFiles := [] } }
    parser := some parser, configError := none }

theorem documents_holding {name : String} (known : name = "a" ∨ name = "b")
    (text : String) :
    (holding name text).disk.documents ⟨"/"⟩ [] [] = .ok [⟨"/" ++ name⟩] := by
  have bare : IgnoreLevel.ofDirectory (holding name text).disk ⟨"/"⟩ 0 =
      ⟨0, [], [], [], false⟩ := by
    rcases known with rfl | rfl <;> exact Disk.ofDirectory_root 0 rfl rfl rfl rfl
  have filter : PathFilter.build ⟨"/"⟩ [] [] = .ok ⟨⟨"/"⟩, [], []⟩ := rfl
  have files : (holding name text).disk.files 4
      { path := ⟨"/"⟩, here := [], around := [], names := [], levels := [⟨0, [], [], [], false⟩] } =
        [⟨"/" ++ name⟩] := by
    rcases known with rfl | rfl <;> rfl
  have accepted : (⟨⟨"/"⟩, [], []⟩ : PathFilter).accepts ⟨"/" ++ name⟩ = true := by
    rcases known with rfl | rfl <;> decide
  have size : (holding name text).disk.root.count * (holding name text).disk.root.count = 4 := rfl
  have outer : (holding name text).disk.outerLevels [] = [] := rfl
  unfold Disk.documents
  simp only [Disk.resolve_root, Disk.isDirectory_root, filter, List.length_nil, bare, outer, size,
    files, List.filter_cons_of_pos accepted, List.filter_nil, List.mergeSort_singleton]

/-- A scan that is cancelled before its first batch. -/
theorem failures_leave_no_trace_cancelled :
    ∃ engine : Engine, engine.parser.isSome = true ∧
      engine.scan (holding "a" "TODO one") (some 0) =
        (engine.afterRestore, .ok { skipped := 1, cancelled := true }) ∧
      engine.removeDocument ⟨"/a"⟩ = (engine, false) := by
  obtain ⟨parser, _⟩ := Config.parser_default
  obtain ⟨cancelled, _, _, _, _, _, _, unknown, _⟩ := failures_leave_no_trace (lister parser)
  have listed := documents_holding (Or.inl rfl) "TODO one"
  refine ⟨lister parser, rfl, ?_, ?_⟩
  · exact cancelled (holding "a" "TODO one") parser [⟨"/a"⟩] 0 rfl rfl listed reaches_zero
  · apply unknown
    intro key member
    cases member

end Waymark.Engine
