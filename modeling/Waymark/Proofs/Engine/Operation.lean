import Waymark.Engine.Scan
import Waymark.Proofs.Disk.Root
import Waymark.Proofs.Mark.Grammar

set_option autoImplicit false

/-! The operations of an engine, one after another. Each operation but the loading of settings leaves
the settings alone; together they keep the current workspace, what was told of it, and the parser in
step, and the error of the settings tells of the settings that were loaded last. -/

namespace Waymark

namespace Config

/-- What is wrong with the settings at a path: they cannot be loaded, or they describe no parser. -/
def fault? (disk : Disk) (path : Path) : Option String :=
  match load disk path with
  | .error error => some error.message
  | .ok config =>
      match config.parser with
      | .error error => some error.message
      | .ok _ => none

theorem fault?_eq_none_iff (disk : Disk) (path : Path) :
    fault? disk path = none ↔
      ∃ config parser, load disk path = .ok config ∧ config.parser = .ok parser := by
  unfold fault?
  cases loaded : load disk path with
  | error error => simp
  | ok config => cases built : config.parser <;> simp [built]

theorem parser_default : ∃ parser, ({} : Config).parser = .ok parser := by
  unfold parser Parser.build
  rw [(Grammar.build_eq_ok_iff _ _ _ _ _).mpr ⟨by decide, by decide, rfl⟩]
  exact ⟨_, rfl⟩

end Config

namespace Engine

inductive Operation where
  | scan (environment : Environment) (cancelAfter : Option Nat)
  | refresh (environment : Environment) (document : Path)
  | update (document : Path) (text : String)
  | remove (document : Path)
  | reload (disk : Disk)

namespace Operation

def loaded? : Operation → Option Disk
  | reload disk => some disk
  | _ => none

def lastLoaded (first : Disk) (operations : List Operation) : Disk :=
  (operations.filterMap loaded?).getLastD first

end Operation

def perform (engine : Engine) : Operation → Engine
  | .scan environment cancelAfter => (engine.scan environment cancelAfter).1
  | .refresh environment document => (engine.refreshDocument environment document).1
  | .update document text => (engine.updateDocument document text).1
  | .remove document => (engine.removeDocument document).1
  | .reload disk => engine.reloadConfig disk

def performAll (engine : Engine) (operations : List Operation) : Engine :=
  operations.foldl perform engine

/-- How an operation that loads no settings changes an engine: the workspace stays or gives way to
others, of which the last is not being scanned if the one before was not. -/
inductive Moves (engine : Engine) : Engine → Prop where
  | stays : Moves engine engine
  | edits (document : Path) (apply : Workspace → Workspace)
      (kept : (apply engine.snapshot).status = engine.snapshot.status) :
      Moves engine (engine.update (.document document) apply)
  | restores : Moves engine (engine.markScanning.restore engine.snapshot)
  | rescans (scan : Scan) : Moves engine (engine.markScanning.publish (.ofScan scan) .workspace)

section Moves

variable (engine : Engine)

theorem moves_removeDocument (document : Path) : engine.Moves (engine.removeDocument document).1 := by
  unfold removeDocument
  split
  · exact .edits document (·.remove document) rfl
  · exact .stays

theorem moves_updateDocument (document : Path) (text : String) :
    engine.Moves (engine.updateDocument document text).1 := by
  unfold updateDocument
  cases engine.requireParser with
  | error error => exact .stays
  | ok parser => exact .edits document (·.insert document (Index.ofText parser document text)) rfl

theorem moves_refreshDocument (environment : Environment) (document : Path) :
    engine.Moves (engine.refreshDocument environment document).1 := by
  unfold refreshDocument
  cases engine.requireParser with
  | error error => exact .stays
  | ok parser =>
      dsimp only
      split
      · exact .stays
      · split
        · rename_i index _
          exact .edits document (·.insert document index) rfl
        · exact engine.moves_removeDocument document
        · exact .stays

/-- A scan does nothing, puts back the workspace from before, or shows what it found. -/
theorem scan_cases (environment : Environment) (cancelAfter : Option Nat) :
    (engine.scan environment cancelAfter).1 = engine ∨
    (engine.scan environment cancelAfter).1 = engine.markScanning.restore engine.snapshot ∨
    ∃ scan, engine.scan environment cancelAfter =
      (engine.markScanning.publish (.ofScan scan) .workspace, .ok (.ofScan scan false)) := by
  unfold scan
  cases engine.requireParser with
  | error error => exact Or.inl rfl
  | ok parser =>
      dsimp only
      split
      · exact Or.inl rfl
      · split
        · exact Or.inr (Or.inl rfl)
        · split
          · exact Or.inr (Or.inl rfl)
          · exact Or.inr (Or.inl rfl)
          · exact Or.inr (Or.inr ⟨_, rfl⟩)

theorem moves_scan (environment : Environment) (cancelAfter : Option Nat) :
    engine.Moves (engine.scan environment cancelAfter).1 := by
  rcases engine.scan_cases environment cancelAfter with same | back | ⟨scan, shown⟩
  · rw [same]
    exact .stays
  · rw [back]
    exact .restores
  · rw [shown]
    exact .rescans scan

theorem perform_cases (operation : Operation) :
    (∃ disk, operation = .reload disk) ∨
      operation.loaded? = none ∧ engine.Moves (engine.perform operation) := by
  cases operation with
  | scan environment cancelAfter =>
      exact Or.inr ⟨rfl, engine.moves_scan environment cancelAfter⟩
  | refresh environment document =>
      exact Or.inr ⟨rfl, engine.moves_refreshDocument environment document⟩
  | update document text => exact Or.inr ⟨rfl, engine.moves_updateDocument document text⟩
  | remove document => exact Or.inr ⟨rfl, engine.moves_removeDocument document⟩
  | reload disk => exact Or.inl ⟨disk, rfl⟩

theorem reloadConfig_of_fault {disk : Disk} {message : String}
    (fault : Config.fault? disk engine.configPath = some message) :
    engine.reloadConfig disk = engine.setConfigError message := by
  unfold Config.fault? at fault
  unfold reloadConfig
  cases loaded : Config.load disk engine.configPath with
  | error error =>
      simp only [loaded, Option.some.injEq] at fault
      rw [← fault]
  | ok config =>
      simp only [loaded] at fault ⊢
      cases built : config.parser with
      | error error =>
          simp only [built, Option.some.injEq] at fault
          rw [← fault]
      | ok parser =>
          simp only [built] at fault
          cases fault

theorem reloadConfig_of_ok {disk : Disk} {config : Config} {parser : Parser}
    (loaded : Config.load disk engine.configPath = .ok config)
    (built : config.parser = .ok parser) :
    engine.reloadConfig disk =
      { engine with config, parser := some parser, configError := none }.update .workspace
        Workspace.reset := by
  unfold reloadConfig
  simp only [loaded, built]

end Moves

/-! ### What operations keep -/

structure Settled (engine : Engine) : Prop where
  current : engine.published = engine.snapshot
  counted : engine.version = engine.changes.length
  idle : engine.snapshot.status ≠ .scanning
  parsed : engine.parser = engine.config.parser.toOption

section Settled

theorem settled_publish (engine : Engine) {workspace : Workspace} {change : Change}
    (counted : engine.version = engine.changes.length)
    (parsed : engine.parser = engine.config.parser.toOption)
    (idle : workspace.status ≠ .scanning) : (engine.publish workspace change).Settled := by
  refine ⟨rfl, ?_, idle, parsed⟩
  show engine.version + 1 = (engine.changes ++ [change]).length
  rw [List.length_append, List.length_singleton, counted]

variable {engine : Engine}

theorem Settled.moves (settled : engine.Settled) {next : Engine} (moves : engine.Moves next) :
    next.Settled := by
  have marked : engine.markScanning.version = engine.markScanning.changes.length := by
    show engine.version + 1 = (engine.changes ++ [Change.workspace]).length
    rw [List.length_append, List.length_singleton, settled.counted]
  cases moves with
  | stays => exact settled
  | edits document apply kept =>
      apply settled_publish engine settled.counted settled.parsed
      rw [kept]
      exact settled.idle
  | restores => exact settled_publish engine.markScanning marked settled.parsed settled.idle
  | rescans scan =>
      apply settled_publish engine.markScanning marked settled.parsed
      intro scanning
      cases scanning

theorem Settled.reloadConfig (settled : engine.Settled) (disk : Disk) :
    (engine.reloadConfig disk).Settled := by
  cases fault : Config.fault? disk engine.configPath with
  | some message =>
      rw [engine.reloadConfig_of_fault fault]
      exact ⟨settled.current, settled.counted, settled.idle, settled.parsed⟩
  | none =>
      obtain ⟨config, parser, loaded, built⟩ := (Config.fault?_eq_none_iff _ _).mp fault
      have parsed : some parser = config.parser.toOption := by
        rw [built]
        rfl
      rw [engine.reloadConfig_of_ok loaded built]
      apply settled_publish { engine with config, parser := some parser, configError := none }
        settled.counted parsed
      intro scanning
      cases scanning

theorem Settled.perform (settled : engine.Settled) (operation : Operation) :
    (engine.perform operation).Settled := by
  rcases engine.perform_cases operation with ⟨disk, rfl⟩ | ⟨_, moves⟩
  · exact settled.reloadConfig disk
  · exact settled.moves moves

theorem Settled.performAll (settled : engine.Settled) (operations : List Operation) :
    (engine.performAll operations).Settled := by
  unfold Engine.performAll
  induction operations generalizing engine with
  | nil => exact settled
  | cons operation rest ih => exact ih (settled.perform operation)

end Settled

/-! ### The settings -/

structure SameSettings (engine next : Engine) : Prop where
  root : next.root = engine.root
  configPath : next.configPath = engine.configPath
  config : next.config = engine.config
  parser : next.parser = engine.parser
  configError : next.configError = engine.configError

theorem Moves.sameSettings {engine next : Engine} (moves : engine.Moves next) :
    engine.SameSettings next := by
  cases moves <;> exact ⟨rfl, rfl, rfl, rfl, rfl⟩

theorem configPath_reloadConfig (engine : Engine) (disk : Disk) :
    (engine.reloadConfig disk).configPath = engine.configPath := by
  unfold reloadConfig
  split
  · rfl
  · split <;> rfl

theorem configError_reloadConfig (engine : Engine) (disk : Disk) :
    (engine.reloadConfig disk).configError = Config.fault? disk engine.configPath := by
  cases fault : Config.fault? disk engine.configPath with
  | some message => rw [engine.reloadConfig_of_fault fault]; rfl
  | none =>
      obtain ⟨config, parser, loaded, built⟩ := (Config.fault?_eq_none_iff _ _).mp fault
      rw [engine.reloadConfig_of_ok loaded built]
      rfl

theorem isSome_parser_reloadConfig {engine : Engine} (present : engine.parser.isSome = true)
    (disk : Disk) : (engine.reloadConfig disk).parser.isSome = true := by
  unfold reloadConfig
  split
  · exact present
  · split
    · exact present
    · rfl

theorem isSome_parser_performAll {engine : Engine} (present : engine.parser.isSome = true)
    (operations : List Operation) : (engine.performAll operations).parser.isSome = true := by
  unfold performAll
  induction operations generalizing engine with
  | nil => exact present
  | cons operation rest ih =>
      apply ih
      rcases engine.perform_cases operation with ⟨disk, rfl⟩ | ⟨_, moves⟩
      · exact isSome_parser_reloadConfig present disk
      · rw [moves.sameSettings.parser]
        exact present

theorem Operation.lastLoaded_reload (first disk : Disk) (rest : List Operation) :
    lastLoaded first (.reload disk :: rest) = lastLoaded disk rest := by
  unfold lastLoaded
  rw [List.filterMap_cons_some (show loaded? (.reload disk) = some disk from rfl),
    List.getLastD_cons]

theorem Operation.lastLoaded_other {operation : Operation} (kept : operation.loaded? = none)
    (first : Disk) (rest : List Operation) :
    lastLoaded first (operation :: rest) = lastLoaded first rest := by
  unfold lastLoaded
  rw [List.filterMap_cons_none kept]

/-- The error of the settings is what was wrong when they were loaded last. -/
theorem configError_performAll {engine : Engine} {first : Disk}
    (initial : engine.configError = Config.fault? first engine.configPath)
    (operations : List Operation) :
    (engine.performAll operations).configError =
      Config.fault? (Operation.lastLoaded first operations) engine.configPath := by
  unfold performAll
  induction operations generalizing engine first with
  | nil => exact initial
  | cons operation rest ih =>
      rcases engine.perform_cases operation with ⟨disk, rfl⟩ | ⟨kept, moves⟩
      · have later := @ih (engine.reloadConfig disk) disk (by
          rw [configError_reloadConfig, configPath_reloadConfig])
        rw [configPath_reloadConfig] at later
        rw [Operation.lastLoaded_reload]
        exact later
      · have same := moves.sameSettings
        have later := @ih (engine.perform operation) first (by
          rw [same.configError, same.configPath]
          exact initial)
        rw [same.configPath] at later
        rw [Operation.lastLoaded_other kept]
        exact later

/-! ### From the start -/

/-- The parser is that of the settings in use, and the error is what is wrong with those on disk. -/
theorem settings_agree (disk : Disk) (configPath : Path) :
    (settings disk configPath).2.1 = (settings disk configPath).1.parser.toOption ∧
      (settings disk configPath).2.2 = Config.fault? disk configPath := by
  unfold settings Config.fault?
  cases loaded : Config.load disk configPath with
  | error error =>
      obtain ⟨parser, built⟩ := Config.parser_default
      simp [built, Except.toOption]
  | ok config => cases built : config.parser <;> simp [built, Except.toOption]

theorem start_eq_ok {environment : Environment} {root configPath : Path} {engine : Engine}
    (started : start environment root configPath = .ok engine) :
    engine.Settled ∧ engine.configPath = configPath ∧
      engine.configError = Config.fault? environment.disk configPath := by
  have found : engine =
      { root, configPath
        config := (settings environment.disk configPath).1
        parser := (settings environment.disk configPath).2.1
        configError := (settings environment.disk configPath).2.2 } := by
    unfold start at started
    split at started
    · exact (Except.ok.inj started).symm
    · cases started
  obtain ⟨parsed, error⟩ := settings_agree environment.disk configPath
  rw [found]
  refine ⟨⟨rfl, rfl, ?_, parsed⟩, rfl, error⟩
  intro scanning
  cases scanning

/-- After any operations, one after another, those who follow the engine have its current workspace
and were told of each version, no scan seems to be under way, the parser is that of the settings,
and the settings have an error exactly if the last attempt to load them failed. A parser is never
lost. -/
theorem operations_keep_engine_settled {environment : Environment} {root configPath : Path}
    {engine : Engine} (started : start environment root configPath = .ok engine)
    (operations : List Operation) :
    let last := engine.performAll operations
    last.published = last.snapshot ∧
    last.version = last.changes.length ∧
    last.snapshot.status ≠ .scanning ∧
    last.parser = last.config.parser.toOption ∧
    (last.configError = none ↔ ∃ config parser,
      Config.load (Operation.lastLoaded environment.disk operations) configPath = .ok config ∧
        config.parser = .ok parser) ∧
    ∀ later, last.parser.isSome = true →
      (engine.performAll (operations ++ later)).parser.isSome = true := by
  intro last
  obtain ⟨settled, samePath, error⟩ := start_eq_ok started
  have lastSettled := settled.performAll operations
  refine ⟨lastSettled.current, lastSettled.counted, lastSettled.idle, lastSettled.parsed, ?_, ?_⟩
  · have lastError := configError_performAll (samePath ▸ error) operations
    rw [samePath] at lastError
    rw [lastError]
    exact Config.fault?_eq_none_iff _ _
  · intro later present
    unfold performAll
    rw [List.foldl_append]
    exact isSome_parser_performAll present later

private theorem load_missing : Config.load {} ⟨"/settings"⟩ = .ok {} := by
  have lost : ({} : Disk).reach ⟨"/settings"⟩ = .error .notFound :=
    Disk.reach_of_missing "/settings" "settings" [] (by decide) (by decide) (by decide) rfl
  unfold Config.load Disk.readText
  rw [Disk.read_of_reach lost]

/-- Settings that are not there are the default settings. -/
theorem operations_keep_engine_settled_defaults :
    ∃ engine, start (.ofDisk {}) ⟨"/"⟩ ⟨"/settings"⟩ = .ok engine ∧
      let last := engine.performAll [.update ⟨"/a"⟩ "TODO", .reload {}, .scan (.ofDisk {}) (some 0)]
      last.published = last.snapshot ∧ last.version = last.changes.length ∧
        last.snapshot.status ≠ .scanning ∧ last.parser = last.config.parser.toOption ∧
        last.configError = none := by
  have started : ∃ engine, start (.ofDisk {}) ⟨"/"⟩ ⟨"/settings"⟩ = .ok engine := by
    unfold start
    rw [if_pos (Disk.isDirectory_root _)]
    exact ⟨_, rfl⟩
  obtain ⟨engine, started⟩ := started
  obtain ⟨current, counted, idle, parsed, error, _⟩ := operations_keep_engine_settled started
    [.update ⟨"/a"⟩ "TODO", .reload {}, .scan (.ofDisk {}) (some 0)]
  obtain ⟨parser, built⟩ := Config.parser_default
  exact ⟨engine, started, current, counted, idle, parsed, error.mpr ⟨{}, parser, load_missing, built⟩⟩

end Engine

end Waymark
