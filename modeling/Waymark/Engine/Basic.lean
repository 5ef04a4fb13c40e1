import Waymark.Config.Load
import Waymark.Disk.Walk
import Waymark.Workspace.Epic

set_option autoImplicit false

/-! The engine of a project: its settings, the parser that they describe, and the current workspace.
Every change makes a whole new workspace, which takes the place of the old one in two steps: the
snapshot is swapped, and then those who follow the engine are told. -/

namespace Waymark

inductive Change where
  | document (path : Path)
  | workspace
deriving DecidableEq, Repr

structure Environment where
  disk : Disk
  source : Source
  /-- Documents on which reading breaks down without an answer. -/
  breaks : Path → Bool := fun _ => false

namespace Environment

def ofDisk (disk : Disk) : Environment := { disk, source := disk.source }

end Environment

inductive EngineError where
  | rootNotDirectory (root : Path)
  | noParser (reason : String)
  | enumeration (error : WalkError)
  | scanBroken
  | refreshBroken
  | refresh (document : Path) (error : SourceError)
deriving DecidableEq, Repr

namespace EngineError

/-- The error as texts, each the reason of the one before. -/
def messages : EngineError → List String
  | rootNotDirectory root => ["Project root " ++ root.text ++ " is not a directory"]
  | noParser reason => ["Cannot parse documents: " ++ reason]
  | enumeration error => "Failed to enumerate workspace documents" :: error.messages
  | scanBroken => ["Workspace scan panicked"]
  | refreshBroken => ["Document refresh panicked"]
  | refresh document error =>
      ("Failed to refresh " ++ document.text) :: error.message :: error.reason?.toList

def message (error : EngineError) : String := String.intercalate ": " error.messages

end EngineError

structure Engine where
  root : Path
  configPath : Path
  config : Config
  parser : Option Parser
  /-- What was wrong with the settings that were loaded last. -/
  configError : Option String
  snapshot : Workspace := {}
  /-- The workspace that was sent last to those who follow the engine. -/
  published : Workspace := {}
  /-- What those who follow the engine were told, first to last. -/
  changes : List Change := []
  version : Nat := 0

namespace Engine

def swap (engine : Engine) (workspace : Workspace) : Engine :=
  { engine with snapshot := workspace }

def announce (engine : Engine) (workspace : Workspace) (change : Change) : Engine :=
  { engine with
    version := engine.version + 1
    published := workspace
    changes := engine.changes ++ [change] }

def publish (engine : Engine) (workspace : Workspace) (change : Change) : Engine :=
  (engine.swap workspace).announce workspace change

def update (engine : Engine) (change : Change) (apply : Workspace → Workspace) : Engine :=
  engine.publish (apply engine.snapshot) change

/-- The settings of a project, its parser, and what is wrong with the settings. Settings that cannot
be loaded leave the defaults. -/
def settings (disk : Disk) (configPath : Path) : Config × Option Parser × Option String :=
  let (config, loadError) :=
    match Config.load disk configPath with
    | .ok config => (config, none)
    | .error error => (({} : Config), some error.message)
  match config.parser with
  | .ok parser => (config, some parser, loadError)
  | .error error => (config, none, some error.message)

/-- The engine of a project. Wrong settings are kept as an error of the settings. -/
def start (environment : Environment) (root configPath : Path) : Except EngineError Engine :=
  if environment.disk.isDirectory root then
    let (config, parser, configError) := settings environment.disk configPath
    .ok { root, configPath, config, parser, configError }
  else .error (.rootNotDirectory root)

def requireParser (engine : Engine) : Except EngineError Parser :=
  match engine.parser with
  | some parser => .ok parser
  | none => .error (.noParser (engine.configError.getD "no parser configured"))

/-- Drops a document; the result says whether it was there. -/
def removeDocument (engine : Engine) (document : Path) : Engine × Bool :=
  if engine.snapshot.contains document then
    (engine.update (.document document) (·.remove document), true)
  else (engine, false)

def updateDocument (engine : Engine) (document : Path) (text : String) :
    Engine × Except EngineError Unit :=
  match engine.requireParser with
  | .error error => (engine, .error error)
  | .ok parser =>
      let index := Index.ofText parser document text
      (engine.update (.document document) (·.insert document index), .ok ())

/-- Reads a document again. One that is gone is dropped; if it cannot be read, nothing changes. -/
def refreshDocument (engine : Engine) (environment : Environment) (document : Path) :
    Engine × Except EngineError Unit :=
  match engine.requireParser with
  | .error error => (engine, .error error)
  | .ok parser =>
      if environment.breaks document then (engine, .error .refreshBroken)
      else
        match loadDocument parser environment.source document with
        | .ok index => (engine.update (.document document) (·.insert document index), .ok ())
        | .error (.notFound _) => ((engine.removeDocument document).1, .ok ())
        | .error error => (engine, .error (.refresh document error))

def setConfigError (engine : Engine) (message : String) : Engine :=
  { engine with configError := some message }

/-- Loads the settings again. Wrong settings are kept as an error and change nothing else; otherwise
the workspace counts as not scanned. -/
def reloadConfig (engine : Engine) (disk : Disk) : Engine :=
  match Config.load disk engine.configPath with
  | .error error => engine.setConfigError error.message
  | .ok config =>
      match config.parser with
      | .error error => engine.setConfigError error.message
      | .ok parser =>
          { engine with config, parser := some parser, configError := none }.update .workspace
            Workspace.reset

end Engine

end Waymark
