import Waymark.Cli.Arguments
import Waymark.Engine.Scan
import Waymark.Text.Similarity

set_option autoImplicit false

/-! What the command line does: a command and the files that it finds give an exit code and what is
written to the two outputs. -/

namespace Waymark.Cli

open Text (Style quoted)

structure Outcome where
  exitCode : UInt32 := 0
  output : String := ""
  errors : String := ""

inductive CliError where
  | rootNotFound (root : Path) (error : DiskError)
  | fileNotFound (path : Path) (error : DiskError)
  | unreadable (document : Path) (error : DiskError)
  | unknownId (id : String) (similar : Option String)
  | engine (error : EngineError)
deriving DecidableEq, Repr

namespace CliError

def messages : CliError → List String
  | rootNotFound root error => ["Project root " ++ root.text ++ " not found", error.message]
  | fileNotFound path error => ["File " ++ path.text ++ " not found", error.message]
  | unreadable document error => ["Failed to read " ++ document.text, error.message]
  | unknownId id none => ["No anchor with id " ++ quoted id]
  | unknownId id (some similar) =>
      ["No anchor with id " ++ quoted id ++ ". Did you mean " ++ quoted similar ++ "?"]
  | engine error => error.messages

def report (error : CliError) : String :=
  match error.messages with
  | [] => "Error:\n"
  | [message] => "Error: " ++ message ++ "\n"
  | message :: reasons =>
      "Error: " ++ message ++ "\n\nCaused by:\n" ++ Report.unlines (reasons.map ("    " ++ ·))

end CliError

/-- What a command gives: notes on the way, and then its output or an error. -/
structure Answer where
  notes : String := ""
  result : Except CliError String

namespace Answer

def after (note : String) (answer : Answer) : Answer :=
  { answer with notes := note ++ answer.notes }

def outcome (answer : Answer) : Outcome :=
  match answer.result with
  | .ok output => { output, errors := answer.notes }
  | .error error => { exitCode := 1, errors := answer.notes ++ error.report }

end Answer

def warning (message : String) : String :=
  Style.bold.paint (Style.yellow.paint "warning:") ++ " " ++ message ++ "\n"

def capNote (report : ScanReport) : String :=
  if report.skipped = 0 then ""
  else
    Style.bold.paint (Style.cyan.paint "note:") ++ " stopped after " ++ toString report.indexed
      ++ " files (workspace.max_files), " ++ toString report.skipped ++ " not scanned\n"

def withScan (environment : Environment) (engine : Engine) (next : Workspace → Answer) : Answer :=
  match engine.scan environment none with
  | (_, .error error) => { result := .error (.engine error) }
  | (engine, .ok report) => (next engine.snapshot).after (capNote report)

def runFile (environment : Environment) (engine : Engine) (path : Path) (view : FileView)
    (format : Format) : Except CliError String :=
  match environment.disk.canonicalize path with
  | .error error => .error (.fileNotFound path error)
  | .ok document =>
      match environment.disk.readText document with
      | .error error => .error (.unreadable document error)
      | .ok text =>
          match engine.requireParser with
          | .error error => .error (.engine error)
          | .ok parser =>
              let index := Index.ofText parser document text
              let listing (hierarchy : Bool) :=
                Report.document path
                  (AnchorNode.sort engine.config.tags.sortMethod (index.project hierarchy)) format
              match view with
              | .folds => .ok (Report.folds index.foldRanges format)
              | .flat => .ok (listing false)
              | .tree => .ok (listing true)

def runWorkspace (engine : Engine) (format : Format) (workspace : Workspace) : String :=
  let tags := engine.config.tags
  let views := (workspace.views tags.displayHierarchyInWorkspace).map (·.sort tags.sortMethod)
  Report.workspace views engine.root engine.config.workspace.pathFormat format

def runEpics (engine : Engine) (next : Bool) (format : Format) (workspace : Workspace) : String :=
  if next then Report.epicCompletions (workspace.epicCompletions engine.config.seqStep) format
  else Report.epics workspace.epics engine.root format

def runTags (engine : Engine) (completions : Bool) (format : Format) : String :=
  let registry := engine.config.registry
  let tags := engine.config.tags
  if completions then
    Report.tagCompletions (TagCompletion.ofRegistry registry tags.separators tags.endTag) format
  else Report.tags registry tags.endTag format

def runFind (engine : Engine) (id : String) (format : Format) (workspace : Workspace) :
    Except CliError String :=
  let indexes := workspace.documents.values
  match indexes.findSome? (·.findById? id) with
  | some anchor => .ok (Report.found anchor engine.root format)
  | none =>
      let known := (indexes.flatMap Index.flatten).filterMap (·.attributes.id)
      .error (.unknownId id (Text.mostSimilar? id known))

/-- Says what is watched, after a first scan unless the settings put it off. -/
def runWatch (environment : Environment) (engine : Engine) : Answer :=
  let heading (workspace : Workspace) : Answer :=
    { notes :=
        Style.bold.paint (Style.green.paint "Watching") ++ " " ++ engine.root.text ++ " ("
          ++ toString workspace.size ++ " documents indexed, Ctrl-C to stop)\n"
      result := .ok "" }
  if engine.config.workspace.lazyLoad then heading engine.snapshot
  else withScan environment engine heading

def runCommand (environment : Environment) (engine : Engine) (command : Command)
    (format : Format) : Answer :=
  match command with
  | .file path view => { result := runFile environment engine path view format }
  | .workspace =>
      withScan environment engine fun workspace =>
        { result := .ok (runWorkspace engine format workspace) }
  | .epics next =>
      withScan environment engine fun workspace =>
        { result := .ok (runEpics engine next format workspace) }
  | .tags completions => { result := .ok (runTags engine completions format) }
  | .find id =>
      withScan environment engine fun workspace => { result := runFind engine id format workspace }
  | .watch => runWatch environment engine

def runArguments (disk : Disk) (arguments : Arguments) : Answer :=
  let environment := Environment.ofDisk disk
  let given := arguments.root.getD ⟨"."⟩
  match disk.canonicalize given with
  | .error error => { result := .error (.rootNotFound given error) }
  | .ok root =>
      match Engine.start environment root (arguments.config.getD (Config.defaultPath root)) with
      | .error error => { result := .error (.engine error) }
      | .ok engine =>
          (runCommand environment engine arguments.command arguments.format).after
            (engine.configError.elim "" warning)

def version : String := "anchors 1.0.0\n"

def usage : String :=
  Report.unlines
    ["List and track comment anchors",
     "",
     "Usage: anchors [OPTIONS] <COMMAND>",
     "",
     "Commands:",
     "  file <PATH> [--flat | --folds]  List the anchors of a single file",
     "  workspace                       Scan the project and list workspace anchors per file",
     "  epics [--next]                  List epics, each ordered by sequence number",
     "  tags [--completions]            Show the effective tag registry",
     "  find <ID>                       Locate the anchor with an id",
     "  watch                           Keep the index in sync with the disk",
     "",
     "Options:",
     "  -r, --root <ROOT>      Project root (default: current directory)",
     "  -c, --config <CONFIG>  Path to config file",
     "  -f, --format <FORMAT>  Output format (text or json)",
     "  -v, --verbose          Increase log verbosity",
     "  -h, --help             Print help",
     "  -V, --version          Print version"]

def run (disk : Disk) (words : List String) : Outcome :=
  match Arguments.parse words with
  | .error .usage => { exitCode := 2 }
  | .error .version => { output := version }
  | .error .help => { output := usage }
  | .ok arguments => (runArguments disk arguments).outcome

end Waymark.Cli
