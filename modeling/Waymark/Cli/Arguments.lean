import Waymark.Report.Basic

set_option autoImplicit false

/-! The words of the command line. Options stand before or after the command; what follows the
command wins over what stands before it. At one level an option is given at most once, except that
`-v` may be repeated. After `--` every word is an operand. -/

namespace Waymark.Cli

inductive CommandName where
  | file
  | workspace
  | epics
  | tags
  | find
  | watch
deriving DecidableEq, Repr

inductive FileView where
  | tree
  | flat
  | folds
deriving DecidableEq, Repr

inductive Command where
  | file (path : Path) (view : FileView)
  | workspace
  | epics (next : Bool)
  | tags (completions : Bool)
  | find (id : String)
  | watch
deriving DecidableEq, Repr

structure Arguments where
  command : Command
  root : Option Path := none
  config : Option Path := none
  format : Format := .text
deriving DecidableEq, Repr

inductive Stop where
  | usage
  | version
  | help
deriving DecidableEq, Repr

inductive Setting where
  | root
  | config
  | format
deriving DecidableEq, Repr

inductive Switch where
  | verbose
  | flat
  | folds
  | next
  | completions
  | version
  | help
deriving DecidableEq, Repr

inductive Key where
  | setting (setting : Setting)
  | switch (switch : Switch)
deriving DecidableEq, Repr

namespace CommandName

def ofWord? : String → Option CommandName
  | "file" => some file
  | "workspace" => some workspace
  | "epics" => some epics
  | "tags" => some tags
  | "find" => some find
  | "watch" => some watch
  | _ => none

def arity : CommandName → Nat
  | file | find => 1
  | _ => 0

/-- What asking for help leads to: there is help for everything, for one command and for asking. -/
def helpStop : List String → Stop
  | [] => .help
  | [word] => if (ofWord? word).isSome || word == "help" then .help else .usage
  | _ => .usage

end CommandName

namespace Key

def ofLong? : Option CommandName → String → Option Key
  | _, "root" => some (.setting .root)
  | _, "config" => some (.setting .config)
  | _, "format" => some (.setting .format)
  | _, "verbose" => some (.switch .verbose)
  | _, "help" => some (.switch .help)
  | none, "version" => some (.switch .version)
  | some .file, "flat" => some (.switch .flat)
  | some .file, "folds" => some (.switch .folds)
  | some .epics, "next" => some (.switch .next)
  | some .tags, "completions" => some (.switch .completions)
  | _, _ => none

def ofLetter? : Option CommandName → Char → Option Key
  | _, 'r' => some (.setting .root)
  | _, 'c' => some (.setting .config)
  | _, 'f' => some (.setting .format)
  | _, 'v' => some (.switch .verbose)
  | _, 'h' => some (.switch .help)
  | none, 'V' => some (.switch .version)
  | _, _ => none

end Key

structure Given where
  root : Option Path := none
  config : Option Path := none
  format : Option Format := none
  switches : List Switch := []
  operands : List String := []
deriving DecidableEq, Repr

namespace Given

/-- A path that is given as a word; it must not be empty. -/
def path (word : String) : Except Stop Path :=
  if word.isEmpty then .error .usage else .ok ⟨word⟩

/-- Records the value of an option, which must not have one yet. -/
def give (given : Given) (setting : Setting) (word : String) : Except Stop Given :=
  match setting with
  | .root =>
      if given.root.isSome then .error .usage
      else (path word).map fun root => { given with root := some root }
  | .config =>
      if given.config.isSome then .error .usage
      else (path word).map fun config => { given with config := some config }
  | .format =>
      if given.format.isSome then .error .usage
      else
        match Format.ofName? word with
        | some format => .ok { given with format := some format }
        | none => .error .usage

/-- Records an option without a value. Asking for help or the version ends the reading. -/
def turnOn (given : Given) (switch : Switch) : Except Stop Given :=
  match switch with
  | .help => .error .help
  | .version => .error .version
  | .verbose => .ok { given with switches := switch :: given.switches }
  | _ =>
      if given.switches.contains switch then .error .usage
      else .ok { given with switches := switch :: given.switches }

/-- Records an operand, of which there are at most as many as the command takes. -/
def addOperand (command : Option CommandName) (given : Given) (word : String) :
    Except Stop Given :=
  if given.operands.length < command.elim 0 CommandName.arity then
    .ok { given with operands := given.operands ++ [word] }
  else .error .usage

/-- Reads a cluster of letters. If the last of them is an option whose value is the next word, the
result has that option. -/
def readLetters (command : Option CommandName) :
    List Char → Given → Except Stop (Given × Option Setting)
  | [], given => .ok (given, none)
  | letter :: rest, given =>
      match Key.ofLetter? command letter, rest with
      | none, _ => .error .usage
      | some (.switch switch), _ => do readLetters command rest (← given.turnOn switch)
      | some (.setting setting), [] => .ok (given, some setting)
      | some (.setting setting), '=' :: value =>
          (given.give setting (String.ofList value)).map (·, none)
      | some (.setting setting), value =>
          (given.give setting (String.ofList value)).map (·, none)

/-- Reads a long option, perhaps with `=` and its value. If its value is the next word, the result
has that option. -/
def readLong (command : Option CommandName) (text : List Char) (given : Given) :
    Except Stop (Given × Option Setting) :=
  let (name, value) :=
    match Text.cutAt '=' text with
    | some (name, value) => (name, some (String.ofList value))
    | none => (text, none)
  match Key.ofLong? command (String.ofList name), value with
  | none, _ => .error .usage
  | some (.switch _), some _ => .error .usage
  | some (.switch switch), none => (given.turnOn switch).map (·, none)
  | some (.setting setting), some value => (given.give setting value).map (·, none)
  | some (.setting setting), none => .ok (given, some setting)

inductive Form where
  | escape
  | long (text : List Char)
  | letters (text : List Char)
  | plain

/-- The form of a word; a single `-` is plain. -/
def formOf (word : String) : Form :=
  match word.toList with
  | ['-', '-'] => .escape
  | '-' :: '-' :: text => .long text
  | ['-'] => .plain
  | '-' :: text => .letters text
  | _ => .plain

/-- Reads words before the command, up to it, or after it, up to the end. `pending` is an option whose
value is the next word. -/
def readWords (command : Option CommandName) :
    List String → Option Setting → Given → Except Stop (Given × Option (CommandName × List String))
  | [], none, given => .ok (given, none)
  | [], some _, _ => .error .usage
  | word :: rest, pending, given =>
      match formOf word, pending with
      | .plain, some setting => do readWords command rest none (← given.give setting word)
      | .plain, none =>
          match command with
          | some _ => do readWords command rest none (← given.addOperand command word)
          | none =>
              match CommandName.ofWord? word with
              | some name => .ok (given, some (name, rest))
              | none => .error (if word = "help" then CommandName.helpStop rest else .usage)
      | _, some _ => .error .usage
      | .escape, none => do
          let given ← rest.foldlM (addOperand command) given
          .ok (given, none)
      | .long text, none => do
          let (given, pending) ← readLong command text given
          readWords command rest pending given
      | .letters text, none => do
          let (given, pending) ← readLetters command text given
          readWords command rest pending given

def toCommand (given : Given) : CommandName → Except Stop Command
  | .file =>
      match given.operands.head?, given.switches.contains .flat, given.switches.contains .folds with
      | some word, flat, folds => do
          let path ← path word
          if flat && folds then .error .usage
          else .ok (.file path (if flat then .flat else if folds then .folds else .tree))
      | none, _, _ => .error .usage
  | .find =>
      match given.operands.head? with
      | some id => .ok (.find id)
      | none => .error .usage
  | .workspace => .ok .workspace
  | .epics => .ok (.epics (given.switches.contains .next))
  | .tags => .ok (.tags (given.switches.contains .completions))
  | .watch => .ok .watch

end Given

namespace Arguments

def parse (words : List String) : Except Stop Arguments := do
  match ← Given.readWords none words none {} with
  | (_, none) => .error .usage
  | (before, some (name, rest)) =>
      let (after, _) ← Given.readWords (some name) rest none {}
      let command ← after.toCommand name
      .ok
        { command
          root := after.root <|> before.root
          config := after.config <|> before.config
          format := (after.format <|> before.format).getD .text }

end Arguments

end Waymark.Cli
