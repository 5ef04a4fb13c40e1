import Waymark.Config.Basic
import Waymark.Yaml.Node

set_option autoImplicit false

/-! Reading settings from YAML. A field that is missing has its default; a field that is given twice
or is not known is refused, except that settings of a tag may have unknown fields. A missing value
stands for a group without fields and for an empty list. -/

namespace Waymark

inductive ConfigError where
  | malformed
  | pattern (error : PatternError)
deriving DecidableEq, Repr

namespace ConfigError

def messages : ConfigError → List String
  | malformed => ["malformed settings"]
  | pattern error => "Invalid workspace file patterns" :: error.messages

end ConfigError

namespace Yaml

def isNullWord (text : String) : Bool :=
  text == "null" || text == "Null" || text == "NULL" || text == "~"

def readBoolWord : String → Option Bool
  | "true" | "True" | "TRUE" => some true
  | "false" | "False" | "FALSE" => some false
  | _ => none

def hasLeadingZero (text : List Char) : Bool :=
  let digits :=
    match text with
    | '+' :: digits => digits
    | '-' :: digits => digits
    | digits => digits
  match digits with
  | '0' :: rest => !rest.isEmpty && rest.all Char.isDigit
  | _ => false

def basedDigits : List Char → Option (Nat × List Char)
  | '0' :: 'x' :: digits => some (16, digits)
  | '0' :: 'o' :: digits => some (8, digits)
  | '0' :: 'b' :: digits => some (2, digits)
  | _ => none

def hasSign (text : List Char) : Bool := text.head? == some '+' || text.head? == some '-'

def withoutPlus : List Char → List Char
  | '+' :: rest => rest
  | text => text

def readUnsignedWord (text : List Char) : Option Nat :=
  let number := withoutPlus text
  if hasSign number then none
  else
    match basedDigits number with
    | some (base, digits) => if hasSign digits then none else Text.readUnsigned? base digits
    | none => if hasLeadingZero text then none else Text.readUnsigned? 10 number

def readSignedWord (text : List Char) : Option Int :=
  match text with
  | '-' :: number =>
      match basedDigits number with
      | some (base, digits) =>
          if hasSign digits then none else Text.readSigned? base ('-' :: digits)
      | none => if hasLeadingZero text then none else Text.readSigned? 10 text
  | text =>
      let number := withoutPlus text
      if hasSign number then none
      else
        match basedDigits number with
        | some (base, digits) => if hasSign digits then none else Text.readSigned? base digits
        | none => if hasLeadingZero text then none else Text.readSigned? 10 number

namespace Node

def isMissing : Node → Bool
  | .scalar text style _ => text.isEmpty && style == .plain
  | _ => false

def text? : Node → Option String
  | .scalar text _ _ => some text
  | _ => none

/-- The text of a scalar that can stand for a value of another type: a plain one, or a literal one
with the tag of the type. -/
def word? (type : String) : Node → Option String
  | .scalar text style tag =>
      if style == .plain || (style == .literal && tag == some (.core type)) then some text else none
  | _ => none

def bool? (node : Node) : Option Bool := (node.word? "bool").bind readBoolWord

def unsigned? (node : Node) : Option Nat :=
  (node.word? "int").bind fun text => readUnsignedWord text.toList

def signed? (node : Node) : Option Int :=
  (node.word? "int").bind fun text => readSignedWord text.toList

/-- The name that a scalar chooses: its text, or the tag of an otherwise empty one. -/
def choice? : Node → Option String
  | .scalar text style tag =>
      match tag.bind NodeTag.name? with
      | some name =>
          if style == .plain && (text.isEmpty || isNullWord text) then some name else none
      | none => some text
  | _ => none

/-- Whether an optional value is absent; `none` if the tag for nothing stands before something. -/
def isAbsent? : Node → Option Bool
  | .scalar text style tag =>
      if style != .plain then some false
      else
        match tag with
        | some tag =>
            if tag == .core "null" then if isNullWord text then some true else none
            else some false
        | none => some (text.isEmpty || isNullWord text)
  | _ => some false

def items? (node : Node) : Option (List Node) :=
  match node with
  | .sequence items => some items
  | node => if node.isMissing then some [] else none

def fields? (node : Node) : Option (List (Node × Node)) :=
  match node with
  | .mapping pairs => some pairs
  | node => if node.isMissing then some [] else none

end Node

structure Aliases where
  named : List (Nat × Node)
  left : Nat

/-- Reading follows aliases as it meets them, and fails if a value is refused or the aliases are too
many. -/
abbrev Reading := StateT Aliases Option

abbrev Reader (α : Type) := Node → Reading α

def follow : Reader Node
  | .alias number => fun aliases =>
      match aliases.left with
      | 0 => none
      | left + 1 => (aliases.named.lookup number).map (·, { aliases with left })
  | node => pure node

namespace Reader

def ofNode {α : Type} (read : Node → Option α) : Reader α := fun node => do
  let node ← follow node
  StateT.lift (read node)

def text : Reader String := ofNode Node.text?

def bool : Reader Bool := ofNode Node.bool?

def unsigned : Reader Nat := ofNode Node.unsigned?

def signed : Reader Int := ofNode Node.signed?

def choice {α : Type} (ofName? : String → Option α) : Reader α :=
  ofNode fun node => node.choice?.bind ofName?

def optional {α : Type} (read : Reader α) : Reader (Option α) := fun node => do
  let node ← follow node
  if ← StateT.lift node.isAbsent? then pure none else some <$> read node

def list {α : Type} (read : Reader α) : Reader (List α) := fun node => do
  let items ← ofNode Node.items? node
  items.mapM read

end Reader

abbrev FieldReader (α : Type) := Node → α → Reading α

/-- Reads fields one after the other over the defaults. Known names must not repeat; unknown ones are
refused or passed over. -/
def readFields {α : Type} (known : String → Option (FieldReader α)) (allowUnknown : Bool)
    (seen : List String) : List (Node × Node) → α → Reading α
  | [], group => pure group
  | (key, value) :: rest, group => do
      let name ← Reader.text key
      match known name with
      | some read =>
          if seen.contains name then failure
          else do
            let group ← read value group
            readFields known allowUnknown (name :: seen) rest group
      | none => if allowUnknown then readFields known allowUnknown seen rest group else failure

def readGroup {α : Type} (known : String → Option (FieldReader α)) (allowUnknown : Bool)
    (defaults : α) : Reader α := fun node => do
  let fields ← Reader.ofNode Node.fields? node
  readFields known allowUnknown [] fields defaults

/-- Reads a document. For each of its marks, a hundred aliases may be followed. -/
def Document.read {α : Type} (document : Document) (read : Reader α) : Option α :=
  ((read document.root).run ⟨document.named, 100 * document.root.size⟩).map Prod.fst

end Yaml

namespace Config

open Yaml (Reader FieldReader readGroup)

def field {α β : Type} (read : Reader β) (store : α → β → α) : Option (FieldReader α) :=
  some fun node group => store group <$> read node

def overrideField : String → Option (FieldReader TagOverride)
  | "tag" => field .text fun entry tag => { entry with tag }
  | "enabled" => field (.optional .bool) fun entry enabled => { entry with enabled }
  | "behavior" =>
      field (.optional (.choice Behavior.ofName?))
        fun entry behavior => { entry with behavior }
  | "is_region" => field (.optional .bool) fun entry isRegion => { entry with isRegion }
  | "scope" =>
      field (.optional (.choice Scope.ofName?))
        fun entry scope => { entry with scope }
  | "display_line_number" =>
      field (.optional .bool)
        fun entry displayLineNumber => { entry with displayLineNumber }
  | "style_comment" =>
      field (.optional .bool) fun entry styleComment => { entry with styleComment }
  | "icon_color" =>
      field (.optional .text) fun entry iconColor => { entry with iconColor }
  | "highlight_color" =>
      field (.optional .text) fun entry highlightColor => { entry with highlightColor }
  | "background_color" =>
      field (.optional .text) fun entry backgroundColor => { entry with backgroundColor }
  | "is_bold" => field (.optional .bool) fun entry isBold => { entry with isBold }
  | "is_italic" => field (.optional .bool) fun entry isItalic => { entry with isItalic }
  | _ => none

def readOverride : Reader TagOverride := readGroup overrideField true {}

def tagField : String → Option (FieldReader TagSettings)
  | "list" => field (.list readOverride) fun tags list => { tags with list }
  | "separators" => field (.list .text) fun tags separators => { tags with separators }
  | "end_tag" => field .text fun tags endTag => { tags with endTag }
  | "match_case" => field .bool fun tags matchCase => { tags with matchCase }
  | "show_tag_name" => field .bool fun tags showTagName => { tags with showTagName }
  | "display_line_number" =>
      field .bool fun tags displayLineNumber => { tags with displayLineNumber }
  | "display_hierarchy_in_workspace" =>
      field .bool
        fun tags displayHierarchyInWorkspace => { tags with displayHierarchyInWorkspace }
  | "sort_method" =>
      field (.choice SortMethod.ofName?)
        fun tags sortMethod => { tags with sortMethod }
  | _ => none

def workspaceField : String → Option (FieldReader WorkspaceSettings)
  | "enabled" => field .bool fun workspace enabled => { workspace with enabled }
  | "lazy_load" => field .bool fun workspace lazyLoad => { workspace with lazyLoad }
  | "max_files" => field .unsigned fun workspace maxFiles => { workspace with maxFiles }
  | "match_files" =>
      field (.list .text) fun workspace matchFiles => { workspace with matchFiles }
  | "exclude_files" =>
      field (.list .text) fun workspace excludeFiles => { workspace with excludeFiles }
  | "path_format" =>
      field (.choice PathFormat.ofName?)
        fun workspace pathFormat => { workspace with pathFormat }
  | _ => none

def epicField : String → Option (FieldReader Int)
  | "seq_step" => field .signed fun _ seqStep => seqStep
  | _ => none

def configField : String → Option (FieldReader Config)
  | "tags" => field (readGroup tagField false {}) fun config tags => { config with tags }
  | "workspace" =>
      field (readGroup workspaceField false {}) fun config workspace => { config with workspace }
  | "epic" => field (readGroup epicField false 1) fun config seqStep => { config with seqStep }
  | "parse_delay_ms" =>
      field .unsigned fun config parseDelay => { config with parseDelay }
  | _ => none

/-- Reads settings from YAML; a blank text and a text without a document stand for the defaults. -/
def readYaml (text : String) : Option Config :=
  if (Text.trimmed text).isEmpty then some {}
  else
    (Yaml.parse text).bind fun document =>
      document.elim (some {}) (·.read (readGroup configField false {}))

def parse (text : String) : Except ConfigError Config :=
  match readYaml text with
  | none => .error .malformed
  | some config =>
      match config.filter ⟨""⟩ with
      | .ok _ => .ok config
      | .error error => .error (.pattern error)

end Config

end Waymark
