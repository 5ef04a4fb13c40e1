import Waymark.Yaml.Token

set_option autoImplicit false

/-! The tree of a YAML text. An alias stands for the node with its number. Numbers count the names
given so far, so a name that is given again takes the number that the next new name takes too; of the
nodes with one number an alias names the one that begins last, even if that is after the alias. -/

namespace Waymark.Yaml

inductive Node where
  | scalar (text : String) (style : ScalarStyle) (tag : Option NodeTag)
  | sequence (items : List Node)
  | mapping (pairs : List (Node × Node))
  | alias (number : Nat)
deriving Repr

namespace Node

def missing : Node := .scalar "" .plain none

mutual

/-- How many marks a node consists of: a scalar and an alias are one, a collection has one at each
end. -/
def size : Node → Nat
  | .scalar _ _ _ => 1
  | .alias _ => 1
  | .sequence items => 2 + itemsSize items
  | .mapping pairs => 2 + pairsSize pairs

def itemsSize : List Node → Nat
  | [] => 0
  | item :: rest => item.size + itemsSize rest

def pairsSize : List (Node × Node) → Nat
  | [] => 0
  | pair :: rest => pairSize pair + pairsSize rest

def pairSize : Node × Node → Nat
  | (key, value) => key.size + value.size

end

end Node

/-- The names given so far, each with its latest number, and the finished nodes by number. -/
structure Anchors where
  names : List (String × Nat) := []
  nodes : List (Nat × Node) := []

namespace Anchors

/-- Gives a name to the node that begins, if it has one. No earlier node keeps its number. -/
def begin (anchors : Anchors) : Option String → Anchors × Option Nat
  | some name =>
      let number := anchors.names.length
      ({ names := (name, number) :: anchors.names.filter (·.1 != name)
         nodes := anchors.nodes.filter (·.1 != number) }, some number)
  | none => (anchors, none)

/-- Records a node that has ended under its number, unless a node inside of it has the number. -/
def finish (anchors : Anchors) (number : Option Nat) (node : Node) : Anchors :=
  match number with
  | some number =>
      if (anchors.nodes.lookup number).isSome then anchors
      else { anchors with nodes := (number, node) :: anchors.nodes }
  | none => anchors

/-- The alias of a name; `none` if the name was not given. -/
def alias? (anchors : Anchors) (name : String) : Option Node :=
  (anchors.names.lookup name).map .alias

end Anchors

structure Document where
  root : Node
  named : List (Nat × Node) := []

abbrev TagHandles := List (String × NodeTag)

def defaultHandles : TagHandles := [("!", .ofText "!"), ("!!", .core "")]

structure Properties where
  anchor : Option String := none
  tag : Option NodeTag := none

/-- The full tag; `none` if its abbreviation is not known. -/
def resolveTag (handles : TagHandles) (handle : String) (suffix : NodeTag) : Option NodeTag :=
  if handle.isEmpty then some suffix else (handles.lookup handle).map (·.after suffix)

def takeProperties (handles : TagHandles) : List Token → Option (Properties × List Token)
  | .anchor name :: .tag handle suffix :: rest =>
      (resolveTag handles handle suffix).map fun tag => (⟨some name, some tag⟩, rest)
  | .anchor name :: rest => some (⟨some name, none⟩, rest)
  | .tag handle suffix :: .anchor name :: rest =>
      (resolveTag handles handle suffix).map fun tag => (⟨some name, some tag⟩, rest)
  | .tag handle suffix :: rest =>
      (resolveTag handles handle suffix).map fun tag => (⟨none, some tag⟩, rest)
  | rest => some ({}, rest)

/-- What is read next. Every reader takes tokens from a list and gives back the rest. -/
inductive Goal where
  /-- A node; whether it can be a block, and whether a sequence may begin at the column of its key. -/
  | node (block indentless : Bool)
  | blockItems
  | indentlessItems
  | blockPairs
  | flowItems (first : Bool)
  | flowPairs (first : Bool)

inductive Found where
  | node (single : Node)
  | items (items : List Node)
  | pairs (pairs : List (Node × Node))

def Found.single : Found → Node
  | .node found => found
  | .items found => .sequence found
  | .pairs found => .mapping found

def Found.addItem (item : Node) : Found → Found
  | .items more => .items (item :: more)
  | found => found

def Found.addPair (key value : Node) : Found → Found
  | .pairs more => .pairs ((key, value) :: more)
  | found => found

/-- A step of reading: what was found, the anchors known now and the tokens left. -/
abbrev Step := Option (Found × Anchors × List Token)

def endsBlockValue : List Token → Bool
  | [] => false
  | token :: _ => token == .key || token == .value || token == .blockEnd

def endsFlowValue (closing : Token) : List Token → Bool
  | [] => false
  | token :: _ => token == .flowEntry || token == closing

/-- Reads what a goal asks for, in at most a number of steps. -/
def readGoal (handles : TagHandles) : Nat → Goal → Anchors → List Token → Step
  | 0, _, _, _ => none
  | steps + 1, goal, anchors, tokens =>
      let readNode (block indentless : Bool) (anchors : Anchors) (tokens : List Token) :=
        (readGoal handles steps (.node block indentless) anchors tokens).map
          fun (found, anchors, tokens) => (found.single, anchors, tokens)
      let readUnless (missing : Bool) (block indentless : Bool) (anchors : Anchors)
          (tokens : List Token) :=
        if missing then some (Node.missing, anchors, tokens)
        else readNode block indentless anchors tokens
      match goal with
      | .node block indentless =>
          match tokens with
          | .alias name :: rest =>
              (anchors.alias? name).map fun node => (.node node, anchors, rest)
          | _ => do
              let (properties, rest) ← takeProperties handles tokens
              let (anchors, number) := anchors.begin properties.anchor
              let finish (goal : Goal) (rest : List Token) : Step :=
                (readGoal handles steps goal anchors rest).map fun (found, anchors, rest) =>
                  (.node found.single, anchors.finish number found.single, rest)
              let scalar (node : Node) (rest : List Token) : Step :=
                some (.node node, anchors.finish number node, rest)
              match rest with
              | .blockEntry :: _ =>
                  if indentless then finish .indentlessItems rest
                  else if properties.anchor.isSome || properties.tag.isSome then
                    scalar (.scalar "" .plain properties.tag) rest
                  else none
              | .scalar text style :: rest =>
                  let tag := properties.tag.filter (· != .nonSpecific)
                  scalar (.scalar text style tag) rest
              | .flowSequenceStart :: rest => finish (.flowItems true) rest
              | .flowMappingStart :: rest => finish (.flowPairs true) rest
              | .blockSequenceStart :: inner =>
                  if block then finish .blockItems inner
                  else if properties.anchor.isSome || properties.tag.isSome then
                    scalar (.scalar "" .plain properties.tag) rest
                  else none
              | .blockMappingStart :: inner =>
                  if block then finish .blockPairs inner
                  else if properties.anchor.isSome || properties.tag.isSome then
                    scalar (.scalar "" .plain properties.tag) rest
                  else none
              | rest =>
                  if properties.anchor.isSome || properties.tag.isSome then
                    scalar (.scalar "" .plain properties.tag) rest
                  else none
      | .blockItems =>
          match tokens with
          | .blockEnd :: rest => some (.items [], anchors, rest)
          | .blockEntry :: rest => do
              let missing := rest.head? == some .blockEntry || rest.head? == some .blockEnd
              let (item, anchors, rest) ← readUnless missing true false anchors rest
              (readGoal handles steps .blockItems anchors rest).map fun (found, more) =>
                (found.addItem item, more)
          | _ => none
      | .indentlessItems =>
          match tokens with
          | .blockEntry :: rest => do
              let missing := rest.head? == some .blockEntry || endsBlockValue rest
              let (item, anchors, rest) ← readUnless missing true false anchors rest
              (readGoal handles steps .indentlessItems anchors rest).map fun (found, more) =>
                (found.addItem item, more)
          | rest => some (.items [], anchors, rest)
      | .blockPairs =>
          match tokens with
          | .blockEnd :: rest => some (.pairs [], anchors, rest)
          | .key :: rest => do
              let (key, anchors, rest) ← readUnless (endsBlockValue rest) true true anchors rest
              let (value, anchors, rest) ←
                match rest with
                | .value :: rest => readUnless (endsBlockValue rest) true true anchors rest
                | rest => some (Node.missing, anchors, rest)
              (readGoal handles steps .blockPairs anchors rest).map fun (found, more) =>
                (found.addPair key value, more)
          | _ => none
      | .flowItems first =>
          match tokens with
          | .flowSequenceEnd :: rest => some (.items [], anchors, rest)
          | _ => do
              let tokens ←
                match first, tokens with
                | true, tokens => some tokens
                | false, .flowEntry :: rest => some rest
                | false, _ => none
              match tokens with
              | .flowSequenceEnd :: rest => some (.items [], anchors, rest)
              | .key :: rest => do
                  let closing := Token.flowSequenceEnd
                  let (key, anchors, rest) ←
                    if rest.head? == some .value || endsFlowValue closing rest then
                      some (Node.missing, anchors, rest.drop 1)
                    else readNode false false anchors rest
                  let (value, anchors, rest) ←
                    match rest with
                    | .value :: rest =>
                        readUnless (endsFlowValue closing rest) false false anchors rest
                    | rest => some (Node.missing, anchors, rest)
                  (readGoal handles steps (.flowItems false) anchors rest).map fun (found, more) =>
                    (found.addItem (.mapping [(key, value)]), more)
              | rest => do
                  let (item, anchors, rest) ← readNode false false anchors rest
                  (readGoal handles steps (.flowItems false) anchors rest).map fun (found, more) =>
                    (found.addItem item, more)
      | .flowPairs first =>
          match tokens with
          | .flowMappingEnd :: rest => some (.pairs [], anchors, rest)
          | _ => do
              let tokens ←
                match first, tokens with
                | true, tokens => some tokens
                | false, .flowEntry :: rest => some rest
                | false, _ => none
              let closing := Token.flowMappingEnd
              match tokens with
              | .flowMappingEnd :: rest => some (.pairs [], anchors, rest)
              | .key :: rest => do
                  let missing := rest.head? == some .value || endsFlowValue closing rest
                  let (key, anchors, rest) ← readUnless missing false false anchors rest
                  let (value, anchors, rest) ←
                    match rest with
                    | .value :: rest =>
                        readUnless (endsFlowValue closing rest) false false anchors rest
                    | rest => some (Node.missing, anchors, rest)
                  (readGoal handles steps (.flowPairs false) anchors rest).map fun (found, more) =>
                    (found.addPair key value, more)
              | rest => do
                  let (key, anchors, rest) ← readNode false false anchors rest
                  (readGoal handles steps (.flowPairs false) anchors rest).map fun (found, more) =>
                    (found.addPair key .missing, more)

/-- Reads the directives before a document: the version, at most once and 1.1 or 1.2, and
abbreviations of tags, each once. -/
def takeDirectives (version : Bool) (handles : TagHandles) :
    List Token → Option (TagHandles × List Token)
  | .versionDirective major minor :: rest =>
      if !version && major == 1 && (minor == 1 || minor == 2) then takeDirectives true handles rest
      else none
  | .tagDirective handle leading :: rest =>
      if (handles.lookup handle).isSome then none
      else takeDirectives version (handles ++ [(handle, leading)]) rest
  | rest => some (handles, rest)

def endsDocument : List Token → Bool
  | [] => true
  | .documentStart :: _ => true
  | .documentEnd :: _ => true
  | .versionDirective _ _ :: _ => true
  | .tagDirective _ _ :: _ => true
  | _ => false

def readRoot (handles : TagHandles) (tokens : List Token) : Option (Document × List Token) :=
  (readGoal handles (4 * tokens.length + 8) (.node true false) {} tokens).map
    fun (found, anchors, rest) => (⟨found.single, anchors.nodes⟩, rest)

/-- Reads a text of at most one document; `some none` is a text without a document. -/
def parse (text : String) : Option (Option Document) := do
  let tokens ← tokens text
  match tokens with
  | [] => some none
  | tokens =>
      let (handles, rest) ← takeDirectives false [] tokens
      let handles := handles ++ defaultHandles
      let (document, rest) ←
        match rest with
        | .documentStart :: rest =>
            if endsDocument rest then some ({ root := .missing }, rest) else readRoot handles rest
        | rest => if rest.length == tokens.length then readRoot handles rest else none
      if rest.all (· == .documentEnd) then some (some document) else none

end Waymark.Yaml
