import Waymark.Yaml.NodeTag
import Waymark.Yaml.Scalar

set_option autoImplicit false

/-! Tokens of a YAML text. Blocks are found by indentation. A key without a mark of its own is known
only at the `:` after it, so the place of a token that may turn out to be a key is remembered, and the
tokens that open a mapping and a key are inserted there. -/

namespace Waymark.Yaml

inductive Token where
  | versionDirective (major minor : Nat)
  | tagDirective (handle : String) (leading : NodeTag)
  | documentStart
  | documentEnd
  | blockSequenceStart
  | blockMappingStart
  | blockEnd
  | flowSequenceStart
  | flowSequenceEnd
  | flowMappingStart
  | flowMappingEnd
  | blockEntry
  | flowEntry
  | key
  | value
  | alias (name : String)
  | anchor (name : String)
  | tag (handle : String) (suffix : NodeTag)
  | scalar (text : String) (style : ScalarStyle)
deriving DecidableEq, Repr

/-- A token that may be a key, by its number, with its place. A required key must be one. -/
structure PossibleKey where
  number : Nat
  required : Bool
  line : Nat
  column : Nat
  offset : Nat

structure Scanner where
  cursor : Cursor
  tokens : Array Token := #[]
  /-- The indentation of the open blocks, innermost first. -/
  indents : List Nat := []
  /-- The possible key at each level of flow collections, innermost first; the last is outside. -/
  keys : List (Option PossibleKey) := [none]
  keyAllowed : Bool := true

namespace Scanner

def inFlow (scanner : Scanner) : Bool := 1 < scanner.keys.length

def indent? (scanner : Scanner) : Option Nat := scanner.indents.head?

def plainIndent (scanner : Scanner) : Nat := scanner.indent?.elim 0 (· + 1)

def emit (scanner : Scanner) (token : Token) : Scanner :=
  { scanner with tokens := scanner.tokens.push token }

def emitMark (scanner : Scanner) (token : Token) (count : Nat := 1) : Scanner :=
  { scanner.emit token with cursor := scanner.cursor.skip count }

def setKey (scanner : Scanner) (key : Option PossibleKey) : Scanner :=
  { scanner with keys := key :: scanner.keys.tail }

def key? (scanner : Scanner) : Option PossibleKey := scanner.keys.head?.join

/-- Gives up the possible key of the innermost level; `none` if it is required. -/
def dropKey (scanner : Scanner) : Option Scanner :=
  if scanner.key?.any (·.required) then none else some (scanner.setKey none)

def saveKey (scanner : Scanner) : Option Scanner :=
  if scanner.keyAllowed then do
    let scanner ← scanner.dropKey
    let place := scanner.cursor
    scanner.setKey (some
      { number := scanner.tokens.size
        required := !scanner.inFlow && scanner.indent? == some place.column
        line := place.line
        column := place.column
        offset := place.offset })
  else some scanner

/-- Whether a possible key is too far away: on another line, or more than 1024 bytes before. -/
def isStale (cursor : Cursor) (key : PossibleKey) : Bool :=
  key.line < cursor.line || key.offset + 1024 < cursor.offset

/-- Gives up the possible keys that are too far away; `none` if one of them is required. -/
def dropStaleKeys (scanner : Scanner) : Option Scanner :=
  if scanner.keys.any (·.any fun key => isStale scanner.cursor key && key.required) then none
  else
    some { scanner with keys := scanner.keys.map (·.filter (!isStale scanner.cursor ·)) }

/-- Opens a block at a column, if that is indented more than the open blocks; the token goes to the
given place. -/
def openBlock (scanner : Scanner) (column number : Nat) (token : Token) : Scanner :=
  if scanner.inFlow || scanner.indent?.any (column ≤ ·) then scanner
  else
    { scanner with
      indents := column :: scanner.indents
      tokens := scanner.tokens.insertIdxIfInBounds number token }

def closeBlocks (column : Nat) : List Nat → Array Token → List Nat × Array Token
  | [], tokens => ([], tokens)
  | indent :: outer, tokens =>
      if column < indent then closeBlocks column outer (tokens.push .blockEnd)
      else (indent :: outer, tokens)

def unroll (scanner : Scanner) : Scanner :=
  if scanner.inFlow then scanner
  else
    let (indents, tokens) := closeBlocks scanner.cursor.column scanner.indents scanner.tokens
    { scanner with indents, tokens }

def unrollAll (scanner : Scanner) : Scanner :=
  if scanner.inFlow then scanner
  else
    { scanner with
      indents := []
      tokens := scanner.tokens ++ (scanner.indents.map fun _ => Token.blockEnd) }

/-- Goes on over blanks, comments and line ends. Tabs count as blanks only where no key can begin. A
new line outside of flow collections can begin with a key. -/
def skipSpacing : Nat → Scanner → Scanner
  | 0, scanner => scanner
  | steps + 1, scanner =>
      let cursor := scanner.cursor
      let cursor := if cursor.column == 0 && cursor.isAt '\ufeff' then cursor.skip else cursor
      let tabs := scanner.inFlow || !scanner.keyAllowed
      let cursor := cursor.skipWhile fun c => c == ' ' || (tabs && c == '\t')
      let cursor := if cursor.isAt '#' then cursor.skipWhile (!isBreak ·) else cursor
      if (cursor.peek?).any isBreak then
        skipSpacing steps
          { scanner with
            cursor := cursor.takeBreak.2
            keyAllowed := scanner.keyAllowed || !scanner.inFlow }
      else { scanner with cursor }

def takeNumber (cursor : Cursor) : Option (Nat × Cursor) :=
  let (digits, cursor) := cursor.takeWhile Char.isDigit
  if 9 < digits.length then none
  else (Text.readNatural? 10 digits).map (·, cursor)

/-- Takes the handle of a tag: `!`, or `!` name `!`. -/
def takeHandle (cursor : Cursor) : Option (List Char × Cursor) :=
  if cursor.isAt '!' then
    let (name, cursor) := cursor.skip.takeWhile isNameChar
    if cursor.isAt '!' then some ('!' :: name ++ ['!'], cursor.skip)
    else some ('!' :: name, cursor)
  else none

/-- A character of a tag's address; flow indicators only where they cannot be taken for one. -/
def isUriChar (verbatim : Bool) (c : Char) : Bool :=
  isNameChar c || ";/?:@&=+$.!~*'()%".toList.contains c
    || (verbatim && (c == ',' || c == '[' || c == ']'))

/-- Takes the address of a tag, which must not be empty together with what precedes it. -/
def takeUri (verbatim : Bool) (leading : List Char) (cursor : Cursor) : Option (NodeTag × Cursor) :=
  let (written, cursor) := cursor.takeWhile (isUriChar verbatim)
  if leading.isEmpty && written.isEmpty then none
  else (NodeTag.ofWritten? (leading.drop 1 ++ written)).map (·, cursor)

def takeDirective (cursor : Cursor) : Option (Token × Cursor) := do
  let (name, cursor) := cursor.skip.takeWhile isNameChar
  if name.isEmpty || !cursor.isSpacingAt then none
  else
    match String.ofList name with
    | "YAML" => do
        let (major, cursor) ← takeNumber cursor.skipBlanks
        if cursor.isAt '.' then do
          let (minor, cursor) ← takeNumber cursor.skip
          let cursor ← cursor.skipLineRest
          some (.versionDirective major minor, cursor)
        else none
    | "TAG" => do
        let (handle, cursor) ← takeHandle cursor.skipBlanks
        if handle != ['!'] && handle.getLast? != some '!' then none
        else if !(cursor.peek?).any isBlank then none
        else do
          let (leading, cursor) ← takeUri true [] cursor.skipBlanks
          if cursor.isSpacingAt then do
            let cursor ← cursor.skipLineRest
            some (.tagDirective (String.ofList handle) leading, cursor)
          else none
    | _ => none

def takeName (cursor : Cursor) : Option (String × Cursor) :=
  let (name, cursor) := cursor.skip.takeWhile isNameChar
  if name.isEmpty then none
  else if cursor.isSpacingAt || (cursor.peek?).any "?:,]\x7d%@`".toList.contains then
    some (String.ofList name, cursor)
  else none

def takeTag (inFlow : Bool) (cursor : Cursor) : Option (Token × Cursor) := do
  let (token, cursor) ←
    if cursor.isAt '<' 1 then do
      let (address, cursor) ← takeUri true [] (cursor.skip 2)
      if cursor.isAt '>' then some (Token.tag "" address, cursor.skip) else none
    else do
      let (handle, cursor) ← takeHandle cursor
      if 1 < handle.length && handle.getLast? == some '!' then do
        let (suffix, cursor) ← takeUri false [] cursor
        some (.tag (String.ofList handle) suffix, cursor)
      else do
        let (suffix, cursor) ← takeUri false handle cursor
        some (if suffix.bytes.isEmpty then .tag "" .nonSpecific else .tag "!" suffix, cursor)
  if cursor.isSpacingAt || (inFlow && cursor.isAt ',') then some (token, cursor) else none

def startsPlain (inFlow : Bool) (cursor : Cursor) : Bool :=
  match cursor.peek? with
  | none => false
  | some c =>
      let next := cursor.peek? 1
      !(isSpacing c || "-?:,[]\x7b\x7d#&*!|>'\"%@`".toList.contains c)
        || (c == '-' && !next.any isBlank)
        || (!inFlow && (c == '?' || c == ':') && !cursor.isSpacingAt 1)

def endDocument (scanner : Scanner) : Option Scanner := do
  let scanner ← scanner.unrollAll.dropKey
  some { scanner with keyAllowed := false }

def fetchBlockEntry (scanner : Scanner) : Option Scanner := do
  let scanner ←
    if scanner.inFlow then some scanner
    else if scanner.keyAllowed then
      some (scanner.openBlock scanner.cursor.column scanner.tokens.size .blockSequenceStart)
    else none
  let scanner ← scanner.dropKey
  some (emitMark { scanner with keyAllowed := true } .blockEntry)

def fetchKey (scanner : Scanner) : Option Scanner := do
  let scanner ←
    if scanner.inFlow then some scanner
    else if scanner.keyAllowed then
      some (scanner.openBlock scanner.cursor.column scanner.tokens.size .blockMappingStart)
    else none
  let scanner ← scanner.dropKey
  some (emitMark { scanner with keyAllowed := !scanner.inFlow } .key)

def fetchValue (scanner : Scanner) : Option Scanner :=
  match scanner.key? with
  | some key =>
      let scanner :=
        { scanner with tokens := scanner.tokens.insertIdxIfInBounds key.number .key }
      let scanner := scanner.openBlock key.column key.number .blockMappingStart
      some (emitMark { scanner.setKey none with keyAllowed := false } .value)
  | none =>
      if scanner.inFlow then some (emitMark { scanner with keyAllowed := false } .value)
      else if scanner.keyAllowed then
        some (emitMark
          (scanner.openBlock scanner.cursor.column scanner.tokens.size .blockMappingStart) .value)
      else none

def fetchFlowStart (scanner : Scanner) (token : Token) : Option Scanner := do
  let scanner ← scanner.saveKey
  some (emitMark { scanner with keys := none :: scanner.keys, keyAllowed := true } token)

def fetchFlowEnd (scanner : Scanner) (token : Token) : Option Scanner := do
  let scanner ← scanner.dropKey
  let keys := if scanner.inFlow then scanner.keys.tail else scanner.keys
  some (emitMark { scanner with keys, keyAllowed := false } token)

def accept (scanner : Scanner) (token : Token) (cursor : Cursor) (keyAllowed : Bool) : Scanner :=
  { scanner.emit token with cursor, keyAllowed }

def fetchFrom (scanner : Scanner) (c : Char) : Option Scanner :=
  let cursor := scanner.cursor
  let inFlow := scanner.inFlow
  if cursor.column == 0 && c == '%' then do
    let scanner ← scanner.endDocument
    let (token, cursor) ← takeDirective cursor
    some (scanner.accept token cursor false)
  else if cursor.isMarker '-' then do
    let scanner ← scanner.endDocument
    some (scanner.emitMark .documentStart 3)
  else if cursor.isMarker '.' then do
    let scanner ← scanner.endDocument
    some (scanner.emitMark .documentEnd 3)
  else if c == '[' then scanner.fetchFlowStart .flowSequenceStart
  else if c == '\x7b' then scanner.fetchFlowStart .flowMappingStart
  else if c == ']' then scanner.fetchFlowEnd .flowSequenceEnd
  else if c == '\x7d' then scanner.fetchFlowEnd .flowMappingEnd
  else if c == ',' then do
    let scanner ← scanner.dropKey
    some (emitMark { scanner with keyAllowed := true } .flowEntry)
  else if c == '-' && cursor.isSpacingAt 1 then scanner.fetchBlockEntry
  else if c == '?' && (inFlow || cursor.isSpacingAt 1) then scanner.fetchKey
  else if c == ':' && (inFlow || cursor.isSpacingAt 1) then scanner.fetchValue
  else if c == '*' then do
    let scanner ← scanner.saveKey
    let (name, cursor) ← takeName cursor
    some (scanner.accept (.alias name) cursor false)
  else if c == '&' then do
    let scanner ← scanner.saveKey
    let (name, cursor) ← takeName cursor
    some (scanner.accept (.anchor name) cursor false)
  else if c == '!' then do
    let scanner ← scanner.saveKey
    let (token, cursor) ← takeTag inFlow cursor
    some (scanner.accept token cursor false)
  else if (c == '|' || c == '>') && !inFlow then do
    let scanner ← scanner.dropKey
    let (text, cursor) ← takeBlock (c == '>') scanner.indent? cursor
    some (scanner.accept (.scalar text (if c == '>' then .folded else .literal)) cursor true)
  else if c == '\'' || c == '"' then do
    let scanner ← scanner.saveKey
    let (text, cursor) ← takeQuoted c cursor
    some (scanner.accept (.scalar text (if c == '"' then .doubleQuoted else .singleQuoted)) cursor
      false)
  else if startsPlain inFlow cursor then do
    let scanner ← scanner.saveKey
    let (text, broken, cursor) ← takePlain inFlow scanner.plainIndent cursor
    some (scanner.accept (.scalar text .plain) cursor broken)
  else none

/-- Takes all tokens. Each one takes at least a character, which bounds their number. -/
def run : Nat → Scanner → Option (List Token)
  | 0, _ => none
  | steps + 1, scanner => do
      let scanner ← (skipSpacing (scanner.cursor.rest.length + 1) scanner).dropStaleKeys
      let scanner := scanner.unroll
      match scanner.cursor.peek? with
      | none => (scanner.endDocument).map (·.tokens.toList)
      | some c => do
          let scanner ← scanner.fetchFrom c
          run steps scanner

end Scanner

def tokens (text : String) : Option (List Token) :=
  if text.toList.all isAllowed then
    Scanner.run (text.length + 1) { cursor := { rest := text.toList } }
  else none

end Waymark.Yaml
