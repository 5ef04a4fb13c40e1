import Waymark.Text.Number
import Waymark.Yaml.Cursor

set_option autoImplicit false

/-! Scalars of a YAML text: plain, quoted and block. Lines of one scalar are folded: a single line
break becomes a space, further ones are kept. -/

namespace Waymark.Yaml

inductive ScalarStyle where
  | plain
  | singleQuoted
  | doubleQuoted
  | literal
  | folded
deriving DecidableEq, Repr

/-- Text that is being collected, with the spacing since its last character. -/
structure Folding where
  /-- The text, last character first. -/
  text : List Char := []
  /-- Blanks within a line, last first. -/
  blanks : List Char := []
  /-- Whether a line has ended since the last character. -/
  broken : Bool := false
  firstBreak : List Char := []
  moreBreaks : List Char := []

namespace Folding

/-- Adds the spacing to the text: blanks as they are, a first line feed as a space unless more breaks
follow, other breaks as they are. -/
def join (folding : Folding) : Folding :=
  if folding.broken then
    let spacing :=
      if folding.firstBreak == ['\n'] then
        if folding.moreBreaks.isEmpty then [' '] else folding.moreBreaks
      else folding.firstBreak ++ folding.moreBreaks
    { text := spacing.reverse ++ folding.text }
  else { text := folding.blanks ++ folding.text }

def push (folding : Folding) (c : Char) : Folding :=
  { folding with text := c :: folding.text }

def addBreak (folding : Folding) (lineBreak : List Char) : Folding :=
  if folding.broken then { folding with moreBreaks := folding.moreBreaks ++ lineBreak }
  else { folding with blanks := [], broken := true, firstBreak := lineBreak }

/-- Adds a blank to the spacing; at the start of a line it does not count. -/
def addBlank (folding : Folding) (c : Char) : Folding :=
  if folding.broken then folding else { folding with blanks := c :: folding.blanks }

def result (folding : Folding) : String := String.ofList folding.text.reverse

end Folding

/-- Collects spacing from a cursor on; `none` for a tab where `badTab` does not allow it. -/
def takeSpacing (badTab : Cursor → Bool) : Nat → Folding → Cursor → Option (Folding × Cursor)
  | 0, folding, cursor => some (folding, cursor)
  | steps + 1, folding, cursor =>
      match cursor.peek? with
      | none => some (folding, cursor)
      | some c =>
          if isBlank c then
            if folding.broken && c == '\t' && badTab cursor then none
            else takeSpacing badTab steps (folding.addBlank c) cursor.skip
          else if isBreak c then
            let (lineBreak, cursor) := cursor.takeBreak
            takeSpacing badTab steps (folding.addBreak lineBreak) cursor
          else some (folding, cursor)

/-- Takes the characters of a plain scalar up to spacing or an indicator that ends it; `none` for an
indicator in the wrong place. -/
def takePlainWord (inFlow : Bool) : Nat → Folding → Cursor → Option (Folding × Cursor)
  | 0, folding, cursor => some (folding, cursor)
  | steps + 1, folding, cursor =>
      match cursor.peek? with
      | none => some (folding, cursor)
      | some c =>
          if isSpacing c then some (folding, cursor)
          else if inFlow && c == ':' && (cursor.peek? 1).any fun d => isFlowMark d || d == '?' then
            none
          else if (c == ':' && cursor.isSpacingAt 1) || (inFlow && isFlowMark c) then
            some (folding, cursor)
          else takePlainWord inFlow steps (folding.join.push c) cursor.skip

/-- Takes the lines of a plain scalar that is indented by at least `indent`. -/
def takePlainLines (inFlow : Bool) (indent : Nat) : Nat → Folding → Cursor → Option (Folding × Cursor)
  | 0, folding, cursor => some (folding, cursor)
  | steps + 1, folding, cursor =>
      if cursor.atDocumentMarker || cursor.isAt '#' then some (folding, cursor)
      else do
        let (folding, cursor) ← takePlainWord inFlow (cursor.rest.length + 1) folding cursor
        if (cursor.peek?).all (!isSpacing ·) then some (folding, cursor)
        else do
          let badTab (place : Cursor) := place.column < indent
          let (folding, cursor) ← takeSpacing badTab (cursor.rest.length + 1) folding cursor
          if !inFlow && cursor.column < indent then some (folding, cursor)
          else takePlainLines inFlow indent steps folding cursor

/-- Takes a plain scalar; also tells whether a line ended after it. -/
def takePlain (inFlow : Bool) (indent : Nat) (cursor : Cursor) : Option (String × Bool × Cursor) :=
  (takePlainLines inFlow indent (cursor.rest.length + 1) {} cursor).map fun (folding, cursor) =>
    (folding.result, folding.broken, cursor)

def simpleEscape? : Char → Option Char
  | '0' => some '\x00'
  | 'a' => some '\x07'
  | 'b' => some '\x08'
  | 't' => some '\t'
  | '\t' => some '\t'
  | 'n' => some '\n'
  | 'v' => some '\x0b'
  | 'f' => some '\x0c'
  | 'r' => some '\r'
  | 'e' => some '\x1b'
  | ' ' => some ' '
  | '"' => some '"'
  | '/' => some '/'
  | '\\' => some '\\'
  | 'N' => some '\x85'
  | '_' => some '\xa0'
  | 'L' => some '\u2028'
  | 'P' => some '\u2029'
  | _ => none

def escapeDigits? : Char → Option Nat
  | 'x' => some 2
  | 'u' => some 4
  | 'U' => some 8
  | _ => none

def takeEscape (cursor : Cursor) : Option (Char × Cursor) := do
  let c ← cursor.peek?
  match simpleEscape? c with
  | some escaped => some (escaped, cursor.skip)
  | none =>
      let count ← escapeDigits? c
      let digits := (cursor.rest.drop 1).take count
      if digits.length < count then none
      else do
        let point ← Text.readNatural? 16 digits
        if point.isValidChar then some (Char.ofNat point, cursor.skip (count + 1)) else none

def takeQuotedWord (quote : Char) : Nat → Folding → Cursor → Option (Folding × Cursor)
  | 0, folding, cursor => some (folding, cursor)
  | steps + 1, folding, cursor =>
      match cursor.peek? with
      | none => some (folding, cursor)
      | some c =>
          if isSpacing c then some (folding, cursor)
          else if quote == '\'' && c == quote && cursor.isAt quote 1 then
            takeQuotedWord quote steps (folding.push c) (cursor.skip 2)
          else if c == quote then some (folding, cursor)
          else if quote == '"' && c == '\\' then
            if (cursor.peek? 1).any isBreak then
              some ({ folding with broken := true }, cursor.skip.takeBreak.2)
            else do
              let (escaped, cursor) ← takeEscape cursor.skip
              takeQuotedWord quote steps (folding.push escaped) cursor
          else takeQuotedWord quote steps (folding.push c) cursor.skip

def takeQuotedLines (quote : Char) : Nat → Folding → Cursor → Option (Folding × Cursor)
  | 0, _, _ => none
  | steps + 1, folding, cursor =>
      if cursor.atDocumentMarker || cursor.atEnd then none
      else do
        let (folding, cursor) ← takeQuotedWord quote (cursor.rest.length + 1) folding cursor
        if cursor.isAt quote then some (folding, cursor.skip)
        else do
          let (folding, cursor) ←
            takeSpacing (fun _ => false) (cursor.rest.length + 1) folding cursor
          takeQuotedLines quote steps folding.join cursor

def takeQuoted (quote : Char) (cursor : Cursor) : Option (String × Cursor) :=
  (takeQuotedLines quote (cursor.rest.length + 1) {} cursor.skip).map fun (folding, cursor) =>
    (folding.result, cursor)

inductive Chomping where
  | strip
  | clip
  | keep
deriving DecidableEq, Repr

def takeChomping (cursor : Cursor) : Option Chomping × Cursor :=
  if cursor.isAt '+' then (some .keep, cursor.skip)
  else if cursor.isAt '-' then (some .strip, cursor.skip)
  else (none, cursor)

/-- Takes an indentation indicator, if there is one; it cannot be 0. -/
def takeIndentation (cursor : Cursor) : Option (Option Nat × Cursor) :=
  match cursor.peek? with
  | some c =>
      if c.isDigit then
        if c == '0' then none else some (some (c.toNat - '0'.toNat), cursor.skip)
      else some (none, cursor)
  | none => some (none, cursor)

def takeBlockHeader (cursor : Cursor) : Option (Chomping × Option Nat × Cursor) := do
  let (before, cursor) := takeChomping cursor
  let (indentation, cursor) ← takeIndentation cursor
  let (after, cursor) := if before.isNone && indentation.isSome then takeChomping cursor else (none, cursor)
  let cursor ← cursor.skipLineRest
  some ((before.or after).getD .clip, indentation, cursor)

/-- Takes empty lines and the indentation after them; the indentation is bounded by `indent` once it
is known. The result holds the breaks and the widest indentation seen. -/
def takeEmptyLines (indent : Option Nat) :
    Nat → Nat → List Char → Cursor → Option (Nat × List Char × Cursor)
  | 0, widest, breaks, cursor => some (widest, breaks, cursor)
  | steps + 1, widest, breaks, cursor =>
      let spaces := (cursor.rest.takeWhile (· == ' ')).length
      let cursor := cursor.skip (indent.elim spaces fun indent => min spaces (indent - cursor.column))
      let widest := max widest cursor.column
      if (indent.all (cursor.column < ·)) && cursor.isAt '\t' then none
      else if (cursor.peek?).any isBreak then
        let (lineBreak, cursor) := cursor.takeBreak
        takeEmptyLines indent steps widest (breaks ++ lineBreak) cursor
      else some (widest, breaks, cursor)

/-- The text of a block scalar that is being collected, last character first, with the breaks since
its last line and whether that line began with a blank. -/
structure BlockText where
  text : List Char := []
  lastBreak : List Char := []
  breaks : List Char := []
  blankLine : Bool := false

def takeBlockLines (isFolded : Bool) (indent : Nat) :
    Nat → BlockText → Cursor → Option (BlockText × Cursor)
  | 0, block, cursor => some (block, cursor)
  | steps + 1, block, cursor =>
      if cursor.column != indent || cursor.atEnd then some (block, cursor)
      else do
        let isBlankLine := (cursor.peek?).any isBlank
        let folds := isFolded && block.lastBreak == ['\n'] && !block.blankLine && !isBlankLine
        let spacing :=
          if folds then if block.breaks.isEmpty then [' '] else block.breaks
          else block.lastBreak ++ block.breaks
        let (line, cursor) := cursor.takeWhile (!isBreak ·)
        let (lastBreak, cursor) := cursor.takeBreak
        let (_, breaks, cursor) ←
          takeEmptyLines (some indent) (cursor.rest.length + 1) 0 [] cursor
        takeBlockLines isFolded indent steps
          { text := line.reverse ++ spacing.reverse ++ block.text
            lastBreak, breaks, blankLine := isBlankLine } cursor

/-- Takes a block scalar from its `|` or `>` on, inside a block that is indented by `parent`. -/
def takeBlock (isFolded : Bool) (parent : Option Nat) (cursor : Cursor) :
    Option (String × Cursor) := do
  let (chomping, indentation, cursor) ← takeBlockHeader cursor.skip
  let least := parent.elim 0 (· + 1)
  let given := indentation.map (parent.getD 0 + ·)
  let (widest, breaks, cursor) ← takeEmptyLines given (cursor.rest.length + 1) 0 [] cursor
  let indent := given.getD (max (max widest least) 1)
  let (block, cursor) ←
    takeBlockLines isFolded indent (cursor.rest.length + 1) { breaks } cursor
  let tail :=
    match chomping with
    | .strip => []
    | .clip => block.lastBreak
    | .keep => block.lastBreak ++ block.breaks
  some (String.ofList (block.text.reverse ++ tail), cursor)

end Waymark.Yaml
