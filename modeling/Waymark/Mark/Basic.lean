import Waymark.Mark.Grammar

set_option autoImplicit false

/-! Marks in a text. A mark follows a character that is no word character: a token, then perhaps
attributes in brackets, then perhaps a separator and a comment, up to the end of the line. At one
place the first choice that completes is taken: tokens in the order of the grammar, with brackets
before without, separators in their order before none. -/

namespace Waymark

/-- What follows the token and its brackets: the separator as written and the comment. -/
structure Remark where
  separator : List Char
  comment : List Char
deriving DecidableEq, Repr

structure Mark where
  token : List Char
  bracket : Option (List Char)
  remark : Option Remark
deriving DecidableEq, Repr

namespace Mark

def bracketText (mark : Mark) : List Char :=
  mark.bracket.elim [] fun inner => '[' :: inner ++ [']']

def opening (mark : Mark) : List Char :=
  mark.token ++ mark.bracketText ++ mark.remark.elim [] Remark.separator

def comment (mark : Mark) : List Char :=
  mark.remark.elim [] Remark.comment

def written (mark : Mark) : List Char :=
  mark.opening ++ mark.comment

end Mark

namespace Grammar

def beginsWith (grammar : Grammar) : List Char → List Char → Bool
  | [], _ => true
  | _ :: _, [] => false
  | wanted :: token, found :: text => grammar.sameChar wanted found && grammar.beginsWith token text

/-- How many characters of a text a separator takes; `none` if the text does not begin with it. The
last of the spaces in a run stands for all the spaces that follow. -/
def separatorLength? (grammar : Grammar) : List Char → List Char → Option Nat
  | [], _ => some 0
  | _ :: _, [] => none
  | wanted :: separator, found :: text =>
      if wanted = ' ' then
        if found = ' ' then
          if separator.head? = some ' ' then
            (grammar.separatorLength? separator text).map (· + 1)
          else
            let spaces := (text.takeWhile (· == ' ')).length
            (grammar.separatorLength? separator (text.drop spaces)).map (· + (spaces + 1))
        else none
      else if grammar.sameChar wanted found then
        (grammar.separatorLength? separator text).map (· + 1)
      else none

/-- Whether a line ends between `before` and `rest`: at the end of the text and before a line break,
but not inside a carriage return and line feed. -/
def endsLine (before : Char) : List Char → Bool
  | [] => true
  | c :: _ => c == '\r' || (c == '\n' && before != '\r')

def remarkWith (grammar : Grammar) (before : Char) (text separator : List Char) : Option Remark :=
  (grammar.separatorLength? separator text).bind fun size =>
    let written := text.take size
    let comment := (text.drop size).takeWhile (!Text.isBreak ·)
    let last := (written ++ comment).getLast?.getD before
    if endsLine last (text.drop (size + comment.length)) then some ⟨written, comment⟩ else none

/-- What ends a mark: the first separator that completes, or the end of the line at once. -/
def tailAt (grammar : Grammar) (before : Char) (text : List Char) : Option (Option Remark) :=
  match grammar.separators.findSome? (grammar.remarkWith before text) with
  | some remark => some (some remark)
  | none => if endsLine before text then some none else none

def bracketAt : List Char → Option (List Char)
  | '[' :: text =>
      let inner := text.takeWhile fun c => c != ']' && !Text.isBreak c
      if (text.drop inner.length).head? = some ']' then some inner else none
  | _ => none

def markWith (grammar : Grammar) (before : Char) (text token : List Char) : Option Mark :=
  if grammar.beginsWith token text then
    let found := text.take token.length
    let rest := text.drop token.length
    let bracketed :=
      (bracketAt rest).bind fun inner =>
        (grammar.tailAt ']' (rest.drop (inner.length + 2))).map fun remark =>
          (⟨found, some inner, remark⟩ : Mark)
    bracketed.or
      ((grammar.tailAt (found.getLast?.getD before) rest).map fun remark =>
        (⟨found, none, remark⟩ : Mark))
  else none

/-- The mark at the beginning of a text that follows `before`, which must be no word character. -/
def markAt (grammar : Grammar) (before : Char) (text : List Char) : Option Mark :=
  if Text.isWord before then none
  else grammar.tokens.findSome? (grammar.markWith before text)

end Grammar

structure Hit where
  start : Nat
  mark : Mark
deriving DecidableEq, Repr

namespace Hit

def tokenStop (hit : Hit) : Nat := hit.start + Text.byteLength hit.mark.token

def commentStart? (hit : Hit) : Option Nat :=
  hit.mark.remark.map fun _ => hit.start + Text.byteLength hit.mark.opening

def stop (hit : Hit) : Nat := hit.start + Text.byteLength hit.mark.written

end Hit

namespace Grammar

/-- The marks of a text that starts at `offset`, from left to right and without overlap. -/
def hitsFrom (grammar : Grammar) (offset : Nat) : List Char → List Hit
  | [] => []
  | c :: rest =>
      let start := offset + c.utf8Size
      match grammar.markAt c rest with
      | some mark =>
          ⟨start, mark⟩ ::
            grammar.hitsFrom (start + Text.byteLength mark.written) (rest.drop mark.written.length)
      | none => grammar.hitsFrom start rest
termination_by text => text.length
decreasing_by all_goals simp only [List.length_cons, List.length_drop]; omega

def hits (grammar : Grammar) (text : String) : List Hit :=
  grammar.hitsFrom 0 text.toList

end Grammar

end Waymark
