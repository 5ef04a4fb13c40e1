import Waymark.Mark.Separator
import Waymark.Tag.Registry

set_option autoImplicit false

/-! The grammar of marks: which tokens open or close an anchor, and which separators may stand
between a token and its comment. Longer tokens come first, since the first that completes is
taken and a short token can be the beginning of a long one. -/

namespace Waymark

inductive GrammarError where
  | noTags
  | noSeparators
deriving DecidableEq, Repr

namespace GrammarError

def message : GrammarError → String
  | noTags => "at least one tag must be defined"
  | noSeparators => "at least one separator must be defined"

end GrammarError

structure Grammar where
  /-- The tokens, by decreasing size and then in text order, each once. -/
  tokens : List (List Char)
  /-- The separators in the order in which they are tried, none of them empty. -/
  separators : List (List Char)
  /-- What precedes the name of a region in its end marker. -/
  endTag : String
  matchCase : Bool

namespace Grammar

def tokenPrecedes (a b : String) : Bool :=
  b.utf8ByteSize < a.utf8ByteSize || (a.utf8ByteSize == b.utf8ByteSize && a ≤ b)

def tokensOf (registry : Registry) (endTag : String) : List String :=
  ((registry.list.flatMap (Tag.tokens endTag)).mergeSort tokenPrecedes).eraseDups

/-- The grammar of a registry. There must be a tag and a separator that is not empty. -/
def build (registry : Registry) (separators : List String) (endTag : String) (matchCase : Bool) :
    Except GrammarError Grammar :=
  if registry.isEmpty then .error .noTags
  else
    match separators.filter (!·.isEmpty) with
    | [] => .error .noSeparators
    | usable =>
        .ok
          { tokens := (tokensOf registry endTag).map String.toList
            separators := Separator.order matchCase (usable.map String.toList)
            endTag, matchCase }

def sameChar (grammar : Grammar) (wanted found : Char) : Bool :=
  Text.sameChar grammar.matchCase wanted found

/-- Cuts a text after a number of bytes; `none` if that is inside a character or past the end. -/
def cutBytes : Nat → List Char → Option (List Char × List Char)
  | 0, rest => some ([], rest)
  | _ + 1, [] => none
  | size + 1, c :: rest =>
      if c.utf8Size ≤ size + 1 then
        (cutBytes (size + 1 - c.utf8Size) rest).map fun (before, after) => (c :: before, after)
      else none

def isEndTag (grammar : Grammar) (text : String) : Bool :=
  if grammar.matchCase then text == grammar.endTag
  else Text.upper text == Text.upper grammar.endTag

/-- Divides a token into the name of its tag and whether it is an end marker. A token is one if it
begins with the end mark and the rest names a region. -/
def splitEnd (grammar : Grammar) (isRegion : String → Bool) (token : String) : String × Bool :=
  let size := grammar.endTag.utf8ByteSize
  if size = 0 ∨ token.utf8ByteSize ≤ size then (token, false)
  else
    match cutBytes size token.toList with
    | none => (token, false)
    | some (mark, name) =>
        if grammar.isEndTag (String.ofList mark) && isRegion (String.ofList name) then
          (String.ofList name, true)
        else (token, false)

end Grammar

end Waymark
