import Waymark.Glob.Basic

set_option autoImplicit false

/-! Shapes of patterns: which part of a path decides whether it matches. Patterns that are decided by
the name at the end of a path do not match a path without one. -/

namespace Waymark

inductive GlobShape where
  | name
  | path
  | extension
  | beginning
  | ending
  | extensionFirst
  | whole
deriving DecidableEq, Repr

namespace Glob

/-- The text of tokens that stand for themselves; `none` if one does not. -/
def literalText? (tokens : List GlobToken) : Option (List Char) :=
  tokens.mapM fun
    | .literal c => some c
    | _ => none

def givesName : List GlobToken → Bool
  | .leadingAny :: name =>
      !name.isEmpty && (literalText? name).any (!·.contains '/')
  | _ => false

def isExtension : List GlobToken → Bool
  | .literal '.' :: rest => (literalText? rest).any fun text => !text.contains '.' && !text.contains '/'
  | _ => false

def givesExtension (slashIsSpecial : Bool) : List GlobToken → Bool
  | .leadingAny :: .star :: rest => isExtension rest
  | .star :: rest => !slashIsSpecial && isExtension rest
  | _ => false

def givesBeginning (slashIsSpecial : Bool) (tokens : List GlobToken) : Bool :=
  let text? := literalText? tokens.dropLast
  match tokens.getLast? with
  | some .star => !slashIsSpecial && text?.any (!·.isEmpty)
  | some .trailingAny => text?.isSome
  | _ => false

def givesEnding (slashIsSpecial : Bool) (tokens : List GlobToken) : Bool :=
  let (atSlash, tokens) : Bool × List GlobToken :=
    match tokens with
    | .leadingAny :: .literal c :: rest => (true, .literal c :: rest)
    | .leadingAny :: rest => (false, rest)
    | tokens => (false, tokens)
  let ending? : Option (List Char) :=
    match tokens with
    | .star :: rest => if slashIsSpecial then none else literalText? rest
    | tokens => literalText? tokens
  ending?.any fun ending => !ending.isEmpty && (atSlash || ending != ['/'])

def endsWithExtension (tokens : List GlobToken) : Bool :=
  let text := tokens.reverse.takeWhile fun
    | .literal _ => true
    | _ => false
  ((literalText? text).bind fun text => text.find? fun c => c == '.' || c == '/') == some '.'

def shape (glob : Glob) : GlobShape :=
  let tokens := glob.tokens
  let slashIsSpecial := glob.options.slashIsSpecial
  if givesName tokens then .name
  else if (literalText? tokens).any (!·.isEmpty) then .path
  else if givesExtension slashIsSpecial tokens then .extension
  else if givesBeginning slashIsSpecial tokens then .beginning
  else if givesEnding slashIsSpecial tokens then .ending
  else if endsWithExtension tokens then .extensionFirst
  else .whole

def needsName : GlobShape → Bool
  | .name => true
  | .extension => true
  | .extensionFirst => true
  | _ => false

def hasName (path : String) : Bool :=
  let last := path.toList.reverse.takeWhile (· != '/')
  !last.isEmpty && last != ['.', '.']

end Glob

end Waymark
