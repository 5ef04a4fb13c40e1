import Waymark.Glob.Match
import Waymark.Text.Quoted

set_option autoImplicit false

/-! Patterns as regular expressions. Patterns that are compared with whole paths are compiled as such,
which limits how deep their groups can be nested. -/

namespace Waymark

namespace Glob

def maxNesting : Nat := 250

/-- How many items tokens stand for, one after the other. Every byte of a literal is an item. -/
def itemCount : List GlobToken → Nat
  | [] => 0
  | .literal c :: rest => c.utf8Size + itemCount rest
  | .trailingAny :: rest => 2 + itemCount rest
  | .alternatives branches :: rest => (if areBlank branches then 0 else 1) + itemCount rest
  | _ :: rest => 1 + itemCount rest

def memberCount (ranges : List (Char × Char)) : Nat :=
  (ranges.flatMap fun (first, last) => byteRanges first last).length

mutual

/-- How deep a token is nested: groups, choices, repetitions and classes are each one level. -/
def tokenNesting (slashIsSpecial : Bool) : GlobToken → Nat
  | .literal _ => 0
  | .any => if slashIsSpecial then 1 else 0
  | .star => if slashIsSpecial then 2 else 1
  | .leadingAny => 4
  | .trailingAny => 1
  | .middleAny => 4
  | .oneOf _ ranges => if memberCount ranges ≤ 1 then 1 else 2
  | .alternatives branches =>
      if areBlank branches then 0
      else
        let choice := if (branches.filter (!isBlank ·)).length ≤ 1 then 0 else 1
        branchesNesting slashIsSpecial branches + choice + 1

/-- How deep the deepest of some branches is nested. Items one after the other are one level. -/
def branchesNesting (slashIsSpecial : Bool) : List (List GlobToken) → Nat
  | [] => 0
  | branch :: rest =>
      let sequence := if itemCount branch ≤ 1 then 0 else 1
      max (tokensNesting slashIsSpecial branch + sequence) (branchesNesting slashIsSpecial rest)

def tokensNesting (slashIsSpecial : Bool) : List GlobToken → Nat
  | [] => 0
  | token :: rest => max (tokenNesting slashIsSpecial token) (tokensNesting slashIsSpecial rest)

end

def isTooDeep (glob : Glob) : Bool :=
  maxNesting < tokensNesting glob.options.slashIsSpecial glob.tokens + 1

def byteText (byte : UInt8) : String :=
  if byte < 0x80 then
    let c := Char.ofNat byte.toNat
    if "\\.+*?()|[]\x7b\x7d^$#&-~".toList.contains c then "\\" ++ c.toString else c.toString
  else "\\x" ++ Text.hexadecimal byte.toNat

def charText (c : Char) : String := String.join ((bytes c.toString).map byteText)

def rangeText (first last : Char) : String :=
  if first = last then charText first else charText first ++ "-" ++ charText last

mutual

def tokenText (slashIsSpecial : Bool) : GlobToken → String
  | .literal c => charText c
  | .any => if slashIsSpecial then "[^/]" else "."
  | .star => if slashIsSpecial then "[^/]*" else ".*"
  | .leadingAny => "(?:/?|.*/)"
  | .trailingAny => "/.*"
  | .middleAny => "(?:/|/.*/)"
  | .oneOf negated ranges =>
      "[" ++ (if negated then "^" else "")
        ++ String.join (ranges.map fun (first, last) => rangeText first last) ++ "]"
  | .alternatives branches =>
      if areBlank branches then ""
      else "(?:" ++ String.intercalate "|" (branchTexts slashIsSpecial branches) ++ ")"

def branchTexts (slashIsSpecial : Bool) : List (List GlobToken) → List String
  | [] => []
  | branch :: rest =>
      let texts := branchTexts slashIsSpecial rest
      if isBlank branch then texts else tokensText slashIsSpecial branch :: texts

def tokensText (slashIsSpecial : Bool) : List GlobToken → String
  | [] => ""
  | token :: rest => tokenText slashIsSpecial token ++ tokensText slashIsSpecial rest

end

def expression (glob : Glob) : String :=
  "(?-u)^" ++ tokensText glob.options.slashIsSpecial glob.tokens ++ "$"

end Glob

inductive CompileError where
  | single (expression : String)
  | numbered (number : Nat)
deriving DecidableEq, Repr

namespace CompileError

def message : CompileError → String
  | single expression => "error parsing glob '" ++ expression ++ "': error parsing pattern 0"
  | numbered number => "error parsing pattern " ++ toString number

/-- What is wrong with patterns that are compiled together. Those with an extension are compiled first
and one by one. -/
def find? (globs : List Glob) : Option CompileError :=
  let withExtension := globs.filter (·.shape == .extensionFirst)
  let others := globs.filter (·.shape == .whole)
  ((withExtension.find? Glob.isTooDeep).map fun glob => single glob.expression).or
    ((others.findIdx? Glob.isTooDeep).map numbered)

end CompileError

end Waymark
