import Waymark.Path

set_option autoImplicit false

/-! Glob patterns. `?` and `*` stand for one byte and for any bytes, `**` as a whole component for any
components, `[…]` for a byte of a set, `{…,…}` for one of several patterns. -/

namespace Waymark

inductive GlobToken where
  | literal (c : Char)
  | any
  | star
  /-- Any number of components at the beginning, with the slash after them. -/
  | leadingAny
  /-- A slash and any number of components at the end. -/
  | trailingAny
  /-- A slash, or any number of components between two slashes. -/
  | middleAny
  /-- One of the given ranges, or with `negated` none of them. -/
  | oneOf (negated : Bool) (ranges : List (Char × Char))
  | alternatives (branches : List (List GlobToken))
deriving Repr

inductive GlobFault where
  | unclosedClass
  | invalidRange (first last : Char)
  | unopenedGroup
  | unclosedGroup
  | danglingEscape
deriving DecidableEq, Repr

namespace GlobFault

def message : GlobFault → String
  | unclosedClass => "unclosed character class; missing ']'"
  | invalidRange first last =>
      "invalid range; '" ++ first.toString ++ "' > '" ++ last.toString ++ "'"
  | unopenedGroup =>
      "unopened alternate group; missing '\x7b' (maybe escape '\x7d' with '[\x7d]'?)"
  | unclosedGroup =>
      "unclosed alternate group; missing '\x7d' (maybe escape '\x7b' with '[\x7b]'?)"
  | danglingEscape => "dangling '\\'"

end GlobFault

structure GlobOptions where
  /-- `?` and `*` do not stand for a slash. -/
  slashIsSpecial : Bool := false
  /-- A backslash makes the next character an ordinary one. -/
  escapes : Bool := false
  /-- A `[` without its `]` is an ordinary character. -/
  lenientClasses : Bool := false
deriving DecidableEq, Repr

structure Glob where
  options : GlobOptions
  tokens : List GlobToken
deriving Repr

namespace Glob

/-- A group that is being read: its finished branches, last first, and the tokens of the current one,
last first. The whole pattern is a group without braces. -/
structure Level where
  branches : List (List GlobToken) := []
  current : List GlobToken := []

/-- The groups around a place of a pattern, innermost first, and the whole pattern last. -/
structure Reading where
  level : Level := {}
  outer : List Level := []

namespace Reading

def push (reading : Reading) (token : GlobToken) : Reading :=
  { reading with level := { reading.level with current := token :: reading.level.current } }

def openGroup (reading : Reading) : Reading :=
  { level := {}, outer := reading.level :: reading.outer }

/-- Begins the next branch of a group; outside of groups a comma is an ordinary character. -/
def nextBranch (reading : Reading) : Reading :=
  if reading.outer.isEmpty then reading.push (.literal ',')
  else
    { reading with
      level := { branches := reading.level.current.reverse :: reading.level.branches } }

def closeGroup (reading : Reading) : Except GlobFault Reading :=
  match reading.outer with
  | [] => .error .unopenedGroup
  | level :: outer =>
      let branches := (reading.level.current.reverse :: reading.level.branches).reverse
      .ok (Reading.push { level, outer } (.alternatives branches))

/-- Whether two stars can stand for whole components: after a slash or at the start of a branch. -/
def startsComponent (reading : Reading) (before : Option Char) : Bool :=
  before == some '/' || (!reading.outer.isEmpty && (before == some ',' || before == some '\x7b'))

def branchEnds (reading : Reading) : List Char → Bool
  | [] => true
  | c :: _ => !reading.outer.isEmpty && (c == ',' || c == '\x7d')

/-- Replaces the slash before two stars by the token for components; stars after stars add nothing. -/
def replaceSlash (reading : Reading) (token : GlobToken) : Reading :=
  match reading.level.current with
  | .leadingAny :: _ => reading
  | .trailingAny :: _ => reading
  | _ :: rest => { reading with level := { reading.level with current := token :: rest } }
  | [] => reading.push token

def twoStars (reading : Reading) : Reading := (reading.push .star).push .star

/-- Takes two stars, given what stands before and after them; tells whether the slash after them is
taken as well. -/
def doubleStar (reading : Reading) (before : Option Char) (rest : List Char) : Reading × Bool :=
  if reading.level.current.isEmpty then
    if rest.isEmpty || rest.head? == some '/' then (reading.push .leadingAny, true)
    else (reading.twoStars, false)
  else if !reading.startsComponent before then (reading.twoStars, false)
  else if reading.branchEnds rest then (reading.replaceSlash .trailingAny, false)
  else if rest.head? == some '/' then (reading.replaceSlash .middleAny, true)
  else (reading.twoStars, false)

end Reading

/-- The end of a range; it must not lie before its beginning. -/
def extendRange (last : Char) : List (Char × Char) → Except GlobFault (List (Char × Char))
  | [] => .ok [(last, last)]
  | (first, _) :: rest =>
      if last < first then .error (.invalidRange first last) else .ok ((first, last) :: rest)

/-- Reads a class up to its `]`: the ranges read so far, last first, whether one of them waits for its
end, and whether nothing was read yet. The result holds the number of characters read; there is none
if the `]` is missing. -/
def readClass (ranges : List (Char × Char)) (inRange first : Bool) (count : Nat) :
    List Char → Except GlobFault (Option (List (Char × Char) × Nat))
  | [] => .ok none
  | c :: rest =>
      if c = ']' ∧ !first then
        .ok (some ((if inRange then ('-', '-') :: ranges else ranges).reverse, count + 1))
      else if c = '-' ∧ !first ∧ !inRange then readClass ranges true false (count + 1) rest
      else if inRange then
        match extendRange c ranges with
        | .ok ranges => readClass ranges false false (count + 1) rest
        | .error fault => .error fault
      else readClass ((c, c) :: ranges) false false (count + 1) rest

/-- Reads a class after its `[`: the token and the number of characters read. -/
def readClassToken (text : List Char) : Except GlobFault (Option (GlobToken × Nat)) :=
  let negated := text.head? == some '!' || text.head? == some '^'
  let skipped := if negated then 1 else 0
  (readClass [] false true skipped (text.drop skipped)).map fun found =>
    found.map fun (ranges, count) => (.oneOf negated ranges, count)

def readFrom (options : GlobOptions) (before : Option Char) (reading : Reading) :
    List Char → Except GlobFault Reading
  | [] => .ok reading
  | c :: rest =>
      match c with
      | '?' => readFrom options (some c) (reading.push .any) rest
      | '*' =>
          match rest with
          | '*' :: rest =>
              let (reading, takesSlash) := reading.doubleStar before rest
              if takesSlash then readFrom options (some '/') reading (rest.drop 1)
              else readFrom options (some '*') reading rest
          | rest => readFrom options (some c) (reading.push .star) rest
      | '[' =>
          match readClassToken rest with
          | .error fault => .error fault
          | .ok (some (token, count)) =>
              readFrom options (some ']') (reading.push token) (rest.drop count)
          | .ok none =>
              if options.lenientClasses then
                readFrom options (some c) (reading.push (.literal c)) rest
              else .error .unclosedClass
      | '\x7b' => readFrom options (some c) reading.openGroup rest
      | '\x7d' =>
          match reading.closeGroup with
          | .ok reading => readFrom options (some c) reading rest
          | .error fault => .error fault
      | ',' => readFrom options (some c) reading.nextBranch rest
      | '\\' =>
          if options.escapes then
            match rest with
            | [] => .error .danglingEscape
            | escaped :: rest => readFrom options (some escaped) (reading.push (.literal escaped)) rest
          else readFrom options (some c) (reading.push (.literal c)) rest
      | c => readFrom options (some c) (reading.push (.literal c)) rest
termination_by text => text.length
decreasing_by all_goals simp only [List.length_cons, List.length_drop]; omega

def parse (options : GlobOptions) (pattern : String) : Except GlobFault Glob :=
  match readFrom options none {} pattern.toList with
  | .error fault => .error fault
  | .ok reading =>
      if reading.outer.isEmpty then .ok ⟨options, reading.level.current.reverse⟩
      else .error .unclosedGroup

end Glob

end Waymark
