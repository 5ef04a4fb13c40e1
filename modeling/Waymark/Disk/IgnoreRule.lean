import Waymark.Disk.Basic
import Waymark.Glob.Expression

set_option autoImplicit false

/-! Ignore files: one pattern a line. The last pattern that matches a path decides; a pattern after `!`
takes the path back in. -/

namespace Waymark

structure IgnoreRule where
  glob : Glob
  /-- What matches is not ignored. -/
  takesBack : Bool
  onlyDirectories : Bool

inductive Verdict where
  | ignored
  | takenBack
deriving DecidableEq, Repr

namespace IgnoreRule

def globOptions : GlobOptions :=
  { slashIsSpecial := true, escapes := true, lenientClasses := true }

/-- A line without the marks before its pattern: whether it takes back, whether it holds only at the
top, and the pattern. -/
def splitMarks (line : List Char) : Bool × Bool × List Char :=
  match line with
  | '\\' :: '!' :: rest => (false, false, '!' :: rest)
  | '\\' :: '#' :: rest => (false, false, '#' :: rest)
  | line =>
      let (takesBack, line) :=
        match line with
        | '!' :: rest => (true, rest)
        | line => (false, line)
      match line with
      | '/' :: rest => (takesBack, true, rest)
      | line => (takesBack, false, line)

def splitSlash (pattern : List Char) : Bool × List Char :=
  match pattern.reverse with
  | '/' :: '\\' :: rest => (true, rest.reverse)
  | '/' :: rest => (true, rest.reverse)
  | _ => (false, pattern)

/-- The pattern for whole paths: without a slash inside it can match at any depth, and two stars at
its end match only what is inside of a directory. -/
def wholePattern (anchored : Bool) (pattern : List Char) : List Char :=
  let stars := ['*', '*']
  let anyDepth := stars ++ ['/']
  let pattern :=
    if anchored || pattern.contains '/' || pattern == stars then pattern else anyDepth ++ pattern
  if (Text.dropClosing ('/' :: stars) pattern).isSome then pattern ++ ['/', '*'] else pattern

/-- Reads a line; comments, empty lines and lines that are no pattern give no rule. -/
def ofLine (line : List Char) : Option IgnoreRule :=
  if line.head? == some '#' then none
  else
    let line :=
      if (Text.dropClosing ['\\', ' '] line).isSome then line else Text.trimEnd line
    if line.isEmpty then none
    else
      let (takesBack, anchored, pattern) := splitMarks line
      let (onlyDirectories, pattern) := splitSlash pattern
      match Glob.parse globOptions (String.ofList (wholePattern anchored pattern)) with
      | .ok glob => some { glob, takesBack, onlyDirectories }
      | .error _ => none

def isTooDeep (rule : IgnoreRule) : Bool :=
  (CompileError.find? [rule.glob]).isSome

def linesOf (content : List UInt8) : List (List UInt8) :=
  let lines := Text.fields 10 content
  let ended := lines.dropLast.map fun line =>
    if line.getLast? = some 13 then line.dropLast else line
  ended ++ lines.getLast?.toList

/-- The lines of a file up to the first that is no text. -/
def textLines (content : List UInt8) : List (List Char) :=
  let texts := (linesOf content).map fun line => String.fromUTF8? ⟨line.toArray⟩
  (texts.takeWhile Option.isSome).filterMap fun text => text.map String.toList

/-- Lines without the marks of the byte order at the beginning of the first. -/
def withoutMarks : List (List Char) → List (List Char)
  | [] => []
  | first :: rest => first.dropWhile (· == '\ufeff') :: rest

/-- The rules of a file. If one of them cannot be compared with paths, none holds. -/
def ofContent (content : List UInt8) : List IgnoreRule :=
  let rules := (withoutMarks (textLines content)).filterMap ofLine
  if rules.any isTooDeep then [] else rules

def isMatch (rule : IgnoreRule) (path : String) (isDirectory : Bool) : Bool :=
  (!rule.onlyDirectories || isDirectory) && rule.glob.isMatch path

/-- What rules say about a path: the last that matches decides. -/
def verdict (rules : List IgnoreRule) (path : String) (isDirectory : Bool) : Option Verdict :=
  (rules.reverse.find? (·.isMatch path isDirectory)).map fun rule =>
    if rule.takesBack then .takenBack else .ignored

end IgnoreRule

/-- The rules that a directory brings, by kind of file, and whether it is the top of a repository. -/
structure IgnoreLevel where
  depth : Nat
  plain : List IgnoreRule
  repository : List IgnoreRule
  repositoryExclude : List IgnoreRule
  isRepository : Bool

namespace IgnoreLevel

def rulesAt (disk : Disk) (path : Path) : List IgnoreRule :=
  match disk.read path with
  | .ok content => IgnoreRule.ofContent content.toList
  | .error _ => []

def firstLine? (disk : Disk) (path : Path) : Option (List Char) :=
  match disk.read path with
  | .ok content =>
      if content.isEmpty then none else (IgnoreRule.textLines content.toList).head?
  | .error _ => none

/-- The directory that holds what a repository does not share. If `.git` is a file, that names a
directory, whose file `commondir` names the one that is meant. -/
def privateDirectory? (disk : Disk) (directory : Path) : Option Path :=
  let marker := directory.join ⟨".git"⟩
  match disk.reach marker with
  | .ok (.file _) => do
      let line ← firstLine? disk marker
      let named ← Text.dropLead "gitdir: ".toList line
      let named : Path := ⟨String.ofList named⟩
      let line ← firstLine? disk (named.join ⟨"commondir"⟩)
      let common : Path := ⟨String.ofList line⟩
      some (if line.head? = some '.' then named.join common else common)
  | _ => some marker

def ofDirectory (disk : Disk) (directory : Path) (depth : Nat) : IgnoreLevel :=
  { depth
    plain := rulesAt disk (directory.join ⟨".ignore"⟩)
    repository := rulesAt disk (directory.join ⟨".gitignore"⟩)
    repositoryExclude :=
      (privateDirectory? disk directory).elim [] fun place =>
        rulesAt disk (place.join ⟨"info/exclude"⟩)
    isRepository :=
      disk.exists? (directory.join ⟨".git"⟩) || disk.exists? (directory.join ⟨".jj"⟩) }

def upToRepository : List IgnoreLevel → List IgnoreLevel
  | [] => []
  | level :: outer => if level.isRepository then [level] else level :: upToRepository outer

def firstVerdict (kind : IgnoreLevel → List IgnoreRule) (levels : List IgnoreLevel)
    (names : List String) (isDirectory : Bool) : Option Verdict :=
  levels.findSome? fun level =>
    IgnoreRule.verdict (kind level) (String.intercalate "/" (names.drop level.depth)) isDirectory

/-- Whether the levels around a directory, innermost first, ignore an entry that is reached by the
given names. Plain rules come before those of a repository, and these hold only inside of one. -/
def ignores (levels : List IgnoreLevel) (names : List String) (isDirectory : Bool) : Bool :=
  let inner := if levels.any (·.isRepository) then upToRepository levels else []
  let verdict :=
    (firstVerdict plain levels names isDirectory).or
      ((firstVerdict repository inner names isDirectory).or
        (firstVerdict repositoryExclude inner names isDirectory))
  verdict == some .ignored

end IgnoreLevel

end Waymark
