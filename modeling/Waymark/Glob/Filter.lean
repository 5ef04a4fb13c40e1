import Waymark.Glob.Expression

set_option autoImplicit false

/-! Filters of paths below a root, by patterns that include and patterns that exclude. A backslash in
a pattern or a path is read as a slash. -/

namespace Waymark

inductive PatternError where
  | unreadable (pattern : String) (fault : GlobFault)
  | compile (error : CompileError)
deriving DecidableEq, Repr

namespace PatternError

def messages : PatternError → List String
  | unreadable pattern fault =>
      ["Invalid glob pattern " ++ Text.quoted pattern,
       "error parsing glob '" ++ Text.replaceChar '\\' '/' pattern ++ "': " ++ fault.message]
  | compile error => [error.message]

end PatternError

structure PathFilter where
  root : Path
  included : List Glob
  excluded : List Glob

namespace PathFilter

def readPattern (pattern : String) : Except PatternError Glob :=
  match Glob.parse {} (Text.replaceChar '\\' '/' pattern) with
  | .ok glob => .ok glob
  | .error fault => .error (.unreadable pattern fault)

def readPatterns (patterns : List String) : Except PatternError (List Glob) :=
  match patterns.mapM readPattern with
  | .error error => .error error
  | .ok globs =>
      match CompileError.find? globs with
      | some error => .error (.compile error)
      | none => .ok globs

def build (root : Path) (included excluded : List String) : Except PatternError PathFilter :=
  match readPatterns included with
  | .error error => .error error
  | .ok included => (readPatterns excluded).map fun excluded => { root, included, excluded }

/-- Whether a path below the root passes: no exclusion matches it, and an inclusion does unless there
are none. -/
def accepts (filter : PathFilter) (path : Path) : Bool :=
  match path.relativeTo? filter.root with
  | none => false
  | some relative =>
      let text := Text.replaceChar '\\' '/' relative.text
      !filter.excluded.any (·.isMatch text)
        && (filter.included.isEmpty || filter.included.any (·.isMatch text))

end PathFilter

def Glob.hasWildcard (text : String) : Bool :=
  text.toList.any fun c => c == '*' || c == '?' || c == '[' || c == '\x7b'

/-- The directory to watch for a pattern: its components before the first with a wildcard, or the
current directory. -/
def Glob.watchDirectory (pattern : String) : Path :=
  let leading := (Path.components ⟨pattern⟩).takeWhile fun component =>
    !hasWildcard component.text
  if leading.isEmpty then ⟨"."⟩ else Path.ofComponents leading

end Waymark
