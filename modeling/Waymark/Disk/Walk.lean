import Waymark.Disk.IgnoreRule
import Waymark.Glob.Filter

set_option autoImplicit false

/-! Which documents belong to a workspace: the files below its root that no ignore file excludes and
that a filter accepts. Links are followed, but not to a directory that is being walked. -/

namespace Waymark

inductive WalkError where
  | notDirectory (root : Path)
  | pattern (error : PatternError)
deriving DecidableEq, Repr

namespace WalkError

def messages : WalkError → List String
  | notDirectory root => ["Workspace root " ++ root.text ++ " is not a directory"]
  | pattern error => error.messages

end WalkError

mutual

def Entry.count : Entry → Nat
  | .file _ => 1
  | .link _ => 1
  | .directory entries => 1 + Entry.countAll entries

def Entry.countAll : List (String × Entry) → Nat
  | [] => 0
  | (_, entry) :: rest => entry.count + Entry.countAll rest

end

namespace Disk

structure Walking where
  path : Path
  /-- The names of the directory itself, and before them those of the directories around it. -/
  here : List String
  around : List (List String)
  names : List String
  levels : List IgnoreLevel

/-- What a name of a directory leads to: the names of the place and the entry. A link to nothing or
to a directory that is being walked leads nowhere. -/
def target? (disk : Disk) (walking : Walking) (name : String) (entry : Entry) :
    Option (List String × Entry) :=
  match entry with
  | .link _ =>
      match disk.follow maxLinks walking.here [name] with
      | .error _ => none
      | .ok names =>
          if (walking.here :: walking.around).contains names then none
          else (disk.root.find? names).map (names, ·)
  | entry => some (walking.here ++ [name], entry)

/-- The files below a directory. The number of steps bounds the depth of the walk. -/
def files (disk : Disk) : Nat → Walking → List Path
  | 0, _ => []
  | steps + 1, walking =>
      match disk.root.find? walking.here with
      | some (.directory entries) =>
          entries.flatMap fun (name, entry) =>
            match disk.target? walking name entry with
            | none => []
            | some (here, entry) =>
                let path := walking.path.join ⟨name⟩
                let names := walking.names ++ [name]
                if IgnoreLevel.ignores walking.levels names entry.isDirectory then []
                else
                  match entry with
                  | .directory _ =>
                      disk.files steps
                        { path, here, names
                          around := walking.here :: walking.around
                          levels := .ofDirectory disk path names.length :: walking.levels }
                  | .file _ => [path]
                  | .link _ => []
      | _ => []

/-- The levels of the directories around one, innermost first. -/
def outerLevels (disk : Disk) (names : List String) : List IgnoreLevel :=
  (List.range names.length).reverse.map fun depth =>
    .ofDirectory disk (pathOf (names.take depth)) depth

/-- The documents of a workspace in path order. Following a link leads to a directory that is not
being walked, and below a directory the depth is bounded, so the number of entries bounds both. -/
def documents (disk : Disk) (root : Path) (included excluded : List String) :
    Except WalkError (List Path) :=
  match disk.resolve root, disk.isDirectory root with
  | .ok names, true =>
      match PathFilter.build root included excluded with
      | .error error => .error (.pattern error)
      | .ok filter =>
          let levels := .ofDirectory disk root names.length :: disk.outerLevels names
          let size := disk.root.count
          let found := disk.files (size * size)
            { path := root, here := names, around := [], names, levels }
          .ok ((found.filter filter.accepts).mergeSort fun a b => (compare a b).isLE)
  | _, _ => .error (.notDirectory root)

end Disk

end Waymark
