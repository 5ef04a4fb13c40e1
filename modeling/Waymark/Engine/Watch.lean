import Waymark.Config.Basic
import Waymark.Disk.Basic

set_option autoImplicit false

/-! What is watched on the disk for a project, and what a batch of changed paths means for it. -/

namespace Waymark

inductive WatchEvent where
  | files (paths : List Path)
  | reconfigure
deriving DecidableEq, Repr

namespace WatchEvent

/-- The event of a batch of changed paths: one of the triggers among them turns the whole batch into
a change of the settings, and an empty batch means nothing. -/
def ofPaths? (paths triggers : List Path) : Option WatchEvent :=
  if paths.isEmpty then none
  else if paths.any fun path => triggers.any path.same then some .reconfigure
  else some (.files paths)

end WatchEvent

structure Watcher where
  root : Path
  directories : List Path := []

namespace Watcher

/-- The directory to watch for one pattern: the directory that the fixed part of the pattern leads
to, or the one around the file that it leads to. -/
def directoryOf? (disk : Disk) (root : Path) (pattern : String) : Option Path :=
  match disk.canonicalize (root.join (Glob.watchDirectory pattern)) with
  | .error _ => none
  | .ok path => if disk.isDirectory path then some path else path.parent?

/-- The directories to watch for the settings of a project, in path order and each once. -/
def directoriesFor (disk : Disk) (root : Path) (config : Config) : List Path :=
  (SortedMap.ofList
    ((config.workspace.matchFiles.filterMap (directoryOf? disk root)).map (·, ()))).keys

def reconfigure (watcher : Watcher) (disk : Disk) (config : Config) : Watcher :=
  { watcher with directories := directoriesFor disk watcher.root config }

end Watcher

end Waymark
