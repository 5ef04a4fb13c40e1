import Waymark.Config.Reader
import Waymark.Disk.Basic

set_option autoImplicit false

/-! Loading the settings of a project from its disk. A project without a file of settings has the
defaults. -/

namespace Waymark

inductive LoadError where
  | unreadable (path : Path) (error : DiskError)
  | invalid (path : Path) (error : ConfigError)
deriving DecidableEq, Repr

namespace LoadError

def messages : LoadError → List String
  | unreadable path error => ["Config file " ++ path.text ++ " not readable", error.message]
  | invalid path error => ("Config file " ++ path.text ++ " has errors") :: error.messages

def message (error : LoadError) : String := String.intercalate ": " error.messages

end LoadError

namespace Config

def load (disk : Disk) (path : Path) : Except LoadError Config :=
  match disk.readText path with
  | .error .notFound => .ok {}
  | .error error => .error (.unreadable path error)
  | .ok text =>
      match parse text with
      | .error error => .error (.invalid path error)
      | .ok config => .ok config

end Config

end Waymark
