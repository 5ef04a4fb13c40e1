import Waymark.Anchor.Listing
import Waymark.Glob.Filter
import Waymark.Parser
import Waymark.Report.PathFormat

set_option autoImplicit false

/-! Settings of a project: its tags, which documents belong to the workspace, and how both are
shown. Every setting has a default. -/

namespace Waymark

structure TagSettings where
  list : List TagOverride := []
  separators : List String := [" ", ": ", " - "]
  endTag : String := "!"
  matchCase : Bool := false
  showTagName : Bool := true
  displayLineNumber : Bool := true
  displayHierarchyInWorkspace : Bool := true
  sortMethod : SortMethod := .line
deriving DecidableEq, Repr

structure WorkspaceSettings where
  enabled : Bool := true
  /-- The workspace is scanned only when asked for. -/
  lazyLoad : Bool := false
  maxFiles : Nat := 50
  matchFiles : List String := ["**/*"]
  excludeFiles : List String := ["**/node_modules/**", "**/target/**", "**/.git/**"]
  pathFormat : PathFormat := .full
deriving DecidableEq, Repr

structure Config where
  tags : TagSettings := {}
  workspace : WorkspaceSettings := {}
  /-- What is added to the greatest `seq` of an epic to continue it. -/
  seqStep : Int := 1
  /-- How long to wait before a changed document is read again, in milliseconds. -/
  parseDelay : Nat := 500
deriving DecidableEq, Repr

namespace Config

def relativePath : Path := ⟨".config/anchors/config.yaml"⟩

def defaultPath (root : Path) : Path := root.join relativePath

def registry (config : Config) : Registry :=
  (Registry.defaults.setDisplayLineNumber config.tags.displayLineNumber).merge config.tags.list

def parser (config : Config) : Except GrammarError Parser :=
  Parser.build config.registry config.tags.separators config.tags.endTag config.tags.matchCase
    config.tags.showTagName

def filter (config : Config) (root : Path) : Except PatternError PathFilter :=
  PathFilter.build root config.workspace.matchFiles config.workspace.excludeFiles

def toJson (config : Config) : Json :=
  .object
    [("tags", .object
        [("list", .array (config.tags.list.map TagOverride.toJson)),
         ("separators", .strings config.tags.separators),
         ("end_tag", .string config.tags.endTag),
         ("match_case", .bool config.tags.matchCase),
         ("show_tag_name", .bool config.tags.showTagName),
         ("display_line_number", .bool config.tags.displayLineNumber),
         ("display_hierarchy_in_workspace", .bool config.tags.displayHierarchyInWorkspace),
         ("sort_method", .string config.tags.sortMethod.name)]),
     ("workspace", .object
        [("enabled", .bool config.workspace.enabled),
         ("lazy_load", .bool config.workspace.lazyLoad),
         ("max_files", .nat config.workspace.maxFiles),
         ("match_files", .strings config.workspace.matchFiles),
         ("exclude_files", .strings config.workspace.excludeFiles),
         ("path_format", .string config.workspace.pathFormat.name)]),
     ("epic", .object [("seq_step", .number config.seqStep)]),
     ("parse_delay_ms", .nat config.parseDelay)]

end Config

end Waymark
