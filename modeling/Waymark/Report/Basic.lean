import Waymark.Report.PathFormat
import Waymark.Anchor.Link
import Waymark.Tag.Completion
import Waymark.Text.Style
import Waymark.Workspace.Epic

set_option autoImplicit false

/-! Reports: listings, epics, tags and single anchors as text for a terminal or as structured
output. -/

namespace Waymark

inductive Format where
  | text
  | json
deriving DecidableEq, Repr

namespace Format

def ofName? : String → Option Format
  | "text" => some text
  | "json" => some json
  | _ => none

end Format

namespace Report

open Text (Style padRight padLeft quoted)

def unlines (lines : List String) : String :=
  String.join (lines.map (· ++ "\n"))

/-- The counts of a document: `3 Anchors` or `3 Anchors, 2 Hidden`. -/
def stats (visible hidden : Nat) : String :=
  let shown := toString visible ++ " Anchors"
  if hidden = 0 then shown else shown ++ ", " ++ toString hidden ++ " Hidden"

def paintTag (anchor : Anchor) : String :=
  let color :=
    match anchor.behavior with
    | .marker => Style.yellow
    | .region => Style.cyan
    | .link => Style.blue
  Style.bold.paint (color.paint anchor.tag)

def epicNote (anchor : Anchor) : String :=
  anchor.attributes.epic.elim "" fun epic =>
    " " ++ Style.dimmed.paint ("(epic " ++ epic ++ " #" ++ toString anchor.attributes.seq ++ ")")

def linkNote (anchor : Anchor) : String :=
  (LinkTarget.ofAnchor anchor).elim "" fun target =>
    " " ++ Style.dimmed.paint "->" ++ " " ++ target.describe

def nodeLine (depth : Nat) (label : String) (anchor : Anchor) : String :=
  String.ofList (List.replicate (2 * depth) ' ') ++ paintTag anchor ++ " " ++ label
    ++ epicNote anchor ++ linkNote anchor

mutual

def nodeLines (depth : Nat) : AnchorNode → List String
  | ⟨label, anchor, children⟩ => nodeLine depth label anchor :: listLines (depth + 1) children

def listLines (depth : Nat) : List AnchorNode → List String
  | [] => []
  | node :: rest => nodeLines depth node ++ listLines depth rest

end

def document (title : Path) (nodes : List AnchorNode) : Format → String
  | .json => (Json.array (AnchorNode.listJson nodes)).document
  | .text =>
      let none := if nodes.isEmpty then ["  " ++ Style.dimmed.paint "No anchors found"] else []
      unlines (Style.bold.paint title.text :: none ++ listLines 1 nodes)

def viewTitle (root : Path) (pathFormat : PathFormat) (view : DocumentView) : String :=
  let title := Style.bold.paint (pathFormat.display view.document root)
  if pathFormat = .hidden then title
  else title ++ " " ++ Style.dimmed.paint ("(" ++ stats view.visible view.hidden ++ ")")

def workspace (views : List DocumentView) (root : Path) (pathFormat : PathFormat) :
    Format → String
  | .json => (Json.array (views.map DocumentView.toJson)).document
  | .text =>
      let none :=
        if views.isEmpty then [Style.dimmed.paint "No workspace anchors found"] else []
      unlines (none ++ views.flatMap fun view =>
        viewTitle root pathFormat view :: listLines 1 view.anchors)

def location (anchor : Anchor) (root : Path) : String :=
  PathFormat.full.display anchor.document root ++ ":" ++ toString anchor.line

def epicLine (root : Path) (anchor : Anchor) : String :=
  "  " ++ Style.dimmed.paint (padLeft 3 (toString anchor.attributes.seq) ++ ".") ++ " "
    ++ paintTag anchor ++ " " ++ anchor.text ++ " " ++ Style.dimmed.paint (location anchor root)

def epics (epics : Epics) (root : Path) : Format → String
  | .json =>
      (Json.array (epics.entries.map fun (epic, anchors) =>
        .object [("epic", .string epic), ("anchors", .array (anchors.map Anchor.toJson))])).document
  | .text =>
      let none := if epics.isEmpty then [Style.dimmed.paint "No epics found"] else []
      unlines (none ++ epics.entries.flatMap fun (epic, anchors) =>
        (Style.bold.paint "Epic" ++ " " ++ Style.bold.paint (Style.magenta.paint epic))
          :: anchors.map (epicLine root))

def tagLine (endTag : String) (tag : Tag) : String :=
  let name := if tag.isRegion then tag.name ++ " / " ++ endTag ++ tag.name else tag.name
  Style.bold.paint (padRight 24 name) ++ " " ++ padRight 8 tag.behavior.name ++ " "
    ++ Style.dimmed.paint tag.scope.name

def tags (registry : Registry) (endTag : String) : Format → String
  | .json => (Json.array (registry.list.map Tag.toJson)).document
  | .text => unlines (registry.list.map (tagLine endTag))

def epicCompletions (items : List EpicCompletion) : Format → String
  | .json => (Json.array (items.map EpicCompletion.toJson)).document
  | .text => unlines (items.map EpicCompletion.text)

def tagCompletions (items : List TagCompletion) : Format → String
  | .json => (Json.array (items.map TagCompletion.toJson)).document
  | .text => unlines (items.map fun item => padRight 24 item.label ++ " " ++ quoted item.insertion)

def folds (ranges : List (Nat × Nat)) : Format → String
  | .json =>
      (Json.array (ranges.map fun (first, last) =>
        .object [("start_line", .nat first), ("end_line", .nat last)])).document
  | .text => unlines (ranges.map fun (first, last) => toString first ++ "-" ++ toString last)

def found (anchor : Anchor) (root : Path) : Format → String
  | .json => anchor.toJson.document
  | .text => unlines [location anchor root ++ " " ++ paintTag anchor ++ " " ++ anchor.text]

end Report

end Waymark
