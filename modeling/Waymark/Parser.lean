import Waymark.Mark.Basic
import Waymark.Anchor.Forest
import Waymark.Text.Lines

set_option autoImplicit false

/-! From a text to its forest of anchors, in one pass over the marks. Open regions are kept as a
stack; an anchor becomes a child of the innermost open region, but never deeper than the nesting
limit. An end marker closes the innermost open region if that has its tag, and else does nothing. -/

namespace Waymark

structure Parser where
  registry : Registry
  grammar : Grammar
  /-- The text of an anchor begins with the tag, except for links. -/
  showTagName : Bool

structure Parsed where
  forest : Forest := {}
  /-- Whether there was any mark, end markers included. -/
  anchorsFound : Bool := false

namespace Parser

def build (registry : Registry) (separators : List String) (endTag : String)
    (matchCase showTagName : Bool) : Except GrammarError Parser :=
  (Grammar.build registry separators endTag matchCase).map fun grammar =>
    { registry, grammar, showTagName }

/-- How many regions deep an anchor can be listed. -/
def maxRegionDepth : Nat := 64

/-- The ends of comments in other languages, with the characters that a highlight leaves out. -/
def closers : List (List Char × List Char) :=
  [(['-', '-', '>'], [' ', '-', '>']), (['*', '/'], [' ', '*', '/'])]

/-- A comment without a comment closer at its end, and what the highlight leaves out if there was
one. -/
def stripCloser (comment : List Char) : List Char × Option (List Char) :=
  match closers.findSome? fun (closer, skipped) =>
      (Text.dropClosing closer comment).map fun rest => (Text.trim rest, some skipped) with
  | some stripped => stripped
  | none => (comment, none)

/-- How much of a mark is highlighted when comments are: all up to the last character that is neither
blank nor part of a comment closer. -/
def highlighted (mark : Mark) (skipped : Option (List Char)) : List Char :=
  let shown := Text.trimEnd mark.written
  skipped.elim shown fun skipped => Text.dropEndWhile skipped.contains shown

/-- The text of an anchor: the tag name alone, with the comment, or the comment alone. -/
def anchorText (parser : Parser) (tag : Tag) (comment : String) : String :=
  if comment.isEmpty then tag.name
  else if parser.showTagName && tag.behavior != .link then tag.name ++ ": " ++ comment
  else comment

/-- The attributes of a mark: those in its brackets over its line as `seq`. Only a tag of the
workspace has an epic. -/
def attributesOf (tag : Tag) (mark : Mark) (line : Nat) : Attributes :=
  let attributes := Attributes.parse? (mark.bracket.map String.ofList) { seq := Int.ofNat line }
  if tag.isWorkspaceVisible then attributes else { attributes with epic := none }

def anchorOf (parser : Parser) (document : Path) (lines : Text.LineIndex) (tag : Tag) (hit : Hit) :
    Anchor :=
  let line := lines.lineOf hit.start
  let (comment, skipped) := stripCloser (Text.trim hit.mark.comment)
  let shown := if tag.styleComment then Text.byteLength (highlighted hit.mark skipped) else 0
  { tag := tag.name
    text := parser.anchorText tag (String.ofList comment)
    comment := String.ofList comment
    start := hit.start
    stop := max (hit.start + shown) hit.tokenStop
    line
    behavior := tag.behavior
    scope := tag.scope
    showLine := tag.displayLineNumber
    document
    attributes := attributesOf tag hit.mark line
    kind := if tag.isRegion then .region none else .plain }

/-- What a pass over the marks has built so far: the forest and the open regions, innermost first. -/
structure Progress where
  forest : Forest := {}
  openRegions : List Nat := []

/-- The anchor below which a new one is placed: the innermost open region within the limit. -/
def parentOf (openRegions : List Nat) : Option Nat :=
  (openRegions.drop (openRegions.length - maxRegionDepth)).head?

/-- Closes the innermost open region if it has the tag of the end marker. -/
def closeRegion (lines : Text.LineIndex) (tag : Tag) (hit : Hit) (progress : Progress) : Progress :=
  match progress.openRegions with
  | [] => progress
  | innermost :: outer =>
      if (progress.forest.get? innermost).any (·.tag == tag.name) then
        let close : RegionClose := ⟨hit.start, hit.tokenStop, lines.lineOf hit.start⟩
        { forest := progress.forest.modify innermost (·.setClose close), openRegions := outer }
      else progress

def addAnchor (parser : Parser) (document : Path) (lines : Text.LineIndex) (tag : Tag) (hit : Hit)
    (progress : Progress) : Progress :=
  let anchor := parser.anchorOf document lines tag hit
  let (forest, id) := progress.forest.push anchor (parentOf progress.openRegions)
  { forest
    openRegions := if tag.isRegion then id :: progress.openRegions else progress.openRegions }

/-- Takes one mark into account. A token that names no tag is passed over. -/
def step (parser : Parser) (document : Path) (lines : Text.LineIndex) (progress : Progress)
    (hit : Hit) : Progress :=
  let (name, isEnd) :=
    parser.grammar.splitEnd parser.registry.hasRegion (String.ofList hit.mark.token)
  match parser.registry.find? name with
  | none => progress
  | some tag =>
      if isEnd then closeRegion lines tag hit progress
      else parser.addAnchor document lines tag hit progress

def parse (parser : Parser) (document : Path) (text : String) : Parsed :=
  let lines := Text.LineIndex.ofText text.toList
  let hits := parser.grammar.hits text
  { forest := (hits.foldl (parser.step document lines) {}).forest
    anchorsFound := !hits.isEmpty }

end Parser

end Waymark
