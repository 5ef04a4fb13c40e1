import Waymark.Proofs.Anchor.AttributeLists
import Waymark.Proofs.Anchor.Link
import Waymark.Proofs.Anchor.Outline
import Waymark.Proofs.Mark.Opening
import Waymark.Proofs.Parser.CommentHighlight
import Waymark.Proofs.Parser.Folds
import Waymark.Proofs.Parser.Lookup
import Waymark.Proofs.Parser.Origin
import Waymark.Proofs.Parser.Sorting
import Waymark.Report.Basic

set_option autoImplicit false

/-! The listing of a document as a text. No part of an anchor that was read from a text holds a line
feed, unless its tag does, so each node of the listing has one line, indented by its depth, and
nothing that stands in the document begins a line of its own. -/

namespace Waymark

/-! ### Texts without a line feed -/

namespace Text

def OneLine (text : String) : Prop := '\n' ∉ text.toList

instance (text : String) : Decidable (OneLine text) :=
  inferInstanceAs (Decidable ('\n' ∉ text.toList))

theorem oneLine_ofList_iff {text : List Char} : OneLine (String.ofList text) ↔ '\n' ∉ text := by
  rw [OneLine, String.toList_ofList]

theorem OneLine.append {first second : String} (firstLine : OneLine first)
    (secondLine : OneLine second) : OneLine (first ++ second) := by
  unfold OneLine
  rw [String.toList_append, List.mem_append]
  exact not_or.mpr ⟨firstLine, secondLine⟩

theorem Unbroken.not_mem {text : List Char} (unbroken : Unbroken text) : '\n' ∉ text := by
  intro member
  cases unbroken '\n' member

theorem oneLine_toString_int (number : Int) : OneLine (toString number) := by
  intro member
  rcases mem_toString member with minus | digit
  · cases minus
  · cases digit

theorem oneLine_toString_nat (number : Nat) : OneLine (toString number) :=
  oneLine_toString_int number

/-- A painted text begins with a control character. -/
theorem Style.exists_cons_paint (style : Style) (text : String) :
    ∃ rest, (style.paint text).toList = '\x1b' :: rest := by
  unfold paint sequence
  simp only [String.toList_append, List.append_assoc]
  exact ⟨_, rfl⟩

theorem Style.oneLine_paint (style : Style) {text : String} (oneLine : OneLine text) :
    OneLine (style.paint text) := by
  have on : OneLine (sequence style.onCode) := by cases style <;> decide
  have off : OneLine (sequence style.offCode) := by cases style <;> decide
  exact (on.append oneLine).append off

end Text

open Text (OneLine Style)

/-! ### The parts of an anchor -/

structure Anchor.IsOneLine (anchor : Anchor) : Prop where
  tag : OneLine anchor.tag
  text : OneLine anchor.text
  comment : OneLine anchor.comment
  epic : ∀ epic, anchor.attributes.epic = some epic → OneLine epic

theorem LinkTarget.oneLine_readPosition {rest : List Char} (oneLine : '\n' ∉ rest) {id : String}
    (read : readPosition rest = some (.anchor id)) : OneLine id := by
  unfold readPosition at read
  split at read
  · obtain ⟨_, _, other⟩ := Option.map_eq_some_iff.mp read
    cases other
  · cases read
    exact Text.oneLine_ofList_iff.mpr fun member => oneLine (List.mem_cons_of_mem _ member)
  · cases read

theorem LinkTarget.oneLine_describe {text : String} {target : LinkTarget}
    (read : parse text = some target) : OneLine target.describe := by
  obtain ⟨oneLine, rest, divides, position⟩ := (parse_eq_some_iff text target).mp read
  rw [divides.whole, List.mem_append, not_or] at oneLine
  have path : OneLine target.path.text := oneLine.1
  unfold describe
  split
  · exact path
  · exact (path.append (by decide)).append (Text.oneLine_toString_nat _)
  · rename_i id atId
    exact (path.append (by decide)).append (oneLine_readPosition oneLine.2 (position ▸ atId))

theorem Attributes.oneLine_epic {raw : String} (oneLine : OneLine raw) {defaults : Attributes}
    (missing : defaults.epic = none) {epic : String} (read : (parse raw defaults).epic = some epic) :
    OneLine epic := by
  rw [epic_parse, missing] at read
  cases last : ((valuesOf "epic" raw).map nonEmpty).getLast? with
  | none =>
      rw [last] at read
      cases read
  | some written =>
      rw [last, Option.getD_some] at read
      obtain ⟨value, listed, rfl⟩ := List.mem_map.mp (List.mem_of_getLast? last)
      unfold nonEmpty at read
      split at read
      · cases read
      · cases read
        rw [Text.oneLine_ofList_iff]
        intro member
        exact oneLine (mem_of_mem_valuesOf listed member (by decide))

namespace Parser

variable {parser : Parser} {document : Path} {lines : Text.LineIndex} {text : String}

theorem oneLine_anchorText {tag : Tag} (name : OneLine tag.name) {comment : String}
    (oneLine : OneLine comment) : OneLine (parser.anchorText tag comment) := by
  unfold anchorText
  split
  · exact name
  · split
    · exact (name.append (by decide)).append oneLine
    · exact oneLine

theorem oneLine_epic_attributesOf {tag : Tag} {mark : Mark} {line : Nat}
    (oneLine : ∀ inner, mark.bracket = some inner → '\n' ∉ inner) {epic : String}
    (read : (attributesOf tag mark line).epic = some epic) : OneLine epic := by
  unfold attributesOf at read
  dsimp only at read
  split at read
  · cases opened : mark.bracket with
    | none =>
        rw [opened] at read
        cases read
    | some inner =>
        rw [opened] at read
        exact Attributes.oneLine_epic (Text.oneLine_ofList_iff.mpr (oneLine inner opened)) rfl read
  · cases read

/-- What a mark gives to an anchor stands on one line of the text, but for the name of the tag. -/
theorem IsAnchorOf.isOneLine {anchor : Anchor} {tag : Tag} {hit : Hit}
    (made : parser.IsAnchorOf document lines anchor tag hit) (name : OneLine tag.name)
    (member : hit ∈ parser.grammar.hits text) : anchor.IsOneLine := by
  obtain ⟨bracket, comment⟩ := Grammar.unbroken_of_mem_hits member
  have shown : OneLine (String.ofList (stripCloser (Text.trim hit.mark.comment)).1) := by
    rw [Text.oneLine_ofList_iff]
    intro inside
    have inTrimmed := (stripCloser_sublist _).subset inside
    exact comment.not_mem ((Text.trim_sublist _).subset inTrimmed)
  rw [made.2]
  refine ⟨name, oneLine_anchorText name shown, shown, ?_⟩
  intro epic read
  exact oneLine_epic_attributesOf (fun inner opened => (bracket inner opened).not_mem) read

theorem mem_list_of_roleOf {hit : Hit} {tag : Tag} (role : parser.roleOf hit = .anchor tag) :
    tag ∈ parser.registry.list := by
  unfold roleOf at role
  dsimp only at role
  split at role
  · cases role
  · rename_i found
    split at role
    · cases role
    · cases role
      obtain ⟨stored, known, _⟩ := SortedMap.exists_of_find? found
      exact List.mem_map.mpr ⟨_, known, rfl⟩

theorem isOneLine_of_get? (names : ∀ tag, tag ∈ parser.registry.list → OneLine tag.name) {id : Nat}
    {anchor : Anchor} (found : (parser.parse document text).forest.get? id = some anchor) :
    anchor.IsOneLine := by
  obtain ⟨tag, hit, member, made⟩ := parser.exists_mark_parse document found
  exact made.isOneLine (names tag (mem_list_of_roleOf made.1)) member

end Parser

/-! ### The lines of a listing -/

theorem Anchor.IsOneLine.label {anchor : Anchor} (isOneLine : anchor.IsOneLine) :
    OneLine anchor.label := by
  have begun : OneLine ("[" ++ toString anchor.line) :=
    OneLine.append (by decide) (Text.oneLine_toString_nat anchor.line)
  unfold Anchor.label labelWith
  split
  · dsimp only
    split
    · exact (begun.append (by decide)).append isOneLine.text
    · exact (begun.append (by decide)).append isOneLine.text
    · rename_i close _
      have range := (begun.append (by decide : OneLine " - ")).append
        (Text.oneLine_toString_nat close.line)
      exact (range.append (by decide)).append isOneLine.text
  · exact isOneLine.text

namespace Report

open AnchorNode (outlineEach)

theorem oneLine_nodeLine (depth : Nat) {label : String} (labelLine : OneLine label) {anchor : Anchor}
    (isOneLine : anchor.IsOneLine) : OneLine (nodeLine depth label anchor) := by
  have indent : OneLine (String.ofList (List.replicate (2 * depth) ' ')) := by
    rw [Text.oneLine_ofList_iff]
    intro member
    cases List.eq_of_mem_replicate member
  have tag : OneLine (paintTag anchor) :=
    Style.oneLine_paint .bold (Style.oneLine_paint _ isOneLine.tag)
  have empty : OneLine "" := by decide
  have epic : OneLine (epicNote anchor) := by
    unfold epicNote
    cases read : anchor.attributes.epic with
    | none => exact empty
    | some epic =>
        have begun : OneLine ("(epic " ++ epic ++ " #") :=
          (OneLine.append (by decide) (isOneLine.epic epic read)).append (by decide)
        have inside := (begun.append (Text.oneLine_toString_int anchor.attributes.seq)).append
          (by decide : OneLine ")")
        exact OneLine.append (by decide : OneLine " ") (Style.oneLine_paint .dimmed inside)
  have link : OneLine (linkNote anchor) := by
    unfold linkNote
    cases read : LinkTarget.ofAnchor anchor with
    | none => exact empty
    | some target =>
        unfold LinkTarget.ofAnchor at read
        split at read
        · have arrow : OneLine (" " ++ Style.dimmed.paint "->" ++ " ") := by decide
          exact arrow.append (LinkTarget.oneLine_describe read)
        · cases read
  exact ((((indent.append tag).append (by decide)).append labelLine).append epic).append link

def entryLine (entry : Nat × AnchorNode) : String :=
  nodeLine (entry.1 + 1) entry.2.label entry.2.anchor

theorem listLines_eq_map (depth : Nat) (nodes : List AnchorNode) :
    listLines (depth + 1) nodes = (outlineEach depth nodes).map entryLine := by
  induction nodes using AnchorNode.induction_on_levels generalizing depth with
  | nil => rfl
  | cons label anchor children rest below after =>
      rw [AnchorNode.outlineEach_cons, List.map_cons, List.map_append, ← below, ← after]
      rfl

theorem splitOn_unlines {lines : List String} (oneLine : ∀ line, line ∈ lines → OneLine line) :
    (unlines lines).toList.splitOn '\n' = lines.map String.toList ++ [[]] := by
  induction lines with
  | nil => rfl
  | cons first rest ih =>
      obtain ⟨firstLine, restLines⟩ := List.forall_mem_cons.mp oneLine
      have whole : (unlines (first :: rest)).toList =
          first.toList ++ '\n' :: (unlines rest).toList := by
        unfold unlines
        simp
      rw [whole, List.splitOn_append_cons_self_of_not_mem firstLine, ih restLines]
      rfl

/-- Whether a line is that of a node at a depth: as many spaces as the depth asks for, the painted tag,
the label and the notes. -/
structure IsNodeLine (entry : Nat × AnchorNode) (line : List Char) : Prop where
  whole : line = (nodeLine (entry.1 + 1) entry.2.label entry.2.anchor).toList
  indent : line.takeWhile (· == ' ') = List.replicate (2 * (entry.1 + 1)) ' '
  begins : (paintTag entry.2.anchor ++ " " ++ entry.2.label).toList <+:
    line.dropWhile (· == ' ')

theorem isNodeLine_entryLine (entry : Nat × AnchorNode) :
    IsNodeLine entry (entryLine entry).toList := by
  obtain ⟨depth, node⟩ := entry
  obtain ⟨painted, tag⟩ : ∃ rest, (paintTag node.anchor).toList = '\x1b' :: rest :=
    Style.exists_cons_paint _ _
  have whole : (entryLine (depth, node)).toList = List.replicate (2 * (depth + 1)) ' ' ++
      ((paintTag node.anchor ++ " " ++ node.label).toList ++
        (epicNote node.anchor ++ linkNote node.anchor).toList) := by
    unfold entryLine nodeLine
    simp only [String.toList_append, String.toList_ofList, List.append_assoc]
  have spaces : ∀ c, c ∈ List.replicate (2 * (depth + 1)) ' ' → (c == ' ') = true := by
    intro c member
    rw [List.eq_of_mem_replicate member]
    rfl
  refine ⟨rfl, ?_, ?_⟩
  · rw [whole, List.takeWhile_append_of_pos spaces]
    simp only [String.toList_append, tag, List.cons_append]
    rw [List.takeWhile_cons_of_neg (by decide), List.append_nil]
  · rw [whole, List.dropWhile_append_of_pos spaces]
    simp only [String.toList_append, tag, List.cons_append]
    rw [List.dropWhile_cons_of_neg (by decide)]
    exact ⟨_, rfl⟩

/-- Whether a text lists nodes under a title: it has a line for the title, then one for each node, from
the top down and each node before its children, and none after them. -/
def IsListing (title : Path) (nodes : List AnchorNode) (text : String) : Prop :=
  ∃ lines, text.toList.splitOn '\n' = (Style.bold.paint title.text).toList :: lines ++ [[]] ∧
    List.Forall₂ IsNodeLine (outlineEach 0 nodes) lines

theorem isListing_document {title : Path} (titleLine : OneLine title.text) {nodes : List AnchorNode}
    (filled : nodes ≠ []) (oneLine : ∀ entry, entry ∈ outlineEach 0 nodes → OneLine entry.2.label ∧
      entry.2.anchor.IsOneLine) : IsListing title nodes (document title nodes .text) := by
  refine ⟨((outlineEach 0 nodes).map entryLine).map String.toList, ?_, ?_⟩
  · have written : document title nodes .text =
        unlines (Style.bold.paint title.text :: (outlineEach 0 nodes).map entryLine) := by
      unfold document
      dsimp only
      rw [if_neg (mt List.isEmpty_iff.mp filled), listLines_eq_map]
      rfl
    rw [written, splitOn_unlines]
    · rfl
    · intro line member
      rcases List.mem_cons.mp member with rfl | later
      · exact Style.oneLine_paint .bold titleLine
      · obtain ⟨entry, known, rfl⟩ := List.mem_map.mp later
        obtain ⟨label, isOneLine⟩ := oneLine entry known
        exact oneLine_nodeLine _ label isOneLine
  · rw [List.map_map, List.forall₂_map_right_iff]
    exact List.forall₂_same.mpr fun entry _ => isNodeLine_entryLine entry

end Report

/-! ### The listing of a text -/

namespace Index

variable (parser : Parser) (document : Path) (text : String) (hierarchy : Bool)

/-- The listing of a text is in the order of places and has all of its anchors. -/
theorem project_ofText :
    let index := ofText parser document text
    AnchorNode.OrderedBy Anchor.startsBefore (index.project hierarchy) ∧
      AnchorNode.unfoldedEach (index.project hierarchy) =
        ((List.range index.size).filterMap index.forest.get?).map (AnchorNode.single none) := by
  intro index
  obtain ⟨nodes, listed, ordered⟩ :=
    parser.exists_ordered_listing document text hierarchy fun _ => true
  obtain ⟨whole, wholeListed, unfolds⟩ :=
    (parser.planted_parse document text).exists_whole_listing hierarchy none
  have same : index.project hierarchy = nodes := congrArg (Option.getD · []) listed
  have sameWhole : index.project hierarchy = whole := congrArg (Option.getD · []) wholeListed
  refine ⟨same ▸ ordered, ?_⟩
  rw [sameWhole, unfolds, parser.flatten_parse document text]
  rfl

end Index

namespace Report

open AnchorNode (outlineEach)

/-- If neither the names of the tags nor the title hold a line feed, then the report of a text, as a
tree or at one level and in either order, has one line for each anchor, indented by its depth. The
anchors are those of the text, each once, and by place if they are sorted so; nothing that they
hold adds a line or takes one away. -/
theorem anchors_have_one_line_each {parser : Parser} {document : Path} {text : String} {title : Path}
    (names : ∀ tag, tag ∈ parser.registry.list → OneLine tag.name) (titleLine : OneLine title.text)
    (filled : (Index.ofText parser document text).isEmpty = false) (hierarchy : Bool)
    (method : SortMethod) :
    let index := Index.ofText parser document text
    let nodes := AnchorNode.sort method (index.project hierarchy)
    let listed := (outlineEach 0 nodes).map fun entry => entry.2.anchor
    let anchors := (List.range index.size).filterMap index.forest.get?
    IsListing title nodes (Report.document title nodes .text) ∧
      (∀ entry, entry ∈ outlineEach 0 nodes → entry.2.label = entry.2.anchor.label) ∧
      listed.Perm anchors ∧ (method = .line → listed = anchors) := by
  intro index nodes listed anchors
  obtain ⟨ordered, unfolds⟩ := Index.project_ofText parser document text hierarchy
  have moved : (AnchorNode.unfoldedEach nodes).Perm (anchors.map (AnchorNode.single none)) := by
    rw [← unfolds]
    exact (AnchorNode.rearranged_sort method _).unfoldedEach_perm.symm
  have each : listed.Perm anchors := by
    have anchorsMoved := moved.map AnchorNode.anchor
    rwa [AnchorNode.map_anchor_single, ← AnchorNode.map_anchor_outlineEach 0] at anchorsMoved
  -- An entry that is listed by itself is an anchor of the text with its own label.
  have entryOf : ∀ entry, entry ∈ outlineEach 0 nodes →
      entry.2.anchor ∈ anchors ∧ entry.2.label = entry.2.anchor.label := by
    intro entry member
    have listedAlone := List.mem_map_of_mem (f := fun entry => entry.2.alone) member
    rw [AnchorNode.map_alone_outlineEach] at listedAlone
    obtain ⟨anchor, known, same⟩ := List.mem_map.mp (moved.mem_iff.mp listedAlone)
    have sameAnchor : anchor = entry.2.anchor := congrArg AnchorNode.anchor same
    have sameLabel : anchor.label = entry.2.label := congrArg AnchorNode.label same
    exact ⟨sameAnchor ▸ known, by rw [← sameLabel, sameAnchor]⟩
  refine ⟨isListing_document titleLine ?_ ?_, fun entry member => (entryOf entry member).2, each, ?_⟩
  · intro empty
    have positive : 0 < index.size :=
      Array.size_pos_iff.mpr (mt Array.isEmpty_iff.mpr (Bool.eq_false_iff.mp filled))
    obtain ⟨first, found⟩ := Forest.exists_get?_of_lt positive
    have known : first ∈ anchors :=
      List.mem_filterMap.mpr ⟨0, List.mem_range.mpr positive, found⟩
    have isListed : first ∈ (outlineEach 0 nodes).map _ := each.mem_iff.mpr known
    rw [empty] at isListed
    cases isListed
  · intro entry member
    obtain ⟨known, label⟩ := entryOf entry member
    obtain ⟨id, _, found⟩ := List.mem_filterMap.mp known
    have isOneLine : entry.2.anchor.IsOneLine := Parser.isOneLine_of_get? names found
    exact ⟨label ▸ isOneLine.label, isOneLine⟩
  · rintro rfl
    rw [← AnchorNode.map_anchor_single anchors, ← unfolds,
      ← AnchorNode.map_anchor_outlineEach 0]
    exact congrArg (fun nodes => (outlineEach 0 nodes).map _) (AnchorNode.sort_line_eq_self ordered)

def planText : String := "// SECTION[epic=Auth]: plan\n// LINK: a.md:4"

private theorem hits_planText : Grammar.standard.hits planText =
    [⟨3, ⟨"SECTION".toList, some "epic=Auth".toList, some ⟨": ".toList, "plan".toList⟩⟩⟩,
      ⟨31, ⟨"LINK".toList, none, some ⟨": ".toList, "a.md:4".toList⟩⟩⟩] := by
  rw [Grammar.hits_eq_filterMap_lineHit Grammar.standard_singleLine, Grammar.standard_eq]
  decide +kernel

/-- A link below a region that belongs to an epic. -/
theorem anchors_have_one_line_each_plan :
    let index := Index.ofText .standard ⟨"a"⟩ planText
    let nodes := AnchorNode.sort .line (index.project true)
    (∀ tag, tag ∈ Parser.standard.registry.list → OneLine tag.name) ∧ OneLine "plan.txt" ∧
      index.isEmpty = false ∧
      IsListing ⟨"plan.txt"⟩ nodes (Report.document ⟨"plan.txt"⟩ nodes .text) ∧
      (outlineEach 0 nodes).map (fun entry => entry.2.anchor.text) =
        ["SECTION: plan", "a.md:4"] := by
  intro index nodes
  have names : ∀ tag, tag ∈ Parser.standard.registry.list → OneLine tag.name :=
    fun tag known => (Grammar.defaults_unbroken tag known).not_mem
  have titleLine : OneLine "plan.txt" := by decide
  have hits : Parser.standard.grammar.hits planText = _ := hits_planText
  have filled : index.isEmpty = false := by
    unfold index Index.ofText Parser.parse
    rw [hits]
    decide +kernel
  obtain ⟨isListing, _, _, inOrder⟩ :=
    anchors_have_one_line_each names titleLine filled true .line
  have texts := congrArg (List.map Anchor.text) (inOrder rfl)
  rw [List.map_map] at texts
  refine ⟨names, titleLine, filled, isListing, texts.trans ?_⟩
  unfold Index.ofText Parser.parse
  rw [hits]
  decide +kernel

end Report

end Waymark
