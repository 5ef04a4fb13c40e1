import Mathlib.Data.List.Induction
import Waymark.Proofs.Parser.Regions

set_option autoImplicit false

/-! Where the anchors of a text come from. There is one for each mark of the text that begins one, in
the order of the marks, and all that later marks add to it is its end marker. -/

namespace Waymark

theorem Anchor.setClose_eq (anchor : Anchor) (close : RegionClose) :
    anchor.setClose close = { anchor with kind := (anchor.setClose close).kind } := by
  unfold setClose
  split <;> rfl

namespace Parser

variable (parser : Parser) (document : Path) (lines : Text.LineIndex)

/-- Whether an anchor is that of a mark, with or without an end marker. -/
def IsAnchorOf (anchor : Anchor) (tag : Tag) (hit : Hit) : Prop :=
  parser.roleOf hit = .anchor tag ∧
    anchor = { parser.anchorOf document lines tag hit with kind := anchor.kind }

namespace IsAnchorOf

variable {parser document lines} {anchor : Anchor} {tag : Tag} {hit : Hit}

theorem of_role (role : parser.roleOf hit = .anchor tag) :
    parser.IsAnchorOf document lines (parser.anchorOf document lines tag hit) tag hit := by
  refine ⟨role, ?_⟩
  generalize parser.anchorOf document lines tag hit = made
  rfl

theorem setClose (made : parser.IsAnchorOf document lines anchor tag hit) (close : RegionClose) :
    parser.IsAnchorOf document lines (anchor.setClose close) tag hit := by
  refine ⟨made.1, ?_⟩
  rw [Anchor.setClose_eq, made.2]

theorem start_eq (made : parser.IsAnchorOf document lines anchor tag hit) :
    anchor.start = hit.start := by
  rw [made.2]
  rfl

theorem line_eq (made : parser.IsAnchorOf document lines anchor tag hit) :
    anchor.line = lines.lineOf hit.start := by
  rw [made.2]
  rfl

theorem attributes_eq (made : parser.IsAnchorOf document lines anchor tag hit) :
    anchor.attributes = attributesOf tag hit.mark (lines.lineOf hit.start) := by
  rw [made.2]
  rfl

end IsAnchorOf

/-! ### Marks that begin an anchor -/

def beginningOf? (hit : Hit) : Option (Tag × Hit) :=
  match parser.roleOf hit with
  | .anchor tag => some (tag, hit)
  | .unknown => none
  | .ending _ => none

def beginnings (hits : List Hit) : List (Tag × Hit) := hits.filterMap parser.beginningOf?

/-- Whether the anchors of a forest are those of some marks, each in its place among them. -/
structure Begun (marks : List (Tag × Hit)) (forest : Forest) : Prop where
  size : forest.size = marks.length
  anchors : ∀ id tag hit, marks[id]? = some (tag, hit) →
    ∃ anchor, forest.get? id = some anchor ∧
      parser.IsAnchorOf document lines anchor tag hit ∧ anchor.isRegion = tag.isRegion

section Begun

variable {parser document lines} {marks : List (Tag × Hit)}

theorem Begun.push {forest : Forest} (begun : parser.Begun document lines marks forest)
    {hit : Hit} {tag : Tag} (role : parser.roleOf hit = .anchor tag) (parent : Option Nat) :
    parser.Begun document lines (marks ++ [(tag, hit)])
      (forest.push (parser.anchorOf document lines tag hit) parent).1 := by
  constructor
  · rw [Forest.size_push, begun.size, List.length_append, List.length_singleton]
  · intro id other mark placed
    rw [Forest.get?_push]
    by_cases new : id = forest.size
    · rw [new, begun.size, List.getElem?_concat_length] at placed
      cases placed
      rw [if_pos new]
      exact ⟨_, rfl, .of_role role, parser.isRegion_anchorOf document lines tag hit⟩
    · have inside := (List.getElem?_eq_some_iff.mp placed).1
      rw [List.length_append, List.length_singleton, ← begun.size] at inside
      rw [List.getElem?_append_left (by rw [← begun.size]; omega)] at placed
      rw [if_neg new]
      exact begun.anchors id other mark placed

theorem Begun.close {forest : Forest} (begun : parser.Begun document lines marks forest)
    (target : Nat) (close : RegionClose) :
    parser.Begun document lines marks (forest.modify target (·.setClose close)) := by
  refine ⟨(forest.size_modify target _).trans begun.size, ?_⟩
  intro id tag hit placed
  obtain ⟨anchor, found, made, region⟩ := begun.anchors id tag hit placed
  rw [Forest.get?_modify, found]
  by_cases same : target = id
  · rw [if_pos same]
    exact ⟨_, rfl, made.setClose close, (anchor.isRegion_setClose close).trans region⟩
  · rw [if_neg same]
    exact ⟨anchor, rfl, made, region⟩

/-- A mark that begins an anchor adds it behind the others, and no other mark adds one. -/
theorem Begun.step {progress : Progress}
    (begun : parser.Begun document lines marks progress.forest) (hit : Hit) :
    parser.Begun document lines (marks ++ (parser.beginningOf? hit).toList)
      (parser.step document lines progress hit).forest := by
  unfold beginningOf?
  cases role : parser.roleOf hit with
  | unknown =>
      rw [parser.step_of_unknown document lines role]
      exact (List.append_nil marks).symm ▸ begun
  | anchor tag =>
      rw [parser.step_of_anchor document lines role, forest_addAnchor]
      exact begun.push role _
  | ending tag =>
      rw [parser.step_of_ending document lines role]
      rcases closeRegion_cases lines tag hit progress with
        ⟨target, _, _, _, _, _, result⟩ | ⟨unchanged, _⟩
      · rw [result]
        exact (List.append_nil marks).symm ▸ begun.close target (closeOf lines hit)
      · rw [unchanged]
        exact (List.append_nil marks).symm ▸ begun

end Begun

theorem begun_progressAfter (read : List Hit) :
    parser.Begun document lines (parser.beginnings read)
      (parser.progressAfter document lines read).forest := by
  induction read using List.reverseRecOn with
  | nil =>
      refine ⟨rfl, ?_⟩
      intro id tag hit placed
      cases placed
  | append_singleton read hit ih =>
      have extended : parser.beginnings (read ++ [hit]) =
          parser.beginnings read ++ (parser.beginningOf? hit).toList := by
        unfold beginnings
        rw [List.filterMap_append]
        cases begins : parser.beginningOf? hit with
        | none => rw [List.filterMap_cons_none begins]; rfl
        | some mark => rw [List.filterMap_cons_some begins]; rfl
      rw [progressAfter_append, extended]
      exact ih.step hit

theorem begun_parse (text : String) :
    parser.Begun document (Text.LineIndex.ofText text.toList)
      (parser.beginnings (parser.grammar.hits text)) (parser.parse document text).forest :=
  parser.begun_progressAfter document _ (parser.grammar.hits text)

/-- Each anchor of a text is that of a mark of the text. -/
theorem exists_mark_parse {text : String} {id : Nat} {anchor : Anchor}
    (found : (parser.parse document text).forest.get? id = some anchor) :
    ∃ tag hit, hit ∈ parser.grammar.hits text ∧
      parser.IsAnchorOf document (Text.LineIndex.ofText text.toList) anchor tag hit := by
  have begun := parser.begun_parse document text
  have inside := Forest.lt_size_of_get? found
  rw [begun.size] at inside
  have placed := List.getElem?_eq_getElem inside
  generalize (parser.beginnings (parser.grammar.hits text))[id] = entry at placed
  obtain ⟨tag, mark⟩ := entry
  obtain ⟨known, atId, made, _⟩ := begun.anchors id tag mark placed
  rw [found] at atId
  cases atId
  obtain ⟨hit, member, begins⟩ := List.mem_filterMap.mp (List.mem_of_getElem? placed)
  refine ⟨tag, mark, ?_, made⟩
  unfold beginningOf? at begins
  split at begins <;> cases begins
  exact member

end Parser

end Waymark
