import Waymark.Proofs.Anchor.Attributes
import Waymark.Proofs.Parser.Folds
import Waymark.Proofs.Workspace.Epic

set_option autoImplicit false

/-! What continues an epic can be written in a document. The name of an epic is the value of an
attribute, since every anchor has its attributes from the brackets of a mark, so the text of a
completion gives back the epic and the next number. -/

namespace Waymark

/-! ### Epics of documents -/

namespace Parser

open Attributes

theorem epicIsValue_attributesOf (tag : Tag) (mark : Mark) (line : Nat) :
    (attributesOf tag mark line).EpicIsValue := by
  have read : (Attributes.parse? (mark.bracket.map String.ofList)
      { seq := Int.ofNat line }).EpicIsValue := by
    apply EpicIsValue.parse?
    intro epic found
    cases found
  unfold attributesOf
  dsimp only
  split
  · exact read
  · intro epic found
    cases found

/-- No anchor of a text has an epic that could not be written. -/
theorem epicIsValue_parse (parser : Parser) (document : Path) (text : String) {id : Nat}
    {anchor : Anchor} (found : (parser.parse document text).forest.get? id = some anchor) :
    anchor.attributes.EpicIsValue := by
  obtain ⟨tag, hit, _, made⟩ := parser.exists_mark_parse document found
  rw [made.attributes_eq]
  exact epicIsValue_attributesOf tag hit.mark _

end Parser

namespace Workspace

def ReadFromTexts (workspace : Workspace) : Prop :=
  ∀ entry, entry ∈ workspace.documents.entries →
    ∃ parser document text, entry.2 = Index.ofText parser document text

variable {workspace : Workspace}

theorem ReadFromTexts.epicIsValue (fromTexts : workspace.ReadFromTexts) {anchor : Anchor}
    (shown : anchor ∈ workspace.visibleRoots) : anchor.attributes.EpicIsValue := by
  obtain ⟨index, stored, root⟩ := List.mem_flatMap.mp shown
  obtain ⟨entry, member, rfl⟩ := List.mem_map.mp stored
  obtain ⟨parser, document, text, read⟩ := fromTexts entry member
  rw [read] at root
  obtain ⟨id, _, found⟩ := List.mem_filterMap.mp (List.mem_filter.mp root).1
  exact parser.epicIsValue_parse document text found

/-- The anchors of an epic carry its name, and there are some. -/
theorem mem_epics {epic : String} {anchors : List Anchor}
    (member : (epic, anchors) ∈ workspace.epics.entries) :
    anchors ≠ [] ∧ ∀ anchor, anchor ∈ anchors →
      anchor ∈ workspace.visibleRoots ∧ anchor.attributes.epic = some epic := by
  obtain ⟨⟨name, members⟩, listed, same⟩ := List.mem_map.mp member
  obtain ⟨rfl, rfl⟩ := Prod.mk.inj same
  obtain ⟨rfl, filled⟩ := (grouped_visibleRoots workspace).eq_of_mem listed
  constructor
  · intro empty
    have lengths := congrArg List.length empty
    rw [List.length_mergeSort] at lengths
    exact filled (List.eq_nil_of_length_eq_zero lengths)
  · intro anchor sorted
    obtain ⟨shown, own⟩ := List.mem_filter.mp (List.mem_mergeSort.mp sorted)
    exact ⟨shown, eq_of_beq own⟩

theorem ReadFromTexts.isValue_of_mem_epics (fromTexts : workspace.ReadFromTexts) {epic : String}
    {anchors : List Anchor} (member : (epic, anchors) ∈ workspace.epics.entries) :
    Attributes.IsValue epic := by
  obtain ⟨filled, carry⟩ := mem_epics member
  obtain ⟨anchor, inside⟩ := List.exists_mem_of_ne_nil anchors filled
  obtain ⟨shown, named⟩ := carry anchor inside
  exact fromTexts.epicIsValue shown epic named

/-! ### Completions -/

theorem max?_eq_greatestSeq {anchors : List Anchor} (filled : anchors ≠ []) :
    (anchors.map (·.attributes.seq)).max? = some (greatestSeq anchors) := by
  cases anchors with
  | nil => exact absurd rfl filled
  | cons anchor rest =>
      rw [List.map_cons, List.max?_cons', List.foldl_map]
      rfl

structure Continues (seqStep : Int) (entry : String × List Anchor) (completion : EpicCompletion) :
    Prop where
  epic : completion.epic = entry.1
  /-- The next number is the greatest of the epic and the step, within the signed 64-bit range. It
  is a new one if the step goes up and does not leave the range. -/
  nextSeq : ∃ last, last ∈ entry.2 ∧
    (∀ anchor, anchor ∈ entry.2 → anchor.attributes.seq ≤ last.attributes.seq) ∧
    completion.nextSeq =
      max Text.minSigned (min Text.maxSigned (last.attributes.seq + seqStep)) ∧
    (0 < seqStep → completion.nextSeq = last.attributes.seq + seqStep →
      ∀ anchor, anchor ∈ entry.2 → anchor.attributes.seq < completion.nextSeq)
  readBack : ∀ defaults, Attributes.parse? (some completion.text) defaults =
    { epic := some completion.epic, seq := completion.nextSeq, id := defaults.id }

/-- There is one completion for each epic, in the order of the epics. Each continues its epic, and
is read back from its text. -/
theorem completions_read_back (fromTexts : workspace.ReadFromTexts) (seqStep : Int) :
    List.Forall₂ (Continues seqStep) workspace.epics.entries
      (workspace.epicCompletions seqStep) := by
  unfold epicCompletions
  rw [List.forall₂_map_right_iff, List.forall₂_same]
  rintro ⟨epic, anchors⟩ member
  obtain ⟨attained, greatest⟩ :=
    List.max?_eq_some_iff.mp (max?_eq_greatestSeq (mem_epics member).1)
  obtain ⟨last, lastMember, lastSeq⟩ := List.mem_map.mp attained
  have bound : ∀ anchor, anchor ∈ anchors → anchor.attributes.seq ≤ last.attributes.seq := by
    intro anchor inside
    rw [lastSeq]
    exact greatest _ (List.mem_map_of_mem inside)
  refine ⟨rfl, ⟨last, lastMember, bound, ?_, ?_⟩, ?_⟩
  · rw [lastSeq]
    rfl
  · intro upwards exact anchor inside
    have below := bound anchor inside
    omega
  · intro defaults
    exact Attributes.parse_epic_seq (fromTexts.isValue_of_mem_epics member)
      (Text.readSigned?_saturatingAdd _ _) defaults

def loginText : String := "// TODO[epic= log in ,seq=-5]: a"

private def foundLogin : Hit :=
  ⟨3, ⟨"TODO".toList, some "epic= log in ,seq=-5".toList, some ⟨": ".toList, "a".toList⟩⟩⟩

private theorem hits_loginText : Grammar.standard.hits loginText = [foundLogin] := by
  rw [Grammar.hits_eq_filterMap_lineHit Grammar.standard_singleLine, Grammar.standard_eq]
  decide +kernel

def loginWorkspace : Workspace :=
  ({} : Workspace).insert ⟨"a"⟩ (Index.ofText .standard ⟨"a"⟩ loginText)

private theorem attributes_loginWorkspace :
    loginWorkspace.visibleRoots.map (·.attributes) = [{ epic := some "log in", seq := -5 }] := by
  have hits : Parser.standard.grammar.hits loginText = _ := hits_loginText
  unfold loginWorkspace Index.ofText Parser.parse
  rw [hits]
  decide +kernel

private theorem epicCompletions_loginWorkspace :
    loginWorkspace.epicCompletions 10 = [⟨"log in", 5⟩] := by
  obtain ⟨root, roots, attributes⟩ := List.map_eq_singleton_iff.mp attributes_loginWorkspace
  have grouped : (addToEpic {} root).entries = [("log in", [root])] := by
    rw [addToEpic, attributes]
    rfl
  rw [epicCompletions, epics, roots, List.foldl_cons, List.foldl_nil]
  simp only [SortedMap.mapValues, grouped, List.map_singleton, List.mergeSort_singleton,
    greatestSeq, List.foldl_nil, attributes]
  rfl

theorem completions_read_back_log_in :
    loginWorkspace.ReadFromTexts ∧ loginWorkspace.epicCompletions 10 = [⟨"log in", 5⟩] ∧
      ∀ defaults, Attributes.parse? (some "epic=log in,seq=5") defaults =
        { epic := some "log in", seq := 5, id := defaults.id } := by
  have fromTexts : loginWorkspace.ReadFromTexts := by
    intro entry member
    rw [List.mem_singleton.mp member]
    exact ⟨_, _, _, rfl⟩
  have continued := (completions_read_back fromTexts 10).flip
  rw [epicCompletions_loginWorkspace] at continued
  generalize loginWorkspace.epics.entries = entries at continued
  obtain _ | ⟨continues, _⟩ := continued
  exact ⟨fromTexts, epicCompletions_loginWorkspace, continues.readBack⟩

end Workspace

end Waymark
