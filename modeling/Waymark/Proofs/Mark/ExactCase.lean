import Waymark.Proofs.Mark.Resolution

set_option autoImplicit false

/-! Marks where case matters. A token is then the name of a tag or the end mark and the name of a
region, character by character. It is looked up by its uppercase form all the same, and cut by its
size, but names are their own uppercase forms, and so is every part of a name: the tag that is found
is the one whose name is written, also where a token is both a name and an end marker. -/

namespace Waymark

namespace Text

theorem upperChar_of_upper_eq {text : String} (fixed : upper text = text) {c : Char}
    (member : c ∈ text.toList) : upperChar c = [c] := by
  rw [← fixed, toList_upper] at member
  obtain ⟨_, _, among⟩ := List.mem_flatMap.mp member
  exact upperChar_of_mem among

/-- What follows in a text that is its own uppercase form is its own uppercase form. -/
theorem upper_of_upper_append {first second : String}
    (fixed : upper (first ++ second) = first ++ second) : upper second = second := by
  apply String.toList_inj.mp
  rw [toList_upper]
  have single : ∀ c, c ∈ second.toList → upperChar c = [c] := by
    intro c member
    apply upperChar_of_upper_eq fixed
    rw [String.toList_append]
    exact List.mem_append_right _ member
  rw [List.flatMap_congr single, List.flatMap_singleton']

end Text

namespace Grammar

variable {grammar : Grammar}

theorem eq_of_spells (exact : grammar.matchCase = true) {token written : List Char}
    (spells : grammar.Spells token written) : written = token := by
  unfold Spells at spells
  rw [← List.forall₂_eq_eq_eq]
  refine spells.flip.imp ?_
  intro found wanted same
  unfold sameChar Text.sameChar at same
  rw [exact, if_pos rfl, beq_iff_eq] at same
  exact same.symm

theorem isEndTag_iff (exact : grammar.matchCase = true) (mark : String) :
    grammar.isEndTag mark = true ↔ mark = grammar.endTag := by
  unfold isEndTag
  rw [exact, if_pos rfl, beq_iff_eq]

variable {registry : Registry}

/-- The end mark and the name of a region are divided. -/
theorem splitEnd_of_ending (wellFormed : registry.WellFormed) (exact : grammar.matchCase = true)
    {tag : Tag} (listed : tag ∈ registry.list) (region : tag.isRegion = true)
    (named : tag.name ≠ "") (marked : grammar.endTag ≠ "") :
    grammar.splitEnd registry.hasRegion (grammar.endTag ++ tag.name) = (tag.name, true) := by
  rcases grammar.splitEnd_cases registry.hasRegion (grammar.endTag ++ tag.name) with
    ⟨mark, rest, ending, result⟩ | ⟨_, notEnding⟩
  · have same := (isEndTag_iff exact mark).mp ending.endTag
    have whole := ending.whole
    rw [same] at whole
    rw [result, (String.append_right_inj _).mp whole]
  · have isRegion := (Registry.hasRegion_iff wellFormed tag.name).mpr
      ⟨tag, listed, (Registry.upper_name wellFormed listed).symm, region⟩
    have ending : grammar.IsEnding registry.hasRegion (grammar.endTag ++ tag.name) grammar.endTag
        tag.name :=
      ⟨rfl, rfl, marked, named, (isEndTag_iff exact grammar.endTag).mpr rfl, isRegion⟩
    exact absurd ending (notEnding _ _)

/-- A name that is not the end mark and the name of a region stays whole. -/
theorem splitEnd_of_name (wellFormed : registry.WellFormed) (exact : grammar.matchCase = true)
    {tag : Tag} (listed : tag ∈ registry.list)
    (other : ∀ region, region ∈ registry.list → region.isRegion = true → grammar.endTag ≠ "" →
      tag.name ≠ grammar.endTag ++ region.name) :
    grammar.splitEnd registry.hasRegion tag.name = (tag.name, false) := by
  rcases grammar.splitEnd_cases registry.hasRegion tag.name with
    ⟨mark, rest, ending, _⟩ | ⟨result, _⟩
  · have same := (isEndTag_iff exact mark).mp ending.endTag
    have whole := ending.whole
    have marked := ending.markNonempty
    rw [same] at whole marked
    -- The rest of a name is its own uppercase form, so it is the name of the region it finds.
    have fixed := Registry.upper_name wellFormed listed
    rw [whole] at fixed
    obtain ⟨region, regionListed, regionName, isRegion⟩ :=
      (Registry.hasRegion_iff wellFormed rest).mp ending.region
    rw [Text.upper_of_upper_append fixed] at regionName
    exact absurd (regionName ▸ whole) (other region regionListed isRegion marked)
  · exact result

end Grammar

namespace Parser

variable {registry : Registry} {separators : List String} {endTag : String}
  {matchCase showTagName : Bool} {parser : Parser}

theorem build_eq_ok_iff :
    build registry separators endTag matchCase showTagName = .ok parser ↔
      ∃ grammar, Grammar.build registry separators endTag matchCase = .ok grammar ∧
        parser = ⟨registry, grammar, showTagName⟩ := by
  unfold build
  cases Grammar.build registry separators endTag matchCase with
  | error error => simp [Except.map]
  | ok grammar => simp [Except.map, eq_comm]

/-- A mark is written as the name of a tag, or as the end mark and the name of a region. -/
theorem token_of_exact (built : build registry separators endTag true showTagName = .ok parser)
    {text : String} {hit : Hit} (member : hit ∈ parser.grammar.hits text) :
    ∃ tag, tag ∈ registry.list ∧
      (String.ofList hit.mark.token = tag.name ∨
        tag.isRegion = true ∧ String.ofList hit.mark.token = endTag ++ tag.name) := by
  obtain ⟨grammar, grammarBuilt, rfl⟩ := build_eq_ok_iff.mp built
  obtain ⟨endSame, exact⟩ := Grammar.fields_of_build grammarBuilt
  obtain ⟨tag, listed, stands⟩ := Grammar.standsFor_of_mem_hits grammarBuilt member
  refine ⟨tag, listed, ?_⟩
  rcases stands with spelled | ⟨region, spelled⟩
  · rw [Grammar.eq_of_spells exact spelled, String.ofList_toList]
    exact Or.inl rfl
  · rw [Grammar.eq_of_spells exact spelled, String.ofList_append, String.ofList_toList,
      String.ofList_toList, endSame]
    exact Or.inr ⟨region, rfl⟩

theorem step_of_split {hit : Hit} {name : String} {isEnd : Bool} {tag : Tag}
    (split : parser.grammar.splitEnd parser.registry.hasRegion (String.ofList hit.mark.token) =
      (name, isEnd))
    (found : parser.registry.find? name = some tag) (document : Path) (lines : Text.LineIndex)
    (progress : Progress) :
    parser.step document lines progress hit =
      if isEnd then closeRegion lines tag hit progress
      else parser.addAnchor document lines tag hit progress := by
  unfold step
  rw [split]
  dsimp only
  rw [found]

/-- Where case matters, each mark is looked up with success. The end mark and the name of a region
end that region; any other token is the name of a tag and begins an anchor of that tag. -/
theorem exact_tokens_resolve (reachable : registry.Reachable)
    (named : ∀ tag, tag ∈ registry.list → tag.name ≠ "")
    (built : build registry separators endTag true showTagName = .ok parser) {text : String}
    {hit : Hit} (member : hit ∈ parser.grammar.hits text) :
    (∃ tag, tag ∈ registry.list ∧
      registry.find? (parser.grammar.splitEnd registry.hasRegion
        (String.ofList hit.mark.token)).1 = some tag) ∧
    (∀ tag, tag ∈ registry.list → tag.isRegion = true → endTag ≠ "" →
      String.ofList hit.mark.token = endTag ++ tag.name →
      parser.grammar.splitEnd registry.hasRegion (String.ofList hit.mark.token) =
        (tag.name, true) ∧
      registry.find? tag.name = some tag ∧
      ∀ document lines progress,
        parser.step document lines progress hit = closeRegion lines tag hit progress) ∧
    ((∀ tag, tag ∈ registry.list → tag.isRegion = true → endTag ≠ "" →
        String.ofList hit.mark.token ≠ endTag ++ tag.name) →
      ∃ tag, tag ∈ registry.list ∧ tag.name = String.ofList hit.mark.token ∧
        parser.grammar.splitEnd registry.hasRegion (String.ofList hit.mark.token) =
          (tag.name, false) ∧
        registry.find? tag.name = some tag ∧
        ∀ document lines progress, parser.step document lines progress hit =
          parser.addAnchor document lines tag hit progress) := by
  have wellFormed := reachable.wellFormed
  obtain ⟨written, writtenListed, spelled⟩ := token_of_exact built member
  obtain ⟨grammar, grammarBuilt, rfl⟩ := build_eq_ok_iff.mp built
  obtain ⟨rfl, exact⟩ := Grammar.fields_of_build grammarBuilt
  have lookup : ∀ tag, tag ∈ registry.list → registry.find? tag.name = some tag := by
    intro tag listed
    exact (Registry.find?_eq_some_iff wellFormed _ _).mpr
      ⟨listed, (Registry.upper_name wellFormed listed).symm⟩
  have ends : ∀ tag, tag ∈ registry.list → tag.isRegion = true → grammar.endTag ≠ "" →
      String.ofList hit.mark.token = grammar.endTag ++ tag.name →
      grammar.splitEnd registry.hasRegion (String.ofList hit.mark.token) = (tag.name, true) := by
    intro tag listed region marked same
    rw [same]
    exact Grammar.splitEnd_of_ending wellFormed exact listed region (named tag listed) marked
  have begins : (∀ tag, tag ∈ registry.list → tag.isRegion = true → grammar.endTag ≠ "" →
      String.ofList hit.mark.token ≠ grammar.endTag ++ tag.name) →
      written.name = String.ofList hit.mark.token ∧
        grammar.splitEnd registry.hasRegion (String.ofList hit.mark.token) =
          (written.name, false) := by
    intro other
    have whole : String.ofList hit.mark.token = written.name := by
      rcases spelled with same | ⟨region, same⟩
      · exact same
      · by_cases marked : grammar.endTag = ""
        · rw [same, marked, String.empty_append]
        · exact absurd same (other written writtenListed region marked)
    rw [whole] at other ⊢
    exact ⟨rfl, Grammar.splitEnd_of_name wellFormed exact writtenListed other⟩
  refine ⟨?_, ?_, ?_⟩
  · by_cases ending : ∃ tag, tag ∈ registry.list ∧ tag.isRegion = true ∧ grammar.endTag ≠ "" ∧
        String.ofList hit.mark.token = grammar.endTag ++ tag.name
    · obtain ⟨tag, listed, region, marked, same⟩ := ending
      exact ⟨tag, listed, by rw [ends tag listed region marked same, lookup tag listed]⟩
    · have split := (begins fun tag listed region marked same =>
        ending ⟨tag, listed, region, marked, same⟩).2
      exact ⟨written, writtenListed, by rw [split, lookup written writtenListed]⟩
  · intro tag listed region marked same
    have split := ends tag listed region marked same
    refine ⟨split, lookup tag listed, ?_⟩
    intro document lines progress
    exact (step_of_split split (lookup tag listed) document lines progress).trans (if_pos rfl)
  · intro other
    obtain ⟨same, split⟩ := begins other
    have found := lookup written writtenListed
    refine ⟨written, writtenListed, same, split, found, ?_⟩
    intro document lines progress
    exact (step_of_split split found document lines progress).trans (if_neg Bool.false_ne_true)

/-- A region, and a tag whose name is an end marker of that region. -/
def overlapping : Registry :=
  (Registry.empty.insert (.named "REGION" .region .workspace)).insert
    (.named "ENDREGION" .marker .workspace)

def overlappingParser : Parser :=
  ⟨overlapping, .ofRegistry overlapping [": "] "END" true, true⟩

private theorem overlapping_named : ∀ tag, tag ∈ overlapping.list → tag.name ≠ "" := by
  decide

private theorem overlapping_built : build overlapping [": "] "END" true true = .ok overlappingParser :=
  build_eq_ok_iff.mpr ⟨_, (Grammar.build_eq_ok_iff _ _ _ _ _).mpr ⟨by decide, by decide, rfl⟩, rfl⟩

private theorem tokensOf_overlapping :
    Grammar.tokensOf overlapping "END" = ["ENDREGION", "REGION"] := by
  refine (Grammar.isTokenOrder_tokensOf overlapping "END").unique ⟨?_, ?_⟩
  · unfold Grammar.Precedes
    decide +kernel
  · intro token
    have written : overlapping.list.flatMap (Tag.tokens "END") =
        ["ENDREGION", "REGION", "ENDREGION"] := by decide
    simp only [← Grammar.mem_tokens_iff, ← List.mem_flatMap, written, List.mem_cons,
      List.not_mem_nil, or_false]
    tauto

private def foundEnd : Hit := ⟨3, ⟨"ENDREGION".toList, none, none⟩⟩

private theorem foundEnd_mem : foundEnd ∈ overlappingParser.grammar.hits "// ENDREGION" := by
  have single : overlappingParser.grammar.SingleLine :=
    Grammar.singleLine_of_build ((Grammar.build_eq_ok_iff _ _ _ _ _).mpr ⟨by decide, by decide, rfl⟩)
      (by decide) (by decide) (by decide)
  rw [Grammar.hits_eq_filterMap_lineHit single]
  unfold overlappingParser Grammar.ofRegistry
  rw [tokensOf_overlapping]
  decide +kernel

theorem exact_tokens_resolve_overlapping :
    overlapping.Reachable ∧ build overlapping [": "] "END" true true = .ok overlappingParser ∧
      foundEnd ∈ overlappingParser.grammar.hits "// ENDREGION" ∧
      overlapping.find? "ENDREGION" = some (.named "ENDREGION" .marker .workspace) ∧
      ∀ document lines progress, overlappingParser.step document lines progress foundEnd =
        closeRegion lines (.named "REGION" .region .workspace) foundEnd progress := by
  have reachable : overlapping.Reachable := (Registry.Reachable.empty.insert _).insert _
  obtain ⟨_, ends, _⟩ :=
    exact_tokens_resolve reachable overlapping_named overlapping_built foundEnd_mem
  refine ⟨reachable, overlapping_built, foundEnd_mem, by decide, ?_⟩
  exact (ends (.named "REGION" .region .workspace) (by decide) rfl (by decide) (by decide)).2.2

end Parser

end Waymark
