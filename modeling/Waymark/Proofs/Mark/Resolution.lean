import Waymark.Proofs.Mark.EndMark
import Waymark.Proofs.Mark.LineByLine
import Waymark.Proofs.Parser.Regions
import Waymark.Proofs.Tag.Registry

set_option autoImplicit false

/-! Which marks name a tag. A token is found by folding and its tag is looked up by uppercasing, and
the end mark is cut off by its size in bytes. A token is passed over where these disagree. -/

namespace Waymark

namespace Grammar

variable {grammar : Grammar}

theorem token_of_markWith {before : Char} {text token : List Char} {mark : Mark}
    (found : grammar.markWith before text token = some mark) :
    grammar.Spells token mark.token := by
  unfold markWith at found
  split at found
  · rename_i begins
    have spelled := (beginsWith_iff token text).mp begins
    dsimp only at found
    rcases Option.or_eq_some_iff.mp found with bracketed | ⟨_, plain⟩
    · obtain ⟨inner, _, tail⟩ := Option.bind_eq_some_iff.mp bracketed
      obtain ⟨remark, _, rfl⟩ := Option.map_eq_some_iff.mp tail
      exact spelled
    · obtain ⟨remark, _, rfl⟩ := Option.map_eq_some_iff.mp plain
      exact spelled
  · cases found

theorem token_of_markAt {before : Char} {text : List Char} {mark : Mark}
    (found : grammar.markAt before text = some mark) :
    ∃ token, token ∈ grammar.tokens ∧ grammar.Spells token mark.token := by
  unfold markAt at found
  split at found
  · cases found
  · obtain ⟨token, member, read⟩ := List.exists_of_findSome?_eq_some found
    exact ⟨token, member, token_of_markWith read⟩

theorem token_of_mem_hits {text : String} {hit : Hit} (member : hit ∈ grammar.hits text) :
    ∃ token, token ∈ grammar.tokens ∧ grammar.Spells token hit.mark.token := by
  unfold hits at member
  generalize text.toList = characters at member
  generalize 0 = offset at member
  fun_induction hitsFrom grammar offset characters with
  | case1 => cases member
  | case2 offset c rest start mark found ih =>
      rcases List.mem_cons.mp member with rfl | later
      · exact token_of_markAt found
      · exact ih later
  | case3 offset c rest start missing ih => exact ih member

/-- Whether a token is written for a tag: its name or, for a region, its end marker. -/
def StandsFor (grammar : Grammar) (tag : Tag) (token : List Char) : Prop :=
  grammar.Spells tag.name.toList token ∨
    tag.isRegion = true ∧ grammar.Spells (grammar.endTag.toList ++ tag.name.toList) token

end Grammar

namespace Text

def KeepsSize (text : List Char) : Prop :=
  ∀ c, c ∈ text → ∀ variant, sameFold c variant = true → variant.utf8Size = c.utf8Size

theorem keepsSize_of_low {text : List Char} (low : ∀ c, c ∈ text → c.toNat ≤ 64) :
    KeepsSize text := by
  intro c member variant same
  have unchanged : sameChar false c variant = true := same
  rw [eq_of_sameChar_of_low unchanged (Or.inl (low c member))]

theorem byteLength_eq_of_sameFold {first second : List Char} (keeps : KeepsSize first)
    (same : List.Forall₂ (fun a b => sameFold a b = true) first second) :
    byteLength second = byteLength first := by
  induction same with
  | nil => rfl
  | cons sameHead _ ih =>
      rw [byteLength_cons, byteLength_cons, keeps _ List.mem_cons_self _ sameHead,
        ih fun c member => keeps c (List.mem_cons_of_mem _ member)]

end Text

namespace Registry

/-- Whether a token names a tag by its uppercase form: the whole token, or for a region what follows
as many bytes as the end mark has, which are the end mark in uppercase. -/
inductive Resolves (registry : Registry) (endTag token : String) : Prop
  | name {tag : Tag} :
      tag ∈ registry.list → tag.name = Text.upper token → Resolves registry endTag token
  | ending {tag : Tag} (mark name : String) :
      tag ∈ registry.list → tag.isRegion = true → token = mark ++ name → mark ≠ "" →
      mark.utf8ByteSize = endTag.utf8ByteSize → Text.upper mark = Text.upper endTag →
      tag.name = Text.upper name → Resolves registry endTag token

variable {registry : Registry} {grammar : Grammar}

private theorem isEnding_iff (wellFormed : registry.WellFormed)
    (named : ∀ tag, tag ∈ registry.list → tag.name ≠ "") (folds : grammar.matchCase = false)
    (token mark name : String) :
    grammar.IsEnding registry.hasRegion token mark name ↔
      token = mark ++ name ∧ mark ≠ "" ∧ mark.utf8ByteSize = grammar.endTag.utf8ByteSize ∧
        Text.upper mark = Text.upper grammar.endTag ∧
        ∃ tag, tag ∈ registry.list ∧ tag.name = Text.upper name ∧ tag.isRegion = true := by
  have endTag : grammar.isEndTag mark = true ↔ Text.upper mark = Text.upper grammar.endTag := by
    simp [Grammar.isEndTag, folds]
  constructor
  · intro ending
    exact ⟨ending.whole, ending.markNonempty, ending.sameSize, endTag.mp ending.endTag,
      (hasRegion_iff wellFormed name).mp ending.region⟩
  · rintro ⟨whole, nonempty, size, same, tag, member, nameSame, region⟩
    refine ⟨whole, size, nonempty, ?_, endTag.mpr same,
      (hasRegion_iff wellFormed name).mpr ⟨tag, member, nameSame, region⟩⟩
    rintro rfl
    exact named tag member nameSame

/-- A token is looked up with success exactly if it names a tag by its uppercase form. -/
theorem isSome_find?_splitEnd_iff (wellFormed : registry.WellFormed)
    (named : ∀ tag, tag ∈ registry.list → tag.name ≠ "") (folds : grammar.matchCase = false)
    (token : String) :
    (registry.find? (grammar.splitEnd registry.hasRegion token).1).isSome = true ↔
      registry.Resolves grammar.endTag token := by
  rcases grammar.splitEnd_cases registry.hasRegion token with
    ⟨mark, name, ending, result⟩ | ⟨result, notEnding⟩
  · rw [result, isSome_find?_iff wellFormed]
    obtain ⟨whole, nonempty, size, same, tag, member, nameSame, region⟩ :=
      (isEnding_iff wellFormed named folds token mark name).mp ending
    exact iff_of_true ⟨tag, member, nameSame⟩
      (Resolves.ending mark name member region whole nonempty size same nameSame)
  · rw [result, isSome_find?_iff wellFormed]
    constructor
    · rintro ⟨tag, member, same⟩
      exact Resolves.name member same
    · intro resolves
      cases resolves with
      | name member same => exact ⟨_, member, same⟩
      | ending mark name member region whole nonempty size same nameSame =>
          have ending := (isEnding_iff wellFormed named folds token mark name).mpr
            ⟨whole, nonempty, size, same, _, member, nameSame, region⟩
          exact absurd ending (notEnding mark name)

private theorem upper_ofList (folds : grammar.matchCase = false) {wanted : String}
    {found : List Char} (spells : grammar.Spells wanted.toList found)
    (wantedAgrees : Text.AgreesOnCase wanted.toList) (foundAgrees : Text.AgreesOnCase found) :
    Text.upper (String.ofList found) = Text.upper wanted := by
  have same : List.Forall₂ (fun a b => Text.sameFold a b = true) wanted.toList found := by
    simpa [Grammar.Spells, Grammar.sameChar, Text.sameChar, folds] using spells
  unfold Text.upper
  rw [String.toList_ofList, Text.upper_eq_of_sameFold same wantedAgrees foundAgrees]

/-- A token names the tag it is written for if folding keeps the uppercase form and the size of its
characters. -/
theorem resolves_of_standsFor (wellFormed : registry.WellFormed) (folds : grammar.matchCase = false)
    {tag : Tag} (member : tag ∈ registry.list) {token : List Char}
    (stands : grammar.StandsFor tag token) (tokenAgrees : Text.AgreesOnCase token)
    (nameAgrees : Text.AgreesOnCase tag.name.toList)
    (endAgrees : Text.AgreesOnCase grammar.endTag.toList)
    (keeps : Text.KeepsSize grammar.endTag.toList) :
    registry.Resolves grammar.endTag (String.ofList token) := by
  have fixed := upper_name wellFormed member
  rcases stands with spelled | ⟨region, spelled⟩
  · exact Resolves.name member ((upper_ofList folds spelled nameAgrees tokenAgrees).trans fixed).symm
  · by_cases empty : grammar.endTag = ""
    · rw [empty, String.toList_empty, List.nil_append] at spelled
      exact Resolves.name member
        ((upper_ofList folds spelled nameAgrees tokenAgrees).trans fixed).symm
    · let size := grammar.endTag.toList.length
      have markSpelled : grammar.Spells grammar.endTag.toList (token.take size) := by
        have taken := List.forall₂_take size spelled
        rwa [List.take_left] at taken
      have nameSpelled : grammar.Spells tag.name.toList (token.drop size) := by
        have dropped := List.forall₂_drop size spelled
        rwa [List.drop_left] at dropped
      have markAgrees : Text.AgreesOnCase (token.take size) :=
        fun c known => tokenAgrees c (List.mem_of_mem_take known)
      have restAgrees : Text.AgreesOnCase (token.drop size) :=
        fun c known => tokenAgrees c (List.mem_of_mem_drop known)
      refine Resolves.ending (String.ofList (token.take size))
        (String.ofList (token.drop size)) member region ?_ ?_ ?_
        (upper_ofList folds markSpelled endAgrees markAgrees)
        ((upper_ofList folds nameSpelled nameAgrees restAgrees).trans fixed).symm
      · rw [← String.ofList_append, List.take_append_drop]
      · intro none
        have taken : token.take size = [] := String.ofList_eq_empty_iff.mp none
        have short := markSpelled.length_eq
        rw [taken, List.length_nil] at short
        exact empty (String.toList_eq_nil_iff.mp (List.length_eq_zero_iff.mp short.symm))
      · rw [Text.utf8ByteSize_ofList, Text.utf8ByteSize_eq_byteLength]
        apply Text.byteLength_eq_of_sameFold keeps
        simpa [Grammar.Spells, Grammar.sameChar, Text.sameChar, folds] using markSpelled

end Registry

namespace Grammar

theorem standsFor_of_mem_hits {registry : Registry} {separators : List String} {endTag : String}
    {matchCase : Bool} {grammar : Grammar}
    (built : build registry separators endTag matchCase = .ok grammar) {text : String} {hit : Hit}
    (member : hit ∈ grammar.hits text) :
    ∃ tag, tag ∈ registry.list ∧ grammar.StandsFor tag hit.mark.token := by
  obtain ⟨token, known, spells⟩ := token_of_mem_hits member
  obtain ⟨_, _, rfl⟩ := (build_eq_ok_iff _ _ _ _ _).mp built
  obtain ⟨name, listed, rfl⟩ := List.mem_map.mp known
  obtain ⟨tag, tagListed, written⟩ := (mem_tokensOf_iff registry endTag name).mp listed
  refine ⟨tag, tagListed, ?_⟩
  rcases written with rfl | ⟨region, rfl⟩
  · exact Or.inl spells
  · rw [String.toList_append] at spells
    exact Or.inr ⟨region, spells⟩

end Grammar

namespace Parser

theorem roleOf_eq_unknown_iff (parser : Parser) (hit : Hit) :
    parser.roleOf hit = .unknown ↔
      (parser.registry.find? (parser.grammar.splitEnd parser.registry.hasRegion
        (String.ofList hit.mark.token)).1).isSome = false := by
  unfold roleOf
  dsimp only
  split
  · rename_i missing
    simp [missing]
  · rename_i tag found
    rw [found]
    split <;> simp

end Parser

namespace Grammar

/-- Each mark is written for a tag. The tag is found exactly if the uppercase form of the token names
one, and so always if folding keeps the uppercase form and the size of the characters involved; the
marks for which none is found are those that a parser passes over. -/
theorem marks_resolve_iff {registry : Registry} {separators : List String} {endTag : String}
    {grammar : Grammar} (reachable : registry.Reachable)
    (named : ∀ tag, tag ∈ registry.list → tag.name ≠ "")
    (built : build registry separators endTag false = .ok grammar) {text : String} {hit : Hit}
    (member : hit ∈ grammar.hits text) :
    (∃ tag, tag ∈ registry.list ∧ grammar.StandsFor tag hit.mark.token) ∧
    ((registry.find?
        (grammar.splitEnd registry.hasRegion (String.ofList hit.mark.token)).1).isSome = true ↔
      registry.Resolves endTag (String.ofList hit.mark.token)) ∧
    (Text.AgreesOnCase hit.mark.token →
      (∀ tag, tag ∈ registry.list → Text.AgreesOnCase tag.name.toList) →
      Text.AgreesOnCase endTag.toList → Text.KeepsSize endTag.toList →
      registry.Resolves endTag (String.ofList hit.mark.token)) ∧
    ∀ showTagName, Parser.roleOf ⟨registry, grammar, showTagName⟩ hit = .unknown ↔
      ¬registry.Resolves endTag (String.ofList hit.mark.token) := by
  have wellFormed := reachable.wellFormed
  obtain ⟨tag, listed, stands⟩ := standsFor_of_mem_hits built member
  obtain ⟨endSame, folds⟩ := fields_of_build built
  subst endSame
  have resolves := Registry.isSome_find?_splitEnd_iff wellFormed named folds
    (String.ofList hit.mark.token)
  refine ⟨⟨tag, listed, stands⟩, resolves, ?_, ?_⟩
  · intro tokenAgrees namesAgree endAgrees keeps
    exact Registry.resolves_of_standsFor wellFormed folds listed stands tokenAgrees
      (namesAgree tag listed) endAgrees keeps
  · intro showTagName
    rw [Parser.roleOf_eq_unknown_iff, ← Bool.not_eq_true]
    exact not_congr resolves

def standard : Grammar :=
  ofRegistry Registry.defaults [" - ", ": ", " "] "!" false

theorem standard_built :
    build Registry.defaults [" - ", ": ", " "] "!" false = .ok standard :=
  (build_eq_ok_iff _ _ _ _ _).mpr ⟨by decide, by decide, rfl⟩

theorem standard_singleLine : standard.SingleLine :=
  singleLine_of_build standard_built defaults_unbroken (by decide) (by decide)

theorem standard_eq :
    standard =
      { tokens := ["!SECTION", "SECTION", "ANCHOR", "REVIEW", "FIXME", "LINK", "NOTE", "STUB",
          "TODO"].map String.toList
        separators := [" - ", ": ", " "].map String.toList
        endTag := "!"
        matchCase := false } := by
  have keeps : Separator.KeepsOrder false (usable [" - ", ": ", " "]) := by
    unfold Separator.KeepsOrder
    decide +kernel
  have configured : usable [" - ", ": ", " "] = [" - ", ": ", " "].map String.toList := by
    decide
  unfold standard ofRegistry
  rw [tokensOf_defaults, (Separator.order_eq_self_iff false _).mpr keeps, configured]

private theorem defaults_named : ∀ tag, tag ∈ Registry.defaults.list → tag.name ≠ "" := by
  decide

private def foundTodo : Hit := ⟨3, ⟨"todo".toList, none, some ⟨": ".toList, "x".toList⟩⟩⟩

private theorem foundTodo_mem : foundTodo ∈ standard.hits "// todo: x" := by
  rw [hits_eq_filterMap_lineHit standard_singleLine, standard_eq]
  decide +kernel

theorem marks_resolve_iff_todo :
    Registry.defaults.Reachable ∧
      build Registry.defaults [" - ", ": ", " "] "!" false = .ok standard ∧
      Registry.defaults.Resolves "!" "todo" ∧
      (Registry.defaults.find? (standard.splitEnd Registry.defaults.hasRegion "todo").1).isSome =
        true := by
  obtain ⟨_, found, agrees, _⟩ :=
    marks_resolve_iff Registry.reachable_defaults defaults_named standard_built foundTodo_mem
  have resolves := agrees (by decide) (by decide) (by decide)
    (Text.keepsSize_of_low (by simp))
  exact ⟨Registry.reachable_defaults, standard_built, resolves, found.mpr resolves⟩

private def foundKelvin : Hit :=
  ⟨3, ⟨"LIN\u212A".toList, none, some ⟨": ".toList, "kelvin".toList⟩⟩⟩

private theorem foundKelvin_mem : foundKelvin ∈ standard.hits "// LIN\u212A: kelvin" := by
  rw [hits_eq_filterMap_lineHit standard_singleLine, standard_eq]
  decide +kernel

/-- The Kelvin sign folds to a small letter, but is its own uppercase form. -/
theorem kelvin_link_passed_over :
    Registry.defaults.Reachable ∧ (∀ tag, tag ∈ Registry.defaults.list → tag.name ≠ "") ∧
      build Registry.defaults [" - ", ": ", " "] "!" false = .ok standard ∧
      ∃ hit, hit ∈ standard.hits "// LIN\u212A: kelvin" ∧
        Registry.defaults.find? (standard.splitEnd Registry.defaults.hasRegion
          (String.ofList hit.mark.token)).1 = none := by
  refine ⟨Registry.reachable_defaults, defaults_named, standard_built, foundKelvin,
    foundKelvin_mem, ?_⟩
  decide +kernel

end Grammar

end Waymark
