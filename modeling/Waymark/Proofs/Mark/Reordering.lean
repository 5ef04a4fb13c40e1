import Waymark.Proofs.Mark.LongestSeparator
import Waymark.Proofs.Mark.Resolution
import Waymark.Config.Basic

set_option autoImplicit false

/-! When the order of the separators does not matter: two orders that both take the most at each mark
find the same marks. -/

namespace Waymark

namespace Grammar

variable {grammar : Grammar}

theorem remarkWith_trying (separators : List (List Char)) (before : Char)
    (text separator : List Char) :
    (grammar.trying separators).remarkWith before text separator =
      grammar.remarkWith before text separator := by
  unfold remarkWith
  rw [separatorLength?_trying]

theorem takesMost_trying (others separators : List (List Char)) (taken rest : List Char) :
    (grammar.trying others).TakesMost separators taken rest ↔
      grammar.TakesMost separators taken rest := by
  rw [takesMost_iff_sizes, takesMost_iff_sizes]
  simp only [separatorLength?_trying]

def MarkTakesMost (grammar : Grammar) (separators : List (List Char)) (text : List Char)
    (mark : Mark) : Prop :=
  ∀ remark, mark.remark = some remark → ∀ after, text = mark.written ++ after →
    grammar.TakesMost separators remark.separator (remark.comment ++ after)

theorem takesMost_of_mark {separators : List (List Char)} {before : Char} {text rest : List Char}
    {opening : Opening} {remark : Remark} (member : opening ∈ grammar.openings before text)
    (starts : remark.separator ++ remark.comment <+: opening.rest)
    (split : opening.rest = remark.separator ++ rest)
    (most : grammar.MarkTakesMost separators text (opening.mark (some remark))) :
    grammar.TakesMost separators remark.separator rest := by
  obtain ⟨after, behind⟩ := starts
  have restSame : rest = remark.comment ++ after := by
    rw [split, List.append_assoc, List.append_cancel_left_eq] at behind
    exact behind.symm
  have whole : text = (opening.mark (some remark)).written ++ after := by
    rw [← written_of_mem_openings member, written_mark opening (some remark), split, restSame]
    simp [Opening.mark, Mark.remarkText, Mark.comment]
  rw [restSame]
  exact most remark rfl after whole

/-- Two searches agree if they succeed at the same places, and alike at the first of these. -/
theorem findSome?_eq_of_first {α β : Type} {f g : α → Option β} {places : List α}
    (alike : ∀ place, place ∈ places → (f place).isSome = (g place).isSome)
    (same : ∀ place, place ∈ places → ∀ first second, f place = some first →
      g place = some second → places.findSome? f = some first → places.findSome? g = some second →
        first = second) : places.findSome? f = places.findSome? g := by
  induction places with
  | nil => rfl
  | cons place rest ih =>
      have here := alike place List.mem_cons_self
      cases found : f place with
      | none =>
          have missing : g place = none := by
            rwa [found, Option.isSome_none, eq_comm, Option.isSome_eq_false_iff,
              Option.isNone_iff_eq_none] at here
          rw [List.findSome?_cons, List.findSome?_cons, found, missing]
          refine ih (fun other member => alike other (List.mem_cons_of_mem place member)) ?_
          intro other member first second read secondRead whole secondWhole
          refine same other (List.mem_cons_of_mem place member) first second read secondRead ?_ ?_
          · rwa [List.findSome?_cons, found]
          · rwa [List.findSome?_cons, missing]
      | some first =>
          rw [found, Option.isSome_some, eq_comm] at here
          obtain ⟨second, secondFound⟩ := Option.isSome_iff_exists.mp here
          have whole : (place :: rest).findSome? f = some first := by
            rw [List.findSome?_cons, found]
          have secondWhole : (place :: rest).findSome? g = some second := by
            rw [List.findSome?_cons, secondFound]
          rw [whole, secondWhole, same place List.mem_cons_self first second found secondFound
            whole secondWhole]

theorem takesMostFrom_of_append {separators : List (List Char)} {offset : Nat}
    {earlier text : List Char} (most : grammar.TakesMostFrom separators offset (earlier ++ text))
    (later : ∀ hit, hit ∈ grammar.hitsFrom (offset + Text.byteLength earlier) text →
      hit ∈ grammar.hitsFrom offset (earlier ++ text)) :
    grammar.TakesMostFrom separators (offset + Text.byteLength earlier) text := by
  intro hit member remark read after followed
  obtain ⟨between, split, placed⟩ := followed
  refine most hit (later hit member) remark read after ⟨earlier ++ between, ?_, ?_⟩
  · rw [split, List.append_assoc]
  · rw [← placed, Text.byteLength_append, Nat.add_assoc]

theorem takesMostFrom_behind_mark {separators : List (List Char)} {offset : Nat} {c : Char}
    {mark : Mark} {after : List Char} (found : grammar.markAt c (mark.written ++ after) = some mark)
    (most : grammar.TakesMostFrom separators offset (c :: (mark.written ++ after))) :
    grammar.TakesMostFrom separators (offset + c.utf8Size + Text.byteLength mark.written) after := by
  have first := hitsFrom_of_mark found offset
  rw [Nat.add_assoc, ← Text.byteLength_cons] at first ⊢
  exact takesMostFrom_of_append most fun hit member => first ▸ List.mem_cons_of_mem _ member

theorem takesMostFrom_of_none {separators : List (List Char)} {offset : Nat} {c : Char}
    {rest : List Char} (missing : grammar.markAt c rest = none)
    (most : grammar.TakesMostFrom separators offset (c :: rest)) :
    grammar.TakesMostFrom separators (offset + c.utf8Size) rest := by
  have first := hitsFrom_of_none missing offset
  have size : c.utf8Size = Text.byteLength [c] := by simp [Text.byteLength_cons]
  rw [size] at first ⊢
  exact takesMostFrom_of_append most fun hit member => first ▸ member

theorem markTakesMost_of_markAt {separators : List (List Char)} {offset : Nat} {c : Char}
    {rest : List Char} {mark : Mark} (found : grammar.markAt c rest = some mark)
    (most : grammar.TakesMostFrom separators offset (c :: rest)) :
    grammar.MarkTakesMost separators rest mark := by
  intro remark read after whole
  have member : ⟨offset + c.utf8Size, mark⟩ ∈ grammar.hitsFrom offset (c :: rest) := by
    rw [hitsFrom, found]
    exact List.mem_cons_self
  refine most _ member remark read after ⟨[c], by rw [whole]; rfl, ?_⟩
  simp [Text.byteLength_cons]

section

variable {separators : List (List Char)} (perm : grammar.separators.Perm separators)
include perm

/-- Whether a mark can end at a place does not depend on the order. -/
theorem isSome_tailAt_trying (last : Char) (text : List Char) :
    ((grammar.trying separators).tailAt last text).isSome = (grammar.tailAt last text).isSome := by
  have agree : (separators.findSome? (grammar.remarkWith last text)).isSome =
      (grammar.separators.findSome? (grammar.remarkWith last text)).isSome := by
    rw [Bool.eq_iff_iff, List.findSome?_isSome_iff, List.findSome?_isSome_iff]
    simp only [perm.mem_iff]
  have same : (grammar.trying separators).remarkWith last text = grammar.remarkWith last text := by
    funext separator
    exact remarkWith_trying separators last text separator
  have tried : (grammar.trying separators).separators = separators := rfl
  unfold tailAt
  rw [same, tried]
  cases own : grammar.separators.findSome? (grammar.remarkWith last text) <;>
    cases other : separators.findSome? (grammar.remarkWith last text) <;>
    rw [own, other] at agree <;> first | rfl | cases agree

/-- Where both orders take the most, they take the same. -/
theorem tailAt_trying {last : Char} {text : List Char} {first second : Option Remark}
    (firstRead : grammar.tailAt last text = some first)
    (secondRead : (grammar.trying separators).tailAt last text = some second)
    (firstMost : ∀ remark, first = some remark → ∀ rest, text = remark.separator ++ rest →
      grammar.TakesMost grammar.separators remark.separator rest)
    (secondMost : ∀ remark, second = some remark → ∀ rest, text = remark.separator ++ rest →
      grammar.TakesMost separators remark.separator rest) : first = second := by
  cases first with
  | none =>
      cases second with
      | none => rfl
      | some remark =>
          obtain ⟨_, separator, _, split, found, _⟩ := separator_of_tailAt secondRead
          have member : separator ∈ grammar.separators :=
            perm.mem_iff.mpr (by rw [show separators = _ from split]; simp)
          rw [remarkWith_trying, none_of_tailAt firstRead separator member] at found
          cases found
  | some one =>
      obtain ⟨_, separator, _, split, found, _⟩ := separator_of_tailAt firstRead
      have member : separator ∈ grammar.separators := by simp [split]
      cases second with
      | none =>
          have missing := none_of_tailAt secondRead separator (perm.mem_iff.mp member)
          rw [remarkWith_trying, found] at missing
          cases missing
      | some other =>
          obtain ⟨_, otherSeparator, _, otherSplit, otherFound, _⟩ :=
            separator_of_tailAt secondRead
          have otherMember : otherSeparator ∈ separators := by
            rw [show separators = _ from otherSplit]
            simp
          rw [remarkWith_trying] at otherFound
          obtain ⟨read, oneSame⟩ := remarkWith_sound found
          obtain ⟨otherRead, otherSame⟩ := remarkWith_sound otherFound
          have oneWhole := append_drop_of_remarkWith found
          have otherWhole := append_drop_of_remarkWith otherFound
          have fewer := (takesMost_iff_sizes _ _ _).mp (firstMost one rfl _ oneWhole)
            otherSeparator (perm.mem_iff.mpr otherMember) _ (oneWhole ▸ otherRead)
          have more := (takesMost_iff_sizes _ _ _).mp (secondMost other rfl _ otherWhole)
            separator (perm.mem_iff.mp member) _ (otherWhole ▸ read)
          rw [oneSame, otherSame, Nat.le_antisymm more fewer]

theorem markFrom_trying {before : Char} {text : List Char} {opening : Opening} {first second : Mark}
    (member : opening ∈ grammar.openings before text)
    (firstRead : grammar.markFrom opening = some first)
    (secondRead : (grammar.trying separators).markFrom opening = some second)
    (firstMost : grammar.MarkTakesMost grammar.separators text first)
    (secondMost : grammar.MarkTakesMost separators text second) : first = second := by
  obtain ⟨firstRemark, firstTail, rfl⟩ := Option.map_eq_some_iff.mp firstRead
  obtain ⟨secondRemark, secondTail, rfl⟩ := Option.map_eq_some_iff.mp secondRead
  rw [tailAt_trying perm firstTail secondTail]
  · rintro remark rfl rest split
    have starts := tailAt_prefix firstTail
    exact takesMost_of_mark member starts split firstMost
  · rintro remark rfl rest split
    have starts := tailAt_prefix secondTail
    exact takesMost_of_mark member starts split secondMost

theorem markAt_trying {before : Char} {text : List Char}
    (firstMost : ∀ mark, grammar.markAt before text = some mark →
      grammar.MarkTakesMost grammar.separators text mark)
    (secondMost : ∀ mark, (grammar.trying separators).markAt before text = some mark →
      grammar.MarkTakesMost separators text mark) :
    (grammar.trying separators).markAt before text = grammar.markAt before text := by
  cases word : Text.isWord before with
  | true =>
      unfold markAt
      rw [word, if_pos rfl, if_pos rfl]
  | false =>
      rw [markAt_eq_findSome? word] at firstMost secondMost
      rw [markAt_eq_findSome? word, markAt_eq_findSome? word]
      rw [openings_trying] at secondMost ⊢
      refine findSome?_eq_of_first ?_ ?_
      · intro opening member
        unfold markFrom
        rw [Option.isSome_map, Option.isSome_map, isSome_tailAt_trying perm]
      · intro opening member second first secondRead firstRead secondWhole firstWhole
        exact (markFrom_trying perm member firstRead secondRead (firstMost first firstWhole)
          (secondMost second secondWhole)).symm

/-- Two orders that both take the most at each mark find the same marks. -/
theorem hitsFrom_trying (offset : Nat) (text : List Char)
    (firstMost : grammar.TakesMostFrom grammar.separators offset text)
    (secondMost : (grammar.trying separators).TakesMostFrom separators offset text) :
    (grammar.trying separators).hitsFrom offset text = grammar.hitsFrom offset text := by
  have placeSame {offset : Nat} {c : Char} {rest : List Char}
      (first : grammar.TakesMostFrom grammar.separators offset (c :: rest))
      (second : (grammar.trying separators).TakesMostFrom separators offset (c :: rest)) :
      (grammar.trying separators).markAt c rest = grammar.markAt c rest := by
    refine markAt_trying perm (fun mark found => markTakesMost_of_markAt found first) ?_
    intro mark found
    have most := markTakesMost_of_markAt found second
    simpa only [MarkTakesMost, takesMost_trying] using most
  fun_induction hitsFrom grammar offset text with
  | case1 => simp [hitsFrom]
  | case2 offset c rest start mark found ih =>
      have same := (placeSame firstMost secondMost).trans found
      obtain ⟨after, rfl⟩ := markAt_prefix found
      rw [List.drop_left] at ih ⊢
      rw [hitsFrom_of_mark same, ih (takesMostFrom_behind_mark found firstMost)
        (takesMostFrom_behind_mark same secondMost)]
  | case3 offset c rest start missing ih =>
      have same := (placeSame firstMost secondMost).trans missing
      rw [hitsFrom_of_none same, ih (takesMostFrom_of_none missing firstMost)
        (takesMostFrom_of_none same secondMost)]

end

theorem takesMost_of_perm {first second : List (List Char)} (perm : first.Perm second)
    {taken rest : List Char} (most : grammar.TakesMost first taken rest) :
    grammar.TakesMost second taken rest :=
  fun separator member => most separator (perm.mem_iff.mpr member)

theorem takesMostFrom_of_perm {first second : List (List Char)} (perm : first.Perm second)
    {offset : Nat} {text : List Char} (most : grammar.TakesMostFrom first offset text) :
    grammar.TakesMostFrom second offset text :=
  fun hit member remark read after followed =>
    takesMost_of_perm perm (most hit member remark read after followed)

theorem usable_perm {first second : List String} (perm : first.Perm second) :
    (usable first).Perm (usable second) :=
  (perm.filter _).map _

/-- The separator of a hit takes the most exactly if no configured separator that matches there has
more pieces. -/
theorem takesMost_iff_of_mem_hits {separators : List (List Char)}
    (perm : grammar.separators.Perm separators) {text : String} {hit : Hit}
    (member : hit ∈ grammar.hits text) {remark : Remark} (read : hit.mark.remark = some remark) :
    ∃ after separator, hit.FollowedBy 0 text.toList after ∧ separator ∈ separators ∧
      grammar.WritesSeparator separator remark.separator ∧
      (grammar.TakesMost separators remark.separator (remark.comment ++ after) ↔
        ∀ other, other ∈ separators →
          grammar.StartsWith other (remark.separator ++ (remark.comment ++ after)) →
            Separator.pieceCount other ≤ Separator.pieceCount separator) := by
  obtain ⟨before, after, split, placed⟩ := split_of_mem_hits member
  have followed : hit.FollowedBy 0 text.toList after :=
    ⟨before, split, by rw [placed, Nat.zero_add]⟩
  obtain ⟨last, tail⟩ := tailAt_of_mem_hitsFrom member followed
  have behind : hit.mark.remarkText ++ after =
      remark.separator ++ (remark.comment ++ after) := by
    simp [Mark.remarkText, Mark.comment, read]
  rw [read, behind] at tail
  obtain ⟨_, separator, _, tried, found, _⟩ := separator_of_tailAt tail
  have known : separator ∈ grammar.separators := by simp [tried]
  have size := (remarkWith_sound found).1
  have writes := (separatorLength?_sound separator _ _ size).2
  rw [List.take_left] at writes
  exact ⟨after, separator, followed, perm.mem_iff.mp known, writes, takesMost_iff_pieceCount size⟩

theorem takesMostFrom_of_noneHidden
    (plain : ∀ separator, separator ∈ grammar.separators →
      separator ≠ [] ∧ Text.Unbroken separator)
    (noneHidden : grammar.NoneHidden grammar.separators) (offset : Nat) (text : List Char) :
    grammar.TakesMostFrom grammar.separators offset text := by
  intro hit member remark read after followed
  obtain ⟨last, tail⟩ := tailAt_of_mem_hitsFrom member followed
  rw [read] at tail
  refine takesMost_of_noneHidden plain noneHidden tail ?_
  simp [Mark.remarkText, Mark.comment, read]

/-- The separator of a mark takes the most exactly if no separator that matches there has more pieces,
and so always if none hides one that comes later. Orders in which each mark takes the most find the
same marks. -/
theorem separators_take_most_iff {registry : Registry} {separators : List String} {endTag : String}
    {matchCase : Bool} {grammar : Grammar}
    (built : build registry separators endTag matchCase = .ok grammar) (text : String) :
    (∀ hit, hit ∈ grammar.hits text → ∀ remark, hit.mark.remark = some remark →
      ∃ after separator, hit.FollowedBy 0 text.toList after ∧ separator ∈ usable separators ∧
        grammar.WritesSeparator separator remark.separator ∧
        (grammar.TakesMost (usable separators) remark.separator (remark.comment ++ after) ↔
          ∀ other, other ∈ usable separators →
            grammar.StartsWith other (remark.separator ++ (remark.comment ++ after)) →
              Separator.pieceCount other ≤ Separator.pieceCount separator)) ∧
    ((∀ separator, separator ∈ usable separators → Text.Unbroken separator) →
      grammar.NoneHidden grammar.separators →
        grammar.TakesMostFrom (usable separators) 0 text.toList) ∧
    ∀ reordered, reordered.Perm separators → ∀ other,
      build registry reordered endTag matchCase = .ok other →
      grammar.TakesMostFrom (usable separators) 0 text.toList →
      other.TakesMostFrom (usable separators) 0 text.toList → other.hits text = grammar.hits text := by
  have perm := separators_perm_of_build built
  refine ⟨?_, ?_, ?_⟩
  · intro hit member remark read
    exact takesMost_iff_of_mem_hits perm member read
  · intro unbroken noneHidden
    apply takesMostFrom_of_perm perm
    refine takesMostFrom_of_noneHidden ?_ noneHidden 0 text.toList
    intro separator member
    have configured := perm.mem_iff.mp member
    refine ⟨?_, unbroken separator configured⟩
    obtain ⟨name, known, rfl⟩ := List.mem_map.mp configured
    simpa using (List.mem_filter.mp known).2
  · intro reordered permuted other otherBuilt most otherMost
    have otherPerm := separators_perm_of_build otherBuilt
    have among : grammar.separators.Perm other.separators :=
      perm.trans ((usable_perm permuted.symm).trans otherPerm.symm)
    obtain ⟨_, _, otherSame⟩ := (build_eq_ok_iff _ _ _ _ _).mp otherBuilt
    obtain ⟨_, _, same⟩ := (build_eq_ok_iff _ _ _ _ _).mp built
    have trying : other = grammar.trying other.separators := by
      rw [otherSame, same]
      rfl
    unfold hits
    rw [trying] at otherMost ⊢
    refine hitsFrom_trying among 0 text.toList (takesMostFrom_of_perm perm.symm most) ?_
    exact takesMostFrom_of_perm (perm.symm.trans among) otherMost

theorem standard_noneHidden : standard.NoneHidden standard.separators := by
  apply noneHidden_of_pieceCount
  rw [standard_eq]
  decide

theorem separators_take_most_iff_standard :
    build Registry.defaults [" - ", ": ", " "] "!" false = .ok standard ∧
      standard.TakesMostFrom (usable [" - ", ": ", " "]) 0 "// TODO   - hello".toList := by
  obtain ⟨_, most, _⟩ := separators_take_most_iff standard_built "// TODO   - hello"
  exact ⟨standard_built, most (by decide) standard_noneHidden⟩

def asConfigured : Grammar :=
  ofRegistry Registry.defaults ({} : TagSettings).separators "!" false

theorem asConfigured_built :
    build Registry.defaults ({} : TagSettings).separators "!" false = .ok asConfigured :=
  (build_eq_ok_iff _ _ _ _ _).mpr ⟨by decide, by decide, rfl⟩

private def foundDash : Hit :=
  ⟨3, ⟨"TODO".toList, none, some ⟨" ".toList, "- hello".toList⟩⟩⟩

private theorem foundDash_mem : foundDash ∈ asConfigured.hits "// TODO - hello" := by
  have single := singleLine_of_build asConfigured_built defaults_unbroken (by decide) (by decide)
  have keeps : Separator.KeepsOrder false (usable [" ", ": ", " - "]) := by
    unfold Separator.KeepsOrder
    decide +kernel
  have configured : usable [" ", ": ", " - "] = [" ", ": ", " - "].map String.toList := by decide
  rw [hits_eq_filterMap_lineHit single]
  unfold asConfigured ofRegistry
  rw [tokensOf_defaults, (Separator.order_eq_self_iff false _).mpr keeps, configured]
  decide +kernel

private theorem standard_finds_dash :
    standard.hits "// TODO - hello" =
      [⟨3, ⟨"TODO".toList, none, some ⟨" - ".toList, "hello".toList⟩⟩⟩] := by
  rw [hits_eq_filterMap_lineHit standard_singleLine, standard_eq]
  decide +kernel

/-- The settings list the separator of one space first, and it hides the one with a dash. -/
theorem one_space_hides_dash :
    build Registry.defaults ({} : TagSettings).separators "!" false = .ok asConfigured ∧
      ¬asConfigured.TakesMostFrom (usable ({} : TagSettings).separators) 0
        "// TODO - hello".toList ∧
      [" - ", ": ", " "].Perm ({} : TagSettings).separators ∧
      build Registry.defaults [" - ", ": ", " "] "!" false = .ok standard ∧
      standard.hits "// TODO - hello" ≠ asConfigured.hits "// TODO - hello" := by
  refine ⟨asConfigured_built, ?_, by decide, standard_built, ?_⟩
  · intro most
    have taken := most foundDash foundDash_mem ⟨" ".toList, "- hello".toList⟩ rfl [] ⟨"// ".toList,
      by decide, by decide⟩
    have tooLong := taken " - ".toList (by decide) " - ".toList "hello".toList (by decide)
      (WritesSeparator.spaces 0 (.char (by decide) (by decide) (.spaces 0 .nil)))
    revert tooLong
    decide
  · intro same
    have member := foundDash_mem
    rw [← same, standard_finds_dash] at member
    revert member
    decide

end Grammar

end Waymark
