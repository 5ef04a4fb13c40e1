import Mathlib.Data.List.Induction
import Waymark.Proofs.Mark.EndMark
import Waymark.Proofs.Parser.Regions

set_option autoImplicit false

/-! The regions of a text follow its end markers. The main result replays the marks of a text: an end
marker closes the innermost region that is still open if that has its tag, and changes nothing else.
From this the regions are nested properly, and a text whose region marks are balanced leaves no
region open, however deep the nesting. -/

namespace Waymark.Parser

/-! ### Balanced region marks -/

inductive Bracket where
  | opens (tag : String)
  | closes (tag : String)
deriving DecidableEq, Repr

def bracketOf (parser : Parser) (hit : Hit) : Option Bracket :=
  match parser.roleOf hit with
  | .unknown => none
  | .anchor tag => if tag.isRegion then some (.opens tag.name) else none
  | .ending tag => some (.closes tag.name)

/-- Every beginning has its end: what lies between the two is balanced, and so is what follows. -/
inductive Balanced : List Bracket → Prop where
  | nil : Balanced []
  | enclose (tag : String) {inner rest : List Bracket} (innerBalanced : Balanced inner)
      (restBalanced : Balanced rest) : Balanced (.opens tag :: inner ++ .closes tag :: rest)

section Run

variable (parser : Parser) (document : Path) (lines : Text.LineIndex)

theorem openRegions_step_of_other {hit : Hit} (other : parser.bracketOf hit = none)
    (progress : Progress) :
    (parser.step document lines progress hit).openRegions = progress.openRegions := by
  unfold bracketOf at other
  cases role : parser.roleOf hit with
  | unknown => rw [parser.step_of_unknown document lines role]
  | anchor tag =>
      simp only [role] at other
      have plain : tag.isRegion = false := by
        cases region : tag.isRegion with
        | false => rfl
        | true => simp [region] at other
      rw [parser.step_of_anchor document lines role, openRegions_addAnchor, plain]
      rfl
  | ending tag =>
      simp only [role] at other
      cases other

theorem tag_run {progress : Progress} {id : Nat} {anchor : Anchor}
    (found : progress.forest.get? id = some anchor) (hits : List Hit) :
    ∃ later, (hits.foldl (parser.step document lines) progress).forest.get? id = some later ∧
      later.tag = anchor.tag := by
  induction hits generalizing progress anchor with
  | nil => exact ⟨anchor, found, rfl⟩
  | cons hit rest ih =>
      obtain ⟨next, atNext, sameTag, _⟩ := parser.get?_step document lines found hit
      obtain ⟨later, atLater, laterTag⟩ := ih atNext
      exact ⟨later, atLater, laterTag.trans sameTag⟩

theorem openRegions_run_of_others (hits : List Hit)
    (others : ∀ hit, hit ∈ hits → parser.bracketOf hit = none) (progress : Progress) :
    (hits.foldl (parser.step document lines) progress).openRegions = progress.openRegions := by
  induction hits generalizing progress with
  | nil => rfl
  | cons hit rest ih =>
      rw [List.foldl_cons, ih (fun other member => others other (List.mem_cons_of_mem _ member))]
      exact parser.openRegions_step_of_other document lines (others hit List.mem_cons_self) progress

theorem step_of_opens {hit : Hit} {tag : String} (bracket : parser.bracketOf hit = some (.opens tag))
    (progress : Progress) :
    (parser.step document lines progress hit).openRegions =
        progress.forest.size :: progress.openRegions ∧
      ∃ anchor, (parser.step document lines progress hit).forest.get? progress.forest.size =
        some anchor ∧ anchor.tag = tag := by
  unfold bracketOf at bracket
  cases role : parser.roleOf hit with
  | unknown =>
      simp only [role] at bracket
      cases bracket
  | anchor found =>
      simp only [role] at bracket
      cases region : found.isRegion with
      | false => simp [region] at bracket
      | true =>
          simp only [region, if_true, Option.some.injEq, Bracket.opens.injEq] at bracket
          rw [parser.step_of_anchor document lines role, openRegions_addAnchor, region]
          refine ⟨rfl, parser.anchorOf document lines found hit, ?_, bracket⟩
          rw [forest_addAnchor, Forest.get?_push, if_pos rfl]
  | ending found =>
      simp only [role, Option.some.injEq] at bracket
      cases bracket

theorem step_of_closes {hit : Hit} {tag : String}
    (bracket : parser.bracketOf hit = some (.closes tag)) {progress : Progress} {id : Nat}
    {outer : List Nat} (opened : progress.openRegions = id :: outer) {anchor : Anchor}
    (found : progress.forest.get? id = some anchor) (same : anchor.tag = tag) :
    (parser.step document lines progress hit).openRegions = outer := by
  unfold bracketOf at bracket
  cases role : parser.roleOf hit with
  | unknown =>
      simp only [role] at bracket
      cases bracket
  | anchor other =>
      simp only [role] at bracket
      split at bracket <;> cases bracket
  | ending other =>
      simp only [role, Option.some.injEq, Bracket.closes.injEq] at bracket
      rw [parser.step_of_ending document lines role]
      rcases closeRegion_cases lines other hit progress with
        ⟨first, rest, _, openedFirst, _, _, result⟩ | ⟨_, differs⟩
      · rw [opened] at openedFirst
        cases openedFirst
        rw [result]
      · exact absurd (same.trans bracket.symm) (differs id outer anchor opened found)

/-- Balanced region marks leave the open regions as they were before them. -/
theorem openRegions_run_of_balanced {brackets : List Bracket} (balanced : Balanced brackets) :
    ∀ hits : List Hit, hits.filterMap parser.bracketOf = brackets → ∀ progress : Progress,
      (hits.foldl (parser.step document lines) progress).openRegions = progress.openRegions := by
  induction balanced with
  | nil =>
      intro hits none progress
      exact parser.openRegions_run_of_others document lines hits
        (List.filterMap_eq_nil_iff.mp none) progress
  | @enclose tag inner rest _ _ innerRun restRun =>
      intro hits split progress
      -- The marks divide as their brackets do: some without meaning for regions, the beginning,
      -- those between, the end, those after.
      rw [List.cons_append, List.filterMap_eq_cons_iff] at split
      obtain ⟨before, opening, others, rfl, silent, opens, split⟩ := split
      obtain ⟨between, tail, rfl, innerHits, split⟩ := List.filterMap_eq_append_iff.mp split
      rw [List.filterMap_eq_cons_iff] at split
      obtain ⟨lead, closing, after, rfl, leadSilent, closes, restHits⟩ := split
      simp only [List.foldl_append, List.foldl_cons]
      rw [restRun after restHits]
      have quiet := parser.openRegions_run_of_others document lines before silent progress
      generalize before.foldl (parser.step document lines) progress = start at quiet ⊢
      obtain ⟨opened, anchor, atNew, sameTag⟩ := parser.step_of_opens document lines opens start
      generalize parser.step document lines start opening = entered at opened atNew ⊢
      have stack : ((between ++ lead).foldl (parser.step document lines) entered).openRegions =
          start.forest.size :: start.openRegions := by
        rw [List.foldl_append, parser.openRegions_run_of_others document lines lead leadSilent,
          innerRun between innerHits, opened]
      obtain ⟨later, atLater, laterTag⟩ :=
        parser.tag_run document lines atNew (between ++ lead)
      rw [List.foldl_append] at stack atLater
      rw [parser.step_of_closes document lines closes stack atLater (laterTag.trans sameTag)]
      exact quiet

/-- A new region is the innermost one that is open. -/
theorem isInnermost_progressAfter_of_anchor {text : String} {read rest : List Hit} {hit : Hit}
    {tag : Tag} (split : parser.grammar.hits text = read ++ hit :: rest)
    (role : parser.roleOf hit = .anchor tag) (region : tag.isRegion = true) :
    (parser.progressAfter document lines (read ++ [hit])).forest.IsInnermost
      (parser.progressAfter document lines read).forest.size := by
  have extended : parser.grammar.hits text = (read ++ [hit]) ++ rest := by
    rw [split, List.append_assoc]
    rfl
  obtain ⟨_, sound, _⟩ := parser.sound_progressAfter document lines extended
  refine (sound.isInnermost_iff _).mpr
    ⟨(parser.progressAfter document lines read).openRegions, ?_⟩
  rw [progressAfter_append, parser.step_of_anchor document lines role, openRegions_addAnchor,
    if_pos region]

/-! ### End markers in the forest -/

/-- An end marker always names a region. -/
theorem isRegion_of_ending {hit : Hit} {tag : Tag} (role : parser.roleOf hit = .ending tag) :
    tag.isRegion = true := by
  unfold roleOf at role
  generalize token : String.ofList hit.mark.token = written at role
  cases split : parser.grammar.splitEnd parser.registry.hasRegion written with
  | mk name isEnd =>
      rw [split] at role
      dsimp only at role
      cases found : parser.registry.find? name with
      | none => simp [found] at role
      | some known =>
          cases isEnd with
          | false => simp [found] at role
          | true =>
              simp only [found, if_true, Role.ending.injEq] at role
              have region := Grammar.isRegion_of_splitEnd split
              unfold Registry.hasRegion at region
              rw [found, Option.any_some, role] at region
              exact region

theorem size_step_of_ending {hit : Hit} {tag : Tag} (role : parser.roleOf hit = .ending tag)
    (progress : Progress) :
    (parser.step document lines progress hit).forest.size = progress.forest.size := by
  rw [parser.step_of_ending document lines role]
  rcases closeRegion_cases lines tag hit progress with
    ⟨_, _, _, _, _, _, result⟩ | ⟨unchanged, _⟩
  · rw [result, Forest.size_modify]
  · rw [unchanged]

/-- A closed region stays closed by the same end marker. -/
theorem Progress.Sound.close?_step {limit : Nat} {progress : Progress}
    (sound : progress.Sound limit) {id : Nat} {anchor : Anchor} {close : RegionClose}
    (found : progress.forest.get? id = some anchor) (closed : anchor.close? = some close)
    (hit : Hit) :
    (parser.step document lines progress hit).forest.get? id = some anchor := by
  apply sound.get?_step_of_not_closing parser document lines hit found
  intro tag _role innermost
  obtain ⟨⟨region, atRegion, _, unclosed⟩, _⟩ := innermost
  rw [found] at atRegion
  cases atRegion
  rw [closed] at unclosed
  cases unclosed

theorem Progress.Sound.close?_run {limit : Nat} {progress : Progress}
    (sound : progress.Sound limit) {id : Nat} {anchor : Anchor} {close : RegionClose}
    (found : progress.forest.get? id = some anchor) (closed : anchor.close? = some close)
    (hits : List Hit)
    (ascending : hits.Pairwise fun left right => left.start < right.start)
    (later : ∀ hit, hit ∈ hits → limit ≤ hit.start) :
    (hits.foldl (parser.step document lines) progress).forest.get? id = some anchor := by
  induction hits generalizing limit progress with
  | nil => exact found
  | cons hit rest ih =>
      obtain ⟨hitFirst, restAscending⟩ := List.pairwise_cons.mp ascending
      have next := sound.step parser document lines (later hit List.mem_cons_self)
      have kept := Progress.Sound.close?_step parser document lines sound found closed hit
      exact ih next kept restAscending hitFirst

/-- Whatever closes a region is an end marker with its tag among the marks read so far. -/
theorem close?_progressAfter {text : String} (read : List Hit) : ∀ rest,
    parser.grammar.hits text = read ++ rest → ∀ id anchor close,
      (parser.progressAfter document lines read).forest.get? id = some anchor →
      anchor.close? = some close →
      ∃ hit, hit ∈ read ∧ ∃ tag, parser.roleOf hit = .ending tag ∧ tag.name = anchor.tag ∧
        close = closeOf lines hit := by
  induction read using List.reverseRecOn with
  | nil =>
      intro rest split id anchor close found closed
      simp [progressAfter, Forest.get?] at found
  | append_singleton read hit ih =>
      intro rest split id anchor close found closed
      have before : parser.grammar.hits text = read ++ hit :: rest := by
        rw [split, List.append_assoc]
        rfl
      obtain ⟨reached, sound, _⟩ := parser.sound_progressAfter document lines before
      rw [progressAfter_append] at found
      cases old : (parser.progressAfter document lines read).forest.get? id with
      | none =>
          have unclosed := parser.get?_step_of_new document lines old found
          rw [unclosed] at closed
          cases closed
      | some previous =>
          have fromRead (same : anchor = previous) : ∃ earlier, earlier ∈ read ++ [hit] ∧
              ∃ tag, parser.roleOf earlier = .ending tag ∧ tag.name = anchor.tag ∧
                close = closeOf lines earlier := by
            obtain ⟨earlier, member, result⟩ :=
              ih (hit :: rest) before id anchor close (by rw [old, same]) closed
            exact ⟨earlier, List.mem_append_left _ member, result⟩
          by_cases closing : ∃ tag, parser.roleOf hit = .ending tag ∧
              (parser.progressAfter document lines read).forest.IsInnermost id ∧
              previous.tag = tag.name
          · obtain ⟨tag, role, innermost, same⟩ := closing
            have result := sound.get?_step_of_closing parser document lines role innermost old same
            rw [result] at found
            cases found
            obtain ⟨region, atRegion, isRegion, _⟩ := innermost.1
            rw [old] at atRegion
            cases atRegion
            rw [Anchor.close?_setClose_of_region isRegion] at closed
            cases closed
            exact ⟨hit, by simp, tag, role, by rw [Anchor.tag_setClose, same], rfl⟩
          · have kept := sound.get?_step_of_not_closing parser document lines hit old
              (fun tag role innermost same => closing ⟨tag, role, innermost, same⟩)
            rw [kept] at found
            exact fromRead (Option.some.inj found).symm

end Run

/-! ### The regions of a text -/

/-- How the regions of a text follow its marks. `after read` is the forest when the marks `read`
have been taken into account. -/
structure FollowsEndMarkers (parser : Parser) (document : Path) (text : String)
    (after : List Hit → Forest) : Prop where
  starts : after [] = {}
  ends : after (parser.grammar.hits text) = (parser.parse document text).forest
  passes : ∀ read hit rest, parser.grammar.hits text = read ++ hit :: rest →
    parser.roleOf hit = .unknown → after (read ++ [hit]) = after read
  /-- A mark that begins an anchor adds that anchor, not yet closed. -/
  adds : ∀ read hit rest tag, parser.grammar.hits text = read ++ hit :: rest →
    parser.roleOf hit = .anchor tag → (after (read ++ [hit])).size = (after read).size + 1 ∧
      (after (read ++ [hit])).get? (after read).size =
        some (parser.anchorOf document (Text.LineIndex.ofText text.toList) tag hit)
  /-- If its tag has regions, the new anchor is the innermost region that is open. -/
  opens : ∀ read hit rest tag, parser.grammar.hits text = read ++ hit :: rest →
    parser.roleOf hit = .anchor tag → tag.isRegion = true →
    (after (read ++ [hit])).IsInnermost (after read).size
  /-- An end marker closes the innermost region that is still open if that has its tag. -/
  closes : ∀ read hit rest tag, parser.grammar.hits text = read ++ hit :: rest →
    parser.roleOf hit = .ending tag → ∀ id anchor, (after read).IsInnermost id →
    (after read).get? id = some anchor → anchor.tag = tag.name →
    (after (read ++ [hit])).get? id =
      some (anchor.setClose (closeOf (Text.LineIndex.ofText text.toList) hit))
  /-- No mark changes any other anchor that is there. -/
  keeps : ∀ read hit rest, parser.grammar.hits text = read ++ hit :: rest →
    ∀ id anchor, (after read).get? id = some anchor →
    (∀ tag, parser.roleOf hit = .ending tag → (after read).IsInnermost id →
      anchor.tag ≠ tag.name) →
    (after (read ++ [hit])).get? id = some anchor
  addsNone : ∀ read hit rest tag, parser.grammar.hits text = read ++ hit :: rest →
    parser.roleOf hit = .ending tag → (after (read ++ [hit])).size = (after read).size
  /-- A region that was closed once is not closed again. -/
  closedOnce : ∀ read rest id anchor close, parser.grammar.hits text = read ++ rest →
    (after read).get? id = some anchor → anchor.close? = some close →
    (parser.parse document text).forest.get? id = some anchor
  closesOne : ∀ i j first second left right,
    (parser.parse document text).forest.get? i = some first →
    (parser.parse document text).forest.get? j = some second →
    first.close? = some left → second.close? = some right → left.start = right.start → i = j
  /-- A region is closed after it begins, by an end marker of its tag, over the token of that. -/
  closedBy : ∀ id anchor close, (parser.parse document text).forest.get? id = some anchor →
    anchor.close? = some close → anchor.start < close.start ∧
    ∃ hit, hit ∈ parser.grammar.hits text ∧
      (∃ tag, parser.roleOf hit = .ending tag ∧ tag.isRegion = true ∧ tag.name = anchor.tag) ∧
      close.start = hit.start ∧ close.stop = close.start + Text.byteLength hit.mark.token
  /-- Of two regions, the first is closed before the second begins, or never, or after the second. -/
  nested : ∀ i j first second, (parser.parse document text).forest.get? i = some first →
    (parser.parse document text).forest.get? j = some second →
    first.isRegion = true → second.isRegion = true → first.start < second.start →
    (∃ close, first.close? = some close ∧ close.start < second.start) ∨
      first.close? = none ∨
      ∃ inner outer, second.close? = some inner ∧ first.close? = some outer ∧
        inner.start < outer.start
  balanced : Balanced ((parser.grammar.hits text).filterMap parser.bracketOf) →
    ∀ id, ¬(parser.parse document text).forest.IsOpen id

theorem regions_follow_end_markers (parser : Parser) (document : Path) (text : String) :
    parser.FollowsEndMarkers document text fun read =>
      (read.foldl (parser.step document (Text.LineIndex.ofText text.toList)) {}).forest := by
  have complete : parser.grammar.hits text = parser.grammar.hits text ++ [] :=
    (List.append_nil _).symm
  obtain ⟨reached, sound, _⟩ :=
    parser.sound_progressAfter document (Text.LineIndex.ofText text.toList) complete
  have wellNested := sound.nested
  rw [← forest_parse] at wellNested
  constructor
  case starts => rfl
  case ends => rfl
  case passes =>
    intro read hit rest split role
    rw [List.foldl_append, List.foldl_cons, List.foldl_nil, parser.step_of_unknown _ _ role]
  case adds =>
    intro read hit rest tag split role
    rw [List.foldl_append, List.foldl_cons, List.foldl_nil, parser.step_of_anchor _ _ role,
      forest_addAnchor, Forest.size_push, Forest.get?_push, if_pos rfl]
    exact ⟨rfl, rfl⟩
  case opens =>
    intro read hit rest tag split role region
    exact parser.isInnermost_progressAfter_of_anchor document _ split role region
  case closes =>
    intro read hit rest tag split role id anchor innermost found same
    obtain ⟨_, before, _⟩ := parser.sound_progressAfter document _ split
    rw [List.foldl_append]
    exact before.get?_step_of_closing parser document _ role innermost found same
  case keeps =>
    intro read hit rest split id anchor found other
    obtain ⟨_, before, _⟩ := parser.sound_progressAfter document _ split
    rw [List.foldl_append]
    exact before.get?_step_of_not_closing parser document _ hit found other
  case addsNone =>
    intro read hit rest tag split role
    rw [List.foldl_append]
    exact parser.size_step_of_ending document _ role _
  case closedOnce =>
    intro read rest id anchor close split found closed
    obtain ⟨_, before, later⟩ := parser.sound_progressAfter document _ split
    have ascending := parser.grammar.hits_ascending text
    rw [split] at ascending
    rw [forest_parse, progressAfter, split, List.foldl_append]
    exact Progress.Sound.close?_run parser document _ before found closed rest
      (List.pairwise_append.mp ascending).2.1 later
  case closesOne =>
    intro i j first second left right atFirst atSecond closedFirst closedSecond same
    by_contra different
    exact wellNested.closedApart i j first second left right different atFirst atSecond
      closedFirst closedSecond same
  case closedBy =>
    intro id anchor close found closed
    refine ⟨wellNested.closedAfter id anchor close found closed, ?_⟩
    rw [forest_parse] at found
    obtain ⟨hit, member, tag, role, same, rfl⟩ :=
      parser.close?_progressAfter document _ _ [] complete id anchor close found closed
    exact ⟨hit, member, ⟨tag, role, parser.isRegion_of_ending role, same⟩, rfl, rfl⟩
  case nested =>
    intro i j first second atFirst atSecond firstRegion secondRegion before
    have ordered := wellNested.lt_of_start_lt atFirst atSecond before
    exact wellNested.nested i j first second ordered atFirst atSecond firstRegion secondRegion
  case balanced =>
    intro balanced id isOpen
    have empty := parser.openRegions_run_of_balanced document
      (Text.LineIndex.ofText text.toList) balanced _ rfl {}
    rw [forest_parse] at isOpen
    have member := (sound.listed id).mpr isOpen
    rw [progressAfter, empty] at member
    cases member

end Waymark.Parser
