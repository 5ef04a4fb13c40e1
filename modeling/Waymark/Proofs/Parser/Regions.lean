import Waymark.Parser
import Waymark.Proofs.Anchor.Forest
import Waymark.Proofs.Mark.Offsets

set_option autoImplicit false

/-! Regions and their end markers. The open regions that a pass over the marks keeps are exactly the
regions of its forest without an end marker, innermost first. Hence the regions of a text are nested
properly, whatever marks are between them. -/

namespace Waymark

/-! ### Regions without an end marker -/

namespace Anchor

theorem close?_setClose_of_region {anchor : Anchor} (region : anchor.isRegion = true)
    (close : RegionClose) : (anchor.setClose close).close? = some close := by
  unfold isRegion at region
  unfold setClose close?
  cases kind : anchor.kind with
  | plain => simp [kind] at region
  | region slot => rfl

@[simp] theorem start_setClose (anchor : Anchor) (close : RegionClose) :
    (anchor.setClose close).start = anchor.start := by
  unfold setClose
  split <;> rfl

@[simp] theorem tag_setClose (anchor : Anchor) (close : RegionClose) :
    (anchor.setClose close).tag = anchor.tag := by
  unfold setClose
  split <;> rfl

@[simp] theorem isRegion_setClose (anchor : Anchor) (close : RegionClose) :
    (anchor.setClose close).isRegion = anchor.isRegion := by
  unfold setClose isRegion
  cases kind : anchor.kind <;> simp [kind]

/-- The first of two regions is closed before the second begins, or is never closed, or is closed
after the second. -/
def NestsWith (first second : Anchor) : Prop :=
  (∃ close, first.close? = some close ∧ close.start < second.start) ∨
    first.close? = none ∨
    ∃ inner outer, second.close? = some inner ∧ first.close? = some outer ∧
      inner.start < outer.start

end Anchor

namespace Forest

def IsOpen (forest : Forest) (id : Nat) : Prop :=
  ∃ anchor, forest.get? id = some anchor ∧ anchor.isRegion = true ∧ anchor.close? = none

def IsInnermost (forest : Forest) (id : Nat) : Prop :=
  forest.IsOpen id ∧ ∀ other, forest.IsOpen other → other ≤ id

/-- Anchors in the order of their offsets, regions closed after they begin and by different end
markers, and every two of them nested. -/
structure Nested (forest : Forest) : Prop where
  ascending : ∀ i j first second, i < j → forest.get? i = some first →
    forest.get? j = some second → first.start < second.start
  closedAfter : ∀ id anchor close, forest.get? id = some anchor → anchor.close? = some close →
    anchor.start < close.start
  closedApart : ∀ i j first second left right, i ≠ j → forest.get? i = some first →
    forest.get? j = some second → first.close? = some left → second.close? = some right →
    left.start ≠ right.start
  nested : ∀ i j first second, i < j → forest.get? i = some first →
    forest.get? j = some second → first.isRegion = true → second.isRegion = true →
    first.NestsWith second

theorem Nested.lt_of_start_lt {forest : Forest} (nested : forest.Nested) {i j : Nat}
    {first second : Anchor} (atFirst : forest.get? i = some first)
    (atSecond : forest.get? j = some second) (before : first.start < second.start) : i < j := by
  rcases Nat.lt_trichotomy i j with less | same | greater
  · exact less
  · subst same
    rw [atFirst] at atSecond
    cases atSecond
    omega
  · have reversed := nested.ascending j i second first greater atSecond atFirst
    omega

/-- Whether everything in a forest begins, and whatever is closed is closed, before an offset. -/
structure Before (forest : Forest) (offset : Nat) : Prop where
  started : ∀ id anchor, forest.get? id = some anchor → anchor.start < offset
  closed : ∀ id anchor close, forest.get? id = some anchor → anchor.close? = some close →
    close.start < offset

theorem Before.mono {forest : Forest} {low high : Nat} (before : forest.Before low)
    (below : low ≤ high) : forest.Before high where
  started := by
    intro id anchor found
    exact Nat.lt_of_lt_of_le (before.started id anchor found) below
  closed := by
    intro id anchor close found closed
    exact Nat.lt_of_lt_of_le (before.closed id anchor close found closed) below

theorem get?_push_cases {forest : Forest} {added : Anchor} {parent : Option Nat} {id : Nat}
    {anchor : Anchor} (found : (forest.push added parent).1.get? id = some anchor) :
    forest.get? id = some anchor ∨ (id = forest.size ∧ anchor = added) := by
  rw [get?_push] at found
  by_cases new : id = forest.size
  · rw [if_pos new] at found
    exact Or.inr ⟨new, (Option.some.inj found).symm⟩
  · rw [if_neg new] at found
    exact Or.inl found

theorem Before.push {forest : Forest} {offset : Nat} (before : forest.Before offset)
    {added : Anchor} (started : added.start < offset) (unclosed : added.close? = none)
    (parent : Option Nat) : (forest.push added parent).1.Before offset where
  started := by
    intro id anchor found
    rcases get?_push_cases found with old | ⟨_, rfl⟩
    · exact before.started id anchor old
    · exact started
  closed := by
    intro id anchor close found closed
    rcases get?_push_cases found with old | ⟨_, rfl⟩
    · exact before.closed id anchor close old closed
    · rw [unclosed] at closed
      cases closed

/-- An anchor that begins after all that was there, and is not closed, keeps the regions nested. -/
theorem Nested.push {forest : Forest} (nested : forest.Nested) {added : Anchor}
    (before : forest.Before added.start) (unclosed : added.close? = none) (parent : Option Nat) :
    (forest.push added parent).1.Nested where
  ascending := by
    intro i j first second less atFirst atSecond
    rcases get?_push_cases atSecond with oldSecond | ⟨newSecond, rfl⟩
    · rcases get?_push_cases atFirst with oldFirst | ⟨newFirst, rfl⟩
      · exact nested.ascending i j first second less oldFirst oldSecond
      · have inside := lt_size_of_get? oldSecond
        omega
    · rcases get?_push_cases atFirst with oldFirst | ⟨newFirst, rfl⟩
      · exact before.started i first oldFirst
      · omega
  closedAfter := by
    intro id anchor close found closed
    rcases get?_push_cases found with old | ⟨_, rfl⟩
    · exact nested.closedAfter id anchor close old closed
    · rw [unclosed] at closed
      cases closed
  closedApart := by
    intro i j first second left right different atFirst atSecond closedFirst closedSecond
    rcases get?_push_cases atFirst with oldFirst | ⟨_, rfl⟩
    · rcases get?_push_cases atSecond with oldSecond | ⟨_, rfl⟩
      · exact nested.closedApart i j first second left right different oldFirst oldSecond
          closedFirst closedSecond
      · rw [unclosed] at closedSecond
        cases closedSecond
    · rw [unclosed] at closedFirst
      cases closedFirst
  nested := by
    intro i j first second less atFirst atSecond firstRegion secondRegion
    rcases get?_push_cases atFirst with oldFirst | ⟨_, rfl⟩
    · rcases get?_push_cases atSecond with oldSecond | ⟨_, rfl⟩
      · exact nested.nested i j first second less oldFirst oldSecond firstRegion secondRegion
      · cases closed : first.close? with
        | none => exact Or.inr (Or.inl closed)
        | some close => exact Or.inl ⟨close, closed, before.closed i first close oldFirst closed⟩
    · exact Or.inr (Or.inl unclosed)

private theorem get?_close_cases {forest : Forest} {target id : Nat} {close : RegionClose}
    {region anchor : Anchor} (atTarget : forest.get? target = some region)
    (found : (forest.modify target (·.setClose close)).get? id = some anchor) :
    (id ≠ target ∧ forest.get? id = some anchor) ∨
      (id = target ∧ anchor = region.setClose close) := by
  rw [get?_modify] at found
  by_cases same : target = id
  · rw [if_pos same, ← same, atTarget] at found
    exact Or.inr ⟨same.symm, (Option.some.inj found).symm⟩
  · rw [if_neg same] at found
    exact Or.inl ⟨fun equal => same equal.symm, found⟩

theorem Before.close {forest : Forest} {offset target : Nat} (before : forest.Before offset)
    (isOpen : forest.IsOpen target) {close : RegionClose} (ends : close.start < offset) :
    (forest.modify target (·.setClose close)).Before offset := by
  obtain ⟨region, atTarget, isRegion, _⟩ := isOpen
  constructor
  · intro id anchor found
    rcases get?_close_cases atTarget found with ⟨_, old⟩ | ⟨rfl, rfl⟩
    · exact before.started id anchor old
    · rw [Anchor.start_setClose]
      exact before.started id region atTarget
  · intro id anchor other found closed
    rcases get?_close_cases atTarget found with ⟨_, old⟩ | ⟨rfl, rfl⟩
    · exact before.closed id anchor other old closed
    · rw [Anchor.close?_setClose_of_region isRegion] at closed
      cases closed
      exact ends

/-- Closing the innermost open region keeps the regions nested: all that began after it are closed
already. -/
theorem Nested.closeInnermost {forest : Forest} (nested : forest.Nested) {target : Nat}
    (innermost : forest.IsInnermost target) {close : RegionClose}
    (before : forest.Before close.start) :
    (forest.modify target (·.setClose close)).Nested := by
  obtain ⟨⟨region, atTarget, isRegion, unclosed⟩, last⟩ := innermost
  have closing : (region.setClose close).close? = some close :=
    Anchor.close?_setClose_of_region isRegion close
  constructor
  · intro i j first second less atFirst atSecond
    rcases get?_close_cases atTarget atFirst with ⟨_, oldFirst⟩ | ⟨rfl, rfl⟩
    · rcases get?_close_cases atTarget atSecond with ⟨_, oldSecond⟩ | ⟨rfl, rfl⟩
      · exact nested.ascending i j first second less oldFirst oldSecond
      · rw [Anchor.start_setClose]
        exact nested.ascending i j first region less oldFirst atTarget
    · rcases get?_close_cases atTarget atSecond with ⟨_, oldSecond⟩ | ⟨rfl, rfl⟩
      · rw [Anchor.start_setClose]
        exact nested.ascending i j region second less atTarget oldSecond
      · exact absurd less (Nat.lt_irrefl _)
  · intro id anchor other found closed
    rcases get?_close_cases atTarget found with ⟨_, old⟩ | ⟨rfl, rfl⟩
    · exact nested.closedAfter id anchor other old closed
    · rw [closing] at closed
      cases closed
      rw [Anchor.start_setClose]
      exact before.started id region atTarget
  · intro i j first second left right different atFirst atSecond closedFirst closedSecond
    rcases get?_close_cases atTarget atFirst with ⟨_, oldFirst⟩ | ⟨rfl, rfl⟩
    · rcases get?_close_cases atTarget atSecond with ⟨_, oldSecond⟩ | ⟨rfl, rfl⟩
      · exact nested.closedApart i j first second left right different oldFirst oldSecond
          closedFirst closedSecond
      · rw [closing] at closedSecond
        cases closedSecond
        exact Nat.ne_of_lt (before.closed i first left oldFirst closedFirst)
    · rcases get?_close_cases atTarget atSecond with ⟨_, oldSecond⟩ | ⟨same, _⟩
      · rw [closing] at closedFirst
        cases closedFirst
        exact (Nat.ne_of_lt (before.closed j second right oldSecond closedSecond)).symm
      · exact absurd same.symm different
  · intro i j first second less atFirst atSecond firstRegion secondRegion
    rcases get?_close_cases atTarget atFirst with ⟨_, oldFirst⟩ | ⟨rfl, rfl⟩
    · rcases get?_close_cases atTarget atSecond with ⟨_, oldSecond⟩ | ⟨rfl, rfl⟩
      · exact nested.nested i j first second less oldFirst oldSecond firstRegion secondRegion
      · rcases nested.nested i j first region less oldFirst atTarget firstRegion isRegion with
          ⟨earlier, closed, ended⟩ | never | ⟨inner, _, closed, _⟩
        · exact Or.inl ⟨earlier, closed, by rw [Anchor.start_setClose]; exact ended⟩
        · exact Or.inr (Or.inl never)
        · rw [unclosed] at closed
          cases closed
    · rcases get?_close_cases atTarget atSecond with ⟨_, oldSecond⟩ | ⟨rfl, _⟩
      · -- The second region began after the innermost open one, so it is closed.
        cases closed : second.close? with
        | none =>
            have notAfter := last j ⟨second, oldSecond, secondRegion, closed⟩
            omega
        | some inner =>
            exact Or.inr (Or.inr
              ⟨inner, close, closed, closing, before.closed j second inner oldSecond closed⟩)
      · exact absurd less (Nat.lt_irrefl _)

end Forest

namespace Parser

/-! ### What one mark does -/

inductive Role where
  | unknown
  | anchor (tag : Tag)
  | ending (tag : Tag)
deriving DecidableEq

def roleOf (parser : Parser) (hit : Hit) : Role :=
  let (name, isEnd) :=
    parser.grammar.splitEnd parser.registry.hasRegion (String.ofList hit.mark.token)
  match parser.registry.find? name with
  | none => .unknown
  | some tag => if isEnd then .ending tag else .anchor tag

def closeOf (lines : Text.LineIndex) (hit : Hit) : RegionClose :=
  ⟨hit.start, hit.start + Text.byteLength hit.mark.token, lines.lineOf hit.start⟩

section Step

variable (parser : Parser) (document : Path) (lines : Text.LineIndex)

/-- A step does what the role of the mark says. -/
theorem step_eq (progress : Progress) (hit : Hit) :
    parser.step document lines progress hit =
      match parser.roleOf hit with
      | .unknown => progress
      | .anchor tag => parser.addAnchor document lines tag hit progress
      | .ending tag => closeRegion lines tag hit progress := by
  unfold step roleOf
  obtain ⟨name, isEnd⟩ :=
    parser.grammar.splitEnd parser.registry.hasRegion (String.ofList hit.mark.token)
  dsimp only
  cases parser.registry.find? name with
  | none => rfl
  | some tag => cases isEnd <;> rfl

theorem step_of_unknown {hit : Hit} (role : parser.roleOf hit = .unknown) (progress : Progress) :
    parser.step document lines progress hit = progress := by
  rw [step_eq, role]

theorem step_of_anchor {hit : Hit} {tag : Tag} (role : parser.roleOf hit = .anchor tag)
    (progress : Progress) :
    parser.step document lines progress hit = parser.addAnchor document lines tag hit progress := by
  rw [step_eq, role]

theorem step_of_ending {hit : Hit} {tag : Tag} (role : parser.roleOf hit = .ending tag)
    (progress : Progress) :
    parser.step document lines progress hit = closeRegion lines tag hit progress := by
  rw [step_eq, role]

@[simp] theorem start_anchorOf (tag : Tag) (hit : Hit) :
    (parser.anchorOf document lines tag hit).start = hit.start := rfl

@[simp] theorem tag_anchorOf (tag : Tag) (hit : Hit) :
    (parser.anchorOf document lines tag hit).tag = tag.name := rfl

@[simp] theorem close?_anchorOf (tag : Tag) (hit : Hit) :
    (parser.anchorOf document lines tag hit).close? = none := by
  unfold anchorOf Anchor.close?
  dsimp only
  split
  · rfl
  · rename_i close kind
    split at kind
    · cases kind
      rfl
    · cases kind

@[simp] theorem isRegion_anchorOf (tag : Tag) (hit : Hit) :
    (parser.anchorOf document lines tag hit).isRegion = tag.isRegion := by
  unfold anchorOf Anchor.isRegion
  dsimp only
  cases region : tag.isRegion <;> rfl

theorem forest_addAnchor (tag : Tag) (hit : Hit) (progress : Progress) :
    (parser.addAnchor document lines tag hit progress).forest =
      (progress.forest.push (parser.anchorOf document lines tag hit)
        (parentOf progress.openRegions)).1 := by
  unfold addAnchor
  rfl

theorem openRegions_addAnchor (tag : Tag) (hit : Hit) (progress : Progress) :
    (parser.addAnchor document lines tag hit progress).openRegions =
      if tag.isRegion then progress.forest.size :: progress.openRegions
      else progress.openRegions := by
  unfold addAnchor
  dsimp only
  rw [Forest.push_number]

end Step

/-- An end marker closes the first of the open regions if that has its tag, and else does nothing. -/
theorem closeRegion_cases (lines : Text.LineIndex) (tag : Tag) (hit : Hit) (progress : Progress) :
    (∃ id outer anchor, progress.openRegions = id :: outer ∧
      progress.forest.get? id = some anchor ∧ anchor.tag = tag.name ∧
      closeRegion lines tag hit progress =
        { forest := progress.forest.modify id (·.setClose (closeOf lines hit))
          openRegions := outer }) ∨
    (closeRegion lines tag hit progress = progress ∧
      ∀ id outer anchor, progress.openRegions = id :: outer →
        progress.forest.get? id = some anchor → anchor.tag ≠ tag.name) := by
  unfold closeRegion
  cases opened : progress.openRegions with
  | nil =>
      right
      refine ⟨rfl, ?_⟩
      intro id outer anchor impossible
      cases impossible
  | cons innermost outer =>
      dsimp only
      cases found : progress.forest.get? innermost with
      | none =>
          right
          refine ⟨rfl, ?_⟩
          intro id rest anchor same present
          cases same
          rw [found] at present
          cases present
      | some region =>
          by_cases same : region.tag = tag.name
          · left
            refine ⟨innermost, outer, region, rfl, found, same, ?_⟩
            rw [if_pos (by simp [same])]
            rfl
          · right
            refine ⟨if_neg (by simp [same]), ?_⟩
            intro id rest anchor equal present
            cases equal
            rw [found] at present
            cases present
            exact same

/-- No mark changes the tag or the offset of an anchor that is there. -/
theorem get?_step (parser : Parser) (document : Path) (lines : Text.LineIndex)
    {progress : Progress} {id : Nat} {anchor : Anchor}
    (found : progress.forest.get? id = some anchor) (hit : Hit) :
    ∃ later, (parser.step document lines progress hit).forest.get? id = some later ∧
      later.tag = anchor.tag ∧ later.start = anchor.start := by
  cases role : parser.roleOf hit with
  | unknown =>
      rw [parser.step_of_unknown document lines role]
      exact ⟨anchor, found, rfl, rfl⟩
  | anchor tag =>
      have old : id ≠ progress.forest.size := Nat.ne_of_lt (Forest.lt_size_of_get? found)
      rw [parser.step_of_anchor document lines role, forest_addAnchor, Forest.get?_push,
        if_neg old]
      exact ⟨anchor, found, rfl, rfl⟩
  | ending tag =>
      rw [parser.step_of_ending document lines role]
      rcases closeRegion_cases lines tag hit progress with
        ⟨first, outer, region, _, _, _, result⟩ | ⟨unchanged, _⟩
      · rw [result, Forest.get?_modify, found]
        by_cases same : first = id
        · rw [if_pos same]
          exact ⟨_, rfl, Anchor.tag_setClose anchor _, Anchor.start_setClose anchor _⟩
        · rw [if_neg same]
          exact ⟨anchor, rfl, rfl, rfl⟩
      · rw [unchanged]
        exact ⟨anchor, found, rfl, rfl⟩

/-! ### What a pass keeps -/

/-- The state of a pass all of whose anchors and end markers lie before `limit`. -/
structure Progress.Sound (limit : Nat) (progress : Progress) : Prop where
  nested : progress.forest.Nested
  before : progress.forest.Before limit
  /-- The open regions are those of the forest, the last one first. -/
  listed : ∀ id, id ∈ progress.openRegions ↔ progress.forest.IsOpen id
  descending : progress.openRegions.Pairwise (· > ·)

theorem Progress.sound_initial : Progress.Sound 0 {} where
  nested := by constructor <;> simp [Forest.get?]
  before := by constructor <;> simp [Forest.get?]
  listed := by simp [Forest.IsOpen, Forest.get?]
  descending := List.Pairwise.nil

theorem Progress.Sound.mono {low high : Nat} {progress : Progress} (sound : progress.Sound low)
    (below : low ≤ high) : progress.Sound high :=
  { sound with before := sound.before.mono below }

theorem Progress.Sound.isInnermost_iff {limit : Nat} {progress : Progress}
    (sound : progress.Sound limit) (id : Nat) :
    progress.forest.IsInnermost id ↔ ∃ outer, progress.openRegions = id :: outer := by
  constructor
  · rintro ⟨isOpen, last⟩
    have member := (sound.listed id).mpr isOpen
    cases opened : progress.openRegions with
    | nil =>
        rw [opened] at member
        cases member
    | cons first outer =>
        have descending := sound.descending
        rw [opened] at member descending
        rcases List.mem_cons.mp member with same | later
        · exact ⟨outer, by rw [same]⟩
        · have above := (List.pairwise_cons.mp descending).1 id later
          have firstOpen := (sound.listed first).mp (by rw [opened]; exact List.mem_cons_self)
          have below := last first firstOpen
          omega
  · rintro ⟨outer, opened⟩
    have descending := sound.descending
    rw [opened] at descending
    refine ⟨(sound.listed id).mp (by rw [opened]; exact List.mem_cons_self), ?_⟩
    intro other isOpen
    have member := (sound.listed other).mpr isOpen
    rw [opened] at member
    rcases List.mem_cons.mp member with same | later
    · exact Nat.le_of_eq same
    · exact Nat.le_of_lt ((List.pairwise_cons.mp descending).1 other later)

theorem Progress.Sound.addAnchor {limit : Nat} {progress : Progress} (sound : progress.Sound limit)
    (parser : Parser) (document : Path) (lines : Text.LineIndex) (tag : Tag) {hit : Hit}
    (later : limit ≤ hit.start) :
    (parser.addAnchor document lines tag hit progress).Sound (hit.start + 1) where
  nested := by
    rw [forest_addAnchor]
    exact sound.nested.push (sound.before.mono later)
      (close?_anchorOf parser document lines tag hit) _
  before := by
    rw [forest_addAnchor]
    exact (sound.before.mono (by omega)).push (Nat.lt_succ_self hit.start)
      (close?_anchorOf parser document lines tag hit) _
  listed := by
    intro id
    have opened : (parser.addAnchor document lines tag hit progress).forest.IsOpen id ↔
        (id = progress.forest.size ∧ tag.isRegion = true) ∨ progress.forest.IsOpen id := by
      unfold Forest.IsOpen
      simp only [forest_addAnchor, Forest.get?_push]
      by_cases new : id = progress.forest.size
      · have missing := (progress.forest.get?_eq_none_iff id).mpr (Nat.le_of_eq new.symm)
        simp [new ▸ missing, new]
      · simp [new]
    rw [opened, openRegions_addAnchor, ← sound.listed id]
    cases region : tag.isRegion <;> simp
  descending := by
    rw [openRegions_addAnchor]
    cases region : tag.isRegion with
    | false => simpa using sound.descending
    | true =>
        refine List.Pairwise.cons ?_ sound.descending
        intro id member
        obtain ⟨anchor, found, _⟩ := (sound.listed id).mp member
        exact Forest.lt_size_of_get? found

theorem Progress.Sound.closeFirst {limit : Nat} {progress : Progress}
    (sound : progress.Sound limit) (lines : Text.LineIndex) {hit : Hit}
    (later : limit ≤ hit.start) {target : Nat} {outer : List Nat}
    (opened : progress.openRegions = target :: outer) :
    Progress.Sound (hit.start + 1)
      { forest := progress.forest.modify target (·.setClose (closeOf lines hit))
        openRegions := outer } := by
  have innermost := (sound.isInnermost_iff target).mpr ⟨outer, opened⟩
  obtain ⟨region, atTarget, isRegion, unclosed⟩ := innermost.1
  constructor
  · exact sound.nested.closeInnermost innermost (sound.before.mono later)
  · exact (sound.before.mono (by omega)).close innermost.1 (Nat.lt_succ_self hit.start)
  · intro id
    have descending := sound.descending
    rw [opened] at descending
    have outside : target ∉ outer := fun member =>
      Nat.lt_irrefl _ ((List.pairwise_cons.mp descending).1 target member)
    have listed := sound.listed id
    rw [opened, List.mem_cons] at listed
    unfold Forest.IsOpen
    dsimp only
    rw [Forest.get?_modify]
    by_cases same : target = id
    · subst same
      simp only [if_true, atTarget, Option.map_some, Option.some.injEq]
      constructor
      · intro member
        exact absurd member outside
      · rintro ⟨anchor, rfl, _, stillOpen⟩
        rw [Anchor.close?_setClose_of_region isRegion] at stillOpen
        cases stillOpen
    · rw [if_neg same]
      constructor
      · intro member
        exact listed.mp (Or.inr member)
      · intro isOpen
        exact (listed.mpr isOpen).resolve_left fun equal => same equal.symm
  · have descending := sound.descending
    rw [opened] at descending
    exact (List.pairwise_cons.mp descending).2

/-- One mark keeps the state sound. -/
theorem Progress.Sound.step {limit : Nat} {progress : Progress} (sound : progress.Sound limit)
    (parser : Parser) (document : Path) (lines : Text.LineIndex) {hit : Hit}
    (later : limit ≤ hit.start) :
    (parser.step document lines progress hit).Sound (hit.start + 1) := by
  cases role : parser.roleOf hit with
  | unknown =>
      rw [parser.step_of_unknown document lines role]
      exact sound.mono (by omega)
  | anchor tag =>
      rw [parser.step_of_anchor document lines role]
      exact sound.addAnchor parser document lines tag later
  | ending tag =>
      rw [parser.step_of_ending document lines role]
      rcases closeRegion_cases lines tag hit progress with
        ⟨id, outer, anchor, opened, _, _, result⟩ | ⟨unchanged, _⟩
      · rw [result]
        exact sound.closeFirst lines later opened
      · rw [unchanged]
        exact sound.mono (by omega)

/-- A mark closes the innermost open region if it is an end marker with its tag. -/
theorem Progress.Sound.get?_step_of_closing {limit : Nat} {progress : Progress}
    (sound : progress.Sound limit) (parser : Parser) (document : Path) (lines : Text.LineIndex)
    {hit : Hit} {tag : Tag} (role : parser.roleOf hit = .ending tag) {id : Nat} {anchor : Anchor}
    (innermost : progress.forest.IsInnermost id) (found : progress.forest.get? id = some anchor)
    (same : anchor.tag = tag.name) :
    (parser.step document lines progress hit).forest.get? id =
      some (anchor.setClose (closeOf lines hit)) := by
  obtain ⟨outer, opened⟩ := (sound.isInnermost_iff id).mp innermost
  rw [parser.step_of_ending document lines role]
  rcases closeRegion_cases lines tag hit progress with
    ⟨first, rest, region, openedFirst, _, _, result⟩ | ⟨_, differs⟩
  · rw [opened] at openedFirst
    cases openedFirst
    rw [result, Forest.get?_modify, if_pos rfl, found, Option.map_some]
  · exact absurd same (differs id outer anchor opened found)

/-- Every other mark leaves the anchors that are there as they are. -/
theorem Progress.Sound.get?_step_of_not_closing {limit : Nat} {progress : Progress}
    (sound : progress.Sound limit) (parser : Parser) (document : Path) (lines : Text.LineIndex)
    (hit : Hit) {id : Nat} {anchor : Anchor} (found : progress.forest.get? id = some anchor)
    (other : ∀ tag, parser.roleOf hit = .ending tag → progress.forest.IsInnermost id →
      anchor.tag ≠ tag.name) :
    (parser.step document lines progress hit).forest.get? id = some anchor := by
  cases role : parser.roleOf hit with
  | unknown =>
      rw [parser.step_of_unknown document lines role]
      exact found
  | anchor tag =>
      have old : id ≠ progress.forest.size := Nat.ne_of_lt (Forest.lt_size_of_get? found)
      rw [parser.step_of_anchor document lines role, forest_addAnchor, Forest.get?_push,
        if_neg old]
      exact found
  | ending tag =>
      rw [parser.step_of_ending document lines role]
      rcases closeRegion_cases lines tag hit progress with
        ⟨first, outer, region, opened, atFirst, same, result⟩ | ⟨unchanged, _⟩
      · have different : first ≠ id := by
          intro equal
          subst equal
          rw [found] at atFirst
          cases atFirst
          exact other tag role ((sound.isInnermost_iff first).mpr ⟨outer, opened⟩) same
        rw [result, Forest.get?_modify, if_neg different]
        exact found
      · rw [unchanged]
        exact found

/-- An anchor that a mark adds is not closed. -/
theorem get?_step_of_new (parser : Parser) (document : Path) (lines : Text.LineIndex)
    {progress : Progress} {hit : Hit} {id : Nat} {anchor : Anchor}
    (missing : progress.forest.get? id = none)
    (found : (parser.step document lines progress hit).forest.get? id = some anchor) :
    anchor.close? = none := by
  cases role : parser.roleOf hit with
  | unknown =>
      rw [parser.step_of_unknown document lines role, missing] at found
      cases found
  | anchor tag =>
      rw [parser.step_of_anchor document lines role, forest_addAnchor] at found
      rcases Forest.get?_push_cases found with old | ⟨_, rfl⟩
      · rw [missing] at old
        cases old
      · exact close?_anchorOf parser document lines tag hit
  | ending tag =>
      rw [parser.step_of_ending document lines role] at found
      rcases closeRegion_cases lines tag hit progress with
        ⟨first, outer, region, _, _, _, result⟩ | ⟨unchanged, _⟩
      · rw [result, Forest.get?_modify, missing, Option.map_none, ite_self] at found
        cases found
      · rw [unchanged, missing] at found
        cases found

/-- The state after some of the marks of a text is sound up to the next mark. -/
theorem Progress.Sound.run {limit : Nat} {progress : Progress} (sound : progress.Sound limit)
    (parser : Parser) (document : Path) (lines : Text.LineIndex) (read rest : List Hit)
    (ascending : (read ++ rest).Pairwise fun left right => left.start < right.start)
    (later : ∀ hit, hit ∈ read ++ rest → limit ≤ hit.start) :
    ∃ reached, (read.foldl (parser.step document lines) progress).Sound reached ∧
      limit ≤ reached ∧ ∀ hit, hit ∈ rest → reached ≤ hit.start := by
  induction read generalizing limit progress with
  | nil => exact ⟨limit, sound, Nat.le_refl _, later⟩
  | cons hit read ih =>
      obtain ⟨hitFirst, restAscending⟩ := List.pairwise_cons.mp ascending
      have hitLater := later hit List.mem_cons_self
      obtain ⟨reached, reachedSound, above, beforeRest⟩ :=
        ih (sound.step parser document lines hitLater) restAscending hitFirst
      exact ⟨reached, reachedSound, by omega, beforeRest⟩

def progressAfter (parser : Parser) (document : Path) (lines : Text.LineIndex)
    (read : List Hit) : Progress :=
  read.foldl (parser.step document lines) {}

theorem progressAfter_append (parser : Parser) (document : Path) (lines : Text.LineIndex)
    (read : List Hit) (hit : Hit) :
    parser.progressAfter document lines (read ++ [hit]) =
      parser.step document lines (parser.progressAfter document lines read) hit := by
  unfold progressAfter
  rw [List.foldl_append]
  rfl

theorem sound_progressAfter (parser : Parser) (document : Path) (lines : Text.LineIndex)
    {text : String} {read rest : List Hit} (split : parser.grammar.hits text = read ++ rest) :
    ∃ reached, (parser.progressAfter document lines read).Sound reached ∧
      ∀ hit, hit ∈ rest → reached ≤ hit.start := by
  have ascending := parser.grammar.hits_ascending text
  rw [split] at ascending
  obtain ⟨reached, sound, _, later⟩ :=
    Progress.sound_initial.run parser document lines read rest ascending
      fun hit _ => Nat.zero_le _
  exact ⟨reached, sound, later⟩

theorem forest_parse (parser : Parser) (document : Path) (text : String) :
    (parser.parse document text).forest =
      (parser.progressAfter document (Text.LineIndex.ofText text.toList)
        (parser.grammar.hits text)).forest := rfl

theorem nested_parse (parser : Parser) (document : Path) (text : String) :
    (parser.parse document text).forest.Nested := by
  obtain ⟨_, sound, _⟩ :=
    parser.sound_progressAfter document (Text.LineIndex.ofText text.toList) (List.append_nil _).symm
  exact sound.nested

end Parser

end Waymark
