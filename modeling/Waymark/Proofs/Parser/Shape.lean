import Mathlib.Data.List.Chain
import Mathlib.Data.List.Sort
import Waymark.Proofs.Parser.Origin

set_option autoImplicit false

/-! Where an anchor is placed. The forest of a text depends only on which regions are open where an
anchor begins: the anchor is below the innermost of these within the nesting limit, or a root if
there is none. It follows that the forest lists the anchors in the order of the text, and that no
way down from a root is longer than the limit allows. -/

namespace Waymark

/-- A region that begins before an offset and is not closed before it. -/
def Anchor.spans (anchor : Anchor) (offset : Nat) : Bool :=
  anchor.isRegion && anchor.start < offset && anchor.close?.all (offset ≤ ·.start)

namespace Forest

def openAt (forest : Forest) (offset : Nat) : List Nat :=
  (List.range forest.size).filter fun id => (forest.get? id).any (·.spans offset)

/-- The anchor below which an anchor belongs: of the regions that are open where it begins, the
innermost within the limit. -/
def placeOf (forest : Forest) (id : Nat) : Option Nat :=
  (forest.get? id).bind fun anchor =>
    let regions := forest.openAt anchor.start
    regions[min regions.length Parser.maxRegionDepth - 1]?

/-! ### The open regions of a nested forest -/

theorem mem_openAt_iff {forest : Forest} {offset id : Nat} :
    id ∈ forest.openAt offset ↔
      ∃ anchor, forest.get? id = some anchor ∧ anchor.spans offset = true := by
  unfold openAt
  rw [List.mem_filter, List.mem_range, Option.any_eq_true]
  constructor
  · rintro ⟨_, anchor, found, spans⟩
    exact ⟨anchor, found, spans⟩
  · rintro ⟨anchor, found, spans⟩
    exact ⟨lt_size_of_get? found, anchor, found, spans⟩

theorem openAt_pairwise (forest : Forest) (offset : Nat) :
    (forest.openAt offset).Pairwise (· < ·) :=
  List.Pairwise.filter _ List.pairwise_lt_range

/-- What is open where an open region begins is what is open around it now. -/
theorem Nested.openAt_start {forest : Forest} (nested : forest.Nested) {offset id : Nat}
    {anchor : Anchor} (found : forest.get? id = some anchor) (spans : anchor.spans offset = true) :
    forest.openAt anchor.start = (forest.openAt offset).filter (· < id) := by
  unfold openAt
  rw [List.filter_filter]
  apply List.filter_congr
  intro other _member
  simp only [Anchor.spans, Bool.and_eq_true, decide_eq_true_eq] at spans
  obtain ⟨⟨region, started⟩, unclosed⟩ := spans
  cases atOther : forest.get? other with
  | none => simp
  | some around =>
      rw [Bool.eq_iff_iff]
      simp only [Option.any_some, Anchor.spans, Bool.and_eq_true, decide_eq_true_eq]
      constructor
      · rintro ⟨⟨aroundRegion, before⟩, aroundUnclosed⟩
        have earlier := nested.lt_of_start_lt atOther found before
        refine ⟨earlier, ⟨aroundRegion, by omega⟩, ?_⟩
        rcases nested.nested other id around anchor earlier atOther found aroundRegion region with
          ⟨close, closed, closedBefore⟩ | never | ⟨inner, outer, innerClosed, outerClosed, order⟩
        · rw [closed] at aroundUnclosed
          simp only [Option.all_some, decide_eq_true_eq] at aroundUnclosed
          omega
        · rw [never]
          rfl
        · rw [innerClosed] at unclosed
          rw [outerClosed]
          simp only [Option.all_some, decide_eq_true_eq] at unclosed ⊢
          omega
      · rintro ⟨earlier, ⟨aroundRegion, _⟩, aroundUnclosed⟩
        have before := nested.ascending other id around anchor earlier atOther found
        refine ⟨⟨aroundRegion, before⟩, ?_⟩
        cases closed : around.close? with
        | none => rfl
        | some close =>
            rw [closed] at aroundUnclosed
            simp only [Option.all_some, decide_eq_true_eq] at aroundUnclosed ⊢
            omega

private theorem length_filter_lt {ids : List Nat} (ascending : ids.Pairwise (· < ·)) {index id : Nat}
    (found : ids[index]? = some id) : (ids.filter (· < id)).length = index := by
  induction ids generalizing index with
  | nil => simp at found
  | cons head rest ih =>
      obtain ⟨headFirst, restAscending⟩ := List.pairwise_cons.mp ascending
      cases index with
      | zero =>
          simp only [List.getElem?_cons_zero, Option.some.injEq] at found
          subst found
          rw [List.filter_cons_of_neg (by simp), List.length_eq_zero_iff, List.filter_eq_nil_iff]
          intro other member
          have above := headFirst other member
          simp only [decide_eq_true_eq]
          omega
      | succ index =>
          rw [List.getElem?_cons_succ] at found
          have above := headFirst id (List.mem_of_getElem? found)
          rw [List.filter_cons_of_pos (by simpa using above), List.length_cons,
            ih restAscending found]

/-- The position of an open region among the open ones is its depth. -/
theorem Nested.length_openAt {forest : Forest} (nested : forest.Nested) {offset index id : Nat}
    {anchor : Anchor} (placed : (forest.openAt offset)[index]? = some id)
    (found : forest.get? id = some anchor) : (forest.openAt anchor.start).length = index := by
  obtain ⟨same, atSame, spans⟩ := mem_openAt_iff.mp (List.mem_of_getElem? placed)
  rw [found] at atSame
  cases atSame
  rw [nested.openAt_start found spans]
  exact length_filter_lt (forest.openAt_pairwise offset) placed

/-! ### Places -/

theorem placeOf_eq_some_iff {forest : Forest} {id above : Nat} {anchor : Anchor}
    (found : forest.get? id = some anchor) :
    forest.placeOf id = some above ↔
      (forest.openAt anchor.start)[
        min (forest.openAt anchor.start).length Parser.maxRegionDepth - 1]? = some above := by
  unfold placeOf
  rw [found]
  rfl

theorem placeOf_eq_none_iff {forest : Forest} {id : Nat} {anchor : Anchor}
    (found : forest.get? id = some anchor) :
    forest.placeOf id = none ↔ forest.openAt anchor.start = [] := by
  unfold placeOf
  rw [found]
  simp only [Option.bind_some, List.getElem?_eq_none_iff]
  constructor
  · intro outside
    by_contra nonempty
    have positive := List.length_pos_iff.mpr nonempty
    omega
  · intro empty
    rw [empty]
    exact Nat.zero_le _

/-- The depth of a placed anchor is one more than that of the anchor above it. -/
theorem Nested.depth_placeOf {forest : Forest} (nested : forest.Nested) {id above : Nat}
    {anchor region : Anchor} (found : forest.get? id = some anchor)
    (atAbove : forest.get? above = some region) (placed : forest.placeOf id = some above) :
    min (forest.openAt anchor.start).length Parser.maxRegionDepth =
      (forest.openAt region.start).length + 1 := by
  have index := (placeOf_eq_some_iff found).mp placed
  have inside := (List.getElem?_eq_some_iff.mp index).1
  have depth := nested.length_openAt index atAbove
  have limit : 0 < Parser.maxRegionDepth := by decide
  omega

theorem Nested.exists_placeOf {forest : Forest} (nested : forest.Nested) {id above : Nat}
    {anchor : Anchor} (found : forest.get? id = some anchor)
    (placed : forest.placeOf id = some above) :
    ∃ region, forest.get? above = some region ∧ region.spans anchor.start = true ∧ above < id := by
  have index := (placeOf_eq_some_iff found).mp placed
  obtain ⟨region, atAbove, spans⟩ := mem_openAt_iff.mp (List.mem_of_getElem? index)
  refine ⟨region, atAbove, spans, ?_⟩
  simp only [Anchor.spans, Bool.and_eq_true, decide_eq_true_eq] at spans
  exact nested.lt_of_start_lt atAbove found spans.1.2

/-- Between an anchor and the region above it there are only anchors at or below that region. -/
theorem Nested.contiguous_placeOf {forest : Forest} (nested : forest.Nested) :
    Contiguous forest.size forest.placeOf where
  earlier := by
    intro child above inside placed
    obtain ⟨anchor, found⟩ := exists_get?_of_lt inside
    obtain ⟨_, _, _, before⟩ := nested.exists_placeOf found placed
    exact before
  between := by
    intro child above inner inside placed afterAbove beforeChild
    obtain ⟨anchor, found⟩ := exists_get?_of_lt inside
    obtain ⟨between, atInner⟩ := exists_get?_of_lt (Nat.lt_trans beforeChild inside)
    obtain ⟨region, atAbove, spans, _⟩ := nested.exists_placeOf found placed
    have depth := nested.depth_placeOf found atAbove placed
    have innerBefore := nested.ascending inner child between anchor beforeChild atInner found
    have aboveBefore := nested.ascending above inner region between afterAbove atAbove atInner
    -- The region is still open at the child, so it is open at the anchor between them.
    have stillOpen : region.spans between.start = true := by
      simp only [Anchor.spans, Bool.and_eq_true, decide_eq_true_eq] at spans ⊢
      refine ⟨⟨spans.1.1, aboveBefore⟩, ?_⟩
      cases closed : region.close? with
      | none => rfl
      | some close =>
          have unclosed := spans.2
          rw [closed] at unclosed
          simp only [Option.all_some, decide_eq_true_eq] at unclosed ⊢
          omega
    obtain ⟨index, atIndex⟩ :=
      List.mem_iff_getElem?.mp (mem_openAt_iff.mpr ⟨region, atAbove, stillOpen⟩)
    have sameDepth := nested.length_openAt atIndex atAbove
    have indexInside := (List.getElem?_eq_some_iff.mp atIndex).1
    have innermost : index ≤
        min (forest.openAt between.start).length Parser.maxRegionDepth - 1 := by omega
    have innermostInside :
        min (forest.openAt between.start).length Parser.maxRegionDepth - 1 <
          (forest.openAt between.start).length := by omega
    obtain ⟨nearer, atNearer⟩ : ∃ nearer, (forest.openAt between.start)[
        min (forest.openAt between.start).length Parser.maxRegionDepth - 1]? = some nearer :=
      ⟨_, List.getElem?_eq_getElem innermostInside⟩
    refine ⟨nearer, (placeOf_eq_some_iff atInner).mpr atNearer, ?_⟩
    rcases Nat.eq_or_lt_of_le innermost with same | less
    · rw [← same, atIndex] at atNearer
      exact Nat.le_of_eq (Option.some.inj atNearer)
    · have ordered := List.pairwise_iff_getElem.mp (forest.openAt_pairwise between.start)
        index _ indexInside innermostInside less
      rw [List.getElem?_eq_getElem indexInside, Option.some.injEq] at atIndex
      rw [List.getElem?_eq_getElem innermostInside, Option.some.injEq] at atNearer
      rw [atIndex, atNearer] at ordered
      exact Nat.le_of_lt ordered

/-- No way down a forest passes more anchors than the nesting limit and one. -/
theorem Nested.length_chain_le {forest : Forest} (nested : forest.Nested)
    (arranged : Arranged forest forest.placeOf) (path : List Nat) : ∀ id anchor,
    forest.get? id = some anchor →
    (id :: path).IsChain (fun above child => child ∈ forest.children above) →
    (id :: path).length + min (forest.openAt anchor.start).length Parser.maxRegionDepth ≤
      Parser.maxRegionDepth + 1 := by
  induction path with
  | nil =>
      intro id anchor found _chain
      simp only [List.length_cons, List.length_nil]
      omega
  | cons child path ih =>
      intro id anchor found chain
      obtain ⟨below, further⟩ := List.isChain_cons_cons.mp chain
      obtain ⟨inside, placed⟩ := arranged.mem_children_iff.mp below
      obtain ⟨next, atChild⟩ := exists_get?_of_lt inside
      have bound := ih child next atChild further
      have depth := nested.depth_placeOf atChild found placed
      simp only [List.length_cons] at bound ⊢
      omega

end Forest

namespace Parser

/-! ### What a pass keeps -/

/-- The open regions of a pass are those that are open at the next mark. -/
theorem Progress.Sound.openAt_eq {limit : Nat} {progress : Progress}
    (sound : progress.Sound limit) {offset : Nat} (later : limit ≤ offset) :
    progress.forest.openAt offset = progress.openRegions.reverse := by
  apply List.Pairwise.eq_of_mem_iff (progress.forest.openAt_pairwise offset)
    (List.pairwise_reverse.mpr sound.descending)
  intro id
  rw [List.mem_reverse, sound.listed id, Forest.mem_openAt_iff]
  constructor
  · rintro ⟨anchor, found, spans⟩
    simp only [Anchor.spans, Bool.and_eq_true, decide_eq_true_eq] at spans
    refine ⟨anchor, found, spans.1.1, ?_⟩
    cases closed : anchor.close? with
    | none => rfl
    | some close =>
        have bound := sound.before.closed id anchor close found closed
        have unclosed := spans.2
        rw [closed] at unclosed
        simp only [Option.all_some, decide_eq_true_eq] at unclosed
        omega
  · rintro ⟨anchor, found, region, unclosed⟩
    have started := sound.before.started id anchor found
    refine ⟨anchor, found, ?_⟩
    simp only [Anchor.spans, region, unclosed, Option.all_none, Bool.true_and, Bool.and_true,
      decide_eq_true_eq]
    omega

theorem parentOf_eq (openRegions : List Nat) :
    parentOf openRegions =
      openRegions.reverse[min openRegions.reverse.length maxRegionDepth - 1]? := by
  unfold parentOf
  rw [List.head?_drop, List.length_reverse]
  have limit : 0 < maxRegionDepth := by decide
  cases openRegions with
  | nil => rfl
  | cons first rest =>
      apply (List.getElem?_reverse' _).symm
      simp only [List.length_cons]
      omega

/-- Marks after an offset do not change which regions are open there: what they add begins later,
and what they close is closed later. -/
theorem Progress.Sound.openAt_step {limit : Nat} {progress : Progress}
    (sound : progress.Sound limit) (parser : Parser) (document : Path) (lines : Text.LineIndex)
    {hit : Hit} {offset : Nat} (before : offset ≤ hit.start) :
    (parser.step document lines progress hit).forest.openAt offset =
      progress.forest.openAt offset := by
  cases role : parser.roleOf hit with
  | unknown => rw [parser.step_of_unknown document lines role]
  | anchor tag =>
      rw [parser.step_of_anchor document lines role, forest_addAnchor]
      unfold Forest.openAt
      rw [Forest.size_push, List.range_succ, List.filter_append]
      have newNotOpen : (parser.anchorOf document lines tag hit).spans offset = false := by
        simp [Anchor.spans, Nat.not_lt.mpr before]
      rw [List.filter_cons_of_neg (by simp [Forest.get?_push, newNotOpen]), List.filter_nil,
        List.append_nil]
      apply List.filter_congr
      intro id member
      rw [Forest.get?_push, if_neg (Nat.ne_of_lt (List.mem_range.mp member))]
  | ending tag =>
      rw [parser.step_of_ending document lines role]
      rcases closeRegion_cases lines tag hit progress with
        ⟨target, outer, region, opened, atTarget, _, result⟩ | ⟨unchanged, _⟩
      · rw [result]
        unfold Forest.openAt
        rw [Forest.size_modify]
        apply List.filter_congr
        intro id _member
        rw [Forest.get?_modify]
        by_cases same : target = id
        · subst same
          obtain ⟨known, atKnown, isRegion, unclosed⟩ :=
            ((sound.isInnermost_iff target).mpr ⟨outer, opened⟩).1
          rw [atTarget] at atKnown
          cases atKnown
          rw [if_pos rfl, atTarget]
          simp only [Option.map_some, Option.any_some, Anchor.spans, Anchor.isRegion_setClose,
            Anchor.start_setClose, Anchor.close?_setClose_of_region isRegion, unclosed,
            Option.all_some, Option.all_none, closeOf, decide_eq_true before]
        · rw [if_neg same]
      · rw [unchanged]

theorem Progress.Sound.placeOf_step {limit : Nat} {progress : Progress}
    (sound : progress.Sound limit) (parser : Parser) (document : Path) (lines : Text.LineIndex)
    {hit : Hit} (later : limit ≤ hit.start) {id : Nat} (inside : id < progress.forest.size) :
    (parser.step document lines progress hit).forest.placeOf id = progress.forest.placeOf id := by
  obtain ⟨anchor, found⟩ := Forest.exists_get?_of_lt inside
  obtain ⟨next, atNext, _, sameStart⟩ := parser.get?_step document lines found hit
  have started := sound.before.started id anchor found
  unfold Forest.placeOf
  rw [atNext, found]
  simp only [Option.bind_some, sameStart]
  rw [sound.openAt_step parser document lines (by omega)]

/-- One mark keeps the anchors where they belong. -/
theorem Progress.Sound.arranged_step {limit : Nat} {progress : Progress}
    (sound : progress.Sound limit) (parser : Parser) (document : Path) (lines : Text.LineIndex)
    {hit : Hit} (later : limit ≤ hit.start)
    (arranged : Forest.Arranged progress.forest progress.forest.placeOf) :
    Forest.Arranged (parser.step document lines progress hit).forest
      (parser.step document lines progress hit).forest.placeOf := by
  have kept (id : Nat) (inside : id < progress.forest.size) :=
    sound.placeOf_step parser document lines later inside
  have opened := sound.openAt_step parser document lines (Nat.le_refl hit.start)
  rw [sound.openAt_eq later] at opened
  cases role : parser.roleOf hit with
  | unknown =>
      rw [parser.step_of_unknown document lines role]
      exact arranged
  | anchor tag =>
      rw [parser.step_of_anchor document lines role] at kept opened ⊢
      generalize next : parser.addAnchor document lines tag hit progress = result
        at kept opened ⊢
      have pushed := forest_addAnchor parser document lines tag hit progress
      rw [next] at pushed
      have placed : result.forest.placeOf progress.forest.size =
          parentOf progress.openRegions := by
        unfold Forest.placeOf
        rw [pushed, Forest.get?_push, if_pos rfl, ← pushed]
        simp only [Option.bind_some, start_anchorOf]
        rw [opened, parentOf_eq]
      have earlier (above : Nat) (found : result.forest.placeOf progress.forest.size = some above) :
          above < progress.forest.size := by
        rw [placed] at found
        have member : above ∈ progress.openRegions :=
          List.mem_of_mem_drop (List.mem_of_mem_head? found)
        obtain ⟨_, present, _⟩ := (sound.listed above).mp member
        exact Forest.lt_size_of_get? present
      have result := arranged.push (parser.anchorOf document lines tag hit) kept earlier
      rw [placed, ← pushed] at result
      exact result
  | ending tag =>
      rw [parser.step_of_ending document lines role] at kept ⊢
      rcases closeRegion_cases lines tag hit progress with
        ⟨target, outer, region, _, _, _, result⟩ | ⟨unchanged, _⟩
      · rw [result] at kept ⊢
        exact arranged.modify target (·.setClose (closeOf lines hit)) kept
      · rw [unchanged]
        exact arranged

theorem Progress.Sound.arranged_run {limit : Nat} {progress : Progress}
    (sound : progress.Sound limit) (parser : Parser) (document : Path) (lines : Text.LineIndex)
    (hits : List Hit) (ascending : hits.Pairwise fun left right => left.start < right.start)
    (later : ∀ hit, hit ∈ hits → limit ≤ hit.start)
    (arranged : Forest.Arranged progress.forest progress.forest.placeOf) :
    Forest.Arranged (hits.foldl (parser.step document lines) progress).forest
      (hits.foldl (parser.step document lines) progress).forest.placeOf := by
  induction hits generalizing limit progress with
  | nil => exact arranged
  | cons hit rest ih =>
      obtain ⟨hitFirst, restAscending⟩ := List.pairwise_cons.mp ascending
      have hitLater := later hit List.mem_cons_self
      exact ih (sound.step parser document lines hitLater) restAscending hitFirst
        (sound.arranged_step parser document lines hitLater arranged)

/-! ### The forest of a text -/

theorem arranged_parse (parser : Parser) (document : Path) (text : String) :
    (parser.parse document text).forest.Arranged (parser.parse document text).forest.placeOf :=
  Progress.sound_initial.arranged_run parser document (Text.LineIndex.ofText text.toList)
    (parser.grammar.hits text) (parser.grammar.hits_ascending text) (fun _ _ => Nat.zero_le _)
    (Forest.arranged_empty _)

theorem flatten_parse (parser : Parser) (document : Path) (text : String) :
    (parser.parse document text).forest.flatten (parser.parse document text).forest.rootList =
      List.range (parser.parse document text).forest.size :=
  Forest.flatten_rootList_eq_range (parser.arranged_parse document text)
    (parser.nested_parse document text).contiguous_placeOf

/-- The shape of the forest of a text, whose anchors lie below the innermost region that is open where
they begin, as far as the nesting limit allows. -/
structure ShapedByRegions (parser : Parser) (document : Path) (text : String) (forest : Forest) :
    Prop where
  /-- Each mark that begins an anchor has its anchor, a region if its tag has regions. -/
  begun : parser.Begun document (Text.LineIndex.ofText text.toList)
    (parser.beginnings (parser.grammar.hits text)) forest
  ascending : ∀ i j first second, i < j → forest.get? i = some first →
    forest.get? j = some second → first.start < second.start
  listed : ∀ offset id, id ∈ forest.openAt offset ↔
    ∃ region, forest.get? id = some region ∧ region.isRegion = true ∧ region.start < offset ∧
      ∀ close, region.close? = some close → ¬close.start < offset
  ordered : ∀ offset, (forest.openAt offset).Pairwise fun i j => ∀ first second,
    forest.get? i = some first → forest.get? j = some second → first.start < second.start
  root_iff : ∀ id anchor, forest.get? id = some anchor →
    (id ∈ forest.rootList ↔ forest.openAt anchor.start = [])
  parent_iff : ∀ id anchor above, forest.get? id = some anchor →
    (id ∈ forest.children above ↔
      forest.openAt anchor.start ≠ [] ∧
        (forest.openAt anchor.start)[
          min (forest.openAt anchor.start).length maxRegionDepth - 1]? = some above)
  flattened : forest.flatten forest.rootList = List.range forest.size
  regionsOnly : ∀ id child, child ∈ forest.children id →
    ∃ region, forest.get? id = some region ∧ region.isRegion = true
  /-- No way down from a root has more anchors than the nesting limit and one. -/
  shallow : ∀ root path, root ∈ forest.rootList →
    (root :: path).IsChain (fun above child => child ∈ forest.children above) →
    (root :: path).length ≤ maxRegionDepth + 1

theorem forest_shaped_by_regions (parser : Parser) (document : Path) (text : String) :
    parser.ShapedByRegions document text (parser.parse document text).forest := by
  have begun := parser.begun_parse document text
  have nested := parser.nested_parse document text
  have arranged := parser.arranged_parse document text
  have flattened := parser.flatten_parse document text
  generalize (parser.parse document text).forest = forest
    at begun nested arranged flattened ⊢
  constructor
  case begun => exact begun
  case ascending => exact nested.ascending
  case listed =>
    intro offset id
    rw [Forest.mem_openAt_iff]
    simp only [Anchor.spans, Bool.and_eq_true, decide_eq_true_eq, Option.all_eq_true, and_assoc,
      Nat.not_lt]
  case ordered =>
    intro offset
    refine (forest.openAt_pairwise offset).imp ?_
    intro i j less first second atFirst atSecond
    exact nested.ascending i j first second less atFirst atSecond
  case root_iff =>
    intro id anchor found
    rw [arranged.mem_rootList_iff, Forest.placeOf_eq_none_iff found]
    exact and_iff_right (Forest.lt_size_of_get? found)
  case parent_iff =>
    intro id anchor above found
    rw [arranged.mem_children_iff, Forest.placeOf_eq_some_iff found]
    constructor
    · rintro ⟨_, placed⟩
      exact ⟨List.ne_nil_of_mem (List.mem_of_getElem? placed), placed⟩
    · rintro ⟨_, placed⟩
      exact ⟨Forest.lt_size_of_get? found, placed⟩
  case flattened => exact flattened
  case regionsOnly =>
    intro id child below
    obtain ⟨inside, placed⟩ := arranged.mem_children_iff.mp below
    obtain ⟨anchor, found⟩ := Forest.exists_get?_of_lt inside
    obtain ⟨region, atAbove, spans, _⟩ := nested.exists_placeOf found placed
    simp only [Anchor.spans, Bool.and_eq_true] at spans
    exact ⟨region, atAbove, spans.1.1⟩
  case shallow =>
    intro root path atRoot chain
    obtain ⟨inside, _⟩ := arranged.mem_rootList_iff.mp atRoot
    obtain ⟨anchor, found⟩ := Forest.exists_get?_of_lt inside
    have bound := nested.length_chain_le arranged path root anchor found chain
    omega

end Parser

end Waymark
