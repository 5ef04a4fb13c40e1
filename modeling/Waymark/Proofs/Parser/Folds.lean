import Mathlib.Order.Monotone.Defs
import Waymark.Proofs.Mark.ExactCase
import Waymark.Proofs.Parser.Lookup
import Waymark.Proofs.Parser.Nesting
import Waymark.Proofs.Parser.Origin
import Waymark.Proofs.Parser.Shape
import Waymark.Proofs.Text.LineNumber

set_option autoImplicit false

/-! The folds of a document. The offsets of its closed regions are nested in the order of their
beginnings, whatever the shape of the forest. A line has at most one mark, so the numbers of the
lines keep the order of the offsets, and the folds are nested as the regions are. -/

namespace Waymark

/-! ### Nested pairs -/

/-- Pairs in the order of their beginnings, each apart from those before it or inside them. -/
structure NestedPairs (pairs : List (Nat × Nat)) : Prop where
  opensFirst : ∀ pair, pair ∈ pairs → pair.1 < pair.2
  nested : pairs.Pairwise fun outer inner =>
    outer.2 < inner.1 ∨ (outer.1 < inner.1 ∧ inner.2 < outer.2)

namespace NestedPairs

variable {pairs : List (Nat × Nat)}

theorem ascending (nested : NestedPairs pairs) :
    pairs.Pairwise fun left right => left.1 < right.1 := by
  apply nested.nested.imp_of_mem
  rintro outer inner known _ (apart | ⟨inside, _⟩)
  · exact Nat.lt_trans (nested.opensFirst outer known) apart
  · exact inside

theorem nodup (nested : NestedPairs pairs) :
    (pairs.flatMap fun pair => [pair.1, pair.2]).Nodup := by
  apply List.nodup_flatMap.mpr
  constructor
  · intro pair known
    have less := nested.opensFirst pair known
    simp only [List.nodup_cons, List.mem_singleton, List.not_mem_nil, not_false_eq_true,
      List.nodup_nil, and_true]
    omega
  · apply nested.nested.imp_of_mem
    intro outer inner outerKnown innerKnown placed
    have outerLess := nested.opensFirst outer outerKnown
    have innerLess := nested.opensFirst inner innerKnown
    intro number inOuter inInner
    simp only [List.mem_cons, List.not_mem_nil, or_false] at inOuter inInner
    omega

theorem map (nested : NestedPairs pairs) {number : Nat → Nat} {places : Set Nat}
    (increasing : StrictMonoOn number places)
    (known : ∀ pair, pair ∈ pairs → pair.1 ∈ places ∧ pair.2 ∈ places) :
    NestedPairs (pairs.map (Prod.map number number)) where
  opensFirst := by
    intro pair member
    obtain ⟨old, oldMember, rfl⟩ := List.mem_map.mp member
    obtain ⟨opens, closes⟩ := known old oldMember
    exact increasing opens closes (nested.opensFirst old oldMember)
  nested := by
    rw [List.pairwise_map]
    apply nested.nested.imp_of_mem
    intro outer inner outerMember innerMember placed
    obtain ⟨outerOpens, outerCloses⟩ := known outer outerMember
    obtain ⟨innerOpens, innerCloses⟩ := known inner innerMember
    exact placed.imp (fun apart => increasing outerCloses innerOpens apart) fun inside =>
      ⟨increasing outerOpens innerOpens inside.1, increasing innerCloses outerCloses inside.2⟩

end NestedPairs

/-! ### The lines of marks -/

namespace Grammar

variable {grammar : Grammar}

theorem exists_place_of_lineHit {line : Text.Line} {hit : Hit}
    (found : grammar.lineHit line = some hit) :
    ∃ place, place ∈ line.places ∧ place.offset = hit.start := by
  obtain ⟨place, member, read⟩ := List.exists_of_findSome?_eq_some found
  exact ⟨place, member, (hitAt_eq_some_iff.mp read).2.2.symm⟩

/-- A mark that begins after another is on a line with a larger number. -/
theorem lineOf_strictMonoOn (single : grammar.SingleLine) (text : String) :
    StrictMonoOn (Text.LineIndex.ofText text.toList).lineOf
      {offset | ∃ hit, hit ∈ grammar.hits text ∧ hit.start = offset} := by
  rw [hits_eq_filterMap_lineHit single]
  rintro _ ⟨hit, member, rfl⟩ _ ⟨other, otherMember, rfl⟩ less
  obtain ⟨left, leftKnown, leftFound⟩ := List.mem_filterMap.mp member
  obtain ⟨right, rightKnown, rightFound⟩ := List.mem_filterMap.mp otherMember
  obtain ⟨earlier, inLeft, earlierStart⟩ := exists_place_of_lineHit leftFound
  obtain ⟨later, inRight, laterStart⟩ := exists_place_of_lineHit rightFound
  rw [← earlierStart, ← laterStart] at less ⊢
  -- One line has one mark, so the marks are on two lines.
  have different : left ≠ right := by
    intro same
    rw [same, rightFound] at leftFound
    cases leftFound
    omega
  let Apart (first second : Text.Line) := first.stop < second.offset ∨ second.stop < first.offset
  have symmetric : Std.Symm Apart := ⟨fun _ _ => Or.symm⟩
  have allApart : (Text.lines text).Pairwise Apart := (Text.lines_pairwise text).imp Or.inl
  have apart : Apart left right := allApart.forall leftKnown rightKnown different
  rcases apart with inOrder | reversed
  · exact Text.lineOf_lt_of_stop_lt rightKnown inOrder inLeft inRight
  · have ends := (Text.Line.places_suffix inRight).2
    have begins := Text.Line.offset_le_of_mem_places inLeft
    omega

end Grammar

/-! ### The offsets of closed regions -/

namespace Anchor

def offsetsTo (anchor : Anchor) (close : RegionClose) : Nat × Nat := (anchor.start, close.start)

def linesTo (anchor : Anchor) (close : RegionClose) : Nat × Nat := (anchor.line, close.line)

theorem isRegion_of_close? {anchor : Anchor} {close : RegionClose}
    (closed : anchor.close? = some close) : anchor.isRegion = true := by
  unfold close? at closed
  unfold isRegion
  cases kind : anchor.kind with
  | plain => simp [kind] at closed
  | region slot => rfl

end Anchor

namespace Forest

def ofClosed? {α : Type} (forest : Forest) (view : Anchor → RegionClose → α) (id : Nat) :
    Option α :=
  (forest.get? id).bind fun anchor => anchor.close?.map (view anchor)

theorem ofClosed?_eq_some_iff {α : Type} {forest : Forest} {view : Anchor → RegionClose → α}
    {id : Nat} {value : α} :
    forest.ofClosed? view id = some value ↔ ∃ anchor close, forest.get? id = some anchor ∧
      anchor.close? = some close ∧ view anchor close = value := by
  unfold ofClosed?
  constructor
  · intro found
    obtain ⟨anchor, atId, viewed⟩ := Option.bind_eq_some_iff.mp found
    obtain ⟨close, closed, same⟩ := Option.map_eq_some_iff.mp viewed
    exact ⟨anchor, close, atId, closed, same⟩
  · rintro ⟨anchor, close, atId, closed, rfl⟩
    rw [atId, Option.bind_some, closed, Option.map_some]

theorem Nested.spans {forest : Forest} (nested : forest.Nested) {ids : List Nat}
    (ascending : ids.Pairwise (· < ·)) :
    NestedPairs (ids.filterMap (forest.ofClosed? Anchor.offsetsTo)) where
  opensFirst := by
    intro span member
    obtain ⟨id, _, found⟩ := List.mem_filterMap.mp member
    obtain ⟨anchor, close, atId, closed, rfl⟩ := ofClosed?_eq_some_iff.mp found
    exact nested.closedAfter id anchor close atId closed
  nested := by
    rw [List.pairwise_filterMap]
    apply ascending.imp
    intro i j less outer foundOuter inner foundInner
    obtain ⟨first, outerClose, atFirst, firstClosed, rfl⟩ := ofClosed?_eq_some_iff.mp foundOuter
    obtain ⟨second, innerClose, atSecond, secondClosed, rfl⟩ := ofClosed?_eq_some_iff.mp foundInner
    have before := nested.ascending i j first second less atFirst atSecond
    -- Both are closed, so the first is closed either before the second begins or after the second.
    rcases nested.nested i j first second less atFirst atSecond
        (Anchor.isRegion_of_close? firstClosed) (Anchor.isRegion_of_close? secondClosed) with
      ⟨close, closed, ended⟩ | never | ⟨inner, outer, innerClosed, outerClosed, inside⟩
    · rw [firstClosed] at closed
      cases closed
      exact Or.inl ended
    · rw [firstClosed] at never
      cases never
    · rw [firstClosed] at outerClosed
      rw [secondClosed] at innerClosed
      cases outerClosed
      cases innerClosed
      exact Or.inr ⟨before, inside⟩

end Forest

/-! ### The folds of a document -/

namespace Index

theorem foldRanges_build (document : Path) {forest : Forest}
    (flattened : forest.flatten forest.rootList = List.range forest.size) :
    (build document forest).foldRanges =
      (List.range forest.size).filterMap (forest.ofClosed? Anchor.linesTo) := by
  rw [foldRanges, flatten_build, flattened, List.filterMap_filterMap]
  rfl

/-- The folds of a forest: the lines of its closed regions, one after the other or one inside the
other. -/
structure FoldsRegions (forest : Forest) (folds : List (Nat × Nat)) : Prop where
  /-- There is one fold for each closed region, in the order of the regions. -/
  listed : ∃ ids : List Nat, ids.Pairwise (· < ·) ∧
    (∀ id, id ∈ ids ↔ ∃ anchor close, forest.get? id = some anchor ∧ anchor.close? = some close) ∧
    List.Forall₂ (fun id fold => ∃ anchor close, forest.get? id = some anchor ∧
      anchor.close? = some close ∧ fold = (anchor.line, close.line)) ids folds
  ascending : folds.Pairwise fun left right => left.1 < right.1
  opensFirst : ∀ fold, fold ∈ folds → fold.1 < fold.2
  /-- No line is the first or last line of two folds, or of one fold twice. -/
  distinct : (folds.flatMap fun fold => [fold.1, fold.2]).Nodup
  nested : folds.Pairwise fun outer inner =>
    outer.2 < inner.1 ∨ (outer.1 < inner.1 ∧ inner.2 < outer.2)

private theorem forall₂_filterMap {α β : Type} (f : α → Option β) (items : List α) :
    List.Forall₂ (fun item value => f item = some value)
      (items.filter fun item => (f item).isSome) (items.filterMap f) := by
  induction items with
  | nil => exact .nil
  | cons item rest ih =>
      cases found : f item with
      | none => simpa [List.filter_cons, found] using ih
      | some value => simpa [List.filter_cons, found] using ih

variable (parser : Parser) (document : Path) (text : String)

/-- What is known of a closed region of a text: it begins and ends with marks of the text, and its
lines are those of the offsets. -/
theorem marks_of_closed {id : Nat} {anchor : Anchor} {close : RegionClose}
    (found : (parser.parse document text).forest.get? id = some anchor)
    (closed : anchor.close? = some close) :
    (∃ hit, hit ∈ parser.grammar.hits text ∧ hit.start = anchor.start) ∧
      (∃ hit, hit ∈ parser.grammar.hits text ∧ hit.start = close.start) ∧
      anchor.line = (Text.LineIndex.ofText text.toList).lineOf anchor.start ∧
      close.line = (Text.LineIndex.ofText text.toList).lineOf close.start := by
  obtain ⟨_, opening, openingKnown, made⟩ := parser.exists_mark_parse document found
  obtain ⟨closing, closingKnown, _, _, _, rfl⟩ :=
    parser.close?_progressAfter document _ _ [] (List.append_nil _).symm id anchor close found closed
  refine ⟨⟨opening, openingKnown, made.start_eq.symm⟩, ⟨closing, closingKnown, rfl⟩, ?_, rfl⟩
  rw [made.start_eq]
  exact made.line_eq

theorem foldRanges_ofText :
    let lineOf := (Text.LineIndex.ofText text.toList).lineOf
    let forest := (parser.parse document text).forest
    (ofText parser document text).foldRanges =
      ((List.range forest.size).filterMap (forest.ofClosed? Anchor.offsetsTo)).map
        (Prod.map lineOf lineOf) := by
  intro lineOf forest
  rw [ofText, foldRanges_build document (parser.flatten_parse document text), List.map_filterMap]
  apply List.filterMap_congr
  intro id _
  unfold Forest.ofClosed?
  cases found : (parser.parse document text).forest.get? id with
  | none => rfl
  | some anchor =>
      rw [Option.bind_some, Option.bind_some, Option.map_map]
      cases closed : anchor.close? with
      | none => rfl
      | some close =>
          obtain ⟨_, _, opens, closes⟩ := marks_of_closed parser document text found closed
          simp only [Option.map_some, Function.comp, Anchor.linesTo, Anchor.offsetsTo, Prod.map,
            opens, closes, lineOf]

theorem folds_nest_as_regions {registry : Registry} {separators : List String} {endTag : String}
    {matchCase showTagName : Bool} {parser : Parser}
    (built : Parser.build registry separators endTag matchCase showTagName = .ok parser)
    (names : ∀ tag, tag ∈ registry.list → Text.Unbroken tag.name.toList)
    (plain : ∀ separator, separator ∈ separators → Text.Unbroken separator.toList)
    (endPlain : Text.Unbroken endTag.toList) (document : Path) (text : String) :
    FoldsRegions (parser.parse document text).forest (ofText parser document text).foldRanges := by
  obtain ⟨grammar, grammarBuilt, rfl⟩ := Parser.build_eq_ok_iff.mp built
  have single := Grammar.singleLine_of_build grammarBuilt names plain endPlain
  have nested : NestedPairs (ofText ⟨registry, grammar, showTagName⟩ document text).foldRanges := by
    rw [foldRanges_ofText]
    apply ((Parser.nested_parse _ document text).spans List.pairwise_lt_range).map
      (Grammar.lineOf_strictMonoOn single text)
    intro span member
    obtain ⟨id, _, viewed⟩ := List.mem_filterMap.mp member
    obtain ⟨anchor, close, found, closed, rfl⟩ := Forest.ofClosed?_eq_some_iff.mp viewed
    obtain ⟨opens, closes, _⟩ := marks_of_closed _ document text found closed
    exact ⟨opens, closes⟩
  refine ⟨?_, nested.ascending, nested.opensFirst, nested.nodup, nested.nested⟩
  rw [ofText, foldRanges_build document (Parser.flatten_parse _ document text)]
  refine ⟨_, List.pairwise_lt_range.filter _, ?_, (forall₂_filterMap _ _).imp ?_⟩
  · intro id
    rw [List.mem_filter, List.mem_range, Option.isSome_iff_exists]
    simp only [Forest.ofClosed?_eq_some_iff]
    constructor
    · rintro ⟨_, _, anchor, close, found, closed, _⟩
      exact ⟨anchor, close, found, closed⟩
    · rintro ⟨anchor, close, found, closed⟩
      exact ⟨Forest.lt_size_of_get? found, _, anchor, close, found, closed, rfl⟩
  · intro id fold viewed
    obtain ⟨anchor, close, found, closed, rfl⟩ := Forest.ofClosed?_eq_some_iff.mp viewed
    exact ⟨anchor, close, found, closed, rfl⟩

end Index

namespace Parser

def standard : Parser := ⟨Registry.defaults, .standard, true⟩

theorem standard_built :
    build Registry.defaults [" - ", ": ", " "] "!" false true = .ok standard :=
  build_eq_ok_iff.mpr ⟨_, Grammar.standard_built, rfl⟩

end Parser

namespace Index

def mixedBreaks : String := "// SECTION\r\n// SECTION\r// !SECTION\n// !SECTION"

private theorem hits_mixedBreaks : Grammar.standard.hits mixedBreaks =
    [⟨3, ⟨"SECTION".toList, none, none⟩⟩, ⟨15, ⟨"SECTION".toList, none, none⟩⟩,
      ⟨26, ⟨"!SECTION".toList, none, none⟩⟩, ⟨38, ⟨"!SECTION".toList, none, none⟩⟩] := by
  rw [Grammar.hits_eq_filterMap_lineHit Grammar.standard_singleLine, Grammar.standard_eq]
  decide +kernel

private theorem foldRanges_mixedBreaks :
    (ofText .standard ⟨"a"⟩ mixedBreaks).foldRanges = [(1, 4), (2, 3)] := by
  have hits : Parser.standard.grammar.hits mixedBreaks = _ := hits_mixedBreaks
  rw [ofText, foldRanges_build _ (Parser.flatten_parse _ _ _), Parser.parse, hits]
  decide +kernel

/-- Four lines that end in four different ways. -/
theorem folds_nest_as_regions_mixed_breaks :
    Parser.build Registry.defaults [" - ", ": ", " "] "!" false true = .ok .standard ∧
      (∀ tag, tag ∈ Registry.defaults.list → Text.Unbroken tag.name.toList) ∧
      (ofText .standard ⟨"a"⟩ mixedBreaks).foldRanges = [(1, 4), (2, 3)] ∧
      FoldsRegions (Parser.standard.parse ⟨"a"⟩ mixedBreaks).forest [(1, 4), (2, 3)] := by
  have folded := folds_nest_as_regions Parser.standard_built Grammar.defaults_unbroken (by decide)
    (by decide) ⟨"a"⟩ mixedBreaks
  rw [foldRanges_mixedBreaks] at folded
  exact ⟨Parser.standard_built, Grammar.defaults_unbroken, foldRanges_mixedBreaks, folded⟩

end Index

end Waymark
