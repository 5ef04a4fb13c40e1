import Mathlib.Data.List.Pairwise
import Mathlib.Data.List.Sort
import Waymark.Proofs.Mark.Written
import Waymark.Proofs.Parser.Nesting
import Waymark.Proofs.Parser.Origin
import Waymark.Proofs.Text.Trim

set_option autoImplicit false

/-! What is highlighted in a text: the anchors, with their comments if the tag asks for it, and the
end markers of regions. Each highlighted range covers the token of a mark and ends within the mark,
the text can be cut at both of its ends, and no two ranges overlap. -/

namespace Waymark

namespace Anchor

def highlights (anchor : Anchor) : List (Nat × Nat) :=
  (anchor.start, anchor.stop) ::
    (anchor.close?.map fun close => (close.start, close.stop)).toList

theorem mem_highlights_iff {anchor : Anchor} {range : Nat × Nat} :
    range ∈ anchor.highlights ↔ range = (anchor.start, anchor.stop) ∨
      ∃ close, anchor.close? = some close ∧ (close.start, close.stop) = range := by
  unfold highlights
  rw [List.mem_cons, Option.mem_toList, Option.map_eq_some_iff]

end Anchor

namespace Forest

def highlights (forest : Forest) : List (Nat × Nat) :=
  ((List.range forest.size).filterMap forest.get?).flatMap Anchor.highlights

theorem mem_highlights_iff {forest : Forest} {range : Nat × Nat} :
    range ∈ forest.highlights ↔
      ∃ id anchor, forest.get? id = some anchor ∧ range ∈ anchor.highlights := by
  rw [highlights, List.mem_flatMap]
  constructor
  · rintro ⟨anchor, known, shown⟩
    obtain ⟨id, _, found⟩ := List.mem_filterMap.mp known
    exact ⟨id, anchor, found, shown⟩
  · rintro ⟨id, anchor, found, shown⟩
    have inside := List.mem_range.mpr (lt_size_of_get? found)
    exact ⟨anchor, List.mem_filterMap.mpr ⟨id, inside, found⟩, shown⟩

end Forest

/-- Whether a range of a text is a highlight of a mark: it covers the token and ends within the
mark, and the text can be cut at both ends. -/
structure IsHighlight (text : String) (hit : Hit) (range : Nat × Nat) : Prop where
  begins : range.1 = hit.start
  token : range.1 + Text.byteLength hit.mark.token ≤ range.2
  within : range.2 ≤ hit.stop
  inside : range.2 ≤ text.utf8ByteSize
  cutBefore : (⟨range.1⟩ : String.Pos.Raw).IsValid text
  cutAfter : (⟨range.2⟩ : String.Pos.Raw).IsValid text

/-! ### The highlight of one mark -/

/-- A range that begins with a mark and ends behind some first part of it. -/
theorem Grammar.isHighlight {grammar : Grammar} {text : String} {hit : Hit}
    (member : hit ∈ grammar.hits text) {part : List Char} (starts : part <+: hit.mark.written)
    {stop : Nat} (ends : stop = hit.start + Text.byteLength part) (covers : hit.tokenStop ≤ stop) :
    IsHighlight text hit (hit.start, stop) := by
  have cut := grammar.isValid_of_mem_hits member starts
  rw [← ends] at cut
  refine ⟨rfl, covers, ?_, cut.le_rawEndPos, ?_, cut⟩
  · rw [ends]
    exact Nat.add_le_add_left (Text.byteLength_le_of_prefix starts) _
  · exact grammar.isValid_of_mem_hits member List.nil_prefix

namespace Parser

theorem token_prefix_written (mark : Mark) : mark.token <+: mark.written :=
  ⟨_, by rw [Mark.written, Mark.opening, List.append_assoc, List.append_assoc]⟩

theorem highlighted_prefix (mark : Mark) (skipped : Option (List Char)) :
    highlighted mark skipped <+: mark.written := by
  have trimmed : Text.trimEnd mark.written <+: mark.written := List.rdropWhile_prefix _ _
  cases skipped with
  | none => exact trimmed
  | some skipped => exact (List.rdropWhile_prefix skipped.contains _).trans trimmed

/-- The range of an anchor ends behind its token or behind the part of the comment that is shown. -/
theorem stop_anchorOf (parser : Parser) (document : Path) (lines : Text.LineIndex) (tag : Tag)
    (hit : Hit) : ∃ part, part <+: hit.mark.written ∧
      (parser.anchorOf document lines tag hit).stop = hit.start + Text.byteLength part := by
  unfold anchorOf
  dsimp only
  split
  · generalize (stripCloser (Text.trim hit.mark.comment)).2 = skipped
    rcases Nat.le_total (hit.start + Text.byteLength (highlighted hit.mark skipped))
        hit.tokenStop with shorter | longer
    · exact ⟨_, token_prefix_written hit.mark, Nat.max_eq_right shorter⟩
    · exact ⟨_, highlighted_prefix hit.mark skipped, Nat.max_eq_left longer⟩
  · exact ⟨_, token_prefix_written hit.mark, Nat.max_eq_right (Nat.le_add_right _ _)⟩

variable {parser : Parser} {document : Path} {lines : Text.LineIndex} {text : String}

theorem IsAnchorOf.isHighlight {anchor : Anchor} {tag : Tag} {hit : Hit}
    (made : parser.IsAnchorOf document lines anchor tag hit)
    (member : hit ∈ parser.grammar.hits text) :
    IsHighlight text hit (anchor.start, anchor.stop) := by
  have same : anchor.stop = (parser.anchorOf document lines tag hit).stop := by rw [made.2]
  have covers : hit.tokenStop ≤ (parser.anchorOf document lines tag hit).stop :=
    Nat.le_max_right _ _
  obtain ⟨part, starts, ends⟩ := parser.stop_anchorOf document lines tag hit
  rw [made.start_eq, same]
  exact Grammar.isHighlight member starts ends covers

/-! ### The highlights of a text -/

theorem exists_mark_close {id : Nat} {anchor : Anchor} {close : RegionClose}
    (found : (parser.parse document text).forest.get? id = some anchor)
    (closed : anchor.close? = some close) :
    ∃ hit tag, hit ∈ parser.grammar.hits text ∧ parser.roleOf hit = .ending tag ∧
      close = closeOf (Text.LineIndex.ofText text.toList) hit := by
  obtain ⟨hit, member, tag, role, _, same⟩ := parser.close?_progressAfter document _ _ []
    (List.append_nil _).symm id anchor close found closed
  exact ⟨hit, tag, member, role, same⟩

theorem exists_mark_highlight {range : Nat × Nat}
    (shown : range ∈ (parser.parse document text).forest.highlights) :
    ∃ hit, hit ∈ parser.grammar.hits text ∧ IsHighlight text hit range := by
  obtain ⟨id, anchor, found, member⟩ := Forest.mem_highlights_iff.mp shown
  rcases Anchor.mem_highlights_iff.mp member with rfl | ⟨close, closed, rfl⟩
  · obtain ⟨tag, hit, known, made⟩ := parser.exists_mark_parse document found
    exact ⟨hit, known, made.isHighlight known⟩
  · obtain ⟨hit, tag, known, _, rfl⟩ := exists_mark_close found closed
    exact ⟨hit, known,
      Grammar.isHighlight known (token_prefix_written hit.mark) rfl (Nat.le_refl _)⟩

/-- Of two marks of a text one ends before the other begins. -/
theorem apart_of_mem_hits {grammar : Grammar} {first second : Hit}
    (firstKnown : first ∈ grammar.hits text) (secondKnown : second ∈ grammar.hits text)
    (different : first ≠ second) : first.stop < second.start ∨ second.stop < first.start := by
  let Apart (left right : Hit) := left.stop < right.start ∨ right.stop < left.start
  have symmetric : Std.Symm Apart := ⟨fun _ _ => Or.symm⟩
  have apart : (grammar.hits text).Pairwise Apart :=
    (grammar.hits_pairwise text).imp Or.inl
  exact apart.forall firstKnown secondKnown different

theorem stop_lt_of_start_lt {grammar : Grammar} {first second : Hit}
    (firstKnown : first ∈ grammar.hits text) (secondKnown : second ∈ grammar.hits text)
    (before : first.start < second.start) : first.stop < second.start := by
  have different : first ≠ second := by
    rintro rfl
    exact Nat.lt_irrefl _ before
  rcases apart_of_mem_hits firstKnown secondKnown different with apart | reversed
  · exact apart
  · have secondOrdered := second.start_le_stop
    omega

/-- No mark begins an anchor and closes a region. -/
theorem start_ne_close_start {i j : Nat} {first second : Anchor} {close : RegionClose}
    (atFirst : (parser.parse document text).forest.get? i = some first)
    (atSecond : (parser.parse document text).forest.get? j = some second)
    (closed : second.close? = some close) : first.start ≠ close.start := by
  intro same
  obtain ⟨_, opening, openingKnown, made⟩ := parser.exists_mark_parse document atFirst
  obtain ⟨closing, _, closingKnown, role, rfl⟩ := exists_mark_close atSecond closed
  have different : opening ≠ closing := by
    rintro rfl
    cases made.1.symm.trans role
  have begins : opening.start = closing.start := made.start_eq.symm.trans same
  have openingOrdered := opening.start_le_stop
  have closingOrdered := closing.start_le_stop
  rcases apart_of_mem_hits openingKnown closingKnown different with apart | apart <;> omega

theorem start_ne_of_mem_highlights {i j : Nat} {first second : Anchor} (less : i < j)
    (atFirst : (parser.parse document text).forest.get? i = some first)
    (atSecond : (parser.parse document text).forest.get? j = some second)
    {range other : Nat × Nat} (shown : range ∈ first.highlights)
    (otherShown : other ∈ second.highlights) : range.1 ≠ other.1 := by
  have nested := parser.nested_parse document text
  rcases Anchor.mem_highlights_iff.mp shown with rfl | ⟨close, closed, rfl⟩
  · rcases Anchor.mem_highlights_iff.mp otherShown with rfl | ⟨close, closed, rfl⟩
    · exact Nat.ne_of_lt (nested.ascending i j first second less atFirst atSecond)
    · exact start_ne_close_start atFirst atSecond closed
  · rcases Anchor.mem_highlights_iff.mp otherShown with rfl | ⟨otherClose, otherClosed, rfl⟩
    · exact (start_ne_close_start atSecond atFirst closed).symm
    · exact nested.closedApart i j first second close otherClose (Nat.ne_of_lt less)
        atFirst atSecond closed otherClosed

theorem highlights_pairwise_ne :
    (parser.parse document text).forest.highlights.Pairwise fun first second =>
      first.1 ≠ second.1 := by
  refine List.pairwise_flatMap.mpr
    ⟨?_, List.pairwise_filterMap.mpr (List.pairwise_lt_range.imp ?_)⟩
  · intro anchor member
    obtain ⟨id, _, found⟩ := List.mem_filterMap.mp member
    cases closed : anchor.close? with
    | none => simp [Anchor.highlights, closed]
    | some close =>
        have after := (parser.nested_parse document text).closedAfter id anchor close found closed
        simpa [Anchor.highlights, closed] using Nat.ne_of_lt after
  · intro i j less first atFirst second atSecond range shown other otherShown
    exact start_ne_of_mem_highlights less atFirst atSecond shown otherShown

/-- Each range that is highlighted in a text is the highlight of a mark. In the order of their
beginnings, each range ends before the next begins, or just there. -/
theorem highlights_apart (parser : Parser) (document : Path) (text : String) :
    let ranges := (parser.parse document text).forest.highlights
    (∀ range, range ∈ ranges →
      ∃ hit, hit ∈ parser.grammar.hits text ∧ IsHighlight text hit range) ∧
    (ranges.mergeSort fun first second => first.1 ≤ second.1).Pairwise fun first second =>
      first.2 ≤ second.1 := by
  intro ranges
  have marked : ∀ range, range ∈ ranges →
      ∃ hit, hit ∈ parser.grammar.hits text ∧ IsHighlight text hit range :=
    fun range => exists_mark_highlight
  refine ⟨marked, ?_⟩
  have perm := List.mergeSort_perm ranges fun first second => first.1 ≤ second.1
  have different := perm.symm.pairwise highlights_pairwise_ne Ne.symm
  have sorted := List.pairwise_mergeSort' (Order.Preimage Prod.fst (· ≤ ·)) ranges
  refine (sorted.and different).imp_of_mem ?_
  intro first second firstMember secondMember ⟨ordered, apart⟩
  obtain ⟨hit, known, shown⟩ := marked first (perm.mem_iff.mp firstMember)
  obtain ⟨other, otherKnown, otherShown⟩ := marked second (perm.mem_iff.mp secondMember)
  have before : hit.start < other.start := by
    rw [← shown.begins, ← otherShown.begins]
    exact Nat.lt_of_le_of_ne ordered apart
  calc first.2 ≤ hit.stop := shown.within
    _ ≤ other.start := Nat.le_of_lt (stop_lt_of_start_lt known otherKnown before)
    _ = second.1 := otherShown.begins.symm

end Parser

end Waymark
