import Waymark.Proofs.Mark.Choice
import Waymark.Proofs.Mark.EndMark

set_option autoImplicit false

/-! Marks stand in the text as they are read: at the offset of a mark the text goes on with all that
the mark consists of. Hence the offsets at which the parts of a mark begin and end are between
characters. This holds for every grammar. -/

namespace Waymark

namespace Text

/-- A text can be cut at the offset at which a part of it ends. -/
theorem isValid_byteLength {text : String} {before after : List Char}
    (split : text.toList = before ++ after) :
    (⟨byteLength before⟩ : String.Pos.Raw).IsValid text := by
  apply String.Pos.Raw.isValid_iff_exists_append.mpr
  refine ⟨String.ofList before, String.ofList after, ?_, ?_⟩
  · rw [← String.ofList_append, ← split, String.ofList_toList]
  · rw [← utf8ByteSize_ofList]
    rfl

theorem byteLength_le_of_prefix {first second : List Char} (starts : first <+: second) :
    byteLength first ≤ byteLength second := by
  obtain ⟨rest, rfl⟩ := starts
  rw [byteLength_append]
  exact Nat.le_add_right _ _

end Text

namespace Grammar

variable {grammar : Grammar} {before : Char} {text : List Char}

/-! ### What is read at one place -/

theorem remarkWith_prefix {separator : List Char} {remark : Remark}
    (found : grammar.remarkWith before text separator = some remark) :
    remark.separator ++ remark.comment <+: text := by
  obtain ⟨size, _, read⟩ := Option.bind_eq_some_iff.mp found
  dsimp only at read
  split at read
  · cases read
    have comment := List.takeWhile_prefix (!Text.isBreak ·) (l := text.drop size)
    have both := (List.prefix_append_right_inj (text.take size)).mpr comment
    rwa [List.take_append_drop] at both
  · cases read

theorem tailAt_prefix {remark : Option Remark} (found : grammar.tailAt before text = some remark) :
    remark.elim [] Remark.separator ++ remark.elim [] Remark.comment <+: text := by
  unfold tailAt at found
  split at found
  · rename_i first read
    cases found
    obtain ⟨separator, _, chosen⟩ := List.exists_of_findSome?_eq_some read
    exact remarkWith_prefix chosen
  · split at found
    · cases found
      exact List.nil_prefix
    · cases found

theorem markWith_prefix {token : List Char} {mark : Mark}
    (found : grammar.markWith before text token = some mark) : mark.written <+: text := by
  unfold markWith at found
  split at found
  · dsimp only at found
    have token : text.take token.length ++ text.drop token.length = text :=
      List.take_append_drop _ _
    rcases Option.or_eq_some_iff.mp found with bracketed | ⟨_, plain⟩
    · obtain ⟨inner, opened, tail⟩ := Option.bind_eq_some_iff.mp bracketed
      obtain ⟨remark, read, rfl⟩ := Option.map_eq_some_iff.mp tail
      obtain ⟨_, more, rest⟩ := (bracketAt_eq_some_iff _ inner).mp opened
      rw [rest] at token read
      have behind : ('[' :: (inner ++ ']' :: more)).drop (inner.length + 2) = more := by simp
      rw [behind] at read
      obtain ⟨after, whole⟩ := tailAt_prefix read
      refine ⟨after, ?_⟩
      rw [← whole] at token
      simpa [Mark.written, Mark.opening, Mark.bracketText, Mark.comment] using token
    · obtain ⟨remark, read, rfl⟩ := Option.map_eq_some_iff.mp plain
      obtain ⟨after, whole⟩ := tailAt_prefix read
      refine ⟨after, ?_⟩
      rw [← whole] at token
      simpa [Mark.written, Mark.opening, Mark.bracketText, Mark.comment] using token
  · cases found

theorem markAt_prefix {mark : Mark} (found : grammar.markAt before text = some mark) :
    mark.written <+: text := by
  unfold markAt at found
  split at found
  · cases found
  · obtain ⟨_, _, read⟩ := List.exists_of_findSome?_eq_some found
    exact markWith_prefix read

/-! ### What is read in a text -/

/-- A mark is read at the place where it begins. -/
theorem place_of_mem_hitsFrom (offset : Nat) {hit : Hit}
    (member : hit ∈ grammar.hitsFrom offset text) :
    ∃ start c rest, text = start ++ c :: rest ∧
      offset + Text.byteLength (start ++ [c]) = hit.start ∧
        grammar.markAt c rest = some hit.mark := by
  fun_induction hitsFrom grammar offset text with
  | case1 => cases member
  | case2 offset c rest start mark found ih =>
      rcases List.mem_cons.mp member with rfl | later
      · exact ⟨[], c, rest, rfl, rfl, found⟩
      · obtain ⟨between, d, more, same, placed, read⟩ := ih later
        obtain ⟨after, whole⟩ := markAt_prefix found
        rw [← whole, List.drop_left] at same
        refine ⟨c :: (mark.written ++ between), d, more, ?_, ?_, read⟩
        · rw [← whole, same]
          simp
        · rw [← placed]
          simp only [List.cons_append, List.append_assoc, Text.byteLength_cons,
            Text.byteLength_append, start]
          omega
  | case3 offset c rest start missing ih =>
      obtain ⟨between, d, more, same, placed, read⟩ := ih member
      refine ⟨c :: between, d, more, by rw [same]; rfl, ?_, read⟩
      rw [← placed, List.cons_append, Text.byteLength_cons]
      simp only [start]
      omega

/-- The text goes on with a mark at the offset of the mark. -/
theorem split_of_mem_hits {text : String} {hit : Hit} (member : hit ∈ grammar.hits text) :
    ∃ before after, text.toList = before ++ (hit.mark.written ++ after) ∧
      Text.byteLength before = hit.start := by
  obtain ⟨start, c, rest, same, placed, read⟩ := place_of_mem_hitsFrom 0 member
  obtain ⟨after, rfl⟩ := markAt_prefix read
  exact ⟨start ++ [c], after, by rw [same, List.append_cons], by rw [← placed, Nat.zero_add]⟩

/-- A text can be cut behind any first part of a mark. -/
theorem isValid_of_mem_hits {text : String} {hit : Hit} (member : hit ∈ grammar.hits text)
    {part : List Char} (starts : part <+: hit.mark.written) :
    (⟨hit.start + Text.byteLength part⟩ : String.Pos.Raw).IsValid text := by
  obtain ⟨before, after, same, placed⟩ := split_of_mem_hits member
  obtain ⟨rest, whole⟩ := starts
  have split : text.toList = (before ++ part) ++ (rest ++ after) := by
    rw [same, ← whole]
    simp
  rw [← placed, ← Text.byteLength_append]
  exact Text.isValid_byteLength split

end Grammar

end Waymark
