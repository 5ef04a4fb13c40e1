import Waymark.Proofs.Mark.SeparatorOrder
import Waymark.Proofs.Mark.Written

set_option autoImplicit false

/-! How a mark opens and ends, in any text. A mark opens with a token, and perhaps with brackets; which
openings there are at a place does not depend on the separators. The first opening behind which the
mark ends is taken. -/

namespace Waymark

structure Opening where
  token : List Char
  bracket : Option (List Char)
  last : Char
  rest : List Char

namespace Opening

def mark (opening : Opening) (remark : Option Remark) : Mark :=
  ⟨opening.token, opening.bracket, remark⟩

end Opening

def Hit.FollowedBy (offset : Nat) (text : List Char) (hit : Hit) (after : List Char) : Prop :=
  ∃ before, text = before ++ (hit.mark.written ++ after) ∧
    offset + Text.byteLength before = hit.start

namespace Grammar

def tokenOpenings (grammar : Grammar) (before : Char) (text token : List Char) : List Opening :=
  if grammar.beginsWith token text then
    let found := text.take token.length
    let rest := text.drop token.length
    ((bracketAt rest).toList.map fun inner =>
        ⟨found, some inner, ']', rest.drop (inner.length + 2)⟩) ++
      [⟨found, none, found.getLast?.getD before, rest⟩]
  else []

def openings (grammar : Grammar) (before : Char) (text : List Char) : List Opening :=
  grammar.tokens.flatMap (grammar.tokenOpenings before text)

def markFrom (grammar : Grammar) (opening : Opening) : Option Mark :=
  (grammar.tailAt opening.last opening.rest).map opening.mark

variable {grammar : Grammar} {before : Char} {text : List Char}

theorem markWith_eq_findSome? (token : List Char) :
    grammar.markWith before text token =
      (grammar.tokenOpenings before text token).findSome? grammar.markFrom := by
  unfold markWith tokenOpenings
  split
  · dsimp only
    rw [List.findSome?_append, List.findSome?_singleton]
    cases bracketAt (text.drop token.length) with
    | none => rfl
    | some inner =>
        rw [Option.toList_some, List.map_singleton, List.findSome?_singleton]
        rfl
  · rfl

/-- A mark is read with the first opening behind which it ends. -/
theorem markAt_eq_findSome? (notWord : Text.isWord before = false) :
    grammar.markAt before text = (grammar.openings before text).findSome? grammar.markFrom := by
  unfold markAt openings
  rw [notWord, if_neg Bool.false_ne_true, findSome?_flatMap]
  exact findSome?_congr fun token _ => markWith_eq_findSome? token

theorem openings_trying (separators : List (List Char)) :
    (grammar.trying separators).openings before text = grammar.openings before text := by
  unfold openings tokenOpenings
  simp only [beginsWith_trying]
  rfl

theorem written_of_mem_openings {opening : Opening} (member : opening ∈ grammar.openings before text) :
    (opening.mark none).written ++ opening.rest = text := by
  obtain ⟨token, _, among⟩ := List.mem_flatMap.mp member
  unfold tokenOpenings at among
  split at among
  · have whole : text.take token.length ++ text.drop token.length = text :=
      List.take_append_drop _ _
    rcases List.mem_append.mp among with bracketed | plain
    · obtain ⟨inner, opened, rfl⟩ := List.mem_map.mp bracketed
      obtain ⟨_, more, rest⟩ :=
        (bracketAt_eq_some_iff _ inner).mp (Option.mem_toList.mp opened)
      rw [rest] at whole
      have behind : (text.drop token.length).drop (inner.length + 2) = more := by
        rw [rest]
        simp
      dsimp only
      rw [behind]
      simpa [Opening.mark, Mark.written, Mark.opening, Mark.bracketText, Mark.comment] using whole
    · rw [List.mem_singleton.mp plain]
      simp [Opening.mark, Mark.written, Mark.opening, Mark.bracketText, Mark.comment]
  · cases among

theorem written_mark (opening : Opening) (remark : Option Remark) :
    (opening.mark remark).written =
      (opening.mark none).written ++ (opening.mark remark).remarkText := by
  simp [Opening.mark, Mark.written, Mark.opening, Mark.bracketText, Mark.comment, Mark.remarkText]

/-! ### Hits -/

/-- What stands behind a number of bytes of a text is unique. -/
theorem eq_of_append_eq_append {first second firstRest secondRest : List Char}
    (same : first ++ firstRest = second ++ secondRest)
    (size : Text.byteLength first = Text.byteLength second) : firstRest = secondRest := by
  have firstCut := (cutBytes_eq_some_iff _ _ first firstRest).mpr ⟨rfl, rfl⟩
  have secondCut := (cutBytes_eq_some_iff _ _ second secondRest).mpr ⟨same, size.symm⟩
  rw [firstCut] at secondCut
  cases secondCut
  rfl

theorem hitsFrom_of_mark {c : Char} {mark : Mark} {after : List Char}
    (found : grammar.markAt c (mark.written ++ after) = some mark) (offset : Nat) :
    grammar.hitsFrom offset (c :: (mark.written ++ after)) =
      ⟨offset + c.utf8Size, mark⟩ ::
        grammar.hitsFrom (offset + c.utf8Size + Text.byteLength mark.written) after := by
  rw [hitsFrom, found]
  dsimp only
  rw [List.drop_left]

theorem hitsFrom_of_none {c : Char} {rest : List Char} (missing : grammar.markAt c rest = none)
    (offset : Nat) :
    grammar.hitsFrom offset (c :: rest) = grammar.hitsFrom (offset + c.utf8Size) rest := by
  rw [hitsFrom, missing]

/-- A mark is one of the openings at its place with what ends it there. -/
theorem exists_opening_of_markAt {mark : Mark} (read : grammar.markAt before text = some mark) :
    ∃ opening remark, opening ∈ grammar.openings before text ∧
      grammar.tailAt opening.last opening.rest = some remark ∧ opening.mark remark = mark := by
  have notWord : Text.isWord before = false := by
    unfold markAt at read
    split at read
    · cases read
    · exact Bool.eq_false_iff.mpr ‹_›
  rw [markAt_eq_findSome? notWord] at read
  obtain ⟨opening, known, ended⟩ := List.exists_of_findSome?_eq_some read
  obtain ⟨remark, tail, same⟩ := Option.map_eq_some_iff.mp ended
  exact ⟨opening, remark, known, tail, same⟩

/-- A mark ends with the first separator that completes, in the text behind its opening. -/
theorem tailAt_of_mem_hitsFrom {offset : Nat} {hit : Hit} {after : List Char}
    (member : hit ∈ grammar.hitsFrom offset text) (followed : hit.FollowedBy offset text after) :
    ∃ last, grammar.tailAt last (hit.mark.remarkText ++ after) = some hit.mark.remark := by
  obtain ⟨start, c, rest, whole, placed, read⟩ := place_of_mem_hitsFrom offset member
  obtain ⟨earlier, split, startSame⟩ := followed
  rw [List.append_cons] at whole
  have restSame : rest = hit.mark.written ++ after :=
    eq_of_append_eq_append (whole.symm.trans split) (by omega)
  obtain ⟨opening, remark, known, tail, same⟩ := exists_opening_of_markAt read
  have opened := written_of_mem_openings known
  rw [restSame, ← same, written_mark opening remark, List.append_assoc,
    List.append_cancel_left_eq] at opened
  refine ⟨opening.last, ?_⟩
  rw [← same, ← opened, tail]
  rfl

/-! ### What stands on one line -/

theorem unbroken_of_mem_openings {opening : Opening}
    (member : opening ∈ grammar.openings before text) :
    ∀ inner, opening.bracket = some inner → Text.Unbroken inner := by
  obtain ⟨token, _, among⟩ := List.mem_flatMap.mp member
  unfold tokenOpenings at among
  split at among
  · rcases List.mem_append.mp among with bracketed | plain
    · obtain ⟨inner, opened, rfl⟩ := List.mem_map.mp bracketed
      rintro _ ⟨⟩
      exact ((bracketAt_eq_some_iff _ inner).mp (Option.mem_toList.mp opened)).1.2
    · rw [List.mem_singleton.mp plain]
      rintro _ ⟨⟩
  · cases among

theorem unbroken_of_tailAt {remark : Option Remark}
    (ended : grammar.tailAt before text = some remark) :
    Text.Unbroken (remark.elim [] Remark.comment) := by
  unfold tailAt at ended
  split at ended
  · rename_i found read
    cases ended
    obtain ⟨separator, _, chosen⟩ := List.exists_of_findSome?_eq_some read
    obtain ⟨size, _, written⟩ := Option.bind_eq_some_iff.mp chosen
    dsimp only at written
    split at written
    · cases written
      intro c member
      have plain := List.mem_takeWhile_imp (p := fun c => !Text.isBreak c) member
      exact Bool.not_eq_true' _ ▸ plain
    · cases written
  · split at ended
    · cases ended
      exact Text.unbroken_nil
    · cases ended

/-- Whatever the separators are, what stands between the brackets of a mark and its comment are each
on one line. -/
theorem unbroken_of_mem_hits {text : String} {hit : Hit} (member : hit ∈ grammar.hits text) :
    (∀ inner, hit.mark.bracket = some inner → Text.Unbroken inner) ∧
      Text.Unbroken hit.mark.comment := by
  obtain ⟨_, _, _, _, _, read⟩ := place_of_mem_hitsFrom 0 member
  obtain ⟨opening, remark, known, ended, same⟩ := exists_opening_of_markAt read
  rw [← same]
  exact ⟨unbroken_of_mem_openings known, unbroken_of_tailAt ended⟩

end Grammar

end Waymark
