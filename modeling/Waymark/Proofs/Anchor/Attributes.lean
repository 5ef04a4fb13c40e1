import Waymark.Anchor.Attributes
import Waymark.Proofs.Text.Class
import Waymark.Proofs.Text.Number
import Waymark.Proofs.Text.Trim

set_option autoImplicit false

/-! Attributes that are written and read back. Whatever list they were read from, values are trimmed
parts of its segments: they are not empty, hold no comma, and neither begin nor end with a blank.
Such a value is read back from a segment that holds it. -/

namespace Waymark.Attributes

structure IsValue (value : String) : Prop where
  filled : value.toList ≠ []
  plain : ',' ∉ value.toList
  trimmed : Text.Trimmed value.toList

def EpicIsValue (attributes : Attributes) : Prop :=
  ∀ epic, attributes.epic = some epic → IsValue epic

/-! ### Empty segments and blank lists -/

/-- Segments are taken alike if the empty ones are not skipped, as these have no `=`. -/
theorem applySegment_eq_cutAt (attributes : Attributes) (segment : List Char) :
    attributes.applySegment segment =
      match Text.cutAt '=' (Text.trim segment) with
      | some (key, value) => attributes.assign (Text.trim key) (Text.trim value)
      | none => attributes := by
  unfold applySegment
  cases Text.trim segment <;> rfl

/-- Lists are read alike if the blank ones are not left out, as these are one empty segment. -/
theorem parse_eq_foldl_fields (raw : String) (defaults : Attributes) :
    parse raw defaults = (Text.fields ',' raw.toList).foldl applySegment defaults := by
  unfold parse
  split
  · rename_i blank
    have oneSegment : ',' ∉ raw.toList := by
      intro comma
      cases Text.isBlank_of_trim_eq_nil (List.isEmpty_iff.mp blank) comma
    rw [Text.fields_of_not_mem oneSegment, List.foldl_cons, List.foldl_nil, applySegment,
      if_pos blank]
  · rfl

/-! ### Values that are read -/

theorem isValue_of_nonEmpty {value : List Char} (plain : ',' ∉ value)
    (trimmed : Text.Trimmed value) {read : String} (found : nonEmpty value = some read) :
    IsValue read := by
  cases value with
  | nil => cases found
  | cons c rest =>
      cases found
      exact ⟨by simp, by rwa [String.toList_ofList], by rwa [String.toList_ofList]⟩

theorem EpicIsValue.assign {attributes : Attributes} (kept : attributes.EpicIsValue)
    {value : List Char} (plain : ',' ∉ value) (trimmed : Text.Trimmed value) (key : List Char) :
    (attributes.assign key value).EpicIsValue := by
  unfold Attributes.assign
  split
  · intro epic found
    exact isValue_of_nonEmpty plain trimmed found
  · exact kept
  · exact kept
  · exact kept

theorem EpicIsValue.applySegment {attributes : Attributes} (kept : attributes.EpicIsValue)
    {segment : List Char} (plain : ',' ∉ segment) :
    (attributes.applySegment segment).EpicIsValue := by
  rw [applySegment_eq_cutAt]
  cases cut : Text.cutAt '=' (Text.trim segment) with
  | none => exact kept
  | some parts =>
      obtain ⟨key, value⟩ := parts
      -- The value is a part of the segment.
      have whole := Text.append_of_cutAt cut
      have within : value.Sublist segment := by
        have sublist := Text.trim_sublist segment
        rw [whole] at sublist
        have tail := (List.sublist_cons_self '=' value).trans (List.sublist_append_right key _)
        exact tail.trans sublist
      exact kept.assign (fun comma => plain (((Text.trim_sublist value).trans within).subset comma))
        (Text.trimmed_trim value) _

theorem EpicIsValue.foldl {attributes : Attributes} (kept : attributes.EpicIsValue)
    (segments : List (List Char)) (plain : ∀ segment, segment ∈ segments → ',' ∉ segment) :
    (segments.foldl Attributes.applySegment attributes).EpicIsValue := by
  induction segments generalizing attributes with
  | nil => exact kept
  | cons segment rest ih =>
      obtain ⟨segmentPlain, restPlain⟩ := List.forall_mem_cons.mp plain
      exact ih (kept.applySegment segmentPlain) restPlain

theorem EpicIsValue.parse? {defaults : Attributes} (kept : defaults.EpicIsValue)
    (raw : Option String) : (Attributes.parse? raw defaults).EpicIsValue := by
  cases raw with
  | none => exact kept
  | some raw =>
      rw [Attributes.parse?, Option.elim_some, parse_eq_foldl_fields]
      exact kept.foldl _ (Text.not_mem_of_mem_fields raw.toList)

/-! ### Values that are read back -/

/-- A segment with a key that is written without blanks assigns the value as it is written. -/
theorem applySegment_of_trimmed (attributes : Attributes) {key value : List Char}
    (separate : '=' ∉ key) (keyTrimmed : Text.Trimmed key) (keyFilled : key ≠ [])
    (trimmed : Text.Trimmed value) (filled : value ≠ []) :
    attributes.applySegment (key ++ '=' :: value) = attributes.assign key value := by
  have begins : Text.Trimmed (key ++ ['=']) :=
    keyTrimmed.append (Text.trimmed_of_all (by decide)) keyFilled (List.cons_ne_nil _ _)
  have whole : Text.Trimmed (key ++ '=' :: value) := by
    rw [List.append_cons]
    exact begins.append trimmed (List.append_ne_nil_of_left_ne_nil keyFilled _) filled
  rw [applySegment_eq_cutAt, whole.trim_eq, Text.cutAt_append_cons separate]
  dsimp only
  rw [keyTrimmed.trim_eq, trimmed.trim_eq]

private theorem plain_segment {key value : List Char} (keyPlain : ',' ∉ key) (plain : ',' ∉ value) :
    ',' ∉ key ++ '=' :: value := by
  rw [List.mem_append, List.mem_cons]
  rintro (inKey | same | inValue)
  · exact keyPlain inKey
  · cases same
  · exact plain inValue

theorem nonEmpty_toList {value : String} (filled : value.toList ≠ []) :
    nonEmpty value.toList = some value := by
  unfold nonEmpty
  rw [if_neg (mt List.isEmpty_iff.mp filled), String.ofList_toList]

theorem trimmed_toString (number : Int) : Text.Trimmed (toString number).toList := by
  apply Text.trimmed_of_all
  apply List.all_eq_true.mpr
  intro c member
  rcases Text.mem_toString member with rfl | digit
  · decide
  · rw [Text.isBlank_of_isWord (Text.isWord_of_digit digit)]
    rfl

/-- An epic and a number are read back from a list of the two. -/
theorem parse_epic_seq {epic : String} (isValue : IsValue epic) {number : Int}
    (readable : Text.readSigned? 10 (toString number).toList = some number)
    (defaults : Attributes) :
    parse ("epic=" ++ epic ++ ",seq=" ++ toString number) defaults =
      { epic := some epic, seq := number, id := defaults.id } := by
  have written : ("epic=" ++ epic ++ ",seq=" ++ toString number).toList =
      ("epic".toList ++ '=' :: epic.toList) ++
        ',' :: ("seq".toList ++ '=' :: (toString number).toList) := by
    simp only [String.toList_append, List.append_assoc]
    rfl
  have plain : ',' ∉ (toString number).toList := by
    intro comma
    rcases Text.mem_toString comma with same | digit
    · cases same
    · cases digit
  have setsEpic (attributes : Attributes) : attributes.assign "epic".toList epic.toList =
      { attributes with epic := some epic } := by
    change { attributes with epic := nonEmpty epic.toList } = _
    rw [nonEmpty_toList isValue.filled]
  have setsSeq (attributes : Attributes) :
      attributes.assign "seq".toList (toString number).toList =
        { attributes with seq := number } := by
    change { attributes with
      seq := (Text.readSigned? 10 (toString number).toList).getD attributes.seq } = _
    rw [readable, Option.getD_some]
  rw [parse_eq_foldl_fields, written, Text.fields_append_cons (plain_segment (by decide) isValue.plain),
    Text.fields_of_not_mem (plain_segment (by decide) plain),
    List.foldl_cons, List.foldl_cons, List.foldl_nil,
    applySegment_of_trimmed _ (by decide) (Text.trimmed_of_all (by decide)) (by decide)
      isValue.trimmed isValue.filled,
    applySegment_of_trimmed _ (by decide) (Text.trimmed_of_all (by decide)) (by decide)
      (trimmed_toString number) (Text.toList_toString_ne_nil number),
    setsEpic, setsSeq]

end Waymark.Attributes
