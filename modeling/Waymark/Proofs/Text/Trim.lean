import Mathlib.Data.List.DropRight
import Mathlib.Data.List.Induction
import Waymark.Text.Trim

set_option autoImplicit false

/-! Texts that are cut into fields, at a character and at their blank ends, and texts that the cuts
leave as they are. Blank ends do not matter to a text that is cut and then trimmed. A character that
is replaced everywhere is gone. -/

namespace Waymark.Text

/-! ### Fields -/

theorem fields_eq_splitOn {α : Type} [DecidableEq α] (separator : α) (text : List α) :
    fields separator text = text.splitOn separator := by
  induction text with
  | nil => rfl
  | cons element rest ih =>
      rw [List.splitOn_cons_eq_if_modifyHead, ← ih]
      change extendFields separator element (fields separator rest) = _
      unfold extendFields
      by_cases same : element = separator
      · rw [if_pos same, if_pos (beq_iff_eq.mpr same)]
      · rw [if_neg same, if_neg (mt beq_iff_eq.mp same)]
        have pieces : fields separator rest ≠ [] := ih ▸ List.splitOn_ne_nil separator rest
        cases split : fields separator rest with
        | nil => exact absurd split pieces
        | cons field more => rfl

theorem fields_of_not_mem {separator : Char} {text : List Char} (absent : separator ∉ text) :
    fields separator text = [text] := by
  rw [fields_eq_splitOn]
  exact List.splitOn_eq_singleton absent

theorem fields_append_cons {separator : Char} {first : List Char} (absent : separator ∉ first)
    (rest : List Char) :
    fields separator (first ++ separator :: rest) = first :: fields separator rest := by
  rw [fields_eq_splitOn, fields_eq_splitOn]
  exact List.splitOn_append_cons_self_of_not_mem absent rest

/-- A separator between two texts divides them, whatever they hold. -/
theorem fields_append (separator : Char) (first second : List Char) :
    fields separator (first ++ separator :: second) =
      fields separator first ++ fields separator second := by
  rw [fields_eq_splitOn, fields_eq_splitOn, fields_eq_splitOn]
  exact List.splitOn_append_cons_self first second

theorem not_mem_of_mem_fields {separator : Char} (text : List Char) :
    ∀ field, field ∈ fields separator text → separator ∉ field := by
  induction text with
  | nil =>
      intro field member
      rw [List.mem_singleton.mp member]
      exact List.not_mem_nil
  | cons c rest ih =>
      change ∀ field, field ∈ extendFields separator c (fields separator rest) → _
      unfold extendFields
      intro field member
      by_cases same : c = separator
      · rw [if_pos same] at member
        rcases List.mem_cons.mp member with rfl | later
        · exact List.not_mem_nil
        · exact ih field later
      · rw [if_neg same] at member
        cases split : fields separator rest with
        | nil =>
            rw [split] at member
            rw [List.mem_singleton.mp member, List.mem_singleton]
            exact Ne.symm same
        | cons head more =>
            rw [split] at ih member
            rcases List.mem_cons.mp member with rfl | later
            · rw [List.mem_cons, not_or]
              exact ⟨Ne.symm same, ih head List.mem_cons_self⟩
            · exact ih field (List.mem_cons_of_mem head later)

/-- A separator and the pieces have all characters of a text, and no others. -/
theorem mem_iff_mem_fields {separator c : Char} (other : c ≠ separator) (text : List Char) :
    c ∈ text ↔ ∃ piece, piece ∈ fields separator text ∧ c ∈ piece := by
  rw [fields_eq_splitOn]
  have joined : [separator].intercalate (text.splitOn separator) = text :=
    List.intercalate_splitOn separator
  conv_lhs => rw [← joined]
  generalize text.splitOn separator = pieces
  induction pieces with
  | nil => simp
  | cons first rest ih =>
      cases rest with
      | nil => simp
      | cons second more =>
          rw [List.intercalate_cons_cons, List.mem_append, List.mem_append, ih]
          simp [other]

/-! ### What stands before and after a character -/

theorem cutAt_append_cons {separator : Char} {before : List Char} (absent : separator ∉ before)
    (after : List Char) : cutAt separator (before ++ separator :: after) = some (before, after) := by
  have others : ∀ c, c ∈ before → (c != separator) = true := by
    intro c member
    apply bne_iff_ne.mpr
    rintro rfl
    exact absent member
  unfold cutAt
  rw [List.dropWhile_append_of_pos others, List.takeWhile_append_of_pos others]
  simp

theorem append_of_cutAt {separator : Char} {text before after : List Char}
    (cut : cutAt separator text = some (before, after)) : text = before ++ separator :: after := by
  unfold cutAt at cut
  cases rest : text.dropWhile (· != separator) with
  | nil =>
      rw [rest] at cut
      cases cut
  | cons found tail =>
      rw [rest] at cut
      cases cut
      have stops := List.head?_dropWhile_not (· != separator) text
      rw [rest, List.head?_cons] at stops
      have whole := List.takeWhile_append_dropWhile (p := (· != separator)) (l := text)
      rw [rest, bne_eq_false_iff_eq.mp stops] at whole
      exact whole.symm

theorem not_mem_of_cutAt {separator : Char} {text before after : List Char}
    (cut : cutAt separator text = some (before, after)) : separator ∉ before := by
  have kept : before = text.takeWhile (· != separator) := by
    unfold cutAt at cut
    split at cut
    · cases cut
    · exact (congrArg Prod.fst (Option.some.inj cut)).symm
  intro member
  rw [kept] at member
  have other := List.all_eq_true.mp (List.all_takeWhile (p := (· != separator)) (l := text)) _ member
  exact bne_iff_ne.mp other rfl

theorem cutAt_eq_none_iff (separator : Char) (text : List Char) :
    cutAt separator text = none ↔ separator ∉ text := by
  constructor
  · intro uncut member
    unfold cutAt at uncut
    split at uncut
    · rename_i all
      have other := List.dropWhile_eq_nil_iff.mp all separator member
      exact bne_iff_ne.mp other rfl
    · cases uncut
  · intro absent
    cases cut : cutAt separator text with
    | none => rfl
    | some parts =>
        rw [append_of_cutAt cut] at absent
        exact absurd (List.mem_append_right _ List.mem_cons_self) absent

/-! ### Beginnings and ends -/

theorem dropLead_eq_some_iff {lead text rest : List Char} :
    dropLead lead text = some rest ↔ text = lead ++ rest := by
  induction lead generalizing text with
  | nil => simp [dropLead, eq_comm]
  | cons a lead ih =>
      cases text with
      | nil => simp [dropLead]
      | cons b text =>
          by_cases same : a = b
          · simp [dropLead, same, ih]
          · simp [dropLead, same, Ne.symm same]

theorem dropClosing_eq_some_iff {closing text rest : List Char} :
    dropClosing closing text = some rest ↔ text = rest ++ closing := by
  unfold dropClosing
  rw [Option.map_eq_some_iff]
  constructor
  · rintro ⟨reversed, found, rfl⟩
    rw [← text.reverse_reverse, dropLead_eq_some_iff.mp found]
    simp
  · rintro rfl
    exact ⟨rest.reverse, dropLead_eq_some_iff.mpr (by simp), List.reverse_reverse rest⟩

theorem dropEndWhile_append (drop : Char → Bool) (first second : List Char) :
    dropEndWhile drop (first ++ second) =
      if dropEndWhile drop second = [] then dropEndWhile drop first
      else first ++ dropEndWhile drop second := by
  unfold dropEndWhile
  rw [List.reverse_append, List.dropWhile_append]
  by_cases all : second.reverse.dropWhile drop = []
  · rw [all]
    rfl
  · rw [if_neg (mt List.isEmpty_iff.mp all), if_neg (mt List.reverse_eq_nil_iff.mp all),
      List.reverse_append, List.reverse_reverse]

/-- Dropping from the end stops at the end of a part that ends with a character to keep. -/
theorem dropEndWhile_of_kept {drop : Char → Bool} {part tail : List Char} (filled : part ≠ [])
    (kept : ∀ c, part.getLast? = some c → drop c = false) (dropped : ∀ c, c ∈ tail → drop c = true)
    (front : List Char) : dropEndWhile drop (front ++ (part ++ tail)) = front ++ part := by
  have noTail : dropEndWhile drop tail = [] := List.rdropWhile_eq_nil_iff.mpr dropped
  have whole : dropEndWhile drop part = part := by
    apply List.rdropWhile_eq_self_iff.mpr
    intro nonempty
    rw [kept _ (List.getLast?_eq_some_getLast nonempty)]
    decide
  rw [dropEndWhile_append, dropEndWhile_append, if_pos noTail, whole, if_neg filled]

/-! ### Blanks -/

structure Trimmed (text : List Char) : Prop where
  first : ∀ c, text.head? = some c → isBlank c = false
  last : ∀ c, text.getLast? = some c → isBlank c = false

theorem trimmed_of_all {text : List Char} (plain : (text.all (!isBlank ·)) = true) :
    Trimmed text := by
  have notBlank : ∀ c, c ∈ text → isBlank c = false := by
    intro c member
    exact Bool.not_eq_true' _ ▸ List.all_eq_true.mp plain c member
  exact ⟨fun c begins => notBlank c (List.mem_of_head? begins),
    fun c ends => notBlank c (List.mem_of_getLast? ends)⟩

theorem trim_eq_rdropWhile (text : List Char) :
    trim text = (text.dropWhile isBlank).rdropWhile isBlank := rfl

theorem trim_sublist (text : List Char) : (trim text).Sublist text := by
  rw [trim_eq_rdropWhile]
  exact (List.rdropWhile_prefix isBlank _).sublist.trans (List.dropWhile_sublist _)

theorem trimmed_trim (text : List Char) : Trimmed (trim text) where
  first := by
    intro c begins
    rw [trim_eq_rdropWhile] at begins
    obtain ⟨rest, same⟩ := List.rdropWhile_prefix isBlank (text.dropWhile isBlank)
    have stops := List.head?_dropWhile_not isBlank text
    rw [← same, List.head?_append, begins] at stops
    exact stops
  last := by
    intro c ends
    rw [trim_eq_rdropWhile] at ends
    have filled : (text.dropWhile isBlank).rdropWhile isBlank ≠ [] := by
      intro empty
      rw [empty] at ends
      cases ends
    have stops := List.rdropWhile_last_not isBlank _ filled
    rw [List.getLast?_eq_some_getLast filled] at ends
    rw [Option.some.inj ends] at stops
    exact eq_false_of_ne_true stops

theorem Trimmed.trim_eq {text : List Char} (trimmed : Trimmed text) : trim text = text := by
  have starts : text.dropWhile isBlank = text := by
    cases text with
    | nil => rfl
    | cons c rest => exact List.dropWhile_cons_of_neg (by rw [trimmed.first c rfl]; decide)
  rw [trim_eq_rdropWhile, starts, List.rdropWhile_eq_self_iff]
  intro filled
  rw [trimmed.last _ (List.getLast?_eq_some_getLast filled)]
  decide

/-- A text that begins like one without blank ends and ends like another has none. -/
theorem Trimmed.append {first second : List Char} (firstTrimmed : Trimmed first)
    (secondTrimmed : Trimmed second) (firstFilled : first ≠ []) (secondFilled : second ≠ []) :
    Trimmed (first ++ second) where
  first := by
    intro c begins
    rw [List.head?_append_of_ne_nil _ firstFilled] at begins
    exact firstTrimmed.first c begins
  last := by
    intro c ends
    rw [List.getLast?_append_of_ne_nil _ secondFilled] at ends
    exact secondTrimmed.last c ends

theorem exists_blanks_around (text : List Char) :
    ∃ lead tail, (∀ c, c ∈ lead → isBlank c = true) ∧ (∀ c, c ∈ tail → isBlank c = true) ∧
      text = lead ++ (trim text ++ tail) := by
  refine ⟨text.takeWhile isBlank, (text.dropWhile isBlank).rtakeWhile isBlank, ?_, ?_, ?_⟩
  · exact List.all_eq_true.mp List.all_takeWhile
  · exact fun _ => List.mem_rtakeWhile_imp
  · rw [trim_eq_rdropWhile, List.rdropWhile_append_rtakeWhile, List.takeWhile_append_dropWhile]

theorem isBlank_of_trim_eq_nil {text : List Char} (empty : trim text = []) {c : Char}
    (member : c ∈ text) : isBlank c = true := by
  obtain ⟨lead, tail, leadBlank, tailBlank, whole⟩ := exists_blanks_around text
  rw [whole, empty, List.nil_append] at member
  rcases List.mem_append.mp member with inLead | inTail
  · exact leadBlank c inLead
  · exact tailBlank c inTail

theorem trim_blanks_append {lead : List Char} (blank : ∀ c, c ∈ lead → isBlank c = true)
    (text : List Char) : trim (lead ++ text) = trim text := by
  rw [trim_eq_rdropWhile, trim_eq_rdropWhile, List.dropWhile_append_of_pos blank]

theorem trim_append_blanks {tail : List Char} (blank : ∀ c, c ∈ tail → isBlank c = true)
    (text : List Char) : trim (text ++ tail) = trim text := by
  rw [trim_eq_rdropWhile, trim_eq_rdropWhile, List.dropWhile_append]
  split
  · rename_i allBlank
    rw [List.isEmpty_iff.mp allBlank, List.dropWhile_eq_nil_iff.mpr blank]
  · induction tail using List.reverseRecOn with
    | nil => rw [List.append_nil]
    | append_singleton earlier last ih =>
        obtain ⟨earlierBlank, lastBlank⟩ := List.forall_mem_append.mp blank
        rw [← List.append_assoc,
          List.rdropWhile_concat_pos _ _ _ (lastBlank last (List.mem_singleton.mpr rfl)),
          ih earlierBlank]

/-- Blanks at the ends of a text are blanks at the ends of what stands before and after a character
in it, so it is the same whether they go before or after the cut. -/
theorem cutAt_trim {separator : Char} (visible : isBlank separator = false) (text : List Char) :
    (cutAt separator (trim text)).map (Prod.map trim trim) =
      (cutAt separator text).map (Prod.map trim trim) := by
  obtain ⟨lead, tail, leadBlank, tailBlank, whole⟩ := exists_blanks_around text
  have notBlank {blanks : List Char} (blank : ∀ c, c ∈ blanks → isBlank c = true) :
      separator ∉ blanks := by
    intro member
    rw [blank separator member] at visible
    cases visible
  cases cut : cutAt separator (trim text) with
  | none =>
      have absent : separator ∉ text := by
        rw [whole, List.mem_append, List.mem_append]
        rintro (inLead | inTrimmed | inTail)
        · exact notBlank leadBlank inLead
        · exact (cutAt_eq_none_iff separator _).mp cut inTrimmed
        · exact notBlank tailBlank inTail
      rw [(cutAt_eq_none_iff separator text).mpr absent]
  | some parts =>
      obtain ⟨before, after⟩ := parts
      have absent : separator ∉ lead ++ before := by
        rw [List.mem_append]
        rintro (inLead | inBefore)
        · exact notBlank leadBlank inLead
        · exact not_mem_of_cutAt cut inBefore
      have same : cutAt separator text = some (lead ++ before, after ++ tail) := by
        rw [whole, append_of_cutAt cut, List.append_assoc, List.cons_append, ← List.append_assoc]
        exact cutAt_append_cons absent _
      rw [same, Option.map_some, Option.map_some, Prod.map, Prod.map,
        trim_blanks_append leadBlank, trim_append_blanks tailBlank]

/-! ### Replaced characters -/

theorem toList_replaceChar (old new : Char) (text : String) :
    (replaceChar old new text).toList = text.toList.map fun c => if c = old then new else c := by
  unfold replaceChar
  rw [String.toList_ofList]

theorem map_replace_of_not_mem {old new : Char} {text : List Char} (absent : old ∉ text) :
    text.map (fun c => if c = old then new else c) = text := by
  refine (List.map_congr_left fun c member => if_neg ?_).trans (List.map_id text)
  rintro rfl
  exact absent member

theorem not_mem_replaceChar {old new : Char} (different : new ≠ old) (text : String) :
    old ∉ (replaceChar old new text).toList := by
  rw [toList_replaceChar]
  intro member
  obtain ⟨c, _, same⟩ := List.mem_map.mp member
  split at same
  · exact different same
  · rename_i other
    exact other same

theorem replaceChar_of_not_mem {old : Char} (new : Char) {text : String}
    (absent : old ∉ text.toList) : replaceChar old new text = text := by
  rw [replaceChar, map_replace_of_not_mem absent, String.ofList_toList]

end Waymark.Text
