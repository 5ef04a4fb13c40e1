import Mathlib.Data.List.Forall2
import Waymark.Mark.Basic
import Waymark.Proofs.Text.CaseFold
import Waymark.Proofs.Text.Lines

set_option autoImplicit false

/-! How tokens and separators are written. A token is spelled character by character. A separator is
too, but each of its spaces stands for one or more, and it is read with as many spaces as there
are. Neither reads past the end of a line. -/

namespace Waymark.Grammar

variable (grammar : Grammar)

def Spells (token written : List Char) : Prop :=
  List.Forall₂ (fun wanted found => grammar.sameChar wanted found = true) token written

/-- Whether a text is a separator: each of its spaces stands for one or more, its other characters
for one that is the same up to case unless case matters. -/
inductive WritesSeparator : List Char → List Char → Prop
  | nil : WritesSeparator [] []
  | spaces (count : Nat) {separator written : List Char} :
      WritesSeparator separator written →
      WritesSeparator (' ' :: separator) (List.replicate (count + 1) ' ' ++ written)
  | char {wanted found : Char} {separator written : List Char} :
      wanted ≠ ' ' → grammar.sameChar wanted found = true →
      WritesSeparator separator written →
      WritesSeparator (wanted :: separator) (found :: written)

variable {grammar}

theorem eq_of_sameChar_space {wanted found : Char} (same : grammar.sameChar wanted found = true)
    (space : wanted = ' ' ∨ found = ' ') : wanted = found := by
  refine Text.eq_of_sameChar_of_low same ?_
  rcases space with space | space
  · rw [space]
    exact Or.inl (by decide)
  · rw [space]
    exact Or.inr (by decide)

/-- No character but a break stands for a break. -/
theorem sameChar_eq_false_of_isBreak {wanted found : Char} (plain : Text.isBreak wanted = false)
    (breaks : Text.isBreak found = true) : grammar.sameChar wanted found = false := by
  have low : found.toNat ≤ 64 := by
    unfold Text.isBreak at breaks
    rw [Bool.or_eq_true, beq_iff_eq, beq_iff_eq] at breaks
    rcases breaks with rfl | rfl <;> decide
  cases same : grammar.sameChar wanted found with
  | true =>
      rw [Text.eq_of_sameChar_of_low same (Or.inr low), breaks] at plain
      cases plain
  | false => rfl

/-! ### Tokens -/

theorem beginsWith_iff (token text : List Char) :
    grammar.beginsWith token text = true ↔ grammar.Spells token (text.take token.length) := by
  induction token generalizing text with
  | nil => simp [beginsWith, Spells]
  | cons wanted token ih =>
      cases text with
      | nil => simp [beginsWith, Spells]
      | cons found text =>
          unfold Spells at ih ⊢
          rw [beginsWith, Bool.and_eq_true, ih, List.length_cons, List.take_succ_cons,
            List.forall₂_cons]

theorem Spells.length_eq {token written : List Char} (spells : grammar.Spells token written) :
    written.length = token.length :=
  (List.Forall₂.length_eq spells).symm

/-! ### Separators -/

theorem WritesSeparator.of_space {separator written : List Char}
    (writes : grammar.WritesSeparator (' ' :: separator) written) :
    ∃ count rest, written = ' ' :: (List.replicate count ' ' ++ rest) ∧
      grammar.WritesSeparator separator rest := by
  cases writes with
  | spaces count tail => exact ⟨count, _, rfl, tail⟩
  | char other same tail => exact absurd rfl other

theorem WritesSeparator.of_char {wanted : Char} {separator written : List Char}
    (writes : grammar.WritesSeparator (wanted :: separator) written) (other : wanted ≠ ' ') :
    ∃ found rest, written = found :: rest ∧ grammar.sameChar wanted found = true ∧
      grammar.WritesSeparator separator rest := by
  cases writes with
  | spaces count tail => exact absurd rfl other
  | char notSpace same tail => exact ⟨_, _, rfl, same, tail⟩

theorem WritesSeparator.ne_nil {separator written : List Char}
    (writes : grammar.WritesSeparator separator written) (nonempty : separator ≠ []) :
    written ≠ [] := by
  cases writes with
  | nil => exact absurd rfl nonempty
  | spaces count tail => simp [List.replicate_succ]
  | char other same tail => simp

private theorem WritesSeparator.more_spaces {separator written : List Char}
    (writes : grammar.WritesSeparator separator written) (space : separator.head? = some ' ')
    (more : Nat) : grammar.WritesSeparator separator (List.replicate more ' ' ++ written) := by
  cases writes with
  | nil => cases space
  | spaces count tail =>
      rw [← List.append_assoc, List.replicate_append_replicate, ← Nat.add_assoc]
      exact WritesSeparator.spaces (more + count) tail
  | char other same tail => exact absurd (Option.some.inj space) other

private theorem WritesSeparator.head_ne_space {separator written : List Char}
    (writes : grammar.WritesSeparator separator written) (other : separator.head? ≠ some ' ') :
    written.head? ≠ some ' ' := by
  cases writes with
  | nil => simp
  | spaces count tail => exact absurd rfl other
  | char notSpace same tail =>
      intro space
      have equal := eq_of_sameChar_space same (Or.inr (Option.some.inj space))
      exact notSpace (equal.trans (Option.some.inj space))

private theorem leadingSpaces_append (text : List Char) :
    text = List.replicate (text.takeWhile (· == ' ')).length ' ' ++
      text.drop (text.takeWhile (· == ' ')).length := by
  have spaces : text.takeWhile (· == ' ') =
      List.replicate (text.takeWhile (· == ' ')).length ' ' := by
    apply List.eq_replicate_of_mem
    intro c member
    exact beq_iff_eq.mp (List.all_eq_true.mp (List.all_takeWhile (p := (· == ' '))) c member)
  have prefixed := List.prefix_iff_eq_append.mp (List.takeWhile_prefix (· == ' ') (l := text))
  rw [← spaces]
  exact prefixed.symm

theorem separatorLength?_sound (separator text : List Char) (size : Nat)
    (read : grammar.separatorLength? separator text = some size) :
    size ≤ text.length ∧ grammar.WritesSeparator separator (text.take size) := by
  fun_induction separatorLength? grammar separator text generalizing size with
  | case1 text =>
      cases read
      exact ⟨Nat.zero_le _, WritesSeparator.nil⟩
  | case2 => cases read
  | case3 separator text double ih =>
      obtain ⟨rest, known, same⟩ := Option.map_eq_some_iff.mp read
      obtain ⟨short, writes⟩ := ih rest known
      subst same
      exact ⟨by simpa using short, WritesSeparator.spaces 0 writes⟩
  | case4 separator text single spaces ih =>
      obtain ⟨rest, known, same⟩ := Option.map_eq_some_iff.mp read
      obtain ⟨short, writes⟩ := ih rest known
      subst same
      have total : text.length = spaces + (text.drop spaces).length := by
        have counted := congrArg List.length (leadingSpaces_append text)
        rwa [List.length_append, List.length_replicate] at counted
      refine ⟨by rw [List.length_cons]; omega, ?_⟩
      have parts : (' ' :: text).take (rest + (spaces + 1)) =
          List.replicate (spaces + 1) ' ' ++ (text.drop spaces).take rest := by
        rw [← Nat.add_assoc, List.take_succ_cons, List.replicate_succ, List.cons_append]
        congr 1
        conv_lhs => rw [leadingSpaces_append text]
        rw [List.take_append, List.take_replicate, List.length_replicate]
        congr 2
        · exact Nat.min_eq_right (Nat.le_add_left spaces rest)
        · exact Nat.add_sub_cancel rest spaces
      rw [parts]
      exact WritesSeparator.spaces spaces writes
  | case5 => cases read
  | case6 wanted separator found text notSpace same ih =>
      obtain ⟨rest, known, total⟩ := Option.map_eq_some_iff.mp read
      obtain ⟨short, writes⟩ := ih rest known
      subst total
      exact ⟨by simpa using short, WritesSeparator.char notSpace same writes⟩
  | case7 => cases read

private theorem takeWhile_spaces (count : Nat) {text : List Char} (other : text.head? ≠ some ' ') :
    (List.replicate count ' ' ++ text).takeWhile (· == ' ') = List.replicate count ' ' := by
  rw [List.takeWhile_append_of_pos (by simp)]
  cases text with
  | nil => simp
  | cons c rest =>
      have stops : (c == ' ') = false := by simpa using other
      rw [List.takeWhile_cons_of_neg (by simp [stops]), List.append_nil]

/-- A separator is read where it is written, and with no fewer characters. -/
theorem separatorLength?_complete (separator text written rest : List Char)
    (whole : text = written ++ rest) (writes : grammar.WritesSeparator separator written) :
    ∃ size, grammar.separatorLength? separator text = some size ∧ written.length ≤ size := by
  fun_induction separatorLength? grammar separator text generalizing written with
  | case1 text =>
      cases writes
      exact ⟨0, rfl, Nat.le_refl 0⟩
  | case2 wanted separator =>
      have empty := (List.append_eq_nil_iff.mp whole.symm).1
      exact absurd empty (writes.ne_nil (List.cons_ne_nil wanted separator))
  | case3 separator text double ih =>
      obtain ⟨count, tail, rfl, further⟩ := writes.of_space
      have remaining : text = (List.replicate count ' ' ++ tail) ++ rest := (List.cons.inj whole).2
      obtain ⟨size, read, long⟩ := ih _ remaining (further.more_spaces double count)
      exact ⟨size + 1, by rw [read]; rfl, Nat.succ_le_succ long⟩
  | case4 separator text single spaces ih =>
      obtain ⟨count, tail, rfl, further⟩ := writes.of_space
      have remaining : text = List.replicate count ' ' ++ (tail ++ rest) := by
        rw [← List.append_assoc]
        exact (List.cons.inj whole).2
      rw [List.length_cons, List.length_append, List.length_replicate]
      by_cases empty : separator = []
      · subst empty
        cases further
        have bound : count ≤ spaces := by
          show count ≤ (text.takeWhile (· == ' ')).length
          rw [remaining, List.takeWhile_append_of_pos (by simp), List.length_append,
            List.length_replicate]
          exact Nat.le_add_right count _
        exact ⟨spaces + 1, by simp [separatorLength?], Nat.succ_le_succ bound⟩
      · -- The run of spaces ends where the rest of the separator begins.
        have stops : (tail ++ rest).head? ≠ some ' ' := by
          rw [List.head?_append_of_ne_nil _ (further.ne_nil empty)]
          exact further.head_ne_space single
        have counted : spaces = count := by
          show (text.takeWhile (· == ' ')).length = count
          rw [remaining, takeWhile_spaces count stops, List.length_replicate]
        have dropped : text.drop spaces = tail ++ rest := by
          rw [counted, remaining]
          exact List.drop_left' List.length_replicate
        obtain ⟨size, read, long⟩ := ih tail dropped further
        exact ⟨size + (spaces + 1), by rw [read]; rfl, by omega⟩
  | case5 separator found text other =>
      obtain ⟨count, tail, rfl, further⟩ := writes.of_space
      exact absurd (List.cons.inj whole).1 other
  | case6 wanted separator found text notSpace same ih =>
      obtain ⟨first, tail, rfl, _, further⟩ := writes.of_char notSpace
      obtain ⟨size, read, long⟩ := ih tail (List.cons.inj whole).2 further
      exact ⟨size + 1, by rw [read]; rfl, Nat.succ_le_succ long⟩
  | case7 wanted separator found text notSpace different =>
      obtain ⟨first, tail, rfl, same, _⟩ := writes.of_char notSpace
      rw [(List.cons.inj whole).1] at different
      exact absurd same different

/-- A separator takes as much of a text as it can be written with. -/
theorem separatorLength?_eq_some_iff {separator written rest : List Char} :
    grammar.separatorLength? separator (written ++ rest) = some written.length ↔
      grammar.WritesSeparator separator written ∧
        ∀ other tail, written ++ rest = other ++ tail →
          grammar.WritesSeparator separator other → other.length ≤ written.length := by
  constructor
  · intro read
    have writes := (separatorLength?_sound separator _ _ read).2
    rw [List.take_left] at writes
    refine ⟨writes, ?_⟩
    intro other tail same otherWrites
    obtain ⟨size, readOther, long⟩ :=
      separatorLength?_complete separator _ other tail same otherWrites
    rw [read] at readOther
    cases readOther
    exact long
  · rintro ⟨writes, greatest⟩
    obtain ⟨size, read, long⟩ := separatorLength?_complete separator _ written rest rfl writes
    obtain ⟨short, sizeWrites⟩ := separatorLength?_sound separator _ size read
    have bound := greatest _ _ (List.take_append_drop size (written ++ rest)).symm sizeWrites
    rw [List.length_take, Nat.min_eq_left short] at bound
    rw [read, Nat.le_antisymm bound long]

theorem separatorLength?_eq_none_iff {separator text : List Char} :
    grammar.separatorLength? separator text = none ↔
      ∀ written rest, text = written ++ rest → ¬grammar.WritesSeparator separator written := by
  constructor
  · intro missing written rest whole writes
    obtain ⟨size, read, _⟩ := separatorLength?_complete separator text written rest whole writes
    rw [missing] at read
    cases read
  · intro never
    cases read : grammar.separatorLength? separator text with
    | none => rfl
    | some size =>
        have writes := (separatorLength?_sound separator text size read).2
        exact absurd writes (never _ _ (List.take_append_drop size text).symm)

/-! ### The end of the line -/

def FollowsLine (tail : List Char) : Prop :=
  ∀ c rest, tail = c :: rest → Text.isBreak c = true

theorem beginsWith_append {token : List Char} (unbroken : Text.Unbroken token) (text : List Char)
    {tail : List Char} (follows : FollowsLine tail) :
    grammar.beginsWith token (text ++ tail) = grammar.beginsWith token text := by
  induction token generalizing text with
  | nil => simp [beginsWith]
  | cons wanted token ih =>
      cases text with
      | nil =>
          cases tail with
          | nil => rfl
          | cons c rest =>
              have different : grammar.sameChar wanted c = false :=
                sameChar_eq_false_of_isBreak (unbroken wanted List.mem_cons_self)
                  (follows c rest rfl)
              simp [beginsWith, different]
      | cons found text => rw [List.cons_append, beginsWith, beginsWith, ih unbroken.of_cons]

theorem FollowsLine.takeWhile_append {tail : List Char} (follows : FollowsLine tail)
    {p : Char → Bool} (stops : ∀ c, Text.isBreak c = true → p c = false) (text : List Char) :
    (text ++ tail).takeWhile p = text.takeWhile p := by
  induction text with
  | nil =>
      cases tail with
      | nil => rfl
      | cons c rest => simp [stops c (follows c rest rfl)]
  | cons c rest ih => simp only [List.cons_append, List.takeWhile_cons, ih]

private theorem ne_space_of_isBreak {c : Char} (breaks : Text.isBreak c = true) : c ≠ ' ' := by
  rintro rfl
  cases breaks

theorem separatorLength?_append {separator : List Char} (unbroken : Text.Unbroken separator)
    (text : List Char) {tail : List Char} (follows : FollowsLine tail) :
    grammar.separatorLength? separator (text ++ tail) = grammar.separatorLength? separator text := by
  fun_induction separatorLength? grammar separator text with
  | case1 text => simp [separatorLength?]
  | case2 wanted separator =>
      cases tail with
      | nil => rfl
      | cons c rest =>
          have breaks := follows c rest rfl
          have different : grammar.sameChar wanted c = false :=
            sameChar_eq_false_of_isBreak (unbroken wanted List.mem_cons_self) breaks
          simp [separatorLength?, ne_space_of_isBreak breaks, different]
  | case3 separator text double ih =>
      simp [separatorLength?, double, ih unbroken.of_cons]
  | case4 separator text single spaces ih =>
      have counted : ((text ++ tail).takeWhile (· == ' ')).length = spaces := by
        rw [follows.takeWhile_append]
        intro c breaks
        simpa using ne_space_of_isBreak breaks
      have dropped : (text ++ tail).drop spaces = text.drop spaces ++ tail :=
        List.drop_append_of_le_length (List.takeWhile_prefix _).length_le
      rw [List.cons_append, separatorLength?, if_pos rfl, if_pos rfl, if_neg single]
      dsimp only
      rw [counted, dropped, ih unbroken.of_cons]
  | case5 separator found text other =>
      rw [List.cons_append, separatorLength?, if_pos rfl, if_neg other]
  | case6 wanted separator found text notSpace same ih =>
      rw [List.cons_append, separatorLength?, if_neg notSpace, if_pos same, ih unbroken.of_cons]
  | case7 wanted separator found text notSpace different =>
      rw [List.cons_append, separatorLength?, if_neg notSpace, if_neg different]

end Waymark.Grammar
