import Waymark.Anchor.Link
import Waymark.Proofs.Text.Class
import Waymark.Proofs.Text.Number
import Waymark.Proofs.Text.Trim

set_option autoImplicit false

/-! Link targets that are written and read back. A position holds no second mark of a position, so a
path that holds marks of its own is not cut before the position that follows it. A text is cut at the
first place, after at least one character, from which a position or nothing leads to its end. -/

namespace Waymark.LinkTarget

inductive IsWritten : List Char → Prop
  | line {digits : List Char} : digits ≠ [] → (∀ c, c ∈ digits → Text.isDigit c = true) →
      IsWritten (':' :: digits)
  | anchor {id : List Char} : id ≠ [] → (∀ c, c ∈ id → isIdChar c = true) → IsWritten ('#' :: id)

def Finishes (rest : List Char) : Prop := rest = [] ∨ IsWritten rest

/-- The shortest path that a text begins with, and what finishes the text after it. -/
structure Divides (text path rest : List Char) : Prop where
  whole : text = path ++ rest
  filled : path ≠ []
  finishes : Finishes rest
  shortest : ∀ shorter longer, text = shorter ++ longer → shorter ≠ [] →
    shorter.length < path.length → ¬ Finishes longer

structure IsPath (path : String) : Prop where
  filled : path.toList ≠ []
  oneLine : '\n' ∉ path.toList
  begins : ∀ c, path.toList.head? = some c → Text.isBlank c = false

/-! ### Positions -/

theorem isPosition_iff (rest : List Char) : isPosition rest = true ↔ IsWritten rest := by
  constructor
  · intro position
    unfold isPosition at position
    split at position
    · obtain ⟨filled, digits⟩ := Bool.and_eq_true_iff.mp position
      exact .line (by simpa using filled) (List.all_eq_true.mp digits)
    · obtain ⟨filled, chars⟩ := Bool.and_eq_true_iff.mp position
      exact .anchor (by simpa using filled) (List.all_eq_true.mp chars)
    · cases position
  · rintro (⟨filled, digits⟩ | ⟨filled, chars⟩)
    · exact Bool.and_eq_true_iff.mpr ⟨by simpa using filled, List.all_eq_true.mpr digits⟩
    · exact Bool.and_eq_true_iff.mpr ⟨by simpa using filled, List.all_eq_true.mpr chars⟩

def isMark (c : Char) : Bool := c == ':' || c == '#'

theorem IsWritten.begins {c : Char} {rest : List Char} (written : IsWritten (c :: rest)) :
    isMark c = true := by
  cases written <;> rfl

/-- After its first character a position holds no mark. -/
theorem IsWritten.unmarked {c : Char} {rest : List Char} (written : IsWritten (c :: rest)) :
    ∀ other, other ∈ rest → isMark other = false := by
  intro other member
  rw [Bool.eq_false_iff]
  intro mark
  have marks : other = ':' ∨ other = '#' := by
    rcases Bool.or_eq_true_iff.mp mark with colon | hash
    · exact Or.inl (eq_of_beq colon)
    · exact Or.inr (eq_of_beq hash)
  cases written with
  | line _ digits =>
      have digit := digits other member
      rcases marks with rfl | rfl
      · revert digit
        decide
      · revert digit
        decide
  | anchor _ chars =>
      have idChar := chars other member
      rcases marks with rfl | rfl
      · revert idChar
        decide
      · revert idChar
        decide

theorem not_finishes_of_marked {longer rest : List Char} (filled : longer ≠ [])
    (written : IsWritten rest) : ¬ Finishes (longer ++ rest) := by
  obtain ⟨c, more, rfl⟩ := List.exists_cons_of_ne_nil filled
  rintro (none | earlier)
  · cases none
  · cases rest with
    | nil => cases written
    | cons mark _ =>
        have unmarked := earlier.unmarked mark (List.mem_append_right more List.mem_cons_self)
        rw [written.begins] at unmarked
        cases unmarked

/-! ### Dividing a text -/

/-- A position divides a text where it stands, whatever marks the path before it holds. -/
theorem divides_append {path rest : List Char} (filled : path ≠ []) (written : IsWritten rest) :
    Divides (path ++ rest) path rest := by
  refine ⟨rfl, filled, Or.inr written, ?_⟩
  intro shorter longer whole _ before
  obtain ⟨between, same⟩ : ∃ between, path = shorter ++ between :=
    List.prefix_of_prefix_length_le ⟨longer, whole.symm⟩ (List.prefix_append path rest) before.le
      |>.imp fun _ => Eq.symm
  rw [same, List.append_assoc] at whole
  rw [← List.append_cancel_left whole]
  apply not_finishes_of_marked _ written
  rintro rfl
  rw [same, List.append_nil] at before
  exact Nat.lt_irrefl _ before

theorem Divides.unique {text path rest otherPath otherRest : List Char}
    (divides : Divides text path rest) (other : Divides text otherPath otherRest) :
    path = otherPath ∧ rest = otherRest := by
  have lengths : path.length = otherPath.length := by
    apply Nat.le_antisymm
    · by_contra longer
      exact divides.shortest otherPath otherRest other.whole other.filled (Nat.not_le.mp longer)
        other.finishes
    · by_contra longer
      exact other.shortest path rest divides.whole divides.filled (Nat.not_le.mp longer)
        divides.finishes
  exact List.append_inj (divides.whole.symm.trans other.whole) lengths

theorem divides_splitPosition {taken : List Char} (started : taken ≠ []) (text : List Char)
    (earlier : ∀ shorter longer, taken.reverse ++ text = shorter ++ longer → shorter ≠ [] →
      shorter.length < taken.length → ¬ Finishes longer) :
    Divides (taken.reverse ++ text) (splitPosition taken text).1 (splitPosition taken text).2 := by
  have begun {taken : List Char} (started : taken ≠ []) : taken.reverse ≠ [] :=
    mt List.reverse_eq_nil_iff.mp started
  induction text generalizing taken with
  | nil =>
      refine ⟨rfl, begun started, Or.inl rfl, ?_⟩
      intro shorter longer whole filled before
      exact earlier shorter longer whole filled (before.trans_eq List.length_reverse)
  | cons c rest ih =>
      unfold splitPosition
      split
      · rename_i position
        refine ⟨rfl, begun started, Or.inr ((isPosition_iff _).mp position), ?_⟩
        intro shorter longer whole filled before
        exact earlier shorter longer whole filled (before.trans_eq List.length_reverse)
      · rename_i noPosition
        have shifted : taken.reverse ++ c :: rest = (c :: taken).reverse ++ rest := by
          rw [List.reverse_cons, List.append_assoc, List.singleton_append]
        rw [shifted]
        apply ih (List.cons_ne_nil c taken)
        intro shorter longer whole filled before
        rw [← shifted] at whole
        rcases Nat.lt_succ_iff_lt_or_eq.mp before with sooner | here
        · exact earlier shorter longer whole filled sooner
        · have same := List.append_inj whole (List.length_reverse.trans here.symm)
          rw [← same.2]
          rintro (none | written)
          · cases none
          · exact noPosition ((isPosition_iff _).mpr written)

/-! ### Reading a target -/

theorem parse_eq_none_iff (text : String) :
    parse text = none ↔ Text.trim text.toList = [] ∨ '\n' ∈ Text.trim text.toList := by
  unfold parse
  cases Text.trim text.toList with
  | nil => simp
  | cons c rest =>
      by_cases lines : '\n' ∈ c :: rest
      · simp [lines]
      · simp [lines]

/-- A text of one line is read as the shortest path that it begins with and what follows that. -/
theorem parse_eq_some_iff (text : String) (target : LinkTarget) :
    parse text = some target ↔ '\n' ∉ Text.trim text.toList ∧
      ∃ rest, Divides (Text.trim text.toList) target.path.text.toList rest ∧
        target.position = readPosition rest := by
  unfold parse
  cases Text.trim text.toList with
  | nil =>
      constructor
      · intro none
        cases none
      · rintro ⟨_, rest, divides, _⟩
        exact absurd (List.append_eq_nil_iff.mp divides.whole.symm).1 divides.filled
  | cons c rest =>
      have divides : Divides (c :: rest) (splitPosition [c] rest).1 (splitPosition [c] rest).2 := by
        apply divides_splitPosition (List.cons_ne_nil c [])
        intro shorter longer _ filled before
        exact absurd (List.eq_nil_of_length_eq_zero (Nat.lt_one_iff.mp before)) filled
      by_cases lines : '\n' ∈ c :: rest
      · simp [lines]
      · have read : (c :: rest).contains '\n' = false := by
          rw [List.contains_eq_mem, decide_eq_false lines]
        rw [and_iff_right lines]
        simp only [read, Bool.false_eq_true, if_false, Option.some.injEq]
        constructor
        · rintro rfl
          exact ⟨_, by rwa [String.toList_ofList], rfl⟩
        · rintro ⟨other, otherDivides, position⟩
          obtain ⟨samePath, sameRest⟩ := divides.unique otherDivides
          rw [samePath, sameRest, String.ofList_toList, ← position]

/-- A path is read back, with its position, if nothing in the position can be taken for a blank. -/
theorem parse_append {path rest : String} (isPath : IsPath path) (written : IsWritten rest.toList)
    (visible : ∀ c, c ∈ rest.toList → Text.isBlank c = false) :
    parse (path ++ rest) = some ⟨⟨path⟩, readPosition rest.toList⟩ := by
  have filled : rest.toList ≠ [] := by
    intro empty
    rw [empty] at written
    cases written
  have trimmed : Text.Trimmed (path.toList ++ rest.toList) := by
    constructor
    · intro c begins
      rw [List.head?_append_of_ne_nil _ isPath.filled] at begins
      exact isPath.begins c begins
    · intro c ends
      rw [List.getLast?_append_of_ne_nil _ filled] at ends
      exact visible c (List.mem_of_getLast? ends)
  rw [parse_eq_some_iff, String.toList_append, trimmed.trim_eq]
  refine ⟨?_, rest.toList, divides_append isPath.filled written, rfl⟩
  rw [List.mem_append, not_or]
  refine ⟨isPath.oneLine, ?_⟩
  intro member
  have blank := visible '\n' member
  revert blank
  decide

theorem parse_line {path : String} (isPath : IsPath path) {number : Nat}
    (fits : number < UInt64.size) :
    parse (path ++ ":" ++ toString number) = some ⟨⟨path⟩, some (.line number)⟩ := by
  have written : (toString number).toList = Nat.toDigits 10 number := Nat.toList_repr
  have marked : (":" ++ toString number).toList = ':' :: Nat.toDigits 10 number := by
    rw [String.toList_append, written]
    rfl
  have digits := Text.isDigit_toDigits number
  rw [String.append_assoc, parse_append isPath, marked]
  · rw [readPosition, ← written, Text.readUnsigned?_toString (Nat.le_of_lt_succ fits)]
    rfl
  · rw [marked]
    exact .line Nat.toDigits_ne_nil fun c member => Text.isDigit_of_digit (digits c member)
  · rw [marked]
    intro c member
    rcases List.mem_cons.mp member with rfl | later
    · decide
    · exact Text.isBlank_of_isWord (Text.isWord_of_digit (digits c later))

theorem parse_anchor {path : String} (isPath : IsPath path) {id : String} (filled : id.toList ≠ [])
    (chars : ∀ c, c ∈ id.toList → isIdChar c = true) :
    parse (path ++ "#" ++ id) = some ⟨⟨path⟩, some (.anchor id)⟩ := by
  have marked : ("#" ++ id).toList = '#' :: id.toList := by
    rw [String.toList_append]
    rfl
  rw [String.append_assoc, parse_append isPath, marked]
  · rw [readPosition, String.ofList_toList]
  · rw [marked]
    exact .anchor filled chars
  · rw [marked]
    intro c member
    rcases List.mem_cons.mp member with rfl | later
    · decide
    · rcases Bool.or_eq_true_iff.mp (chars c later) with word | hyphen
      · exact Text.isBlank_of_isWord word
      · rw [eq_of_beq hyphen]
        decide

/-- A path that is written with a line or an id after it is read back with the two apart, also if it
holds marks of positions itself. No target is read from a blank text and from several lines; any
other text is divided after the shortest path that a position or nothing follows to its end, and a
line that needs more than 64 bits is cut off and not read. -/
theorem targets_read_back :
    (∀ path, IsPath path → ∀ number, number < UInt64.size →
      parse (path ++ ":" ++ toString number) = some ⟨⟨path⟩, some (.line number)⟩) ∧
    (∀ path, IsPath path → ∀ id : String, id.toList ≠ [] →
      (∀ c, c ∈ id.toList → isIdChar c = true) →
      parse (path ++ "#" ++ id) = some ⟨⟨path⟩, some (.anchor id)⟩) ∧
    (∀ text, parse text = none ↔ Text.trim text.toList = [] ∨ '\n' ∈ Text.trim text.toList) ∧
    ∀ text target, parse text = some target ↔ '\n' ∉ Text.trim text.toList ∧
      ∃ rest, Divides (Text.trim text.toList) target.path.text.toList rest ∧
        target.position = readPosition rest :=
  ⟨fun _ isPath _ => parse_line isPath, fun _ isPath _ => parse_anchor isPath, parse_eq_none_iff,
    parse_eq_some_iff⟩

/-- The greatest line, and an id that is no ASCII word, after a path with marks and a blank end. -/
theorem targets_read_back_marks :
    IsPath "a:1#b:c " ∧
      parse "a:1#b:c :18446744073709551615" =
        some ⟨⟨"a:1#b:c "⟩, some (.line 18446744073709551615)⟩ ∧
      parse "a:1#b:c #é-2" = some ⟨⟨"a:1#b:c "⟩, some (.anchor "é-2")⟩ := by
  have isPath : IsPath "a:1#b:c " := by
    refine ⟨by decide, by decide, ?_⟩
    rintro c ⟨⟩
    decide
  refine ⟨isPath, ?_, ?_⟩
  · exact targets_read_back.1 _ isPath 18446744073709551615 (by decide)
  · exact targets_read_back.2.1 _ isPath "é-2" (by decide) (List.all_eq_true.mp (by decide))

end Waymark.LinkTarget
