import Waymark.Proofs.Mark.ExactCase
import Waymark.Proofs.Mark.Opening
import Waymark.Proofs.Text.Class
import Waymark.Proofs.Text.WordCase
import Waymark.Tag.Completion

set_option autoImplicit false

/-! Whether the snippets of tags are read as marks of these tags. A token ends where its word ends, so
what is read behind a blank has the token that was inserted. It is a mark if what follows the token
can end one, as the first separator does unless it is empty. -/

namespace Waymark

namespace Text

/-- Whether a text has the form of a token: characters that are in no word, then a word. -/
def IsToken (text : List Char) : Prop :=
  ∃ ending name, text = ending ++ name ∧ (∀ c, c ∈ ending → isWord c = false) ∧
    name ≠ [] ∧ ∀ c, c ∈ name → isWord c = true

def EndsWord (text : List Char) : Prop :=
  ∀ c, text.head? = some c → isWord c = false

def firstToken (text : List Char) : List Char :=
  text.takeWhile (!isWord ·) ++ (text.dropWhile (!isWord ·)).takeWhile isWord

theorem firstToken_append {token rest : List Char} (shape : IsToken token) (ends : EndsWord rest) :
    firstToken (token ++ rest) = token := by
  obtain ⟨ending, name, rfl, others, nonempty, words⟩ := shape
  obtain ⟨first, more, rfl⟩ := List.exists_cons_of_ne_nil nonempty
  have kept : ∀ c, c ∈ ending → (!isWord c) = true := by
    intro c member
    rw [others c member]
    rfl
  have firstWord : isWord first = true := words first List.mem_cons_self
  have stops : (!isWord first) = false := by rw [firstWord]; rfl
  have wordEnds : rest.takeWhile isWord = [] := by
    cases rest with
    | nil => rfl
    | cons c tail => rw [List.takeWhile_cons_of_neg (by rw [ends c rfl]; simp)]
  unfold firstToken
  rw [List.append_assoc, List.takeWhile_append_of_pos kept, List.dropWhile_append_of_pos kept,
    List.cons_append, List.takeWhile_cons_of_neg (by simp [stops]),
    List.dropWhile_cons_of_neg (by simp [stops]), List.append_nil, ← List.cons_append,
    List.takeWhile_append_of_pos words, wordEnds, List.append_nil]

end Text

namespace Grammar

variable {grammar : Grammar}

theorem isWord_of_spells {token written : List Char} (spells : grammar.Spells token written)
    {word : Bool} (all : ∀ c, c ∈ token → Text.isWord c = word) :
    ∀ c, c ∈ written → Text.isWord c = word := by
  unfold Spells at spells
  induction spells with
  | nil =>
      intro c member
      cases member
  | cons same _ ih =>
      intro c member
      rcases List.mem_cons.mp member with rfl | later
      · rw [← Text.isWord_of_sameChar same, all _ List.mem_cons_self]
      · exact ih (fun d known => all d (List.mem_cons_of_mem _ known)) c later

theorem isToken_of_spells {token written : List Char} (spells : grammar.Spells token written)
    (shape : Text.IsToken token) : Text.IsToken written := by
  obtain ⟨ending, name, rfl, others, nonempty, words⟩ := shape
  have first := List.forall₂_take ending.length spells
  have second := List.forall₂_drop ending.length spells
  rw [List.take_left] at first
  rw [List.drop_left] at second
  refine ⟨written.take ending.length, written.drop ending.length,
    (List.take_append_drop _ _).symm, isWord_of_spells first others, ?_,
    isWord_of_spells second words⟩
  rw [← List.length_pos_iff, ← List.Forall₂.length_eq second, List.length_pos_iff]
  exact nonempty

theorem sameChar_self (c : Char) : grammar.sameChar c c = true := by
  unfold sameChar Text.sameChar Text.sameFold
  cases grammar.matchCase <;> simp

theorem spells_self (token : List Char) : grammar.Spells token token :=
  List.forall₂_same.mpr fun c _ => sameChar_self c

theorem writesSeparator_self (separator : List Char) :
    grammar.WritesSeparator separator separator := by
  induction separator with
  | nil => exact WritesSeparator.nil
  | cons c rest ih =>
      by_cases space : c = ' '
      · subst space
        exact WritesSeparator.spaces 0 ih
      · exact WritesSeparator.char space (sameChar_self c) ih

/-! ### What follows a token -/

variable (grammar)

/-- Whether a text can follow a token up to the end of the line: perhaps brackets, and then nothing or
a separator and a comment. -/
def EndsMark (rest : List Char) : Prop :=
  ∃ bracketed separator, separator ∈ grammar.separators.map some ++ [none] ∧
    ∃ mark, grammar.Completes ⟨[], bracketed, separator⟩ mark ∧ mark.written = rest

/-- Whether tokens and separators meet at the ends of words: the tokens have the form of tokens, and
the separators begin with a character that is in no word. -/
structure MeetsAtWords : Prop where
  tokens : ∀ token, token ∈ grammar.tokens → Text.IsToken token
  separators : ∀ separator, separator ∈ grammar.separators →
    ∃ c rest, separator = c :: rest ∧ Text.isWord c = false

variable {grammar}

theorem mem_choices_iff (choice : Choice) :
    choice ∈ grammar.choices ↔
      choice.token ∈ grammar.tokens ∧
        choice.separator ∈ grammar.separators.map some ++ [none] := by
  unfold choices
  constructor
  · intro member
    obtain ⟨token, tokenKnown, among⟩ := List.mem_flatMap.mp member
    obtain ⟨bracketed, _, among⟩ := List.mem_flatMap.mp among
    obtain ⟨separator, separatorKnown, rfl⟩ := List.mem_map.mp among
    exact ⟨tokenKnown, separatorKnown⟩
  · rintro ⟨tokenKnown, separatorKnown⟩
    refine List.mem_flatMap.mpr ⟨choice.token, tokenKnown, List.mem_flatMap.mpr
      ⟨choice.bracketed, ?_, List.mem_map.mpr ⟨choice.separator, separatorKnown, rfl⟩⟩⟩
    cases choice.bracketed <;> simp

theorem written_eq (mark : Mark) :
    mark.written = mark.token ++ (mark.bracketText ++ mark.remarkText) := by
  simp [Mark.written, Mark.opening, Mark.remarkText]

/-- A token and what follows it are read independently. -/
theorem completes_iff {token : List Char} {bracketed : Bool} {separator : Option (List Char)}
    {mark : Mark} :
    grammar.Completes ⟨token, bracketed, separator⟩ mark ↔
      grammar.Spells token mark.token ∧
        grammar.Completes ⟨[], bracketed, separator⟩ { mark with token := [] } :=
  ⟨fun completes => ⟨completes.token,
      ⟨List.Forall₂.nil, completes.bracketed, completes.inner, completes.remark⟩⟩,
    fun ⟨spells, completes⟩ =>
      ⟨spells, completes.bracketed, completes.inner, completes.remark⟩⟩

theorem endsMark_of_completes {choice : Choice} (known : choice ∈ grammar.choices) {mark : Mark}
    (completes : grammar.Completes choice mark) :
    grammar.EndsMark (mark.bracketText ++ mark.remarkText) := by
  obtain ⟨token, bracketed, separator⟩ := choice
  refine ⟨bracketed, separator, ((mem_choices_iff _).mp known).2, { mark with token := [] },
    (completes_iff.mp completes).2, ?_⟩
  rw [written_eq]
  rfl

/-- A token with what can follow it is a mark. -/
theorem completes_of_endsMark {token rest : List Char} (known : token ∈ grammar.tokens)
    (ends : grammar.EndsMark rest) :
    ∃ choice, choice ∈ grammar.choices ∧
      ∃ mark, grammar.Completes choice mark ∧ mark.written = token ++ rest := by
  obtain ⟨bracketed, separator, separatorKnown, mark, completes, rfl⟩ := ends
  refine ⟨⟨token, bracketed, separator⟩, (mem_choices_iff _).mpr ⟨known, separatorKnown⟩,
    { mark with token }, completes_iff.mpr ⟨spells_self token, ?_⟩, ?_⟩
  · exact ⟨List.Forall₂.nil, completes.bracketed, completes.inner, completes.remark⟩
  · have none : mark.token = [] := List.forall₂_nil_left_iff.mp completes.token
    rw [written_eq, written_eq, none]
    rfl

theorem endsMark_separator {separator : List Char} (known : separator ∈ grammar.separators)
    (comment : List Char) : grammar.EndsMark (separator ++ comment) := by
  refine ⟨false, some separator, List.mem_append_left _ (List.mem_map_of_mem known),
    ⟨[], none, some ⟨separator, comment⟩⟩, ⟨List.Forall₂.nil, rfl, ?_, ?_⟩, rfl⟩
  · intro inner impossible
    cases impossible
  · exact Option.Rel.some (writesSeparator_self separator)

/-- On a line of its own a mark behind a blank is read by the first choice that reads it. -/
theorem markAt_blank (single : grammar.SingleLine) {text : List Char}
    (unbroken : Text.Unbroken text) :
    grammar.markAt ' ' text = grammar.choices.findSome? (grammar.readAs text) := by
  have atEnd : LineEnds ' ' text [] := rfl
  have read := markAt_append single atEnd unbroken (show Text.isWord ' ' = false by decide)
  rwa [List.append_nil] at read

/-- A mark that starts behind one byte is that behind the first character, if this is a blank. -/
theorem markAt_of_mem_hits {text : String} {rest : List Char} (written : text.toList = ' ' :: rest)
    {hit : Hit} (member : hit ∈ grammar.hits text) (start : hit.start = 1) :
    grammar.markAt ' ' rest = some hit.mark := by
  unfold hits at member
  rw [written] at member
  obtain ⟨before, c, after, whole, placed, read⟩ := place_of_mem_hitsFrom 0 member
  obtain rfl : before = [] := by
    cases before with
    | nil => rfl
    | cons first more =>
        rw [start, Nat.zero_add, List.cons_append, Text.byteLength_cons, Text.byteLength_append,
          Text.byteLength_cons] at placed
        have firstSize := first.utf8Size_pos
        have lastSize := c.utf8Size_pos
        omega
  obtain ⟨rfl, rfl⟩ := List.cons.inj whole
  exact read

namespace MeetsAtWords

variable (meets : grammar.MeetsAtWords)
include meets

theorem endsWord {rest : List Char} (ends : grammar.EndsMark rest) : Text.EndsWord rest := by
  obtain ⟨bracketed, separator, known, mark, completes, rfl⟩ := ends
  obtain ⟨token, bracket, remark⟩ := mark
  obtain rfl : token = [] := List.forall₂_nil_left_iff.mp completes.token
  intro c starts
  cases bracket with
  | some inner =>
      rw [← Option.some.inj starts]
      rfl
  | none =>
      cases completes.remark with
      | none => cases starts
      | some writes =>
          rename_i separator remark
          have configured : separator ∈ grammar.separators := by simpa using known
          obtain ⟨first, more, rfl, other⟩ := meets.separators separator configured
          have begins : (remark.separator ++ remark.comment).head? = some c := starts
          generalize remark.separator = written at writes begins
          cases writes with
          | spaces count _ =>
              rw [List.replicate_succ] at begins
              rw [← Option.some.inj begins]
              rfl
          | char _ same _ =>
              rw [← Option.some.inj begins, ← Text.isWord_of_sameChar same]
              exact other

/-- What a text with a token is read as has this token. -/
theorem token_of_completes {choice : Choice} (known : choice ∈ grammar.choices) {mark : Mark}
    (completes : grammar.Completes choice mark) {token rest : List Char}
    (tokenKnown : token ∈ grammar.tokens) (ends : Text.EndsWord rest)
    (whole : mark.written = token ++ rest) : mark.token = token := by
  have shape := isToken_of_spells completes.token
    (meets.tokens _ ((mem_choices_iff choice).mp known).1)
  have behind := meets.endsWord (endsMark_of_completes known completes)
  rw [written_eq] at whole
  rw [← Text.firstToken_append shape behind, whole,
    Text.firstToken_append (meets.tokens token tokenKnown) ends]

/-- A token with what can follow it is read as one mark that is all of it. -/
theorem exists_markAt (single : grammar.SingleLine) {token rest : List Char}
    (known : token ∈ grammar.tokens) (unbroken : Text.Unbroken (token ++ rest))
    (ends : grammar.EndsMark rest) :
    ∃ mark, grammar.markAt ' ' (token ++ rest) = some mark ∧ mark.token = token ∧
      mark.written = token ++ rest := by
  obtain ⟨choice, choiceKnown, other, completes, written⟩ := completes_of_endsMark known ends
  obtain ⟨best, read, _⟩ := readAs_complete completes written
  have found : (grammar.choices.findSome? (grammar.readAs (token ++ rest))).isSome = true := by
    rw [List.findSome?_isSome_iff]
    exact ⟨choice, choiceKnown, by rw [read]; rfl⟩
  obtain ⟨mark, first⟩ := Option.isSome_iff_exists.mp found
  obtain ⟨taken, takenKnown, takes⟩ := List.exists_of_findSome?_eq_some first
  obtain ⟨takenCompletes, all⟩ := readAs_sound takes
  refine ⟨mark, by rw [markAt_blank single unbroken, first], ?_, all⟩
  exact meets.token_of_completes takenKnown takenCompletes known (meets.endsWord ends) all

/-- A token behind a blank is read as the only mark exactly if what follows it can end one. -/
theorem hits_iff (single : grammar.SingleLine) {token rest : List Char}
    (known : token ∈ grammar.tokens) (unbroken : Text.Unbroken (token ++ rest))
    {text : String}
    (written : text.toList = ' ' :: (token ++ rest)) :
    (∃ hit, grammar.hits text = [hit] ∧ hit.start = 1 ∧ hit.mark.token = token) ↔
      grammar.EndsMark rest := by
  constructor
  · rintro ⟨hit, only, start, same⟩
    have read := markAt_of_mem_hits written (only ▸ List.mem_singleton_self hit) start
    rw [markAt_blank single unbroken] at read
    obtain ⟨choice, choiceKnown, found⟩ := List.exists_of_findSome?_eq_some read
    obtain ⟨completes, all⟩ := readAs_sound found
    rw [written_eq, same, List.append_cancel_left_eq] at all
    rw [← all]
    exact endsMark_of_completes choiceKnown completes
  · intro ends
    obtain ⟨mark, read, same, all⟩ := meets.exists_markAt single known unbroken ends
    refine ⟨⟨1, mark⟩, ?_, rfl, same⟩
    have behindBlank : grammar.markAt ' ' (mark.written ++ []) = some mark := by
      rw [List.append_nil, all, read]
    unfold hits
    rw [written, ← all, ← List.append_nil mark.written, hitsFrom_of_mark behindBlank, hitsFrom]
    rfl

end MeetsAtWords

/-! ### Which tag a token names -/

section

variable {registry : Registry} {tag : Tag} (wellFormed : registry.WellFormed)
  (listed : tag ∈ registry.list)
include wellFormed listed

/-- The end mark and the name of a region are divided, whatever case matters. -/
theorem splitEnd_endTag_append (region : tag.isRegion = true) (named : tag.name ≠ "")
    (marked : grammar.endTag ≠ "") :
    grammar.splitEnd registry.hasRegion (grammar.endTag ++ tag.name) = (tag.name, true) := by
  rcases grammar.splitEnd_cases registry.hasRegion (grammar.endTag ++ tag.name) with
    ⟨mark, rest, ending, result⟩ | ⟨_, notEnding⟩
  · have whole := congrArg String.toList ending.whole
    have size := ending.sameSize
    rw [String.toList_append, String.toList_append] at whole
    rw [Text.utf8ByteSize_eq_byteLength, Text.utf8ByteSize_eq_byteLength] at size
    have same : tag.name = rest := String.toList_inj.mp (eq_of_append_eq_append whole size.symm)
    rw [result, same]
  · have isEndTag : grammar.isEndTag grammar.endTag = true := by
      unfold isEndTag
      cases grammar.matchCase <;> simp
    have isRegion := (Registry.hasRegion_iff wellFormed tag.name).mpr
      ⟨tag, listed, (Registry.upper_name wellFormed listed).symm, region⟩
    exact absurd ⟨rfl, rfl, marked, named, isEndTag, isRegion⟩ (notEnding grammar.endTag tag.name)

/-- A name that is a word does not begin with an end mark that has no word characters. -/
theorem splitEnd_word (words : ∀ c, c ∈ tag.name.toList → Text.isWord c = true)
    (others : ∀ c, c ∈ grammar.endTag.toList → Text.isWord c = false) :
    grammar.splitEnd registry.hasRegion tag.name = (tag.name, false) := by
  rcases grammar.splitEnd_cases registry.hasRegion tag.name with
    ⟨mark, rest, ending, _⟩ | ⟨result, _⟩
  · have inName : ∀ c, c ∈ mark.toList → c ∈ tag.name.toList := by
      intro c member
      rw [ending.whole, String.toList_append]
      exact List.mem_append_left _ member
    have nonempty : mark.toList ≠ [] :=
      fun empty => ending.markNonempty (String.toList_eq_nil_iff.mp empty)
    obtain ⟨first, more, split⟩ := List.exists_cons_of_ne_nil nonempty
    have member : first ∈ mark.toList := by simp [split]
    have word := words first (inName first member)
    -- The first character of the mark is in no word, in the end mark or in its uppercase form.
    have other : Text.isWord first = false := by
      have same := ending.endTag
      unfold isEndTag at same
      split at same
      · rw [beq_iff_eq.mp same] at member
        exact others first member
      · have fixed : Text.upperChar first = [first] :=
          Text.upperChar_of_upper_eq (Registry.upper_name wellFormed listed) (inName first member)
        have among : first ∈ (Text.upper mark).toList := by
          rw [Text.toList_upper]
          exact List.mem_flatMap.mpr ⟨first, member, by rw [fixed]; exact List.mem_singleton_self _⟩
        rw [beq_iff_eq.mp same, Text.toList_upper] at among
        obtain ⟨c, known, upper⟩ := List.mem_flatMap.mp among
        exact Text.isWord_of_mem_upperChar (others c known) upper
    rw [other] at word
    cases word
  · exact result

end

end Grammar

/-! ### Snippets -/

namespace TagCompletion

inductive Writes (endTag : String) (tag : Tag) : String → Parser.Role → Prop
  | name : Writes endTag tag tag.name (.anchor tag)
  | ending : tag.isRegion = true → Writes endTag tag (endTag ++ tag.name) (.ending tag)

theorem mem_ofRegistry_iff (registry : Registry) (separators : List String) (endTag : String)
    (item : TagCompletion) :
    item ∈ ofRegistry registry separators endTag ↔
      ∃ tag, tag ∈ registry.list ∧ ∃ token role, Writes endTag tag token role ∧
        item = ofToken (separators.head?.getD " ") token := by
  unfold ofRegistry
  dsimp only
  rw [List.mem_map]
  constructor
  · rintro ⟨token, known, rfl⟩
    obtain ⟨tag, listed, among⟩ := List.mem_flatMap.mp known
    rcases (Grammar.mem_tokens_iff endTag tag token).mp among with rfl | ⟨region, rfl⟩
    · exact ⟨tag, listed, _, _, Writes.name, rfl⟩
    · exact ⟨tag, listed, _, _, Writes.ending region, rfl⟩
  · rintro ⟨tag, listed, token, role, writes, rfl⟩
    refine ⟨token, List.mem_flatMap.mpr ⟨tag, listed, ?_⟩, rfl⟩
    rw [Grammar.mem_tokens_iff]
    cases writes with
    | name => exact Or.inl rfl
    | ending region => exact Or.inr ⟨region, rfl⟩

theorem Writes.mem_tokens {registry : Registry} {separators : List String} {endTag : String}
    {matchCase : Bool} {grammar : Grammar}
    (built : Grammar.build registry separators endTag matchCase = .ok grammar) {tag : Tag}
    (listed : tag ∈ registry.list) {token : String} {role : Parser.Role}
    (writes : Writes endTag tag token role) : token.toList ∈ grammar.tokens := by
  obtain ⟨_, _, rfl⟩ := (Grammar.build_eq_ok_iff _ _ _ _ _).mp built
  refine List.mem_map_of_mem ((Grammar.mem_tokensOf_iff registry endTag token).mpr ⟨tag, listed, ?_⟩)
  cases writes with
  | name => exact Or.inl rfl
  | ending region => exact Or.inr ⟨region, rfl⟩

def ReadAs (registry : Registry) (grammar : Grammar) (text token : String) (role : Parser.Role) :
    Prop :=
  ∃ hit, grammar.hits text = [hit] ∧ hit.start = 1 ∧ hit.mark.token = token.toList ∧
    ∀ showTagName, Parser.roleOf ⟨registry, grammar, showTagName⟩ hit = role

/-- What the names of the tags, the end mark and the separators have to be: names are words, the end
mark has no word characters and no blanks, and separators begin with no word character. -/
structure Plain (registry : Registry) (separators : List String) (endTag : String) : Prop where
  named : ∀ tag, tag ∈ registry.list → tag.name ≠ ""
  words : ∀ tag, tag ∈ registry.list → ∀ c, c ∈ tag.name.toList → Text.isWord c = true
  marked : endTag ≠ ""
  endOther : ∀ c, c ∈ endTag.toList → Text.isWord c = false
  endVisible : ∀ c, c ∈ endTag.toList → Text.isBlank c = false
  begins : ∀ separator, separator ∈ separators → separator ≠ "" →
    ∃ c rest, separator.toList = c :: rest ∧ Text.isWord c = false
  unbroken : ∀ separator, separator ∈ separators → Text.Unbroken separator.toList

private theorem unbroken_of_plain {c : Char} (plain : Text.isBlank c = false) :
    Text.isBreak c = false := by
  cases breaks : Text.isBreak c with
  | false => rfl
  | true =>
      unfold Text.isBreak at breaks
      rw [Bool.or_eq_true, beq_iff_eq, beq_iff_eq] at breaks
      rcases breaks with rfl | rfl <;> cases plain

namespace Plain

variable {registry : Registry} {separators : List String} {endTag : String} {matchCase : Bool}
  {grammar : Grammar} (plain : Plain registry separators endTag)
  (built : Grammar.build registry separators endTag matchCase = .ok grammar)
include plain

theorem unbroken_name {tag : Tag} (listed : tag ∈ registry.list) : Text.Unbroken tag.name.toList := by
  intro c member
  exact unbroken_of_plain (Text.isBlank_of_isWord (plain.words tag listed c member))

theorem isToken_of_writes {tag : Tag} (listed : tag ∈ registry.list) {token : String}
    {role : Parser.Role} (writes : Writes endTag tag token role) : Text.IsToken token.toList := by
  have nonempty : tag.name.toList ≠ [] :=
    fun empty => plain.named tag listed (String.toList_eq_nil_iff.mp empty)
  cases writes with
  | name =>
      refine ⟨[], tag.name.toList, rfl, ?_, nonempty, plain.words tag listed⟩
      intro c member
      cases member
  | ending _ =>
      exact ⟨endTag.toList, tag.name.toList, String.toList_append, plain.endOther, nonempty,
        plain.words tag listed⟩

include built

theorem singleLine : grammar.SingleLine :=
  Grammar.singleLine_of_build built (fun _ listed => plain.unbroken_name listed) plain.unbroken
    fun c member => unbroken_of_plain (plain.endVisible c member)

theorem meetsAtWords : grammar.MeetsAtWords := by
  have perm := Grammar.separators_perm_of_build built
  obtain ⟨_, _, rfl⟩ := (Grammar.build_eq_ok_iff _ _ _ _ _).mp built
  constructor
  · intro token member
    obtain ⟨written, known, rfl⟩ := List.mem_map.mp member
    obtain ⟨tag, listed, form⟩ := (Grammar.mem_tokensOf_iff registry endTag written).mp known
    rcases form with rfl | ⟨region, rfl⟩
    · exact plain.isToken_of_writes listed Writes.name
    · exact plain.isToken_of_writes listed (Writes.ending region)
  · intro separator member
    obtain ⟨written, kept, rfl⟩ := List.mem_map.mp (perm.mem_iff.mp member)
    obtain ⟨configured, nonempty⟩ := List.mem_filter.mp kept
    exact plain.begins written configured (by simpa using nonempty)

/-- A mark with the token of a snippet stands for what the snippet is to be read as. -/
theorem roleOf_of_writes (wellFormed : registry.WellFormed) {tag : Tag}
    (listed : tag ∈ registry.list) {token : String} {role : Parser.Role}
    (writes : Writes endTag tag token role) {hit : Hit} (same : hit.mark.token = token.toList)
    (showTagName : Bool) : Parser.roleOf ⟨registry, grammar, showTagName⟩ hit = role := by
  obtain ⟨endSame, _⟩ := Grammar.fields_of_build built
  subst endSame
  unfold Parser.roleOf
  dsimp only
  rw [same, String.ofList_toList]
  cases writes with
  | name =>
      rw [Grammar.splitEnd_word wellFormed listed (plain.words tag listed) plain.endOther]
      dsimp only
      rw [Registry.find?_name wellFormed listed]
      rfl
  | ending region =>
      rw [Grammar.splitEnd_endTag_append wellFormed listed region (plain.named tag listed)
        plain.marked]
      dsimp only
      rw [Registry.find?_name wellFormed listed]
      rfl

end Plain

/-- A snippet and a comment behind a blank are read as the tag of the snippet, or as the end of its
region, exactly if the first separator is not empty or the comment itself can end a mark. -/
theorem snippets_read_back_iff {registry : Registry} {separators : List String} {endTag : String}
    {matchCase : Bool} {grammar : Grammar} (reachable : registry.Reachable)
    (plain : Plain registry separators endTag)
    (built : Grammar.build registry separators endTag matchCase = .ok grammar) {item : TagCompletion}
    (member : item ∈ ofRegistry registry separators endTag) :
    ∃ tag, tag ∈ registry.list ∧ ∃ token role, Writes endTag tag token role ∧
      item = ofToken (separators.head?.getD " ") token ∧
      ∀ comment : String, Text.Unbroken comment.toList →
        (ReadAs registry grammar (" " ++ item.insertion ++ comment) token role ↔
          separators.head? ≠ some "" ∨ grammar.EndsMark comment.toList) := by
  obtain ⟨tag, listed, token, role, writes, rfl⟩ :=
    (mem_ofRegistry_iff registry separators endTag item).mp member
  refine ⟨tag, listed, token, role, writes, rfl, ?_⟩
  intro comment commentPlain
  obtain ⟨_, usable, _⟩ := (Grammar.build_eq_ok_iff _ _ _ _ _).mp built
  obtain ⟨first, others, rfl⟩ : ∃ first others, separators = first :: others := by
    apply List.exists_cons_of_ne_nil
    rintro rfl
    exact usable rfl
  have tokenPlain : Text.Unbroken token.toList := by
    have single := plain.singleLine built
    exact single.tokens _ (writes.mem_tokens built listed)
  have restPlain : Text.Unbroken (first.toList ++ comment.toList) :=
    (plain.unbroken first List.mem_cons_self).append commentPlain
  have written : (" " ++ (ofToken first token).insertion ++ comment).toList =
      ' ' :: (token.toList ++ (first.toList ++ comment.toList)) := by
    simp [ofToken]
  have recognised : ReadAs registry grammar (" " ++ (ofToken first token).insertion ++ comment)
      token role ↔ grammar.EndsMark (first.toList ++ comment.toList) := by
    rw [← (plain.meetsAtWords built).hits_iff (plain.singleLine built)
      (writes.mem_tokens built listed) (tokenPlain.append restPlain) written]
    constructor
    · rintro ⟨hit, only, start, same, _⟩
      exact ⟨hit, only, start, same⟩
    · rintro ⟨hit, only, start, same⟩
      exact ⟨hit, only, start, same,
        plain.roleOf_of_writes built reachable.wellFormed listed writes same⟩
  rw [List.head?_cons, Option.getD_some, recognised, ne_eq, Option.some.injEq]
  by_cases empty : first = ""
  · simp [empty]
  · have known : first.toList ∈ grammar.separators := by
      refine (Grammar.separators_perm_of_build built).mem_iff.mpr (List.mem_map_of_mem ?_)
      exact List.mem_filter.mpr ⟨List.mem_cons_self, by simpa using empty⟩
    exact iff_of_true (Grammar.endsMark_separator known comment.toList) (Or.inl empty)

theorem plain_standard : Plain Registry.defaults [" - ", ": ", " "] "!" where
  named := by decide
  words := by
    have all : ∀ tag, tag ∈ Registry.defaults.list →
        tag.name.toList.all Text.isWord = true := by decide +kernel
    exact fun tag listed => List.all_eq_true.mp (all tag listed)
  marked := by decide
  endOther := by
    intro c member
    rw [List.mem_singleton.mp (show c ∈ ['!'] from member)]
    rfl
  endVisible := by
    intro c member
    rw [List.mem_singleton.mp (show c ∈ ['!'] from member)]
    rfl
  begins := by
    intro separator member _
    simp only [List.mem_cons, List.not_mem_nil, or_false] at member
    rcases member with rfl | rfl | rfl
    · exact ⟨' ', "- ".toList, rfl, rfl⟩
    · exact ⟨':', " ".toList, rfl, rfl⟩
    · exact ⟨' ', [], rfl, rfl⟩
  unbroken := by decide

theorem snippets_read_back_iff_standard :
    Registry.defaults.Reachable ∧ Plain Registry.defaults [" - ", ": ", " "] "!" ∧
      Grammar.build Registry.defaults [" - ", ": ", " "] "!" false = .ok Grammar.standard ∧
      ⟨"!SECTION Anchor", "!SECTION - "⟩ ∈ ofRegistry Registry.defaults [" - ", ": ", " "] "!" ∧
      ∃ tag, tag ∈ Registry.defaults.list ∧ ∃ token role, Writes "!" tag token role ∧
        ReadAs Registry.defaults Grammar.standard (" " ++ "!SECTION - " ++ "done") token role := by
  have member : (⟨"!SECTION Anchor", "!SECTION - "⟩ : TagCompletion) ∈
      ofRegistry Registry.defaults [" - ", ": ", " "] "!" := by decide +kernel
  refine ⟨Registry.reachable_defaults, plain_standard, Grammar.standard_built, member, ?_⟩
  obtain ⟨tag, listed, token, role, writes, _, readBack⟩ :=
    snippets_read_back_iff Registry.reachable_defaults plain_standard Grammar.standard_built member
  exact ⟨tag, listed, token, role, writes,
    (readBack "done" (by decide)).mpr (Or.inl (by decide))⟩

def emptyFirst : Grammar :=
  Grammar.ofRegistry Registry.defaults ["", ": "] "!" false

/-- A snippet with an empty first separator runs into the comment. -/
theorem empty_separator_joins_words :
    Registry.defaults.Reachable ∧ Plain Registry.defaults ["", ": "] "!" ∧
      Grammar.build Registry.defaults ["", ": "] "!" false = .ok emptyFirst ∧
      ⟨"TODO Anchor", "TODO"⟩ ∈ ofRegistry Registry.defaults ["", ": "] "!" ∧
      Text.Unbroken "fix".toList ∧ emptyFirst.hits (" " ++ "TODO" ++ "fix") = [] := by
  have plain : Plain Registry.defaults ["", ": "] "!" :=
    { plain_standard with
      begins := by
        intro separator member nonempty
        simp only [List.mem_cons, List.not_mem_nil, or_false] at member
        rcases member with rfl | rfl
        · exact absurd rfl nonempty
        · exact ⟨':', " ".toList, rfl, rfl⟩
      unbroken := by decide }
  have built : Grammar.build Registry.defaults ["", ": "] "!" false = .ok emptyFirst :=
    (Grammar.build_eq_ok_iff _ _ _ _ _).mpr ⟨by decide, by decide, rfl⟩
  refine ⟨Registry.reachable_defaults, plain, built, by decide +kernel, by decide, ?_⟩
  have keeps : Separator.KeepsOrder false (Grammar.usable ["", ": "]) := by
    unfold Separator.KeepsOrder
    decide +kernel
  rw [Grammar.hits_eq_filterMap_lineHit (plain.singleLine built)]
  unfold emptyFirst Grammar.ofRegistry
  rw [Grammar.tokensOf_defaults, (Separator.order_eq_self_iff false _).mpr keeps]
  decide +kernel

end TagCompletion

end Waymark
