import Mathlib.Data.List.ReduceOption
import Waymark.Proofs.Mark.Choice
import Waymark.Proofs.Mark.Grammar

set_option autoImplicit false

/-! The marks of a text, line by line. A line has at most one mark. It begins at the leftmost place
where one can be read, and reaches the end of the line. -/

namespace Waymark.Grammar

variable (grammar : Grammar)

/-- Whether a mark can be read at a place: after a character that is no word character, and up to
the end of the line. -/
def IsCandidate (place : Text.Place) : Prop :=
  Text.isWord place.before = false ∧
    ∃ choice, choice ∈ grammar.choices ∧
      ∃ mark, grammar.Completes choice mark ∧ mark.written = place.rest

/-- What a line has to give: nothing without a candidate, else the first choice at the leftmost one,
up to the end of the line. -/
def IsLineHit (line : Text.Line) : Option Hit → Prop
  | none => ∀ place, place ∈ line.places → ¬grammar.IsCandidate place
  | some hit =>
      ∃ earlier place later, line.places = earlier ++ place :: later ∧
        (∀ other, other ∈ earlier → ¬grammar.IsCandidate other) ∧
        Text.isWord place.before = false ∧ grammar.IsFirstChoice place.rest hit.mark ∧
        hit.start = place.offset ∧ hit.stop = line.stop

def LineByLine (text : String) (hits : List Hit) : Prop :=
  ∃ found, List.Forall₂ grammar.IsLineHit (Text.lines text) found ∧ hits = found.reduceOption

/-! ### The mark of a line -/

def hitAt (place : Text.Place) : Option Hit :=
  if Text.isWord place.before then none
  else (grammar.choices.findSome? (grammar.readAs place.rest)).map fun mark => ⟨place.offset, mark⟩

def lineHit (line : Text.Line) : Option Hit :=
  line.places.findSome? grammar.hitAt

variable {grammar}

theorem hitAt_eq_some_iff {place : Text.Place} {hit : Hit} :
    grammar.hitAt place = some hit ↔
      Text.isWord place.before = false ∧ grammar.IsFirstChoice place.rest hit.mark ∧
        hit.start = place.offset := by
  unfold hitAt
  rw [isFirstChoice_iff]
  cases Text.isWord place.before with
  | true => simp
  | false =>
      rw [if_neg Bool.false_ne_true, Option.map_eq_some_iff]
      constructor
      · rintro ⟨mark, read, rfl⟩
        exact ⟨rfl, read, rfl⟩
      · rintro ⟨_, read, start⟩
        exact ⟨hit.mark, read, by rw [← start]⟩

theorem hitAt_eq_none_iff {place : Text.Place} :
    grammar.hitAt place = none ↔ ¬grammar.IsCandidate place := by
  unfold hitAt IsCandidate
  cases Text.isWord place.before with
  | true => simp
  | false =>
      simp only [Bool.false_eq_true, if_false, Option.map_eq_none_iff, List.findSome?_eq_none_iff,
        readAs_eq_none_iff, true_and, not_exists, not_and]

theorem IsFirstChoice.written {text : List Char} {mark : Mark}
    (chosen : grammar.IsFirstChoice text mark) : mark.written = text := by
  obtain ⟨_, _, _, _, ⟨_, whole, _⟩, _⟩ := chosen
  exact whole

theorem isLineHit_iff {line : Text.Line} {found : Option Hit} :
    grammar.IsLineHit line found ↔ grammar.lineHit line = found := by
  cases found with
  | none =>
      simp only [IsLineHit, lineHit, List.findSome?_eq_none_iff, hitAt_eq_none_iff]
  | some hit =>
      simp only [IsLineHit, lineHit, List.findSome?_eq_some_iff, hitAt_eq_none_iff,
        hitAt_eq_some_iff]
      constructor
      · rintro ⟨earlier, place, later, places, missing, notWord, chosen, start, _⟩
        exact ⟨earlier, place, later, places, ⟨notWord, chosen, start⟩, missing⟩
      · rintro ⟨earlier, place, later, places, ⟨notWord, chosen, start⟩, missing⟩
        refine ⟨earlier, place, later, places, missing, notWord, chosen, start, ?_⟩
        have member : place ∈ line.places := by simp [places]
        rw [← (Text.Line.places_suffix member).2, Hit.stop, start, chosen.written]

theorem lineByLine_iff {text : String} {hits : List Hit} :
    grammar.LineByLine text hits ↔ hits = (Text.lines text).filterMap grammar.lineHit := by
  have given : grammar.IsLineHit = fun line found => grammar.lineHit line = found := by
    funext line found
    exact propext isLineHit_iff
  unfold LineByLine
  rw [given]
  constructor
  · rintro ⟨found, lines, rfl⟩
    have mapped : found = (Text.lines text).map grammar.lineHit := by
      rw [← List.forall₂_eq_eq_eq, List.forall₂_map_right_iff]
      exact lines.flip.imp fun _ _ same => same.symm
    rw [mapped, List.reduceOption, List.filterMap_map]
    rfl
  · rintro rfl
    refine ⟨(Text.lines text).map grammar.lineHit, ?_, ?_⟩
    · rw [List.forall₂_map_right_iff]
      exact List.forall₂_same.mpr fun line _ => rfl
    · rw [List.reduceOption, List.filterMap_map]
      rfl

/-! ### The marks of all lines -/

theorem markAt_eq_hitAt {before : Char} {text tail : List Char} (single : grammar.SingleLine)
    (ends : LineEnds before text tail) (unbroken : Text.Unbroken text) (offset : Nat) :
    (grammar.markAt before (text ++ tail)).map (fun mark => (⟨offset, mark⟩ : Hit)) =
      grammar.hitAt ⟨offset, before, text⟩ := by
  unfold hitAt
  cases word : Text.isWord before with
  | true =>
      rw [markAt, word]
      rfl
  | false =>
      rw [markAt_append single ends unbroken word]
      rfl

private theorem hitsFrom_place {before : Char} {text tail : List Char} (single : grammar.SingleLine)
    (ends : LineEnds before text tail) (unbroken : Text.Unbroken text) (offset : Nat) :
    grammar.hitsFrom offset (before :: (text ++ tail)) =
      match grammar.hitAt ⟨offset + before.utf8Size, before, text⟩ with
      | some hit =>
          hit :: grammar.hitsFrom (offset + before.utf8Size + Text.byteLength text) tail
      | none => grammar.hitsFrom (offset + before.utf8Size) (text ++ tail) := by
  rw [hitsFrom, ← markAt_eq_hitAt single ends unbroken]
  cases found : grammar.markAt before (text ++ tail) with
  | none => rfl
  | some mark =>
      have read : grammar.hitAt ⟨offset + before.utf8Size, before, text⟩ =
          some ⟨offset + before.utf8Size, mark⟩ := by
        rw [← markAt_eq_hitAt single ends unbroken, found]
        rfl
      have written : mark.written = text := (hitAt_eq_some_iff.mp read).2.1.written
      rw [Option.map_some]
      dsimp only
      rw [written, List.drop_left]

/-- A line gives the mark at its leftmost candidate, and the search goes on behind the line. -/
private theorem hitsFrom_line {before : Char} {text tail : List Char} (single : grammar.SingleLine)
    (ends : LineEnds before text tail) (unbroken : Text.Unbroken text) (offset : Nat) :
    grammar.hitsFrom offset (before :: (text ++ tail)) =
      ((Text.placesFrom (offset + before.utf8Size) before text).findSome? grammar.hitAt).toList ++
        grammar.hitsFrom (offset + before.utf8Size + Text.byteLength text) tail := by
  induction text generalizing before offset with
  | nil =>
      rw [hitsFrom_place single ends unbroken, Text.placesFrom, List.findSome?_singleton]
      cases grammar.hitAt ⟨offset + before.utf8Size, before, []⟩ <;> rfl
  | cons c rest ih =>
      rw [hitsFrom_place single ends unbroken, Text.placesFrom, List.findSome?_cons]
      cases grammar.hitAt ⟨offset + before.utf8Size, before, c :: rest⟩ with
      | some hit => rfl
      | none =>
          have restEnds : LineEnds c rest tail :=
            ends.suffix (List.suffix_cons before (c :: rest))
          rw [Text.byteLength_cons, ← Nat.add_assoc]
          exact ih restEnds unbroken.of_cons _

/-- No mark is inside a carriage return and line feed. -/
private theorem markAt_inside_break (single : grammar.SingleLine) (rest : List Char) :
    grammar.markAt '\r' ('\n' :: rest) = none := by
  have follows : FollowsLine ('\n' :: rest) := by
    rintro c tail same
    rw [← (List.cons.inj same).1]
    rfl
  have noRemark : ∀ separator, separator ∈ grammar.separators →
      grammar.remarkWith '\r' ('\n' :: rest) separator = none := by
    intro separator member
    have length : grammar.separatorLength? separator ('\n' :: rest) =
        grammar.separatorLength? separator [] :=
      separatorLength?_append (single.separators separator member) [] follows
    unfold remarkWith
    rw [length]
    cases separator <;> rfl
  have noTail : grammar.tailAt '\r' ('\n' :: rest) = none := by
    unfold tailAt
    rw [List.findSome?_eq_none_iff.mpr noRemark]
    rfl
  rw [markAt, if_neg (by decide)]
  apply List.findSome?_eq_none_iff.mpr
  intro token member
  have begins : grammar.beginsWith token ('\n' :: rest) = grammar.beginsWith token [] :=
    beginsWith_append (single.tokens token member) [] follows
  unfold markWith
  rw [begins]
  cases token with
  | nil =>
      simp [beginsWith, bracketAt, noTail]
  | cons wanted token => rfl

private theorem hitsFrom_lineHit (single : grammar.SingleLine) (start : Nat) (before : Option Char)
    {content tail : List Char} (unbroken : Text.Unbroken content)
    (ends : ∀ last, (before.toList ++ content).getLast? = some last → endsLine last tail = true) :
    grammar.hitsFrom start (before.toList ++ (content ++ tail)) =
      (grammar.lineHit ⟨start + Text.byteLength before.toList, before, content⟩).toList ++
        grammar.hitsFrom
          (start + Text.byteLength before.toList + Text.byteLength content) tail := by
  cases before with
  | some before =>
      have lineEnds : LineEnds before content tail := by
        apply ends
        rw [Option.toList_some, List.singleton_append, List.getLast?_cons]
      exact hitsFrom_line single lineEnds unbroken start
  | none =>
      cases content with
      | nil => rfl
      | cons c rest =>
          have lineEnds : LineEnds c rest tail := by
            apply ends
            rw [Option.toList_none, List.nil_append, List.getLast?_cons]
          rw [Text.byteLength_cons, ← Nat.add_assoc]
          exact hitsFrom_line single lineEnds unbroken.of_cons start

/-- A line ends before each break but the second half of one. -/
private theorem endsLine_of_isBreak {before : Option Char} {content rest : List Char} {c : Char}
    (unbroken : Text.Unbroken content) (breaks : Text.isBreak c = true)
    (apart : before = some '\r' → (content ++ c :: rest).head? ≠ some '\n') :
    ∀ last, (before.toList ++ content).getLast? = some last → endsLine last (c :: rest) = true := by
  intro last final
  unfold Text.isBreak at breaks
  rw [Bool.or_eq_true, beq_iff_eq, beq_iff_eq] at breaks
  rcases breaks with rfl | rfl
  · rfl
  · have different : last ≠ '\r' := by
      rintro rfl
      cases content with
      | nil =>
          rw [List.append_nil] at final
          exact apart (Option.mem_toList.mp (List.mem_of_getLast? final)) rfl
      | cons first content =>
          rw [List.getLast?_append_of_ne_nil _ (List.cons_ne_nil first content)] at final
          have plain := unbroken '\r' (List.mem_of_getLast? final)
          cases plain
    simp [endsLine, different]

private theorem filterMap_cons_append {α β : Type} (f : α → Option β) (first : α) (rest : List α) :
    (first :: rest).filterMap f = (f first).toList ++ rest.filterMap f := by
  rw [List.filterMap_cons]
  cases f first <;> rfl

/-- The search for marks gives those of the lines one after the other. -/
private theorem hitsFrom_lines (single : grammar.SingleLine) (offset start : Nat)
    (before : Option Char) (content text : List Char) (unbroken : Text.Unbroken content)
    (placed : offset = start + Text.byteLength before.toList)
    (apart : before = some '\r' → (content ++ text).head? ≠ some '\n') :
    grammar.hitsFrom start (before.toList ++ (content ++ text)) =
      (Text.linesFrom offset before content text).filterMap grammar.lineHit := by
  fun_induction Text.linesFrom offset before content text generalizing start with
  | case1 offset before content =>
      subst placed
      rw [hitsFrom_lineHit single start before unbroken (fun _ _ => rfl), filterMap_cons_append,
        hitsFrom]
      rfl
  | case2 offset before content rest ih =>
      subst placed
      have further := ih (start + Text.byteLength before.toList + Text.byteLength content + 1)
        Text.unbroken_nil rfl (by simp)
      rw [hitsFrom_lineHit single start before unbroken (endsLine_of_isBreak unbroken rfl apart),
        filterMap_cons_append, ← further, hitsFrom, markAt_inside_break single rest]
      rfl
  | case3 offset before content c rest notPair breaks ih =>
      subst placed
      have notInside : some c = some '\r' → ([] ++ rest).head? ≠ some '\n' := by
        intro carriage feed
        obtain ⟨tail, same⟩ := List.head?_eq_some_iff.mp feed
        exact notPair tail (Option.some.inj carriage) same
      have further := ih (start + Text.byteLength before.toList + Text.byteLength content)
        Text.unbroken_nil rfl notInside
      rw [hitsFrom_lineHit single start before unbroken (endsLine_of_isBreak unbroken breaks apart),
        filterMap_cons_append, ← further]
      rfl
  | case4 offset before content c rest notPair plain ih =>
      have extended := unbroken.append (Text.unbroken_singleton (by simpa using plain))
      rw [List.append_cons] at apart ⊢
      exact ih start extended placed apart

theorem hits_eq_filterMap_lineHit (single : grammar.SingleLine) (text : String) :
    grammar.hits text = (Text.lines text).filterMap grammar.lineHit :=
  hitsFrom_lines single 0 0 none [] text.toList Text.unbroken_nil rfl (by simp)

/-! ### Grammars as they are built -/

theorem singleLine_of_build {registry : Registry} {separators : List String} {endTag : String}
    {matchCase : Bool} {grammar : Grammar}
    (built : build registry separators endTag matchCase = .ok grammar)
    (names : ∀ tag, tag ∈ registry.list → Text.Unbroken tag.name.toList)
    (plain : ∀ separator, separator ∈ separators → Text.Unbroken separator.toList)
    (endPlain : Text.Unbroken endTag.toList) : grammar.SingleLine := by
  have perm := separators_perm_of_build built
  obtain ⟨_, _, rfl⟩ := (build_eq_ok_iff _ _ _ _ _).mp built
  constructor
  · intro token member
    obtain ⟨name, known, rfl⟩ := List.mem_map.mp member
    obtain ⟨tag, listed, written⟩ := (mem_tokensOf_iff registry endTag name).mp known
    rcases written with rfl | ⟨_, rfl⟩
    · exact names tag listed
    · rw [String.toList_append]
      exact endPlain.append (names tag listed)
  · intro separator member
    obtain ⟨written, kept, rfl⟩ := List.mem_map.mp (perm.mem_iff.mp member)
    exact plain written (List.mem_of_mem_filter kept)

theorem defaults_unbroken :
    ∀ tag, tag ∈ Registry.defaults.list → Text.Unbroken tag.name.toList := by
  decide

end Waymark.Grammar
