import Mathlib.Data.List.TakeWhile
import Waymark.Proofs.Mark.Spelling

set_option autoImplicit false

/-! The mark at one place of a line, as a choice. A way to read a mark names a token, whether brackets
follow it and which separator does, if any. The ways are tried in order, and the first with which
the mark reaches the end of the line is taken. -/

namespace Waymark

structure Choice where
  token : List Char
  bracketed : Bool
  separator : Option (List Char)

namespace Mark

def separatorSize (mark : Mark) : Nat :=
  mark.remark.elim 0 fun remark => remark.separator.length

end Mark

namespace Grammar

variable (grammar : Grammar)

/-- The ways to read a mark in their order: by token, with brackets before without, by separator
before none. -/
def choices : List Choice :=
  grammar.tokens.flatMap fun token =>
    [true, false].flatMap fun bracketed =>
      (grammar.separators.map some ++ [none]).map fun separator => ⟨token, bracketed, separator⟩

structure Completes (choice : Choice) (mark : Mark) : Prop where
  token : grammar.Spells choice.token mark.token
  bracketed : mark.bracket.isSome = choice.bracketed
  inner : ∀ inner, mark.bracket = some inner → ']' ∉ inner ∧ Text.Unbroken inner
  remark : Option.Rel (fun separator remark => grammar.WritesSeparator separator remark.separator)
    choice.separator mark.remark

/-- The mark that a text is by the first way that completes, its separator with all spaces. -/
def IsFirstChoice (text : List Char) (mark : Mark) : Prop :=
  ∃ earlier choice later, grammar.choices = earlier ++ choice :: later ∧
    (grammar.Completes choice mark ∧ mark.written = text ∧
      ∀ other, grammar.Completes choice other → other.written = text →
        other.separatorSize ≤ mark.separatorSize) ∧
    ∀ failing, failing ∈ earlier → ¬∃ other, grammar.Completes failing other ∧ other.written = text

/-! ### Reading one way -/

def remarkAs (text : List Char) : Option (List Char) → Option (Option Remark)
  | none => if text = [] then some none else none
  | some separator =>
      (grammar.separatorLength? separator text).map fun size =>
        some ⟨text.take size, text.drop size⟩

def bracketAs (text : List Char) : Bool → Option (Option (List Char) × List Char)
  | false => some (none, text)
  | true => (bracketAt text).map fun inner => (some inner, text.drop (inner.length + 2))

def readAs (text : List Char) (choice : Choice) : Option Mark :=
  if grammar.beginsWith choice.token text then
    (bracketAs (text.drop choice.token.length) choice.bracketed).bind fun parts =>
      (grammar.remarkAs parts.2 choice.separator).map fun remark =>
        ⟨text.take choice.token.length, parts.1, remark⟩
  else none

variable {grammar}

private def inBracket (c : Char) : Bool :=
  c != ']' && !Text.isBreak c

private theorem all_inBracket_iff (inner : List Char) :
    (∀ c, c ∈ inner → inBracket c = true) ↔ ']' ∉ inner ∧ Text.Unbroken inner := by
  unfold inBracket
  constructor
  · intro kept
    constructor
    · intro member
      have impossible := kept ']' member
      cases impossible
    · intro c member
      have plain := kept c member
      rw [Bool.and_eq_true, Bool.not_eq_true'] at plain
      exact plain.2
  · rintro ⟨single, unbroken⟩ c member
    rw [Bool.and_eq_true, Bool.not_eq_true', bne_iff_ne]
    exact ⟨fun same => single (same ▸ member), unbroken c member⟩

theorem bracketAt_eq_some_iff (text inner : List Char) :
    bracketAt text = some inner ↔
      (']' ∉ inner ∧ Text.Unbroken inner) ∧ ∃ rest, text = '[' :: (inner ++ ']' :: rest) := by
  rw [← all_inBracket_iff]
  constructor
  · intro found
    unfold bracketAt at found
    split at found
    · rename_i rest
      change (if (rest.drop (rest.takeWhile inBracket).length).head? = some ']' then
        some (rest.takeWhile inBracket) else none) = some inner at found
      split at found
      · rename_i closed
        cases found
        obtain ⟨after, dropped⟩ := List.head?_eq_some_iff.mp closed
        refine ⟨List.all_eq_true.mp List.all_takeWhile, after, ?_⟩
        have parts := List.prefix_iff_eq_append.mp (List.takeWhile_prefix inBracket (l := rest))
        rw [← dropped, parts]
      · cases found
    · cases found
  · rintro ⟨kept, rest, rfl⟩
    have taken : (inner ++ ']' :: rest).takeWhile inBracket = inner := by
      rw [List.takeWhile_append_of_pos kept, List.takeWhile_cons_of_neg (by decide), List.append_nil]
    change (if ((inner ++ ']' :: rest).drop
      ((inner ++ ']' :: rest).takeWhile inBracket).length).head? = some ']' then
        some ((inner ++ ']' :: rest).takeWhile inBracket) else none) = some inner
    rw [taken, List.drop_left]
    exact if_pos rfl

theorem bracketAs_eq_some_iff (text : List Char) (bracketed : Bool) (bracket : Option (List Char))
    (rest : List Char) :
    bracketAs text bracketed = some (bracket, rest) ↔
      bracket.isSome = bracketed ∧
        (∀ inner, bracket = some inner → ']' ∉ inner ∧ Text.Unbroken inner) ∧
        (bracket.elim [] fun inner => '[' :: inner ++ [']']) ++ rest = text := by
  cases bracketed with
  | false =>
      cases bracket with
      | none => simp [bracketAs, eq_comm]
      | some inner => simp [bracketAs]
  | true =>
      cases bracket with
      | none => simp [bracketAs]
      | some inner =>
          simp only [bracketAs, Option.map_eq_some_iff, Prod.mk.injEq, Option.some.injEq]
          constructor
          · rintro ⟨found, read, rfl, rfl⟩
            obtain ⟨allowed, after, rfl⟩ := (bracketAt_eq_some_iff text found).mp read
            refine ⟨rfl, ?_, ?_⟩
            · rintro _ rfl
              exact allowed
            · simp
          · rintro ⟨_, allowed, rfl⟩
            refine ⟨inner, ?_, rfl, by simp⟩
            exact (bracketAt_eq_some_iff _ inner).mpr ⟨allowed inner rfl, rest, by simp⟩

theorem remarkAs_sound {text : List Char} {separator : Option (List Char)} {remark : Option Remark}
    (read : grammar.remarkAs text separator = some remark) :
    Option.Rel (fun separator remark => grammar.WritesSeparator separator remark.separator)
        separator remark ∧
      remark.elim [] Remark.separator ++ remark.elim [] Remark.comment = text := by
  cases separator with
  | none =>
      by_cases empty : text = []
      · rw [remarkAs, if_pos empty] at read
        cases read
        exact ⟨Option.Rel.none, empty.symm⟩
      · rw [remarkAs, if_neg empty] at read
        cases read
  | some separator =>
      obtain ⟨size, known, same⟩ := Option.map_eq_some_iff.mp read
      subst same
      exact ⟨Option.Rel.some (separatorLength?_sound separator text size known).2,
        List.take_append_drop size text⟩

theorem remarkAs_complete {text : List Char} {separator : Option (List Char)}
    {remark : Option Remark}
    (writes : Option.Rel
      (fun separator remark => grammar.WritesSeparator separator remark.separator) separator remark)
    (whole : remark.elim [] Remark.separator ++ remark.elim [] Remark.comment = text) :
    ∃ best, grammar.remarkAs text separator = some best ∧
      remark.elim 0 (fun remark => remark.separator.length) ≤
        best.elim 0 fun remark => remark.separator.length := by
  cases writes with
  | none =>
      have empty : text = [] := whole.symm
      exact ⟨none, by rw [remarkAs, if_pos empty], Nat.le_refl 0⟩
  | some writes =>
      rename_i separator remark
      obtain ⟨size, read, long⟩ :=
        separatorLength?_complete separator text remark.separator remark.comment whole.symm writes
      refine ⟨some ⟨text.take size, text.drop size⟩, by rw [remarkAs, read]; rfl, ?_⟩
      have short := (separatorLength?_sound separator text size read).1
      simpa [List.length_take, Nat.min_eq_left short] using long

theorem readAs_sound {text : List Char} {choice : Choice} {mark : Mark}
    (read : grammar.readAs text choice = some mark) :
    grammar.Completes choice mark ∧ mark.written = text := by
  unfold readAs at read
  split at read
  · rename_i begins
    obtain ⟨⟨bracket, rest⟩, bracketRead, tail⟩ := Option.bind_eq_some_iff.mp read
    obtain ⟨remark, remarkRead, same⟩ := Option.map_eq_some_iff.mp tail
    subst same
    obtain ⟨bracketed, inner, bracketWhole⟩ := (bracketAs_eq_some_iff _ _ _ _).mp bracketRead
    obtain ⟨writes, remarkWhole⟩ := remarkAs_sound remarkRead
    refine ⟨⟨(beginsWith_iff _ _).mp begins, bracketed, inner, writes⟩, ?_⟩
    simp only [Mark.written, Mark.opening, Mark.bracketText, Mark.comment, List.append_assoc]
    rw [remarkWhole, bracketWhole, List.take_append_drop]
  · cases read

theorem readAs_complete {text : List Char} {choice : Choice} {mark : Mark}
    (completes : grammar.Completes choice mark) (whole : mark.written = text) :
    ∃ best, grammar.readAs text choice = some best ∧ best.token = mark.token ∧
      best.bracket = mark.bracket ∧ mark.separatorSize ≤ best.separatorSize := by
  have size := completes.token.length_eq
  simp only [Mark.written, Mark.opening, Mark.bracketText, Mark.comment, List.append_assoc] at whole
  have taken : text.take choice.token.length = mark.token := by
    rw [← whole, ← size, List.take_left]
  have dropped : text.drop choice.token.length =
      (mark.bracket.elim [] fun inner => '[' :: inner ++ [']']) ++
        (mark.remark.elim [] Remark.separator ++ mark.remark.elim [] Remark.comment) := by
    rw [← whole, ← size, List.drop_left]
  have begins : grammar.beginsWith choice.token text = true := by
    rw [beginsWith_iff, taken]
    exact completes.token
  obtain ⟨remark, remarkRead, long⟩ := remarkAs_complete completes.remark rfl
  have bracketRead := (bracketAs_eq_some_iff _ _ _ _).mpr
    ⟨completes.bracketed, completes.inner, dropped.symm⟩
  refine ⟨⟨mark.token, mark.bracket, remark⟩, ?_, rfl, rfl, long⟩
  rw [readAs, if_pos begins, bracketRead, Option.bind_some, remarkRead, taken]
  rfl

/-- Marks that are written alike, up to their separators, are the same. -/
private theorem mark_ext {first second : Mark} (token : first.token = second.token)
    (bracket : first.bracket = second.bracket)
    (remark : first.remark.isSome = second.remark.isSome)
    (size : first.separatorSize = second.separatorSize)
    (written : first.written = second.written) : first = second := by
  obtain ⟨firstToken, firstBracket, firstRemark⟩ := first
  obtain ⟨secondToken, secondBracket, secondRemark⟩ := second
  obtain rfl : firstToken = secondToken := token
  obtain rfl : firstBracket = secondBracket := bracket
  cases firstRemark with
  | none =>
      cases secondRemark with
      | none => rfl
      | some second => cases remark
  | some first =>
      cases secondRemark with
      | none => cases remark
      | some second =>
          simp only [Mark.written, Mark.opening, Mark.bracketText, Mark.comment, List.append_assoc,
            List.append_cancel_left_eq, Option.elim_some] at written
          obtain ⟨separators, comments⟩ := List.append_inj written size
          obtain ⟨firstSeparator, firstComment⟩ := first
          obtain ⟨secondSeparator, secondComment⟩ := second
          obtain rfl : firstSeparator = secondSeparator := separators
          obtain rfl : firstComment = secondComment := comments
          rfl

theorem Completes.remark_isSome {choice : Choice} {mark : Mark}
    (completes : grammar.Completes choice mark) :
    mark.remark.isSome = choice.separator.isSome := by
  have related := completes.remark
  cases written : mark.remark <;> cases wanted : choice.separator <;>
    rw [written, wanted] at related <;> first | rfl | cases related

theorem readAs_eq_some_iff {text : List Char} {choice : Choice} {mark : Mark} :
    grammar.readAs text choice = some mark ↔
      grammar.Completes choice mark ∧ mark.written = text ∧
        ∀ other, grammar.Completes choice other → other.written = text →
          other.separatorSize ≤ mark.separatorSize := by
  constructor
  · intro read
    obtain ⟨completes, whole⟩ := readAs_sound read
    refine ⟨completes, whole, ?_⟩
    intro other otherCompletes otherWhole
    obtain ⟨best, bestRead, _, _, long⟩ := readAs_complete otherCompletes otherWhole
    rw [read] at bestRead
    cases bestRead
    exact long
  · rintro ⟨completes, whole, greedy⟩
    obtain ⟨best, read, token, bracket, long⟩ := readAs_complete completes whole
    obtain ⟨bestCompletes, bestWhole⟩ := readAs_sound read
    have short := greedy best bestCompletes bestWhole
    have remark := bestCompletes.remark_isSome.trans completes.remark_isSome.symm
    have size := Nat.le_antisymm short long
    rw [read, mark_ext token bracket remark size (bestWhole.trans whole.symm)]

theorem readAs_eq_none_iff {text : List Char} {choice : Choice} :
    grammar.readAs text choice = none ↔
      ¬∃ mark, grammar.Completes choice mark ∧ mark.written = text := by
  constructor
  · rintro missing ⟨mark, completes, whole⟩
    obtain ⟨best, read, _⟩ := readAs_complete completes whole
    rw [missing] at read
    cases read
  · intro failing
    cases read : grammar.readAs text choice with
    | none => rfl
    | some mark => exact absurd ⟨mark, readAs_sound read⟩ failing

theorem isFirstChoice_iff {text : List Char} {mark : Mark} :
    grammar.IsFirstChoice text mark ↔
      grammar.choices.findSome? (grammar.readAs text) = some mark := by
  simp only [IsFirstChoice, List.findSome?_eq_some_iff, readAs_eq_some_iff, readAs_eq_none_iff]

/-! ### The end of the line -/

structure SingleLine (grammar : Grammar) : Prop where
  tokens : ∀ token, token ∈ grammar.tokens → Text.Unbroken token
  separators : ∀ separator, separator ∈ grammar.separators → Text.Unbroken separator

def LineEnds (before : Char) (text tail : List Char) : Prop :=
  endsLine (text.getLast?.getD before) tail = true

theorem followsLine_of_endsLine {last : Char} {tail : List Char} (ends : endsLine last tail = true) :
    FollowsLine tail := by
  rintro c rest rfl
  simp only [endsLine, Bool.or_eq_true, Bool.and_eq_true] at ends
  unfold Text.isBreak
  rw [Bool.or_eq_true]
  rcases ends with carriage | feed
  · exact Or.inl carriage
  · exact Or.inr feed.1

theorem LineEnds.follows {before : Char} {text tail : List Char} (ends : LineEnds before text tail) :
    FollowsLine tail :=
  followsLine_of_endsLine ends

theorem LineEnds.suffix {before other : Char} {text part tail : List Char}
    (ends : LineEnds before text tail) (suffix : other :: part <:+ before :: text) :
    LineEnds other part tail := by
  obtain ⟨start, same⟩ := suffix
  have lasts := congrArg List.getLast? same
  rw [List.getLast?_append_of_ne_nil _ (List.cons_ne_nil other part), List.getLast?_cons,
    List.getLast?_cons] at lasts
  unfold LineEnds
  rw [Option.some.inj lasts]
  exact ends

theorem findSome?_congr {α β : Type} {f g : α → Option β} {choices : List α}
    (agree : ∀ choice, choice ∈ choices → f choice = g choice) :
    choices.findSome? f = choices.findSome? g := by
  induction choices with
  | nil => rfl
  | cons choice rest ih =>
      rw [List.findSome?_cons, List.findSome?_cons, agree choice List.mem_cons_self,
        ih fun other member => agree other (List.mem_cons_of_mem choice member)]

private theorem remarkWith_append {before : Char} {text tail separator : List Char}
    (ends : LineEnds before text tail) (textUnbroken : Text.Unbroken text)
    (unbroken : Text.Unbroken separator) :
    (grammar.remarkWith before (text ++ tail) separator).map some =
      grammar.remarkAs text (some separator) := by
  unfold remarkWith
  rw [separatorLength?_append unbroken text ends.follows, remarkAs]
  cases read : grammar.separatorLength? separator text with
  | none => rfl
  | some size =>
      have short := (separatorLength?_sound separator text size read).1
      have comment : (text.drop size ++ tail).takeWhile (!Text.isBreak ·) = text.drop size := by
        rw [ends.follows.takeWhile_append (by simp)]
        apply List.takeWhile_eq_self_iff.mpr
        intro c member
        rw [textUnbroken c (List.mem_of_mem_drop member), Bool.not_false]
      have rest : (text ++ tail).drop (size + (text.drop size).length) = tail := by
        rw [List.length_drop, Nat.add_sub_cancel' short, List.drop_left]
      rw [Option.bind_some, List.take_append_of_le_length short, List.drop_append_of_le_length short]
      dsimp only
      have last : endsLine (text.getLast?.getD before) tail = true := ends
      rw [comment, rest, List.take_append_drop, if_pos last]
      rfl

/-- At the end of a mark, only what is left of the line counts. -/
private theorem tailAt_append {before : Char} {text tail : List Char} (single : grammar.SingleLine)
    (ends : LineEnds before text tail) (unbroken : Text.Unbroken text) :
    grammar.tailAt before (text ++ tail) =
      (grammar.separators.map some ++ [none]).findSome? (grammar.remarkAs text) := by
  have remarks : (grammar.separators.findSome? (grammar.remarkWith before (text ++ tail))).map some =
      (grammar.separators.map some).findSome? (grammar.remarkAs text) := by
    rw [List.map_findSome?, List.findSome?_map]
    apply findSome?_congr
    intro separator member
    exact remarkWith_append ends unbroken (single.separators separator member)
  unfold tailAt
  rw [List.findSome?_append, ← remarks]
  cases grammar.separators.findSome? (grammar.remarkWith before (text ++ tail)) with
  | some remark => rfl
  | none =>
      cases text with
      | nil =>
          have atEnd : endsLine before tail = true := ends
          simp [atEnd, remarkAs]
      | cons c rest =>
          have plain := unbroken c List.mem_cons_self
          unfold Text.isBreak at plain
          rw [Bool.or_eq_false_iff] at plain
          simp [endsLine, plain, remarkAs]

/-- What has no break in it is inside the line. -/
private theorem prefix_of_unbroken {part rest text tail : List Char} (unbroken : Text.Unbroken part)
    (follows : FollowsLine tail) (same : text ++ tail = part ++ rest) :
    ∃ more, text = part ++ more := by
  rcases List.append_eq_append_iff.mp same with ⟨more, partSame, tailSame⟩ | ⟨more, textSame, _⟩
  · cases more with
    | nil => exact ⟨[], by rw [partSame, List.append_nil, List.append_nil]⟩
    | cons c more =>
        have breaks := follows c (more ++ rest) tailSame
        rw [unbroken c (by simp [partSame])] at breaks
        cases breaks
  · exact ⟨more, textSame⟩

private theorem bracketAt_append (text : List Char) {tail : List Char} (follows : FollowsLine tail) :
    bracketAt (text ++ tail) = bracketAt text := by
  apply Option.ext
  intro inner
  rw [bracketAt_eq_some_iff, bracketAt_eq_some_iff]
  constructor
  · rintro ⟨⟨single, unbroken⟩, rest, same⟩
    have whole : Text.Unbroken ('[' :: (inner ++ [']'])) :=
      (Text.unbroken_singleton (c := '[') rfl).append
        (unbroken.append (Text.unbroken_singleton rfl))
    have split : text ++ tail = '[' :: (inner ++ [']']) ++ rest := by
      rw [same, List.cons_append, List.append_assoc, List.singleton_append]
    obtain ⟨more, textSame⟩ := prefix_of_unbroken whole follows split
    refine ⟨⟨single, unbroken⟩, more, ?_⟩
    rw [textSame, List.cons_append, List.append_assoc, List.singleton_append]
  · rintro ⟨allowed, rest, rfl⟩
    exact ⟨allowed, rest ++ tail, by simp⟩

theorem findSome?_flatMap {α β γ : Type} (f : β → Option γ) (g : α → List β)
    (choices : List α) :
    (choices.flatMap g).findSome? f = choices.findSome? fun choice => (g choice).findSome? f := by
  induction choices with
  | nil => rfl
  | cons choice rest ih =>
      rw [List.flatMap_cons, List.findSome?_append, ih, List.findSome?_cons]
      cases (g choice).findSome? f <;> rfl

theorem findSome?_readAs {text token : List Char} (bracketed : Bool)
    (begins : grammar.beginsWith token text = true) (separators : List (Option (List Char))) :
    (separators.map fun separator => (⟨token, bracketed, separator⟩ : Choice)).findSome?
        (grammar.readAs text) =
      (bracketAs (text.drop token.length) bracketed).bind fun parts =>
        (separators.findSome? (grammar.remarkAs parts.2)).map fun remark =>
          ⟨text.take token.length, parts.1, remark⟩ := by
  rw [List.findSome?_map]
  cases found : bracketAs (text.drop token.length) bracketed with
  | none =>
      apply List.findSome?_eq_none_iff.mpr
      intro separator member
      simp [readAs, begins, found]
  | some parts =>
      rw [Option.bind_some, List.map_findSome?]
      apply findSome?_congr
      intro separator member
      simp [readAs, begins, found]

private theorem bracketed_append {before : Char} {text tail : List Char}
    (single : grammar.SingleLine) (ends : LineEnds before text tail) (unbroken : Text.Unbroken text)
    (found : List Char) :
    ((bracketAt (text ++ tail)).bind fun inner =>
        (grammar.tailAt ']' ((text ++ tail).drop (inner.length + 2))).map fun remark =>
          (⟨found, some inner, remark⟩ : Mark)) =
      (bracketAs text true).bind fun parts =>
        ((grammar.separators.map some ++ [none]).findSome? (grammar.remarkAs parts.2)).map
          fun remark => ⟨found, parts.1, remark⟩ := by
  rw [bracketAt_append text ends.follows, bracketAs]
  cases read : bracketAt text with
  | none => rfl
  | some inner =>
      obtain ⟨_, after, rfl⟩ := (bracketAt_eq_some_iff text inner).mp read
      have size : inner.length + 2 ≤ ('[' :: (inner ++ ']' :: after)).length := by
        simp only [List.length_cons, List.length_append]
        omega
      have dropped : ('[' :: (inner ++ ']' :: after)).drop (inner.length + 2) = after := by
        rw [List.drop_succ_cons, List.append_cons, List.drop_left' (by simp)]
      have suffix : ']' :: after <:+ '[' :: (inner ++ ']' :: after) := ⟨'[' :: inner, rfl⟩
      have afterEnds := ends.suffix (suffix.trans (List.suffix_cons before _))
      have afterUnbroken := (unbroken.sublist suffix.sublist).of_cons
      rw [Option.bind_some, Option.map_some, Option.bind_some,
        List.drop_append_of_le_length size, dropped, tailAt_append single afterEnds afterUnbroken]

private theorem getLastD_suffix (before : Char) (first second : List Char) :
    first.getLast?.getD before :: second <:+ before :: (first ++ second) := by
  rcases List.eq_nil_or_concat first with rfl | ⟨start, last, rfl⟩
  · exact List.suffix_refl _
  · exact ⟨before :: start, by simp⟩

private theorem markWith_append {before : Char} {text tail token : List Char}
    (single : grammar.SingleLine) (member : token ∈ grammar.tokens)
    (ends : LineEnds before text tail) (unbroken : Text.Unbroken text) :
    grammar.markWith before (text ++ tail) token =
      ([true, false].flatMap fun bracketed =>
        (grammar.separators.map some ++ [none]).map fun separator =>
          (⟨token, bracketed, separator⟩ : Choice)).findSome? (grammar.readAs text) := by
  unfold markWith
  rw [beginsWith_append (single.tokens token member) text ends.follows]
  cases begins : grammar.beginsWith token text with
  | false =>
      rw [if_neg Bool.false_ne_true]
      symm
      apply List.findSome?_eq_none_iff.mpr
      intro choice known
      obtain ⟨bracketed, _, known⟩ := List.mem_flatMap.mp known
      obtain ⟨separator, _, rfl⟩ := List.mem_map.mp known
      rw [readAs, begins, if_neg Bool.false_ne_true]
  | true =>
      have spelled := ((beginsWith_iff token text).mp begins).length_eq
      have short : token.length ≤ text.length := by
        rw [List.length_take] at spelled
        omega
      have restUnbroken := unbroken.sublist (List.drop_sublist token.length text)
      have restEnds :
          LineEnds ((text.take token.length).getLast?.getD before) (text.drop token.length) tail := by
        apply ends.suffix
        have suffix := getLastD_suffix before (text.take token.length) (text.drop token.length)
        rwa [List.take_append_drop] at suffix
      rw [if_pos rfl, findSome?_flatMap, show [true, false] = [true] ++ [false] from rfl,
        List.findSome?_append,
        List.findSome?_singleton, List.findSome?_singleton, findSome?_readAs true begins,
        findSome?_readAs false begins]
      dsimp only
      rw [List.take_append_of_le_length short, List.drop_append_of_le_length short,
        bracketed_append single restEnds restUnbroken, tailAt_append single restEnds restUnbroken]
      rfl

/-- The mark at a place of a line is what the line is from there on, by the first way that
completes. -/
theorem markAt_append {before : Char} {text tail : List Char} (single : grammar.SingleLine)
    (ends : LineEnds before text tail) (unbroken : Text.Unbroken text)
    (notWord : Text.isWord before = false) :
    grammar.markAt before (text ++ tail) = grammar.choices.findSome? (grammar.readAs text) := by
  unfold markAt choices
  rw [notWord, if_neg Bool.false_ne_true, findSome?_flatMap]
  apply findSome?_congr
  intro token member
  exact markWith_append single member ends unbroken

end Grammar

end Waymark
