import Waymark.Proofs.Mark.LineByLine

set_option autoImplicit false

/-! What the order of the separators decides. It does not matter for where a mark begins, which token
it has and whether it has brackets: only for how much of the line the separator takes. So the marks
are those of the configured order exactly where the first configured separator takes as much. -/

namespace Waymark

namespace Mark

def remarkText (mark : Mark) : List Char :=
  mark.remark.elim [] Remark.separator ++ mark.comment

end Mark

namespace Grammar

variable (grammar : Grammar)

def trying (separators : List (List Char)) : Grammar :=
  { grammar with separators }

/-- What ends a mark: the first separator that is there, or nothing at the end of the line. -/
def firstRemark (text : List Char) : Option (Option Remark) :=
  (grammar.separators.map some ++ [none]).findSome? (grammar.remarkAs text)

def readHead (text : List Char) (head : List Char × Bool) : Option Mark :=
  if grammar.beginsWith head.1 text then
    (bracketAs (text.drop head.1.length) head.2).bind fun parts =>
      (grammar.firstRemark parts.2).map fun remark => ⟨text.take head.1.length, parts.1, remark⟩
  else none

def retry (mark : Mark) : Option Mark :=
  (grammar.firstRemark mark.remarkText).map fun remark => { mark with remark }

def heads : List (List Char × Bool) :=
  grammar.tokens.flatMap fun token => [true, false].map fun bracketed => (token, bracketed)

variable {grammar}

theorem findSome?_choices (text : List Char) :
    grammar.choices.findSome? (grammar.readAs text) =
      grammar.heads.findSome? (grammar.readHead text) := by
  have split : grammar.choices = grammar.heads.flatMap fun head =>
      (grammar.separators.map some ++ [none]).map fun separator => ⟨head.1, head.2, separator⟩ := by
    unfold choices heads
    rw [List.flatMap_assoc]
    rfl
  rw [split, findSome?_flatMap]
  apply findSome?_congr
  intro head member
  unfold readHead
  cases begins : grammar.beginsWith head.1 text with
  | true => exact findSome?_readAs head.2 begins _
  | false =>
      apply List.findSome?_eq_none_iff.mpr
      intro choice known
      obtain ⟨separator, _, rfl⟩ := List.mem_map.mp known
      rw [readAs, begins, if_neg Bool.false_ne_true]

theorem firstRemark_sound {text : List Char} {remark : Option Remark}
    (read : grammar.firstRemark text = some remark) :
    remark.elim [] Remark.separator ++ remark.elim [] Remark.comment = text := by
  obtain ⟨separator, _, found⟩ := List.exists_of_findSome?_eq_some read
  exact (remarkAs_sound found).2

/-- A mark ends with the first separator there is after its token and brackets. -/
theorem firstRemark_of_readHead {text : List Char} {head : List Char × Bool} {mark : Mark}
    (read : grammar.readHead text head = some mark) :
    grammar.firstRemark mark.remarkText = some mark.remark := by
  unfold readHead at read
  split at read
  · obtain ⟨parts, _, tail⟩ := Option.bind_eq_some_iff.mp read
    obtain ⟨remark, found, rfl⟩ := Option.map_eq_some_iff.mp tail
    have rest : Mark.remarkText ⟨text.take head.1.length, parts.1, remark⟩ = parts.2 :=
      firstRemark_sound found
    rw [rest]
    exact found
  · cases read

/-! ### Another order -/

theorem trying_eq_self {separators : List (List Char)} (same : grammar.separators = separators) :
    grammar.trying separators = grammar := by
  subst same
  rfl

theorem beginsWith_trying (separators : List (List Char)) (token text : List Char) :
    (grammar.trying separators).beginsWith token text = grammar.beginsWith token text := by
  fun_induction grammar.beginsWith token text with
  | case1 => rfl
  | case2 => rfl
  | case3 wanted token found text ih =>
      rw [beginsWith, ih]
      rfl

theorem separatorLength?_trying (separators : List (List Char)) (separator text : List Char) :
    (grammar.trying separators).separatorLength? separator text =
      grammar.separatorLength? separator text := by
  have same (wanted found : Char) :
      (grammar.trying separators).sameChar wanted found = grammar.sameChar wanted found := rfl
  fun_induction grammar.separatorLength? separator text with
  | case1 => rfl
  | case2 => rfl
  | case3 separator text double ih => simp [separatorLength?, double, ih]
  | case4 separator text single spaces ih => simp [separatorLength?, single, ih, spaces]
  | case5 separator found text other => simp [separatorLength?, other]
  | case6 wanted separator found text notSpace known ih =>
      simp [separatorLength?, notSpace, same, known, ih]
  | case7 wanted separator found text notSpace different =>
      simp [separatorLength?, notSpace, same, different]

theorem remarkAs_trying (separators : List (List Char)) (text : List Char)
    (separator : Option (List Char)) :
    (grammar.trying separators).remarkAs text separator = grammar.remarkAs text separator := by
  cases separator with
  | none => rfl
  | some separator => rw [remarkAs, remarkAs, separatorLength?_trying]

/-- Whether there is something that ends a mark does not depend on the order. -/
theorem isSome_firstRemark_trying {separators : List (List Char)}
    (perm : grammar.separators.Perm separators) (text : List Char) :
    ((grammar.trying separators).firstRemark text).isSome = (grammar.firstRemark text).isSome := by
  have agree : (grammar.trying separators).remarkAs text = grammar.remarkAs text := by
    funext separator
    exact remarkAs_trying separators text separator
  unfold firstRemark
  rw [agree, Bool.eq_iff_iff, List.findSome?_isSome_iff, List.findSome?_isSome_iff]
  have members := (perm.map some).append_right [none]
  constructor
  · rintro ⟨separator, member, found⟩
    exact ⟨separator, members.mem_iff.mpr member, found⟩
  · rintro ⟨separator, member, found⟩
    exact ⟨separator, members.mem_iff.mp member, found⟩

theorem readHead_trying {separators : List (List Char)}
    (perm : grammar.separators.Perm separators) (text : List Char) (head : List Char × Bool) :
    (grammar.trying separators).readHead text head =
      (grammar.readHead text head).bind (grammar.trying separators).retry := by
  unfold readHead
  rw [beginsWith_trying]
  cases grammar.beginsWith head.1 text with
  | false => rfl
  | true =>
      rw [if_pos rfl, if_pos rfl]
      cases bracketAs (text.drop head.1.length) head.2 with
      | none => rfl
      | some parts =>
          rw [Option.bind_some, Option.bind_some]
          have agree := isSome_firstRemark_trying perm parts.2
          cases found : grammar.firstRemark parts.2 with
          | none =>
              rw [found, Option.isSome_none, Option.isSome_eq_false_iff,
                Option.isNone_iff_eq_none] at agree
              rw [agree]
              rfl
          | some remark =>
              have rest : Mark.remarkText ⟨text.take head.1.length, parts.1, remark⟩ = parts.2 :=
                firstRemark_sound found
              rw [Option.map_some, Option.bind_some, retry, rest]

/-- A step that always succeeds may follow the search or each attempt. -/
private theorem bind_findSome? {α β γ : Type} {f : α → Option β} {g : β → Option γ} {places : List α}
    (total : ∀ place, place ∈ places → ∀ found, f place = some found → (g found).isSome = true) :
    (places.findSome? f).bind g = places.findSome? fun place => (f place).bind g := by
  induction places with
  | nil => rfl
  | cons place rest ih =>
      rw [List.findSome?_cons, List.findSome?_cons]
      cases found : f place with
      | none => exact ih fun other member => total other (List.mem_cons_of_mem place member)
      | some value =>
          have succeeds := total place List.mem_cons_self value found
          cases again : g value with
          | none =>
              rw [again] at succeeds
              cases succeeds
          | some result =>
              rw [Option.bind_some, again]

def retryHit (grammar : Grammar) (hit : Hit) : Option Hit :=
  (grammar.retry hit.mark).map fun mark => ⟨hit.start, mark⟩

theorem firstRemark_of_findSome? {text : List Char} {mark : Mark}
    (read : grammar.choices.findSome? (grammar.readAs text) = some mark) :
    grammar.firstRemark mark.remarkText = some mark.remark := by
  rw [findSome?_choices] at read
  obtain ⟨head, _, found⟩ := List.exists_of_findSome?_eq_some read
  exact firstRemark_of_readHead found

theorem firstRemark_of_hitAt {place : Text.Place} {hit : Hit}
    (found : grammar.hitAt place = some hit) :
    grammar.firstRemark hit.mark.remarkText = some hit.mark.remark :=
  firstRemark_of_findSome? (isFirstChoice_iff.mp (hitAt_eq_some_iff.mp found).2.1)

section

variable {separators : List (List Char)} (perm : grammar.separators.Perm separators)
include perm

theorem isSome_retry_trying {mark : Mark}
    (ended : grammar.firstRemark mark.remarkText = some mark.remark) :
    ((grammar.trying separators).retry mark).isSome = true := by
  rw [retry, Option.isSome_map, isSome_firstRemark_trying perm, ended]
  rfl

theorem findSome?_trying (text : List Char) :
    (grammar.trying separators).choices.findSome? ((grammar.trying separators).readAs text) =
      (grammar.choices.findSome? (grammar.readAs text)).bind (grammar.trying separators).retry := by
  rw [findSome?_choices, findSome?_choices, bind_findSome?]
  · apply findSome?_congr
    intro head member
    exact readHead_trying perm text head
  · intro head member mark found
    exact isSome_retry_trying perm (firstRemark_of_readHead found)

theorem hitAt_trying (place : Text.Place) :
    (grammar.trying separators).hitAt place =
      (grammar.hitAt place).bind (grammar.trying separators).retryHit := by
  unfold hitAt
  cases Text.isWord place.before with
  | true => rfl
  | false =>
      rw [if_neg Bool.false_ne_true, if_neg Bool.false_ne_true, findSome?_trying perm]
      cases grammar.choices.findSome? (grammar.readAs place.rest) <;> rfl

theorem lineHit_trying (line : Text.Line) :
    (grammar.trying separators).lineHit line =
      (grammar.lineHit line).bind (grammar.trying separators).retryHit := by
  unfold lineHit
  rw [bind_findSome?]
  · apply findSome?_congr
    intro place member
    exact hitAt_trying perm place
  · intro place member hit found
    rw [retryHit, Option.isSome_map]
    exact isSome_retry_trying perm (firstRemark_of_hitAt found)

end

/-! ### The exact difference -/

def firstSize (grammar : Grammar) (separators : List (List Char)) (text : List Char) : Option Nat :=
  separators.findSome? fun separator => grammar.separatorLength? separator text

/-- Whether the separator of a remark is written by the first separator with which its text can begin,
and takes as much as it can. -/
def TakesFirst (grammar : Grammar) (separators : List (List Char)) (remark : Remark) : Prop :=
  ∃ earlier separator later, separators = earlier ++ separator :: later ∧
    (grammar.WritesSeparator separator remark.separator ∧
      ∀ other tail, remark.separator ++ remark.comment = other ++ tail →
        grammar.WritesSeparator separator other → other.length ≤ remark.separator.length) ∧
    ∀ failing, failing ∈ earlier → ∀ written rest,
      remark.separator ++ remark.comment = written ++ rest →
        ¬grammar.WritesSeparator failing written

theorem takesFirst_iff {separators : List (List Char)} {remark : Remark} :
    grammar.TakesFirst separators remark ↔
      grammar.firstSize separators (remark.separator ++ remark.comment) =
        some remark.separator.length := by
  simp only [TakesFirst, firstSize, List.findSome?_eq_some_iff, separatorLength?_eq_some_iff,
    separatorLength?_eq_none_iff]

theorem firstSize_le {separators : List (List Char)} {text : List Char} {size : Nat}
    (found : grammar.firstSize separators text = some size) : size ≤ text.length := by
  obtain ⟨separator, _, read⟩ := List.exists_of_findSome?_eq_some found
  exact (separatorLength?_sound separator text size read).1

theorem firstRemark_trying (separators : List (List Char)) (text : List Char) :
    (grammar.trying separators).firstRemark text =
      ((grammar.firstSize separators text).map fun size =>
        some ⟨text.take size, text.drop size⟩).or (if text = [] then some none else none) := by
  unfold firstRemark firstSize
  rw [List.findSome?_append, List.findSome?_map, List.map_findSome?, List.findSome?_singleton]
  congr 1
  apply findSome?_congr
  intro separator member
  rw [Function.comp_apply, remarkAs_trying]
  rfl

private theorem firstSize_eq_none_of_perm {first second : List (List Char)} (perm : first.Perm second)
    {text : List Char} (missing : grammar.firstSize first text = none) :
    grammar.firstSize second text = none := by
  apply List.findSome?_eq_none_iff.mpr
  intro separator member
  exact List.findSome?_eq_none_iff.mp missing separator (perm.mem_iff.mpr member)

/-- In another order a mark ends alike exactly if its separator takes as much. -/
theorem firstRemark_trying_iff {separators : List (List Char)}
    (perm : grammar.separators.Perm separators) {mark : Mark}
    (ended : grammar.firstRemark mark.remarkText = some mark.remark) :
    (grammar.trying separators).firstRemark mark.remarkText = some mark.remark ↔
      ∀ remark, mark.remark = some remark → grammar.TakesFirst separators remark := by
  simp only [takesFirst_iff]
  cases remark : mark.remark with
  | none =>
      have text : mark.remarkText = [] := by
        rw [Mark.remarkText, Mark.comment, remark]
        rfl
      rw [text] at ended ⊢
      -- No separator takes anything at the end of the line, in whatever order.
      have missing : grammar.firstSize grammar.separators [] = none := by
        have own : grammar.firstRemark [] = _ := firstRemark_trying grammar.separators []
        cases found : grammar.firstSize grammar.separators [] with
        | none => rfl
        | some size =>
            rw [found] at own
            have clash := ended.symm.trans own
            rw [remark] at clash
            cases clash
      rw [firstRemark_trying, firstSize_eq_none_of_perm perm missing]
      simp
  | some written =>
      have text : mark.remarkText = written.separator ++ written.comment := by
        rw [Mark.remarkText, Mark.comment, remark]
        rfl
      rw [firstRemark_trying, text]
      constructor
      · intro read other same
        obtain rfl := Option.some.inj same
        cases found : grammar.firstSize separators (written.separator ++ written.comment) with
        | none =>
            rw [found] at read
            split at read <;> cases read
        | some size =>
            rw [found] at read
            have taken : (written.separator ++ written.comment).take size = written.separator :=
              congrArg Remark.separator (Option.some.inj (Option.some.inj read))
            have short := firstSize_le found
            rw [← taken, List.length_take, Nat.min_eq_left short]
      · intro sizes
        rw [sizes written rfl]
        simp

theorem retryHit_eq_some_iff {hit : Hit} :
    grammar.retryHit hit = some hit ↔
      grammar.firstRemark hit.mark.remarkText = some hit.mark.remark := by
  unfold retryHit retry
  cases grammar.firstRemark hit.mark.remarkText with
  | none => simp
  | some remark =>
      rw [Option.map_some, Option.map_some, Option.some.injEq, Option.some.injEq]
      constructor
      · intro same
        exact congrArg (fun other : Hit => other.mark.remark) same
      · rintro rfl
        rfl

private theorem filterMap_eq_self_iff {α : Type} {f : α → Option α} {values : List α}
    (total : ∀ value, value ∈ values → (f value).isSome = true) :
    values = values.filterMap f ↔ ∀ value, value ∈ values → f value = some value := by
  induction values with
  | nil => simp
  | cons first rest ih =>
      have further := ih fun value member => total value (List.mem_cons_of_mem first member)
      obtain ⟨result, found⟩ := Option.isSome_iff_exists.mp (total first List.mem_cons_self)
      rw [List.filterMap_cons_some found, List.forall_mem_cons, ← further, found, List.cons.injEq,
        Option.some.injEq, eq_comm (a := first)]

/-- The marks are those of another order exactly if, at each mark with a separator, the first
separator in that order takes as much. -/
theorem lineByLine_trying_iff (single : grammar.SingleLine) {separators : List (List Char)}
    (perm : grammar.separators.Perm separators) (text : String) :
    (grammar.trying separators).LineByLine text (grammar.hits text) ↔
      ∀ hit, hit ∈ grammar.hits text → ∀ remark, hit.mark.remark = some remark →
        grammar.TakesFirst separators remark := by
  have ended : ∀ hit, hit ∈ grammar.hits text →
      grammar.firstRemark hit.mark.remarkText = some hit.mark.remark := by
    intro hit member
    rw [hits_eq_filterMap_lineHit single] at member
    obtain ⟨line, _, found⟩ := List.mem_filterMap.mp member
    obtain ⟨place, _, read⟩ := List.exists_of_findSome?_eq_some found
    exact firstRemark_of_hitAt read
  have retried : (Text.lines text).filterMap (grammar.trying separators).lineHit =
      (grammar.hits text).filterMap (grammar.trying separators).retryHit := by
    rw [hits_eq_filterMap_lineHit single, List.filterMap_filterMap]
    congr 1
    funext line
    exact lineHit_trying perm line
  rw [lineByLine_iff, retried, filterMap_eq_self_iff]
  · apply forall_congr'
    intro hit
    apply imp_congr_right
    intro member
    rw [← firstRemark_trying_iff perm (ended hit member), retryHit_eq_some_iff]
  · intro hit member
    rw [retryHit, Option.isSome_map]
    exact isSome_retry_trying perm (ended hit member)

/-- The marks of a text are found line by line. The separators are tried in an order of the
grammar's own; the marks are those of the configured order exactly if the first configured separator
takes as much at each mark, and always if that order is the configured one. -/
theorem hits_line_by_line {registry : Registry} {separators : List String} {endTag : String}
    {matchCase : Bool} {grammar : Grammar}
    (built : build registry separators endTag matchCase = .ok grammar)
    (names : ∀ tag, tag ∈ registry.list → Text.Unbroken tag.name.toList)
    (plain : ∀ separator, separator ∈ separators → Text.Unbroken separator.toList)
    (endPlain : Text.Unbroken endTag.toList) (text : String) :
    (∃ tokens, IsTokenOrder registry endTag tokens ∧ grammar.tokens = tokens.map String.toList) ∧
    grammar.matchCase = matchCase ∧
    grammar.separators.Perm (usable separators) ∧
    grammar.LineByLine text (grammar.hits text) ∧
    ((grammar.trying (usable separators)).LineByLine text (grammar.hits text) ↔
      ∀ hit, hit ∈ grammar.hits text → ∀ remark, hit.mark.remark = some remark →
        grammar.TakesFirst (usable separators) remark) ∧
    (Separator.KeepsOrder matchCase (usable separators) →
      (grammar.trying (usable separators)).LineByLine text (grammar.hits text)) := by
  have single := singleLine_of_build built names plain endPlain
  have perm := separators_perm_of_build built
  obtain ⟨_, _, rfl⟩ := (build_eq_ok_iff _ _ _ _ _).mp built
  have lineByLine := lineByLine_iff.mpr (hits_eq_filterMap_lineHit single text)
  refine ⟨⟨_, isTokenOrder_tokensOf registry endTag, rfl⟩, rfl, perm, lineByLine,
    lineByLine_trying_iff single perm text, ?_⟩
  intro keeps
  have same := (Separator.order_eq_self_iff matchCase (usable separators)).mpr keeps
  rw [trying_eq_self same]
  exact lineByLine

def twoSpaces : Grammar :=
  ofRegistry Registry.defaults ["  ", " - "] "!" false

private theorem twoSpaces_built :
    build Registry.defaults ["  ", " - "] "!" false = .ok twoSpaces :=
  (build_eq_ok_iff _ _ _ _ _).mpr ⟨by decide, by decide, rfl⟩

private theorem twoSpaces_unbroken :
    ∀ separator, separator ∈ ["  ", " - "] → Text.Unbroken separator.toList := by
  decide

theorem hits_line_by_line_two_spaces :
    build Registry.defaults ["  ", " - "] "!" false = .ok twoSpaces ∧
      twoSpaces.LineByLine "// TODO   - hello\r\nNOTE[id=a]\n"
        (twoSpaces.hits "// TODO   - hello\r\nNOTE[id=a]\n") := by
  obtain ⟨_, _, _, lineByLine, _⟩ :=
    hits_line_by_line twoSpaces_built defaults_unbroken twoSpaces_unbroken (by decide)
      "// TODO   - hello\r\nNOTE[id=a]\n"
  exact ⟨twoSpaces_built, lineByLine⟩

private theorem twoSpaces_order :
    Separator.order false (usable ["  ", " - "]) = [" - ".toList, "  ".toList] := by
  have lead : Separator.shared false (usable ["  ", " - "]) = [' '] := by decide +kernel
  have configured : usable ["  ", " - "] = ["  ".toList, " - ".toList] := by decide
  have sorted := Separator.order_pairwise (show _ = some ' ' by rw [lead]; rfl)
  have perm := Separator.order_perm false (usable ["  ", " - "])
  rw [lead] at sorted
  have swapped := perm.trans (configured ▸ List.Perm.swap _ _ [])
  -- The order is the only one by further spaces, since no two separators ask for equally many.
  have apart : ∀ a, a ∈ [" - ".toList, "  ".toList] → ∀ b, b ∈ [" - ".toList, "  ".toList] →
      Separator.leadingSpaces (a.drop 1) ≤ Separator.leadingSpaces (b.drop 1) →
      Separator.leadingSpaces (b.drop 1) ≤ Separator.leadingSpaces (a.drop 1) → a = b := by
    decide
  refine swapped.eq_of_pairwise ?_ sorted (by decide)
  intro a b memberA memberB
  exact apart a (swapped.mem_iff.mp memberA) b memberB

private def foundHello : Hit :=
  ⟨3, ⟨"TODO".toList, none, some ⟨"   - ".toList, "hello".toList⟩⟩⟩

private theorem foundHello_mem : foundHello ∈ twoSpaces.hits "// TODO   - hello" := by
  have single := singleLine_of_build twoSpaces_built defaults_unbroken twoSpaces_unbroken
    (by decide)
  rw [hits_eq_filterMap_lineHit single]
  unfold twoSpaces ofRegistry
  rw [twoSpaces_order, tokensOf_defaults]
  decide +kernel

/-- The first configured separator takes three characters here, and the mark's separator five. -/
theorem two_spaces_out_of_order :
    build Registry.defaults ["  ", " - "] "!" false = .ok twoSpaces ∧
      (∀ tag, tag ∈ Registry.defaults.list → Text.Unbroken tag.name.toList) ∧
      (∀ separator, separator ∈ ["  ", " - "] → Text.Unbroken separator.toList) ∧
      Text.Unbroken "!".toList ∧
      ¬(twoSpaces.trying (usable ["  ", " - "])).LineByLine "// TODO   - hello"
        (twoSpaces.hits "// TODO   - hello") := by
  have endUnbroken : Text.Unbroken "!".toList := by decide
  have single := singleLine_of_build twoSpaces_built defaults_unbroken twoSpaces_unbroken endUnbroken
  refine ⟨twoSpaces_built, defaults_unbroken, twoSpaces_unbroken, endUnbroken, ?_⟩
  have perm := separators_perm_of_build twoSpaces_built
  intro claimed
  have agrees := (lineByLine_trying_iff single perm "// TODO   - hello").mp claimed
  have five : twoSpaces.firstSize (usable ["  ", " - "]) ("   - ".toList ++ "hello".toList) =
      some "   - ".toList.length :=
    takesFirst_iff.mp (agrees foundHello foundHello_mem ⟨"   - ".toList, "hello".toList⟩ rfl)
  revert five
  decide +kernel

end Grammar

end Waymark
