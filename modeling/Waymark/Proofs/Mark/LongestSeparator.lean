import Waymark.Proofs.Mark.Opening

set_option autoImplicit false

/-! How much of a text the separator of a mark takes, compared with the other separators that the text
goes on with at that point. Separators take all the spaces of a run, so of two with which one text
begins, the one with more pieces takes more. -/

namespace Waymark

namespace Separator

/-- The number of pieces of a text. A run of spaces is one piece, and so is each other character. -/
def pieceCount : List Char → Nat
  | [] => 0
  | c :: rest => if c = ' ' ∧ rest.head? = some ' ' then pieceCount rest else pieceCount rest + 1

def piecesLength : Nat → List Char → Nat
  | 0, _ => 0
  | _ + 1, [] => 0
  | count + 1, c :: rest =>
      if c = ' ' then
        piecesLength count (rest.drop (leadingSpaces rest)) + (leadingSpaces rest + 1)
      else piecesLength count rest + 1

theorem leadingSpaces_cons (rest : List Char) :
    leadingSpaces (' ' :: rest) = leadingSpaces rest + 1 := by
  simp [leadingSpaces]

theorem leadingSpaces_of_head {text : List Char} (other : text.head? ≠ some ' ') :
    leadingSpaces text = 0 := by
  cases text with
  | nil => rfl
  | cons c rest =>
      have stops : (c == ' ') = false := by simpa using other
      simp [leadingSpaces, stops]

theorem pieceCount_space (rest : List Char) :
    pieceCount (' ' :: rest) = pieceCount (rest.drop (leadingSpaces rest)) + 1 := by
  induction rest with
  | nil => rfl
  | cons c rest ih =>
      by_cases space : c = ' '
      · subst space
        rw [pieceCount, if_pos ⟨rfl, rfl⟩, ih, leadingSpaces_cons, List.drop_succ_cons]
      · have other : (c :: rest).head? ≠ some ' ' := by simpa using space
        rw [pieceCount, if_neg (fun both => other both.2), leadingSpaces_of_head other,
          List.drop_zero]

theorem pieceCount_cons {c : Char} (other : c ≠ ' ') (rest : List Char) :
    pieceCount (c :: rest) = pieceCount rest + 1 := by
  rw [pieceCount, if_neg (fun both => other both.1)]

/-- More pieces have more characters, as far as there are pieces. -/
theorem piecesLength_lt {few many : Nat} {text : List Char} (less : few < many)
    (present : many ≤ pieceCount text) : piecesLength few text < piecesLength many text := by
  induction many generalizing few text with
  | zero => exact absurd less (Nat.not_lt_zero few)
  | succ many ih =>
      cases text with
      | nil => exact absurd present (Nat.not_succ_le_zero many)
      | cons c rest =>
          by_cases space : c = ' '
          · subst space
            rw [pieceCount_space] at present
            rw [piecesLength, if_pos rfl]
            cases few with
            | zero =>
                rw [piecesLength]
                omega
            | succ few =>
                rw [piecesLength, if_pos rfl]
                have more := ih (Nat.lt_of_succ_lt_succ less) (Nat.le_of_succ_le_succ present)
                omega
          · rw [pieceCount_cons space] at present
            rw [piecesLength, if_neg space]
            cases few with
            | zero =>
                rw [piecesLength]
                omega
            | succ few =>
                rw [piecesLength, if_neg space]
                have more := ih (Nat.lt_of_succ_lt_succ less) (Nat.le_of_succ_le_succ present)
                omega

theorem piecesLength_two_spaces (count : Nat) (rest : List Char) :
    piecesLength (count + 1) (' ' :: ' ' :: rest) = piecesLength (count + 1) (' ' :: rest) + 1 := by
  rw [piecesLength, if_pos rfl, piecesLength, if_pos rfl, leadingSpaces_cons, List.drop_succ_cons]
  omega

end Separator

namespace Grammar

variable {grammar : Grammar}

theorem exists_space_of_separatorLength? {separator text : List Char} {size : Nat}
    (space : separator.head? = some ' ')
    (read : grammar.separatorLength? separator text = some size) : ∃ more, text = ' ' :: more := by
  obtain ⟨inner, rfl⟩ := List.head?_eq_some_iff.mp space
  cases text with
  | nil => simp [separatorLength?] at read
  | cons c more =>
      by_cases found : c = ' '
      · exact ⟨more, by rw [found]⟩
      · simp [separatorLength?, found] at read

/-- A separator takes as many pieces of a text as it has. -/
theorem pieces_of_separatorLength? {separator text : List Char} (size : Nat)
    (read : grammar.separatorLength? separator text = some size) :
    size = Separator.piecesLength (Separator.pieceCount separator) text ∧
      Separator.pieceCount separator ≤ Separator.pieceCount text := by
  fun_induction separatorLength? grammar separator text generalizing size with
  | case1 text =>
      cases read
      exact ⟨rfl, Nat.zero_le _⟩
  | case2 => cases read
  | case3 separator text double ih =>
      obtain ⟨rest, known, rfl⟩ := Option.map_eq_some_iff.mp read
      obtain ⟨same, enough⟩ := ih rest known
      have counted : Separator.pieceCount (' ' :: separator) = Separator.pieceCount separator :=
        if_pos ⟨rfl, double⟩
      obtain ⟨more, rfl⟩ := exists_space_of_separatorLength? double known
      obtain ⟨inner, rfl⟩ := List.head?_eq_some_iff.mp double
      have textCounted : Separator.pieceCount (' ' :: ' ' :: more) =
          Separator.pieceCount (' ' :: more) := if_pos ⟨rfl, rfl⟩
      rw [counted, textCounted]
      refine ⟨?_, enough⟩
      rw [same, Separator.pieceCount_space, Separator.piecesLength_two_spaces]
  | case4 separator text single spaces ih =>
      obtain ⟨rest, known, rfl⟩ := Option.map_eq_some_iff.mp read
      obtain ⟨same, enough⟩ := ih rest known
      have counted : Separator.pieceCount (' ' :: separator) =
          Separator.pieceCount separator + 1 := if_neg (fun both => single both.2)
      rw [counted, Separator.piecesLength, if_pos rfl, Separator.pieceCount_space]
      refine ⟨?_, Nat.succ_le_succ enough⟩
      rw [same]
      rfl
  | case5 => cases read
  | case6 wanted separator found text notSpace matching ih =>
      obtain ⟨rest, known, rfl⟩ := Option.map_eq_some_iff.mp read
      obtain ⟨same, enough⟩ := ih rest known
      have foundOther : found ≠ ' ' := by
        intro space
        have equal := eq_of_sameChar_space matching (Or.inr space)
        exact notSpace (equal.trans space)
      rw [Separator.pieceCount_cons notSpace, Separator.pieceCount_cons foundOther,
        Separator.piecesLength, if_neg foundOther]
      exact ⟨by rw [same], Nat.succ_le_succ enough⟩
  | case7 => cases read

/-- Of two separators with which a text begins, the one with more pieces takes more. -/
theorem separatorLength?_le_iff {first second text : List Char} {firstSize secondSize : Nat}
    (firstRead : grammar.separatorLength? first text = some firstSize)
    (secondRead : grammar.separatorLength? second text = some secondSize) :
    secondSize ≤ firstSize ↔ Separator.pieceCount second ≤ Separator.pieceCount first := by
  obtain ⟨rfl, firstEnough⟩ := pieces_of_separatorLength? _ firstRead
  obtain ⟨rfl, secondEnough⟩ := pieces_of_separatorLength? _ secondRead
  rcases Nat.lt_trichotomy (Separator.pieceCount first) (Separator.pieceCount second) with
    less | same | more
  · have longer := Separator.piecesLength_lt less secondEnough
    omega
  · rw [same]
    omega
  · have longer := Separator.piecesLength_lt more firstEnough
    omega

/-! ### The separator that takes the most -/

variable (grammar)

def StartsWith (separator text : List Char) : Prop :=
  ∃ written rest, text = written ++ rest ∧ grammar.WritesSeparator separator written

/-- Whether no separator can take more of a text than `taken`, with which it begins. -/
def TakesMost (separators : List (List Char)) (taken rest : List Char) : Prop :=
  ∀ separator, separator ∈ separators → ∀ written tail, taken ++ rest = written ++ tail →
    grammar.WritesSeparator separator written → written.length ≤ taken.length

def TakesMostFrom (separators : List (List Char)) (offset : Nat) (text : List Char) : Prop :=
  ∀ hit, hit ∈ grammar.hitsFrom offset text → ∀ remark, hit.mark.remark = some remark →
    ∀ after, hit.FollowedBy offset text after →
      grammar.TakesMost separators remark.separator (remark.comment ++ after)

/-- Whether no separator hides one that comes later: of two with which a text begins, the first one
takes no less. -/
def NoneHidden (separators : List (List Char)) : Prop :=
  separators.Pairwise fun first second => ∀ text, grammar.StartsWith first text →
    grammar.StartsWith second text → Separator.pieceCount second ≤ Separator.pieceCount first

variable {grammar}

theorem noneHidden_of_pieceCount {separators : List (List Char)}
    (descending : separators.Pairwise fun first second =>
      Separator.pieceCount second ≤ Separator.pieceCount first) :
    grammar.NoneHidden separators :=
  descending.imp fun fewer _ _ _ => fewer

theorem startsWith_iff (separator text : List Char) :
    grammar.StartsWith separator text ↔
      ∃ size, grammar.separatorLength? separator text = some size := by
  constructor
  · rintro ⟨written, rest, whole, writes⟩
    obtain ⟨size, read, _⟩ := separatorLength?_complete separator text written rest whole writes
    exact ⟨size, read⟩
  · rintro ⟨size, read⟩
    exact ⟨text.take size, text.drop size, (List.take_append_drop size text).symm,
      (separatorLength?_sound separator text size read).2⟩

theorem takesMost_iff_sizes (separators : List (List Char)) (taken rest : List Char) :
    grammar.TakesMost separators taken rest ↔
      ∀ separator, separator ∈ separators → ∀ size,
        grammar.separatorLength? separator (taken ++ rest) = some size → size ≤ taken.length := by
  constructor
  · intro most separator member size read
    obtain ⟨short, writes⟩ := separatorLength?_sound separator _ size read
    have bound := most separator member _ _ (List.take_append_drop size _).symm writes
    rwa [List.length_take, Nat.min_eq_left short] at bound
  · intro sizes separator member written tail whole writes
    obtain ⟨size, read, long⟩ :=
      separatorLength?_complete separator _ written tail whole writes
    exact long.trans (sizes separator member size read)

/-- A separator takes the most exactly if none with which the text begins has more pieces. -/
theorem takesMost_iff_pieceCount {separators : List (List Char)} {separator taken rest : List Char}
    (read : grammar.separatorLength? separator (taken ++ rest) = some taken.length) :
    grammar.TakesMost separators taken rest ↔
      ∀ other, other ∈ separators → grammar.StartsWith other (taken ++ rest) →
        Separator.pieceCount other ≤ Separator.pieceCount separator := by
  rw [takesMost_iff_sizes]
  constructor
  · intro sizes other member starts
    obtain ⟨size, otherRead⟩ := (startsWith_iff other _).mp starts
    exact (separatorLength?_le_iff read otherRead).mp (sizes other member size otherRead)
  · intro fewer other member size otherRead
    have starts := (startsWith_iff other _).mpr ⟨size, otherRead⟩
    exact (separatorLength?_le_iff read otherRead).mpr (fewer other member starts)

/-! ### The separator of a mark -/

theorem remarkWith_sound {before : Char} {text separator : List Char} {remark : Remark}
    (read : grammar.remarkWith before text separator = some remark) :
    grammar.separatorLength? separator text = some remark.separator.length ∧
      remark = ⟨text.take remark.separator.length,
        (text.drop remark.separator.length).takeWhile (!Text.isBreak ·)⟩ := by
  obtain ⟨size, known, ended⟩ := Option.bind_eq_some_iff.mp read
  dsimp only at ended
  split at ended
  · cases ended
    have short := (separatorLength?_sound separator text size known).1
    rw [List.length_take, Nat.min_eq_left short]
    exact ⟨known, rfl⟩
  · cases ended

theorem append_drop_of_remarkWith {before : Char} {text separator : List Char} {remark : Remark}
    (read : grammar.remarkWith before text separator = some remark) :
    text = remark.separator ++ text.drop remark.separator.length := by
  have taken : remark.separator = text.take remark.separator.length :=
    congrArg Remark.separator (remarkWith_sound read).2
  calc text = text.take remark.separator.length ++ text.drop remark.separator.length :=
        (List.take_append_drop _ _).symm
    _ = remark.separator ++ text.drop remark.separator.length := by rw [← taken]

private theorem WritesSeparator.unbroken {separator written : List Char}
    (writes : grammar.WritesSeparator separator written) (plain : Text.Unbroken separator) :
    Text.Unbroken written := by
  induction writes with
  | nil => exact Text.unbroken_nil
  | spaces count _ ih =>
      refine Text.Unbroken.append ?_ (ih plain.of_cons)
      intro c member
      rw [List.eq_of_mem_replicate member]
      rfl
  | @char wanted found separator written _ same _ ih =>
      refine (Text.unbroken_singleton ?_).append (ih plain.of_cons)
      rw [← Bool.not_eq_true]
      intro breaks
      have different : grammar.sameChar wanted found = false :=
        sameChar_eq_false_of_isBreak (plain wanted List.mem_cons_self) breaks
      rw [same] at different
      cases different

/-- A line without breaks that is not empty ends where the rest of a text begins with a break. -/
theorem endsLine_dropWhile {front : List Char} (nonempty : front ≠ []) (plain : Text.Unbroken front)
    (before : Char) (text : List Char) :
    endsLine (front.getLast?.getD before) (text.dropWhile (!Text.isBreak ·)) = true := by
  cases ended : text.dropWhile (!Text.isBreak ·) with
  | nil => rfl
  | cons c tail =>
      have breaks := List.head?_dropWhile_not (!Text.isBreak ·) text
      rw [ended] at breaks
      have breaksHere : Text.isBreak c = true := by simpa using breaks
      -- The last character before the break is not a break itself.
      have final := List.getLast?_eq_some_getLast nonempty
      have different : front.getLast nonempty ≠ '\r' := by
        intro same
        have unbroken := plain _ (List.getLast_mem nonempty)
        rw [same] at unbroken
        cases unbroken
      unfold Text.isBreak at breaksHere
      rw [final, Option.getD_some]
      simpa [endsLine, different] using breaksHere

/-- What is left of a text behind its first characters up to a break. -/
theorem drop_takeWhile_length (keep : Char → Bool) (size : Nat) (text : List Char) :
    text.drop (size + ((text.drop size).takeWhile keep).length) = (text.drop size).dropWhile keep := by
  have divided : (text.drop size).takeWhile keep ++ (text.drop size).dropWhile keep =
      text.drop size := List.takeWhile_append_dropWhile
  rw [← List.drop_drop]
  conv_lhs =>
    enter [2]
    rw [← divided]
  exact List.drop_left

/-- Behind a separator without breaks the line goes on, and the mark reaches its end. -/
theorem remarkWith_eq_none_iff {before : Char} {text separator : List Char}
    (nonempty : separator ≠ []) (plain : Text.Unbroken separator) :
    grammar.remarkWith before text separator = none ↔
      ¬grammar.StartsWith separator text := by
  rw [startsWith_iff, ← Option.ne_none_iff_exists', not_not]
  unfold remarkWith
  cases read : grammar.separatorLength? separator text with
  | none => simp
  | some size =>
      have writes := (separatorLength?_sound separator text size read).2
      have written : text.take size ++ (text.drop size).takeWhile (!Text.isBreak ·) ≠ [] := by
        rw [ne_eq, List.append_eq_nil_iff]
        exact fun both => writes.ne_nil nonempty both.1
      have unbroken : Text.Unbroken
          (text.take size ++ (text.drop size).takeWhile (!Text.isBreak ·)) := by
        intro c member
        rcases List.mem_append.mp member with inSeparator | inComment
        · exact writes.unbroken plain c inSeparator
        · simpa using List.mem_takeWhile_imp inComment
      rw [Option.bind_some]
      dsimp only
      rw [drop_takeWhile_length, if_pos (endsLine_dropWhile written unbroken before _)]
      simp

theorem separator_of_tailAt {last : Char} {text : List Char} {remark : Remark}
    (read : grammar.tailAt last text = some (some remark)) :
    ∃ earlier separator later, grammar.separators = earlier ++ separator :: later ∧
      grammar.remarkWith last text separator = some remark ∧
      ∀ failing, failing ∈ earlier → grammar.remarkWith last text failing = none := by
  unfold tailAt at read
  split at read
  · rename_i first found
    cases read
    exact List.findSome?_eq_some_iff.mp found
  · split at read <;> cases read

theorem none_of_tailAt {last : Char} {text : List Char}
    (read : grammar.tailAt last text = some none) :
    ∀ separator, separator ∈ grammar.separators →
      grammar.remarkWith last text separator = none := by
  unfold tailAt at read
  split at read
  · cases read
  · rename_i missing
    exact List.findSome?_eq_none_iff.mp missing

theorem takesMost_of_noneHidden {last : Char} {text rest : List Char} {remark : Remark}
    (plain : ∀ separator, separator ∈ grammar.separators →
      separator ≠ [] ∧ Text.Unbroken separator)
    (noneHidden : grammar.NoneHidden grammar.separators)
    (read : grammar.tailAt last text = some (some remark))
    (whole : text = remark.separator ++ rest) :
    grammar.TakesMost grammar.separators remark.separator rest := by
  subst whole
  obtain ⟨earlier, separator, later, split, found, failing⟩ := separator_of_tailAt read
  rw [takesMost_iff_pieceCount (remarkWith_sound found).1]
  intro other member starts
  unfold NoneHidden at noneHidden
  rw [split] at member noneHidden
  rcases List.mem_append.mp member with before | fromThere
  · obtain ⟨nonempty, unbroken⟩ := plain other (split ▸ List.mem_append_left _ before)
    exact absurd starts ((remarkWith_eq_none_iff nonempty unbroken).mp (failing other before))
  · rcases List.mem_cons.mp fromThere with rfl | behind
    · exact Nat.le_refl _
    · have separatorStarts := (startsWith_iff separator (remark.separator ++ rest)).mpr
        ⟨_, (remarkWith_sound found).1⟩
      obtain ⟨_, ordered, _⟩ := List.pairwise_append.mp noneHidden
      exact (List.pairwise_cons.mp ordered).1 other behind _ separatorStarts starts

end Grammar

end Waymark
