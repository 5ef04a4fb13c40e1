import Waymark.Glob.Match

set_option autoImplicit false

/-! Patterns that begin with characters that stand for themselves. What matches them begins with these
characters, and goes on as the other tokens ask for. -/

namespace Waymark.Glob

/-! ### Bytes -/

private theorem toList_loop (data : ByteArray) (index : Nat) (found : List UInt8) :
    ByteArray.toList.loop data index found = found.reverse ++ data.data.toList.drop index := by
  fun_induction ByteArray.toList.loop data index found with
  | case1 index found inside ih =>
      have bound : index < data.data.toList.length := by simpa using inside
      rw [ih, List.drop_eq_getElem_cons bound]
      simp [ByteArray.get!, inside]
  | case2 index found outside =>
      have past : data.data.toList.length ≤ index := by simpa using Nat.le_of_not_lt outside
      rw [List.drop_eq_nil_of_le past, List.append_nil]

def encode (text : List Char) : List UInt8 := text.flatMap String.utf8EncodeChar

theorem encode_append (first second : List Char) :
    encode (first ++ second) = encode first ++ encode second := by
  simp [encode]

theorem encode_slash : encode ['/'] = [slash] := by
  decide

theorem bytes_eq_encode (text : String) : bytes text = encode text.toList := by
  have whole : text.toByteArray = (encode text.toList).toByteArray := String.utf8Encode_toList.symm
  unfold bytes String.toUTF8 ByteArray.toList
  rw [toList_loop, whole, List.toList_data_toByteArray]
  rfl

/-- A text whose bytes begin with those of characters begins with these characters. -/
theorem exists_append_of_encode {text first : List Char} {rest : List UInt8}
    (same : encode text = encode first ++ rest) :
    ∃ second, text = first ++ second ∧ rest = encode second := by
  have encoded : first.utf8Encode ++ rest.toByteArray = text.utf8Encode := by
    change (encode first).toByteArray ++ rest.toByteArray = (encode text).toByteArray
    rw [same, List.toByteArray_append]
  obtain ⟨second, rfl⟩ := List.isPrefix_of_utf8Encode_append_eq_utf8Encode _ encoded
  rw [encode_append, List.append_cancel_left_eq] at same
  exact ⟨second, rfl, same.symm⟩

theorem bytes_toString (c : Char) : bytes c.toString = encode [c] := by
  rw [bytes_eq_encode, Char.toString_eq_singleton, String.toList_singleton]

/-! ### Tokens -/

variable {slashIsSpecial : Bool}

theorem sequenceRests_nil (tokens : List GlobToken) :
    sequenceRests slashIsSpecial tokens [] = [] := by
  induction tokens with
  | nil => rfl
  | cons token rest ih =>
      rw [sequenceRests]
      exact ih

theorem distinct_singleton (rest : List UInt8) : distinct [rest] = [rest] := rfl

theorem restAfterBytes_eq (wanted text : List UInt8) :
    restAfterBytes wanted text = [] ∨
      ∃ rest, text = wanted ++ rest ∧ restAfterBytes wanted text = [rest] := by
  fun_induction restAfterBytes wanted text with
  | case1 rest => exact Or.inr ⟨rest, rfl, rfl⟩
  | case2 => exact Or.inl rfl
  | case3 found more rest ih =>
      rcases ih with none | ⟨after, same, found⟩
      · exact Or.inl none
      · exact Or.inr ⟨after, by rw [same]; rfl, found⟩
  | case4 => exact Or.inl rfl

/-- The rests after literals are those after the text without them, if it begins with them. -/
theorem exists_rest_of_literals {literals : List Char} {tokens : List GlobToken}
    {text final : List UInt8}
    (member : final ∈ sequenceRests slashIsSpecial (literals.map .literal ++ tokens) [text]) :
    ∃ rest, text = encode literals ++ rest ∧ final ∈ sequenceRests slashIsSpecial tokens [rest] := by
  induction literals generalizing text with
  | nil => exact ⟨text, rfl, member⟩
  | cons c more ih =>
      rw [List.map_cons, List.cons_append, sequenceRests, List.flatMap_singleton, tokenRests,
        bytes_toString] at member
      rcases restAfterBytes_eq (encode [c]) text with none | ⟨after, split, found⟩
      · rw [none] at member
        change final ∈ sequenceRests slashIsSpecial _ [] at member
        rw [sequenceRests_nil] at member
        cases member
      · rw [found, distinct_singleton] at member
        obtain ⟨rest, further, known⟩ := ih member
        refine ⟨rest, ?_, known⟩
        rw [split, further, ← List.append_assoc, ← encode_append, List.singleton_append]

def asksSlash : GlobToken → Bool
  | .literal c => c = '/'
  | .trailingAny => true
  | .middleAny => true
  | _ => false

theorem exists_slash_of_asksSlash {token : GlobToken} (asks : asksSlash token = true)
    {text : List UInt8} (found : tokenRests slashIsSpecial token text ≠ []) :
    ∃ rest, text = slash :: rest := by
  cases token with
  | literal c =>
      obtain rfl : c = '/' := of_decide_eq_true asks
      rw [tokenRests, bytes_toString, encode_slash] at found
      rcases restAfterBytes_eq [slash] text with none | ⟨rest, split, _⟩
      · exact absurd none found
      · exact ⟨rest, split⟩
  | trailingAny =>
      cases text with
      | nil => exact absurd rfl found
      | cons byte rest =>
          by_cases same : byte = slash
          · exact ⟨rest, by rw [same]⟩
          · have other : (byte == slash) = false := beq_eq_false_iff_ne.mpr same
            simp [tokenRests, restAfter, other] at found
  | middleAny =>
      rw [tokenRests] at found
      split at found
      · rename_i starts
        exact List.head?_eq_some_iff.mp starts
      · exact absurd rfl found
  | any => cases asks
  | star => cases asks
  | leadingAny => cases asks
  | oneOf => cases asks
  | alternatives => cases asks

/-- The tokens of a pattern that begins with characters that stand for themselves: nothing else, or a
token that asks for a slash and then any tokens. -/
def IsRooted (literals : List Char) (tokens : List GlobToken) : Prop :=
  ∃ token more, tokens = literals.map .literal ++ token :: more ∧ asksSlash token = true

theorem isEverything_eq_false {token : GlobToken} (other : token ≠ .leadingAny)
    (more : List GlobToken) : isEverything (token :: more) = false := by
  unfold isEverything
  split
  · rename_i same
    exact absurd (List.cons.inj same).1 other
  · rfl

theorem mem_of_isMatch {glob : Glob} (other : isEverything glob.tokens = false) {path : String}
    (isMatch : glob.isMatch path = true) :
    [] ∈ sequenceRests glob.options.slashIsSpecial glob.tokens [encode path.toList] := by
  unfold Glob.isMatch at isMatch
  rw [other, Bool.false_or, Bool.and_eq_true] at isMatch
  obtain ⟨rest, member, empty⟩ := List.any_eq_true.mp isMatch.2
  rw [List.isEmpty_iff] at empty
  rw [bytes_eq_encode] at member
  rwa [← empty]

theorem text_of_isMatch_literals {glob : Glob} {literals : List Char}
    (tokens : glob.tokens = literals.map .literal) {path : String}
    (isMatch : glob.isMatch path = true) : path.toList = literals := by
  have other : isEverything glob.tokens = false := by
    rw [tokens]
    cases literals with
    | nil => rfl
    | cons c rest => exact isEverything_eq_false (fun same => by cases same) _
  have member := mem_of_isMatch other isMatch
  rw [tokens, ← List.append_nil (literals.map GlobToken.literal)] at member
  obtain ⟨rest, split, final⟩ := exists_rest_of_literals member
  obtain ⟨second, whole, encoded⟩ := exists_append_of_encode split
  -- Nothing is left over, so no further characters are.
  have empty : rest = [] := (List.mem_singleton.mp final).symm
  rw [empty] at encoded
  have ended : second = [] := by
    cases second with
    | nil => rfl
    | cons c more => simp [encode] at encoded
  rw [whole, ended, List.append_nil]

/-- What matches such a pattern begins with the characters and goes on with a slash. -/
theorem text_of_isMatch_rooted {glob : Glob} {literals : List Char}
    (rooted : IsRooted literals glob.tokens) {path : String} (isMatch : glob.isMatch path = true) :
    ∃ more, path.toList = literals ++ '/' :: more := by
  obtain ⟨token, tokens, same, asks⟩ := rooted
  have other : isEverything glob.tokens = false := by
    rw [same]
    cases literals with
    | nil =>
        refine isEverything_eq_false ?_ tokens
        rintro rfl
        cases asks
    | cons c rest => exact isEverything_eq_false (fun same => by cases same) _
  have member := mem_of_isMatch other isMatch
  rw [same] at member
  obtain ⟨rest, split, final⟩ := exists_rest_of_literals member
  have found : tokenRests glob.options.slashIsSpecial token rest ≠ [] := by
    intro none
    rw [sequenceRests, List.flatMap_singleton, none] at final
    change [] ∈ sequenceRests _ tokens [] at final
    rw [sequenceRests_nil] at final
    cases final
  obtain ⟨more, starts⟩ := exists_slash_of_asksSlash asks found
  have slashed : encode path.toList = encode (literals ++ ['/']) ++ more := by
    rw [encode_append, encode_slash, split, starts]
    simp
  obtain ⟨second, whole, _⟩ := exists_append_of_encode slashed
  exact ⟨second, by simpa using whole⟩

end Waymark.Glob
