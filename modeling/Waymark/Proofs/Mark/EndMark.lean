import Waymark.Proofs.Mark.Offsets

set_option autoImplicit false

/-! Tokens as end markers. A token is divided exactly when it begins with as many bytes as the end
mark has, these are the end mark, and the rest names a region; there is at most one way to do so. -/

namespace Waymark

namespace Text

theorem utf8ByteSize_ofList (text : List Char) :
    (String.ofList text).utf8ByteSize = byteLength text := by
  induction text with
  | nil => rfl
  | cons c rest ih =>
      rw [show c :: rest = [c] ++ rest from rfl, String.ofList_append, String.utf8ByteSize_append,
        ih, byteLength_append]
      congr 1
      rw [← String.singleton_eq_ofList, String.utf8ByteSize_singleton]
      rfl

theorem utf8ByteSize_eq_byteLength (text : String) :
    text.utf8ByteSize = byteLength text.toList := by
  rw [← utf8ByteSize_ofList, String.ofList_toList]

end Text

namespace Grammar

theorem cutBytes_eq_some_iff (size : Nat) (text before after : List Char) :
    cutBytes size text = some (before, after) ↔
      text = before ++ after ∧ Text.byteLength before = size := by
  fun_induction cutBytes size text generalizing before after with
  | case1 rest =>
      constructor
      · intro found
        cases found
        exact ⟨rfl, rfl⟩
      · rintro ⟨same, empty⟩
        cases before with
        | nil => rw [same]; rfl
        | cons c before =>
            have positive := c.utf8Size_pos
            rw [Text.byteLength_cons] at empty
            omega
  | case2 size =>
      constructor
      · intro found
        cases found
      · rintro ⟨same, long⟩
        have empty := (List.nil_eq_append_iff.mp same).1
        subst empty
        cases long
  | case3 size c rest fits ih =>
      constructor
      · intro found
        obtain ⟨⟨start, tail⟩, cut, same⟩ := Option.map_eq_some_iff.mp found
        cases same
        obtain ⟨whole, bytes⟩ := (ih start after).mp cut
        refine ⟨by rw [whole]; rfl, ?_⟩
        rw [Text.byteLength_cons]
        omega
      · rintro ⟨same, bytes⟩
        cases before with
        | nil => cases bytes
        | cons d before =>
            rw [List.cons_append, List.cons.injEq] at same
            obtain ⟨rfl, whole⟩ := same
            rw [Text.byteLength_cons] at bytes
            have cut := (ih before after).mpr ⟨whole, by omega⟩
            rw [cut]
            rfl
  | case4 size c rest tooLong =>
      constructor
      · intro found
        cases found
      · rintro ⟨same, bytes⟩
        cases before with
        | nil => cases bytes
        | cons d before =>
            rw [List.cons_append, List.cons.injEq] at same
            obtain ⟨rfl, _⟩ := same
            rw [Text.byteLength_cons] at bytes
            omega

structure IsEnding (grammar : Grammar) (isRegion : String → Bool) (token mark name : String) :
    Prop where
  whole : token = mark ++ name
  sameSize : mark.utf8ByteSize = grammar.endTag.utf8ByteSize
  markNonempty : mark ≠ ""
  nameNonempty : name ≠ ""
  endTag : grammar.isEndTag mark = true
  region : isRegion name = true

theorem splitEnd_cases (grammar : Grammar) (isRegion : String → Bool) (token : String) :
    (∃ mark name, grammar.IsEnding isRegion token mark name ∧
      grammar.splitEnd isRegion token = (name, true)) ∨
    (grammar.splitEnd isRegion token = (token, false) ∧
      ∀ mark name, ¬grammar.IsEnding isRegion token mark name) := by
  unfold splitEnd
  dsimp only
  by_cases short : grammar.endTag.utf8ByteSize = 0 ∨
      token.utf8ByteSize ≤ grammar.endTag.utf8ByteSize
  · rw [if_pos short]
    refine Or.inr ⟨rfl, ?_⟩
    intro mark name ending
    have total := congrArg String.utf8ByteSize ending.whole
    rw [String.utf8ByteSize_append] at total
    have markSize := ending.sameSize
    have markPositive := mt String.utf8ByteSize_eq_zero_iff.mp ending.markNonempty
    have namePositive := mt String.utf8ByteSize_eq_zero_iff.mp ending.nameNonempty
    omega
  · rw [if_neg short]
    cases cut : cutBytes grammar.endTag.utf8ByteSize token.toList with
    | none =>
        refine Or.inr ⟨rfl, ?_⟩
        intro mark name ending
        have found := (cutBytes_eq_some_iff grammar.endTag.utf8ByteSize token.toList
          mark.toList name.toList).mpr
            ⟨by rw [ending.whole, String.toList_append],
              by rw [← Text.utf8ByteSize_eq_byteLength, ending.sameSize]⟩
        rw [cut] at found
        cases found
    | some parts =>
        obtain ⟨start, rest⟩ := parts
        obtain ⟨whole, bytes⟩ := (cutBytes_eq_some_iff _ _ _ _).mp cut
        dsimp only
        have joined : token = String.ofList start ++ String.ofList rest := by
          rw [← String.ofList_append, ← whole, String.ofList_toList]
        have startSize : (String.ofList start).utf8ByteSize = grammar.endTag.utf8ByteSize := by
          rw [Text.utf8ByteSize_ofList, bytes]
        by_cases ends : (grammar.isEndTag (String.ofList start) &&
            isRegion (String.ofList rest)) = true
        · rw [if_pos ends]
          have total := congrArg String.utf8ByteSize joined
          rw [String.utf8ByteSize_append] at total
          rw [Bool.and_eq_true] at ends
          refine Or.inl ⟨String.ofList start, String.ofList rest,
            ⟨joined, startSize, ?_, ?_, ends.1, ends.2⟩, rfl⟩
          · intro empty
            rw [empty, String.utf8ByteSize_empty] at startSize
            omega
          · intro empty
            rw [empty, String.utf8ByteSize_empty] at total
            omega
        · rw [if_neg ends]
          refine Or.inr ⟨rfl, ?_⟩
          intro mark name ending
          have same := (cutBytes_eq_some_iff grammar.endTag.utf8ByteSize token.toList
            mark.toList name.toList).mpr
              ⟨by rw [ending.whole, String.toList_append],
                by rw [← Text.utf8ByteSize_eq_byteLength, ending.sameSize]⟩
          rw [cut] at same
          cases same
          rw [String.ofList_toList, String.ofList_toList, ending.endTag, ending.region] at ends
          exact ends rfl

theorem isRegion_of_splitEnd {grammar : Grammar} {isRegion : String → Bool} {token name : String}
    (split : grammar.splitEnd isRegion token = (name, true)) : isRegion name = true := by
  rcases grammar.splitEnd_cases isRegion token with ⟨mark, rest, ending, result⟩ | ⟨result, _⟩
  · rw [split] at result
    cases result
    exact ending.region
  · rw [split] at result
    cases result

end Grammar

end Waymark
