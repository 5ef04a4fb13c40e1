import Waymark.Mark.Basic

set_option autoImplicit false

/-! The marks of a text stand one after the other: each begins after the end of the one before it,
with at least one character between them. This holds for every grammar. -/

namespace Waymark

namespace Text

@[simp] theorem byteLength_nil : byteLength [] = 0 := rfl

@[simp] theorem byteLength_cons (c : Char) (text : List Char) :
    byteLength (c :: text) = c.utf8Size + byteLength text := rfl

@[simp] theorem byteLength_append (first second : List Char) :
    byteLength (first ++ second) = byteLength first + byteLength second := by
  induction first with
  | nil => simp
  | cons c rest ih =>
      simp only [List.cons_append, byteLength_cons, ih]
      omega

end Text

namespace Hit

theorem start_le_stop (hit : Hit) : hit.start ≤ hit.stop := Nat.le_add_right _ _

end Hit

namespace Grammar

theorem lt_start_of_mem_hitsFrom (grammar : Grammar) (offset : Nat) (text : List Char) :
    ∀ hit, hit ∈ grammar.hitsFrom offset text → offset < hit.start := by
  fun_induction hitsFrom grammar offset text with
  | case1 =>
      intro hit member
      cases member
  | case2 offset c rest start mark found ih =>
      intro hit member
      have later : offset < start := Nat.lt_add_of_pos_right c.utf8Size_pos
      rcases List.mem_cons.mp member with same | further
      · subst same
        exact later
      · have bound := ih hit further
        omega
  | case3 offset c rest start missing ih =>
      intro hit member
      have later : offset < start := Nat.lt_add_of_pos_right c.utf8Size_pos
      have bound := ih hit member
      omega

theorem hitsFrom_pairwise (grammar : Grammar) (offset : Nat) (text : List Char) :
    (grammar.hitsFrom offset text).Pairwise fun left right => left.stop < right.start := by
  fun_induction hitsFrom grammar offset text with
  | case1 => exact List.Pairwise.nil
  | case2 offset c rest start mark found ih =>
      refine List.Pairwise.cons ?_ ih
      intro hit member
      exact lt_start_of_mem_hitsFrom grammar _ _ hit member
  | case3 offset c rest start missing ih => exact ih

/-- Each mark of a text ends before the next begins. -/
theorem hits_pairwise (grammar : Grammar) (text : String) :
    (grammar.hits text).Pairwise fun left right => left.stop < right.start :=
  hitsFrom_pairwise grammar 0 text.toList

/-- The tokens of the marks of a text begin at ascending offsets. -/
theorem hits_ascending (grammar : Grammar) (text : String) :
    (grammar.hits text).Pairwise fun left right => left.start < right.start := by
  refine (hits_pairwise grammar text).imp ?_
  intro left right apart
  exact Nat.lt_of_le_of_lt left.start_le_stop apart

end Grammar

end Waymark
