set_option autoImplicit false

/-! Sorting keeps the order of the items that may stand either way. So a list that is in order by
one relation, sorted by another, is in order by the second relation and then by the first. -/

namespace Waymark.StableSort

variable {α : Type} {precedes : α → α → Bool}

def tied (precedes : α → α → Bool) (first second : α) : Bool :=
  precedes first second && precedes second first

private theorem pairwise_filter_tied
    (transitive : ∀ a b c, precedes a b → precedes b c → precedes a c) (first : α)
    (items : List α) :
    (items.filter (tied precedes first)).Pairwise fun a b => precedes a b := by
  apply List.pairwise_of_forall_mem_list
  intro a memberA b memberB
  have tiedA := (List.mem_filter.mp memberA).2
  have tiedB := (List.mem_filter.mp memberB).2
  unfold tied at tiedA tiedB
  rw [Bool.and_eq_true] at tiedA tiedB
  exact transitive a first b tiedA.2 tiedB.1

theorem filter_tied_mergeSort
    (transitive : ∀ a b c, precedes a b → precedes b c → precedes a c)
    (total : ∀ a b, precedes a b || precedes b a) (first : α) (items : List α) :
    (items.mergeSort precedes).filter (tied precedes first) =
      items.filter (tied precedes first) := by
  have kept := List.sublist_mergeSort transitive total
    (pairwise_filter_tied transitive first items) List.filter_sublist
  have within := kept.filter (tied precedes first)
  rw [List.filter_filter] at within
  simp only [Bool.and_self] at within
  have lengths := ((List.mergeSort_perm items precedes).filter (tied precedes first)).length_eq
  exact (within.eq_of_length lengths.symm).symm

theorem pairwise_mergeSort
    (transitive : ∀ a b c, precedes a b → precedes b c → precedes a c)
    (total : ∀ a b, precedes a b || precedes b a) {before : α → α → Prop} {items : List α}
    (ordered : items.Pairwise before) :
    (items.mergeSort precedes).Pairwise fun a b =>
      precedes a b ∧ (precedes b a → before a b) := by
  rw [List.pairwise_iff_forall_sublist]
  intro a b pair
  have sorted := List.pairwise_mergeSort transitive total items
  have forward : precedes a b := List.pairwise_iff_forall_sublist.mp sorted pair
  refine ⟨forward, ?_⟩
  intro backward
  -- Both are tied with the first of them, so they stood in this order before.
  have own : precedes a a := transitive a b a forward backward
  have tiedPair := pair.filter (tied precedes a)
  rw [filter_tied_mergeSort transitive total] at tiedPair
  have both : [a, b].filter (tied precedes a) = [a, b] := by
    simp only [tied, List.filter_cons, own, forward, backward, Bool.and_self, if_true,
      List.filter_nil]
  rw [both] at tiedPair
  exact List.pairwise_iff_forall_sublist.mp (ordered.filter _) tiedPair

end Waymark.StableSort
