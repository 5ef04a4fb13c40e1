import Mathlib.Data.List.Sort
import Mathlib.Data.String.Basic
import Waymark.Mark.Grammar

set_option autoImplicit false

/-! What a grammar is built from. Its tokens are the names of the tags and, for the regions, the
names after the end mark, longer ones first. Its separators are the configured ones that are not
empty, in the configured order unless they all begin alike up to a space. -/

namespace Waymark

namespace Grammar

/-! ### Tokens -/

def Precedes (first second : String) : Prop :=
  second.utf8ByteSize < first.utf8ByteSize ∨
    first.utf8ByteSize = second.utf8ByteSize ∧ first < second

instance : Std.Asymm Precedes where
  asymm first second := by
    rintro (longer | ⟨same, before⟩) (shorter | ⟨_, after⟩)
    · exact Nat.lt_asymm longer shorter
    · omega
    · omega
    · exact lt_asymm before after

private theorem tokenPrecedes_iff (a b : String) :
    tokenPrecedes a b = true ↔
      b.utf8ByteSize < a.utf8ByteSize ∨ a.utf8ByteSize = b.utf8ByteSize ∧ a ≤ b := by
  simp [tokenPrecedes]

private theorem tokenPrecedes_trans (a b c : String) (first : tokenPrecedes a b = true)
    (second : tokenPrecedes b c = true) : tokenPrecedes a c = true := by
  rw [tokenPrecedes_iff] at first second ⊢
  rcases first with longer | ⟨same, before⟩
  · rcases second with longerToo | ⟨sameToo, _⟩
    · exact Or.inl (longerToo.trans longer)
    · exact Or.inl (sameToo ▸ longer)
  · rcases second with longerToo | ⟨sameToo, beforeToo⟩
    · exact Or.inl (same ▸ longerToo)
    · exact Or.inr ⟨same.trans sameToo, before.trans beforeToo⟩

private theorem tokenPrecedes_total (a b : String) :
    (tokenPrecedes a b || tokenPrecedes b a) = true := by
  rw [Bool.or_eq_true, tokenPrecedes_iff, tokenPrecedes_iff]
  rcases Nat.lt_trichotomy a.utf8ByteSize b.utf8ByteSize with shorter | same | longer
  · exact Or.inr (Or.inl shorter)
  · rcases le_total a b with before | after
    · exact Or.inl (Or.inr ⟨same, before⟩)
    · exact Or.inr (Or.inr ⟨same.symm, after⟩)
  · exact Or.inl (Or.inl longer)

private theorem pairwise_eraseDups {R : String → String → Prop} (values : List String)
    (ordered : values.Pairwise R) :
    values.eraseDups.Pairwise fun first second => R first second ∧ first ≠ second := by
  match values with
  | [] => exact List.Pairwise.nil
  | first :: rest =>
      obtain ⟨before, restOrdered⟩ := List.pairwise_cons.mp ordered
      have shorter := List.length_filter_le (fun other => !other == first) rest
      rw [List.eraseDups_cons]
      refine List.pairwise_cons.mpr ⟨?_, pairwise_eraseDups _ (restOrdered.filter _)⟩
      intro second member
      obtain ⟨known, different⟩ := List.mem_filter.mp (List.mem_eraseDups.mp member)
      refine ⟨before second known, ?_⟩
      rintro rfl
      simp at different
termination_by values.length
decreasing_by
  simp only [List.length_cons]
  omega

theorem tokensOf_pairwise (registry : Registry) (endTag : String) :
    (tokensOf registry endTag).Pairwise Precedes := by
  have sorted := List.pairwise_mergeSort tokenPrecedes_trans tokenPrecedes_total
    (registry.list.flatMap (Tag.tokens endTag))
  refine (pairwise_eraseDups _ sorted).imp ?_
  rintro first second ⟨ordered, different⟩
  rcases (tokenPrecedes_iff first second).mp ordered with longer | ⟨same, before⟩
  · exact Or.inl longer
  · exact Or.inr ⟨same, lt_of_le_of_ne before different⟩

theorem mem_tokens_iff (endTag : String) (tag : Tag) (token : String) :
    token ∈ tag.tokens endTag ↔
      token = tag.name ∨ tag.isRegion = true ∧ token = endTag ++ tag.name := by
  unfold Tag.tokens
  cases tag.isRegion <;> simp

theorem mem_tokensOf_iff (registry : Registry) (endTag token : String) :
    token ∈ tokensOf registry endTag ↔
      ∃ tag, tag ∈ registry.list ∧
        (token = tag.name ∨ tag.isRegion = true ∧ token = endTag ++ tag.name) := by
  unfold tokensOf
  rw [List.mem_eraseDups, List.mem_mergeSort, List.mem_flatMap]
  simp only [mem_tokens_iff]

structure IsTokenOrder (registry : Registry) (endTag : String) (tokens : List String) : Prop where
  ordered : tokens.Pairwise Precedes
  complete : ∀ token, token ∈ tokens ↔
    ∃ tag, tag ∈ registry.list ∧
      (token = tag.name ∨ tag.isRegion = true ∧ token = endTag ++ tag.name)

theorem isTokenOrder_tokensOf (registry : Registry) (endTag : String) :
    IsTokenOrder registry endTag (tokensOf registry endTag) :=
  ⟨tokensOf_pairwise registry endTag, mem_tokensOf_iff registry endTag⟩

/-- A registry and an end mark leave one order of the tokens. -/
theorem IsTokenOrder.unique {registry : Registry} {endTag : String} {tokens others : List String}
    (order : IsTokenOrder registry endTag tokens) (otherOrder : IsTokenOrder registry endTag others) :
    tokens = others := by
  refine order.ordered.eq_of_mem_iff otherOrder.ordered ?_
  intro token
  rw [order.complete, otherOrder.complete]

theorem tokensOf_defaults :
    tokensOf Registry.defaults "!" =
      ["!SECTION", "SECTION", "ANCHOR", "REVIEW", "FIXME", "LINK", "NOTE", "STUB", "TODO"] := by
  refine (isTokenOrder_tokensOf Registry.defaults "!").unique ⟨?_, ?_⟩
  · unfold Precedes
    decide +kernel
  · intro token
    simp only [← mem_tokens_iff, ← List.mem_flatMap]
    apply List.Perm.mem_iff
    decide +kernel

end Grammar

/-! ### Separators -/

namespace Separator

theorem order_perm (matchCase : Bool) (separators : List (List Char)) :
    (order matchCase separators).Perm separators := by
  unfold order
  dsimp only
  split
  · exact List.mergeSort_perm _ _
  · exact List.Perm.refl _

theorem order_pairwise {matchCase : Bool} {separators : List (List Char)}
    (spaced : (shared matchCase separators).getLast? = some ' ') :
    (order matchCase separators).Pairwise fun first second =>
      leadingSpaces (first.drop (shared matchCase separators).length) ≤
        leadingSpaces (second.drop (shared matchCase separators).length) := by
  unfold order
  dsimp only
  rw [if_pos spaced]
  refine (List.pairwise_mergeSort ?_ ?_ separators).imp of_decide_eq_true
  · intro a b c first second
    exact decide_eq_true (Nat.le_trans (of_decide_eq_true first) (of_decide_eq_true second))
  · intro a b
    rw [Bool.or_eq_true, decide_eq_true_eq, decide_eq_true_eq]
    exact Nat.le_total _ _

/-- Whether separators that all begin alike up to a space have the ones that ask for fewer further
spaces first. -/
def KeepsOrder (matchCase : Bool) (separators : List (List Char)) : Prop :=
  (shared matchCase separators).getLast? = some ' ' →
    separators.Pairwise fun first second =>
      leadingSpaces (first.drop (shared matchCase separators).length) ≤
        leadingSpaces (second.drop (shared matchCase separators).length)

/-- The configured order stands for such separators and for no others. -/
theorem order_eq_self_iff (matchCase : Bool) (separators : List (List Char)) :
    order matchCase separators = separators ↔ KeepsOrder matchCase separators := by
  constructor
  · intro same spaced
    have sorted := order_pairwise spaced
    rwa [same] at sorted
  · intro keeps
    unfold order
    dsimp only
    split
    · rename_i spaced
      apply List.mergeSort_of_pairwise
      exact (keeps spaced).imp decide_eq_true
    · rfl

example : KeepsOrder false ([" - ", ": ", " "].map String.toList) := by
  unfold KeepsOrder
  decide +kernel

end Separator

namespace Grammar

/-! ### Grammars -/

def usable (separators : List String) : List (List Char) :=
  (separators.filter (!·.isEmpty)).map String.toList

def ofRegistry (registry : Registry) (separators : List String) (endTag : String)
    (matchCase : Bool) : Grammar :=
  { tokens := (tokensOf registry endTag).map String.toList
    separators := Separator.order matchCase (usable separators)
    endTag, matchCase }

theorem build_eq_ok_iff (registry : Registry) (separators : List String) (endTag : String)
    (matchCase : Bool) (grammar : Grammar) :
    build registry separators endTag matchCase = .ok grammar ↔
      registry.isEmpty = false ∧ usable separators ≠ [] ∧
        grammar = ofRegistry registry separators endTag matchCase := by
  unfold build ofRegistry usable
  cases registry.isEmpty with
  | true => simp
  | false =>
      cases separators.filter (!·.isEmpty) with
      | nil => simp
      | cons first rest =>
          simp only [Bool.false_eq_true, if_false, Except.ok.injEq, true_and, List.map_cons, ne_eq,
            reduceCtorEq, not_false_eq_true]
          exact eq_comm

theorem fields_of_build {registry : Registry} {separators : List String} {endTag : String}
    {matchCase : Bool} {grammar : Grammar}
    (built : build registry separators endTag matchCase = .ok grammar) :
    grammar.endTag = endTag ∧ grammar.matchCase = matchCase := by
  obtain ⟨_, _, rfl⟩ := (build_eq_ok_iff _ _ _ _ _).mp built
  exact ⟨rfl, rfl⟩

theorem separators_perm_of_build {registry : Registry} {separators : List String} {endTag : String}
    {matchCase : Bool} {grammar : Grammar}
    (built : build registry separators endTag matchCase = .ok grammar) :
    grammar.separators.Perm (usable separators) := by
  obtain ⟨_, _, rfl⟩ := (build_eq_ok_iff _ _ _ _ _).mp built
  exact Separator.order_perm matchCase (usable separators)

end Grammar

end Waymark
