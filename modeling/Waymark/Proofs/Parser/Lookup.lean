import Mathlib.Data.List.Induction
import Waymark.Index
import Waymark.Proofs.Parser.Shape

set_option autoImplicit false

/-! Finding anchors of a document. Of the anchors with one text the last of the walk from the roots is
found, since it is the last to be entered under that text; of those with one id, the first. The walk
over the anchors of a text is in the order of their places, whatever regions they are in. -/

namespace Waymark

/-! ### The first and the last item with a property -/

section Items

variable {α : Type} {has : α → Prop} {items : List α} {item : α}

/-- Whether an item is in a list at a place before which no item has a property that it has. -/
def IsFirst (has : α → Prop) (items : List α) (item : α) : Prop :=
  has item ∧ ∃ before after, items = before ++ item :: after ∧ ∀ other, other ∈ before → ¬has other

/-- Whether an item is in a list at a place behind which no item has a property that it has. -/
def IsLast (has : α → Prop) (items : List α) (item : α) : Prop :=
  has item ∧ ∃ before after, items = before ++ item :: after ∧ ∀ other, other ∈ after → ¬has other

theorem isFirst_reverse_iff : IsFirst has items.reverse item ↔ IsLast has items item := by
  refine and_congr_right fun _ => ⟨?_, ?_⟩
  · rintro ⟨before, after, split, others⟩
    refine ⟨after.reverse, before.reverse, ?_, fun other member =>
      others other (List.mem_reverse.mp member)⟩
    rw [← List.reverse_reverse items, split]
    simp
  · rintro ⟨before, after, rfl, others⟩
    refine ⟨after.reverse, before.reverse, by simp, fun other member =>
      others other (List.mem_reverse.mp member)⟩

theorem find?_eq_some_iff_isFirst {test : α → Bool} (decides : ∀ item, test item = true ↔ has item) :
    items.find? test = some item ↔ IsFirst has items item := by
  rw [List.find?_eq_some_iff_append, decides]
  refine and_congr_right fun _ => exists_congr fun before => exists_congr fun after =>
    and_congr_right fun _ => forall₂_congr fun other _ => ?_
  rw [Bool.not_eq_true', ← decides, Bool.not_eq_true]

/-- In a list that is in an order, the first item with a property is the one before all the others. -/
theorem isFirst_iff_of_pairwise {before : α → α → Prop} (ordered : items.Pairwise before)
    (asymmetric : ∀ first second, before first second → ¬before second first) :
    IsFirst has items item ↔
      item ∈ items ∧ has item ∧ ∀ other, other ∈ items → has other → ¬before other item := by
  constructor
  · rintro ⟨own, earlier, later, rfl, others⟩
    refine ⟨by simp, own, ?_⟩
    intro other member hasToo ahead
    obtain ⟨_, itemAndLater, _⟩ := List.pairwise_append.mp ordered
    have itemFirst := (List.pairwise_cons.mp itemAndLater).1
    rcases List.mem_append.mp member with inEarlier | rest
    · exact others other inEarlier hasToo
    · rcases List.mem_cons.mp rest with rfl | inLater
      · exact asymmetric _ _ ahead ahead
      · exact asymmetric _ _ (itemFirst other inLater) ahead
  · rintro ⟨member, own, least⟩
    obtain ⟨earlier, later, rfl⟩ := List.append_of_mem member
    refine ⟨own, earlier, later, rfl, ?_⟩
    intro other inEarlier hasToo
    have ahead := (List.pairwise_append.mp ordered).2.2 other inEarlier item List.mem_cons_self
    exact least other (List.mem_append_left _ inEarlier) hasToo ahead

theorem isLast_iff_of_pairwise {before : α → α → Prop} (ordered : items.Pairwise before)
    (asymmetric : ∀ first second, before first second → ¬before second first) :
    IsLast has items item ↔
      item ∈ items ∧ has item ∧ ∀ other, other ∈ items → has other → ¬before item other := by
  rw [← isFirst_reverse_iff, isFirst_iff_of_pairwise (List.pairwise_reverse.mpr ordered)
    fun first second => asymmetric second first]
  simp only [List.mem_reverse]

end Items

namespace Forest

theorem get?_of_mem_preorder {forest : Forest} {entry : Nat × Anchor}
    (member : entry ∈ forest.preorder) : forest.get? entry.1 = some entry.2 := by
  obtain ⟨id, _, found⟩ := List.mem_filterMap.mp member
  obtain ⟨anchor, atId, rfl⟩ := Option.map_eq_some_iff.mp found
  exact atId

end Forest

namespace Index

/-! ### Looking up in any forest -/

/-- Of the entries with one text the last to be inserted is kept. -/
theorem getElem?_foldl_insert (entries : List (Nat × Anchor)) (text : String) :
    (entries.foldl (fun map (id, anchor) => map.insert anchor.text id)
        ({} : Std.HashMap String Nat))[text]? =
      (entries.reverse.find? fun entry => entry.2.text == text).map (·.1) := by
  induction entries using List.reverseRecOn with
  | nil => simp
  | append_singleton entries entry ih =>
      rw [List.foldl_append, List.foldl_cons, List.foldl_nil, Std.HashMap.getElem?_insert, ih,
        List.reverse_append, List.reverse_singleton, List.singleton_append, List.find?_cons]
      cases entry.2.text == text <;> rfl

theorem findByText?_build (document : Path) (forest : Forest) (text : String) :
    (build document forest).findByText? text =
      (build document forest).flatten.reverse.find? (·.text == text) := by
  change ((forest.preorder.foldl _ _)[text]?).bind forest.get? =
    (forest.preorder.map (·.2)).reverse.find? (·.text == text)
  rw [getElem?_foldl_insert, ← List.map_reverse, List.find?_map]
  change _ = (forest.preorder.reverse.find? fun entry => entry.2.text == text).map (·.2)
  cases found : forest.preorder.reverse.find? fun entry => entry.2.text == text with
  | none => rfl
  | some entry =>
      exact Forest.get?_of_mem_preorder (List.mem_reverse.mp (List.mem_of_find?_eq_some found))

theorem flatten_build (document : Path) (forest : Forest) :
    (build document forest).flatten =
      (forest.flatten forest.rootList).filterMap forest.get? := by
  unfold flatten build Forest.preorder
  rw [List.map_filterMap]
  apply List.filterMap_congr
  intro id _
  cases forest.get? id <;> rfl

/-- Whether looking up in an index finds the last anchor with a text of the walk from the roots of a
forest, and the first with an id. -/
structure FollowsWalk (forest : Forest) (index : Index) : Prop where
  walk : index.flatten = (forest.flatten forest.rootList).filterMap forest.get?
  byText : ∀ text anchor, index.findByText? text = some anchor ↔
    IsLast (fun anchor => anchor.text = text) index.flatten anchor
  noText : ∀ text, index.findByText? text = none ↔
    ∀ anchor, anchor ∈ index.flatten → anchor.text ≠ text
  byId : ∀ id anchor, index.findById? id = some anchor ↔
    IsFirst (fun anchor => anchor.attributes.id = some id) index.flatten anchor
  noId : ∀ id, index.findById? id = none ↔
    ∀ anchor, anchor ∈ index.flatten → anchor.attributes.id ≠ some id

theorem followsWalk_build (document : Path) (forest : Forest) :
    FollowsWalk forest (build document forest) where
  walk := flatten_build document forest
  byText := by
    intro text anchor
    rw [findByText?_build, find?_eq_some_iff_isFirst fun _ => beq_iff_eq, isFirst_reverse_iff]
  noText := by
    intro text
    rw [findByText?_build, List.find?_eq_none]
    simp only [List.mem_reverse, beq_iff_eq]
  byId := by
    intro id anchor
    exact find?_eq_some_iff_isFirst fun _ => beq_iff_eq
  noId := by
    intro id
    rw [findById?, List.find?_eq_none]
    simp only [beq_iff_eq]

/-! ### Looking up in a text -/

/-- Whether looking up in an index finds the last anchor of a forest in the document with a text, and
the first with an id. -/
structure FollowsPlaces (forest : Forest) (index : Index) : Prop where
  whole : index.forest = forest
  byText : ∀ text anchor, index.findByText? text = some anchor ↔
    (∃ number, forest.get? number = some anchor) ∧ anchor.text = text ∧
      ∀ number other, forest.get? number = some other → other.text = text →
        other.start ≤ anchor.start
  byId : ∀ id anchor, index.findById? id = some anchor ↔
    (∃ number, forest.get? number = some anchor) ∧ anchor.attributes.id = some id ∧
      ∀ number other, forest.get? number = some other → other.attributes.id = some id →
        anchor.start ≤ other.start

variable (parser : Parser) (document : Path) (text : String)

theorem mem_flatten_ofText_iff (anchor : Anchor) :
    anchor ∈ (ofText parser document text).flatten ↔
      ∃ number, (ofText parser document text).forest.get? number = some anchor := by
  rw [ofText, flatten_build, parser.flatten_parse, List.mem_filterMap]
  refine exists_congr fun number => and_iff_right_of_imp fun found => ?_
  exact List.mem_range.mpr (Forest.lt_size_of_get? found)

theorem flatten_ofText_pairwise :
    (ofText parser document text).flatten.Pairwise fun first second =>
      first.start < second.start := by
  rw [ofText, flatten_build, parser.flatten_parse, List.pairwise_filterMap]
  refine List.pairwise_lt_range.imp ?_
  intro i j less first atFirst second atSecond
  exact (parser.nested_parse document text).ascending i j first second less atFirst atSecond

/-- In the index of any forest a text leads to the last anchor of the walk from the roots with that
text, an id to the first with that id, and either to nothing only if no anchor has it. In the index of
a text these are the ones that begin last and first in the document. -/
theorem lookups_follow_walk :
    (∀ document forest, FollowsWalk forest (build document forest)) ∧
      ∀ parser document text,
        FollowsPlaces (parser.parse document text).forest (ofText parser document text) := by
  refine ⟨followsWalk_build, ?_⟩
  intro parser document text
  have walk := followsWalk_build document (parser.parse document text).forest
  have ordered := flatten_ofText_pairwise parser document text
  have known (anchor : Anchor) : anchor ∈ (ofText parser document text).flatten ↔
      ∃ number, (parser.parse document text).forest.get? number = some anchor :=
    mem_flatten_ofText_iff parser document text anchor
  have asymmetric (first second : Anchor) (before : first.start < second.start) :
      ¬second.start < first.start := Nat.not_lt.mpr (Nat.le_of_lt before)
  constructor
  · rfl
  · intro wanted anchor
    rw [ofText, walk.byText, ← ofText, isLast_iff_of_pairwise ordered asymmetric]
    simp only [known, Nat.not_lt, forall_exists_index]
    grind
  · intro wanted anchor
    rw [ofText, walk.byId, ← ofText, isFirst_iff_of_pairwise ordered asymmetric]
    simp only [known, Nat.not_lt, forall_exists_index]
    grind

end Index

end Waymark
