import Mathlib.Data.String.Basic
import Waymark.Tag.Registry
import Waymark.Proofs.Data.SortedMap
import Waymark.Proofs.Text.CaseFold

set_option autoImplicit false

/-! The registries that its operations can build. Each tag is listed once, under its own name, and
that name is its own uppercase form. So a tag is found by the texts whose uppercase form is its
name. -/

namespace Waymark.Registry

inductive Reachable : Registry → Prop
  | empty : Reachable Registry.empty
  | insert {registry : Registry} (tag : Tag) : Reachable registry → Reachable (registry.insert tag)
  | remove {registry : Registry} (name : String) :
      Reachable registry → Reachable (registry.remove name)
  | merge {registry : Registry} (entries : List TagOverride) :
      Reachable registry → Reachable (registry.merge entries)
  | setDisplayLineNumber {registry : Registry} (displayLineNumber : Bool) :
      Reachable registry → Reachable (registry.setDisplayLineNumber displayLineNumber)

structure WellFormed (registry : Registry) : Prop where
  named : ∀ entry, entry ∈ registry.tags.entries →
    entry.2.name = entry.1 ∧ Text.upper entry.1 = entry.1

variable {registry : Registry}

private theorem WellFormed.insertEntry (wellFormed : registry.WellFormed) {name : String} {tag : Tag}
    (same : tag.name = name) (upper : Text.upper name = name) :
    WellFormed ⟨registry.tags.insert name tag⟩ := by
  constructor
  intro entry member
  rcases SortedMap.mem_insertEntry member with rfl | known
  · exact ⟨same, upper⟩
  · exact wellFormed.named entry known

private theorem WellFormed.eraseEntry (wellFormed : registry.WellFormed) (name : String) :
    WellFormed ⟨registry.tags.erase name⟩ := by
  constructor
  intro entry member
  exact wellFormed.named entry ((SortedMap.mem_erase_iff registry.tags name entry).mp member).1

theorem WellFormed.insert (wellFormed : registry.WellFormed) (tag : Tag) :
    (registry.insert tag).WellFormed :=
  wellFormed.insertEntry rfl (Text.upper_upper tag.name)

/-- Settings leave a tag its name, and give a new one theirs. -/
theorem name_of_resultFor {entry : TagOverride} {existing : Option Tag} {tag : Tag}
    (stored : ∀ old, existing = some old → old.name = entry.key)
    (result : entry.resultFor existing = some tag) : tag.name = entry.key := by
  unfold TagOverride.resultFor at result
  split at result
  · cases result
  · cases existing with
    | some old =>
        rw [← Option.some.inj result]
        exact stored old rfl
    | none =>
        rw [← Option.some.inj result]
        exact Text.upper_upper (Text.trimmed entry.tag)

theorem WellFormed.mergeOne (wellFormed : registry.WellFormed) (entry : TagOverride) :
    (registry.mergeOne entry).WellFormed := by
  unfold Registry.mergeOne
  split
  · exact wellFormed
  · cases result : entry.resultFor (registry.tags.find? entry.key) with
    | none => exact wellFormed.eraseEntry entry.key
    | some tag =>
        refine wellFormed.insertEntry ?_ (Text.upper_upper _)
        apply name_of_resultFor _ result
        intro old found
        have known := (SortedMap.find?_eq_some_iff registry.tags entry.key old).mp found
        exact (wellFormed.named _ known).1

theorem WellFormed.merge (wellFormed : registry.WellFormed) (entries : List TagOverride) :
    (registry.merge entries).WellFormed := by
  unfold Registry.merge
  induction entries generalizing registry with
  | nil => exact wellFormed
  | cons entry rest ih =>
      rw [List.foldl_cons]
      exact ih (wellFormed.mergeOne entry)

theorem WellFormed.setDisplayLineNumber (wellFormed : registry.WellFormed)
    (displayLineNumber : Bool) : (registry.setDisplayLineNumber displayLineNumber).WellFormed := by
  constructor
  intro entry member
  obtain ⟨⟨name, tag⟩, known, rfl⟩ := List.mem_map.mp member
  exact wellFormed.named (name, tag) known

theorem Reachable.wellFormed (reachable : registry.Reachable) : registry.WellFormed := by
  induction reachable with
  | empty => exact ⟨fun entry member => by cases member⟩
  | insert tag _ ih => exact ih.insert tag
  | remove name _ ih => exact ih.eraseEntry (Text.upper name)
  | merge entries _ ih => exact ih.merge entries
  | setDisplayLineNumber displayLineNumber _ ih => exact ih.setDisplayLineNumber displayLineNumber

private theorem Reachable.foldl_insert (reachable : registry.Reachable) (tags : List Tag) :
    (tags.foldl Registry.insert registry).Reachable := by
  induction tags generalizing registry with
  | nil => exact reachable
  | cons tag rest ih =>
      rw [List.foldl_cons]
      exact ih (reachable.insert tag)

theorem reachable_defaults : defaults.Reachable :=
  Reachable.empty.foldl_insert defaultTags

/-! ### Lookup -/

theorem find?_eq_some_iff (wellFormed : registry.WellFormed) (name : String) (tag : Tag) :
    registry.find? name = some tag ↔ tag ∈ registry.list ∧ tag.name = Text.upper name := by
  unfold find? list SortedMap.values
  rw [SortedMap.find?_eq_some_iff, List.mem_map]
  constructor
  · intro member
    exact ⟨⟨_, member, rfl⟩, (wellFormed.named _ member).1⟩
  · rintro ⟨⟨entry, member, rfl⟩, same⟩
    rw [← same, (wellFormed.named entry member).1]
    exact member

theorem find?_eq_none_iff (wellFormed : registry.WellFormed) (name : String) :
    registry.find? name = none ↔ ∀ tag, tag ∈ registry.list → tag.name ≠ Text.upper name := by
  rw [Option.eq_none_iff_forall_ne_some]
  apply forall_congr'
  intro tag
  rw [ne_eq, find?_eq_some_iff wellFormed, not_and]

theorem isSome_find?_iff (wellFormed : registry.WellFormed) (name : String) :
    (registry.find? name).isSome = true ↔
      ∃ tag, tag ∈ registry.list ∧ tag.name = Text.upper name := by
  rw [Option.isSome_iff_exists]
  apply exists_congr
  intro tag
  exact find?_eq_some_iff wellFormed name tag

theorem hasRegion_iff (wellFormed : registry.WellFormed) (name : String) :
    registry.hasRegion name = true ↔
      ∃ tag, tag ∈ registry.list ∧ tag.name = Text.upper name ∧ tag.isRegion = true := by
  unfold hasRegion
  rw [Option.any_eq_true]
  apply exists_congr
  intro tag
  rw [find?_eq_some_iff wellFormed, and_assoc]

theorem upper_name (wellFormed : registry.WellFormed) {tag : Tag} (member : tag ∈ registry.list) :
    Text.upper tag.name = tag.name := by
  obtain ⟨entry, known, rfl⟩ := List.mem_map.mp member
  obtain ⟨same, upper⟩ := wellFormed.named entry known
  rw [same, upper]

/-- A tag is found under its own name. -/
theorem find?_name (wellFormed : registry.WellFormed) {tag : Tag} (member : tag ∈ registry.list) :
    registry.find? tag.name = some tag :=
  (find?_eq_some_iff wellFormed _ _).mpr ⟨member, (upper_name wellFormed member).symm⟩

end Waymark.Registry
