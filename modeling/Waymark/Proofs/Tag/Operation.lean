import Waymark.Proofs.Tag.Merge
import Waymark.Proofs.Tag.Registry

set_option autoImplicit false

/-! Registries after operations, one after another. An operation changes the tag of each name by itself,
so what a name stands for in the end follows from what the operations make of it. The tags stay listed
by name in ascending order, and a text finds the tag whose name is its uppercase form. Settings are for
no tag without a name: only an insertion stores one. -/

namespace Waymark.Registry

inductive Operation where
  | insert (tag : Tag)
  | remove (name : String)
  | merge (entries : List TagOverride)
  | setDisplayLineNumber (displayLineNumber : Bool)

def Operation.resultAt (name : String) (existing : Option Tag) : Operation → Option Tag
  | insert tag => if name = Text.upper tag.name then some { tag with name } else existing
  | remove other => if name = Text.upper other then none else existing
  | merge entries => TagOverride.resultOfAll (entries.filter (TagOverride.isFor name)) existing
  | setDisplayLineNumber displayLineNumber =>
      existing.map fun tag => { tag with displayLineNumber }

def perform (registry : Registry) : Operation → Registry
  | .insert tag => registry.insert tag
  | .remove name => registry.remove name
  | .merge entries => registry.merge entries
  | .setDisplayLineNumber displayLineNumber => registry.setDisplayLineNumber displayLineNumber

def performAll (registry : Registry) (operations : List Operation) : Registry :=
  operations.foldl perform registry

variable {registry : Registry}

theorem Reachable.perform (reachable : registry.Reachable) (operation : Operation) :
    (registry.perform operation).Reachable := by
  cases operation with
  | insert tag => exact reachable.insert tag
  | remove name => exact reachable.remove name
  | merge entries => exact reachable.merge entries
  | setDisplayLineNumber displayLineNumber => exact reachable.setDisplayLineNumber displayLineNumber

theorem Reachable.performAll (reachable : registry.Reachable) (operations : List Operation) :
    (registry.performAll operations).Reachable := by
  unfold Registry.performAll
  induction operations generalizing registry with
  | nil => exact reachable
  | cons operation rest ih =>
      rw [List.foldl_cons]
      exact ih (reachable.perform operation)

/-! ### Lookup after operations -/

theorem find?_perform (registry : Registry) (operation : Operation) (key : String) :
    (registry.perform operation).tags.find? key =
      Operation.resultAt key (registry.tags.find? key) operation := by
  cases operation with
  | insert tag =>
      unfold perform insert Operation.resultAt
      simp only [SortedMap.find?_insert, Std.compare_eq_iff_eq]
      by_cases same : key = Text.upper tag.name
      · rw [if_pos same, if_pos same, same]
      · rw [if_neg same, if_neg same]
  | remove name =>
      unfold perform remove Operation.resultAt
      simp only [SortedMap.find?_erase, Std.compare_eq_iff_eq]
  | merge entries => exact find?_merge registry entries key
  | setDisplayLineNumber displayLineNumber =>
      exact SortedMap.find?_mapValues (fun tag => { tag with displayLineNumber }) registry.tags key

theorem find?_performAll (registry : Registry) (operations : List Operation) (key : String) :
    (registry.performAll operations).tags.find? key =
      operations.foldl (Operation.resultAt key) (registry.tags.find? key) := by
  unfold performAll
  induction operations generalizing registry with
  | nil => rfl
  | cons operation rest ih => rw [List.foldl_cons, List.foldl_cons, ih, find?_perform]

/-! ### Names -/

theorem names_pairwise (wellFormed : registry.WellFormed) :
    (registry.list.map Tag.name).Pairwise (· < ·) := by
  have names : registry.list.map Tag.name = registry.tags.entries.map (·.1) := by
    unfold list SortedMap.values
    rw [List.map_map]
    apply List.map_congr_left
    intro entry member
    exact (wellFormed.named entry member).1
  rw [names, List.pairwise_map]
  exact registry.tags.ascending.imp compare_lt_iff_lt.mp

/-- Texts that find a tag find the same one only if they have the same uppercase form. -/
theorem find?_eq_find?_iff (wellFormed : registry.WellFormed) {first second : String}
    (known : (registry.find? first).isSome = true) :
    registry.find? first = registry.find? second ↔ Text.upper first = Text.upper second := by
  constructor
  · intro same
    obtain ⟨tag, found⟩ := Option.isSome_iff_exists.mp known
    have firstName := ((find?_eq_some_iff wellFormed first tag).mp found).2
    have secondName := ((find?_eq_some_iff wellFormed second tag).mp (same ▸ found)).2
    exact firstName.symm.trans secondName
  · intro same
    unfold find?
    rw [same]

/-! ### Tags without a name -/

theorem filter_isFor_empty (entries : List TagOverride) :
    entries.filter (TagOverride.isFor "") = [] := by
  rw [List.filter_eq_nil_iff]
  intro entry _ chosen
  have unnamed := TagOverride.key_of_isFor chosen
  unfold TagOverride.isFor at chosen
  rw [unnamed] at chosen
  cases chosen

/-- Settings neither make nor change a tag without a name. -/
theorem find?_merge_empty (registry : Registry) (entries : List TagOverride) :
    (registry.merge entries).find? "" = registry.find? "" := by
  have merged := find?_merge registry entries ""
  rw [filter_isFor_empty] at merged
  exact merged

theorem resultAt_empty {operation : Operation}
    (named : ∀ tag, operation = .insert tag → tag.name ≠ "") :
    Operation.resultAt "" none operation = none := by
  cases operation with
  | insert tag =>
      have apart : "" ≠ Text.upper tag.name := by
        intro same
        exact named tag rfl ((Text.upper_eq_empty_iff tag.name).mp same.symm)
      exact if_neg apart
  | remove name => exact ite_self none
  | merge entries =>
      rw [Operation.resultAt, filter_isFor_empty]
      rfl
  | setDisplayLineNumber displayLineNumber => rfl

theorem foldl_resultAt_empty {operations : List Operation}
    (named : ∀ tag, .insert tag ∈ operations → tag.name ≠ "") :
    operations.foldl (Operation.resultAt "") none = none := by
  induction operations with
  | nil => rfl
  | cons operation rest ih =>
      -- Without such an insertion the empty name has no tag before the rest either.
      have first : Operation.resultAt "" none operation = none := by
        apply resultAt_empty
        rintro tag rfl
        exact named tag List.mem_cons_self
      rw [List.foldl_cons, first]
      exact ih fun tag member => named tag (List.mem_cons_of_mem _ member)

theorem exists_insert_of_nameless {operations : List Operation} (absent : registry.find? "" = none)
    {tag : Tag} (found : (registry.performAll operations).find? "" = some tag) :
    ∃ inserted, .insert inserted ∈ operations ∧ inserted.name = "" := by
  by_contra missing
  have named : ∀ tag, .insert tag ∈ operations → tag.name ≠ "" :=
    fun inserted member unnamed => missing ⟨inserted, member, unnamed⟩
  have result : (registry.performAll operations).find? "" =
      operations.foldl (Operation.resultAt "") (registry.find? "") :=
    find?_performAll registry operations ""
  rw [absent, foldl_resultAt_empty named, found] at result
  cases result

/-- After any operations on no tags, or on the default tags, every tag is stored under its name, the
name is its own uppercase form, and the names are listed in ascending order. A text finds the tag whose
name is its uppercase form, so texts find the same tag exactly if they have the same uppercase form; and
what is found is what the operations that name it make of it. Settings make no tag without a name: such
a tag was inserted. -/
theorem names_identify_tags {start : Registry} (fresh : start = empty ∨ start = defaults)
    (operations : List Operation) :
    let last := start.performAll operations
    (∀ entry, entry ∈ last.tags.entries →
      entry.2.name = entry.1 ∧ Text.upper entry.2.name = entry.2.name) ∧
    (last.list.map Tag.name).Pairwise (· < ·) ∧
    (∀ name tag, last.find? name = some tag ↔ tag ∈ last.list ∧ tag.name = Text.upper name) ∧
    (∀ name, last.find? name = none ↔ ∀ tag, tag ∈ last.list → tag.name ≠ Text.upper name) ∧
    (∀ first second, (last.find? first).isSome = true →
      (last.find? first = last.find? second ↔ Text.upper first = Text.upper second)) ∧
    (∀ name, last.find? name =
      operations.foldl (Operation.resultAt (Text.upper name)) (start.find? name)) ∧
    (∀ entries tag, tag ∈ (last.merge entries).list → tag ∈ last.list ∨ tag.name ≠ "") ∧
    ∀ tag, tag ∈ last.list → tag.name = "" →
      ∃ inserted, .insert inserted ∈ operations ∧ inserted.name = "" := by
  intro last
  have started : start.Reachable := by
    rcases fresh with rfl | rfl
    · exact .empty
    · exact reachable_defaults
  have absent : start.find? "" = none := by
    rcases fresh with rfl | rfl <;> decide +kernel
  have wellFormed : last.WellFormed := (started.performAll operations).wellFormed
  refine ⟨?_, names_pairwise wellFormed, find?_eq_some_iff wellFormed, find?_eq_none_iff wellFormed,
    fun _ _ => find?_eq_find?_iff wellFormed,
    fun name => find?_performAll start operations (Text.upper name), ?_, ?_⟩
  · intro entry member
    obtain ⟨same, upper⟩ := wellFormed.named entry member
    exact ⟨same, by rw [same, upper]⟩
  · intro entries tag member
    by_cases unnamed : tag.name = ""
    · have found := find?_name (wellFormed.merge entries) member
      rw [unnamed, find?_merge_empty] at found
      exact Or.inl ((find?_eq_some_iff wellFormed "" tag).mp found).1
    · exact Or.inr unnamed
  · intro tag member unnamed
    have found := find?_name wellFormed member
    rw [unnamed] at found
    exact exists_insert_of_nameless absent found

/-- A tag is inserted as `straße`, and the settings for `strasse` are settings for it. -/
private def streetOperations : List Operation :=
  [.insert { name := "straße", behavior := .region, scope := .document },
   .insert { name := "", behavior := .marker, scope := .document },
   .remove "Todo",
   .merge [{ tag := " strasse ", scope := some .workspace }, { tag := " ", behavior := some .link }],
   .setDisplayLineNumber false]

private def street : Tag :=
  { name := "STRASSE", behavior := .region, scope := .workspace, displayLineNumber := false }

theorem names_identify_tags_street :
    let last := defaults.performAll streetOperations
    last.list.map Tag.name =
      ["", "ANCHOR", "FIXME", "LINK", "NOTE", "REVIEW", "SECTION", "STRASSE", "STUB"] ∧
    (last.list.map Tag.name).Pairwise (· < ·) ∧
    last.find? "Strasse" = some street ∧
    last.find? "Strasse" = last.find? "straße" ∧
    last.find? "Strasse" ≠ last.find? "strase" ∧
    last.find? "todo" = none ∧
    ∃ inserted, .insert inserted ∈ streetOperations ∧ inserted.name = "" := by
  intro last
  have listed : last.list.map Tag.name =
      ["", "ANCHOR", "FIXME", "LINK", "NOTE", "REVIEW", "SECTION", "STRASSE", "STUB"] := by
    decide +kernel
  obtain ⟨_, ascending, _, _, same, result, _, nameless⟩ :=
    names_identify_tags (Or.inr rfl) streetOperations
  have found : last.find? "Strasse" = some street := by
    rw [result]
    decide +kernel
  have known : (last.find? "Strasse").isSome = true := by
    rw [found]
    rfl
  refine ⟨listed, ascending, found, (same _ _ known).mpr (by decide +kernel),
    mt (same _ _ known).mp (by decide +kernel), ?_, ?_⟩
  · rw [result]
    decide +kernel
  · have first : "" ∈ last.list.map Tag.name := by
      rw [listed]
      exact List.mem_cons_self
    obtain ⟨tag, member, unnamed⟩ := List.mem_map.mp first
    exact nameless tag member unnamed

end Waymark.Registry
