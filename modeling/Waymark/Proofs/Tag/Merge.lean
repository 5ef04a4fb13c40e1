import Waymark.Tag.Registry
import Waymark.Proofs.Data.SortedMap

set_option autoImplicit false

/-! What a list of settings makes of a registry. Each tag follows the settings that name it, in
their order, and no others. Settings write a field of a tag or leave it, so of two writers the later
one decides, and to apply the whole list once more changes nothing. Only the settings that create a
tag can write more, as they may take its icon from the highlight color; applied again, they keep
that icon. -/

namespace Waymark

namespace TagOverride

/-! ### Settings for a tag that is there -/

private theorem getD_getD_getD {α : Type} (last next : Option α) (old : α) :
    last.getD (next.getD (last.getD old)) = last.getD (next.getD old) := by
  cases last <;> rfl

private theorem or_or_or {α : Type} (last next old : Option α) :
    last.or (next.or (last.or old)) = last.or (next.or old) := by
  cases last <;> rfl

private theorem behaviorFrom_behaviorFrom (last next : TagOverride) (old : Behavior) :
    last.behaviorFrom (next.behaviorFrom (last.behaviorFrom old)) =
      last.behaviorFrom (next.behaviorFrom old) := by
  unfold behaviorFrom
  cases last.isRegion == some true with
  | true => rfl
  | false => cases last.behavior <;> rfl

private theorem iconFrom_iconFrom (last next : TagOverride) (old : IconColor) :
    last.iconFrom false (next.iconFrom false (last.iconFrom false old)) =
      last.iconFrom false (next.iconFrom false old) := by
  unfold iconFrom
  cases last.iconText false <;> rfl

/-- Settings that are applied once more later need not be applied before. -/
theorem applyTo_applyTo_applyTo (last next : TagOverride) (tag : Tag) :
    last.applyTo false (next.applyTo false (last.applyTo false tag)) =
      last.applyTo false (next.applyTo false tag) := by
  simp only [applyTo, behaviorFrom_behaviorFrom, iconFrom_iconFrom, getD_getD_getD, or_or_or]

private theorem behaviorFrom_self (entry : TagOverride) (old : Behavior) :
    entry.behaviorFrom (entry.behaviorFrom old) = entry.behaviorFrom old := by
  unfold behaviorFrom
  cases entry.isRegion == some true with
  | true => rfl
  | false => cases entry.behavior <;> rfl

private theorem iconFrom_self (entry : TagOverride) (isNew : Bool) (old : IconColor) :
    entry.iconFrom false (entry.iconFrom isNew old) = entry.iconFrom isNew old := by
  unfold iconFrom iconText
  -- Without an icon color the settings leave the icon that they gave a new tag.
  cases entry.iconColor <;> rfl

theorem applyTo_self (entry : TagOverride) (isNew : Bool) (tag : Tag) :
    entry.applyTo false (entry.applyTo isNew tag) = entry.applyTo isNew tag := by
  have getD_self {α : Type} (value : Option α) (old : α) :
      value.getD (value.getD old) = value.getD old := by
    cases value <;> rfl
  have or_self {α : Type} (value old : Option α) : value.or (value.or old) = value.or old := by
    cases value <;> rfl
  simp only [applyTo, behaviorFrom_self, iconFrom_self, getD_self, or_self]

def applyAll (entries : List TagOverride) (tag : Tag) : Tag :=
  entries.foldl (fun tag entry => entry.applyTo false tag) tag

theorem applyAll_cons (entry : TagOverride) (rest : List TagOverride) (tag : Tag) :
    applyAll (entry :: rest) tag = applyAll rest (entry.applyTo false tag) := rfl

theorem applyAll_append (first second : List TagOverride) (tag : Tag) :
    applyAll (first ++ second) tag = applyAll second (applyAll first tag) :=
  List.foldl_append

theorem applyAll_cons_of_mem {entry : TagOverride} {rest : List TagOverride} (member : entry ∈ rest)
    (tag : Tag) : applyAll (entry :: rest) tag = applyAll rest tag := by
  induction rest generalizing tag with
  | nil => cases member
  | cons next rest ih =>
      rcases List.mem_cons.mp member with rfl | later
      · rw [applyAll_cons, applyAll_cons, applyAll_cons, applyTo_self]
      · calc applyAll (entry :: next :: rest) tag
            = applyAll rest (next.applyTo false (entry.applyTo false tag)) := rfl
          _ = applyAll rest (entry.applyTo false (next.applyTo false (entry.applyTo false tag))) :=
              (ih later _).symm
          _ = applyAll rest (entry.applyTo false (next.applyTo false tag)) := by
              rw [applyTo_applyTo_applyTo]
          _ = applyAll rest (next.applyTo false tag) := ih later _

theorem applyAll_append_of_subset {first second : List TagOverride} (again : first ⊆ second)
    (tag : Tag) : applyAll (first ++ second) tag = applyAll second tag := by
  induction first with
  | nil => rfl
  | cons entry rest ih =>
      obtain ⟨member, restAgain⟩ := List.cons_subset.mp again
      rw [List.cons_append, applyAll_cons_of_mem (List.mem_append_right rest member), ih restAgain]

theorem applyAll_applyAll (entries : List TagOverride) (tag : Tag) :
    applyAll entries (applyAll entries tag) = applyAll entries tag := by
  rw [← applyAll_append, applyAll_append_of_subset (List.Subset.refl entries)]

/-! ### Settings that create and remove a tag -/

def resultOfAll (entries : List TagOverride) (existing : Option Tag) : Option Tag :=
  entries.foldl (fun found entry => entry.resultFor found) existing

theorem resultOfAll_cons (entry : TagOverride) (rest : List TagOverride) (existing : Option Tag) :
    resultOfAll (entry :: rest) existing = resultOfAll rest (entry.resultFor existing) := rfl

theorem resultFor_of_disables {entry : TagOverride} (disables : entry.disables = true)
    (existing : Option Tag) : entry.resultFor existing = none :=
  if_pos disables

/-- After settings that remove the tag it does not matter what was there before. -/
theorem resultOfAll_of_disables {entries : List TagOverride}
    (disabled : ∃ entry, entry ∈ entries ∧ entry.disables = true) (first second : Option Tag) :
    resultOfAll entries first = resultOfAll entries second := by
  obtain ⟨entry, member, disables⟩ := disabled
  induction entries generalizing first second with
  | nil => cases member
  | cons head rest ih =>
      rw [resultOfAll_cons, resultOfAll_cons]
      rcases List.mem_cons.mp member with rfl | later
      · rw [resultFor_of_disables disables, resultFor_of_disables disables]
      · exact ih _ _ later

theorem resultOfAll_some {entries : List TagOverride}
    (enabled : ∀ entry, entry ∈ entries → entry.disables = false) (tag : Tag) :
    resultOfAll entries (some tag) = some (applyAll entries tag) := by
  induction entries generalizing tag with
  | nil => rfl
  | cons entry rest ih =>
      obtain ⟨entryEnabled, restEnabled⟩ := List.forall_mem_cons.mp enabled
      have result : entry.resultFor (some tag) = some (entry.applyTo false tag) := by
        rw [resultFor, entryEnabled]
        rfl
      rw [resultOfAll_cons, result, ih restEnabled, applyAll_cons]

theorem exists_resultOfAll {entry : TagOverride} {rest : List TagOverride}
    (enabled : ∀ other, other ∈ entry :: rest → other.disables = false) (existing : Option Tag) :
    ∃ tag, resultOfAll (entry :: rest) existing = some (applyAll (entry :: rest) tag) := by
  cases existing with
  | some tag => exact ⟨tag, resultOfAll_some enabled tag⟩
  | none =>
      obtain ⟨entryEnabled, restEnabled⟩ := List.forall_mem_cons.mp enabled
      let created := entry.applyTo true (Tag.named entry.key .marker .workspace)
      have result : entry.resultFor none = some created := by
        rw [resultFor, entryEnabled]
        rfl
      -- What creates the tag can be applied to it once more.
      refine ⟨created, ?_⟩
      rw [resultOfAll_cons, result, resultOfAll_some restEnabled, applyAll_cons, applyTo_self]

theorem resultOfAll_resultOfAll (entries : List TagOverride) (existing : Option Tag) :
    resultOfAll entries (resultOfAll entries existing) = resultOfAll entries existing := by
  by_cases disabled : ∃ entry, entry ∈ entries ∧ entry.disables = true
  · exact resultOfAll_of_disables disabled _ _
  · have enabled : ∀ entry, entry ∈ entries → entry.disables = false := by
      intro entry member
      exact Bool.eq_false_iff.mpr fun disables => disabled ⟨entry, member, disables⟩
    cases entries with
    | nil => rfl
    | cons entry rest =>
        obtain ⟨tag, result⟩ := exists_resultOfAll enabled existing
        rw [result, resultOfAll_some enabled, applyAll_applyAll]

/-- Whether the settings are for the tag of this name. Settings without a name are for none. -/
def isFor (name : String) (entry : TagOverride) : Bool :=
  !entry.key.isEmpty && entry.key == name

theorem key_of_isFor {entry : TagOverride} {name : String} (chosen : entry.isFor name = true) :
    entry.key = name :=
  eq_of_beq (Bool.and_eq_true_iff.mp chosen).2

end TagOverride

namespace Registry

/-! ### Settings for many tags -/

theorem find?_mergeOne (registry : Registry) (entry : TagOverride) (key : String) :
    (registry.mergeOne entry).tags.find? key =
      if entry.isFor key then entry.resultFor (registry.tags.find? key)
      else registry.tags.find? key := by
  unfold mergeOne TagOverride.isFor
  cases nameless : entry.key.isEmpty with
  | true => rfl
  | false =>
      simp only [Bool.false_eq_true, if_false, Bool.not_false, Bool.true_and, beq_iff_eq]
      by_cases same : entry.key = key
      · subst same
        rw [if_pos rfl]
        cases entry.resultFor (registry.tags.find? entry.key) with
        | none => rw [SortedMap.find?_erase, if_pos Std.ReflCmp.compare_self]
        | some tag => rw [SortedMap.find?_insert, if_pos Std.ReflCmp.compare_self]
      · have apart : compare key entry.key ≠ .eq := fun equal =>
          same (Std.LawfulEqOrd.eq_of_compare equal).symm
        rw [if_neg same]
        cases entry.resultFor (registry.tags.find? entry.key) with
        | none => rw [SortedMap.find?_erase, if_neg apart]
        | some tag => rw [SortedMap.find?_insert, if_neg apart]

theorem find?_merge (registry : Registry) (entries : List TagOverride) (key : String) :
    (registry.merge entries).tags.find? key =
      TagOverride.resultOfAll (entries.filter (TagOverride.isFor key))
        (registry.tags.find? key) := by
  unfold merge
  induction entries generalizing registry with
  | nil => rfl
  | cons entry rest ih =>
      rw [List.foldl_cons, ih, find?_mergeOne, List.filter_cons]
      split
      · rw [TagOverride.resultOfAll_cons]
      · rfl

theorem eq_of_find? {first second : Registry}
    (lookups : ∀ name, first.tags.find? name = second.tags.find? name) : first = second := by
  have same := SortedMap.eq_of_find? (fun key _ => lookups key)
    fun key other _ _ => Std.LawfulEqOrd.eq_of_compare
  exact congrArg Registry.mk same

/-- The settings of a list for one tag, and the tag that was there before, decide what the tag is
after the list, whatever else the list holds. So settings for other tags can stand anywhere between
them, and the same list once more changes nothing. -/
theorem merge_is_per_tag (registry : Registry) (entries : List TagOverride) :
    (∀ name, (registry.merge entries).find? name =
      TagOverride.resultOfAll (entries.filter (TagOverride.isFor (Text.upper name)))
        (registry.find? name)) ∧
    (∀ name, (∀ entry, entry ∈ entries → entry.key ≠ Text.upper name) →
      (registry.merge entries).find? name = registry.find? name) ∧
    (∀ reordered : List TagOverride,
      (∀ name, reordered.filter (TagOverride.isFor name) =
        entries.filter (TagOverride.isFor name)) →
      registry.merge reordered = registry.merge entries) ∧
    (registry.merge entries).merge entries = registry.merge entries := by
  refine ⟨fun name => find?_merge registry entries (Text.upper name), ?_, ?_, ?_⟩
  · intro name unnamed
    have none : entries.filter (TagOverride.isFor (Text.upper name)) = [] := by
      rw [List.filter_eq_nil_iff]
      intro entry member chosen
      exact unnamed entry member (TagOverride.key_of_isFor chosen)
    calc (registry.merge entries).find? name
        = TagOverride.resultOfAll (entries.filter (TagOverride.isFor (Text.upper name)))
            (registry.find? name) := find?_merge registry entries (Text.upper name)
      _ = registry.find? name := by rw [none]; rfl
  · intro reordered agree
    apply eq_of_find?
    intro name
    rw [find?_merge, find?_merge, agree]
  · apply eq_of_find?
    intro name
    rw [find?_merge, find?_merge, TagOverride.resultOfAll_resultOfAll]

private def ideaSettings : TagOverride := { tag := "idea", highlightColor := some "teal" }

/-- Removes a tag and creates it anew, with two behaviors and no icon color. -/
private def todoSettings : List TagOverride :=
  [{ tag := "todo", enabled := some false },
   { tag := " Todo ", behavior := some .link, isRegion := some true, highlightColor := some "red" },
   { tag := "TODO", isItalic := some false }]

private theorem key_todoSettings : ∀ entry, entry ∈ todoSettings → entry.key = "TODO" := by
  decide +kernel

theorem merge_is_per_tag_created_anew :
    (defaults.merge (ideaSettings :: todoSettings)).find? "todo" =
      some { name := "TODO", behavior := .region, scope := .workspace, iconColor := .hex "f44336",
             highlightColor := some "red", italic := false } ∧
    (defaults.merge (ideaSettings :: todoSettings)).find? "note" = defaults.find? "note" ∧
    defaults.merge (todoSettings ++ [ideaSettings]) =
      defaults.merge (ideaSettings :: todoSettings) ∧
    (defaults.merge (ideaSettings :: todoSettings)).merge (ideaSettings :: todoSettings) =
      defaults.merge (ideaSettings :: todoSettings) := by
  obtain ⟨decided, unnamed, moved, again⟩ :=
    merge_is_per_tag defaults (ideaSettings :: todoSettings)
  refine ⟨?_, unnamed "note" (by decide +kernel), moved _ ?_, again⟩
  · rw [decided]
    decide +kernel
  · intro name
    rw [List.filter_append, List.filter_singleton, List.filter_cons]
    cases chosen : ideaSettings.isFor name with
    | false => exact List.append_nil _
    | true =>
        have none : todoSettings.filter (TagOverride.isFor name) = [] := by
          rw [List.filter_eq_nil_iff]
          intro entry member also
          have other := key_todoSettings entry member
          rw [TagOverride.key_of_isFor also, ← TagOverride.key_of_isFor chosen] at other
          exact absurd other (by decide +kernel)
        rw [none]
        rfl

end Registry

end Waymark
