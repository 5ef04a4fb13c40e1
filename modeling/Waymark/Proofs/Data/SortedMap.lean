import Mathlib.Data.List.Forall2
import Waymark.Data.SortedMap

set_option autoImplicit false

/-! Maps in ascending key order. Keys can be written in several ways, so two keys are one if they
compare as equal: a lookup after an insertion or a removal depends on nothing else. Two maps with the
same lookups are the same but for the way in which their keys are written. Where no two keys compare
as equal, a key is found with the one value that is listed with it. -/

namespace Waymark.SortedMap

variable {κ α : Type} [Ord κ]

/-! ### Keys -/

theorem mem_keys_insert [Std.TransOrd κ] {map : SortedMap κ α} {key stored : κ} {value : α}
    (member : stored ∈ (map.insert key value).keys) : stored = key ∨ stored ∈ map.keys :=
  mem_keys_insertEntry member

theorem mem_keys_erase {map : SortedMap κ α} {key stored : κ}
    (member : stored ∈ (map.erase key).keys) : stored ∈ map.keys := by
  obtain ⟨entry, known, rfl⟩ := List.mem_map.mp member
  exact List.mem_map_of_mem (List.mem_filter.mp known).1

private theorem length_insertEntry_le (key : κ) (value : α) (entries : List (κ × α)) :
    (insertEntry key value entries).length ≤ entries.length + 1 := by
  induction entries with
  | nil => exact Nat.le_refl 1
  | cons head rest ih =>
      rw [insertEntry]
      split
      · exact Nat.le_refl _
      · exact Nat.le_succ _
      · exact Nat.succ_le_succ ih

theorem size_insert_le [Std.TransOrd κ] (map : SortedMap κ α) (key : κ) (value : α) :
    (map.insert key value).size ≤ map.size + 1 :=
  length_insertEntry_le key value map.entries

/-! ### Lookup -/

theorem lookup_cons (key stored : κ) (value : α) (rest : List (κ × α)) :
    lookup key ((stored, value) :: rest) =
      if compare key stored = .eq then some value else lookup key rest := by
  unfold lookup
  by_cases same : compare key stored = .eq
  · rw [List.find?_cons_of_pos (by simpa using same), if_pos same]
    rfl
  · rw [List.find?_cons_of_neg (by simpa using same), if_neg same]

theorem exists_of_find? {map : SortedMap κ α} {key : κ} {value : α}
    (found : map.find? key = some value) :
    ∃ stored, (stored, value) ∈ map.entries ∧ compare key stored = .eq := by
  obtain ⟨entry, first, rfl⟩ := Option.map_eq_some_iff.mp found
  have same := List.find?_some first
  exact ⟨entry.1, List.mem_of_find?_eq_some first, eq_of_beq same⟩

theorem isSome_find?_iff (map : SortedMap κ α) (key : κ) :
    (map.find? key).isSome = true ↔ ∃ stored, stored ∈ map.keys ∧ compare key stored = .eq := by
  unfold find? lookup keys
  rw [Option.isSome_map, List.find?_isSome]
  simp only [List.mem_map, beq_iff_eq]
  constructor
  · rintro ⟨entry, member, same⟩
    exact ⟨entry.1, ⟨entry, member, rfl⟩, same⟩
  · rintro ⟨_, ⟨entry, member, rfl⟩, same⟩
    exact ⟨entry, member, same⟩

theorem find?_mapValues {β : Type} (change : α → β) (map : SortedMap κ α) (key : κ) :
    (map.mapValues change).find? key = (map.find? key).map change := by
  unfold find? lookup mapValues
  rw [List.find?_map, Option.map_map, Option.map_map]
  rfl

theorem erase_of_not_contains {map : SortedMap κ α} {key : κ} (absent : map.contains key = false) :
    map.erase key = map := by
  have kept : map.entries.filter (fun entry => compare key entry.1 != .eq) = map.entries := by
    rw [List.filter_eq_self]
    intro entry member
    rw [bne_iff_ne]
    intro same
    have found := (isSome_find?_iff map key).mpr ⟨entry.1, List.mem_map_of_mem member, same⟩
    exact Bool.false_ne_true (absent.symm.trans found)
  exact SortedMap.ext kept

private theorem lookup_of_below {entries : List (κ × α)} {key : κ}
    (below : ∀ entry, entry ∈ entries → compare key entry.1 = .lt) : lookup key entries = none := by
  unfold lookup
  rw [List.find?_eq_none.mpr, Option.map_none]
  intro entry member
  rw [below entry member]
  decide

section Order

variable [Std.TransOrd κ]

private theorem lookup_least {stored key : κ} {value : α} {rest : List (κ × α)}
    (ascending : Ascending ((stored, value) :: rest)) (before : compare key stored = .lt) :
    lookup key ((stored, value) :: rest) = none := by
  apply lookup_of_below
  intro entry member
  rcases List.mem_cons.mp member with equal | later
  · rw [equal]
    exact before
  · exact Std.TransCmp.lt_trans before ((List.pairwise_cons.mp ascending).1 entry later)

private theorem keys_insertEntry_perm {entries : List (κ × α)} (ascending : Ascending entries)
    (key : κ) (value : α) :
    ((insertEntry key value entries).map (·.1)).Perm
      (if (lookup key entries).isSome then entries.map (·.1)
        else key :: entries.map (·.1)) := by
  induction entries with
  | nil => exact List.Perm.refl _
  | cons head rest ih =>
      obtain ⟨stored, old⟩ := head
      unfold SortedMap.insertEntry
      split
      · rename_i before
        rw [lookup_least ascending before]
        exact List.Perm.refl _
      · rename_i same
        rw [lookup_cons, if_pos same]
        exact List.Perm.refl _
      · rename_i after
        have apart : compare key stored ≠ .eq := by
          rw [after]
          decide
        rw [lookup_cons, if_neg apart, List.map_cons, List.map_cons]
        have tail := (ih (List.pairwise_cons.mp ascending).2).cons stored
        split at tail
        · rename_i known
          rw [if_pos known]
          exact tail
        · rename_i unknown
          rw [if_neg unknown]
          exact tail.trans (List.Perm.swap _ _ _)

/-- An insertion adds its key if no way to write the key is stored, and else no key. -/
theorem keys_insert_perm (map : SortedMap κ α) (key : κ) (value : α) :
    (map.insert key value).keys.Perm
      (if (map.find? key).isSome then map.keys else key :: map.keys) :=
  keys_insertEntry_perm map.ascending key value

private theorem lookup_insertEntry (entries : List (κ × α)) (stored key : κ) (value : α) :
    lookup key (insertEntry stored value entries) =
      if compare key stored = .eq then some value else lookup key entries := by
  induction entries with
  | nil => rw [insertEntry, lookup_cons]
  | cons head rest ih =>
      obtain ⟨other, old⟩ := head
      rw [insertEntry]
      split
      · rw [lookup_cons]
      · rename_i same
        have agrees : compare key stored = compare key other := Std.TransCmp.congr_right same
        rw [lookup_cons, lookup_cons, agrees]
        split <;> rfl
      · rename_i after
        rw [lookup_cons, lookup_cons, ih]
        by_cases found : compare key other = .eq
        -- The new key comes after the one that is found, so it is another.
        · have apart : compare key stored ≠ .eq := by
            intro same
            rw [← Std.TransCmp.congr_left same, found] at after
            cases after
          rw [if_pos found, if_pos found, if_neg apart]
        · rw [if_neg found, if_neg found]

/-- A lookup finds the value that was stored last under the key, however the key was written. -/
theorem find?_insert (map : SortedMap κ α) (stored key : κ) (value : α) :
    (map.insert stored value).find? key =
      if compare key stored = .eq then some value else map.find? key :=
  lookup_insertEntry map.entries stored key value

theorem find?_erase (map : SortedMap κ α) (dropped key : κ) :
    (map.erase dropped).find? key =
      if compare key dropped = .eq then none else map.find? key := by
  unfold erase find? lookup
  rw [List.find?_filter]
  split
  · rename_i same
    rw [List.find?_eq_none.mpr, Option.map_none]
    intro entry _
    rw [Std.TransCmp.congr_left same]
    simp
  · rename_i apart
    congr 2
    funext entry
    by_cases found : compare key entry.1 = .eq
    · have kept : compare dropped entry.1 ≠ .eq := by
        intro same
        exact apart (Std.TransCmp.eq_trans found (Std.OrientedCmp.eq_symm same))
      simp [found, kept]
    · simp [found]

private theorem lookup_of_mem {entries : List (κ × α)} (ascending : Ascending entries) {key : κ}
    {value : α} (member : (key, value) ∈ entries) : lookup key entries = some value := by
  induction entries with
  | nil => cases member
  | cons head rest ih =>
      obtain ⟨stored, old⟩ := head
      obtain ⟨below, restAscending⟩ := List.pairwise_cons.mp ascending
      rw [lookup_cons]
      rcases List.mem_cons.mp member with equal | later
      · cases equal
        rw [if_pos Std.ReflCmp.compare_self]
      · have before : compare stored key = .lt := below (key, value) later
        have apart : compare key stored ≠ .eq := by
          intro same
          rw [Std.OrientedCmp.eq_symm same] at before
          cases before
        rw [if_neg apart]
        exact ih restAscending later

theorem find?_of_mem {map : SortedMap κ α} {key : κ} {value : α}
    (member : (key, value) ∈ map.entries) : map.find? key = some value :=
  lookup_of_mem map.ascending member

private theorem Ascending.nodup {entries : List (κ × α)} (ascending : Ascending entries) :
    entries.Nodup := by
  refine List.Pairwise.imp ?_ ascending
  rintro first second before rfl
  cases (Std.compare_self (a := first.1)).symm.trans before

private theorem entries_subset {first second : SortedMap κ α}
    (lookups : ∀ key, key ∈ first.keys → first.find? key = second.find? key)
    (written : ∀ key other, key ∈ first.keys → other ∈ second.keys → compare key other = .eq →
      key = other) {entry : κ × α} (member : entry ∈ first.entries) : entry ∈ second.entries := by
  have known : entry.1 ∈ first.keys := List.mem_map_of_mem member
  have found := find?_of_mem member
  rw [lookups entry.1 known] at found
  obtain ⟨stored, listed, same⟩ := exists_of_find? found
  have equal := written entry.1 stored known (List.mem_map_of_mem listed) same
  rw [← equal] at listed
  exact listed

/-- Maps with the same lookups of their keys are the same if they write their keys in the same
way. -/
theorem eq_of_find? {first second : SortedMap κ α}
    (lookups : ∀ key, key ∈ first.keys ∨ key ∈ second.keys → first.find? key = second.find? key)
    (written : ∀ key other, key ∈ first.keys → other ∈ second.keys → compare key other = .eq →
      key = other) : first = second := by
  have members : ∀ entry, entry ∈ first.entries ↔ entry ∈ second.entries := by
    intro entry
    constructor
    · exact entries_subset (fun key known => lookups key (Or.inl known)) written
    · refine entries_subset (fun key known => (lookups key (Or.inr known)).symm) ?_
      intro key other known otherKnown same
      exact (written other key otherKnown known (Std.OrientedCmp.eq_symm same)).symm
  -- Both lists ascend, so with the same members they are one list.
  refine SortedMap.ext (List.Perm.eq_of_pairwise ?_ first.ascending second.ascending
    ((List.perm_ext_iff_of_nodup first.ascending.nodup second.ascending.nodup).mpr members))
  intro entry other _ _ before after
  exact absurd after (Std.OrientedCmp.not_lt_of_lt before)

private theorem lookup_tail {stored key : κ} {value : α} {rest : List (κ × α)}
    (ascending : Ascending ((stored, value) :: rest)) :
    lookup key rest =
      if compare key stored = .eq then none else lookup key ((stored, value) :: rest) := by
  by_cases same : compare key stored = .eq
  · rw [if_pos same]
    apply lookup_of_below
    intro entry member
    rw [Std.TransCmp.congr_left same]
    exact (List.pairwise_cons.mp ascending).1 entry member
  · rw [if_neg same, lookup_cons, if_neg same]

private theorem forall₂_of_lookup {first second : List (κ × α)} (firstAscending : Ascending first)
    (secondAscending : Ascending second) (lookups : ∀ key, lookup key first = lookup key second) :
    List.Forall₂ (fun entry other => compare entry.1 other.1 = .eq ∧ entry.2 = other.2)
      first second := by
  induction first generalizing second with
  | nil =>
      cases second with
      | nil => exact List.Forall₂.nil
      | cons head rest =>
          have found := lookups head.1
          rw [lookup_cons, if_pos Std.compare_self] at found
          cases found
  | cons head rest ih =>
      obtain ⟨key, value⟩ := head
      have found := lookups key
      rw [lookup_cons, if_pos Std.compare_self] at found
      cases second with
      | nil => cases found
      | cons other others =>
          obtain ⟨otherKey, otherValue⟩ := other
          have otherFound := lookups otherKey
          rw [lookup_cons otherKey otherKey, if_pos Std.compare_self] at otherFound
          -- Were one of the least keys below the other, the other map would not have it.
          cases order : compare key otherKey with
          | lt =>
              rw [lookup_least secondAscending order] at found
              cases found
          | gt =>
              rw [lookup_least firstAscending (Std.OrientedCmp.gt_iff_lt.mp order)] at otherFound
              cases otherFound
          | eq =>
              rw [lookup_cons, if_pos order] at found
              refine List.Forall₂.cons ⟨order, Option.some.inj found⟩ ?_
              apply ih (List.pairwise_cons.mp firstAscending).2
                (List.pairwise_cons.mp secondAscending).2
              intro sought
              rw [lookup_tail firstAscending, lookup_tail secondAscending,
                Std.TransCmp.congr_right order, lookups]

/-- Maps with the same lookups list the same values under keys that compare as equal. -/
theorem forall₂_of_find? {first second : SortedMap κ α}
    (lookups : ∀ key, first.find? key = second.find? key) :
    List.Forall₂ (fun entry other => compare entry.1 other.1 = .eq ∧ entry.2 = other.2)
      first.entries second.entries :=
  forall₂_of_lookup first.ascending second.ascending lookups

end Order

/-! ### Keys that are written in one way -/

variable [Std.LawfulEqOrd κ]

theorem mem_insertEntry {key : κ} {value : α} {entries : List (κ × α)} {entry : κ × α}
    (member : entry ∈ insertEntry key value entries) :
    entry = (key, value) ∨ entry ∈ entries := by
  induction entries with
  | nil => exact Or.inl (List.mem_singleton.mp member)
  | cons head rest ih =>
      obtain ⟨stored, old⟩ := head
      unfold insertEntry at member
      split at member
      · exact List.mem_cons.mp member
      · rename_i same
        rw [← Std.LawfulEqOrd.eq_of_compare same] at member
        rcases List.mem_cons.mp member with equal | later
        · exact Or.inl equal
        · exact Or.inr (List.mem_cons_of_mem _ later)
      · rcases List.mem_cons.mp member with equal | later
        · exact Or.inr (equal ▸ List.mem_cons_self)
        · rcases ih later with equal | known
          · exact Or.inl equal
          · exact Or.inr (List.mem_cons_of_mem _ known)

theorem mem_erase_iff (map : SortedMap κ α) (key : κ) (entry : κ × α) :
    entry ∈ (map.erase key).entries ↔ entry ∈ map.entries ∧ key ≠ entry.1 := by
  unfold erase
  rw [List.mem_filter, bne_iff_ne, ne_eq, Std.compare_eq_iff_eq]

theorem find?_eq_some_iff [Std.TransOrd κ] (map : SortedMap κ α) (key : κ) (value : α) :
    map.find? key = some value ↔ (key, value) ∈ map.entries := by
  constructor
  · intro found
    obtain ⟨stored, member, same⟩ := exists_of_find? found
    rw [Std.LawfulEqOrd.eq_of_compare same]
    exact member
  · exact find?_of_mem

end Waymark.SortedMap
