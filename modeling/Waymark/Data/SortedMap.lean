set_option autoImplicit false

/-! Maps kept as a list of entries in ascending key order. Keys that compare as equal are one key; a
later insertion replaces the value but keeps the key that was stored first, so a key that can be
written in several ways is listed the way it was first written. -/

namespace Waymark

variable {κ α β : Type} [Ord κ]

def SortedMap.Ascending (entries : List (κ × α)) : Prop :=
  entries.Pairwise fun first second => compare first.1 second.1 = .lt

@[ext]
structure SortedMap (κ : Type) (α : Type) [Ord κ] where
  entries : List (κ × α)
  ascending : SortedMap.Ascending entries
deriving Repr

namespace SortedMap

/-! ### Entries -/

def insertEntry (key : κ) (value : α) : List (κ × α) → List (κ × α)
  | [] => [(key, value)]
  | (stored, old) :: rest =>
      match compare key stored with
      | .lt => (key, value) :: (stored, old) :: rest
      | .eq => (stored, value) :: rest
      | .gt => (stored, old) :: insertEntry key value rest

theorem mem_keys_insertEntry {key stored : κ} {value : α} {entries : List (κ × α)}
    (member : stored ∈ (insertEntry key value entries).map (·.1)) :
    stored = key ∨ stored ∈ entries.map (·.1) := by
  induction entries with
  | nil => exact Or.inl (List.mem_singleton.mp member)
  | cons head rest ih =>
      unfold insertEntry at member
      split at member
      · exact List.mem_cons.mp member
      · exact Or.inr member
      · rcases List.mem_cons.mp member with equal | later
        · exact Or.inr (List.mem_cons.mpr (Or.inl equal))
        · rcases ih later with equal | known
          · exact Or.inl equal
          · exact Or.inr (List.mem_cons_of_mem _ known)

theorem Ascending.insertEntry [Std.TransOrd κ] {entries : List (κ × α)}
    (ascending : Ascending entries) (key : κ) (value : α) :
    Ascending (insertEntry key value entries) := by
  induction entries with
  | nil => exact List.pairwise_singleton _ _
  | cons head rest ih =>
      obtain ⟨stored, old⟩ := head
      obtain ⟨below, restAscending⟩ := List.pairwise_cons.mp ascending
      unfold SortedMap.insertEntry
      split
      · rename_i before
        refine List.pairwise_cons.mpr ⟨?_, ascending⟩
        intro entry member
        rcases List.mem_cons.mp member with rfl | later
        · exact before
        · exact Std.TransCmp.lt_trans before (below entry later)
      · exact List.pairwise_cons.mpr ⟨below, restAscending⟩
      · rename_i after
        refine List.pairwise_cons.mpr ⟨?_, ih restAscending⟩
        intro entry member
        rcases mem_keys_insertEntry (List.mem_map_of_mem member) with equal | known
        · rw [equal]
          exact Std.OrientedCmp.gt_iff_lt.mp after
        · obtain ⟨other, listed, same⟩ := List.mem_map.mp known
          rw [← same]
          exact below other listed

def lookup (key : κ) (entries : List (κ × α)) : Option α :=
  (entries.find? fun entry => compare key entry.1 == .eq).map (·.2)

/-! ### Maps -/

def empty : SortedMap κ α := ⟨[], List.Pairwise.nil⟩

instance : EmptyCollection (SortedMap κ α) := ⟨empty⟩

def insert [Std.TransOrd κ] (map : SortedMap κ α) (key : κ) (value : α) : SortedMap κ α :=
  ⟨insertEntry key value map.entries, map.ascending.insertEntry key value⟩

def find? (map : SortedMap κ α) (key : κ) : Option α := lookup key map.entries

def contains (map : SortedMap κ α) (key : κ) : Bool :=
  (map.find? key).isSome

def erase (map : SortedMap κ α) (key : κ) : SortedMap κ α :=
  ⟨map.entries.filter fun entry => compare key entry.1 != .eq, map.ascending.filter _⟩

def mapValues (change : α → β) (map : SortedMap κ α) : SortedMap κ β :=
  ⟨map.entries.map fun (key, value) => (key, change value), by
    unfold Ascending
    exact List.pairwise_map.mpr map.ascending⟩

def size (map : SortedMap κ α) : Nat := map.entries.length

def isEmpty (map : SortedMap κ α) : Bool := map.entries.isEmpty

def keys (map : SortedMap κ α) : List κ := map.entries.map (·.1)

def values (map : SortedMap κ α) : List α := map.entries.map (·.2)

/-- The map of a list of pairs; of equal keys the last counts, with its value and as it is written. -/
def ofList [Std.TransOrd κ] (pairs : List (κ × α)) : SortedMap κ α :=
  pairs.foldl (fun map pair => (map.erase pair.1).insert pair.1 pair.2) {}

end SortedMap

end Waymark
