import Waymark.Proofs.Tag.Registry

set_option autoImplicit false

/-! The colors that texts are read as, and those that the tags of a registry can have. The digits of a
color may be decimal digits of any script. A color is plain, with digits out of 0 to 9 and a to f,
exactly if its text has no decimal digit of another script. -/

namespace Waymark

namespace IconColor

def IsPlainDigit (c : Char) : Prop :=
  c.isDigit = true ∨ 'a' ≤ c ∧ c ≤ 'f'

instance : DecidablePred IsPlainDigit := fun c =>
  inferInstanceAs (Decidable (c.isDigit = true ∨ 'a' ≤ c ∧ c ≤ 'f'))

/-- Whether a color is automatic, or has three or six digits out of 0 to 9 and a to f. -/
def IsPlain : IconColor → Prop
  | auto => True
  | hex digits =>
      (digits.toList.length = 3 ∨ digits.toList.length = 6) ∧
        ∀ c, c ∈ digits.toList → IsPlainDigit c

theorem isPlain_hex_iff (digits : String) :
    IsPlain (.hex digits) ↔
      (digits.toList.length = 3 ∨ digits.toList.length = 6) ∧
        ∀ c, c ∈ digits.toList → IsPlainDigit c := Iff.rfl

instance : DecidablePred IsPlain
  | auto => .isTrue trivial
  | hex digits =>
      have := List.decidableBAll IsPlainDigit digits.toList
      decidable_of_iff _ (isPlain_hex_iff digits).symm

def IsForeignDigit (c : Char) : Prop :=
  Text.isDigit c = true ∧ c.isDigit = false

instance : DecidablePred IsForeignDigit := fun c =>
  inferInstanceAs (Decidable (Text.isDigit c = true ∧ c.isDigit = false))

def HasForeignDigit (text : List Char) : Prop :=
  ∃ c, c ∈ text ∧ IsForeignDigit c

instance : DecidablePred HasForeignDigit :=
  List.decidableBEx IsForeignDigit

theorem not_hasForeignDigit_iff (text : List Char) :
    ¬HasForeignDigit text ↔ ∀ c, c ∈ text → ¬IsForeignDigit c := by
  simp [HasForeignDigit]

/-! ### Digits -/

private theorem high_of_isForeignDigit {c : Char} (foreign : IsForeignDigit c) : 128 ≤ c.toNat := by
  obtain ⟨digit, other⟩ := foreign
  unfold Text.isDigit at digit
  split at digit
  · rw [digit] at other
    cases other
  · exact Nat.not_lt.mp ‹_›

private theorem toLower_of_high {c : Char} (high : 128 ≤ c.toNat) : c.toLower = c := by
  unfold Char.toLower
  rw [dif_neg]
  rintro ⟨_, below⟩
  have small : c.toNat ≤ 'Z'.toNat := UInt32.le_iff_toNat_le.mp below
  have bound : 'Z'.toNat = 90 := rfl
  omega

private theorem toLower_of_digit {c : Char} (digit : c.isDigit = true) : c.toLower = c := by
  have bounds : 48 ≤ c.toNat ∧ c.toNat ≤ 57 := Char.isDigit_iff_toNat.mp digit
  unfold Char.toLower
  rw [dif_neg]
  rintro ⟨above, _⟩
  have large : 'A'.toNat ≤ c.toNat := UInt32.le_iff_toNat_le.mp above
  have bound : 'A'.toNat = 65 := rfl
  omega

theorem toNat_le_of_isPlainDigit {c : Char} (plain : IsPlainDigit c) : c.toNat ≤ 102 := by
  rcases plain with digit | ⟨_, below⟩
  · have bounds : 48 ≤ c.toNat ∧ c.toNat ≤ 57 := Char.isDigit_iff_toNat.mp digit
    omega
  · exact UInt32.le_iff_toNat_le.mp below

/-- A digit of another script stays as it is. -/
theorem toLower_of_isForeignDigit {c : Char} (foreign : IsForeignDigit c) : c.toLower = c :=
  toLower_of_high (high_of_isForeignDigit foreign)

theorem isPlainDigit_toLower_iff {c : Char} (digit : isColorDigit c = true) :
    IsPlainDigit c.toLower ↔ ¬IsForeignDigit c := by
  constructor
  · intro plain foreign
    rw [toLower_of_isForeignDigit foreign] at plain
    have low := toNat_le_of_isPlainDigit plain
    have high := high_of_isForeignDigit foreign
    omega
  · intro notForeign
    rcases Bool.or_eq_true_iff.mp digit with decimal | letter
    · have basic : c.isDigit = true := by
        rw [← Bool.not_eq_false]
        exact fun other => notForeign ⟨decimal, other⟩
      rw [toLower_of_digit basic]
      exact Or.inl basic
    · rw [Bool.and_eq_true, decide_eq_true_eq, decide_eq_true_eq] at letter
      exact Or.inr letter

/-! ### Texts -/

theorem ofDigits?_eq_some_iff (text : List Char) (color : IconColor) :
    ofDigits? text = some color ↔
      ∃ digits, text = '#' :: digits ∧ (digits.length = 3 ∨ digits.length = 6) ∧
        (∀ c, c ∈ digits → isColorDigit c = true) ∧
        color = .hex (String.ofList (Text.lowerBasic digits)) := by
  unfold ofDigits?
  split
  · rename_i digits
    rw [Option.ite_none_right_eq_some, Bool.and_eq_true, Bool.or_eq_true, beq_iff_eq, beq_iff_eq,
      List.all_eq_true, Option.some.injEq]
    constructor
    · rintro ⟨⟨size, known⟩, same⟩
      exact ⟨digits, rfl, size, known, same.symm⟩
    · rintro ⟨_, same, size, known, rfl⟩
      obtain rfl := (List.cons.inj same).2
      exact ⟨⟨size, known⟩, rfl⟩
  · rename_i other
    constructor
    · intro found
      cases found
    · rintro ⟨digits, same, _⟩
      exact absurd same (other digits)

theorem isPlain_palette : ∀ entry, entry ∈ palette → IsPlain (.hex entry.2) := by
  decide +kernel

private theorem palette_basic :
    ∀ entry, entry ∈ palette → ¬HasForeignDigit entry.1.toList := by
  decide +kernel

/-- A text is read as automatic, as a color of the palette, or by its digits. -/
theorem resolve_cases {raw : String} {color : IconColor} (found : resolve raw = some color) :
    ((raw = "default" ∨ raw = "auto") ∧ color = .auto) ∨
      (∃ digits, (raw, digits) ∈ palette ∧ color = .hex digits) ∨
      ofDigits? raw.toList = some color := by
  unfold resolve at found
  split at found
  · rename_i automatic
    rw [Bool.or_eq_true, beq_iff_eq, beq_iff_eq] at automatic
    exact Or.inl ⟨automatic, (Option.some.inj found).symm⟩
  · split at found
    · rename_i digits listed
      obtain ⟨before, after, split, _⟩ := List.lookup_eq_some_iff.mp listed
      exact Or.inr (Or.inl ⟨digits, by rw [split]; simp, (Option.some.inj found).symm⟩)
    · exact Or.inr (Or.inr found)

theorem isPlain_of_ofDigits?_iff {text : List Char} {color : IconColor}
    (found : ofDigits? text = some color) :
    color.IsPlain ↔ ¬HasForeignDigit text := by
  obtain ⟨digits, rfl, size, known, rfl⟩ := (ofDigits?_eq_some_iff text color).mp found
  have sign : ¬IsForeignDigit '#' := by decide
  rw [not_hasForeignDigit_iff, List.forall_mem_cons, and_iff_right sign, isPlain_hex_iff,
    String.toList_ofList, Text.lowerBasic, List.length_map, and_iff_right size,
    List.forall_mem_map]
  exact forall₂_congr fun c member => isPlainDigit_toLower_iff (known c member)

/-- A text is read as a plain color exactly if it has no digit of another script. -/
theorem isPlain_of_resolve_iff {raw : String} {color : IconColor}
    (found : resolve raw = some color) :
    color.IsPlain ↔ ¬HasForeignDigit raw.toList := by
  rcases resolve_cases found with ⟨automatic, rfl⟩ | ⟨digits, listed, rfl⟩ | byDigits
  · refine iff_of_true trivial ?_
    rcases automatic with rfl | rfl <;> decide
  · exact iff_of_true (isPlain_palette _ listed) (palette_basic _ listed)
  · exact isPlain_of_ofDigits?_iff byDigits

/-- A color that is read has three or six digits, decimal ones of any script or letters from a to f. -/
theorem digits_of_resolve {raw digits : String} (found : resolve raw = some (.hex digits)) :
    (digits.toList.length = 3 ∨ digits.toList.length = 6) ∧
      ∀ c, c ∈ digits.toList → IsPlainDigit c ∨ IsForeignDigit c := by
  rcases resolve_cases found with ⟨_, impossible⟩ | ⟨_, listed, same⟩ | byDigits
  · cases impossible
  · cases same
    obtain ⟨size, plain⟩ := isPlain_palette _ listed
    exact ⟨size, fun c member => Or.inl (plain c member)⟩
  · obtain ⟨written, _, size, known, same⟩ := (ofDigits?_eq_some_iff _ _).mp byDigits
    cases same
    rw [String.toList_ofList, Text.lowerBasic, List.length_map, List.forall_mem_map]
    refine ⟨size, ?_⟩
    intro c member
    by_cases foreign : IsForeignDigit c
    · rw [toLower_of_isForeignDigit foreign]
      exact Or.inr foreign
    · exact Or.inl ((isPlainDigit_toLower_iff (known c member)).mpr foreign)

end IconColor

/-! ### Registries -/

namespace TagOverride

def GivesForeign (entry : TagOverride) (color : IconColor) : Prop :=
  ∃ isNew raw, entry.iconText isNew = some raw ∧ IconColor.resolve raw = some color ∧
    IconColor.HasForeignDigit raw.toList

theorem GivesForeign.not_isPlain {entry : TagOverride} {color : IconColor}
    (gives : entry.GivesForeign color) : ¬color.IsPlain := by
  obtain ⟨_, raw, _, found, foreign⟩ := gives
  rw [IconColor.isPlain_of_resolve_iff found]
  exact not_not_intro foreign

theorem iconFrom_cases (entry : TagOverride) (isNew : Bool) (old : IconColor) :
    entry.iconFrom isNew old = old ∨ (entry.iconFrom isNew old).IsPlain ∨
      entry.GivesForeign (entry.iconFrom isNew old) := by
  unfold iconFrom
  cases text : entry.iconText isNew with
  | none => exact Or.inl rfl
  | some raw =>
      dsimp only
      cases found : IconColor.resolve raw with
      | none => exact Or.inr (Or.inl trivial)
      | some color =>
          rw [Option.getD_some]
          by_cases foreign : IconColor.HasForeignDigit raw.toList
          · exact Or.inr (Or.inr ⟨isNew, raw, text, found, foreign⟩)
          · exact Or.inr (Or.inl ((IconColor.isPlain_of_resolve_iff found).mpr foreign))

end TagOverride

namespace Registry

/-- Whether every tag has a plain color, or one that the settings for it give. -/
def ColoredBy (registry : Registry) (entries : List TagOverride) : Prop :=
  ∀ tag, tag ∈ registry.list → tag.iconColor.IsPlain ∨
    ∃ entry, entry ∈ entries ∧ entry.key = tag.name ∧ entry.GivesForeign tag.iconColor

variable {registry : Registry}

theorem mem_mergeOne {entry : TagOverride} {tag : Tag}
    (member : tag ∈ (registry.mergeOne entry).list) :
    tag ∈ registry.list ∨ entry.resultFor (registry.tags.find? entry.key) = some tag := by
  unfold mergeOne at member
  split at member
  · exact Or.inl member
  · obtain ⟨⟨name, _⟩, stored, rfl⟩ := List.mem_map.mp member
    cases result : entry.resultFor (registry.tags.find? entry.key) with
    | none =>
        rw [result] at stored
        have known := ((SortedMap.mem_erase_iff registry.tags entry.key _).mp stored).1
        exact Or.inl (List.mem_map.mpr ⟨_, known, rfl⟩)
    | some made =>
        rw [result] at stored
        rcases SortedMap.mem_insertEntry stored with same | known
        · obtain ⟨rfl, rfl⟩ := Prod.mk.inj same
          exact Or.inr rfl
        · exact Or.inl (List.mem_map.mpr ⟨_, known, rfl⟩)

/-- What settings make has the color that was there, a plain one, or one that they give. -/
theorem iconColor_of_resultFor {entry : TagOverride} {existing : Option Tag} {tag : Tag}
    (result : entry.resultFor existing = some tag) :
    (∃ old, existing = some old ∧ tag.iconColor = old.iconColor) ∨ tag.iconColor.IsPlain ∨
      entry.GivesForeign tag.iconColor := by
  unfold TagOverride.resultFor at result
  split at result
  · cases result
  · cases existing with
    | some old =>
        rw [← Option.some.inj result]
        rcases entry.iconFrom_cases false old.iconColor with kept | written
        · exact Or.inl ⟨old, rfl, kept⟩
        · exact Or.inr written
    | none =>
        rw [← Option.some.inj result]
        rcases entry.iconFrom_cases true .auto with automatic | written
        · refine Or.inr (Or.inl ?_)
          change (entry.iconFrom true .auto).IsPlain
          rw [automatic]
          trivial
        · exact Or.inr written

theorem ColoredBy.mergeOne {entries : List TagOverride} (wellFormed : registry.WellFormed)
    (colored : registry.ColoredBy entries) (entry : TagOverride) :
    (registry.mergeOne entry).ColoredBy (entries ++ [entry]) := by
  have earlier {tag : Tag} (known : tag ∈ registry.list) : tag.iconColor.IsPlain ∨
      ∃ other, other ∈ entries ++ [entry] ∧ other.key = tag.name ∧
        other.GivesForeign tag.iconColor := by
    refine (colored tag known).imp id ?_
    rintro ⟨other, member, key, gives⟩
    exact ⟨other, List.mem_append_left _ member, key, gives⟩
  intro tag member
  rcases mem_mergeOne member with known | result
  · exact earlier known
  · have stored {old : Tag} (found : registry.tags.find? entry.key = some old) :
        (entry.key, old) ∈ registry.tags.entries :=
      (SortedMap.find?_eq_some_iff registry.tags entry.key old).mp found
    have named : tag.name = entry.key :=
      name_of_resultFor (fun old found => (wellFormed.named _ (stored found)).1) result
    rcases iconColor_of_resultFor result with ⟨old, found, same⟩ | plain | gives
    · have inherited := earlier (List.mem_map.mpr ⟨_, stored found, rfl⟩)
      rwa [(wellFormed.named _ (stored found)).1, ← same, ← named] at inherited
    · exact Or.inl plain
    · exact Or.inr ⟨entry, List.mem_append_right _ List.mem_cons_self, named.symm, gives⟩

theorem ColoredBy.merge {entries : List TagOverride} (wellFormed : registry.WellFormed)
    (colored : registry.ColoredBy entries) (more : List TagOverride) :
    (registry.merge more).ColoredBy (entries ++ more) := by
  unfold Registry.merge
  induction more generalizing registry entries with
  | nil => rwa [List.append_nil]
  | cons entry rest ih =>
      rw [List.foldl_cons, List.append_cons]
      exact ih (wellFormed.mergeOne entry) (colored.mergeOne wellFormed entry)

theorem coloredBy_defaults : defaults.ColoredBy [] := by
  have plain : ∀ tag, tag ∈ defaults.list → tag.iconColor.IsPlain := by decide +kernel
  exact fun tag member => Or.inl (plain tag member)

/-- A text is read as automatic or as a color of three or six digits, and as a plain color exactly if
it has no digit of another script. In a registry that lists of settings make of the default tags, one
after the other, a color is plain exactly if it was not read from such a text of the settings for its
tag. -/
theorem colors_plain_iff (batches : List (List TagOverride)) :
    (∀ raw color, IconColor.resolve raw = some color →
      (color.IsPlain ↔ ¬IconColor.HasForeignDigit raw.toList)) ∧
    (∀ raw digits, IconColor.resolve raw = some (.hex digits) →
      (digits.toList.length = 3 ∨ digits.toList.length = 6) ∧
        ∀ c, c ∈ digits.toList → IconColor.IsPlainDigit c ∨ IconColor.IsForeignDigit c) ∧
    ∀ tag, tag ∈ (batches.foldl Registry.merge defaults).list →
      (tag.iconColor.IsPlain ↔
        ¬∃ entry, entry ∈ batches.flatten ∧ entry.key = tag.name ∧
          entry.GivesForeign tag.iconColor) := by
  refine ⟨fun _ _ => IconColor.isPlain_of_resolve_iff, fun _ _ => IconColor.digits_of_resolve, ?_⟩
  have merged : batches.foldl Registry.merge defaults = defaults.merge batches.flatten :=
    List.foldl_flatten.symm
  have colored := coloredBy_defaults.merge reachable_defaults.wellFormed batches.flatten
  rw [merged]
  intro tag member
  constructor
  · rintro plain ⟨entry, _, _, gives⟩
    exact gives.not_isPlain plain
  · intro none
    exact (colored tag member).resolve_right none

/-- Three digits of another script are read as a color, and a new tag takes it as its icon. -/
theorem foreign_digits_not_plain :
    IconColor.resolve "#\u0661\u0662\u0663" = some (.hex "\u0661\u0662\u0663") ∧
      ¬IconColor.IsPlain (.hex "\u0661\u0662\u0663") ∧
      ∃ tag, tag ∈ (defaults.merge
          [{ tag := "idea", highlightColor := some "#\u0661\u0662\u0663" }]).list ∧
        ¬tag.iconColor.IsPlain := by
  decide +kernel

end Registry

end Waymark
