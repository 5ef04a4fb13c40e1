import Waymark.Proofs.Anchor.Attributes

set_option autoImplicit false

/-! Lists of attributes as actions. A list acts as its segments do one after the other, so that two
lists with a comma between them act as the first and then the second. Only the segments with a known
key write: an attribute is what the last of its segments has written, if any, and a list that is
applied twice writes the same again. -/

namespace Waymark.Attributes

def assignment? (segment : List Char) : Option (String × List Char) :=
  (Text.cutAt '=' segment).map fun (key, value) =>
    (String.ofList (Text.trim key), Text.trim value)

/-- The keys and values of a list, in its order; segments without `=` have none. -/
def assignments (raw : String) : List (String × List Char) :=
  (raw.toList.splitOn ',').filterMap assignment?

def valuesOf (key raw : String) : List (List Char) :=
  ((assignments raw).filter fun entry => entry.1 = key).map (·.2)

def apply (attributes : Attributes) (entry : String × List Char) : Attributes :=
  attributes.assign entry.1.toList entry.2

/-! ### Segments -/

/-- Whether a segment is trimmed before it is cut does not matter, as its parts are trimmed. -/
theorem applySegment_eq (attributes : Attributes) (segment : List Char) :
    attributes.applySegment segment = (assignment? segment).elim attributes attributes.apply := by
  have visible : Text.isBlank '=' = false := by decide
  have same := Text.cutAt_trim visible segment
  rw [applySegment_eq_cutAt]
  unfold assignment?
  cases cut : Text.cutAt '=' (Text.trim segment) with
  | none =>
      rw [cut, Option.map_none] at same
      rw [Option.map_eq_none_iff.mp same.symm]
      rfl
  | some parts =>
      rw [cut, Option.map_some] at same
      obtain ⟨whole, cutWhole, equal⟩ := Option.map_eq_some_iff.mp same.symm
      rw [cutWhole]
      obtain ⟨keys, values⟩ := Prod.mk.inj equal
      simp only [Option.map_some, Option.elim_some, apply, String.toList_ofList, keys, values]

theorem parse_eq_foldl (raw : String) (defaults : Attributes) :
    parse raw defaults = (assignments raw).foldl apply defaults := by
  rw [parse_eq_foldl_fields, Text.fields_eq_splitOn]
  unfold assignments
  generalize raw.toList.splitOn ',' = segments
  induction segments generalizing defaults with
  | nil => rfl
  | cons segment rest ih =>
      rw [List.foldl_cons, ih, applySegment_eq]
      cases found : assignment? segment with
      | none => rw [List.filterMap_cons_none found]; rfl
      | some entry => rw [List.filterMap_cons_some found, List.foldl_cons]; rfl

theorem parse_append (first second : String) (defaults : Attributes) :
    parse (first ++ "," ++ second) defaults = parse second (parse first defaults) := by
  have written : (first ++ "," ++ second).toList = first.toList ++ ',' :: second.toList := by
    simp only [String.toList_append, List.append_assoc]
    rfl
  rw [parse_eq_foldl_fields, parse_eq_foldl_fields, parse_eq_foldl_fields, written,
    Text.fields_append, List.foldl_append]

/-! ### What the segments of a key write -/

theorem epic_apply (attributes : Attributes) (entry : String × List Char) :
    (attributes.apply entry).epic =
      if entry.1 = "epic" then nonEmpty entry.2 else attributes.epic := by
  unfold apply assign
  rw [String.ofList_toList]
  split <;> simp_all

theorem id_apply (attributes : Attributes) (entry : String × List Char) :
    (attributes.apply entry).id = if entry.1 = "id" then nonEmpty entry.2 else attributes.id := by
  unfold apply assign
  rw [String.ofList_toList]
  split <;> simp_all

theorem seq_apply (attributes : Attributes) (entry : String × List Char) :
    (attributes.apply entry).seq =
      if entry.1 = "seq" then (Text.readSigned? 10 entry.2).getD attributes.seq
      else attributes.seq := by
  unfold apply assign
  rw [String.ofList_toList]
  split <;> simp_all

/-- An attribute that entries with its key write, or leave, is what was written to it last. -/
theorem last_write {α : Type} (read : Attributes → α) (key : String) (write : List Char → Option α)
    (decided : ∀ attributes entry, read (apply attributes entry) =
      if entry.1 = key then (write entry.2).getD (read attributes) else read attributes)
    (raw : String) (defaults : Attributes) :
    read (parse raw defaults) =
      ((valuesOf key raw).filterMap write).getLast?.getD (read defaults) := by
  rw [parse_eq_foldl, valuesOf]
  induction assignments raw using List.reverseRecOn with
  | nil => rfl
  | append_singleton earlier last ih =>
      rw [List.foldl_append, List.foldl_cons, List.foldl_nil, decided, ih, List.filter_append,
        List.map_append, List.filterMap_append, List.getLast?_append]
      by_cases named : last.1 = key
      · rw [if_pos named, List.filter_singleton, decide_eq_true named, cond_true, List.map_singleton]
        cases written : write last.2 with
        | none => rw [List.filterMap_cons_none written]; rfl
        | some value => rw [List.filterMap_cons_some written]; rfl
      · rw [if_neg named, List.filter_singleton, decide_eq_false named]
        rfl

theorem epic_parse (raw : String) (defaults : Attributes) :
    (parse raw defaults).epic =
      ((valuesOf "epic" raw).map nonEmpty).getLast?.getD defaults.epic := by
  rw [← List.filterMap_eq_map]
  exact last_write epic "epic" (some ∘ nonEmpty) epic_apply raw defaults

theorem id_parse (raw : String) (defaults : Attributes) :
    (parse raw defaults).id = ((valuesOf "id" raw).map nonEmpty).getLast?.getD defaults.id := by
  rw [← List.filterMap_eq_map]
  exact last_write id "id" (some ∘ nonEmpty) id_apply raw defaults

theorem seq_parse (raw : String) (defaults : Attributes) :
    (parse raw defaults).seq =
      ((valuesOf "seq" raw).filterMap (Text.readSigned? 10)).getLast?.getD defaults.seq :=
  last_write seq "seq" (Text.readSigned? 10) seq_apply raw defaults

/-- The values of a list hold only characters of the list. -/
theorem mem_of_mem_valuesOf {key raw : String} {value : List Char} (listed : value ∈ valuesOf key raw)
    {c : Char} (member : c ∈ value) (notComma : c ≠ ',') : c ∈ raw.toList := by
  obtain ⟨entry, kept, rfl⟩ := List.mem_map.mp listed
  obtain ⟨segment, known, assigned⟩ := List.mem_filterMap.mp (List.mem_filter.mp kept).1
  obtain ⟨⟨before, after⟩, cut, rfl⟩ := Option.map_eq_some_iff.mp assigned
  have inAfter : c ∈ after := (Text.trim_sublist after).subset member
  rw [Text.mem_iff_mem_fields notComma, Text.fields_eq_splitOn]
  refine ⟨segment, known, ?_⟩
  rw [Text.append_of_cutAt cut]
  exact List.mem_append_right before (List.mem_cons_of_mem _ inAfter)

theorem eq_of_parts {first second : Attributes} (epic : first.epic = second.epic)
    (seq : first.seq = second.seq) (id : first.id = second.id) : first = second := by
  cases first
  cases second
  cases epic
  cases seq
  cases id
  rfl

theorem parse_of_unnamed {raw : String}
    (unnamed : ∀ entry, entry ∈ assignments raw → entry.1 ∉ ["epic", "seq", "id"])
    (defaults : Attributes) : parse raw defaults = defaults := by
  have none : ∀ key, key ∈ ["epic", "seq", "id"] → valuesOf key raw = [] := by
    intro key known
    rw [valuesOf, List.map_eq_nil_iff, List.filter_eq_nil_iff]
    intro entry member same
    rw [← of_decide_eq_true same] at known
    exact unnamed entry member known
  apply eq_of_parts
  · rw [epic_parse, none "epic" (by decide)]
    rfl
  · rw [seq_parse, none "seq" (by decide)]
    rfl
  · rw [id_parse, none "id" (by decide)]
    rfl

theorem parse_parse (raw : String) (defaults : Attributes) :
    parse raw (parse raw defaults) = parse raw defaults := by
  have again {α : Type} (written : Option α) (old : α) :
      written.getD (written.getD old) = written.getD old := by
    cases written <;> rfl
  apply eq_of_parts
  · rw [epic_parse raw (parse raw defaults), epic_parse, again]
  · rw [seq_parse raw (parse raw defaults), seq_parse, again]
  · rw [id_parse raw (parse raw defaults), id_parse, again]

/-- Lists of attributes act on attributes, one after the other where a comma stands between them.
The last segment with its key decides the epic and the id, and the last that holds an integer of 64
bits the place; an empty value takes an epic or an id away. What has no known key does nothing, and a
list that has acted once has no more to do. -/
theorem lists_act_on_attributes :
    (∀ first second defaults,
      parse (first ++ "," ++ second) defaults = parse second (parse first defaults)) ∧
    (∀ raw defaults, (parse raw defaults).epic =
      ((valuesOf "epic" raw).map nonEmpty).getLast?.getD defaults.epic) ∧
    (∀ raw defaults, (parse raw defaults).id =
      ((valuesOf "id" raw).map nonEmpty).getLast?.getD defaults.id) ∧
    (∀ raw defaults, (parse raw defaults).seq =
      ((valuesOf "seq" raw).filterMap (Text.readSigned? 10)).getLast?.getD defaults.seq) ∧
    (∀ raw, (∀ entry, entry ∈ assignments raw → entry.1 ∉ ["epic", "seq", "id"]) →
      ∀ defaults, parse raw defaults = defaults) ∧
    ∀ raw defaults, parse raw (parse raw defaults) = parse raw defaults :=
  ⟨parse_append, epic_parse, id_parse, seq_parse, fun _ => parse_of_unnamed, parse_parse⟩

/-- An epic that is taken away stays so, and an unreadable place leaves the one before it. -/
theorem lists_act_on_attributes_unreadable :
    let idle := " garbage,, color = red"
    let list := "seq=2, epic = A=B ,epic= ,seq=9223372036854775808"
    assignments idle = [("color", ['r', 'e', 'd'])] ∧
      (∀ defaults, parse idle defaults = defaults) ∧
      parse (list ++ "," ++ idle) { epic := some "Auth", seq := 7, id := some "login" } =
        { epic := none, seq := 2, id := some "login" } := by
  intro idle list
  have read : assignments idle = [("color", ['r', 'e', 'd'])] := by decide
  have does := lists_act_on_attributes
  have nothing := does.2.2.2.2.1 idle (by rw [read]; decide)
  refine ⟨read, nothing, ?_⟩
  rw [does.1, nothing]
  apply eq_of_parts
  · rw [does.2.1]
    decide
  · rw [does.2.2.2.1]
    decide
  · rw [does.2.2.1]
    decide

end Waymark.Attributes
