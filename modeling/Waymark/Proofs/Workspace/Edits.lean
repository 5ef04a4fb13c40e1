import Mathlib.Data.List.Induction
import Waymark.Proofs.Workspace.Epic

set_option autoImplicit false

/-! Workspaces after documents were stored and dropped. What a path has is decided by the last write
to it, however the path was written, and what is derived from a workspace by what its paths have: two
workspaces with the same last writes differ in the spelling of their paths only. -/

namespace Waymark.Workspace

inductive Edit where
  | insert (document : Path) (index : Index)
  | remove (document : Path)

namespace Edit

def document : Edit → Path
  | insert document _ => document
  | remove document => document

def index? : Edit → Option Index
  | insert _ index => some index
  | remove _ => none

end Edit

def edit (workspace : Workspace) : Edit → Workspace
  | .insert document index => workspace.insert document index
  | .remove document => workspace.remove document

def edited (edits : List Edit) : Workspace := edits.foldl edit {}

def lastWrite (edits : List Edit) (path : Path) : Option Index :=
  (edits.reverse.find? fun edit => path.same edit.document).bind Edit.index?

section Edits

variable {workspace : Workspace} {edits : List Edit}

theorem find?_edit (workspace : Workspace) (edit : Edit) (path : Path) :
    (workspace.edit edit).find? path =
      if compare path edit.document = .eq then edit.index? else workspace.find? path := by
  cases edit with
  | insert document index => exact SortedMap.find?_insert workspace.documents document path index
  | remove document => exact SortedMap.find?_erase workspace.documents document path

theorem lastWrite_append (edits : List Edit) (edit : Edit) (path : Path) :
    lastWrite (edits ++ [edit]) path =
      if compare path edit.document = .eq then edit.index? else lastWrite edits path := by
  unfold lastWrite
  rw [List.reverse_append, List.reverse_singleton, List.singleton_append, List.find?_cons]
  have same := Path.same_iff_compare path edit.document
  by_cases equal : compare path edit.document = .eq
  · rw [same.mpr equal, if_pos equal]
    rfl
  · rw [if_neg equal, Bool.eq_false_iff.mpr fun written => equal (same.mp written)]

/-- Edits decide what the paths have that they write to, and leave the others alone. -/
theorem find?_foldl_edit (workspace : Workspace) (edits : List Edit) (path : Path) :
    (edits.foldl edit workspace).find? path =
      if ∃ edit ∈ edits, compare path edit.document = .eq then lastWrite edits path
      else workspace.find? path := by
  induction edits using List.reverseRecOn with
  | nil => simp
  | append_singleton earlier last ih =>
      rw [List.foldl_append, List.foldl_cons, List.foldl_nil, find?_edit, lastWrite_append, ih]
      by_cases written : compare path last.document = .eq
      · have among : ∃ edit ∈ earlier ++ [last], compare path edit.document = .eq :=
          ⟨last, List.mem_append_right _ List.mem_cons_self, written⟩
        rw [if_pos written, if_pos among, if_pos written]
      · have among : (∃ edit ∈ earlier ++ [last], compare path edit.document = .eq) ↔
            ∃ edit ∈ earlier, compare path edit.document = .eq := by
          simp [or_and_right, exists_or, written]
        rw [if_neg written, if_neg written]
        simp only [among]

theorem find?_edited (edits : List Edit) (path : Path) :
    (edited edits).find? path = lastWrite edits path := by
  unfold edited
  induction edits using List.reverseRecOn with
  | nil => rfl
  | append_singleton earlier last ih =>
      rw [List.foldl_append, List.foldl_cons, List.foldl_nil, find?_edit, lastWrite_append, ih]

end Edits

/-! ### What is derived from a workspace -/

/-- Two listings of one document, whose path may be written in two ways. -/
def Alike (first second : DocumentView) : Prop :=
  first.document.same second.document = true ∧
    { first with document := second.document } = second

section Derived

variable {first second : Workspace}

/-- The same documents in the same order, but for the way in which their paths are written. -/
def Respelled (first second : Workspace) : Prop :=
  List.Forall₂ (fun entry other => compare entry.1 other.1 = .eq ∧ entry.2 = other.2)
    first.documents.entries second.documents.entries

theorem Respelled.epics (respelled : first.Respelled second) : first.epics = second.epics := by
  have values : first.documents.values = second.documents.values := by
    unfold SortedMap.values
    rw [← List.forall₂_eq_eq_eq, List.forall₂_map_left_iff, List.forall₂_map_right_iff]
    exact respelled.imp fun _ _ same => same.2
  unfold Workspace.epics visibleRoots
  rw [values]

theorem Respelled.views (respelled : first.Respelled second) (hierarchy : Bool) :
    List.Forall₂ Alike (first.views hierarchy) (second.views hierarchy) := by
  unfold Workspace.views
  rw [List.forall₂_map_left_iff, List.forall₂_map_right_iff]
  refine (List.rel_filter ?_ respelled).imp ?_
  · intro entry other same
    dsimp only
    rw [same.2]
  · intro entry other same
    obtain ⟨document, index⟩ := entry
    obtain ⟨otherDocument, otherIndex⟩ := other
    obtain ⟨written, rfl⟩ := same
    exact ⟨(Path.same_iff_compare document otherDocument).mpr written, rfl⟩

end Derived

/-- What is derived from a workspace does not depend on the order in which documents were stored and
dropped. The documents stand in path order, and each has the index of the last write to its path;
with the same last writes the epics and what continues them are the same, and so are the listings,
but for the way in which a path is written. -/
theorem views_follow_last_writes :
    (∀ edits, SortedMap.Ascending (edited edits).documents.entries) ∧
    (∀ edits path, (edited edits).find? path = lastWrite edits path) ∧
    ∀ edits others, (∀ path, lastWrite edits path = lastWrite others path) →
      (edited edits).epics = (edited others).epics ∧
      (∀ seqStep, (edited edits).epicCompletions seqStep = (edited others).epicCompletions seqStep) ∧
      ∀ hierarchy,
        List.Forall₂ Alike ((edited edits).views hierarchy) ((edited others).views hierarchy) := by
  refine ⟨fun edits => (edited edits).documents.ascending, find?_edited, ?_⟩
  intro edits others agree
  have respelled : (edited edits).Respelled (edited others) := by
    apply SortedMap.forall₂_of_find?
    intro path
    exact (find?_edited edits path).trans ((agree path).trans (find?_edited others path).symm)
  refine ⟨respelled.epics, ?_, respelled.views⟩
  intro seqStep
  unfold epicCompletions
  rw [respelled.epics]

/-- A document that is stored twice keeps its first spelling and has its last index. -/
theorem views_follow_last_writes_respelled :
    let edits : List Edit :=
      [.insert ⟨"b"⟩ (indexOf ⟨"b"⟩ 2), .insert ⟨"a"⟩ (indexOf ⟨"a"⟩ 1)]
    let others : List Edit :=
      [.insert ⟨"a//"⟩ .empty, .insert ⟨"b"⟩ (indexOf ⟨"b"⟩ 2), .insert ⟨"a"⟩ (indexOf ⟨"a"⟩ 1)]
    (∀ path, lastWrite edits path = lastWrite others path) ∧
      (edited edits).epics = (edited others).epics ∧
      (edited edits).documents.keys = [⟨"a"⟩, ⟨"b"⟩] ∧
      (edited others).documents.keys = [⟨"a//"⟩, ⟨"b"⟩] := by
  intro edits others
  have agree : ∀ path, lastWrite edits path = lastWrite others path := by
    intro path
    have spelling : path.same ⟨"a//"⟩ = path.same ⟨"a"⟩ := rfl
    simp only [lastWrite, edits, others, List.reverse_cons, List.reverse_nil, List.nil_append,
      List.cons_append, List.find?_cons, Edit.document, spelling]
    cases path.same ⟨"a"⟩ <;> cases path.same ⟨"b"⟩ <;> rfl
  exact ⟨agree, (views_follow_last_writes.2.2 edits others agree).1, rfl, rfl⟩

end Waymark.Workspace
