import Waymark.Proofs.Workspace.Scan
import Waymark.Workspace.Basic

set_option autoImplicit false

/-! Scans of given texts. The documents of a scan are the different paths of its list, each as it was
written first, up to as many as it may index. What a path has is the index of the text that was given
last for it, also if that came after the documents that were visited. -/

namespace Waymark

namespace Path

/-- The different paths of a list in its order, each as it is written first. -/
def firstWritten : List Path → List Path
  | [] => []
  | path :: rest => path :: (firstWritten rest).filter (!path.same ·)

theorem same_left {a b : Path} (same : a.same b = true) (path : Path) :
    a.same path = b.same path := by
  rw [same_iff] at same
  unfold Path.same
  rw [same]

theorem firstWritten_append (first second : List Path) :
    firstWritten (first ++ second) =
      firstWritten first ++ (firstWritten second).filter fun path => !first.any (·.same path) := by
  induction first with
  | nil => simp [firstWritten]
  | cons path rest ih =>
      rw [List.cons_append, firstWritten, ih, firstWritten, List.filter_append, List.filter_filter,
        List.cons_append]
      congr 2
      apply List.filter_congr
      intro other _
      rw [List.any_cons, Bool.not_or]

theorem firstWritten_concat (paths : List Path) (path : Path) :
    firstWritten (paths ++ [path]) =
      firstWritten paths ++ if paths.any (·.same path) then [] else [path] := by
  rw [firstWritten_append]
  change _ ++ [path].filter _ = _
  rw [List.filter_singleton]
  cases paths.any (·.same path) <;> rfl

theorem firstWritten_prefix {first second : List Path} (begins : first <+: second) :
    firstWritten first <+: firstWritten second := by
  obtain ⟨rest, rfl⟩ := begins
  rw [firstWritten_append]
  exact List.prefix_append _ _

end Path

/-- The text that a list gives last for a path, however the path is written there. -/
def MemorySource.lastText (documents : List (Path × String)) (path : Path) : Option String :=
  (documents.reverse.find? fun entry => path.same entry.1).map (·.2)

namespace Scan

open Waymark.Path (firstWritten)

/-! ### Which documents are indexed -/

section Keys

variable {parser : Parser} {source : Source} {documents taken : List Path} {scan : Scan}

theorem HasTaken.isSome_find?_iff (hasTaken : HasTaken parser source documents taken scan)
    (path : Path) : (scan.indexed.find? path).isSome =
      (taken.filter (readable source)).any (·.same path) := by
  rw [Bool.eq_iff_iff, hasTaken.lookups, isSome_lastIndex_iff, List.mem_map, List.any_eq_true]
  apply exists_congr
  intro document
  rw [Path.same_iff]

theorem HasTaken.keys_step (hasTaken : HasTaken parser source documents taken scan)
    (keys : scan.indexed.keys.Perm (firstWritten (taken.filter (readable source))))
    {document : Path} {pending : List Path} (more : scan.isDone = false)
    (next : scan.pending = document :: pending) :
    (scan.step parser source).indexed.keys.Perm
      (firstWritten ((taken ++ [document]).filter (readable source))) := by
  rw [List.filter_append, List.filter_singleton]
  cases loaded : loadDocument parser source document with
  | error error =>
      rw [step_of_error more next loaded, not_readable_of_error loaded, cond_false, List.append_nil]
      exact keys
  | ok index =>
      rw [step_of_ok more next loaded, readable_of_ok loaded, cond_true, Path.firstWritten_concat,
        ← hasTaken.isSome_find?_iff]
      have added := SortedMap.keys_insert_perm scan.indexed document index
      cases known : (scan.indexed.find? document).isSome with
      | true =>
          rw [known, if_pos rfl] at added
          rw [if_pos rfl, List.append_nil]
          exact added.trans keys
      | false =>
          rw [known, if_neg Bool.false_ne_true] at added
          rw [if_neg Bool.false_ne_true]
          exact added.trans ((keys.cons document).trans (List.perm_append_singleton _ _).symm)

theorem keys_iterate (parser : Parser) (source : Source) (documents : List Path)
    (maxFiles batchSize : Nat) {count : Nat}
    (within : count ≤ (visited source maxFiles documents).length) :
    ((step parser source)^[count] (start documents maxFiles batchSize)).indexed.keys.Perm
      (firstWritten ((documents.take count).filter (readable source))) := by
  induction count with
  | zero => exact List.Perm.refl _
  | succ count ih =>
      have hasTaken := hasTaken_iterate parser source documents maxFiles batchSize
        (Nat.le_of_succ_le within)
      have inside := within.trans (visited_begins source maxFiles documents).length_le
      have limit := maxFiles_iterate parser source (start documents maxFiles batchSize) count
      rw [Function.iterate_succ_apply']
      obtain ⟨more, next⟩ := goes_on_of_lt hasTaken (by rw [limit]; exact within) inside
      have extended := hasTaken.keys_step (ih (Nat.le_of_succ_le within)) more next
      rw [List.take_append_getElem] at extended
      exact extended

/-- A scan of documents that can all be read indexes as many different ones as it may, from the
first. -/
theorem keys_run (parser : Parser) {source : Source} {documents : List Path}
    (allReadable : ∀ document, document ∈ documents → readable source document = true)
    (maxFiles batchSize : Nat) :
    ((start documents maxFiles batchSize).run parser source).indexed.keys.Perm
      ((firstWritten documents).take maxFiles) := by
  have begins := visited_begins source maxFiles documents
  have hasTaken := hasTaken_iterate parser source documents maxFiles batchSize
    (Nat.le_refl (visited source maxFiles documents).length)
  have keys := keys_iterate parser source documents maxFiles batchSize
    (Nat.le_refl (visited source maxFiles documents).length)
  have small := size_iterate_start_le parser source documents maxFiles batchSize
    (visited source maxFiles documents).length
  rw [take_length_visited] at hasTaken keys
  have visitedReadable : (visited source maxFiles documents).filter (readable source) =
      visited source maxFiles documents :=
    List.filter_eq_self.mpr fun document member => allReadable document (begins.subset member)
  rw [visitedReadable] at keys
  rw [run_start_eq]
  have count : (firstWritten (visited source maxFiles documents)).length =
      readableCount source (visited source maxFiles documents) := by
    rw [← keys.length_eq, ← hasTaken.size_eq]
    exact List.length_map _
  rw [hasTaken.size_eq, ← count] at small
  have first := List.prefix_iff_eq_take.mp (Path.firstWritten_prefix begins)
  refine keys.trans (List.Perm.of_eq ?_)
  rcases enough_visited source maxFiles documents with enough | all
  · rw [first, Nat.le_antisymm small (by rw [count]; exact enough)]
  · rw [all] at small
    rw [all, List.take_of_length_le small]

end Keys

end Scan

namespace MemorySource

/-! ### Which text a document has -/

theorem find?_ofList (documents : List (Path × String)) (path : Path) :
    (SortedMap.ofList documents).find? path = lastText documents path := by
  unfold SortedMap.ofList lastText
  induction documents using List.reverseRecOn with
  | nil => rfl
  | append_singleton earlier last ih =>
      rw [List.foldl_append, List.foldl_cons, List.foldl_nil, SortedMap.find?_insert,
        SortedMap.find?_erase, ih, List.reverse_append, List.reverse_singleton,
        List.singleton_append, List.find?_cons]
      by_cases equal : compare path last.1 = .eq
      · rw [if_pos equal, (Path.same_iff_compare path last.1).mpr equal]
        rfl
      · rw [if_neg equal, if_neg equal,
          Bool.eq_false_iff.mpr fun written => equal ((Path.same_iff_compare _ _).mp written)]

theorem lastText_of_same (documents : List (Path × String)) {path other : Path}
    (same : path.same other = true) : lastText documents path = lastText documents other := by
  unfold lastText
  rw [funext fun entry : Path × String => Path.same_left same entry.1]

theorem exists_lastText {documents : List (Path × String)} {path : Path}
    (listed : path ∈ documents.map (·.1)) : ∃ text, lastText documents path = some text := by
  obtain ⟨entry, member, rfl⟩ := List.mem_map.mp listed
  apply Option.isSome_iff_exists.mp
  unfold lastText
  rw [Option.isSome_map, List.find?_isSome]
  exact ⟨entry, List.mem_reverse.mpr member, (Path.same_iff entry.1 entry.1).mpr rfl⟩

theorem read_of_lastText {documents : List (Path × String)} {path : Path} {text : String}
    (given : lastText documents path = some text) :
    read (SortedMap.ofList documents) path = .ok text := by
  unfold read
  rw [find?_ofList, given]

theorem readable_of_listed {documents : List (Path × String)} {path : Path}
    (listed : path ∈ documents.map (·.1)) :
    Scan.readable (read (SortedMap.ofList documents)) path = true := by
  obtain ⟨text, given⟩ := exists_lastText listed
  rw [Scan.readable, read_of_lastText given]
  rfl

/-- The index of a document that a scan has read is that of its last text. -/
theorem exists_of_lastIndex {parser : Parser} {documents : List (Path × String)}
    {taken : List Path} (within : ∀ document, document ∈ taken → document ∈ documents.map (·.1))
    {path : Path} {index : Index}
    (found : Scan.lastIndex parser (read (SortedMap.ofList documents)) taken path = some index) :
    ∃ spelled text, spelled ∈ documents.map (·.1) ∧ path.same spelled = true ∧
      lastText documents path = some text ∧ index = Index.ofText parser spelled text := by
  obtain ⟨document, member, loaded⟩ := List.exists_of_findSome?_eq_some found
  obtain ⟨known, same⟩ := List.mem_filter.mp member
  have listed := within document (List.mem_reverse.mp known)
  obtain ⟨text, given⟩ := exists_lastText listed
  refine ⟨document, text, listed, same, (lastText_of_same documents same).trans given, ?_⟩
  rw [loadDocument, read_of_lastText given] at loaded
  exact (Option.some.inj loaded).symm

end MemorySource

namespace Workspace

/-- Whatever a workspace held, a scan of given texts leaves it loaded with the first different paths
of the list, each as it was written first, in path order; there are as many as the scan may index, or
all if they are fewer. Each has the index of the text that the list gives last for it, wherever it
stands in the list. -/
theorem scan_takes_first_paths (workspace : Workspace) (parser : Parser)
    (documents : List (Path × String)) (maxFiles : Nat) :
    let scanned := workspace.rescan parser documents maxFiles
    let kept := (Path.firstWritten (documents.map (·.1))).take maxFiles
    scanned.status = .loaded ∧
      SortedMap.Ascending scanned.documents.entries ∧
      scanned.documents.keys.Perm kept ∧
      ∀ path, if kept.any path.same then
          ∃ spelled text, spelled ∈ documents.map (·.1) ∧ path.same spelled = true ∧
            MemorySource.lastText documents path = some text ∧
            scanned.find? path = some (Index.ofText parser spelled text)
        else scanned.find? path = none := by
  intro scanned kept
  let source := MemorySource.read (SortedMap.ofList documents)
  let paths := documents.map (·.1)
  have hasTaken := Scan.hasTaken_iterate parser source paths maxFiles Scan.defaultBatchSize
    (Nat.le_refl (Scan.visited source maxFiles paths).length)
  rw [Scan.take_length_visited, ← Scan.run_start_eq] at hasTaken
  have keys : scanned.documents.keys.Perm kept :=
    Scan.keys_run parser (fun _ => MemorySource.readable_of_listed) maxFiles Scan.defaultBatchSize
  refine ⟨rfl, scanned.documents.ascending, keys, ?_⟩
  intro path
  have found : (scanned.find? path).isSome = kept.any path.same := by
    rw [Bool.eq_iff_iff, List.any_eq_true]
    refine (SortedMap.isSome_find?_iff scanned.documents path).trans (exists_congr fun key => ?_)
    rw [keys.mem_iff, Path.same_iff_compare]
  split
  · rename_i named
    rw [named] at found
    obtain ⟨index, stored⟩ := Option.isSome_iff_exists.mp found
    have last := (hasTaken.lookups path).symm.trans stored
    obtain ⟨spelled, text, listed, same, given, equal⟩ := MemorySource.exists_of_lastIndex
      (fun _ member => (Scan.visited_begins source maxFiles paths).subset member) last
    exact ⟨spelled, text, listed, same, given, equal ▸ stored⟩
  · rename_i unnamed
    rw [Bool.not_eq_true] at unnamed
    rw [unnamed] at found
    exact Option.isNone_iff_eq_none.mp (Option.isSome_eq_false_iff.mp found)

example : Path.firstWritten [⟨"b"⟩, ⟨"a//"⟩, ⟨"a"⟩, ⟨"b/"⟩, ⟨"c"⟩] = [⟨"b"⟩, ⟨"a//"⟩, ⟨"c"⟩] := by
  decide

end Workspace

end Waymark
