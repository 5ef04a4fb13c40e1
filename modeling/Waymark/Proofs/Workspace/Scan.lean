import Mathlib.Data.List.Dedup
import Mathlib.Data.List.Infix
import Mathlib.Logic.Function.Iterate
import Waymark.Workspace.Scan
import Waymark.Proofs.Data.SortedMap
import Waymark.Path.Order

set_option autoImplicit false

/-! A scan in batches is a scan document by document. What a scan has done is told by the documents
that it has taken from its list, and it takes the shortest beginning of the list that holds as many
different documents as it may index, or the whole list. The size of a batch changes only when it
stops in between. -/

namespace Waymark.Scan

def readable (source : Source) (document : Path) : Bool := (source document).isOk

def readableCount (source : Source) (documents : List Path) : Nat :=
  ((documents.filter (readable source)).map Path.components).dedup.length

/-- The shortest beginning of a list with a number of different documents that can be read, and the
whole list if there is none. -/
def visited (source : Source) (maxFiles : Nat) (documents : List Path) : List Path :=
  (documents.inits.find? fun taken => maxFiles ≤ readableCount source taken).getD documents

/-- The index of the last document of a list that is a way to write a path and can be read. -/
def lastIndex (parser : Parser) (source : Source) (documents : List Path) (path : Path) :
    Option Index :=
  (documents.reverse.filter path.same).findSome? fun document =>
    (loadDocument parser source document).toOption

structure HasTaken (parser : Parser) (source : Source) (documents taken : List Path)
    (scan : Scan) : Prop where
  rest : taken ++ scan.pending = documents
  written : ∀ key, key ∈ scan.indexed.keys → key ∈ taken
  lookups : ∀ path, scan.indexed.find? path = lastIndex parser source taken path
  failed : scan.failed = taken.countP fun document => !readable source document

section Lists

variable {parser : Parser} {source : Source}

theorem isSome_loadDocument (parser : Parser) (source : Source) (document : Path) :
    (loadDocument parser source document).toOption.isSome = readable source document := by
  unfold loadDocument readable
  cases source document <;> rfl

theorem readable_of_ok {document : Path} {index : Index}
    (loaded : loadDocument parser source document = .ok index) :
    readable source document = true := by
  rw [← isSome_loadDocument parser, loaded]
  rfl

theorem not_readable_of_error {document : Path} {error : SourceError}
    (loaded : loadDocument parser source document = .error error) :
    readable source document = false := by
  rw [← isSome_loadDocument parser, loaded]
  rfl

theorem lastIndex_append_of_error {document : Path} {error : SourceError}
    (loaded : loadDocument parser source document = .error error) (taken : List Path)
    (path : Path) :
    lastIndex parser source (taken ++ [document]) path = lastIndex parser source taken path := by
  unfold lastIndex
  rw [List.reverse_append, List.reverse_singleton, List.singleton_append, List.filter_cons]
  split
  · rw [List.findSome?_cons, loaded]
    rfl
  · rfl

theorem lastIndex_append_of_ok {document : Path} {index : Index}
    (loaded : loadDocument parser source document = .ok index) (taken : List Path) (path : Path) :
    lastIndex parser source (taken ++ [document]) path =
      if compare path document = .eq then some index else lastIndex parser source taken path := by
  unfold lastIndex
  rw [List.reverse_append, List.reverse_singleton, List.singleton_append, List.filter_cons]
  have same := Path.same_iff_compare path document
  by_cases equal : compare path document = .eq
  · rw [if_pos (same.mpr equal), if_pos equal, List.findSome?_cons, loaded]
    rfl
  · rw [if_neg (fun written => equal (same.mp written)), if_neg equal]

theorem isSome_lastIndex_iff (parser : Parser) (source : Source) (documents : List Path)
    (path : Path) :
    (lastIndex parser source documents path).isSome = true ↔
      path.components ∈ (documents.filter (readable source)).map Path.components := by
  unfold lastIndex
  rw [List.findSome?_isSome_iff, List.mem_map]
  apply exists_congr
  intro document
  rw [isSome_loadDocument, List.mem_filter, List.mem_filter, List.mem_reverse, Path.same_iff]
  constructor
  · rintro ⟨⟨member, same⟩, read⟩
    exact ⟨⟨member, read⟩, same.symm⟩
  · rintro ⟨⟨member, read⟩, same⟩
    exact ⟨⟨member, same.symm⟩, read⟩

/-- Among documents each of which is written in one way, that of a path is the last of its own. -/
theorem lastIndex_of_named {documents : List Path} {path : Path}
    (named : ∀ document, document ∈ documents → path.same document = true → document = path)
    (listed : path ∈ documents ∨ readable source path = false) :
    lastIndex parser source documents path = (loadDocument parser source path).toOption := by
  have only : ∀ document, document ∈ documents.reverse.filter path.same → document = path := by
    intro document member
    obtain ⟨known, same⟩ := List.mem_filter.mp member
    exact named document (List.mem_reverse.mp known) same
  cases found : lastIndex parser source documents path with
  | some index =>
      obtain ⟨document, member, loaded⟩ := List.exists_of_findSome?_eq_some found
      rw [only document member] at loaded
      exact loaded.symm
  | none =>
      rcases listed with member | unread
      · have own : path ∈ documents.reverse.filter path.same :=
          List.mem_filter.mpr ⟨List.mem_reverse.mpr member, (Path.same_iff path path).mpr rfl⟩
        exact (List.findSome?_eq_none_iff.mp found path own).symm
      · rw [← isSome_loadDocument parser, Option.isSome_eq_false_iff, Option.isNone_iff_eq_none]
          at unread
        exact unread.symm

theorem readableCount_le_length (source : Source) (documents : List Path) :
    readableCount source documents ≤ documents.length := by
  unfold readableCount
  calc ((documents.filter (readable source)).map Path.components).dedup.length
      ≤ ((documents.filter (readable source)).map Path.components).length :=
        (List.dedup_sublist _).length_le
    _ = (documents.filter (readable source)).length := List.length_map _
    _ ≤ documents.length := List.length_filter_le _ _

theorem visited_begins (source : Source) (maxFiles : Nat) (documents : List Path) :
    visited source maxFiles documents <+: documents := by
  unfold visited
  cases found : documents.inits.find? fun taken => maxFiles ≤ readableCount source taken with
  | none => exact List.prefix_refl documents
  | some taken => exact (List.mem_inits _ _).mp (List.mem_of_find?_eq_some found)

theorem take_length_visited (source : Source) (maxFiles : Nat) (documents : List Path) :
    documents.take (visited source maxFiles documents).length =
      visited source maxFiles documents :=
  (List.prefix_iff_eq_take.mp (visited_begins source maxFiles documents)).symm

theorem enough_visited (source : Source) (maxFiles : Nat) (documents : List Path) :
    maxFiles ≤ readableCount source (visited source maxFiles documents) ∨
      visited source maxFiles documents = documents := by
  unfold visited
  cases found : documents.inits.find? fun taken => maxFiles ≤ readableCount source taken with
  | none => exact Or.inr rfl
  | some taken =>
      have enough := List.find?_some found
      exact Or.inl (of_decide_eq_true enough)

theorem visited_of_few {source : Source} {maxFiles : Nat} {documents : List Path}
    (few : documents.length ≤ maxFiles) : visited source maxFiles documents = documents := by
  rcases enough_visited source maxFiles documents with enough | all
  · apply (visited_begins source maxFiles documents).eq_of_length
    have within := (visited_begins source maxFiles documents).length_le
    have counted := readableCount_le_length source (visited source maxFiles documents)
    omega
  · exact all

theorem readableCount_lt_of_lt_visited {source : Source} {maxFiles : Nat} {documents : List Path}
    {count : Nat} (before : count < (visited source maxFiles documents).length) :
    readableCount source (documents.take count) < maxFiles := by
  have inside := Nat.lt_of_lt_of_le before (visited_begins source maxFiles documents).length_le
  unfold visited at before
  cases found : documents.inits.find? fun taken => maxFiles ≤ readableCount source taken with
  | none =>
      have few := List.find?_eq_none.mp found (documents.take count)
        ((List.mem_inits _ _).mpr ⟨_, List.take_append_drop count documents⟩)
      simpa using few
  | some taken =>
      rw [found, Option.getD_some] at before
      obtain ⟨_, place, within, atPlace, few⟩ := List.find?_eq_some_iff_getElem.mp found
      rw [List.getElem_inits] at atPlace
      rw [← atPlace, List.length_take] at before
      have earlier := few count (by omega)
      rw [List.getElem_inits] at earlier
      simpa using earlier

end Lists

def withBatchSize (scan : Scan) (batchSize : Nat) : Scan := { scan with batchSize }

/-! ### What a scan has done -/

section Steps

variable {parser : Parser} {source : Source} {documents taken : List Path} {scan : Scan}

/-- Each different document that could be read is indexed once. -/
theorem HasTaken.size_eq (hasTaken : HasTaken parser source documents taken scan) :
    scan.indexed.size = readableCount source taken := by
  have keys : (scan.indexed.keys.map Path.components).Nodup := by
    unfold SortedMap.keys
    rw [List.map_map]
    refine List.pairwise_map.mpr (List.Pairwise.imp ?_ scan.indexed.ascending)
    intro first second before same
    rw [(Path.compare_eq_iff first.1 second.1).mpr same] at before
    cases before
  -- A key and a document that it stands for may be written differently, with the same components.
  have members : ∀ components, components ∈ scan.indexed.keys.map Path.components ↔
      components ∈ ((taken.filter (readable source)).map Path.components).dedup := by
    intro components
    rw [List.mem_dedup]
    constructor
    · intro member
      obtain ⟨key, listed, rfl⟩ := List.mem_map.mp member
      rw [← isSome_lastIndex_iff parser source, ← hasTaken.lookups,
        SortedMap.isSome_find?_iff]
      exact ⟨key, listed, Std.ReflCmp.compare_self⟩
    · intro member
      obtain ⟨document, _, rfl⟩ := List.mem_map.mp member
      rw [← isSome_lastIndex_iff parser source, ← hasTaken.lookups,
        SortedMap.isSome_find?_iff] at member
      obtain ⟨key, listed, same⟩ := member
      rw [(Path.compare_eq_iff document key).mp same]
      exact List.mem_map_of_mem listed
  have lengths := ((List.perm_ext_iff_of_nodup keys (List.nodup_dedup _)).mpr members).length_eq
  unfold SortedMap.keys at lengths
  rw [List.length_map, List.length_map] at lengths
  exact lengths

theorem hasTaken_start (documents : List Path) (maxFiles batchSize : Nat) :
    HasTaken parser source documents [] (start documents maxFiles batchSize) where
  rest := rfl
  written := by
    intro key member
    cases member
  lookups := fun _ => rfl
  failed := rfl

theorem step_of_isDone (done : scan.isDone = true) : scan.step parser source = scan := by
  unfold step
  rw [if_pos done]

theorem step_of_ok {document : Path} {pending : List Path} {index : Index}
    (more : scan.isDone = false) (next : scan.pending = document :: pending)
    (loaded : loadDocument parser source document = .ok index) :
    scan.step parser source =
      { scan with pending, indexed := scan.indexed.insert document index } := by
  unfold step
  rw [more, if_neg Bool.false_ne_true, next]
  simp only [loaded]

theorem step_of_error {document : Path} {pending : List Path} {error : SourceError}
    (more : scan.isDone = false) (next : scan.pending = document :: pending)
    (loaded : loadDocument parser source document = .error error) :
    scan.step parser source = { scan with pending, failed := scan.failed + 1 } := by
  unfold step
  rw [more, if_neg Bool.false_ne_true, next]
  simp only [loaded]

theorem exists_next (more : scan.isDone = false) :
    ∃ document pending, scan.pending = document :: pending := by
  cases next : scan.pending with
  | nil =>
      unfold isDone at more
      rw [next] at more
      cases more
  | cons document pending => exact ⟨document, pending, rfl⟩

theorem HasTaken.step (hasTaken : HasTaken parser source documents taken scan) {document : Path}
    {pending : List Path} (more : scan.isDone = false)
    (next : scan.pending = document :: pending) :
    HasTaken parser source documents (taken ++ [document]) (scan.step parser source) := by
  have rest : (taken ++ [document]) ++ pending = documents := by
    rw [List.append_assoc, List.singleton_append, ← next]
    exact hasTaken.rest
  cases loaded : loadDocument parser source document with
  | ok index =>
      rw [step_of_ok more next loaded]
      refine ⟨rest, ?_, ?_, ?_⟩
      · intro key member
        rcases SortedMap.mem_keys_insert member with equal | known
        · exact List.mem_append_right taken (List.mem_singleton.mpr equal)
        · exact List.mem_append_left _ (hasTaken.written key known)
      · intro path
        rw [SortedMap.find?_insert, lastIndex_append_of_ok loaded, hasTaken.lookups]
      · rw [List.countP_append, List.countP_singleton, readable_of_ok loaded]
        exact hasTaken.failed
  | error error =>
      rw [step_of_error more next loaded]
      refine ⟨rest, ?_, ?_, ?_⟩
      · intro key known
        exact List.mem_append_left _ (hasTaken.written key known)
      · intro path
        rw [lastIndex_append_of_error loaded]
        exact hasTaken.lookups path
      · rw [List.countP_append, List.countP_singleton, not_readable_of_error loaded]
        exact congrArg (· + 1) hasTaken.failed

theorem HasTaken.isDone_iff (hasTaken : HasTaken parser source documents taken scan) :
    scan.isDone = true ↔ taken = documents ∨ scan.maxFiles ≤ readableCount source taken := by
  have all : scan.pending = [] ↔ taken = documents := by
    rw [← hasTaken.rest, eq_comm (a := taken), List.append_right_eq_self]
  unfold isDone
  rw [Bool.or_eq_true, List.isEmpty_iff, decide_eq_true_iff, all, hasTaken.size_eq]

end Steps

/-! ### Single steps -/

section Run

variable (parser : Parser) (source : Source)

theorem maxFiles_step (scan : Scan) : (scan.step parser source).maxFiles = scan.maxFiles := by
  cases more : scan.isDone with
  | true => rw [step_of_isDone more]
  | false =>
      obtain ⟨document, pending, next⟩ := exists_next more
      cases loaded : loadDocument parser source document with
      | ok index => rw [step_of_ok more next loaded]
      | error error => rw [step_of_error more next loaded]

theorem step_withBatchSize (scan : Scan) (batchSize : Nat) :
    (scan.withBatchSize batchSize).step parser source =
      (scan.step parser source).withBatchSize batchSize := by
  have same : (scan.withBatchSize batchSize).isDone = scan.isDone := rfl
  cases more : scan.isDone with
  | true => rw [step_of_isDone more, step_of_isDone (same.trans more)]
  | false =>
      obtain ⟨document, pending, next⟩ := exists_next more
      cases loaded : loadDocument parser source document with
      | ok index =>
          rw [step_of_ok more next loaded, step_of_ok (same.trans more) next loaded]
          rfl
      | error error =>
          rw [step_of_error more next loaded, step_of_error (same.trans more) next loaded]
          rfl

theorem maxFiles_iterate (scan : Scan) (count : Nat) :
    ((step parser source)^[count] scan).maxFiles = scan.maxFiles := by
  induction count with
  | zero => rfl
  | succ count ih => rw [Function.iterate_succ_apply', maxFiles_step, ih]

theorem iterate_withBatchSize (scan : Scan) (batchSize count : Nat) :
    (step parser source)^[count] (scan.withBatchSize batchSize) =
      ((step parser source)^[count] scan).withBatchSize batchSize := by
  induction count with
  | zero => rfl
  | succ count ih =>
      rw [Function.iterate_succ_apply', Function.iterate_succ_apply', ih, step_withBatchSize]

theorem batchSize_iterate (scan : Scan) (count : Nat) :
    ((step parser source)^[count] scan).batchSize = scan.batchSize := by
  have kept := congrArg batchSize (iterate_withBatchSize parser source scan scan.batchSize count)
  exact kept

theorem iterate_of_isDone {scan : Scan} (done : scan.isDone = true) (count : Nat) :
    (step parser source)^[count] scan = scan :=
  Function.iterate_fixed (step_of_isDone done) count

theorem iterate_of_le {scan : Scan} {first later : Nat}
    (done : ((step parser source)^[first] scan).isDone = true) (before : first ≤ later) :
    (step parser source)^[later] scan = (step parser source)^[first] scan := by
  obtain ⟨more, rfl⟩ := Nat.exists_eq_add_of_le' before
  rw [Function.iterate_add_apply, iterate_of_isDone parser source done]

theorem length_pending_step {scan : Scan} (more : scan.isDone = false) :
    (scan.step parser source).pending.length + 1 = scan.pending.length := by
  obtain ⟨document, pending, next⟩ := exists_next more
  cases loaded : loadDocument parser source document with
  | ok index => rw [step_of_ok more next loaded, next, List.length_cons]
  | error error => rw [step_of_error more next loaded, next, List.length_cons]

/-- As long as a scan is not done, each step has taken a document. -/
theorem length_pending_iterate {scan : Scan} {count : Nat}
    (more : ((step parser source)^[count] scan).isDone = false) :
    ((step parser source)^[count] scan).pending.length + count = scan.pending.length := by
  induction count with
  | zero => rfl
  | succ count ih =>
      rw [Function.iterate_succ_apply'] at more ⊢
      cases before : ((step parser source)^[count] scan).isDone with
      | true =>
          rw [step_of_isDone before, before] at more
          cases more
      | false =>
          have taken := length_pending_step parser source before
          have earlier := ih before
          omega

theorem isDone_iterate {scan : Scan} {count : Nat} (all : scan.pending.length ≤ count) :
    ((step parser source)^[count] scan).isDone = true := by
  cases done : ((step parser source)^[count] scan).isDone with
  | true => rfl
  | false =>
      have taken := length_pending_iterate parser source done
      have none : ((step parser source)^[count] scan).pending = [] :=
        List.eq_nil_of_length_eq_zero (by omega)
      unfold isDone at done
      rw [none] at done
      cases done

theorem isDone_eq_false_of_lt {parser : Parser} {source : Source} {documents : List Path}
    {scan : Scan} {count : Nat}
    (hasTaken : HasTaken parser source documents (documents.take count) scan)
    (before : count < (visited source scan.maxFiles documents).length) : scan.isDone = false := by
  have inside := (visited_begins source scan.maxFiles documents).length_le
  rw [Bool.eq_false_iff]
  intro done
  rcases hasTaken.isDone_iff.mp done with all | enough
  · have lengths := congrArg List.length all
    rw [List.length_take] at lengths
    omega
  · exact Nat.not_lt_of_le enough (readableCount_lt_of_lt_visited before)

/-- Before the end of what is visited, a scan goes on with the next document of its list. -/
theorem goes_on_of_lt {parser : Parser} {source : Source} {documents : List Path} {scan : Scan}
    {count : Nat} (hasTaken : HasTaken parser source documents (documents.take count) scan)
    (before : count < (visited source scan.maxFiles documents).length)
    (inside : count < documents.length) :
    scan.isDone = false ∧ scan.pending = documents[count] :: documents.drop (count + 1) := by
  refine ⟨isDone_eq_false_of_lt hasTaken before, ?_⟩
  have rest := hasTaken.rest.trans (List.take_append_drop count documents).symm
  rw [List.append_cancel_left rest, List.drop_eq_getElem_cons inside]

/-- Up to the end of what is visited, each single step takes the next document of the list. -/
theorem hasTaken_iterate (documents : List Path) (maxFiles batchSize : Nat) {count : Nat}
    (within : count ≤ (visited source maxFiles documents).length) :
    HasTaken parser source documents (documents.take count)
      ((step parser source)^[count] (start documents maxFiles batchSize)) := by
  induction count with
  | zero => exact hasTaken_start documents maxFiles batchSize
  | succ count ih =>
      have hasTaken := ih (Nat.le_of_succ_le within)
      have inside := within.trans (visited_begins source maxFiles documents).length_le
      have limit := maxFiles_iterate parser source (start documents maxFiles batchSize) count
      rw [Function.iterate_succ_apply']
      obtain ⟨more, next⟩ := goes_on_of_lt hasTaken (by rw [limit]; exact within) inside
      have extended := hasTaken.step more next
      rw [List.take_append_getElem] at extended
      exact extended

theorem isDone_iterate_start_iff (documents : List Path) (maxFiles batchSize count : Nat) :
    ((step parser source)^[count] (start documents maxFiles batchSize)).isDone = true ↔
      (visited source maxFiles documents).length ≤ count := by
  have limit := maxFiles_iterate parser source (start documents maxFiles batchSize)
  constructor
  · intro done
    by_contra early
    have before := Nat.lt_of_not_le early
    have more := isDone_eq_false_of_lt
      (hasTaken_iterate parser source documents maxFiles batchSize before.le)
      (by rw [limit]; exact before)
    rw [done] at more
    cases more
  · intro late
    have hasTaken := hasTaken_iterate parser source documents maxFiles batchSize
      (Nat.le_refl (visited source maxFiles documents).length)
    rw [take_length_visited] at hasTaken
    have atEnd : ((step parser source)^[(visited source maxFiles documents).length]
        (start documents maxFiles batchSize)).isDone = true := by
      rw [hasTaken.isDone_iff, limit]
      exact (enough_visited source maxFiles documents).symm
    rw [iterate_of_le parser source atEnd late]
    exact atEnd

theorem iterate_start_eq (documents : List Path) (maxFiles batchSize count : Nat) :
    (step parser source)^[count] (start documents maxFiles batchSize) =
      (step parser source)^[min count (visited source maxFiles documents).length]
        (start documents maxFiles batchSize) := by
  rcases Nat.le_total count (visited source maxFiles documents).length with early | late
  · rw [Nat.min_eq_left early]
  · rw [Nat.min_eq_right late]
    apply iterate_of_le parser source _ late
    exact (isDone_iterate_start_iff parser source documents maxFiles batchSize _).mpr le_rfl

theorem size_step_le {scan : Scan} (inside : scan.indexed.size ≤ scan.maxFiles) :
    (scan.step parser source).indexed.size ≤ scan.maxFiles := by
  cases more : scan.isDone with
  | true =>
      rw [step_of_isDone more]
      exact inside
  | false =>
      have room : scan.indexed.size < scan.maxFiles := by
        unfold isDone at more
        rw [Bool.or_eq_false_iff, decide_eq_false_iff_not] at more
        exact Nat.lt_of_not_le more.2
      obtain ⟨document, pending, next⟩ := exists_next more
      cases loaded : loadDocument parser source document with
      | ok index =>
          rw [step_of_ok more next loaded]
          exact Nat.le_trans (SortedMap.size_insert_le scan.indexed document index) room
      | error error =>
          rw [step_of_error more next loaded]
          exact inside

theorem size_iterate_start_le (documents : List Path) (maxFiles batchSize count : Nat) :
    ((step parser source)^[count] (start documents maxFiles batchSize)).indexed.size ≤
      maxFiles := by
  induction count with
  | zero => exact Nat.zero_le maxFiles
  | succ count ih =>
      have limit := maxFiles_iterate parser source (start documents maxFiles batchSize) count
      have grown := size_step_le parser source (ih.trans_eq limit.symm)
      rw [limit] at grown
      rw [Function.iterate_succ_apply']
      exact grown

/-! ### Batches -/

theorem steps_eq_iterate (count : Nat) (scan : Scan) :
    steps parser source count scan = (step parser source)^[count] scan := by
  induction count generalizing scan with
  | zero => rfl
  | succ count ih =>
      rw [steps, ih, Function.iterate_succ_apply]

/-- A batch is as many single steps as it may have documents. -/
theorem nextBatch_eq_iterate (scan : Scan) :
    scan.nextBatch parser source = (step parser source)^[scan.batchSize] scan := by
  unfold nextBatch batchLength
  rw [steps_eq_iterate]
  rcases Nat.le_total scan.batchSize scan.pending.length with fits | beyond
  · rw [Nat.min_eq_left fits]
  · rw [Nat.min_eq_right beyond]
    exact (iterate_of_le parser source (isDone_iterate parser source le_rfl) beyond).symm

theorem length_pending_nextBatch_lt {scan : Scan} (positive : 0 < scan.batchSize)
    (more : (scan.nextBatch parser source).isDone = false) :
    (scan.nextBatch parser source).pending.length < scan.pending.length := by
  rw [nextBatch_eq_iterate] at more ⊢
  have taken := length_pending_iterate parser source more
  omega

theorem iterate_nextBatch (calls : Nat) (scan : Scan) :
    (nextBatch parser source)^[calls] scan =
      (step parser source)^[calls * scan.batchSize] scan := by
  induction calls with
  | zero => rw [Nat.zero_mul]; rfl
  | succ calls ih =>
      rw [Function.iterate_succ_apply', ih, nextBatch_eq_iterate, batchSize_iterate,
        ← Function.iterate_add_apply, Nat.succ_mul, Nat.add_comm]

theorem nextBatch_of_isDone {scan : Scan} (done : scan.isDone = true) :
    scan.nextBatch parser source = scan := by
  rw [nextBatch_eq_iterate, iterate_of_isDone parser source done]

theorem outcome_eq_done_iff (scan : Scan) : scan.outcome = .done ↔ scan.isDone = true := by
  unfold outcome
  split <;> simp_all

/-- The loop over the batches ends when the scan is done, and not before. -/
theorem exists_runBatches (count : Nat) (scan : Scan) (bounded : scan.pending.length ≤ count)
    (positive : 0 < scan.batchSize) :
    (runBatches parser source count scan).isDone = true ∧
      ∃ taken, runBatches parser source count scan = (step parser source)^[taken] scan := by
  induction count generalizing scan with
  | zero =>
      rw [runBatches, nextBatch_eq_iterate]
      exact ⟨isDone_iterate parser source (by omega), _, rfl⟩
  | succ count ih =>
      rw [runBatches]
      split
      · rename_i done
        exact ⟨done, scan.batchSize, nextBatch_eq_iterate parser source scan⟩
      · rename_i more
        rw [Bool.not_eq_true, nextBatch_eq_iterate] at more
        have taken := length_pending_iterate parser source more
        rw [nextBatch_eq_iterate]
        have size := batchSize_iterate parser source scan scan.batchSize
        obtain ⟨done, later, same⟩ := ih ((step parser source)^[scan.batchSize] scan)
          (by omega) (by rw [size]; exact positive)
        refine ⟨done, later + scan.batchSize, ?_⟩
        rw [same, Function.iterate_add_apply]

theorem run_start_eq (documents : List Path) (maxFiles batchSize : Nat) :
    (start documents maxFiles batchSize).run parser source =
      (step parser source)^[(visited source maxFiles documents).length]
        (start documents maxFiles batchSize) := by
  unfold run
  obtain ⟨done, taken, same⟩ := exists_runBatches parser source
    (start documents maxFiles batchSize).pending.length (start documents maxFiles batchSize) le_rfl
    (Nat.le_max_right batchSize 1)
  rw [same, isDone_iterate_start_iff] at done
  rw [same, iterate_start_eq, Nat.min_eq_right done]

theorem iterate_nextBatch_start (documents : List Path) (maxFiles batchSize calls : Nat) :
    (nextBatch parser source)^[calls] (start documents maxFiles batchSize) =
      ((step parser source)^[min (calls * max batchSize 1) (visited source maxFiles documents).length]
        (start documents maxFiles 1)).withBatchSize (max batchSize 1) := by
  have resized : start documents maxFiles batchSize =
      (start documents maxFiles 1).withBatchSize (max batchSize 1) := rfl
  rw [iterate_nextBatch, iterate_start_eq, resized, iterate_withBatchSize]
  rfl

theorem isDone_iterate_nextBatch_start_iff (documents : List Path)
    (maxFiles batchSize calls : Nat) :
    ((nextBatch parser source)^[calls] (start documents maxFiles batchSize)).isDone = true ↔
      (visited source maxFiles documents).length ≤ calls * max batchSize 1 := by
  rw [iterate_nextBatch, isDone_iterate_start_iff]
  rfl

theorem hasTaken_of_isDone {documents : List Path} {maxFiles batchSize calls : Nat}
    (done : ((nextBatch parser source)^[calls]
      (start documents maxFiles batchSize)).isDone = true) :
    HasTaken parser source documents (visited source maxFiles documents)
      ((nextBatch parser source)^[calls] (start documents maxFiles batchSize)) := by
  rw [iterate_nextBatch, isDone_iterate_start_iff] at done
  rw [iterate_nextBatch, iterate_start_eq, Nat.min_eq_right done]
  have final := hasTaken_iterate parser source documents maxFiles batchSize
    (Nat.le_refl (visited source maxFiles documents).length)
  rw [take_length_visited] at final
  exact final

end Run

/-- Calls for batches go through states of the scan document by document: after any number of calls
as many documents are taken as the batches can have, up to the last that is visited. There the scan
is done, and further calls change nothing. -/
theorem batches_are_single_steps (parser : Parser) (source : Source) (documents : List Path)
    (maxFiles batchSize : Nat) :
    let whole := visited source maxFiles documents
    let single := fun count => (step parser source)^[count] (start documents maxFiles 1)
    let after := fun calls =>
      (nextBatch parser source)^[calls] (start documents maxFiles batchSize)
    (∀ count, count ≤ whole.length →
      HasTaken parser source documents (documents.take count) (single count)) ∧
    (∀ count, (single count).indexed.size ≤ maxFiles) ∧
    (∀ calls, after calls =
      (single (min (calls * max batchSize 1) whole.length)).withBatchSize (max batchSize 1)) ∧
    (∀ calls, (after calls).indexed.size ≤ maxFiles) ∧
    (∀ calls, (after calls).outcome = .done ↔ (after calls).isDone = true) ∧
    (∀ calls, (after calls).isDone = true ↔ whole.length ≤ calls * max batchSize 1) ∧
    (∃ calls, 0 < calls ∧ (after calls).outcome = .done) ∧
    (∀ calls, (after calls).isDone = true →
      HasTaken parser source documents whole (after calls) ∧
      after (calls + 1) = after calls ∧ (after (calls + 1)).outcome = .done) ∧
    (start documents maxFiles batchSize).run parser source =
      (single whole.length).withBatchSize (max batchSize 1) := by
  intro whole single after
  have states := iterate_nextBatch_start parser source documents maxFiles batchSize
  have ends := isDone_iterate_nextBatch_start_iff parser source documents maxFiles batchSize
  have progress : ∀ count, count ≤ whole.length →
      HasTaken parser source documents (documents.take count) (single count) :=
    fun count within => hasTaken_iterate parser source documents maxFiles 1 within
  have small := size_iterate_start_le parser source documents maxFiles 1
  refine ⟨progress, small, states, ?_, fun calls => outcome_eq_done_iff _, ends, ?_, ?_, ?_⟩
  · intro calls
    have same := congrArg (fun scan => scan.indexed.size) (states calls)
    exact same.trans_le (small _)
  · refine ⟨whole.length + 1, Nat.succ_pos _, (outcome_eq_done_iff _).mpr ((ends _).mpr ?_)⟩
    calc whole.length ≤ (whole.length + 1) * 1 := by omega
      _ ≤ (whole.length + 1) * max batchSize 1 :=
          Nat.mul_le_mul_left _ (Nat.le_max_right batchSize 1)
  · intro calls done
    have stays : after (calls + 1) = after calls := by
      show (nextBatch parser source)^[calls + 1] (start documents maxFiles batchSize) = after calls
      rw [Function.iterate_succ_apply']
      exact nextBatch_of_isDone parser source done
    refine ⟨hasTaken_of_isDone parser source done, stays, ?_⟩
    rw [stays]
    exact (outcome_eq_done_iff _).mpr done
  · have resized : start documents maxFiles batchSize =
        (start documents maxFiles 1).withBatchSize (max batchSize 1) := rfl
    rw [run_start_eq, resized, iterate_withBatchSize]

/-- A document that is written in two ways counts once, and one that cannot be read not at all. -/
example :
    visited (fun document => if document.text = "b" then .error (.notFound document) else .ok "") 2
      [⟨"a"⟩, ⟨"a/"⟩, ⟨"b"⟩, ⟨"c"⟩, ⟨"d"⟩] = [⟨"a"⟩, ⟨"a/"⟩, ⟨"b"⟩, ⟨"c"⟩] := by
  decide

end Waymark.Scan
