import Waymark.Proofs.Engine.Failure

set_option autoImplicit false

/-! Documents that are read again after a scan. The indexes of a workspace are up to date but for
some documents that are stale, and reading one of these again leaves the others alone. So once each
document has been read again whose text has changed, in whatever order, the workspace is the one
that a new scan finds. -/

namespace Waymark

theorem Workspace.eq_of_documents {first second : Workspace}
    (documents : first.documents = second.documents) (status : first.status = second.status) :
    first = second := by
  cases first
  cases second
  cases documents
  cases status
  rfl

namespace Engine

/-- The documents that are listed for an engine are those that can be read, and no more than it may
index. -/
structure Finds (engine : Engine) (environment : Environment) (documents : List Path) : Prop where
  listed : environment.disk.documents engine.root engine.config.workspace.matchFiles
    engine.config.workspace.excludeFiles = .ok documents
  readable : ∀ document, document ∈ documents → ∃ text, environment.source document = .ok text
  missing : ∀ document, (∀ other, other ∈ documents → document.same other = false) →
    ∃ path, environment.source document = .error (.notFound path)
  whole : ∀ document, environment.breaks document = false
  few : documents.length ≤ engine.config.workspace.maxFiles

/-- Each document of a list is always written in the same way. -/
def Named (documents : List Path) : Prop :=
  ∀ document, document ∈ documents → ∀ other, other ∈ documents → document.same other = true →
    document = other

/-- Indexes of known documents, each that of the text of its document if that is not stale. -/
structure UpToDate (parser : Parser) (source : Source) (known stale : List Path)
    (indexed : SortedMap Path Index) : Prop where
  written : ∀ key, key ∈ indexed.keys → key ∈ known
  lookups : ∀ document, document ∈ known → document ∉ stale →
    indexed.find? document = (loadDocument parser source document).toOption

section UpToDate

variable {parser : Parser} {source : Source} {known stale : List Path}
  {indexed changed : SortedMap Path Index} {document : Path}

theorem UpToDate.edit (named : Named known)
    (upToDate : UpToDate parser source known (document :: stale) indexed)
    (member : document ∈ known)
    (written : ∀ key, key ∈ changed.keys → key ∈ known)
    (edited : ∀ other, changed.find? other =
      if compare other document = .eq then (loadDocument parser source document).toOption
      else indexed.find? other) :
    UpToDate parser source known stale changed := by
  refine ⟨written, ?_⟩
  intro other otherKnown current
  rw [edited]
  by_cases same : compare other document = .eq
  -- A known document that compares as equal to this one is written like it, so it has its index.
  · rw [if_pos same,
      named other otherKnown document member ((Path.same_iff_compare _ _).mpr same)]
  · rw [if_neg same]
    apply upToDate.lookups other otherKnown
    intro waiting
    rcases List.mem_cons.mp waiting with equal | later
    · rw [equal] at same
      exact same Std.ReflCmp.compare_self
    · exact current later

theorem UpToDate.insert (named : Named known)
    (upToDate : UpToDate parser source known (document :: stale) indexed)
    (member : document ∈ known) {index : Index}
    (loaded : loadDocument parser source document = .ok index) :
    UpToDate parser source known stale (indexed.insert document index) := by
  apply upToDate.edit named member
  · intro key stored
    rcases SortedMap.mem_keys_insert stored with equal | earlier
    · rw [equal]
      exact member
    · exact upToDate.written key earlier
  · intro other
    rw [SortedMap.find?_insert, loaded]
    rfl

theorem UpToDate.erase (named : Named known)
    (upToDate : UpToDate parser source known (document :: stale) indexed)
    (member : document ∈ known) {error : SourceError}
    (lost : loadDocument parser source document = .error error) :
    UpToDate parser source known stale (indexed.erase document) := by
  apply upToDate.edit named member
  · intro key stored
    exact upToDate.written key (SortedMap.mem_keys_erase stored)
  · intro other
    rw [SortedMap.find?_erase, lost]
    rfl

/-- Documents whose texts change become stale. -/
theorem UpToDate.of_changed {before : Source}
    (upToDate : UpToDate parser before known [] indexed)
    (kept : ∀ document, document ∈ known → document ∉ stale → before document = source document) :
    UpToDate parser source known stale indexed := by
  refine ⟨upToDate.written, ?_⟩
  intro document member current
  rw [upToDate.lookups document member List.not_mem_nil]
  unfold loadDocument
  rw [kept document member current]

theorem UpToDate.unique (named : Named known) (first : UpToDate parser source known [] indexed)
    (second : UpToDate parser source known [] changed) : indexed = changed := by
  apply SortedMap.eq_of_find?
  · intro key stored
    have member : key ∈ known := stored.elim (first.written key) (second.written key)
    rw [first.lookups key member List.not_mem_nil, second.lookups key member List.not_mem_nil]
  · intro key other stored otherStored same
    exact named key (first.written key stored) other (second.written other otherStored)
      ((Path.same_iff_compare key other).mpr same)

end UpToDate

/-! ### Scans -/

section Finds

variable {engine : Engine} {environment : Environment} {documents known : List Path}

/-- A known document is listed and can be read, or it is not there. -/
theorem Finds.loads (finds : engine.Finds environment documents) (named : Named known)
    (within : ∀ document, document ∈ documents → document ∈ known) (parser : Parser)
    {document : Path} (member : document ∈ known) :
    (document ∈ documents ∧
      ∃ index, loadDocument parser environment.source document = .ok index) ∨
    (document ∉ documents ∧
      ∃ path, loadDocument parser environment.source document = .error (.notFound path)) := by
  unfold loadDocument
  by_cases listed : document ∈ documents
  · obtain ⟨text, read⟩ := finds.readable document listed
    rw [read]
    exact Or.inl ⟨listed, _, rfl⟩
  · have other : ∀ other, other ∈ documents → document.same other = false := by
      intro other otherListed
      rw [Bool.eq_false_iff]
      intro same
      have equal := named document member other (within other otherListed) same
      exact listed (equal ▸ otherListed)
    obtain ⟨path, gone⟩ := finds.missing document other
    rw [gone]
    exact Or.inr ⟨listed, path, rfl⟩

/-- A scan that is not cancelled takes all documents and shows what it found. -/
theorem Finds.scan_eq (finds : engine.Finds environment documents) {parser : Parser}
    (ready : engine.parser = some parser) (enabled : engine.config.workspace.enabled = true) :
    ∃ scan, Scan.HasTaken parser environment.source documents documents scan ∧
      engine.scan environment none =
        (engine.markScanning.publish (.ofScan scan) .workspace, .ok (.ofScan scan false)) := by
  rw [engine.scan_of_documents ready enabled finds.listed]
  have ends : Ends environment parser none
      (Scan.start documents engine.config.workspace.maxFiles Scan.defaultBatchSize) _ :=
    ends_runBatches none documents.length (Nat.le_refl documents.length)
      (Nat.le_max_right Scan.defaultBatchSize 1)
  generalize runBatches environment parser none documents.length _ = ending at ends ⊢
  cases ends with
  | cancelled count reached asked => cases asked
  | broken count reached unasked breaks =>
      obtain ⟨document, _, broken⟩ := List.any_eq_true.mp breaks
      rw [finds.whole] at broken
      cases broken
  | finished count reached unasked done =>
      have taken := Scan.hasTaken_of_isDone parser environment.source done
      rw [Scan.visited_of_few finds.few] at taken
      exact ⟨_, taken, rfl⟩

theorem Finds.upToDate (finds : engine.Finds environment documents) (named : Named known)
    (within : ∀ document, document ∈ documents → document ∈ known) {parser : Parser} {scan : Scan}
    (taken : Scan.HasTaken parser environment.source documents documents scan) :
    UpToDate parser environment.source known [] scan.indexed := by
  refine ⟨fun key stored => within key (taken.written key stored), ?_⟩
  intro document member _
  rw [taken.lookups]
  apply Scan.lastIndex_of_named
  · intro other listed same
    exact (named document member other (within other listed) same).symm
  · rcases finds.loads named within parser member with ⟨listed, _⟩ | ⟨_, path, lost⟩
    · exact Or.inl listed
    · exact Or.inr (Scan.not_readable_of_error lost)

theorem Finds.mem_keys_iff (finds : engine.Finds environment documents) (named : Named known)
    (within : ∀ document, document ∈ documents → document ∈ known) {parser : Parser}
    {indexed : SortedMap Path Index}
    (upToDate : UpToDate parser environment.source known [] indexed) (document : Path) :
    document ∈ indexed.keys ↔ document ∈ documents := by
  constructor
  · intro stored
    have member := upToDate.written document stored
    rcases finds.loads named within parser member with ⟨listed, _⟩ | ⟨_, path, lost⟩
    · exact listed
    · have found := (SortedMap.isSome_find?_iff indexed document).mpr
        ⟨document, stored, Std.ReflCmp.compare_self⟩
      rw [upToDate.lookups document member List.not_mem_nil, lost] at found
      cases found
  · intro listed
    have member := within document listed
    rcases finds.loads named within parser member with ⟨_, index, loaded⟩ | ⟨unlisted, _⟩
    · have found : (indexed.find? document).isSome = true := by
        rw [upToDate.lookups document member List.not_mem_nil, loaded]
        rfl
      obtain ⟨key, stored, same⟩ := (SortedMap.isSome_find?_iff indexed document).mp found
      rw [named document member key (upToDate.written key stored)
        ((Path.same_iff_compare document key).mpr same)]
      exact stored
    · exact absurd listed unlisted

end Finds

/-! ### Documents that are read again -/

section Refresh

variable (engine : Engine)

theorem snapshot_removeDocument (document : Path) :
    (engine.removeDocument document).1.snapshot = engine.snapshot.remove document := by
  unfold removeDocument
  cases known : engine.snapshot.contains document with
  | true => rfl
  | false =>
      unfold Workspace.remove
      rw [SortedMap.erase_of_not_contains known]
      rfl

theorem refreshDocument_of_ok {environment : Environment} {parser : Parser} {document : Path}
    {index : Index} (ready : engine.parser = some parser)
    (whole : environment.breaks document = false)
    (loaded : loadDocument parser environment.source document = .ok index) :
    engine.refreshDocument environment document =
      (engine.update (.document document) (·.insert document index), .ok ()) := by
  unfold refreshDocument
  rw [engine.requireParser_of_some ready]
  simp only [whole, Bool.false_eq_true, if_false, loaded]

theorem refreshDocument_of_notFound {environment : Environment} {parser : Parser}
    {document path : Path} (ready : engine.parser = some parser)
    (whole : environment.breaks document = false)
    (lost : loadDocument parser environment.source document = .error (.notFound path)) :
    engine.refreshDocument environment document = ((engine.removeDocument document).1, .ok ()) := by
  unfold refreshDocument
  rw [engine.requireParser_of_some ready]
  simp only [whole, Bool.false_eq_true, if_false, lost]

end Refresh

structure Refreshing (engine : Engine) (parser : Parser) (source : Source)
    (known stale : List Path) : Prop where
  ready : engine.parser = some parser
  loaded : engine.snapshot.status = .loaded
  upToDate : UpToDate parser source known stale engine.snapshot.documents

section Refreshing

variable {engine : Engine} {environment : Environment} {parser : Parser}
  {documents known stale : List Path}

theorem Refreshing.refreshDocument {document : Path} (named : Named known)
    (refreshing : engine.Refreshing parser environment.source known (document :: stale))
    (member : document ∈ known) (whole : environment.breaks document = false)
    (loads : (∃ index, loadDocument parser environment.source document = .ok index) ∨
      ∃ path, loadDocument parser environment.source document = .error (.notFound path)) :
    (engine.refreshDocument environment document).1.Refreshing parser environment.source known
      stale := by
  have settings := (engine.moves_refreshDocument environment document).sameSettings
  have ready := settings.parser.trans refreshing.ready
  rcases loads with ⟨index, loaded⟩ | ⟨path, lost⟩
  · rw [engine.refreshDocument_of_ok refreshing.ready whole loaded] at ready ⊢
    exact ⟨ready, refreshing.loaded, refreshing.upToDate.insert named member loaded⟩
  · rw [engine.refreshDocument_of_notFound refreshing.ready whole lost] at ready ⊢
    refine ⟨ready, ?_, ?_⟩
    · rw [snapshot_removeDocument]
      exact refreshing.loaded
    · rw [snapshot_removeDocument]
      exact refreshing.upToDate.erase named member lost

/-- Once all stale documents have been read again, none is stale. -/
theorem Refreshing.performAll {finder : Engine} (finds : finder.Finds environment documents)
    (named : Named known) (within : ∀ document, document ∈ documents → document ∈ known)
    (refreshing : engine.Refreshing parser environment.source known stale)
    (staleKnown : ∀ document, document ∈ stale → document ∈ known) :
    (engine.performAll (stale.map (.refresh environment))).Refreshing parser environment.source
      known [] := by
  unfold Engine.performAll
  induction stale generalizing engine with
  | nil => exact refreshing
  | cons document rest ih =>
      have member := staleKnown document List.mem_cons_self
      have loads := (finds.loads named within parser member).imp And.right And.right
      apply ih
      · exact refreshing.refreshDocument named member (finds.whole document) loads
      · intro other later
        exact staleKnown other (List.mem_cons_of_mem document later)

theorem Finds.refreshing (finds : engine.Finds environment documents) (named : Named known)
    (within : ∀ document, document ∈ documents → document ∈ known)
    (ready : engine.parser = some parser) (enabled : engine.config.workspace.enabled = true) :
    (engine.scan environment none).1.Refreshing parser environment.source known [] := by
  obtain ⟨scan, taken, scanned⟩ := finds.scan_eq ready enabled
  rw [scanned]
  exact ⟨ready, rfl, finds.upToDate named within taken⟩

end Refreshing

/-- Once each document is read again that was added, changed or deleted since a scan, in any order
and as often as one likes, the workspace is the one that an engine with the same parser finds when it
scans now: it has the documents that are there now, each indexed as its text is now, and so the same
epics and views. -/
theorem refreshes_agree_with_rescan {engine other : Engine} {parser : Parser}
    {before after : Environment} {old new refreshed : List Path}
    (ready : engine.parser = some parser) (enabled : engine.config.workspace.enabled = true)
    (otherReady : other.parser = some parser)
    (otherEnabled : other.config.workspace.enabled = true)
    (foundBefore : engine.Finds before old) (foundAfter : other.Finds after new)
    (named : Named (old ++ new ++ refreshed))
    (covered : ∀ document, document ∈ old ++ new →
      before.source document ≠ after.source document → document ∈ refreshed) :
    let updated := engine.performAll (.scan before none :: refreshed.map (.refresh after))
    let rescanned := other.perform (.scan after none)
    updated.snapshot = rescanned.snapshot ∧
    rescanned.snapshot.status = .loaded ∧
    (∀ document, document ∈ rescanned.snapshot.documents.keys ↔ document ∈ new) ∧
    (∀ document text, document ∈ new → after.source document = .ok text →
      rescanned.snapshot.find? document = some (Index.ofText parser document text)) ∧
    updated.snapshot.epics = rescanned.snapshot.epics ∧
    (∀ seqStep, updated.snapshot.epicCompletions seqStep =
      rescanned.snapshot.epicCompletions seqStep) ∧
    ∀ hierarchy, updated.snapshot.views hierarchy = rescanned.snapshot.views hierarchy := by
  intro updated rescanned
  have oldKnown : ∀ document, document ∈ old → document ∈ old ++ new ++ refreshed := by
    intro document member
    exact List.mem_append_left _ (List.mem_append_left _ member)
  have newKnown : ∀ document, document ∈ new → document ∈ old ++ new ++ refreshed := by
    intro document member
    exact List.mem_append_left _ (List.mem_append_right _ member)
  have whole : rescanned.Refreshing parser after.source (old ++ new ++ refreshed) [] :=
    foundAfter.refreshing named newKnown otherReady otherEnabled
  have scanned := foundBefore.refreshing named oldKnown ready enabled
  -- What the first scan found is still right but for the documents that are read again.
  have stale : UpToDate parser after.source (old ++ new ++ refreshed) refreshed
      (engine.scan before none).1.snapshot.documents := by
    apply scanned.upToDate.of_changed
    intro document member current
    by_contra changed
    rcases List.mem_append.mp member with earlier | later
    · exact current (covered document earlier changed)
    · exact current later
  have final : updated.Refreshing parser after.source (old ++ new ++ refreshed) [] :=
    Refreshing.performAll foundAfter named newKnown ⟨scanned.ready, scanned.loaded, stale⟩
      (fun document member => List.mem_append_right _ member)
  have same : updated.snapshot = rescanned.snapshot :=
    Workspace.eq_of_documents (final.upToDate.unique named whole.upToDate)
      (final.loaded.trans whole.loaded.symm)
  have found : ∀ document text, document ∈ new → after.source document = .ok text →
      rescanned.snapshot.find? document = some (Index.ofText parser document text) := by
    intro document text member read
    have lookup := whole.upToDate.lookups document (newKnown document member) List.not_mem_nil
    unfold loadDocument at lookup
    rw [read] at lookup
    exact lookup
  refine ⟨same, whole.loaded, foundAfter.mem_keys_iff named newKnown whole.upToDate, found,
    congrArg _ same, ?_, ?_⟩
  · intro seqStep
    rw [same]
  · intro hierarchy
    rw [same]

private theorem finds_holding (parser : Parser) {name : String} (known : name = "a" ∨ name = "b")
    (text : String) : (lister parser).Finds (holding name text) [⟨"/" ++ name⟩] := by
  refine ⟨documents_holding known text, ?_, ?_, fun _ => rfl, Nat.le_of_ble_eq_true rfl⟩
  · intro document member
    rw [List.mem_singleton.mp member]
    refine ⟨text, ?_⟩
    show MemorySource.read _ _ = _
    unfold MemorySource.read
    rw [SortedMap.find?_insert, if_pos Std.ReflCmp.compare_self]
  · intro document other
    refine ⟨document, ?_⟩
    have apart : compare document ⟨"/" ++ name⟩ ≠ .eq := by
      rw [ne_eq, ← Path.same_iff_compare, other _ (List.mem_singleton.mpr rfl)]
      exact Bool.false_ne_true
    show MemorySource.read _ _ = _
    unfold MemorySource.read
    rw [SortedMap.find?_insert, if_neg apart]
    rfl

/-- One document takes the place of another. -/
theorem refreshes_agree_with_rescan_renamed :
    ∃ engine : Engine,
      let updated := engine.performAll (.scan (holding "a" "TODO one") none ::
        [⟨"/b"⟩, ⟨"/a"⟩, ⟨"/b"⟩].map (.refresh (holding "b" "TODO two")))
      let rescanned := engine.perform (.scan (holding "b" "TODO two") none)
      updated.snapshot = rescanned.snapshot ∧
        ∀ document, document ∈ updated.snapshot.documents.keys ↔ document = ⟨"/b"⟩ := by
  obtain ⟨parser, _⟩ := Config.parser_default
  have listed : ∀ document, document ∈ [⟨"/a"⟩] ++ [⟨"/b"⟩] →
      document ∈ [(⟨"/b"⟩ : Path), ⟨"/a"⟩, ⟨"/b"⟩] := by decide
  have ready : (lister parser).parser = some parser := rfl
  obtain ⟨same, _, keys, _⟩ := refreshes_agree_with_rescan ready rfl ready rfl
    (finds_holding parser (Or.inl rfl) "TODO one") (finds_holding parser (Or.inr rfl) "TODO two")
    (by unfold Named; decide) (fun document member _ => listed document member)
  refine ⟨lister parser, same, ?_⟩
  intro document
  rw [same, keys, List.mem_singleton]
  rfl

end Engine

end Waymark
