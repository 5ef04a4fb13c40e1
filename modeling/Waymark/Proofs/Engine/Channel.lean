import Mathlib.Logic.Function.Basic
import Waymark.Proofs.Engine.Failure

set_option autoImplicit false

/-! Tasks that share an engine. Publishing takes two turns: a task swaps the workspace under a lock,
and sends it when it has let go of the lock. Turns of other tasks may come between, so workspaces can
be sent in another order than they were swapped. No change is lost from the current workspace by
that, but what was sent last may be older. -/

namespace Waymark.Engine

inductive Turn where
  | swap (task : Nat) (change : Change) (apply : Workspace → Workspace)
  | send (task : Nat)

namespace Turn

def task : Turn → Nat
  | swap task _ _ => task
  | send task => task

def apply : Turn → Workspace → Workspace
  | swap _ _ apply => apply
  | send _ => id

end Turn

def afterSwaps (workspace : Workspace) (turns : List Turn) : Workspace :=
  turns.foldl (fun current turn => turn.apply current) workspace

theorem afterSwaps_append (workspace : Workspace) (turns later : List Turn) :
    afterSwaps workspace (turns ++ later) = afterSwaps (afterSwaps workspace turns) later :=
  List.foldl_append

structure Unsent where
  workspace : Workspace
  change : Change

structure Shared where
  engine : Engine
  unsent : Nat → Option Unsent := fun _ => none

namespace Shared

def Idle (shared : Shared) : Prop := ∀ task, shared.unsent task = none

def swap (shared : Shared) (task : Nat) (change : Change) (apply : Workspace → Workspace) : Shared :=
  { engine := shared.engine.swap (apply shared.engine.snapshot)
    unsent := Function.update shared.unsent task
      (some { workspace := apply shared.engine.snapshot, change }) }

def send (shared : Shared) (task : Nat) (waiting : Unsent) : Shared :=
  { engine := shared.engine.announce waiting.workspace waiting.change
    unsent := Function.update shared.unsent task none }

/-- Takes a turn. A task swaps only if it has nothing to send, and sends only what it swapped. -/
def take? (shared : Shared) : Turn → Option Shared
  | .swap task change apply =>
      match shared.unsent task with
      | none => some (shared.swap task change apply)
      | some _ => none
  | .send task => (shared.unsent task).map (shared.send task)

def takeAll? (shared : Shared) (turns : List Turn) : Option Shared := turns.foldlM take? shared

section Turns

theorem unsent_swap (shared : Shared) (task : Nat) (change : Change) (apply : Workspace → Workspace)
    (other : Nat) :
    (shared.swap task change apply).unsent other =
      if other = task then some { workspace := apply shared.engine.snapshot, change }
      else shared.unsent other :=
  Function.update_apply _ _ _ _

theorem unsent_send (shared : Shared) (task : Nat) (waiting : Unsent) (other : Nat) :
    (shared.send task waiting).unsent other =
      if other = task then none else shared.unsent other :=
  Function.update_apply _ _ _ _

variable {shared next : Shared}

theorem take?_swap_eq_some {task : Nat} {change : Change} {apply : Workspace → Workspace}
    (taken : shared.take? (.swap task change apply) = some next) :
    shared.unsent task = none ∧ next = shared.swap task change apply := by
  unfold take? at taken
  cases waiting : shared.unsent task with
  | none =>
      simp only [waiting, Option.some.injEq] at taken
      exact ⟨rfl, taken.symm⟩
  | some waiting => simp [waiting] at taken

theorem take?_send_eq_some {task : Nat} (taken : shared.take? (.send task) = some next) :
    ∃ waiting, shared.unsent task = some waiting ∧ next = shared.send task waiting := by
  obtain ⟨waiting, known, sent⟩ := Option.map_eq_some_iff.mp taken
  exact ⟨waiting, known, sent.symm⟩

theorem takeAll?_append (shared : Shared) (turns later : List Turn) :
    shared.takeAll? (turns ++ later) = (shared.takeAll? turns).bind fun next => next.takeAll? later :=
  List.foldlM_append

theorem takeAll?_append_eq_some {turns later : List Turn}
    (taken : shared.takeAll? (turns ++ later) = some next) :
    ∃ between, shared.takeAll? turns = some between ∧ between.takeAll? later = some next := by
  rw [takeAll?_append] at taken
  exact Option.bind_eq_some_iff.mp taken

theorem takeAll?_singleton (shared : Shared) (turn : Turn) :
    shared.takeAll? [turn] = shared.take? turn :=
  Option.bind_fun_some (shared.take? turn)

/-- A task that no other comes between updates the engine. -/
theorem takeAll?_update {task : Nat} (free : shared.unsent task = none) (change : Change)
    (apply : Workspace → Workspace) :
    shared.takeAll? [.swap task change apply, .send task] =
      some { shared with engine := shared.engine.update change apply } := by
  have swapped : shared.take? (.swap task change apply) = some (shared.swap task change apply) := by
    simp only [take?, free]
  have waiting := shared.unsent_swap task change apply task
  rw [if_pos rfl] at waiting
  have cleared : Function.update (shared.swap task change apply).unsent task none =
      shared.unsent := by
    unfold swap
    rw [Function.update_idem, ← free, Function.update_eq_self]
  calc shared.takeAll? [.swap task change apply, .send task]
      = (shared.take? (.swap task change apply)).bind fun next => next.takeAll? [.send task] := rfl
    _ = ((shared.swap task change apply).unsent task).map
          ((shared.swap task change apply).send task) := by
        rw [swapped, Option.bind_some, takeAll?_singleton]
        rfl
    _ = some { shared with engine := shared.engine.update change apply } := by
        rw [waiting, Option.map_some]
        unfold send
        rw [cleared]
        rfl

end Turns

end Shared

/-- An operation that loads no settings takes turns; alone it makes what it makes of the engine. -/
theorem Moves.takes_turns {engine next : Engine} (moves : engine.Moves next) (task : Nat) :
    ∃ turns, (∀ turn, turn ∈ turns → turn.task = task) ∧
      (Shared.mk engine fun _ => none).takeAll? turns = some { engine := next } := by
  have once : ∀ (engine : Engine) change apply,
      (Shared.mk engine fun _ => none).takeAll? [.swap task change apply, .send task] =
        some { engine := engine.update change apply } := by
    intro engine change apply
    exact Shared.takeAll?_update rfl change apply
  have own : ∀ change apply turn, turn ∈ [Turn.swap task change apply, .send task] →
      turn.task = task := by
    intro change apply turn member
    rcases List.mem_pair.mp member with rfl | rfl <;> rfl
  -- A scan publishes twice: the workspace as being scanned, and how the scan ends.
  have twice : ∀ workspace, ∃ turns, (∀ turn, turn ∈ turns → turn.task = task) ∧
      (Shared.mk engine fun _ => none).takeAll? turns =
        some { engine := engine.markScanning.publish workspace .workspace } := by
    intro workspace
    refine ⟨[.swap task .workspace fun current => current.reset.setStatus .scanning, .send task] ++
      [.swap task .workspace fun _ => workspace, .send task], ?_, ?_⟩
    · intro turn member
      rcases List.mem_append.mp member with first | second
      · exact own _ _ turn first
      · exact own _ _ turn second
    · rw [Shared.takeAll?_append, once, Option.bind_some]
      exact once _ _ _
  cases moves with
  | stays => exact ⟨[], fun _ member => (List.not_mem_nil member).elim, rfl⟩
  | edits document apply kept => exact ⟨_, own _ _, once _ _ _⟩
  | restores => exact twice engine.snapshot
  | rescans scan => exact twice (.ofScan scan)

/-! ### What turns keep -/

section Run

variable {start : Workspace} {turns : List Turn} {shared next : Shared}

def LastSwap (start : Workspace) (turns : List Turn) (task : Nat) (workspace : Workspace) : Prop :=
  ∃ earlier change apply between,
    turns = earlier ++ .swap task change apply :: between ∧
      (∀ turn, turn ∈ between → turn.task ≠ task) ∧ workspace = apply (afterSwaps start earlier)

theorem LastSwap.append {task : Nat} {workspace : Workspace} {turn : Turn}
    (lastSwap : LastSwap start turns task workspace) (other : turn.task ≠ task) :
    LastSwap start (turns ++ [turn]) task workspace := by
  obtain ⟨earlier, change, apply, between, split, others, made⟩ := lastSwap
  refine ⟨earlier, change, apply, between ++ [turn], ?_, ?_, made⟩
  · rw [split, List.append_assoc, List.cons_append]
  · intro later member
    rcases List.mem_append.mp member with before | last
    · exact others later before
    · rw [List.mem_singleton.mp last]
      exact other

/-- The current workspace has all swaps, and what a task has still to send is that of its last one. -/
structure Tracks (start : Workspace) (turns : List Turn) (shared : Shared) : Prop where
  current : shared.engine.snapshot = afterSwaps start turns
  unsent : ∀ task waiting, shared.unsent task = some waiting →
    LastSwap start turns task waiting.workspace

theorem Tracks.swap (tracks : Tracks start turns shared) (task : Nat) (change : Change)
    (apply : Workspace → Workspace) :
    Tracks start (turns ++ [.swap task change apply]) (shared.swap task change apply) := by
  have current : apply shared.engine.snapshot =
      afterSwaps start (turns ++ [.swap task change apply]) := by
    rw [afterSwaps_append, ← tracks.current]
    rfl
  refine ⟨current, ?_⟩
  intro other waiting known
  rw [Shared.unsent_swap] at known
  by_cases same : other = task
  · rw [if_pos same, Option.some.injEq] at known
    refine ⟨turns, change, apply, [], ?_, ?_, ?_⟩
    · rw [same]
    · intro turn member
      cases member
    · rw [← known, ← tracks.current]
  · rw [if_neg same] at known
    exact (tracks.unsent other waiting known).append (Ne.symm same)

theorem Tracks.send (tracks : Tracks start turns shared) (task : Nat) (waiting : Unsent) :
    Tracks start (turns ++ [.send task]) (shared.send task waiting) := by
  have current : shared.engine.snapshot = afterSwaps start (turns ++ [.send task]) := by
    rw [afterSwaps_append]
    exact tracks.current
  refine ⟨current, ?_⟩
  intro other unsent known
  rw [Shared.unsent_send] at known
  by_cases same : other = task
  · rw [if_pos same] at known
    cases known
  · rw [if_neg same] at known
    exact (tracks.unsent other unsent known).append (Ne.symm same)

theorem Tracks.take? (tracks : Tracks start turns shared) {turn : Turn}
    (taken : shared.take? turn = some next) : Tracks start (turns ++ [turn]) next := by
  cases turn with
  | swap task change apply =>
      rw [(Shared.take?_swap_eq_some taken).2]
      exact tracks.swap task change apply
  | send task =>
      obtain ⟨waiting, _, sent⟩ := Shared.take?_send_eq_some taken
      rw [sent]
      exact tracks.send task waiting

theorem Tracks.takeAll? (tracks : Tracks start turns shared) {later : List Turn}
    (taken : shared.takeAll? later = some next) : Tracks start (turns ++ later) next := by
  induction later generalizing turns shared with
  | nil =>
      rw [← Option.some.inj taken, List.append_nil]
      exact tracks
  | cons turn rest ih =>
      obtain ⟨between, first, others⟩ := Option.bind_eq_some_iff.mp taken
      rw [List.append_cons]
      exact ih (tracks.take? first) others

theorem tracks_takeAll? (idle : shared.Idle) (taken : shared.takeAll? turns = some next) :
    Tracks shared.engine.snapshot turns next := by
  have none : Tracks shared.engine.snapshot [] shared := by
    refine ⟨rfl, ?_⟩
    intro task waiting known
    rw [idle task] at known
    cases known
  exact none.takeAll? taken

end Run

/-- Tasks that begin and end with nothing to send have made all their changes, one after another in
the order of their swaps. Those who follow the engine have the workspace of the task that was last to
send, from right after its swap. So they have the current workspace exactly if what others swapped in
between its two turns has changed nothing. -/
theorem channel_holds_last_sent {shared last : Shared} {turns : List Turn} (idle : shared.Idle)
    (level : shared.engine.published = shared.engine.snapshot)
    (taken : shared.takeAll? turns = some last) (finished : last.Idle) :
    last.engine.snapshot = afterSwaps shared.engine.snapshot turns ∧
    (turns = [] ∧ last.engine.published = last.engine.snapshot ∨
      ∃ earlier task change apply between,
        turns = earlier ++ .swap task change apply :: (between ++ [.send task]) ∧
        (∀ turn, turn ∈ between → turn.task ≠ task) ∧
        last.engine.published = apply (afterSwaps shared.engine.snapshot earlier) ∧
        (last.engine.published = last.engine.snapshot ↔
          afterSwaps last.engine.published between = last.engine.published)) := by
  have current := (tracks_takeAll? idle taken).current
  refine ⟨current, ?_⟩
  rcases List.eq_nil_or_concat turns with rfl | ⟨before, turn, rfl⟩
  · rw [← Option.some.inj taken]
    exact Or.inl ⟨rfl, level⟩
  · right
    rw [List.concat_eq_append] at taken current ⊢
    obtain ⟨previous, run, final⟩ := Shared.takeAll?_append_eq_some taken
    rw [Shared.takeAll?_singleton] at final
    cases turn with
    | swap task change apply =>
        -- The task has not sent what it swapped last.
        have unsent := finished task
        rw [(Shared.take?_swap_eq_some final).2, Shared.unsent_swap, if_pos rfl] at unsent
        cases unsent
    | send task =>
        obtain ⟨waiting, known, sent⟩ := Shared.take?_send_eq_some final
        obtain ⟨earlier, change, apply, between, split, others, made⟩ :=
          (tracks_takeAll? idle run).unsent task waiting known
        have published :
            last.engine.published = apply (afterSwaps shared.engine.snapshot earlier) := by
          rw [sent, ← made]
          rfl
        have behind : last.engine.snapshot = afterSwaps last.engine.published between := by
          rw [current, split, afterSwaps_append, afterSwaps_append, published]
          rfl
        refine ⟨earlier, task, change, apply, between, ?_, others, published, ?_⟩
        · rw [split, List.append_assoc, List.cons_append]
        · rw [behind]
          exact eq_comm

/-- Two tasks store a document each. The first to swap is the last to send. -/
def overtaken (parser : Parser) : List Turn :=
  let first := Index.ofText parser ⟨"/a"⟩ "TODO one"
  let second := Index.ofText parser ⟨"/b"⟩ "TODO two"
  [.swap 0 (.document ⟨"/a"⟩) (·.insert ⟨"/a"⟩ first),
    .swap 1 (.document ⟨"/b"⟩) (·.insert ⟨"/b"⟩ second), .send 1, .send 0]

private theorem takeAll?_overtaken (parser : Parser) :
    ∃ last, (Shared.mk (lister parser) fun _ => none).takeAll? (overtaken parser) = some last ∧
      last.Idle ∧ last.engine.snapshot.documents.keys = [⟨"/a"⟩, ⟨"/b"⟩] ∧
      last.engine.published.documents.keys = [⟨"/a"⟩] := by
  refine ⟨_, rfl, ?_, rfl, rfl⟩
  intro task
  rw [Shared.unsent_send, Shared.unsent_send, Shared.unsent_swap, Shared.unsent_swap]
  by_cases first : task = 0
  · rw [if_pos first]
  · by_cases second : task = 1
    · rw [if_neg first, if_pos second]
    · rw [if_neg first, if_neg second, if_neg second, if_neg first]

/-- The current workspace has both documents. -/
theorem channel_holds_last_sent_overtaken :
    ∃ parser last, (Shared.mk (lister parser) fun _ => none).takeAll? (overtaken parser) = some last ∧
      last.Idle ∧ last.engine.snapshot = afterSwaps {} (overtaken parser) ∧
      last.engine.snapshot.documents.keys = [⟨"/a"⟩, ⟨"/b"⟩] := by
  obtain ⟨parser, _⟩ := Config.parser_default
  obtain ⟨last, taken, finished, both, _⟩ := takeAll?_overtaken parser
  have idle : (Shared.mk (lister parser) fun _ => none).Idle := fun _ => rfl
  obtain ⟨current, _⟩ := channel_holds_last_sent idle rfl taken finished
  exact ⟨parser, last, taken, finished, current, both⟩

/-- Those who follow the engine are left with an older workspace than the current one. -/
theorem overtaken_send_leaves_channel_behind :
    ∃ parser last, (Shared.mk (lister parser) fun _ => none).takeAll? (overtaken parser) = some last ∧
      last.Idle ∧ last.engine.published ≠ last.engine.snapshot ∧
      last.engine.snapshot.documents.keys = [⟨"/a"⟩, ⟨"/b"⟩] ∧
      last.engine.published.documents.keys = [⟨"/a"⟩] := by
  obtain ⟨parser, _⟩ := Config.parser_default
  obtain ⟨last, taken, finished, both, one⟩ := takeAll?_overtaken parser
  refine ⟨parser, last, taken, finished, ?_, both, one⟩
  intro same
  rw [same, both] at one
  cases one

end Waymark.Engine
