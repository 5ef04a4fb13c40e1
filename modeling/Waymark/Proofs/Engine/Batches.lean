import Waymark.Engine.Scan
import Waymark.Proofs.Workspace.Scan

set_option autoImplicit false

/-! How the batches of an engine's scan end: the scan is cancelled before a batch that it reaches, or
reading breaks down in one, or a batch ends with nothing left to do. The bound on the number of
batches is never what ends a scan. -/

namespace Waymark.Engine

section Batches

variable (environment : Environment) (parser : Parser)

def afterBatches (scan : Scan) (count : Nat) : Scan :=
  (Scan.nextBatch parser environment.source)^[count] scan

def breaksNext (scan : Scan) : Bool :=
  (scan.batchReads parser environment.source).any environment.breaks

/-- Whether a scan gets through a number of batches and has more to do after each. -/
def Reaches (scan : Scan) (count : Nat) : Prop :=
  ∀ batch, batch < count →
    breaksNext environment parser (afterBatches environment parser scan batch) = false ∧
      (afterBatches environment parser scan (batch + 1)).isDone = false

inductive Ends (cancelAfter : Option Nat) (scan : Scan) : ScanEnd → Prop where
  | cancelled (count : Nat) (reached : Reaches environment parser scan count)
      (asked : cancelAfter = some count) :
      Ends cancelAfter scan (.cancelled (afterBatches environment parser scan count))
  | broken (count : Nat) (reached : Reaches environment parser scan count)
      (unasked : ∀ earlier, earlier ≤ count → cancelAfter ≠ some earlier)
      (breaks : breaksNext environment parser (afterBatches environment parser scan count) = true) :
      Ends cancelAfter scan .broken
  | finished (count : Nat) (reached : Reaches environment parser scan count)
      (unasked : ∀ earlier, earlier ≤ count → cancelAfter ≠ some earlier)
      (done : (afterBatches environment parser scan (count + 1)).isDone = true) :
      Ends cancelAfter scan (.finished (afterBatches environment parser scan (count + 1)))

variable {environment parser} {cancelAfter : Option Nat} {scan : Scan}

theorem afterBatches_succ (count : Nat) :
    afterBatches environment parser scan (count + 1) =
      afterBatches environment parser (scan.nextBatch parser environment.source) count :=
  Function.iterate_succ_apply _ _ _

theorem reaches_zero : Reaches environment parser scan 0 := by
  intro batch before
  cases before

theorem Reaches.succ (whole : breaksNext environment parser scan = false)
    (more : (scan.nextBatch parser environment.source).isDone = false) {count : Nat}
    (reached : Reaches environment parser (scan.nextBatch parser environment.source) count) :
    Reaches environment parser scan (count + 1) := by
  intro batch before
  cases batch with
  | zero => exact ⟨whole, more⟩
  | succ batch =>
      rw [afterBatches_succ, afterBatches_succ]
      exact reached batch (Nat.lt_of_succ_lt_succ before)

private theorem unasked_succ {count : Nat} (unasked : cancelAfter ≠ some 0)
    (later : ∀ earlier, earlier ≤ count → cancelAfter.map (· - 1) ≠ some earlier) :
    ∀ earlier, earlier ≤ count + 1 → cancelAfter ≠ some earlier := by
  rintro earlier within rfl
  cases earlier with
  | zero => exact unasked rfl
  | succ earlier => exact later earlier (Nat.le_of_succ_le_succ within) rfl

/-- What ends the batches after the first ends them all. -/
theorem Ends.succ (unasked : cancelAfter ≠ some 0)
    (whole : breaksNext environment parser scan = false)
    (more : (scan.nextBatch parser environment.source).isDone = false) {ending : ScanEnd}
    (ends : Ends environment parser (cancelAfter.map (· - 1))
      (scan.nextBatch parser environment.source) ending) :
    Ends environment parser cancelAfter scan ending := by
  cases ends with
  | cancelled count reached asked =>
      rw [← afterBatches_succ]
      apply Ends.cancelled (count + 1) (reached.succ whole more)
      obtain ⟨point, same, before⟩ := Option.map_eq_some_iff.mp asked
      subst same
      cases point with
      | zero => exact absurd rfl unasked
      | succ point => exact congrArg some (congrArg Nat.succ before)
  | broken count reached later breaks =>
      rw [← afterBatches_succ] at breaks
      exact Ends.broken (count + 1) (reached.succ whole more) (unasked_succ unasked later) breaks
  | finished count reached later done =>
      rw [← afterBatches_succ] at done ⊢
      exact Ends.finished (count + 1) (reached.succ whole more) (unasked_succ unasked later) done

private theorem unasked_zero (unasked : cancelAfter ≠ some 0) :
    ∀ earlier, earlier ≤ 0 → cancelAfter ≠ some earlier := by
  intro earlier within
  rw [Nat.le_zero.mp within]
  exact unasked

/-- The first batch ends a scan or leaves the rest of the batches to end it. -/
theorem ends_runBatches_of_rest {steps : Nat} (bounded : scan.pending.length ≤ steps)
    (rest : (scan.nextBatch parser environment.source).isDone = false →
      Ends environment parser (cancelAfter.map (· - 1))
        (scan.nextBatch parser environment.source)
        (runBatches environment parser (cancelAfter.map (· - 1)) (steps - 1)
          (scan.nextBatch parser environment.source))) :
    Ends environment parser cancelAfter scan
      (runBatches environment parser cancelAfter steps scan) := by
  unfold runBatches
  split
  · rename_i asked
    exact Ends.cancelled 0 reaches_zero asked
  · rename_i unasked
    split
    · rename_i breaks
      exact Ends.broken 0 reaches_zero (unasked_zero unasked) breaks
    · rename_i whole
      rw [Bool.not_eq_true] at whole
      cases done : (scan.nextBatch parser environment.source).isDone with
      | true =>
          have ends : Ends environment parser cancelAfter scan
              (.finished (scan.nextBatch parser environment.source)) :=
            Ends.finished 0 reaches_zero (unasked_zero unasked) done
          cases steps with
          | zero => exact ends
          | succ steps =>
              simp only [done, if_true]
              exact ends
      | false =>
          cases steps with
          | zero =>
              -- There was no document to take, so the scan cannot have more to do.
              rw [Scan.nextBatch_eq_iterate,
                Scan.isDone_iterate parser environment.source (by omega)] at done
              cases done
          | succ steps =>
              simp only [done, Bool.false_eq_true, if_false]
              exact Ends.succ unasked whole done (rest done)

theorem ends_runBatches (cancelAfter : Option Nat) (steps : Nat)
    (bounded : scan.pending.length ≤ steps) (positive : 0 < scan.batchSize) :
    Ends environment parser cancelAfter scan
      (runBatches environment parser cancelAfter steps scan) := by
  induction steps generalizing cancelAfter scan with
  | zero =>
      apply ends_runBatches_of_rest bounded
      intro more
      rw [Scan.nextBatch_eq_iterate,
        Scan.isDone_iterate parser environment.source (by omega)] at more
      cases more
  | succ steps ih =>
      apply ends_runBatches_of_rest bounded
      intro more
      rw [Scan.nextBatch_eq_iterate] at more ⊢
      -- The batch has taken a document, so one step less bounds what is left.
      have taken := Scan.length_pending_iterate parser environment.source more
      apply ih
      · omega
      · rw [Scan.batchSize_iterate]
        exact positive

/-- A scan that reaches the batch before which it is cancelled ends there. -/
theorem runBatches_of_reaches {count : Nat} (reached : Reaches environment parser scan count)
    {steps : Nat} (bounded : scan.pending.length ≤ steps) (positive : 0 < scan.batchSize) :
    runBatches environment parser (some count) steps scan =
      .cancelled (afterBatches environment parser scan count) := by
  have ends : Ends environment parser (some count) scan _ :=
    ends_runBatches (some count) steps bounded positive
  generalize runBatches environment parser (some count) steps scan = ending at ends ⊢
  cases ends with
  | cancelled other _ asked => rw [Option.some.inj asked]
  | broken other _ unasked breaks =>
      have before : other < count := Nat.lt_of_not_le (fun late => unasked count late rfl)
      rw [(reached other before).1] at breaks
      cases breaks
  | finished other _ unasked done =>
      have before : other < count := Nat.lt_of_not_le (fun late => unasked count late rfl)
      rw [(reached other before).2] at done
      cases done

end Batches

end Waymark.Engine
