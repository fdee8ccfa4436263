import FeatureFlags.Proofs.Synchronizer.Status

/-!
# Synchronizers on a clock

What a synchronizer does on a clock is a run, so what holds of all runs holds of it. Since every action
leaves less work, `Synchronizer.settle` performs all that can happen.

* `Synchronizer.canBecome_sleep` and its neighbours: whatever is done on a clock is a run.
* `Synchronizer.initialized_of_awaitInitialization`: waiting for data succeeds only if the store has some.
* `Synchronizer.exists_run_shutdown`: a shutdown comes to its end, and applies what was received before; the
  synchronizer is off then (`Synchronizer.off_of_shutdown`).
-/

namespace FeatureFlags

/-- A reader that has not stopped has work left. -/
lemma Reader.work_pos {r : Reader} (h : r ≠ .stopped) : 0 < r.work := by
  cases r with
  | connecting wakeAt c => cases c <;> simp [Reader.work, Connection.work]
  | stopped => exact absurd rfl h
  | _ => simp [Reader.work]

namespace Synchronizer

variable {s t u : Synchronizer} {jitter : Nat → Nat}

/-! ## Runs on a clock -/

/-- Some run leads from one state of a synchronizer to another. -/
def CanBecome (s t : Synchronizer) : Prop := ∃ occurrences applied, s.Run occurrences applied t

namespace CanBecome

lemma refl (s : Synchronizer) : s.CanBecome s := ⟨[], [], .refl⟩

lemma trans (h : s.CanBecome t) (h' : t.CanBecome u) : s.CanBecome u := by
  obtain ⟨_, _, hrun⟩ := h
  obtain ⟨_, _, hrun'⟩ := h'
  exact ⟨_, _, hrun.trans hrun'⟩

lemma of_next? {o : Occurrence} (h : s.next? o = some t) : s.CanBecome t := ⟨_, _, .single h⟩

lemma advance (s : Synchronizer) (now : Nat) : s.CanBecome (s.advance now) := of_next? (o := .time now) rfl

end CanBecome

lemma canBecome_step? {jitter : Nat → Nat} (h : s.step? jitter = some t) : s.CanBecome t := by
  obtain ⟨a, -, ha⟩ := List.exists_of_findSome?_eq_some h
  exact .of_next? (o := .action jitter a) ha

lemma canBecome_performUpTo (jitter : Nat → Nat) (n : Nat) (s : Synchronizer) :
    s.CanBecome (performUpTo jitter n s) := by
  induction n generalizing s with
  | zero => exact .refl s
  | succ n ih =>
    rw [performUpTo]
    split
    · next next hstep => exact (canBecome_step? hstep).trans (ih next)
    · exact .refl s

lemma canBecome_settle (jitter : Nat → Nat) (s : Synchronizer) : s.CanBecome (s.settle jitter) :=
  canBecome_performUpTo jitter s.work s

/-- Running for some time is a chain of steps and ticks of the clock. -/
lemma canBecome_runFor (jitter : Nat → Nat) (halt : Synchronizer → Bool) (target n : Nat)
    (s : Synchronizer) : s.CanBecome (runFor jitter halt target n s) := by
  -- the fuel bounds how often the clock is moved
  induction n generalizing s with
  | zero => exact .advance s target
  | succ n ih =>
    rw [runFor]
    by_cases htarget : target ≤ s.now
    · rw [if_pos htarget]
      exact .refl s
    · rw [if_neg htarget]
      -- what is possible now is done before the clock goes on
      refine (canBecome_settle jitter s).trans ?_
      dsimp only
      split
      · exact .refl _
      · split
        · split
          · exact (CanBecome.advance _ _).trans (ih _)
          · exact .advance _ target
        · exact .advance _ target

theorem canBecome_sleep (jitter : Nat → Nat) (duration : Nat) (s : Synchronizer) :
    s.CanBecome (s.sleep jitter duration) := canBecome_runFor jitter _ _ _ s

lemma canBecome_awaitInitialization (jitter : Nat → Nat) (duration : Nat) (s : Synchronizer) :
    s.CanBecome (s.awaitInitialization jitter duration).2 := by
  rw [awaitInitialization]
  dsimp only
  split
  · exact .refl s
  · exact canBecome_runFor jitter _ _ _ s

/-! ## Waiting for data -/

/-- To wait for data succeeds only if the store has been initialized. -/
theorem initialized_of_awaitInitialization {settings : BackoffSettings} {script : List Connection}
    (h : (start settings script).CanBecome s) {duration : Nat}
    (hdone : (s.awaitInitialization jitter duration).1 = true) :
    (s.awaitInitialization jitter duration).2.store.initialized = true := by
  obtain ⟨_, _, hrun⟩ := h.trans (canBecome_awaitInitialization jitter duration s)
  have hfst : (s.awaitInitialization jitter duration).1 =
      ((s.awaitInitialization jitter duration).2.status.state != .initializing &&
        (s.awaitInitialization jitter duration).2.status.state != .off) := rfl
  rw [hfst] at hdone
  refine hrun.initialized_of_state ?_
  cases hstate : (s.awaitInitialization jitter duration).2.status.state with
  | initializing | off => simp [hstate] at hdone
  | valid => exact .inl rfl
  | interrupted => exact .inr rfl

/-! ## Settling -/

/-- Every action leaves less work. -/
lemma work_lt_of_step {a : SyncAction} (h : s.Step (.action jitter a) t) : t.work < s.work := by
  cases h with
  | attempt reader _ script =>
    simp [work, reader, script, Reader.work]
    omega
  | take reader | send reader | retry reader | giveUp reader =>
    simp [work, reader, Reader.work]
    omega
  | attemptInVain reader | stayOpen reader | close reader | pause reader | skip reader | fail reader =>
    simp [work, reader, Reader.work]
  | refused reader | opened reader => simp [work, reader, Reader.work, Connection.work]
  | apply queued => simp [work, queued]
  | stop _ _ running =>
    have hstopped : Reader.stopped.work = 0 := rfl
    simp [work, hstopped, Reader.work_pos running]
  | finish stopped empty running => simp [work, running]

/-- The driver rests exactly when no action is possible. -/
lemma step?_eq_none_iff : s.step? jitter = none ↔ ∀ a, s.perform? jitter a = none := by
  rw [step?, List.findSome?_eq_none_iff]
  constructor
  · intro h a
    exact h a (by cases a <;> simp [actionOrder])
  · exact fun h a _ => h a

/-- With as much fuel as there is work the driver comes to rest. -/
lemma step?_performUpTo {n : Nat} (h : s.work ≤ n) : (performUpTo jitter n s).step? jitter = none := by
  induction n generalizing s with
  | zero =>
    -- an action would leave less work than none
    rw [performUpTo, step?_eq_none_iff]
    intro a
    cases hnext : s.perform? jitter a with
    | none => rfl
    | some t =>
      have hless := work_lt_of_step (step_of_perform? hnext)
      omega
  | succ n ih =>
    rw [performUpTo]
    split
    · next next hnext =>
      obtain ⟨a, -, ha⟩ := List.exists_of_findSome?_eq_some hnext
      have hless := work_lt_of_step (step_of_perform? ha)
      exact ih (by omega)
    · next hnone => exact hnone

/-- Nothing can happen to a synchronizer that has settled until time passes. -/
lemma step?_settle (s : Synchronizer) : (s.settle jitter).step? jitter = none :=
  step?_performUpTo le_rfl

/-! ## Shutdown -/

/-- A requested shutdown is never withdrawn. -/
lemma shutdownRequested_of_step {o : Occurrence} (h : s.Step o t) (hs : s.shutdownRequested = true) :
    t.shutdownRequested = true := by
  cases h with
  | shutdown => rfl
  | _ => exact hs

lemma Run.shutdownRequested {occurrences : List Occurrence} {applied : List Message}
    (h : s.Run occurrences applied t) (hs : s.shutdownRequested = true) : t.shutdownRequested = true := by
  induction h with
  | refl => exact hs
  | tail _ happens ih => exact shutdownRequested_of_step (step_of_next? happens) ih

/-- The queue is a queue: what is in it is applied before what is put into it later. -/
lemma Run.exists_applied_append_queue_eq {occurrences : List Occurrence} {applied : List Message}
    (h : s.Run occurrences applied t) : ∃ enqueued, applied ++ t.queue = s.queue ++ enqueued := by
  induction h with
  | refl => exact ⟨[], by simp⟩
  | tail _ happens ih =>
    obtain ⟨before, hbefore⟩ := ih
    obtain ⟨last, hlast, -⟩ := queue_of_step (step_of_next? happens)
    refine ⟨before ++ last, ?_⟩
    rw [List.append_assoc, hlast, ← List.append_assoc, hbefore, List.append_assoc]

/-- If nothing can happen after a shutdown was requested, then nothing is left to apply. -/
lemma finished_of_step?_eq_none (h : s.step? jitter = none) (hrequested : s.shutdownRequested = true) :
    s.queue = [] ∧ s.finished = true := by
  rw [step?_eq_none_iff] at h
  -- with a message in the queue it could be applied
  have hqueue : s.queue = [] := by
    have happly := h .apply
    rw [perform?] at happly
    split at happly
    · next hqueue => exact hqueue
    · cases happly
  -- with an empty queue every reader but one that has stopped could go on or stop
  have hreader : s.reader = .stopped := by
    have hstop := h .stop
    have henqueue := h .enqueue
    cases hreader : s.reader with
    | stopped => rfl
    | failing e => simp [perform?, hreader, hqueue, queueCapacity] at henqueue
    | _ => simp [perform?, hreader, hrequested] at hstop
  refine ⟨hqueue, ?_⟩
  have hfinish := h .finish
  cases hfinished : s.finished with
  | true => rfl
  | false => simp [perform?, hreader, hqueue, hfinished] at hfinish

/-- A shutdown comes to its end, and then the synchronizer has applied at least what was in its queue. -/
theorem exists_run_shutdown (jitter : Nat → Nat) (s : Synchronizer) :
    ∃ occurrences applied, s.Run occurrences applied (s.shutdown jitter) ∧
      (s.shutdown jitter).finished = true ∧ s.queue <+: applied := by
  obtain ⟨_, _, hsettle⟩ := canBecome_settle jitter s.requestShutdown
  have hrequest : s.Run [.shutdown] [] s.requestShutdown := .single rfl
  have hrun := hrequest.trans hsettle
  obtain ⟨hqueue, hfinished⟩ := finished_of_step?_eq_none (step?_settle _) (hsettle.shutdownRequested rfl)
  obtain ⟨enqueued, henqueued⟩ := hrun.exists_applied_append_queue_eq
  rw [hqueue, List.append_nil] at henqueued
  exact ⟨_, _, hrun, hfinished, enqueued, henqueued.symm⟩

/-- A synchronizer that was shut down is off. -/
theorem off_of_shutdown {settings : BackoffSettings} {script : List Connection}
    (h : (start settings script).CanBecome s) (jitter : Nat → Nat) :
    (s.shutdown jitter).status.state = .off := by
  obtain ⟨_, _, hrun⟩ := h
  obtain ⟨_, _, hshutdown, hfinished, -⟩ := exists_run_shutdown jitter s
  exact (hrun.trans hshutdown).state_eq_off_iff.mpr (.inl hfinished)

end Synchronizer
end FeatureFlags
