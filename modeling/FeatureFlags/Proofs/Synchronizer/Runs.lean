import FeatureFlags.Synchronizer.Run
import Mathlib.Tactic.Lemma

/-!
# Runs of a synchronizer

A synchronizer performs its actions in any order that their conditions admit, while time passes and a
shutdown may be requested at any moment. A `Synchronizer.Run` is what happened between two states, together
with the messages that the applier has applied on the way.

* `Synchronizer.step_of_next?`: all that can happen to a synchronizer, one case for each kind of change.
* `Synchronizer.run_of_occur?`: a run can be computed from what happens in it.
-/

namespace FeatureFlags

/-- Something that happens to a synchronizer: one of its actions, which may draw a jitter, the passing of
time, or a request to stop. -/
inductive Occurrence where
  | action (jitter : Nat → Nat) (action : SyncAction)
  | time (now : Nat)
  | shutdown

/-- What a message makes of a store. -/
def Store.afterMessage (s : Store) : Message → Store
  | .update u => s.apply u
  | .failed _ => s

/-- What a message makes of a status. -/
def SyncStatus.afterMessage (s : SyncStatus) : Message → SyncStatus
  | .update u => s.afterUpdate u
  | .failed e => s.afterFailure e

namespace Synchronizer

/-- Applying a message touches the store and the status only. -/
lemma applyMessage_eq (s : Synchronizer) (m : Message) :
    s.applyMessage m = { s with store := s.store.afterMessage m, status := s.status.afterMessage m } := by
  cases m <;> rfl

/-- What an occurrence makes of a synchronizer, if it can happen. -/
def next? (s : Synchronizer) : Occurrence → Option Synchronizer
  | .action jitter a => s.perform? jitter a
  | .time now => some (s.advance now)
  | .shutdown => some s.requestShutdown

/-- The messages that the applier applies in an occurrence. -/
def appliedIn (s : Synchronizer) : Occurrence → List Message
  | .action _ .apply => s.queue.take 1
  | _ => []

/-- A synchronizer goes on to another state by some occurrences, and its applier applies some messages on
the way. -/
inductive Run (s : Synchronizer) : List Occurrence → List Message → Synchronizer → Prop
  | refl : Run s [] [] s
  | tail {occurrences applied t o u} (before : Run s occurrences applied t) (happens : t.next? o = some u) :
      Run s (occurrences ++ [o]) (applied ++ t.appliedIn o) u

/-! ## Steps -/

/-- What one occurrence can do to a synchronizer. -/
inductive Step (s : Synchronizer) : Occurrence → Synchronizer → Prop
  | attempt {jitter wakeAt c rest} (pausing : s.reader = .pausing wakeAt) (due : wakeAt ≤ s.now)
      (next : s.script = c :: rest) :
      Step s (.action jitter .attempt)
        { s with
          attempts := s.attempts ++ [s.now], script := rest, reader := .connecting (s.now + c.delay) c }
  | attemptInVain {jitter wakeAt} (pausing : s.reader = .pausing wakeAt) (due : wakeAt ≤ s.now)
      (exhausted : s.script = []) :
      Step s (.action jitter .attempt) { s with attempts := s.attempts ++ [s.now], reader := .hanging }
  | refused {jitter wakeAt delay e} (connecting : s.reader = .connecting wakeAt (.refused delay e))
      (due : wakeAt ≤ s.now) : Step s (.action jitter .connect) { s with reader := .failing e }
  | opened {jitter wakeAt delay items staysOpen}
      (connecting : s.reader = .connecting wakeAt (.opened delay items staysOpen)) (due : wakeAt ≤ s.now) :
      Step s (.action jitter .connect)
        { s with backoff := s.backoff.connected s.instant, reader := .reading s.now items staysOpen }
  | stayOpen {jitter wakeAt} (reading : s.reader = .reading wakeAt [] true) (due : wakeAt ≤ s.now) :
      Step s (.action jitter .receive) { s with reader := .hanging }
  | close {jitter wakeAt} (reading : s.reader = .reading wakeAt [] false) (due : wakeAt ≤ s.now) :
      Step s (.action jitter .receive) { s with reader := .failing .closed }
  | pause {jitter wakeAt duration rest staysOpen}
      (reading : s.reader = .reading wakeAt (.pause duration :: rest) staysOpen) (due : wakeAt ≤ s.now) :
      Step s (.action jitter .receive) { s with reader := .reading (s.now + duration) rest staysOpen }
  | skip {jitter wakeAt item rest staysOpen} (reading : s.reader = .reading wakeAt (item :: rest) staysOpen)
      (due : wakeAt ≤ s.now) (message : item.message? = none) :
      Step s (.action jitter .receive) { s with reader := .reading s.now rest staysOpen }
  | take {jitter wakeAt item rest staysOpen u}
      (reading : s.reader = .reading wakeAt (item :: rest) staysOpen) (due : wakeAt ≤ s.now)
      (message : item.message? = some (.update u)) :
      Step s (.action jitter .receive) { s with reader := .sending u rest staysOpen }
  | fail {jitter wakeAt item rest staysOpen e}
      (reading : s.reader = .reading wakeAt (item :: rest) staysOpen) (due : wakeAt ≤ s.now)
      (message : item.message? = some (.failed e)) :
      Step s (.action jitter .receive) { s with reader := .failing e }
  | send {jitter u items staysOpen} (sending : s.reader = .sending u items staysOpen)
      (room : s.queue.length < queueCapacity) :
      Step s (.action jitter .enqueue)
        { s with queue := s.queue ++ [.update u], reader := .reading s.now items staysOpen }
  | retry {jitter e delay backoff} (failing : s.reader = .failing e)
      (room : s.queue.length < queueCapacity) (recoverable : e.isRecoverable = true)
      (next : s.backoff.nextDelay s.instant jitter = (delay, backoff)) :
      Step s (.action jitter .enqueue)
        { s with queue := s.queue ++ [.failed e], backoff, reader := .pausing (wakeTime s.now delay) }
  | giveUp {jitter e} (failing : s.reader = .failing e) (room : s.queue.length < queueCapacity)
      (final : e.isRecoverable = false) :
      Step s (.action jitter .enqueue) { s with queue := s.queue ++ [.failed e], reader := .stopped }
  | apply {jitter m rest} (queued : s.queue = m :: rest) :
      Step s (.action jitter .apply)
        { s with queue := rest, store := s.store.afterMessage m, status := s.status.afterMessage m }
  | stop {jitter} (requested : s.shutdownRequested = true) (notFailing : ∀ e, s.reader ≠ .failing e)
      (running : s.reader ≠ .stopped) : Step s (.action jitter .stop) { s with reader := .stopped }
  | finish {jitter} (stopped : s.reader = .stopped) (empty : s.queue = []) (running : s.finished = false) :
      Step s (.action jitter .finish)
        { s with finished := true, status := { s.status with state := .off } }
  | time (now : Nat) : Step s (.time now) (s.advance now)
  | shutdown : Step s .shutdown s.requestShutdown

variable {s t u : Synchronizer} {jitter : Nat → Nat}

lemma step_attempt {wakeAt : Nat} (pausing : s.reader = .pausing wakeAt) (due : wakeAt ≤ s.now) :
    s.Step (.action jitter .attempt) s.attempt := by
  rw [Synchronizer.attempt]
  split
  · next hscript => exact .attemptInVain pausing due hscript
  · next c rest hscript => exact .attempt pausing due hscript

lemma step_connect {wakeAt : Nat} {c : Connection} (connecting : s.reader = .connecting wakeAt c)
    (due : wakeAt ≤ s.now) : s.Step (.action jitter .connect) (s.connect c) := by
  cases c with
  | refused delay e => exact .refused connecting due
  | opened delay items staysOpen => exact .opened connecting due

lemma step_receive {wakeAt : Nat} {items : List StreamItem} {staysOpen : Bool}
    (reading : s.reader = .reading wakeAt items staysOpen) (due : wakeAt ≤ s.now) :
    s.Step (.action jitter .receive) (s.receive staysOpen items) := by
  rw [receive.eq_def]
  split
  · cases staysOpen with
    | true => exact .stayOpen reading due
    | false => exact .close reading due
  · exact .pause reading due
  · split
    · next hmessage => exact .skip reading due hmessage
    · next u hmessage => exact .take reading due hmessage
    · next e hmessage => exact .fail reading due hmessage

lemma step_reportFailure {e : StreamError} (failing : s.reader = .failing e)
    (room : s.queue.length < queueCapacity) :
    s.Step (.action jitter .enqueue) (s.reportFailure jitter e) := by
  cases hrecoverable : e.isRecoverable with
  | true =>
    rw [reportFailure, if_pos hrecoverable]
    exact .retry failing room hrecoverable rfl
  | false =>
    rw [reportFailure, hrecoverable]
    exact .giveUp failing room hrecoverable

/-- What the driver performs is a step of the system. -/
lemma step_of_perform? {a : SyncAction} (h : s.perform? jitter a = some t) :
    s.Step (.action jitter a) t := by
  cases a with
  | attempt =>
    rw [perform?] at h
    split at h
    · next wakeAt hreader =>
      obtain ⟨hdue, ⟨⟩⟩ := Option.ite_none_right_eq_some.mp h
      exact step_attempt hreader hdue
    · cases h
  | connect =>
    rw [perform?] at h
    split at h
    · next wakeAt c hreader =>
      obtain ⟨hdue, ⟨⟩⟩ := Option.ite_none_right_eq_some.mp h
      exact step_connect hreader hdue
    · cases h
  | receive =>
    rw [perform?] at h
    split at h
    · next wakeAt items staysOpen hreader =>
      obtain ⟨hdue, ⟨⟩⟩ := Option.ite_none_right_eq_some.mp h
      exact step_receive hreader hdue
    · cases h
  | enqueue =>
    rw [perform?] at h
    obtain ⟨hfull, h⟩ := Option.ite_none_left_eq_some.mp h
    have hroom : s.queue.length < queueCapacity := Nat.lt_of_not_le hfull
    split at h
    · next u items staysOpen hreader =>
      cases h
      exact .send hreader hroom
    · next e hreader =>
      cases h
      exact step_reportFailure hreader hroom
    · cases h
  | apply =>
    rw [perform?] at h
    split at h
    · cases h
    · next m rest hqueue =>
      cases h
      rw [applyMessage_eq]
      exact .apply hqueue
  | stop =>
    rw [perform?] at h
    split at h
    · cases h
    · cases h
    · next hfailing hstopped =>
      obtain ⟨hrequested, ⟨⟩⟩ := Option.ite_none_right_eq_some.mp h
      exact .stop hrequested hfailing hstopped
  | finish =>
    rw [perform?] at h
    split at h
    · next hreader hqueue hfinished =>
      cases h
      exact .finish hreader hqueue hfinished
    · cases h

/-- All that can happen to a synchronizer. -/
theorem step_of_next? {o : Occurrence} (h : s.next? o = some t) : s.Step o t := by
  cases o with
  | action jitter a => exact step_of_perform? h
  | time now =>
    cases h
    exact .time now
  | shutdown =>
    cases h
    exact .shutdown

namespace Run

variable {occurrences later : List Occurrence} {applied more : List Message}

lemma trans (h : s.Run occurrences applied t) (h' : t.Run later more u) :
    s.Run (occurrences ++ later) (applied ++ more) u := by
  induction h' with
  | refl =>
    rw [List.append_nil, List.append_nil]
    exact h
  | tail _ happens ih =>
    rw [← List.append_assoc, ← List.append_assoc]
    exact .tail ih happens

lemma single {o : Occurrence} (h : s.next? o = some t) : s.Run [o] (s.appliedIn o) t := .tail .refl h

end Run

/-! ## Runs that are computed -/

/-- What some occurrences make of a synchronizer, if they can happen one after the other, and the messages
that are applied in them. -/
def occur? (s : Synchronizer) : List Occurrence → Option (List Message × Synchronizer)
  | [] => some ([], s)
  | o :: rest =>
    match s.next? o with
    | none => none
    | some t => (t.occur? rest).map fun (more, u) => (s.appliedIn o ++ more, u)

/-- A list of occurrences that can be replayed is a run. -/
theorem run_of_occur? {occurrences : List Occurrence} {applied : List Message}
    (h : s.occur? occurrences = some (applied, t)) : s.Run occurrences applied t := by
  induction occurrences generalizing s applied with
  | nil =>
    cases h
    exact .refl
  | cons o rest ih =>
    rw [occur?] at h
    split at h
    · cases h
    · next next hnext =>
      obtain ⟨⟨more, u⟩, hrest, heq⟩ := Option.map_eq_some_iff.mp h
      cases heq
      exact (Run.single hnext).trans (ih hrest)

end Synchronizer
end FeatureFlags
