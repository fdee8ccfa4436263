import FeatureFlags.Proofs.Store.Convergence
import FeatureFlags.Proofs.Synchronizer.Delivery

/-!
# The published status

What the status of a synchronizer says about the messages that it has applied. The applier changes the state
message by message, without looking back; the state nevertheless tells which kind of message came last.

* `StateReflects`: what each state stands for, in terms of the applied messages.
* `StateReflects.concat`: a message keeps the state in step, as long as no final failure came before it.
  `not_isFinal_of_followed` is the reason why none does: the reader sends nothing after a final failure.
* `Synchronizer.Run.off_of_run`: a synchronizer that is off stays so.
-/

namespace FeatureFlags

namespace Message

/-- Whether a message is a complete set of data. -/
def isPut : Message → Bool
  | .update (.init _) => true
  | _ => false

/-- The failure that a message reports. -/
def failure? : Message → Option StreamError
  | .failed e => some e
  | .update _ => none

end Message

/-- The latest message that is a complete set of data or a failure. -/
def latestDecisive (applied : List Message) : Option Message :=
  (applied.filter fun m => m.isPut || m.failure?.isSome).getLast?

/-- What the states stand for while a synchronizer has not finished: a state is the one that some applied
messages lead to. -/
structure StateReflects (applied : List Message) (state : SyncState) : Prop where
  valid : state = .valid ↔ ∃ data, latestDecisive applied = some (.update (.init data))
  interrupted : state = .interrupted ↔ (∃ data, .update (.init data) ∈ applied) ∧
    ∃ e, latestDecisive applied = some (.failed e) ∧ e.isRecoverable = true
  initializing : state = .initializing ↔ (∀ data, .update (.init data) ∉ applied) ∧
    ∀ e, .failed e ∈ applied → e.isRecoverable = true
  off : state = .off ↔ ∃ m ∈ applied, m.IsFinal

section

variable {applied : List Message} {m : Message}

/-- The latest put or failure decides; an upsert does not. -/
lemma latestDecisive_concat (applied : List Message) (m : Message) :
    latestDecisive (applied ++ [m]) =
      if m.isPut || m.failure?.isSome then some m else latestDecisive applied := by
  rw [latestDecisive, List.filter_append]
  cases hdecisive : m.isPut || m.failure?.isSome with
  | true => simp [hdecisive]
  | false => simp [hdecisive, latestDecisive]

lemma mem_of_latestDecisive (h : latestDecisive applied = some m) : m ∈ applied :=
  List.mem_of_mem_filter (List.mem_of_getLast? h)

lemma latestDecisive_concat_failed (applied : List Message) (e : StreamError) :
    latestDecisive (applied ++ [.failed e]) = some (.failed e) := latestDecisive_concat applied (.failed e)

end

namespace StateReflects

variable {applied : List Message} {state : SyncState}

lemma nil : StateReflects [] .initializing := by
  constructor <;> simp [latestDecisive]

/-- Data has been received exactly if the state is `valid` or `interrupted`. -/
lemma exists_put_iff (h : StateReflects applied state) (hfinal : ∀ m ∈ applied, ¬m.IsFinal) :
    (∃ data, .update (.init data) ∈ applied) ↔ state = .valid ∨ state = .interrupted := by
  constructor
  · rintro ⟨data, hdata⟩
    cases hstate : state with
    | initializing => exact absurd hdata ((h.initializing.mp hstate).1 data)
    | valid => exact .inl rfl
    | interrupted => exact .inr rfl
    | off =>
      obtain ⟨m, hm, hmfinal⟩ := h.off.mp hstate
      exact absurd hmfinal (hfinal m hm)
  · rintro (hstate | hstate)
    · obtain ⟨data, hdata⟩ := h.valid.mp hstate
      exact ⟨data, mem_of_latestDecisive hdata⟩
    · exact (h.interrupted.mp hstate).1

lemma concat_init (hfinal : ∀ m ∈ applied, ¬m.IsFinal) (data : DataSet) :
    StateReflects (applied ++ [.update (.init data)]) .valid := by
  have hlatest : latestDecisive (applied ++ [.update (.init data)]) = some (.update (.init data)) :=
    latestDecisive_concat applied (.update (.init data))
  have hnone : ¬∃ m ∈ applied ++ [.update (.init data)], m.IsFinal := by
    simpa [or_imp, forall_and, Message.not_isFinal_update] using hfinal
  constructor
  case valid => exact iff_of_true rfl ⟨data, hlatest⟩
  case interrupted =>
    rw [hlatest]
    simp
  case initializing => exact iff_of_false nofun fun h => h.1 data (List.mem_append_right _ List.mem_cons_self)
  case off => exact iff_of_false nofun hnone

lemma concat_upsert (h : StateReflects applied state) (kind : DataKind) (key : String)
    (item : Descriptor) : StateReflects (applied ++ [.update (.upsert kind key item)]) state := by
  have hlatest : latestDecisive (applied ++ [.update (.upsert kind key item)]) = latestDecisive applied :=
    latestDecisive_concat applied (.update (.upsert kind key item))
  constructor
  case valid => rw [hlatest, h.valid]
  case interrupted =>
    rw [hlatest, h.interrupted]
    simp
  case initializing =>
    rw [h.initializing]
    simp
  case off =>
    rw [h.off]
    simp [or_and_right, exists_or, Message.not_isFinal_update]

/-- A recoverable failure interrupts a valid state and leaves an initializing one as it is. -/
lemma concat_recoverable (h : StateReflects applied state) (hfinal : ∀ m ∈ applied, ¬m.IsFinal)
    {e : StreamError} (he : e.isRecoverable = true) :
    StateReflects (applied ++ [.failed e]) (if state = .valid then .interrupted else state) := by
  have hlatest := latestDecisive_concat_failed applied e
  have hput := h.exists_put_iff hfinal
  have hnone : ¬∃ m ∈ applied ++ [.failed e], m.IsFinal := by
    simpa [or_imp, forall_and, Message.isFinal_failed_iff, he] using hfinal
  -- only a valid state is interrupted; another stays what it was
  by_cases hvalid : state = .valid
  · obtain ⟨data, hdata⟩ := hput.mpr (.inl hvalid)
    have hmem : .update (.init data) ∈ applied ++ [.failed e] := List.mem_append_left _ hdata
    rw [if_pos hvalid]
    constructor
    case valid =>
      rw [hlatest]
      simp
    case interrupted => exact iff_of_true rfl ⟨⟨data, hmem⟩, e, hlatest, he⟩
    case initializing => exact iff_of_false nofun fun h => h.1 data hmem
    case off => exact iff_of_false nofun hnone
  · rw [if_neg hvalid]
    constructor
    case valid =>
      rw [hlatest]
      simp [hvalid]
    case interrupted =>
      rw [hlatest]
      simp [hput, hvalid, he]
    case initializing =>
      rw [h.initializing]
      simp [or_imp, forall_and, he]
    case off =>
      rw [h.off]
      exact iff_of_false (fun ⟨m, hm, hmfinal⟩ => hfinal m hm hmfinal) hnone

/-- A final failure turns the state off for good. -/
lemma concat_unrecoverable (applied : List Message) {e : StreamError} (he : e.isRecoverable = false) :
    StateReflects (applied ++ [.failed e]) .off := by
  have hlatest := latestDecisive_concat_failed applied e
  have hmem : .failed e ∈ applied ++ [.failed e] := List.mem_append_right _ List.mem_cons_self
  constructor
  case valid =>
    rw [hlatest]
    simp
  case interrupted =>
    rw [hlatest]
    simp [he]
  case initializing => exact iff_of_false nofun fun h => by simp [h.2 e hmem] at he
  case off => exact iff_of_true rfl ⟨.failed e, hmem, e, rfl, he⟩

/-- A message keeps the state in step if no final failure came before it. -/
theorem concat {status : SyncStatus} (h : StateReflects applied status.state)
    (hfinal : ∀ m ∈ applied, ¬m.IsFinal) (m : Message) :
    StateReflects (applied ++ [m]) (status.afterMessage m).state := by
  cases m with
  | update u =>
    cases u with
    | init data => exact concat_init hfinal data
    | upsert kind key item => exact h.concat_upsert kind key item
  | failed e =>
    cases he : e.isRecoverable with
    | true =>
      have hstate := h.concat_recoverable hfinal he
      simpa [SyncStatus.afterMessage, SyncStatus.afterFailure, he] using hstate
    | false =>
      have hstate := concat_unrecoverable applied he
      simpa [SyncStatus.afterMessage, SyncStatus.afterFailure, he] using hstate

end StateReflects

/-- A store is initialized once it has been given a complete set of data. -/
lemma Store.initialized_foldl_afterMessage (s : Store) (applied : List Message) :
    (applied.foldl afterMessage s).initialized = true ↔
      s.initialized = true ∨ ∃ data, .update (.init data) ∈ applied := by
  induction applied generalizing s with
  | nil => simp
  | cons m rest ih =>
    rw [List.foldl_cons, ih]
    cases m with
    | update u => cases u <;> simp [afterMessage, initialized_apply, Update.isInit]
    | failed e => simp [afterMessage]

namespace Synchronizer

variable {s t : Synchronizer} {o : Occurrence} {occurrences later : List Occurrence}
  {applied more : List Message} {settings : BackoffSettings} {script : List Connection}

/-- The status changes with the applied messages only, until the synchronizer finishes. -/
lemma status_of_step (h : s.Step o t) :
    t.finished = s.finished ∧ t.status = (s.appliedIn o).foldl SyncStatus.afterMessage s.status ∨
      s.finished = false ∧ t.finished = true ∧ s.appliedIn o = [] ∧
        t.status = { s.status with state := .off } := by
  cases h with
  | apply queued => exact .inl ⟨rfl, by simp [appliedIn, queued]⟩
  | finish _ _ running => exact .inr ⟨running, rfl, rfl, rfl⟩
  | _ => exact .inl ⟨rfl, rfl⟩

/-- The last error reported is the last failure applied. -/
lemma lastError_foldl_afterMessage (status : SyncStatus) (applied : List Message) :
    (applied.foldl SyncStatus.afterMessage status).lastError =
      (applied.filterMap Message.failure?).getLast?.or status.lastError := by
  induction applied using List.reverseRecOn with
  | nil => rfl
  | append_singleton applied m ih =>
    rw [List.foldl_append, List.filterMap_append, List.getLast?_append, Option.or_assoc, ← ih]
    cases m with
    | update u => cases u <;> rfl
    | failed e => rfl

namespace Run

/-- The last error is that of the failure that was applied last. -/
lemma lastError_eq (h : s.Run occurrences applied t) :
    t.status.lastError = (applied.filterMap Message.failure?).getLast?.or s.status.lastError := by
  induction h with
  | refl => rfl
  | tail _ happens ih =>
    rw [List.filterMap_append, List.getLast?_append, Option.or_assoc, ← ih]
    rcases status_of_step (step_of_next? happens) with ⟨-, hstatus⟩ | ⟨-, -, hnone, hstatus⟩
    · rw [hstatus, lastError_foldl_afterMessage]
    · rw [hstatus, hnone]
      rfl

lemma finished_of_finished (h : s.Run occurrences applied t) (hs : s.finished = true) :
    t.finished = true := by
  induction h with
  | refl => exact hs
  | tail _ happens ih =>
    rcases status_of_step (step_of_next? happens) with ⟨hsame, -⟩ | ⟨-, hfinished, -⟩
    · rw [hsame, ih]
    · exact hfinished

/-- The state is off once the synchronizer has finished, and reflects the applied messages before. -/
lemma off_or_reflects (h : (start settings script).Run occurrences applied s) :
    s.finished = true ∧ s.status.state = .off ∨
      s.finished = false ∧ StateReflects applied s.status.state := by
  induction h with
  | refl => exact .inr ⟨rfl, .nil⟩
  | @tail occurrences applied t o u before happens ih =>
    cases step_of_next? happens with
    | @apply jitter m rest queued =>
      rcases ih with ⟨hfinished, -⟩ | ⟨hrunning, hreflects⟩
      · cases queued.symm.trans (before.of_finished hfinished).2
      · -- what was applied before `m` is followed by it among the messages due, so none of it is final
        have happlied : t.appliedIn (.action jitter .apply) = [m] := by simp [appliedIn, queued]
        have hprefix := (List.prefix_append _ _).trans (before.tail happens).upcoming_isPrefix
        rw [happlied] at hprefix ⊢
        exact .inr ⟨hrunning, hreflects.concat (not_isFinal_of_followed hprefix) m⟩
    | finish => exact .inl ⟨rfl, rfl⟩
    | _ => simpa [appliedIn, advance, requestShutdown] using ih

/-- The state is off exactly if the synchronizer has finished or a final failure was applied. -/
lemma state_eq_off_iff (h : (start settings script).Run occurrences applied s) :
    s.status.state = .off ↔ s.finished = true ∨ ∃ m ∈ applied, m.IsFinal := by
  rcases h.off_or_reflects with ⟨hfinished, hoff⟩ | ⟨hrunning, hreflects⟩
  · exact iff_of_true hoff (.inl hfinished)
  · rw [hreflects.off, hrunning]
    simp

/-- A synchronizer that is off stays so. -/
theorem off_of_run (h : (start settings script).Run occurrences applied s) (hoff : s.status.state = .off)
    (hlater : s.Run later more t) : t.status.state = .off := by
  rw [h.state_eq_off_iff] at hoff
  rw [(h.trans hlater).state_eq_off_iff]
  rcases hoff with hfinished | ⟨m, hm, hmfinal⟩
  · exact .inl (hlater.finished_of_finished hfinished)
  · exact .inr ⟨m, List.mem_append_left _ hm, hmfinal⟩

/-- While the status says that there is data, the store is initialized. -/
lemma initialized_of_state (h : (start settings script).Run occurrences applied s)
    (hstate : s.status.state = .valid ∨ s.status.state = .interrupted) : s.store.initialized = true := by
  rw [h.store_eq, Store.initialized_foldl_afterMessage]
  rcases h.off_or_reflects with ⟨-, hoff⟩ | ⟨-, hreflects⟩
  · simp [hoff] at hstate
  · rcases hstate with hvalid | hinterrupted
    · obtain ⟨data, hdata⟩ := hreflects.valid.mp hvalid
      exact .inr ⟨data, mem_of_latestDecisive hdata⟩
    · exact .inr (hreflects.interrupted.mp hinterrupted).1

end Run

/-- The published status reflects what was applied. The synchronizer is valid if the latest complete set of
data came after the latest failure, interrupted if it has data but a failure that may be recovered from came
after it, and initializing if there was neither data nor a final failure, in each case as long as it has not
finished. Once it is off, it stays so. Its last error is that of the failure applied last. So a synchronizer
that is valid or interrupted has an initialized store. -/
theorem status_reflects_applied (h : (start settings script).Run occurrences applied s) :
    (s.status.state = .valid ↔
      s.finished = false ∧ ∃ data, latestDecisive applied = some (.update (.init data))) ∧
    (s.status.state = .interrupted ↔
      s.finished = false ∧ (∃ data, .update (.init data) ∈ applied) ∧
        ∃ e, latestDecisive applied = some (.failed e) ∧ e.isRecoverable = true) ∧
    (s.status.state = .initializing ↔
      s.finished = false ∧ (∀ data, .update (.init data) ∉ applied) ∧
        ∀ e, .failed e ∈ applied → e.isRecoverable = true) ∧
    (s.status.state = .off → ∀ later more t, s.Run later more t → t.status.state = .off) ∧
    s.status.lastError = (applied.filterMap Message.failure?).getLast? ∧
    (s.status.state = .valid ∨ s.status.state = .interrupted → s.store.initialized = true) := by
  have hkeeps : s.status.state = .off → ∀ later more t, s.Run later more t → t.status.state = .off :=
    fun hoff _ _ _ hlater => h.off_of_run hoff hlater
  have hlast : s.status.lastError = (applied.filterMap Message.failure?).getLast? := by
    rw [h.lastError_eq]
    exact Option.or_none
  -- a synchronizer that is finished is off, and what is applied decides until then
  rcases h.off_or_reflects with ⟨hfinished, hoff⟩ | ⟨hrunning, hreflects⟩
  · refine ⟨?_, ?_, ?_, hkeeps, hlast, h.initialized_of_state⟩ <;> simp [hfinished, hoff]
  · refine ⟨?_, ?_, ?_, hkeeps, hlast, h.initialized_of_state⟩
    · simpa [hrunning] using hreflects.valid
    · simpa [hrunning] using hreflects.interrupted
    · simpa [hrunning] using hreflects.initializing

/-- A synchronizer that lost its first connection after it had received data and a change of it is
interrupted, with the data in its store. -/
theorem status_reflects_applied_closed :
    ∃ s, (start ⟨0, 0, 0⟩ [.changingBeta]).Run
        ([.attempt, .connect, .receive, .enqueue, .receive, .enqueue, .apply, .receive, .apply, .enqueue,
          .apply].map (.action fun _ => 0))
        (updatesOfBeta ++ [.failed .closed]) s ∧
      s.finished = false ∧ s.status.state = .interrupted ∧ s.status.lastError = some .closed ∧
      s.store.initialized = true := by
  -- the connection puts and patches the segment, then closes
  have hoccur :
      (start ⟨0, 0, 0⟩ [.changingBeta]).occur?
        ([.attempt, .connect, .receive, .enqueue, .receive, .enqueue, .apply, .receive, .apply, .enqueue,
          .apply].map (.action fun _ => 0)) =
      some (updatesOfBeta ++ [.failed .closed],
        { now := 0, backoff := ⟨⟨0, 0, 0⟩, 1, none⟩, script := [], reader := .pausing 0, queue := []
          shutdownRequested := false, store := ⟨⟨[], [("beta", .ofSegment (.beta 2 ["anna"]))]⟩, true⟩
          status := ⟨.interrupted, some .closed⟩, finished := false, attempts := [0] }) := by cbv
  have h := run_of_occur? hoccur
  obtain ⟨-, hinterrupted, -, -, hlast, hstore⟩ := status_reflects_applied h
  have hstate := hinterrupted.mpr ⟨rfl, ⟨_, List.mem_cons_self⟩, .closed, rfl, rfl⟩
  exact ⟨_, h, rfl, hstate, hlast, hstore (.inr hstate)⟩

end Synchronizer
end FeatureFlags
