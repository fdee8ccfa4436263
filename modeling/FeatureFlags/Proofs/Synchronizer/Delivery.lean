import FeatureFlags.Proofs.Synchronizer.Runs
import Mathlib

/-!
# What a synchronizer applies

A script of connections determines a sequence of messages, `messagesDue`. Whatever the order in which the
reader and the applier act, the applier takes its messages from the front of this sequence.

* `Synchronizer.upcoming`: the messages that are still to come, those in the queue and those that the reader
  will add.
* `Synchronizer.upcoming_of_step`: no step changes them but for taking what it applies away from the front,
  unless it stops the reader.
* `Synchronizer.queue_of_step`: how the reader comes to a stop.
* `Synchronizer.isOver_of_step`: once the reader has stopped, or has a final failure to report, it does not
  open connections any more.
-/

namespace FeatureFlags

/-! ## What connections deliver -/

/-- The failure in which an item ends its connection, if it does: an error of the stream, or data that
cannot be decoded. -/
def StreamItem.failure? : StreamItem → Option StreamError
  | .event e =>
    match Update.ofEvent e.nameOrDefault e.data with
    | .error p => some (.invalidData p)
    | .ok _ => none
  | .pause _ => none
  | .failure e => some e

/-- The update that an item carries, if any. -/
def StreamItem.update? : StreamItem → Option Update
  | .event e =>
    match Update.ofEvent e.nameOrDefault e.data with
    | .error _ => none
    | .ok u => u
  | .pause _ => none
  | .failure _ => none

namespace Connection

/-- The updates that a connection delivers: those of its items before the first failure. -/
def updates : Connection → List Update
  | refused .. => []
  | opened _ items _ => (items.takeWhile (·.failure?.isNone)).filterMap StreamItem.update?

/-- The failure in which a connection ends: that of its first item with a failure, or its close. A connection
that stays open without a failure does not end. -/
def failure? : Connection → Option StreamError
  | refused _ e => some e
  | opened _ items staysOpen =>
    (items.findSome? StreamItem.failure?).or (if staysOpen then none else some .closed)

/-- The messages that a connection leads to: its updates, and one failure once it ends. -/
def messages (c : Connection) : List Message :=
  c.updates.map .update ++ c.failure?.toList.map .failed

/-- Whether no connection is attempted after this one: it does not end, or not in a failure that another
attempt may recover from. -/
def isLast (c : Connection) : Bool := !c.failure?.any (·.isRecoverable)

end Connection

/-- A segment with the key `beta` that includes some users. -/
def Segment.beta (version : Nat) (included : List String) : Segment :=
  { key := "beta", version, included, excluded := [], includedContexts := [], excludedContexts := []
    rules := [], salt := "", unbounded := false, unboundedContextKind := none, generation := none
    deleted := false }

/-- The data of a `put` event with an empty segment `beta`. -/
def putWithBeta : String :=
  "\x7b\"data\":\x7b\"segments\":\x7b\"beta\":\x7b\"key\":\"beta\",\"version\":1\x7d\x7d\x7d\x7d"

/-- The data of a `patch` event that includes a user in the segment `beta`. -/
def patchOfBeta : String :=
  "\x7b\"path\":\"/segments/beta\",\"data\":\x7b\"key\":\"beta\",\"version\":2,\"included\":[\"anna\"]\x7d\x7d"

/-- A connection that delivers a segment, then a later version of it, and is then closed. -/
def Connection.changingBeta : Connection :=
  opened 0 [.event ⟨some "put", putWithBeta⟩, .event ⟨some "patch", patchOfBeta⟩] false

/-- The updates of `Connection.changingBeta`. -/
def updatesOfBeta : List Message :=
  [.update (.init ⟨[], [("beta", .ofSegment (.beta 1 []))]⟩),
    .update (.upsert .segments "beta" (.ofSegment (.beta 2 ["anna"])))]

/-- The messages that a script leads to: those of its connections in order, up to the last one that is
attempted. -/
def messagesDue : List Connection → List Message
  | [] => []
  | c :: rest => c.messages ++ if c.isLast then [] else messagesDue rest

/-- A failure after which there is no other attempt. -/
def Message.IsFinal (m : Message) : Prop := ∃ e, m = .failed e ∧ e.isRecoverable = false

/-- The reader will not open another connection: it has stopped, or it is about to report a final failure. -/
def Reader.IsOver : Reader → Prop
  | .failing e => e.isRecoverable = false
  | .stopped => True
  | _ => False

/-- What is due is a prefix of all the script would say, since a final failure ends it early. -/
lemma messagesDue_prefix_flatMap (script : List Connection) :
    messagesDue script <+: script.flatMap Connection.messages := by
  induction script with
  | nil => exact List.prefix_refl []
  | cons c rest ih =>
    rw [messagesDue, List.flatMap_cons, List.prefix_append_right_inj]
    split
    · exact List.nil_prefix
    · exact ih

/-- An item is a failure, an update or nothing. -/
lemma StreamItem.message?_eq (item : StreamItem) :
    item.message? = (item.failure?.map .failed).or (item.update?.map .update) := by
  cases item with
  | event e =>
    rw [message?, failure?, update?]
    cases Update.ofEvent e.nameOrDefault e.data <;> rfl
  | pause duration => rfl
  | failure e => rfl

section

variable (delay : Nat) (item : StreamItem) (rest : List StreamItem) (staysOpen : Bool)
  (script : List Connection)

/-- A connection that was refused leads to its failure, and to what comes after it if that is worth
another attempt. -/
lemma messagesDue_refused (e : StreamError) :
    messagesDue (.refused delay e :: script) =
      .failed e :: if e.isRecoverable then messagesDue script else [] := by
  cases h : e.isRecoverable <;>
    simp [messagesDue, Connection.messages, Connection.isLast, Connection.updates, Connection.failure?, h]

/-- A connection that has no items left stays open or is closed. -/
lemma messagesDue_opened_nil :
    messagesDue (.opened delay [] staysOpen :: script) =
      if staysOpen then [] else messagesDue (.refused 0 .closed :: script) := by
  cases staysOpen <;> rfl

/-- A connection whose first item leads to a failure ends with it, and any other item comes before the
rest. -/
lemma messagesDue_opened_cons :
    messagesDue (.opened delay (item :: rest) staysOpen :: script) =
      match item.message? with
      | none => messagesDue (.opened delay rest staysOpen :: script)
      | some (.update u) => .update u :: messagesDue (.opened delay rest staysOpen :: script)
      | some (.failed e) => messagesDue (.refused delay e :: script) := by
  rw [StreamItem.message?_eq]
  cases hfailure : item.failure? with
  | some e => simp [messagesDue, Connection.messages, Connection.isLast, Connection.updates,
      Connection.failure?, hfailure]
  | none =>
    cases hupdate : item.update? <;>
      simp [messagesDue, Connection.messages, Connection.isLast, Connection.updates,
        Connection.failure?, hfailure, hupdate]

end

lemma Message.not_isFinal_update (u : Update) : ¬(Message.update u).IsFinal := by
  rintro ⟨e, heq, -⟩
  cases heq

/-- A failure is final exactly when it cannot be recovered from. -/
lemma Message.isFinal_failed_iff (e : StreamError) :
    (Message.failed e).IsFinal ↔ e.isRecoverable = false := by
  constructor
  · rintro ⟨e', heq, he'⟩
    cases heq
    exact he'
  · exact fun h => ⟨e, rfl, h⟩

namespace Connection

variable {c : Connection} {m : Message}

/-- A connection that is not the last has no final message. -/
lemma not_isFinal_of_mem_messages (h : c.isLast = false) (hm : m ∈ c.messages) : ¬m.IsFinal := by
  rw [messages] at hm
  rcases List.mem_append.mp hm with hm | hm
  · obtain ⟨u, -, rfl⟩ := List.mem_map.mp hm
    exact Message.not_isFinal_update u
  · obtain ⟨e, he, rfl⟩ := List.mem_map.mp hm
    rw [Option.mem_toList] at he
    rw [isLast, he] at h
    rw [Message.isFinal_failed_iff]
    simpa using h

/-- Only the last message of a connection can be final. -/
lemma not_isFinal_of_mem_dropLast_messages (hm : m ∈ c.messages.dropLast) : ¬m.IsFinal := by
  have hupdate : ∀ m ∈ c.updates.map Message.update, ¬m.IsFinal := by
    intro m hm
    obtain ⟨u, -, rfl⟩ := List.mem_map.mp hm
    exact Message.not_isFinal_update u
  rw [messages] at hm
  cases hfailure : c.failure? with
  | none =>
    rw [hfailure, Option.toList_none, List.map_nil, List.append_nil] at hm
    exact hupdate m (List.dropLast_subset _ hm)
  | some e =>
    rw [hfailure, Option.toList_some, List.map_singleton, List.dropLast_concat] at hm
    exact hupdate m hm

end Connection

/-- Only the last message that a script leads to can be a final failure. -/
lemma not_isFinal_of_mem_dropLast_messagesDue {script : List Connection} {m : Message}
    (hm : m ∈ (messagesDue script).dropLast) : ¬m.IsFinal := by
  induction script with
  | nil => cases hm
  | cons c rest ih =>
    rw [messagesDue] at hm
    by_cases hlast : c.isLast = true
    · rw [if_pos hlast, List.append_nil] at hm
      exact Connection.not_isFinal_of_mem_dropLast_messages hm
    · rw [if_neg hlast, List.dropLast_append] at hm
      have hc : c.isLast = false := Bool.eq_false_iff.mpr hlast
      split at hm
      · exact Connection.not_isFinal_of_mem_messages hc (List.dropLast_subset _ hm)
      · rcases List.mem_append.mp hm with hm | hm
        · exact Connection.not_isFinal_of_mem_messages hc hm
        · exact ih hm

/-- What is followed by another message is no final failure. -/
theorem not_isFinal_of_followed {script : List Connection} {front : List Message} {m : Message}
    (h : front ++ [m] <+: messagesDue script) : ∀ m' ∈ front, ¬m'.IsFinal := by
  obtain ⟨back, hback⟩ := h
  intro m' hm'
  apply not_isFinal_of_mem_dropLast_messagesDue
  rw [← hback, List.append_assoc, List.dropLast_append_of_ne_nil (by simp)]
  exact List.mem_append_left _ hm'

namespace Synchronizer

/-! ## Messages that are still to come -/

/-- The messages that the reader will put into the queue unless it is stopped. -/
def outstanding (s : Synchronizer) : List Message :=
  match s.reader with
  | .pausing _ => messagesDue s.script
  | .connecting _ c => messagesDue (c :: s.script)
  | .hanging => []
  | .reading _ items staysOpen => messagesDue (.opened 0 items staysOpen :: s.script)
  | .sending u items staysOpen => .update u :: messagesDue (.opened 0 items staysOpen :: s.script)
  | .failing e => messagesDue (.refused 0 e :: s.script)
  | .stopped => []

/-- The messages that the applier will take unless the reader is stopped. -/
def upcoming (s : Synchronizer) : List Message := s.queue ++ s.outstanding

variable {s t : Synchronizer} {o : Occurrence} {occurrences : List Occurrence} {applied : List Message}

/-- A step takes the messages that it applies away from the front of those that are to come, unless it
stops the reader. -/
theorem upcoming_of_step (h : s.Step o t) (hstop : ∀ jitter, o ≠ .action jitter .stop) :
    s.appliedIn o ++ t.upcoming = s.upcoming := by
  cases h with
  | attempt pausing _ next => simp [appliedIn, upcoming, outstanding, pausing, next]
  | attemptInVain pausing _ exhausted =>
    simp [appliedIn, upcoming, outstanding, pausing, exhausted, messagesDue]
  | refused connecting => simp [appliedIn, upcoming, outstanding, connecting, messagesDue_refused]
  | @opened jitter wakeAt delay items staysOpen connecting =>
    -- how long the attempt took does not matter for what the connection delivers
    have hdelay : messagesDue (.opened delay items staysOpen :: s.script) =
      messagesDue (.opened 0 items staysOpen :: s.script) := rfl
    simp [appliedIn, upcoming, outstanding, connecting, hdelay]
  | stayOpen reading => simp [appliedIn, upcoming, outstanding, reading, messagesDue_opened_nil]
  | close reading => simp [appliedIn, upcoming, outstanding, reading, messagesDue_opened_nil]
  | @pause jitter wakeAt duration rest staysOpen reading =>
    have hmessage : (StreamItem.pause duration).message? = none := rfl
    simp [appliedIn, upcoming, outstanding, reading, messagesDue_opened_cons, hmessage]
  | skip reading _ message | take reading _ message | fail reading _ message =>
    simp [appliedIn, upcoming, outstanding, reading, messagesDue_opened_cons, message]
  | send sending => simp [appliedIn, upcoming, outstanding, sending]
  | retry failing _ verdict | giveUp failing _ verdict =>
    simp [appliedIn, upcoming, outstanding, failing, messagesDue_refused, verdict]
  | apply queued => simp [appliedIn, upcoming, outstanding, queued]
  | stop => exact absurd rfl (hstop _)
  | finish | time | shutdown => rfl

/-- What a shutdown drops are messages at the end. -/
lemma upcoming_prefix_of_step (h : s.Step o t) : s.appliedIn o ++ t.upcoming <+: s.upcoming := by
  by_cases hstop : ∃ jitter, o = .action jitter .stop
  · obtain ⟨jitter, rfl⟩ := hstop
    cases h with
    | stop => exact (List.prefix_append_right_inj s.queue).mpr List.nil_prefix
  · have hsame := upcoming_of_step h fun jitter heq => hstop ⟨jitter, heq⟩
    exact ⟨[], by rw [hsame, List.append_nil]⟩

/-- In every run the applied messages are a part of those that were to come, from the front. -/
lemma Run.upcoming_isPrefix (h : s.Run occurrences applied t) : applied ++ t.upcoming <+: s.upcoming := by
  induction h with
  | refl => exact List.prefix_refl _
  | tail _ happens ih =>
    rw [List.append_assoc]
    refine List.IsPrefix.trans ?_ ih
    exact (List.prefix_append_right_inj _).mpr (upcoming_prefix_of_step (step_of_next? happens))

/-- Unless a shutdown stops the reader, no message is lost. -/
lemma Run.upcoming_eq (h : s.Run occurrences applied t)
    (hstop : ∀ jitter, .action jitter .stop ∉ occurrences) : applied ++ t.upcoming = s.upcoming := by
  induction h with
  | refl => rfl
  | @tail occurrences applied t o u before happens ih =>
    have hbefore : ∀ jitter, .action jitter .stop ∉ occurrences :=
      fun jitter hmem => hstop jitter (List.mem_append_left _ hmem)
    have hlast : ∀ jitter, o ≠ .action jitter .stop := by
      rintro jitter rfl
      exact hstop jitter (List.mem_append_right _ List.mem_cons_self)
    rw [List.append_assoc, upcoming_of_step (step_of_next? happens) hlast, ih hbefore]

/-! ## When the reader stops -/

/-- What a step puts into the queue, and how it may stop the reader: by a shutdown, or since it reports a
final failure. -/
theorem queue_of_step (h : s.Step o t) :
    ∃ enqueued, s.appliedIn o ++ t.queue = s.queue ++ enqueued ∧
      (t.reader = .stopped ↔
        s.reader = .stopped ∨ (∃ jitter, .action jitter .stop = o) ∨ ∃ m ∈ enqueued, m.IsFinal) := by
  cases h with
  | attempt reader | attemptInVain reader | refused reader | opened reader | stayOpen reader
  | close reader | pause reader | skip reader | take reader | fail reader =>
    exact ⟨[], by simp [appliedIn], by simp [reader]⟩
  | @send jitter u items staysOpen sending =>
    exact ⟨[.update u], by simp [appliedIn], by simp [sending, Message.not_isFinal_update]⟩
  | @retry jitter e delay backoff failing _ recoverable =>
    exact ⟨[.failed e], by simp [appliedIn], by simp [failing, Message.isFinal_failed_iff, recoverable]⟩
  | @giveUp jitter e failing _ final =>
    exact ⟨[.failed e], by simp [appliedIn], by simp [Message.isFinal_failed_iff, final]⟩
  | apply queued => exact ⟨[], by simp [appliedIn, queued], by simp⟩
  | stop => exact ⟨[], by simp [appliedIn], by simp⟩
  | finish | time | shutdown =>
    exact ⟨[], by simp [appliedIn, advance, requestShutdown], by simp [advance, requestShutdown]⟩

/-- The reader has stopped exactly if it has obeyed a shutdown or reported a final failure. -/
lemma Run.reader_eq_stopped_iff {settings : BackoffSettings} {script : List Connection}
    (h : (start settings script).Run occurrences applied t) :
    t.reader = .stopped ↔
      (∃ jitter, .action jitter .stop ∈ occurrences) ∨ ∃ m ∈ applied ++ t.queue, m.IsFinal := by
  induction h with
  | refl => simp [start]
  | @tail occurrences applied t o u before happens ih =>
    obtain ⟨enqueued, hqueue, hstopped⟩ := queue_of_step (step_of_next? happens)
    rw [List.append_assoc, hqueue, hstopped, ih, ← List.append_assoc]
    simp only [List.mem_append, List.mem_singleton, or_and_right, exists_or, or_assoc, or_left_comm]

/-- Only a requested shutdown stops the reader, and only a request requests one. -/
lemma requested_of_step (h : s.Step o t) :
    (t.shutdownRequested = true → s.shutdownRequested = true ∨ .shutdown = o) ∧
      ∀ jitter, .action jitter .stop = o → s.shutdownRequested = true := by
  cases h with
  | stop requested => exact ⟨.inl, fun _ _ => requested⟩
  | shutdown => exact ⟨fun _ => .inr rfl, fun _ heq => by cases heq⟩
  | _ => exact ⟨.inl, fun _ heq => by cases heq⟩

/-- A synchronizer stops only because a shutdown was asked for. -/
lemma Run.shutdown_mem {settings : BackoffSettings} {script : List Connection}
    (h : (start settings script).Run occurrences applied t) :
    (t.shutdownRequested = true → .shutdown ∈ occurrences) ∧
      ∀ jitter, .action jitter .stop ∈ occurrences → .shutdown ∈ occurrences := by
  induction h with
  | refl => simp [start]
  | @tail occurrences applied t o u before happens ih =>
    obtain ⟨hrequested, hstop⟩ := requested_of_step (step_of_next? happens)
    refine ⟨fun hu => ?_, fun jitter hmem => ?_⟩
    · rcases hrequested hu with ht | rfl
      · exact List.mem_append_left _ (ih.1 ht)
      · exact List.mem_append_right _ List.mem_cons_self
    · rcases List.mem_append.mp hmem with hmem | hmem
      · exact List.mem_append_left _ (ih.2 jitter hmem)
      · exact List.mem_append_left _ (ih.1 (hstop jitter (List.mem_singleton.mp hmem)))

/-- A synchronizer that has finished has nothing left to do. -/
lemma Run.of_finished {settings : BackoffSettings} {script : List Connection}
    (h : (start settings script).Run occurrences applied t) :
    t.finished = true → t.reader = .stopped ∧ t.queue = [] := by
  induction h with
  | refl => simp [start]
  | tail _ happens ih =>
    intro hfinished
    cases step_of_next? happens with
    | attempt reader | attemptInVain reader | refused reader | opened reader | stayOpen reader
    | close reader | pause reader | skip reader | take reader | fail reader | send reader
    | retry reader | giveUp reader => cases reader.symm.trans (ih hfinished).1
    | apply queued => cases queued.symm.trans (ih hfinished).2
    | stop requested notFailing running => exact absurd (ih hfinished).1 running
    | finish stopped empty => exact ⟨stopped, empty⟩
    | time | shutdown => exact ih hfinished

/-! ## The end of attempts -/

/-- A reader that is over stays over and makes no further attempt. -/
theorem isOver_of_step (h : s.Step o t) (hover : s.reader.IsOver) :
    t.reader.IsOver ∧ t.attempts = s.attempts ∧
      ∀ jitter, .action jitter .attempt ≠ o ∧ .action jitter .connect ≠ o := by
  cases h with
  | attempt reader | attemptInVain reader | refused reader | opened reader | stayOpen reader
  | close reader | pause reader | skip reader | take reader | fail reader | send reader =>
    simp [reader, Reader.IsOver] at hover
  | retry reader _ recoverable => simp [reader, Reader.IsOver, recoverable] at hover
  | giveUp | stop => exact ⟨trivial, rfl, by simp⟩
  | apply | finish | time | shutdown => exact ⟨hover, rfl, by simp⟩

/-- Once the reader is over, no connection is attempted or opened any more. -/
lemma Run.of_isOver (h : s.Run occurrences applied t) (hover : s.reader.IsOver) :
    t.reader.IsOver ∧ t.attempts = s.attempts ∧
      ∀ jitter, .action jitter .attempt ∉ occurrences ∧ .action jitter .connect ∉ occurrences := by
  induction h with
  | refl => exact ⟨hover, rfl, by simp⟩
  | tail _ happens ih =>
    obtain ⟨hnext, hattempts, hneither⟩ := isOver_of_step (step_of_next? happens) ih.1
    refine ⟨hnext, hattempts.trans ih.2.1, fun jitter => ?_⟩
    simp only [List.mem_append, List.mem_singleton, not_or]
    exact ⟨⟨(ih.2.2 jitter).1, (hneither jitter).1⟩, (ih.2.2 jitter).2, (hneither jitter).2⟩

/-! ## What is applied -/

/-- A step changes the store by the message it applies, and by nothing else. -/
lemma store_of_step (h : s.Step o t) : t.store = (s.appliedIn o).foldl Store.afterMessage s.store := by
  cases h with
  | apply queued => simp [appliedIn, queued]
  | _ => rfl

/-- The store holds what the applied messages make of it, one after the other. -/
lemma Run.store_eq (h : s.Run occurrences applied t) :
    t.store = applied.foldl Store.afterMessage s.store := by
  induction h with
  | refl => rfl
  | tail _ happens ih => rw [store_of_step (step_of_next? happens), ih, List.foldl_append]

variable {settings : BackoffSettings} {script : List Connection}

lemma upcoming_start : (start settings script).upcoming = messagesDue script := rfl

/-- A synchronizer that finishes without a shutdown has applied all messages, up to a final failure. -/
lemma Run.applied_eq_of_finished (h : (start settings script).Run occurrences applied s)
    (hshutdown : .shutdown ∉ occurrences) (hfinished : s.finished = true) :
    applied = messagesDue script ∧
      ∃ front e, applied = front ++ [.failed e] ∧ e.isRecoverable = false ∧ ∀ m ∈ front, ¬m.IsFinal := by
  obtain ⟨hstopped, hqueue⟩ := h.of_finished hfinished
  have hstop : ∀ jitter, .action jitter .stop ∉ occurrences :=
    fun jitter hmem => hshutdown (h.shutdown_mem.2 jitter hmem)
  have happlied : applied = messagesDue script := by
    have hall := h.upcoming_eq hstop
    rwa [upcoming, outstanding, hstopped, hqueue, List.append_nil, List.append_nil, upcoming_start] at hall
  obtain ⟨m, hm, e, rfl, he⟩ : ∃ m ∈ applied, m.IsFinal := by
    rcases h.reader_eq_stopped_iff.mp hstopped with ⟨jitter, hmem⟩ | hfinal
    · exact absurd hmem (hstop jitter)
    · rwa [hqueue, List.append_nil] at hfinal
  refine ⟨happlied, ?_⟩
  -- only the last message can be a final failure
  rcases List.eq_nil_or_concat applied with rfl | ⟨front, last, rfl⟩
  · cases hm
  · rw [List.concat_eq_append] at happlied hm ⊢
    have hprefix : front ++ [last] <+: messagesDue script := ⟨[], by rw [happlied, List.append_nil]⟩
    have hfront := not_isFinal_of_followed hprefix
    rcases List.mem_append.mp hm with hm | hm
    · exact absurd ⟨e, rfl, he⟩ (hfront _ hm)
    · exact ⟨front, e, by rw [List.mem_singleton.mp hm], he, hfront⟩

/-- A synchronizer applies messages in the order in which its connections delivered them: for each connection
the updates before its first failure, and then this failure. However its actions interleave, what it has
applied is the beginning of this sequence, and its store holds what these messages make of an empty store.
If it finishes without a shutdown, it has applied all of the sequence, which ends with the first failure
that is final. No connection is attempted or opened once the reader has obeyed a shutdown or met a final
failure. -/
theorem applies_in_order (h : (start settings script).Run occurrences applied s) :
    (applied <+: messagesDue script ∧ messagesDue script <+: script.flatMap Connection.messages) ∧
    s.store = applied.foldl Store.afterMessage .empty ∧
    (.shutdown ∉ occurrences → s.finished = true →
      applied = messagesDue script ∧
        ∃ front e, applied = front ++ [.failed e] ∧ e.isRecoverable = false ∧
          ∀ m ∈ front, ¬m.IsFinal) ∧
    ((∃ jitter, .action jitter .stop ∈ occurrences) ∨
        (∃ e, s.reader = .failing e ∧ e.isRecoverable = false) ∨ (∃ m ∈ applied ++ s.queue, m.IsFinal) →
      ∀ later more t, s.Run later more t →
        t.attempts = s.attempts ∧
          ∀ jitter, .action jitter .attempt ∉ later ∧ .action jitter .connect ∉ later) := by
  refine ⟨⟨?_, messagesDue_prefix_flatMap script⟩, h.store_eq, h.applied_eq_of_finished, ?_⟩
  · exact (List.prefix_append _ _).trans h.upcoming_isPrefix
  -- each of the three endings leaves the reader over
  · intro hend later more t hlater
    refine (hlater.of_isOver ?_).2
    rcases hend with hstop | ⟨e, hreader, he⟩ | hfinal
    · rw [h.reader_eq_stopped_iff.mpr (.inl hstop)]
      trivial
    · rw [hreader]
      exact he
    · rw [h.reader_eq_stopped_iff.mpr (.inr hfinal)]
      trivial

/-- A synchronizer whose second attempt is turned away applies the segment of its first connection, the change
of this segment, the close and the refusal. It makes no third attempt. -/
theorem applies_in_order_unauthorized :
    ∃ s, (start ⟨0, 0, 0⟩ [.changingBeta, .refused 0 (.httpStatus 401), .changingBeta]).Run
        ([.attempt, .connect, .receive, .enqueue, .receive, .apply, .enqueue, .receive, .apply, .enqueue,
          .attempt, .connect, .apply, .enqueue, .apply, .finish].map (.action fun _ => 0))
        (updatesOfBeta ++ [.failed .closed, .failed (.httpStatus 401)]) s ∧
      s.finished = true ∧ s.store.get? .segments "beta" = some (.ofSegment (.beta 2 ["anna"])) ∧
      s.store = (updatesOfBeta ++ [Message.failed .closed, .failed (.httpStatus 401)]).foldl
        Store.afterMessage .empty ∧
      updatesOfBeta ++ [.failed .closed, .failed (.httpStatus 401)] =
        messagesDue [.changingBeta, .refused 0 (.httpStatus 401), .changingBeta] ∧
      ∀ later more t, s.Run later more t → t.attempts = s.attempts := by
  -- the run is replayed: two updates, a connection that closes, and one that is refused for good
  have hoccur :
      (start ⟨0, 0, 0⟩ [.changingBeta, .refused 0 (.httpStatus 401), .changingBeta]).occur?
        ([.attempt, .connect, .receive, .enqueue, .receive, .apply, .enqueue, .receive, .apply, .enqueue,
          .attempt, .connect, .apply, .enqueue, .apply, .finish].map (.action fun _ => 0)) =
      some (updatesOfBeta ++ [.failed .closed, .failed (.httpStatus 401)],
        { now := 0, backoff := ⟨⟨0, 0, 0⟩, 1, none⟩, script := [.changingBeta], reader := .stopped
          queue := [], shutdownRequested := false
          store := ⟨⟨[], [("beta", .ofSegment (.beta 2 ["anna"]))]⟩, true⟩
          status := ⟨.off, some (.httpStatus 401)⟩, finished := true, attempts := [0, 0] }) := by cbv
  have h := run_of_occur? hoccur
  obtain ⟨-, hstore, hall, hend⟩ := applies_in_order h
  have hdue := hall (by simp) rfl
  refine ⟨_, h, rfl, by rfl, hstore, hdue.1, fun later more t hlater => (hend ?_ later more t hlater).1⟩
  exact .inr (.inr ⟨.failed (.httpStatus 401), by simp, _, rfl, rfl⟩)

end Synchronizer
end FeatureFlags
