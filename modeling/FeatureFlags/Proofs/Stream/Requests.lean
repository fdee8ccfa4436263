import FeatureFlags.Proofs.Stream.Chunking
import FeatureFlags.Stream.EventStream

/-!
# Items of a stream

A body is heard up to a point: its end, a failure, or a silence that is too long. A stream gives the events that
its bytes up to there complete, and then the failure if there is one.

* `EventStream.next?_remaining`: the next item is the first of the items that remain, and the rest of them remain.
  The items that remain are the ready events, and what the rest of the body yields unless the stream has failed.
* `deliverFrom_heard`: what a body yields depends only on the chunks that are heard.
* `EventParser.takeLines_unfinished`: lines after the last empty one complete no event.
* `EventStream.answers_heard`: the answers to all requests.
-/

namespace FeatureFlags

/-! ## What is heard of a body -/

/-- Chunks, and silences that are not too long, given for how long the body has been silent before them and is
silent after them. -/
inductive Heard (timeout : Nat) : Nat → List BodyPart → Nat → Prop where
  | nil (silent : Nat) : Heard timeout silent [] silent
  | chunk {silent after : Nat} {bytes : List UInt8} {parts : List BodyPart} (h : Heard timeout 0 parts after) :
      Heard timeout silent (.chunk bytes :: parts) after
  | silence {silent after duration : Nat} {parts : List BodyPart} (hshort : silent + duration ≤ timeout)
      (h : Heard timeout (silent + duration) parts after) : Heard timeout silent (.silence duration :: parts) after

/-- Why no more of a body is heard, given for how long it has been silent: it is at its end, it fails, or the
silence is too long. What comes after that may be anything. -/
inductive Stops (timeout silent : Nat) : List BodyPart → Option StreamError → Prop where
  | atEnd : Stops timeout silent [] none
  | failure (e : StreamError) (rest : List BodyPart) : Stops timeout silent (.failure e :: rest) (some e)
  | silence {duration : Nat} (hlong : timeout < silent + duration) (rest : List BodyPart) :
      Stops timeout silent (.silence duration :: rest) (some .readTimeout)

/-- A body is heard up to some point, and then stops. -/
def HeardUntil (timeout : Nat) (body heard : List BodyPart) (failure : Option StreamError) : Prop :=
  ∃ rest silent, body = heard ++ rest ∧ Heard timeout 0 heard silent ∧ Stops timeout silent rest failure

/-- The chunks among the parts of a body. -/
def chunksOf (parts : List BodyPart) : List (List UInt8) :=
  parts.filterMap fun
    | .chunk bytes => some bytes
    | _ => none

/-- Every body is heard up to some point and then stops, for a failure or because it ends. -/
lemma exists_heard_stops (timeout silent : Nat) (body : List BodyPart) :
    ∃ heard rest after failure, body = heard ++ rest ∧ Heard timeout silent heard after ∧
      Stops timeout after rest failure := by
  induction body generalizing silent with
  | nil => exact ⟨[], [], silent, none, rfl, .nil silent, .atEnd⟩
  | cons part body ih =>
    cases part with
    | chunk bytes =>
      obtain ⟨heard, rest, after, failure, rfl, hheard, hstops⟩ := ih 0
      exact ⟨.chunk bytes :: heard, rest, after, failure, rfl, .chunk hheard, hstops⟩
    | failure e => exact ⟨[], _, silent, some e, rfl, .nil silent, .failure e body⟩
    | silence duration =>
      rcases Nat.lt_or_ge timeout (silent + duration) with hlong | hshort
      · exact ⟨[], _, silent, some .readTimeout, rfl, .nil silent, .silence hlong body⟩
      · obtain ⟨heard, rest, after, failure, rfl, hheard, hstops⟩ := ih (silent + duration)
        exact ⟨.silence duration :: heard, rest, after, failure, rfl, .silence hshort hheard, hstops⟩

/-- Nothing is delivered after the stop. -/
lemma deliverFrom_stops {timeout silent : Nat} {rest : List BodyPart} {failure : Option StreamError}
    (h : Stops timeout silent rest failure) (p : EventParser) :
    deliverFrom timeout silent p rest = ⟨[], failure⟩ := by
  cases h with
  | atEnd | failure => rfl
  | silence hlong => rw [deliverFrom, if_pos hlong]

/-- A body yields the events of the chunks that are heard, and then its failure. -/
theorem deliverFrom_heard {timeout silent after : Nat} {heard rest : List BodyPart}
    {failure : Option StreamError} (hheard : Heard timeout silent heard after)
    (hstops : Stops timeout after rest failure) (p : EventParser) :
    deliverFrom timeout silent p (heard ++ rest) = ⟨(p.pushAll (chunksOf heard)).1, failure⟩ := by
  induction hheard generalizing p with
  | nil silent => exact deliverFrom_stops hstops p
  | @chunk _ _ bytes parts _ ih =>
    have hlater := ih hstops (p.push bytes).2
    show Delivery.mk ((p.push bytes).1 ++ (deliverFrom timeout 0 (p.push bytes).2 (parts ++ rest)).events)
      (deliverFrom timeout 0 (p.push bytes).2 (parts ++ rest)).failure = _
    rw [hlater]
    rfl
  | silence hshort _ ih =>
    rw [List.cons_append, deliverFrom, if_neg (Nat.not_lt.mpr hshort), ih hstops]
    rfl

/-! ## The items that remain -/

/-- The items of a delivery: its events, and then its failure if there is one. -/
def Delivery.items (d : Delivery) : List StreamResult := d.events.map .ok ++ d.failure.toList.map .error

namespace EventStream

/-- The items that a stream has still to give. -/
def remaining (timeout : Nat) (s : EventStream) : List StreamResult :=
  s.ready.map .ok ++ if s.done then [] else (deliverFrom timeout 0 s.parser s.body).items

/-- One item that is awaited is the first of those that remain. -/
lemma await_remaining (timeout silent : Nat) (p : EventParser) (body : List BodyPart) :
    match await timeout silent p body with
    | some (item, s) => (deliverFrom timeout silent p body).items = item :: s.remaining timeout
    | none => (deliverFrom timeout silent p body).items = [] := by
  induction body generalizing silent p with
  | nil => rfl
  | cons part body ih =>
    cases part with
    | failure e => rfl
    -- silence adds up until bytes arrive, and too much of it is a failure
    | silence duration =>
      rw [await, deliverFrom]
      by_cases hlong : timeout < silent + duration
      · rw [if_pos hlong, if_pos hlong]
        rfl
      · rw [if_neg hlong, if_neg hlong]
        exact ih (silent + duration) p
    | chunk bytes =>
      rw [await, deliverFrom]
      -- a chunk without a complete event is passed over, otherwise its first event is the answer
      rcases hpush : p.push bytes with ⟨_ | ⟨event, ready⟩, p'⟩
      · exact ih 0 p'
      · simp [Delivery.items, remaining]

/-- The next item is the first of those that remain, and the others remain after it. -/
theorem next?_remaining (timeout : Nat) (s : EventStream) :
    match s.next? timeout with
    | some (item, s') => s.remaining timeout = item :: s'.remaining timeout
    | none => s.remaining timeout = [] := by
  obtain ⟨body, p, ready, done⟩ := s
  cases ready with
  | cons event ready => rfl
  | nil =>
    cases done with
    | true => rfl
    | false => exact await_remaining timeout 0 p body

/-- The answers to requests are the items that remain, and then there are none. -/
lemma answer_eq (timeout : Nat) (s : EventStream) (n : Nat) :
    s.answer timeout n = (s.remaining timeout)[n]? := by
  induction n generalizing s with
  | zero =>
    have hnext := s.next?_remaining timeout
    rw [answer]
    cases h : s.next? timeout with
    | some next =>
      rw [h] at hnext
      rw [hnext]
      rfl
    | none =>
      rw [h] at hnext
      rw [hnext]
      rfl
  -- each request takes the first of the items that remain
  | succ n ih =>
    have hnext := s.next?_remaining timeout
    rw [answer]
    cases h : s.next? timeout with
    | some next =>
      rw [h] at hnext
      rw [hnext, List.getElem?_cons_succ]
      exact ih next.2
    | none =>
      rw [h] at hnext
      rw [hnext]
      exact (ih s).trans (by rw [hnext]; rfl)

lemma remaining_ofBody (timeout : Nat) (body : List BodyPart) :
    (ofBody body).remaining timeout = (deliver timeout body).items := rfl

end EventStream

/-! ## Events that are not complete -/

/-- Only an empty line completes an event. -/
lemma PendingEvent.takeLine_of_ne_nil (p : PendingEvent) {line : List Char} (h : line ≠ []) :
    (p.takeLine line).1 = Option.none := by
  unfold takeLine
  split
  · exact absurd rfl h
  · rfl
  · rfl

namespace EventParser

/-- Lines after the last empty one complete no event. -/
theorem takeLines_unfinished (pending : PendingEvent) (whole : List (List UInt8)) {unfinished : List (List UInt8)}
    (h : ∀ line ∈ unfinished, lineText line ≠ []) :
    (takeLines pending (whole ++ unfinished)).1 = (takeLines pending whole).1 := by
  have hnone : ∀ pending, (takeLines pending unfinished).1 = [] := by
    induction unfinished with
    | nil => exact fun _ => rfl
    | cons line rest ih =>
      intro pending
      rw [List.forall_mem_cons] at h
      simp only [takeLines, pending.takeLine_of_ne_nil h.1, ih h.2]
      rfl
  rw [takeLines_append, hnone, List.append_nil]

end EventParser

namespace EventStream

/-- Every body is heard up to some point. A stream over it then answers requests with the events that the bytes
heard complete, in order, and with the failure if there is one, and all further requests with nothing. What comes
after that point does not matter, and neither do the lines that follow the last empty line. -/
theorem answers_heard (timeout : Nat) (body : List BodyPart) :
    (∃ heard failure, HeardUntil timeout body heard failure) ∧
      ∀ heard failure, HeardUntil timeout body heard failure →
        let events := (EventParser.fresh.push (chunksOf heard).flatten).1
        (∀ n, (ofBody body).answer timeout n =
          (events.map Except.ok ++ failure.toList.map Except.error)[n]?) ∧
        deliver timeout body = ⟨events, failure⟩ ∧
        ∀ whole unfinished remainder, LinesOf (chunksOf heard).flatten (whole ++ unfinished) remainder →
          (∀ line ∈ unfinished, lineText line ≠ []) → events = (EventParser.takeLines .none whole).1 := by
  constructor
  · obtain ⟨heard, rest, silent, failure, h⟩ := exists_heard_stops timeout 0 body
    exact ⟨heard, failure, rest, silent, h⟩
  -- what is heard is pushed chunk by chunk, which is as good as all at once
  · rintro heard failure ⟨rest, silent, rfl, hheard, hstops⟩
    have hdeliver : deliver timeout (heard ++ rest) =
        ⟨(EventParser.fresh.push (chunksOf heard).flatten).1, failure⟩ := by
      rw [deliver, deliverFrom_heard hheard hstops, EventParser.pushAll_eq_push List.not_mem_nil]
    refine ⟨fun n => ?_, hdeliver, fun whole unfinished remainder hlines hunfinished => ?_⟩
    · rw [answer_eq, remaining_ofBody, hdeliver]
      rfl
    · rw [EventParser.push_eq, EventParser.fresh, List.nil_append, hlines.splitLines_eq]
      exact EventParser.takeLines_unfinished .none whole hunfinished

/-- The bytes of `data: 1` and an empty line, the start of another event, a silence of four, the rest of its data,
a silence of six, and the empty line that comes too late. -/
def lateBody : List BodyPart :=
  [.chunk [100, 97, 116, 97, 58, 32, 49, 10, 10, 100, 97], .silence 4, .chunk [116, 97, 58, 50, 10], .silence 6,
    .chunk [10]]

theorem answers_heard_late :
    HeardUntil 5 lateBody (lateBody.take 3) (some .readTimeout) ∧
      (ofBody lateBody).answer 5 0 = some (.ok ⟨none, "1"⟩) ∧
      (ofBody lateBody).answer 5 1 = some (.error .readTimeout) ∧
      (∀ n, (ofBody lateBody).answer 5 (n + 2) = none) ∧
      deliver 5 lateBody = ⟨[⟨none, "1"⟩], some .readTimeout⟩ := by
  have hheard : HeardUntil 5 lateBody (lateBody.take 3) (some .readTimeout) :=
    ⟨lateBody.drop 3, 0, rfl, .chunk (.silence (by decide) (.chunk (.nil 0))), .silence (by decide) _⟩
  have hevents : (EventParser.fresh.push (chunksOf (lateBody.take 3)).flatten).1 = [⟨none, "1"⟩] := by decide
  obtain ⟨hanswers, hdeliver, -⟩ := (answers_heard 5 lateBody).2 _ _ hheard
  rw [hevents] at hanswers hdeliver
  exact ⟨hheard, hanswers 0, hanswers 1, fun n => hanswers (n + 2), hdeliver⟩

end EventStream
end FeatureFlags
