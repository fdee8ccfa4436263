import FeatureFlags.Stream.Backoff
import Mathlib.Data.List.DropRight

/-!
# Delays of a run

The calls of a backoff make a run: connections that are recorded, and delays that are asked for. Which delays
start the sequence over (`BackoffSettings.resetAt`), and which number each delay has since then
(`BackoffSettings.number`), is said here of the calls alone.

* `Backoff.connectedAt_afterAll` and `Backoff.attempts_afterAll`: what the state holds after some calls. The
  attempts are counted up to `greatestAttempts` only, which is more than any delay can tell.
* `Backoff.delays_of_run`: delays grow exponentially up to the greatest one. The factor of the initial delay ends
  at `greatestFactor`, so the growth stops there, and an initial delay that is too small for the greatest one
  never gets to it (`Backoff.delay_falls_short`).
-/

namespace FeatureFlags

-- powers are those of the core library, whatever else is imported
attribute [local instance (high)] instPowNat

/-- A call of a backoff: a connection is recorded, or a delay is asked for and its jitter drawn. -/
inductive BackoffCall where
  | connected (now : Nat)
  | delay (now : Nat) (jitter : Nat → Nat)

namespace BackoffCall

/-- When the call is made. -/
def time : BackoffCall → Nat
  | connected now | delay now _ => now

/-- Whether a delay is asked for. -/
def isDelay : BackoffCall → Bool
  | connected _ => false
  | delay _ _ => true

/-- The jitter is drawn between zero and the greatest value that it may have. -/
def DrawsInRange : BackoffCall → Prop
  | connected _ => True
  | delay _ jitter => ∀ greatest, jitter greatest ≤ greatest

/-- The times of the connections since the latest delay. -/
def recentConnections (calls : List BackoffCall) : List Nat :=
  (calls.rtakeWhile (!·.isDelay)).map (·.time)

end BackoffCall

open BackoffCall

namespace BackoffSettings

/-- Whether a delay that is asked for after these calls starts the sequence over: there were connections since
the previous delay, and the latest of them is at least as old as the reset interval. -/
def startsOver (s : BackoffSettings) (calls : List BackoffCall) (now : Nat) : Bool :=
  (recentConnections calls).getLast?.any fun since => since + s.resetInterval ≤ now

/-- Whether the call at a place of a run starts the sequence over. -/
def resetAt (s : BackoffSettings) (calls : List BackoffCall) (place : Nat) : Bool :=
  match calls[place]? with
  | some (.delay now _) => s.startsOver (calls.take place) now
  | _ => false

/-- The latest place before the given one where the sequence starts over, or the start of the run. -/
def lastReset (s : BackoffSettings) (calls : List BackoffCall) (place : Nat) : Nat :=
  ((List.range place).filter (s.resetAt calls)).getLastD 0

/-- The number of the delay at a place: how many came before it since the latest reset, which may be the delay
itself. -/
def number (s : BackoffSettings) (calls : List BackoffCall) (place : Nat) : Nat :=
  ((calls.take place).drop (s.lastReset calls (place + 1))).countP (·.isDelay)

/-- The greatest delay. -/
def greatest (s : BackoffSettings) : Nat := Max.max s.initial s.max

/-- The base of the delay with a number: it doubles with every delay, up to the greatest one. -/
def exactBase (s : BackoffSettings) (n : Nat) : Nat := min (s.initial * 2 ^ n) s.greatest

/-- The base of the delay with a number, if no factor is greater than `greatestFactor`. -/
def cappedBase (s : BackoffSettings) (n : Nat) : Nat := min (s.initial * min (2 ^ n) greatestFactor) s.greatest

/-- Both limits of the delays are durations. -/
structure InRange (s : BackoffSettings) : Prop where
  initial : s.initial ≤ greatestDuration
  max : s.max ≤ greatestDuration

/-- The end of the factor shows only if the greatest delay is not reached by then. -/
lemma cappedBase_eq_iff (s : BackoffSettings) (n : Nat) : s.cappedBase n = s.exactBase n ↔
    n < 32 ∨ s.initial = 0 ∨ s.greatest ≤ s.initial * greatestFactor := by
  rw [cappedBase, exactBase]
  rcases Nat.lt_or_ge n 32 with hn | hn
  · have hpow : 2 ^ n ≤ greatestFactor :=
      (Nat.pow_le_pow_right (by decide) (Nat.le_of_lt_succ hn)).trans (by decide : 2 ^ 31 ≤ greatestFactor)
    rw [Nat.min_eq_left hpow]
    exact iff_of_true rfl (.inl hn)
  · have hpow : greatestFactor < 2 ^ n :=
      Nat.lt_of_lt_of_le (by decide : greatestFactor < 2 ^ 32) (Nat.pow_le_pow_right (by decide) hn)
    rw [Nat.min_eq_right hpow.le]
    rcases Nat.eq_zero_or_pos s.initial with hzero | hpos
    · rw [hzero, Nat.zero_mul, Nat.zero_mul]
      exact iff_of_true rfl (.inr (.inl rfl))
    · have hgrown : s.initial * greatestFactor < s.initial * 2 ^ n := Nat.mul_lt_mul_of_pos_left hpow hpos
      omega

/-! ## Resets -/

variable {s : BackoffSettings} {calls : List BackoffCall} {place : Nat}

/-- A reset lies no later than the call that caused it. -/
lemma lastReset_succ_le (s : BackoffSettings) (calls : List BackoffCall) (place : Nat) :
    s.lastReset calls (place + 1) ≤ place := by
  rw [lastReset, List.getLastD_eq_getLast?]
  cases hlast : ((List.range (place + 1)).filter (s.resetAt calls)).getLast? with
  | none => exact Nat.zero_le place
  | some r =>
    have hmem : r ∈ List.range (place + 1) := List.mem_of_mem_filter (List.mem_of_getLast? hlast)
    exact Nat.lt_succ_iff.mp (List.mem_range.mp hmem)

/-- A call that starts over is the last reset from there on. -/
lemma lastReset_succ_of_reset (h : s.resetAt calls place = true) :
    s.lastReset calls (place + 1) = place := by
  rw [lastReset, List.range_succ, List.filter_append, List.filter_cons_of_pos h, List.filter_nil,
    List.getLastD_eq_getLast?, List.getLast?_append, List.getLast?_singleton]
  rfl

lemma lastReset_succ_of_not_reset (h : s.resetAt calls place = false) :
    s.lastReset calls (place + 1) = s.lastReset calls place := by
  have hlast : ¬s.resetAt calls place = true := by simp [h]
  rw [lastReset, List.range_succ, List.filter_append, List.filter_cons_of_neg hlast, List.filter_nil,
    List.append_nil, lastReset]

/-- A delay that starts over is numbered from zero. -/
lemma number_of_reset (h : s.resetAt calls place = true) : s.number calls place = 0 := by
  have hempty : (calls.take place).drop place = [] :=
    List.drop_eq_nil_of_le (List.length_take_le place calls)
  rw [number, lastReset_succ_of_reset h, hempty, List.countP_nil]

/-- How many delays come before a place since the latest reset before it. -/
def delaysBefore (s : BackoffSettings) (calls : List BackoffCall) (place : Nat) : Nat :=
  ((calls.take place).drop (s.lastReset calls place)).countP (·.isDelay)

lemma number_of_not_reset (h : s.resetAt calls place = false) :
    s.number calls place = s.delaysBefore calls place := by
  rw [number, lastReset_succ_of_not_reset h, delaysBefore]

/-- Each delay adds one to the number. -/
lemma delaysBefore_succ {c : BackoffCall} (hc : calls[place]? = some c) :
    s.delaysBefore calls (place + 1) = s.number calls place + if c.isDelay then 1 else 0 := by
  obtain ⟨hplace, -⟩ := List.getElem?_eq_some_iff.mp hc
  have htake : calls.take (place + 1) = calls.take place ++ [c] := by
    rw [List.take_add_one, hc, Option.toList_some]
  have hinside : s.lastReset calls (place + 1) ≤ (calls.take place).length := by
    rw [List.length_take_of_le hplace.le]
    exact s.lastReset_succ_le calls place
  rw [delaysBefore, htake, List.drop_append_of_le_length hinside, List.countP_append, List.countP_singleton,
    number]

end BackoffSettings

namespace Backoff

variable {s : BackoffSettings} {calls : List BackoffCall} {place now : Nat} {jitter : Nat → Nat}

/-! ## The state after some calls -/

/-- A backoff after a call. -/
def after (b : Backoff) : BackoffCall → Backoff
  | .connected now => b.connected now
  | .delay now jitter => (b.nextDelay now jitter).2

/-- A new backoff after some calls. -/
def afterAll (s : BackoffSettings) (calls : List BackoffCall) : Backoff := calls.foldl after (new s)

lemma afterAll_concat (s : BackoffSettings) (calls : List BackoffCall) (c : BackoffCall) :
    afterAll s (calls ++ [c]) = (afterAll s calls).after c := by
  rw [afterAll, List.foldl_concat, afterAll]

/-- No call changes the settings; a maximum below the initial delay is raised to it at the start. -/
lemma settings_afterAll (s : BackoffSettings) (calls : List BackoffCall) :
    (afterAll s calls).settings = { s with max := Nat.max s.max s.initial } := by
  induction calls using List.reverseRecOn with
  | nil => rfl
  | append_singleton calls c ih =>
    rw [afterAll_concat, ← ih]
    cases c <;> rfl

/-- The connection that is remembered is the latest one since the latest delay. -/
theorem connectedAt_afterAll (s : BackoffSettings) (calls : List BackoffCall) :
    (afterAll s calls).connectedAt = (recentConnections calls).getLast? := by
  induction calls using List.reverseRecOn with
  | nil => rfl
  | append_singleton calls c ih =>
    rw [afterAll_concat, recentConnections]
    cases c with
    | connected now =>
      rw [List.rtakeWhile_concat_pos _ _ _ rfl, List.map_append, List.getLast?_append]
      rfl
    | delay now jitter =>
      rw [List.rtakeWhile_concat_neg _ _ _ (by simp [isDelay])]
      rfl

/-- The latest connection lies in the past. -/
lemma since_le {since : Nat} (htimes : ∀ c ∈ calls, c.time ≤ now)
    (h : (afterAll s calls).connectedAt = some since) : since ≤ now := by
  rw [connectedAt_afterAll] at h
  obtain ⟨c, hc, rfl⟩ := List.mem_map.mp (List.mem_of_getLast? h)
  exact htimes c ((List.rtakeWhile_suffix _ _).subset hc)

/-- The state remembers of the calls what decides a reset. -/
lemma isDueForReset_afterAll (htimes : ∀ c ∈ calls, c.time ≤ now) :
    (afterAll s calls).isDueForReset now = s.startsOver calls now := by
  rw [isDueForReset, settings_afterAll, BackoffSettings.startsOver, ← connectedAt_afterAll]
  cases h : (afterAll s calls).connectedAt with
  | none => rfl
  | some since =>
    have hsince := since_le htimes h
    rw [Option.any_some, decide_eq_decide]
    show s.resetInterval ≤ now - since ↔ since + s.resetInterval ≤ now
    omega

/-- The times of the calls of a run never go back. -/
def InOrder (calls : List BackoffCall) : Prop := calls.Pairwise fun c d => c.time ≤ d.time

lemma InOrder.time_le {c : BackoffCall} (h : InOrder calls) (hc : calls[place]? = some c) :
    ∀ d ∈ calls.take place, d.time ≤ c.time := by
  intro d hd
  obtain ⟨i, hi, rfl⟩ := List.mem_take_iff_getElem.mp hd
  obtain ⟨hplace, rfl⟩ := List.getElem?_eq_some_iff.mp hc
  exact List.pairwise_iff_getElem.mp h i place _ hplace (by omega)

/-- A delay starts over exactly where its run says so. -/
lemma isDueForReset_eq_resetAt (htimes : InOrder calls) (hcall : calls[place]? = some (.delay now jitter)) :
    (afterAll s (calls.take place)).isDueForReset now = s.resetAt calls place := by
  have hpast : ∀ c ∈ calls.take place, c.time ≤ now := htimes.time_le hcall
  rw [isDueForReset_afterAll hpast, BackoffSettings.resetAt, hcall]

/-- The attempts that a delay goes by are its number, if that can be counted. -/
lemma attempts_settle (htimes : InOrder calls) (hcall : calls[place]? = some (.delay now jitter))
    (hattempts : (afterAll s (calls.take place)).attempts =
      min (s.delaysBefore calls place) greatestAttempts) :
    ((afterAll s (calls.take place)).settle now).attempts = min (s.number calls place) greatestAttempts := by
  rw [settle, isDueForReset_eq_resetAt htimes hcall]
  cases hreset : s.resetAt calls place with
  | true => rw [BackoffSettings.number_of_reset hreset, Nat.zero_min, if_pos rfl]
  | false => rw [BackoffSettings.number_of_not_reset hreset, ← hattempts, if_neg Bool.false_ne_true]

/-- The attempts are the delays since the latest reset, if they can be counted. -/
theorem attempts_afterAll (htimes : InOrder calls) (hplace : place ≤ calls.length) :
    (afterAll s (calls.take place)).attempts = min (s.delaysBefore calls place) greatestAttempts := by
  induction place with
  | zero => rfl
  | succ place ih =>
    have hattempts := ih (Nat.le_of_succ_le hplace)
    obtain ⟨c, hc⟩ : ∃ c, calls[place]? = some c := ⟨_, List.getElem?_eq_getElem hplace⟩
    have htake : calls.take (place + 1) = calls.take place ++ [c] := by
      rw [List.take_add_one, hc, Option.toList_some]
    rw [htake, afterAll_concat, BackoffSettings.delaysBefore_succ hc]
    -- a connection counts as no attempt; a delay counts from the last reset on
    cases c with
    | connected now =>
      have hreset : s.resetAt calls place = false := by rw [BackoffSettings.resetAt, hc]
      rw [BackoffSettings.number_of_not_reset hreset]
      exact hattempts
    | delay now jitter =>
      have hsettled := attempts_settle htimes hc hattempts
      show min (((afterAll s (calls.take place)).settle now).attempts + 1) greatestAttempts =
        min (s.number calls place + 1) greatestAttempts
      rw [hsettled]
      omega

/-! ## Delays -/

/-- The growth factor is a power of two that stops at the largest 32-bit number. -/
lemma factor_min (n : Nat) : factor (min n greatestAttempts) = min (2 ^ n) greatestFactor := by
  rw [factor]
  split_ifs with h
  · have hn : n < 32 := by
      rw [greatestAttempts] at h
      omega
    have hpow : 2 ^ n ≤ 2 ^ 31 := Nat.pow_le_pow_right (by decide) (by omega)
    have hmin : min n greatestAttempts = n := by
      rw [greatestAttempts]
      omega
    rw [hmin, Nat.min_eq_left]
    rw [greatestFactor]
    omega
  · have hn : 32 ≤ n := by omega
    have hpow : 2 ^ 32 ≤ 2 ^ n := Nat.pow_le_pow_right (by decide) hn
    rw [Nat.min_eq_right]
    rw [greatestFactor]
    omega

/-- The delay before jitter is the capped one of its number. -/
lemma baseDelay_settle (hs : s.InRange) (htimes : InOrder calls)
    (hcall : calls[place]? = some (.delay now jitter)) :
    ((afterAll s (calls.take place)).settle now).baseDelay = s.cappedBase (s.number calls place) := by
  obtain ⟨hplace, -⟩ := List.getElem?_eq_some_iff.mp hcall
  have hattempts := attempts_settle htimes hcall (attempts_afterAll (s := s) htimes hplace.le)
  have hsettings : ((afterAll s (calls.take place)).settle now).settings =
      { s with max := Nat.max s.max s.initial } := settings_afterAll s _
  have hinitial := hs.initial
  have hmax := hs.max
  rw [baseDelay, hsettings, hattempts, factor_min, BackoffSettings.cappedBase, BackoffSettings.greatest]
  generalize s.initial * min (2 ^ s.number calls place) greatestFactor = grown
  show min (min grown greatestDuration) (max s.max s.initial) = min grown (max s.initial s.max)
  omega

/-- In a run, the delay with the number `n` since the latest reset lies between the half of a base and the base,
which is the initial delay times the `n`-th power of two, up to the greatest delay. The factor ends at
`greatestFactor`; the base is as great as without this end if `n` is below 32, or if the greatest delay is reached
by then. Resets are where the run has them, and no number that is calculated leaves its range. -/
theorem delays_of_run (hs : s.InRange) (htimes : InOrder calls) (hdraws : ∀ c ∈ calls, c.DrawsInRange)
    (hcall : calls[place]? = some (.delay now jitter)) :
    let b := afterAll s (calls.take place)
    let n := s.number calls place
    let base := s.cappedBase n
    let delay := (b.nextDelay now jitter).1
    (base - base / 2 ≤ delay ∧ delay ≤ base) ∧
      (base = s.exactBase n ↔ n < 32 ∨ s.initial = 0 ∨ s.greatest ≤ s.initial * greatestFactor) ∧
      b.isDueForReset now = s.resetAt calls place ∧
      (delay + jitter (base / 2) = base ∧ base ≤ greatestDuration ∧ b.attempts ≤ greatestAttempts ∧
        ∀ since, b.connectedAt = some since → since ≤ now) := by
  intro b n base delay
  obtain ⟨hplace, -⟩ := List.getElem?_eq_some_iff.mp hcall
  have hdraw : jitter (base / 2) ≤ base / 2 := hdraws _ (List.mem_of_getElem? hcall) _
  -- the jitter is taken off the capped delay
  have hdelay : delay = base - jitter (base / 2) := by
    show (b.settle now).baseDelay - jitter ((b.settle now).baseDelay / 2) = _
    rw [baseDelay_settle hs htimes hcall]
  -- the attempts, the reset and the connection are as the calls before it say
  refine ⟨by omega, s.cappedBase_eq_iff n, isDueForReset_eq_resetAt htimes hcall, by omega, ?_, ?_, ?_⟩
  · exact (Nat.min_le_right _ _).trans (max_le hs.initial hs.max)
  · show (afterAll s (calls.take place)).attempts ≤ _
    rw [attempts_afterAll htimes hplace.le]
    exact Nat.min_le_right _ _
  · intro since hsince
    exact since_le (htimes.time_le hcall) hsince

/-- Three failures, and a connection that is up for the reset interval. -/
def healthyRun : List BackoffCall :=
  [.delay 0 (· / 3), .delay 1000000000 id, .connected 3000000000, .delay 4000000000 fun _ => 0,
    .connected 9000000000, .delay 69000000000 id]

theorem delays_of_run_healthy :
    let s : BackoffSettings := ⟨1000000000, 30000000000, 60000000000⟩
    let delay := ((afterAll s (healthyRun.take 5)).nextDelay 69000000000 id).1
    s.InRange ∧ InOrder healthyRun ∧ (∀ c ∈ healthyRun, c.DrawsInRange) ∧
      s.number healthyRun 3 = 2 ∧ s.number healthyRun 5 = 0 ∧ s.exactBase 0 = 1000000000 ∧
      s.exactBase 0 - s.exactBase 0 / 2 ≤ delay ∧ delay ≤ s.exactBase 0 ∧
      (afterAll s (healthyRun.take 5)).isDueForReset 69000000000 = true := by
  intro s delay
  have hs : s.InRange := ⟨by decide, by decide⟩
  have htimes : InOrder healthyRun := by
    unfold InOrder
    decide
  have hdraws : ∀ c ∈ healthyRun, c.DrawsInRange := by
    simp only [healthyRun, List.forall_mem_cons, List.not_mem_nil, false_imp_iff, implies_true, DrawsInRange,
      id_eq, le_refl, Nat.zero_le, and_true]
    exact fun greatest => Nat.div_le_self greatest 3
  -- the last delay comes after a connection that lasted, so it starts over
  have hnumber : s.number healthyRun 5 = 0 := by decide +kernel
  have hcall : healthyRun[5]? = some (.delay 69000000000 id) := rfl
  obtain ⟨hdelay, hbase, hreset, -⟩ := delays_of_run hs htimes hdraws hcall
  rw [hnumber] at hdelay hbase
  rw [hbase.mpr (.inl (by decide))] at hdelay
  refine ⟨hs, htimes, hdraws, by decide +kernel, hnumber, by decide, hdelay.1, hdelay.2, ?_⟩
  rw [hreset]
  decide +kernel

/-- After 33 doublings a delay that starts with a millisecond falls short of the half of what it should be, where
100 days are allowed. -/
theorem delay_falls_short :
    let s : BackoffSettings := ⟨1000000, 8640000000000000, 60000000000⟩
    let calls := List.replicate 34 (BackoffCall.delay 0 fun _ => 0)
    let delay := ((afterAll s (calls.take 33)).nextDelay 0 fun _ => 0).1
    (s.InRange ∧ InOrder calls ∧ ∀ c ∈ calls, c.DrawsInRange) ∧
      s.number calls 33 = 33 ∧ s.exactBase 33 = 8589934592000000 ∧ delay = 4294967295000000 ∧
      ¬(s.exactBase 33 - s.exactBase 33 / 2 ≤ delay ∧ delay ≤ s.exactBase 33) := by
  intro s calls delay
  refine ⟨⟨⟨by decide, by decide⟩, ?_, ?_⟩, by decide +kernel⟩
  · exact List.pairwise_replicate.mpr (.inr (Nat.le_refl 0))
  · intro c hc
    rw [List.eq_of_mem_replicate hc]
    exact Nat.zero_le

end Backoff
end FeatureFlags
