import FeatureFlags.Proofs.Evaluation.Cycles
import FeatureFlags.Proofs.Evaluation.Invariants

/-!
# Queries of the big segment store

An evaluation remembers what the big segment store has answered, so it does not ask again for a key that
was answered for, whatever the store would say by then. A failed query is not remembered. It ends the
evaluation of the flag that has asked, but a prerequisite with such a result can still serve as one through
the off variation of a flag in between, and then the same key is asked again (`failed_query_repeated`).

* `EvaluationState.Accounts`: the keys asked so far, and the results that failed queries have ended in.
* `queries_accounted`: how often the store is asked in a whole evaluation.
-/

namespace FeatureFlags

/-- Whether the big segment store answers a query for the key of a context. -/
def Setting.answers (setting : Setting) (number : Nat) (contextKey : String) : Bool :=
  (setting.answerAt number contextKey).isOk

/-- How many of the queries fail that are made for some keys in turn. -/
def Setting.failures (setting : Setting) (keys : List String) : Nat :=
  keys.zipIdx.countP fun query => !setting.answers query.2 query.1

/-- Of the queries that are made for some keys in turn, one for a key that was asked for before is made only
since the one before has failed. -/
def Setting.AsksAgainOnFailure (setting : Setting) (keys : List String) : Prop :=
  keys.zipIdx.Pairwise fun query later => query.1 = later.1 → setting.answers query.2 query.1 = false

/-- Whether a result is that big segments are unavailable. -/
def Detail.lacksBigSegments (d : Detail) : Bool := d.reason == .error .bigSegmentsUnavailable

/-- How many of the recorded prerequisites ended with big segments being unavailable. -/
def EvaluationState.failedResults (s : EvaluationState) : Nat :=
  s.events.countP (·.result.lacksBigSegments)

/-- The queries so far are those for some keys. No key that was answered for is asked for again, since the
answer is known, and the failed queries are accounted for by the recorded prerequisites, but for `extra` of
them. -/
structure EvaluationState.Accounts (setting : Setting) (s : EvaluationState) (extra : Nat)
    (keys : List String) : Prop where
  queries : s.queries = keys.map bigSegmentHash
  again : setting.AsksAgainOnFailure keys
  known : ∀ query ∈ keys.zipIdx, setting.answers query.2 query.1 = true →
    (Entries.get? query.1 s.memberships).isSome
  failed : setting.failures keys ≤ s.failedResults + extra

/-- The queries so far can be accounted for by some keys. -/
def EvaluationState.Accounted (setting : Setting) (extra : Nat) (s : EvaluationState) : Prop :=
  ∃ keys, s.Accounts setting extra keys

variable {setting : Setting} {s : EvaluationState} {keys : List String} {key : String}

/-- One more key is asked for by the query after the last one. -/
lemma zipIdx_concat (keys : List String) (key : String) :
    (keys ++ [key]).zipIdx = keys.zipIdx ++ [(key, keys.length)] := by
  rw [List.zipIdx_append, Nat.zero_add]
  rfl

namespace EvaluationState

lemma accounted_initial (setting : Setting) : Accounted setting 0 .initial :=
  ⟨[], rfl, List.Pairwise.nil, nofun, Nat.le_refl _⟩

namespace Accounts

variable {extra : Nat}

lemma length_queries (h : s.Accounts setting extra keys) : s.queries.length = keys.length := by
  rw [h.queries, List.length_map]

/-- A key that nothing is known for can be asked for: all queries for it so far have failed. -/
lemma again_concat (h : s.Accounts setting extra keys)
    (hunknown : Entries.get? key s.memberships = none) : setting.AsksAgainOnFailure (keys ++ [key]) := by
  rw [Setting.AsksAgainOnFailure, zipIdx_concat, List.pairwise_append]
  refine ⟨h.again, List.pairwise_singleton _ _, fun query hquery later hlater heq => ?_⟩
  obtain rfl := List.mem_singleton.mp hlater
  by_contra hanswered
  have hknown := h.known query hquery (Bool.eq_true_of_not_eq_false hanswered)
  rw [heq, hunknown] at hknown
  cases hknown

/-- A failed query stands for itself until its result is recorded. -/
lemma asked_failed (h : s.Accounts setting 0 keys)
    (hunknown : Entries.get? key s.memberships = none)
    (hfails : setting.answers s.queries.length key = false) (status : BigSegmentsStatus) :
    ((s.asked key).found status).Accounts setting 1 (keys ++ [key]) := by
  rw [h.length_queries] at hfails
  refine ⟨?_, h.again_concat hunknown, fun query hmem hanswered => ?_, ?_⟩
  · rw [found_queries, asked_queries, h.queries, List.map_append, List.map_singleton]
  · rw [zipIdx_concat] at hmem
    rcases List.mem_append.mp hmem with hold | hnew
    · exact h.known query hold hanswered
    · rw [List.mem_singleton.mp hnew, hfails] at hanswered
      cases hanswered
  · have hfailed := h.failed
    rw [Setting.failures, zipIdx_concat, List.countP_append, List.countP_singleton, hfails]
    exact Nat.add_le_add_right hfailed 1

/-- The answer to a query is known from then on. -/
lemma asked_answered (h : s.Accounts setting 0 keys)
    (hunknown : Entries.get? key s.memberships = none)
    (hanswers : setting.answers s.queries.length key = true) (status : BigSegmentsStatus)
    (membership : Option Membership) :
    (((s.asked key).found status).remember key membership).Accounts setting 0 (keys ++ [key]) := by
  rw [h.length_queries] at hanswers
  refine ⟨?_, h.again_concat hunknown, fun query hmem hanswered => ?_, ?_⟩
  · rw [remember_queries, found_queries, asked_queries, h.queries, List.map_append, List.map_singleton]
  · rw [remember_memberships, Entries.get?_insert]
    split_ifs with heq
    · rfl
    · rw [zipIdx_concat] at hmem
      rcases List.mem_append.mp hmem with hold | hlast
      · exact h.known query hold hanswered
      · rw [List.mem_singleton.mp hlast] at heq
        exact absurd rfl heq
  · rw [Setting.failures, zipIdx_concat, List.countP_append, List.countP_singleton, hanswers]
    exact h.failed

end Accounts

/-- The account reads nothing of a state but its queries, what is known and the recorded results. -/
lemma Accounted.congr {t : EvaluationState} {extra : Nat} (h : s.Accounted setting extra)
    (hqueries : t.queries = s.queries) (hmemberships : t.memberships = s.memberships)
    (hevents : t.events = s.events) : t.Accounted setting extra := by
  obtain ⟨keys, h⟩ := h
  refine ⟨keys, hqueries.trans h.queries, h.again, ?_, ?_⟩
  · rw [hmemberships]
    exact h.known
  · rw [failedResults, hevents]
    exact h.failed

/-- What is accounted for exactly may as well be owed. -/
lemma Accounted.owe (h : s.Accounted setting 0) (extra : Nat) : s.Accounted setting extra := by
  obtain ⟨keys, h⟩ := h
  exact ⟨keys, h.queries, h.again, h.known, Nat.le_add_right_of_le h.failed⟩

/-- The result of a prerequisite accounts for the query that it failed with. -/
lemma Accounted.record {event : PrerequisiteEvent}
    (h : s.Accounted setting event.result.lacksBigSegments.toNat) :
    (s.record event).Accounted setting 0 := by
  obtain ⟨keys, h⟩ := h
  refine ⟨keys, h.queries, h.again, h.known, ?_⟩
  have hfailed := h.failed
  rw [failedResults, record_events, List.countP_append, List.countP_singleton]
  cases hlacks : event.result.lacksBigSegments with
  | false =>
    rw [hlacks] at hfailed
    exact hfailed
  | true =>
    rw [hlacks] at hfailed
    exact hfailed

end EvaluationState

/-! ## Checks -/

/-- What is owed after a failed check: the query that it failed with, if big segments are to blame. -/
def EvaluationError.owed : EvaluationError → Nat
  | .bigSegmentsUnavailable => 1
  | _ => 0

/-- One lookup of the membership keeps the account: it asks only for a key that is not known, and an answer is
known from then on. -/
lemma membershipOf_accounted (setting : Setting) (contextKey : String) :
    Check.Keeps (EvaluationState.Accounted setting 0)
      (fun e => EvaluationState.Accounted setting e.owed) (membershipOf setting contextKey) := by
  intro s hs
  rcases membershipOf_cases s setting contextKey with ⟨-, h⟩ | ⟨store, hstore, ⟨known, -, h⟩ |
    ⟨e, hunknown, hquery, h⟩ | ⟨membership, status, hunknown, hquery, h⟩⟩ <;> rw [h]
  · exact (hs.owe 1).congr rfl rfl rfl
  · exact hs
  · obtain ⟨keys, hs⟩ := hs
    have hfails : setting.answers s.queries.length contextKey = false := by
      rw [Setting.answers, Setting.answerAt_of_failed hstore hquery]
      rfl
    exact ⟨_, hs.asked_failed hunknown hfails .storeError⟩
  · obtain ⟨keys, hs⟩ := hs
    have hanswers : setting.answers s.queries.length contextKey = true := by
      rw [Setting.answers, Setting.answerAt_of_answered hstore hquery]
      rfl
    exact ⟨_, hs.asked_answered hunknown hanswers status membership⟩

/-- The account is an invariant of all checks, so of every moment an evaluation reaches. -/
lemma accounted_checkInvariant (setting : Setting) :
    CheckInvariant setting (EvaluationState.Accounted setting 0)
      fun e => EvaluationState.Accounted setting e.owed where
  enterSegment _ _ h := h.congr rfl rfl rfl
  leaveSegment _ _ h := h.congr rfl rfl rfl
  leaveSegment_error _ _ _ h := h.congr rfl rfl rfl
  malformed _ h := h
  notExported _ h := (h.owe 1).congr rfl rfl rfl
  membershipOf := membershipOf_accounted setting

/-! ## Flags -/

/-- An evaluation without a cycle so far accounts for its queries, where the result of a flag accounts for
at most one that failed. A cycle is a result of its own. -/
def Moment.KeepsAccount (setting : Setting) : Moment → Prop
  | ⟨.flag f, s⟩ => s.Accounted setting 0 → s.cycle = false →
      (f.run setting s).2.Accounted setting (f.run setting s).1.lacksBigSegments.toNat ∧
        ((f.run setting s).2.cycle = true → (f.run setting s).1.lacksBigSegments = false)
  | ⟨.prerequisites f rest, s⟩ => s.Accounted setting 0 → s.cycle = false →
      (f.runPrerequisites setting rest s).2.Accounted setting 0 ∧
        match (f.runPrerequisites setting rest s).1 with
        | none => (f.runPrerequisites setting rest s).2.cycle = false
        | some failure => failure.lacksBigSegments = false
  | _ => True

lemma Detail.lacksBigSegments_eq_false {d : Detail} (h : d.reason ≠ .error .bigSegmentsUnavailable) :
    d.lacksBigSegments = false := beq_eq_false_iff_ne.mpr h

/-- Targets, rules and fallthrough account for their queries with their result. -/
lemma Flag.decide_accounted (f : Flag) (hs : s.Accounted setting 0) :
    ((f.decide setting).run s).2.Accounted setting
      ((f.decide setting).run s).1.lacksBigSegments.toNat := by
  rcases f.decide_keeps (accounted_checkInvariant setting) hs with ⟨e, hresult, herror⟩ | ⟨hkeeps, hreason⟩
  · rw [hresult]
    cases e <;> exact herror
  · rw [Detail.lacksBigSegments_eq_false hreason]
    exact hkeeps

/-- A flag keeps the account, if every moment it leads to does. -/
lemma Moment.keepsAccount_flag (f : Flag) (s : EvaluationState)
    (ih : ∀ m', Step setting ⟨.flag f, s⟩ m' → m'.KeepsAccount setting) :
    Moment.KeepsAccount setting ⟨.flag f, s⟩ := by
  intro hs hacyclic
  rcases f.run_cases setting s with ⟨-, hrun⟩ | ⟨-, -, hrun⟩ |
    ⟨hon, hfresh, failure, s', hchecked, hrun⟩ | ⟨hon, hfresh, s', hchecked, hrun⟩
  · have hresult : (f.serveOff .off).lacksBigSegments = false :=
      Detail.lacksBigSegments_eq_false (f.serveOff_reason_ne nofun)
    rw [hrun, hresult]
    exact ⟨hs, fun _ => rfl⟩
  · rw [hrun]
    exact ⟨hs.congr rfl rfl rfl, fun _ => rfl⟩
  -- the prerequisites start from the longer path and hand the account to what follows
  all_goals
    have hentered : (s.enterFlag f.key).Accounted setting 0 := hs.congr rfl rfl rfl
    have h := ih _ (.prerequisites hon hfresh) hentered hacyclic
    rw [hchecked] at h
    obtain ⟨haccounted, hend⟩ := h
    have hleft : (s'.leaveFlag f.key).Accounted setting 0 := haccounted.congr rfl rfl rfl
    rw [hrun]
  · rw [show failure.lacksBigSegments = false from hend]
    exact ⟨hleft, fun _ => rfl⟩
  · refine ⟨f.decide_accounted hleft, fun hcycle => ?_⟩
    rw [(f.decide_framed setting _).2.cycle] at hcycle
    have hno : s'.cycle = false := hend
    rw [EvaluationState.leaveFlag_cycle, hno] at hcycle
    cases hcycle

/-- A prerequisite check keeps the account, if every moment it leads to does; a failed query of a nested flag
is owed once. -/
lemma Moment.keepsAccount_prerequisites (f : Flag) (rest : List Prerequisite) (s : EvaluationState)
    (ih : ∀ m', Step setting ⟨.prerequisites f rest, s⟩ m' → m'.KeepsAccount setting) :
    Moment.KeepsAccount setting ⟨.prerequisites f rest, s⟩ := by
  intro hs hacyclic
  cases rest with
  | nil => exact ⟨hs, hacyclic⟩
  | cons p rest =>
    have hoff : (f.serveOff (.prerequisiteFailed p.key)).lacksBigSegments = false :=
      Detail.lacksBigSegments_eq_false (f.serveOff_reason_ne nofun)
    rcases f.runPrerequisites_cons_cases setting p rest s with
      ⟨-, hrun⟩ | ⟨g, result, s', hfound, hg, hcases⟩
    · rw [hrun]
      exact ⟨hs, hoff⟩
    -- the nested evaluation keeps the account, so its record and the rest start from an account too
    · obtain ⟨haccounted, hmalformed⟩ := ih _ (.prerequisite hfound) hs hacyclic
      rw [hg] at haccounted hmalformed
      rcases hcases with ⟨hcycle, hrun⟩ | ⟨hcycle, -, hrun⟩ | ⟨hcycle, ⟨hon, hserved⟩, hrun⟩
      · rw [hmalformed hcycle] at haccounted
        rw [hrun]
        exact ⟨haccounted, rfl⟩
      · rw [hrun]
        exact ⟨haccounted.record, hoff⟩
      · rw [hrun]
        exact ih _ (.nextPrerequisite hfound hg hcycle hon hserved) haccounted.record hcycle

/-- By induction on the moments. -/
lemma Moment.keepsAccount (m : Moment) : m.KeepsAccount setting := by
  induction m using (step_wellFounded setting).induction with
  | _ m ih =>
    obtain ⟨task, s⟩ := m
    cases task with
    | flag f => exact Moment.keepsAccount_flag f s ih
    | prerequisites f rest => exact Moment.keepsAccount_prerequisites f rest s ih
    | _ => trivial

/-! ## How often the store is asked -/

/-- The results of an evaluation: those of the prerequisites in the order in which they were recorded, and
its own. -/
def EvaluationResult.results (r : EvaluationResult) : List Detail := r.events.map (·.result) ++ [r.detail]

/-- The results without big segments are those of the events and the last. -/
lemma EvaluationResult.countP_results (r : EvaluationResult) :
    r.results.countP (·.lacksBigSegments) =
      r.events.countP (·.result.lacksBigSegments) + r.detail.lacksBigSegments.toNat := by
  rw [results, List.countP_append, List.countP_map, List.countP_singleton]
  cases r.detail.lacksBigSegments <;> rfl

/-- The queries for a key are those that are made for it. -/
lemma count_eq_countP_zipIdx (keys : List String) (key : String) :
    keys.count key = keys.zipIdx.countP fun query => query.1 == key := by
  conv_lhs => rw [← List.zipIdx_map_fst 0 keys]
  rw [List.count, List.countP_map]
  rfl

namespace Setting.AsksAgainOnFailure

/-- If a key is asked for twice, the first of the two queries has failed. -/
lemma exists_failed (h : setting.AsksAgainOnFailure keys) (hcount : ¬keys.count key ≤ 1) :
    ∃ number, (key, number) ∈ keys.zipIdx ∧ setting.answers number key = false := by
  have hsub : List.Sublist [key, key] (keys.zipIdx.map Prod.fst) := by
    rw [List.zipIdx_map_fst]
    exact List.replicate_sublist_iff (n := 2).mpr (by omega)
  obtain ⟨queries, hqueries, hkeys⟩ := List.sublist_map_iff.mp hsub
  match queries, hkeys with
  | [⟨_, first⟩, ⟨_, second⟩], rfl =>
    have hpair := h.sublist hqueries
    exact ⟨first, hqueries.mem List.mem_cons_self, List.rel_of_pairwise_cons hpair List.mem_cons_self rfl⟩

/-- With a store that always answers no key is asked for twice. -/
lemma nodup (h : setting.AsksAgainOnFailure keys)
    (hall : ∀ query ∈ keys.zipIdx, setting.answers query.2 query.1 = true) : keys.Nodup := by
  refine List.nodup_iff_count_le_one.mpr fun key => ?_
  by_contra htwice
  obtain ⟨number, hmem, hfails⟩ := h.exists_failed htwice
  rw [hall _ hmem] at hfails
  cases hfails

end Setting.AsksAgainOnFailure

/-- If a query for a key fails and the store always answers the same, all queries for this key fail. -/
lemma Setting.Steady.count_le_failures (hsteady : setting.Steady) {number : Nat}
    (hfails : setting.answers number key = false) : keys.count key ≤ setting.failures keys := by
  rw [count_eq_countP_zipIdx, Setting.failures]
  refine List.countP_mono_left fun query _ hquery => ?_
  rw [eq_of_beq hquery, Setting.answers, hsteady, ← hsteady number, ← Setting.answers, hfails]
  rfl

/-- The store is asked for some keys in turn, and for a key again only if the query before has failed. So it
is asked at most once for each key that it always answers for. The queries that fail are no more than the
results that say that big segments are unavailable. No key is asked for twice if there is no such result, in
particular if all queries are answered, and if the store always answers the same, neither if there is a
single one. -/
theorem queries_accounted (f : Flag) (setting : Setting) :
    ∃ keys : List String, (f.evaluate setting).queries = keys.map bigSegmentHash ∧
      setting.AsksAgainOnFailure keys ∧
      (∀ key, (∀ number, setting.answers number key = true) → keys.count key ≤ 1) ∧
      setting.failures keys ≤ (f.evaluate setting).results.countP (·.lacksBigSegments) ∧
      ((f.evaluate setting).results.countP (·.lacksBigSegments) = 0 → keys.Nodup) ∧
      (setting.Steady → (f.evaluate setting).results.countP (·.lacksBigSegments) ≤ 1 → keys.Nodup) ∧
      ((∀ query ∈ keys.zipIdx, setting.answers query.2 query.1 = true) → keys.Nodup) := by
  have hkeeps : (Moment.start f).KeepsAccount setting := Moment.keepsAccount _
  obtain ⟨⟨keys, h⟩, -⟩ := hkeeps (EvaluationState.accounted_initial setting) rfl
  have hfailed : setting.failures keys ≤ (f.evaluate setting).results.countP (·.lacksBigSegments) := by
    rw [EvaluationResult.countP_results]
    exact h.failed
  refine ⟨keys, h.queries, h.again, fun key hall => ?_, hfailed, fun hnone => ?_, fun hsteady hfew => ?_,
    h.again.nodup⟩
  -- a key that is asked for twice has a failed query between
  · by_contra htwice
    obtain ⟨number, -, hfails⟩ := h.again.exists_failed htwice
    rw [hall number] at hfails
    cases hfails
  · rw [hnone, Nat.le_zero, Setting.failures, List.countP_eq_zero] at hfailed
    exact h.again.nodup fun query hquery => by simpa using hfailed query hquery
  -- each failed query is seen in a result, and one failure allows no key a second query
  · refine List.nodup_iff_count_le_one.mpr fun key => ?_
    by_contra htwice
    obtain ⟨number, -, hfails⟩ := h.again.exists_failed htwice
    exact htwice ((hsteady.count_le_failures hfails).trans (hfailed.trans hfew))

/-! ## A store that fails -/

/-- A rule of a flag for the members of a segment. -/
def FlagRule.forMembers (segmentKey : String) : FlagRule :=
  { id := "", clauses := [⟨none, .literal "", false, .segmentMatch, [.string segmentKey]⟩],
    outcome := .variation 0, trackEvents := false }

/-- A segment whose members are kept by the big segment store. -/
def Segment.exported (key : String) : Segment :=
  { key, version := 1, included := [], excluded := [], includedContexts := [], excludedContexts := [],
    rules := [], salt := "", unbounded := true, unboundedContextKind := none, generation := some 1,
    deleted := false }

/-- A flag with rules for the members of a segment and prerequisites, which is off with its only
variation. -/
def Flag.forMembers (key segmentKey : String) (required : List String) : Flag :=
  { Flag.requiring key required with
    rules := [.forMembers segmentKey, .forMembers segmentKey], offVariation := some 0 }

/-- A setting with a flag `first` for the members of a segment, a flag `second` that requires it, and a big
segment store that answers in this way. -/
def Setting.withMembers (membership : String → Except QueryError (Option Membership)) : Setting :=
  let required : Setting := .ofFlags
    [("first", { Flag.forMembers "first" "beta" [] with offVariation := none }),
      ("second", .forMembers "second" "beta" ["first"])]
  { required with
    catalog := { required.catalog with segments := [("beta", .exported "beta")] }
    bigSegments := some (BigSegments.unchanging ⟨membership, .unknown, BigSegments.defaultStaleAfter⟩) }

theorem queries_accounted_answering :
    ∃ keys : List String, keys.Nodup ∧
      ((Flag.forMembers "third" "beta" ["first", "second"]).evaluate
        (.withMembers fun _ => .ok none)).queries = keys.map bigSegmentHash := by
  obtain ⟨keys, hqueries, -, -, -, -, -, hnodup⟩ :=
    queries_accounted (Flag.forMembers "third" "beta" ["first", "second"]) (.withMembers fun _ => .ok none)
  exact ⟨keys, hnodup fun _ _ => rfl, hqueries⟩

/-- A failed query is repeated: `first` ends with an error, so `second` serves its off variation, which is
what `third` requires of it. -/
theorem failed_query_repeated :
    ((Flag.forMembers "third" "beta" ["second"]).evaluate
      (.withMembers fun _ => .error ⟨"down"⟩)).queries = ["anna", "anna"].map bigSegmentHash := by
  rfl

end FeatureFlags
