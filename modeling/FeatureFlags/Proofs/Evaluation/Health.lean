import FeatureFlags.Proofs.Evaluation.Queries
import FeatureFlags.Proofs.Evaluation.Trace

/-!
# The health of the big segment store

Checking an unbounded segment finds out something about the health of the big segment store, unless the
context has no entity of the right kind or is known already (`Segment.healthFound?`). What is found depends
on how the query finds the store, and this may be different at the next one: `Segment.Finds` says it case by
case. What all the checks of an evaluation find, in order, is `Moment.healthFound`, and what is reported of it
is the first status that is not healthy (`BigSegmentsStatus.reported`).

* `BigSegments.tells_iff`, `Segment.healthFound?_eq_some_iff`: the status that is found is the one that the
  answer and the age of the data call for.
* `Moment.handsOn`: each task hands the health on to the task nested in it, this one to what is left, and
  only the check of an unbounded segment adds something.
* `Moment.status_after`: so a state always has the status that is reported of all that was found before.
* `EvaluationState.Admits`: no result says that big segments are unavailable unless the state says that the
  store is not healthy.
-/

namespace FeatureFlags

/-! ## What is found and what is reported of it -/

/-- The status that is reported of what was found: the first one that is not healthy, else that the store is
healthy if anything was found at all. -/
def BigSegmentsStatus.reported (found : List BigSegmentsStatus) : Option BigSegmentsStatus :=
  match found.find? (· ≠ .healthy) with
  | some status => some status
  | none => if found.isEmpty then none else some .healthy

/-- The health of a store as a query finds it. -/
def BigSegments.told (b : BigSegments) (contextKey : String) : BigSegmentsStatus :=
  match b.query contextKey with
  | .error _ => .storeError
  | .ok (_, status) => status

/-- What the check of a segment finds out about the health of the big segment store. -/
def Segment.healthFound? (segment : Segment) (setting : Setting) (s : EvaluationState) :
    Option BigSegmentsStatus :=
  if segment.unbounded then
    match segment.generation with
    | none => some .notConfigured
    | some _ =>
      match setting.context.entity? (segment.unboundedContextKind.getD .user) with
      | none => none
      | some e =>
        match setting.bigSegments with
        | none => some .notConfigured
        | some store =>
          match Entries.get? e.key s.memberships with
          | some _ => none
          | none => some ((store.foundBy s.queries.length).told e.key)
  else none

/-- What a query for the key of a context tells about the health of the store. A store that fails, or cannot
say anything about its data, is in error. Data that was never updated, or too long ago, is stale, and only
the data of a healthy store is recent. -/
inductive BigSegments.Tells (b : BigSegments) (contextKey : String) : BigSegmentsStatus → Prop where
  | failed {e} (failure : b.membership (bigSegmentHash contextKey) = .error e) :
      Tells b contextKey .storeError
  | unavailable {membership} (answer : b.membership (bigSegmentHash contextKey) = .ok membership)
      (unavailable : b.lastUpdate = .unavailable) : Tells b contextKey .storeError
  | neverUpdated {membership} (answer : b.membership (bigSegmentHash contextKey) = .ok membership)
      (unknown : b.lastUpdate = .unknown) : Tells b contextKey .stale
  | outdated {membership age} (answer : b.membership (bigSegmentHash contextKey) = .ok membership)
      (updated : b.lastUpdate = .age age) (old : b.staleAfter < age) : Tells b contextKey .stale
  | recent {membership age} (answer : b.membership (bigSegmentHash contextKey) = .ok membership)
      (updated : b.lastUpdate = .age age) (recent : age ≤ b.staleAfter) : Tells b contextKey .healthy

/-- The check of an unbounded segment finds that big segments are not configured, if the segment was never
exported or there is no store. Else it finds what the next query tells, if it has to be made. -/
inductive Segment.Finds (segment : Segment) (setting : Setting) (s : EvaluationState) :
    BigSegmentsStatus → Prop where
  | notExported (unbounded : segment.unbounded = true) (never : segment.generation = none) :
      Finds segment setting s .notConfigured
  | noStore {generation e} (unbounded : segment.unbounded = true)
      (exported : segment.generation = some generation)
      (entity : setting.context.entity? (segment.unboundedContextKind.getD .user) = some e)
      (none : setting.bigSegments = none) : Finds segment setting s .notConfigured
  | asked {generation e store status} (unbounded : segment.unbounded = true)
      (exported : segment.generation = some generation)
      (entity : setting.context.entity? (segment.unboundedContextKind.getD .user) = some e)
      (configured : setting.bigSegments = some store)
      (unknown : Entries.get? e.key s.memberships = none)
      (tells : (store.foundBy s.queries.length).Tells e.key status) : Finds segment setting s status

/-- What a query tells is determined by the store as the query finds it. -/
theorem BigSegments.tells_iff {b : BigSegments} {contextKey : String} {status : BigSegmentsStatus} :
    b.Tells contextKey status ↔ b.told contextKey = status := by
  rw [told, query]
  constructor
  · rintro (hfailure | ⟨hanswer, hupdate⟩ | ⟨hanswer, hupdate⟩ | ⟨hanswer, hupdate, hage⟩ |
      ⟨hanswer, hupdate, hage⟩)
    · rw [hfailure]
      rfl
    -- a store that answers is judged by its last update
    all_goals
      rw [hanswer]
      show b.status = _
      rw [BigSegments.status, hupdate]
    · exact if_neg (Int.not_le.mpr hage)
    · exact if_pos hage
  · rintro rfl
    cases hanswer : b.membership (bigSegmentHash contextKey) with
    | error e => exact .failed hanswer
    | ok membership =>
      show b.Tells contextKey b.status
      rw [BigSegments.status]
      cases hupdate : b.lastUpdate with
      | unavailable => exact .unavailable hanswer hupdate
      | unknown => exact .neverUpdated hanswer hupdate
      | age ns =>
        dsimp only
        split_ifs with hage
        · exact .recent hanswer hupdate hage
        · exact .outdated hanswer hupdate (Int.not_le.mp hage)

/-- A segment finds a health in just the cases that `Segment.Finds` lists. -/
theorem Segment.healthFound?_eq_some_iff {segment : Segment} {setting : Setting} {s : EvaluationState}
    {status : BigSegmentsStatus} :
    segment.healthFound? setting s = some status ↔ segment.Finds setting s status := by
  rw [healthFound?]
  constructor
  · intro h
    split_ifs at h with hunbounded
    split at h
    · cases h
      exact .notExported hunbounded ‹_›
    -- a segment without an entity of its kind finds nothing
    · split at h
      · cases h
      · split at h
        · cases h
          exact .noStore hunbounded ‹_› ‹_› ‹_›
        -- an answer that is known already finds nothing new
        · split at h
          · cases h
          · cases h
            exact .asked hunbounded ‹_› ‹_› ‹_› ‹_› (BigSegments.tells_iff.mpr rfl)
  · intro h
    cases h with
    | notExported unbounded never => rw [if_pos unbounded, never]
    | noStore unbounded exported entity none => simp only [if_pos unbounded, exported, entity, none]
    | asked unbounded exported entity configured unknown tells =>
      simp only [if_pos unbounded, exported, entity, configured, unknown, BigSegments.tells_iff.mp tells]

namespace Moment

/-- What is found out at a moment about the health of the big segment store. -/
def healthFound? (setting : Setting) : Moment → Option BigSegmentsStatus
  | ⟨.segment inner, s⟩ => inner.healthFound? setting s
  | _ => none

/-- All that is found out from a moment on about the health of the big segment store, in order. -/
def healthFound (setting : Setting) (m : Moment) : List BigSegmentsStatus :=
  (m.trace setting).filterMap (healthFound? setting)

/-- What is found along a trace that was cut off is found along the whole trace, if nothing was cut off. -/
lemma healthFound_of_within {setting : Setting} {m : Moment} {found : List BigSegmentsStatus} (limit : ℕ)
    (h : (traceWithin setting limit m).map (List.filterMap (healthFound? setting)) = some found) :
    m.healthFound setting = found := by
  obtain ⟨moments, htrace, hfound⟩ := Option.map_eq_some_iff.mp h
  rw [healthFound, trace_eq_of_traceWithin htrace, hfound]

/-- What is found from a moment on: at the moment itself, then inside of it, then after it. -/
lemma healthFound_eq (setting : Setting) (m : Moment) :
    m.healthFound setting = (m.healthFound? setting).toList ++
      ((m.nested setting).elim [] (healthFound setting) ++
        (m.later setting).elim [] (healthFound setting)) :=
  filterMap_trace setting (healthFound? setting) m

/-- The state in which the task of a moment ends. -/
def after (setting : Setting) : Moment → EvaluationState
  | ⟨.flag f, s⟩ => (f.run setting s).2
  | ⟨.prerequisites f rest, s⟩ => (f.runPrerequisites setting rest s).2
  | ⟨.rules f rest, s⟩ => ((f.decideByRules setting rest).run s).2
  | ⟨.clauses rest, s⟩ => ((checkClauses (·.contains setting) setting rest).run.run s).2
  | ⟨.values c rest, s⟩ => ((c.matchesSegments (·.contains setting) setting rest).run.run s).2
  | ⟨.segment inner, s⟩ => ((inner.contains setting).run.run s).2
  | ⟨.segmentRules inner rest, s⟩ =>
    ((inner.checkRules (·.contains setting) setting rest).run.run s).2

end Moment

/-- Reports are made up one after the other. -/
lemma BigSegmentsStatus.next_reported (found : List BigSegmentsStatus) (status : BigSegmentsStatus) :
    some (status.next (reported found)) = reported (found ++ [status]) := by
  rw [reported, reported, List.find?_append]
  cases hfirst : found.find? (· ≠ .healthy) with
  | some first =>
    have hfirst := List.find?_some hfirst
    rw [Option.some_or]
    cases first with
    | healthy => cases hfirst
    | _ => rfl
  | none =>
    cases found with
    | nil => cases status <;> rfl
    | cons first rest => cases status <;> rfl

/-! ## Handing the health on -/

/-- The health goes through what follows a moment, if anything does. -/
def HealthThrough (setting : Setting) (before : Option BigSegmentsStatus) :
    Option Moment → Option BigSegmentsStatus → Prop
  | none, left => left = before
  | some m, left => m.state.status = before ∧ left = (m.after setting).status

namespace Moment

/-- The health as known with what is found at the moment itself. -/
def status (setting : Setting) (m : Moment) : Option BigSegmentsStatus :=
  match m.healthFound? setting with
  | none => m.state.status
  | some found => some (found.next m.state.status)

/-- A moment hands the health on to the task nested in it, and this one to what is left. -/
def HandsOn (setting : Setting) (m : Moment) : Prop :=
  ∃ between, HealthThrough setting (m.status setting) (m.nested setting) between ∧
    HealthThrough setting between (m.later setting) (m.after setting).status

variable {setting : Setting}

/-- A moment that nothing comes after ends with what it has found. -/
lemma handsOn_of_none {m : Moment} (hnested : m.nested setting = none) (hlater : m.later setting = none)
    (hafter : (m.after setting).status = m.status setting) : m.HandsOn setting := by
  unfold HandsOn
  rw [hnested, hlater]
  exact ⟨_, rfl, hafter⟩

/-- A flag hands on what its prerequisites and its decision find. -/
lemma handsOn_flag (f : Flag) (s : EvaluationState) : HandsOn setting ⟨.flag f, s⟩ := by
  rcases f.run_cases setting s with ⟨hoff, hrun⟩ | ⟨-, hpath, hrun⟩ |
    ⟨hon, hfresh, failure, s', hchecked, hrun⟩ | ⟨hon, hfresh, s', hchecked, hrun⟩
  · refine handsOn_of_none (if_neg ?_) (if_neg ?_) ?_
    · simp [hoff]
    · simp [hoff]
    · rw [after, hrun]
      rfl
  · refine handsOn_of_none (if_neg fun h => h.2 hpath) (if_neg fun h => h.2.1 hpath) ?_
    rw [after, hrun]
    rfl
  -- once the flag is entered, its prerequisites come first, whatever comes of them
  all_goals
    rw [HandsOn, nested, later, after]
    rw [if_pos ⟨hon, hfresh⟩, hchecked, hrun]
    refine ⟨s'.status, ⟨rfl, ?_⟩, ?_⟩
    · rw [after, hchecked]
  · -- after a failed prerequisite nothing is left, whether there is a target or not
    rw [ite_self]
    rfl
  · cases htarget : f.targetVariation? setting.context with
    | some index =>
      rw [if_neg (by simp), Flag.decide, htarget]
      rfl
    | none =>
      rw [if_pos ⟨hon, hfresh, rfl⟩, Flag.decide, htarget]
      exact ⟨rfl, rfl⟩

/-- Prerequisites hand on what their flags find. -/
lemma handsOn_prerequisites (f : Flag) (rest : List Prerequisite) (s : EvaluationState) :
    HandsOn setting ⟨.prerequisites f rest, s⟩ := by
  cases rest with
  | nil => exact handsOn_of_none rfl rfl rfl
  | cons p rest =>
    rcases f.runPrerequisites_cons_cases setting p rest s with
      ⟨hunknown, hrun⟩ | ⟨g, result, s', hfound, hg, hcases⟩
    -- an unknown flag is not evaluated, so neither a nested evaluation nor a later one follows
    · refine handsOn_of_none ?_ ?_ ?_
      · rw [nested, hunknown]
        rfl
      · rw [later, hunknown]
      · rw [after, hrun]
        rfl
    · rw [HandsOn, nested, later, after]
      rw [hfound]
      dsimp only [Option.map_some]
      refine ⟨s'.status, ⟨rfl, ?_⟩, ?_⟩
      · rw [after, hg]
      rw [hg]
      -- what follows depends on how the nested flag ended: in a cycle, unmet or met
      rcases hcases with ⟨hcycle, hrun⟩ | ⟨hcycle, hunmet, hrun⟩ | ⟨hcycle, hmet, hrun⟩
      · rw [if_neg (by simp [hcycle]), hrun]
        rfl
      · rw [if_neg fun h => hunmet h.2, hrun]
        rfl
      · rw [if_pos ⟨hcycle, hmet⟩, hrun]
        exact ⟨rfl, rfl⟩

/-- Rules hand on what their clauses find. -/
lemma handsOn_rules (f : Flag) (rest : List (FlagRule × Nat)) (s : EvaluationState) :
    HandsOn setting ⟨.rules f rest, s⟩ := by
  cases rest with
  | nil => exact handsOn_of_none rfl rfl rfl
  | cons entry rest =>
    obtain ⟨rule, index⟩ := entry
    rw [HandsOn, nested, later, after]
    refine ⟨((rule.check setting).run.run s).2.status, ⟨rfl, ?_⟩, ?_⟩
    · rw [FlagRule.check_eq]
      rfl
    -- an error ends it all, and a rule that matches needs no other
    rw [run_decideByRules_cons]
    rcases (rule.check setting).run.run s with ⟨_ | _ | _, s'⟩
    · rfl
    · exact ⟨rfl, rfl⟩
    · rfl

/-- Clauses hand on what their values find. -/
lemma handsOn_clauses (rest : List Clause) (s : EvaluationState) :
    HandsOn setting ⟨.clauses rest, s⟩ := by
  cases rest with
  | nil => exact handsOn_of_none rfl rfl rfl
  | cons c rest =>
    rw [HandsOn, nested, later, after]
    refine ⟨((c.check setting).run.run s).2.status, ?_, ?_⟩
    · -- a clause about anything but segments does not touch the state
      rw [Clause.check_eq, Clause.checkWith]
      by_cases hop : c.op = .segmentMatch
      · rw [if_pos hop, if_pos hop]
        exact ⟨rfl, rfl⟩
      · rw [if_neg hop, if_neg hop]
        rfl
    rw [run_checkClauses_cons, ← Clause.check_eq]
    rcases (c.check setting).run.run s with ⟨_ | _ | _, s'⟩
    · rfl
    · rfl
    · exact ⟨rfl, rfl⟩

/-- Values hand on what the segments that they name find. -/
lemma handsOn_values (c : Clause) (rest : List AttributeValue) (s : EvaluationState) :
    HandsOn setting ⟨.values c rest, s⟩ := by
  cases rest with
  | nil => exact handsOn_of_none rfl rfl rfl
  | cons v rest =>
    rw [HandsOn, nested, later, after]
    rcases hinner : s.segmentFor? setting v with _ | ⟨key, inner⟩
    · rw [run_matchesSegments_of_none c _ rest hinner]
      exact ⟨s.status, rfl, rfl, rfl⟩
    · rw [run_matchesSegments_of_some c _ rest hinner, run_insideSegment]
      -- the path changes where a segment is entered and left, the health does not
      refine ⟨((inner.contains setting).run.run (s.enterSegment key)).2.status, ⟨rfl, rfl⟩, ?_⟩
      dsimp only
      rcases (inner.contains setting).run.run (s.enterSegment key) with ⟨_ | _ | _, s'⟩
      · rfl
      · exact ⟨rfl, rfl⟩
      · rfl

/-- Rules of a segment hand on what their clauses find. -/
lemma handsOn_segmentRules (inner : Segment) (rest : List SegmentRule) (s : EvaluationState) :
    HandsOn setting ⟨.segmentRules inner rest, s⟩ := by
  cases rest with
  | nil => exact handsOn_of_none rfl rfl rfl
  | cons r rest =>
    rw [HandsOn, nested, later, after]
    refine ⟨((r.checkWith (·.contains setting) setting inner.key inner.salt).run.run s).2.status,
      ⟨rfl, ?_⟩, ?_⟩
    -- whether the rule admits the context is decided without asking the store
    · rw [SegmentRule.run_checkWith]
      show _ = ((checkClauses (·.contains setting) setting r.clauses).run.run s).2.status
      rcases (checkClauses (·.contains setting) setting r.clauses).run.run s with ⟨_ | _ | _, s'⟩ <;> rfl
    rw [run_checkRules_cons]
    rcases (r.checkWith (·.contains setting) setting inner.key inner.salt).run.run s with
      ⟨_ | _ | _, s'⟩
    · rfl
    · exact ⟨rfl, rfl⟩
    · rfl

/-- What the check of an unbounded segment finds is all that it changes about the health. -/
lemma status_containsUnbounded {inner : Segment} (hunbounded : inner.unbounded = true)
    (s : EvaluationState) :
    ((inner.containsUnbounded setting).run.run s).2.status = status setting ⟨.segment inner, s⟩ := by
  rw [status, healthFound?, Segment.healthFound?, if_pos hunbounded, Segment.containsUnbounded]
  -- the cases are those of the definition, and the status only moves in the last one
  cases inner.generation with
  | none => rfl
  | some _ =>
    dsimp only
    cases setting.context.entity? (inner.unboundedContextKind.getD .user) with
    | none => rfl
    | some e =>
      dsimp only
      rw [Check.run_bind, run_membershipOf]
      cases setting.bigSegments with
      | none => rfl
      | some store =>
        dsimp only
        cases Entries.get? e.key s.memberships with
        | some _ => rfl
        | none =>
          dsimp only
          rw [BigSegments.told, ← BigSegmentStore.query]
          cases store.query s.queries.length e.key <;> rfl

/-- A segment hands on what it finds itself, or what its rules find. -/
lemma handsOn_segment (inner : Segment) (s : EvaluationState) :
    HandsOn setting ⟨.segment inner, s⟩ := by
  have hafter : (after setting ⟨.segment inner, s⟩).status =
      ((inner.containsWith (·.contains setting) setting).run.run s).2.status := by
    rw [after, Segment.contains_eq]
  rw [Segment.containsWith] at hafter
  -- a segment that is unbounded or decides by its lists evaluates no other segment
  by_cases hunbounded : inner.unbounded = true
  · rw [if_pos hunbounded, status_containsUnbounded hunbounded] at hafter
    exact handsOn_of_none (if_neg fun h => by simp [hunbounded] at h) rfl hafter
  have hstatus : status setting ⟨.segment inner, s⟩ = s.status := by
    rw [status, healthFound?, Segment.healthFound?, if_neg hunbounded]
  rw [if_neg hunbounded] at hafter
  by_cases hexcluded : inner.excludes setting.context = true
  · rw [if_pos hexcluded] at hafter
    exact handsOn_of_none (if_neg fun h => by simp [hexcluded] at h) rfl (hafter.trans hstatus.symm)
  rw [if_neg hexcluded] at hafter
  by_cases hincluded : inner.includes setting.context = true
  · rw [if_pos hincluded] at hafter
    exact handsOn_of_none (if_neg fun h => by simp [hincluded] at h) rfl (hafter.trans hstatus.symm)
  rw [if_neg hincluded] at hafter
  have hrules : inner.unbounded = false ∧ inner.excludes setting.context = false ∧
      inner.includes setting.context = false := by
    simp only [Bool.not_eq_true] at hunbounded hexcluded hincluded
    exact ⟨hunbounded, hexcluded, hincluded⟩
  -- otherwise its rules do, and the status is theirs
  rw [HandsOn, nested, if_pos hrules, hstatus]
  exact ⟨_, ⟨rfl, rfl⟩, hafter⟩

/-- Every moment hands on what is found, by induction on what it leads to. -/
theorem handsOn (m : Moment) : m.HandsOn setting := by
  obtain ⟨task, s⟩ := m
  cases task with
  | flag f => exact handsOn_flag f s
  | prerequisites f rest => exact handsOn_prerequisites f rest s
  | rules f rest => exact handsOn_rules f rest s
  | clauses rest => exact handsOn_clauses rest s
  | values c rest => exact handsOn_values c rest s
  | segment inner => exact handsOn_segment inner s
  | segmentRules inner rest => exact handsOn_segmentRules inner rest s

/-- If a moment comes with the status that is reported of what was found before, its task ends with the one
that is reported of this and all that is found from the moment on. -/
theorem status_after (m : Moment) (before : List BigSegmentsStatus)
    (h : m.state.status = BigSegmentsStatus.reported before) :
    (m.after setting).status = BigSegmentsStatus.reported (before ++ m.healthFound setting) := by
  induction m using (step_wellFounded setting).induction generalizing before with
  | _ m ih =>
    -- what follows the moment comes with the status reported of all that was found until then
    have hpart : ∀ (next : Option Moment) (found : List BigSegmentsStatus) (left : Option BigSegmentsStatus),
        (∀ first, next = some first → Step setting m first) →
        HealthThrough setting (BigSegmentsStatus.reported found) next left →
        left = BigSegmentsStatus.reported (found ++ next.elim [] (healthFound setting)) := by
      intro next found left hstep hthrough
      cases next with
      | none =>
        rw [Option.elim_none, List.append_nil]
        exact hthrough
      | some first =>
        obtain ⟨hfirst, rfl⟩ := hthrough
        exact ih first (hstep first rfl) found hfirst
    have hown : m.status setting =
        BigSegmentsStatus.reported (before ++ (m.healthFound? setting).toList) := by
      rw [status, h]
      cases m.healthFound? setting with
      | none => rw [Option.toList_none, List.append_nil]
      | some found => exact BigSegmentsStatus.next_reported before found
    have hhands : m.HandsOn setting := m.handsOn
    obtain ⟨between, hnested, hlater⟩ := hhands
    rw [hown] at hnested
    rw [hpart _ _ _ (fun _ => step_of_nested) hnested] at hlater
    rw [healthFound_eq, hpart _ _ _ (fun _ => step_of_later) hlater, List.append_assoc, List.append_assoc]

end Moment

/-! ## Results that lack big segments -/

/-- The big segment store is not healthy as far as is known. -/
def EvaluationState.Unhealthy (s : EvaluationState) : Prop :=
  ∃ status, s.status = some status ∧ status ≠ .healthy

/-- No recorded prerequisite lacks big segments, and neither does a result at hand, unless the state says
that the store is not healthy. -/
def EvaluationState.Admits (lacking : Bool) (s : EvaluationState) : Prop :=
  (lacking = true ∨ ∃ e ∈ s.events, e.result.lacksBigSegments = true) → s.Unhealthy

namespace EvaluationState

variable {s : EvaluationState}

/-- What is found to be wrong is remembered. -/
lemma unhealthy_found (s : EvaluationState) (status : BigSegmentsStatus) (h : status ≠ .healthy) :
    (s.found status).Unhealthy := by
  refine ⟨_, found_status s status, ?_⟩
  rcases s.status with _ | _ | _ | _ | _
  · exact h
  · exact h
  all_goals exact nofun

/-- Once unhealthy, the status stays so whatever else is found. -/
lemma Unhealthy.found (h : s.Unhealthy) (status : BigSegmentsStatus) : (s.found status).Unhealthy := by
  obtain ⟨before, hbefore, hunhealthy⟩ := h
  refine ⟨before, ?_, hunhealthy⟩
  rw [found_status, hbefore]
  cases before with
  | healthy => exact absurd rfl hunhealthy
  | _ => rfl

lemma admits_initial : Admits false .initial := by
  rintro (h | ⟨e, he, -⟩)
  · cases h
  · cases he

/-- An unhealthy status admits any result. -/
lemma Unhealthy.admits (h : s.Unhealthy) (lacking : Bool) : s.Admits lacking := fun _ => h

/-- A result that is dropped need not be explained. -/
lemma Admits.drop {lacking : Bool} (h : s.Admits lacking) : s.Admits false :=
  fun hlacks => h (hlacks.imp_left nofun)

/-- A result that is recorded is admitted from then on. -/
lemma Admits.record {event : PrerequisiteEvent} (h : s.Admits event.result.lacksBigSegments) :
    (s.record event).Admits false := by
  rintro (hfalse | ⟨e, he, hlacks⟩)
  · cases hfalse
  rw [record_events, List.mem_append, List.mem_singleton] at he
  rcases he with he | rfl
  · exact h (.inr ⟨e, he, hlacks⟩)
  · exact h (.inl hlacks)

end EvaluationState

variable {setting : Setting}

/-- Only an error that says so is for want of big segments. -/
def EvaluationError.lacksBigSegments (e : EvaluationError) : Bool := e == .bigSegmentsUnavailable

/-- A check that lacks big segments has found them unhealthy. -/
lemma admits_checkInvariant (setting : Setting) :
    CheckInvariant setting (EvaluationState.Admits false)
      fun e => EvaluationState.Admits e.lacksBigSegments where
  enterSegment _ _ h := h
  leaveSegment _ _ h := h
  leaveSegment_error _ _ _ h := h
  malformed _ h := h
  notExported s _ := (s.unhealthy_found .notConfigured nofun).admits _
  membershipOf contextKey := by
    intro s hs
    rcases membershipOf_cases s setting contextKey with ⟨-, h⟩ | ⟨store, -, ⟨known, -, h⟩ |
      ⟨e, -, -, h⟩ | ⟨membership, status, -, -, h⟩⟩ <;> rw [h]
    · exact (s.unhealthy_found .notConfigured nofun).admits _
    -- an answer that is remembered is no news
    · exact hs
    · exact ((s.asked contextKey).unhealthy_found .storeError nofun).admits _
    -- what was wrong before stays so, even if the store answers now
    · exact fun hlacks => (show (s.asked contextKey).Unhealthy from hs hlacks).found status

/-- A decision that lacks big segments has found them unhealthy. -/
lemma Flag.decide_admits (f : Flag) {s : EvaluationState} (hs : s.Admits false) :
    ((f.decide setting).run s).2.Admits ((f.decide setting).run s).1.lacksBigSegments := by
  rcases f.decide_keeps (admits_checkInvariant setting) hs with ⟨e, hresult, herror⟩ | ⟨hkeeps, hreason⟩
  · rw [hresult]
    cases e <;> exact herror
  · rw [Detail.lacksBigSegments_eq_false hreason]
    exact hkeeps

namespace Moment

/-- From a moment on, whatever lacks big segments is explained by the health of the store. Checks of
prerequisites do not lack any themselves. -/
def KeepsAdmitting (setting : Setting) : Moment → Prop
  | ⟨.flag f, s⟩ => s.Admits false → (f.run setting s).2.Admits (f.run setting s).1.lacksBigSegments
  | ⟨.prerequisites f rest, s⟩ => s.Admits false →
      (f.runPrerequisites setting rest s).2.Admits false ∧
        ∀ failure, (f.runPrerequisites setting rest s).1 = some failure → failure.lacksBigSegments = false
  | _ => True

/-- A flag keeps results admitted if its prerequisites do. -/
lemma keepsAdmitting_flag (f : Flag) (s : EvaluationState)
    (ih : ∀ m', Step setting ⟨.flag f, s⟩ m' → m'.KeepsAdmitting setting) :
    KeepsAdmitting setting ⟨.flag f, s⟩ := by
  intro hs
  rcases f.run_cases setting s with ⟨-, hrun⟩ | ⟨-, -, hrun⟩ |
    ⟨hon, hfresh, failure, s', hchecked, hrun⟩ | ⟨hon, hfresh, s', hchecked, hrun⟩
  · have hoff : (f.serveOff .off).lacksBigSegments = false :=
      Detail.lacksBigSegments_eq_false (f.serveOff_reason_ne nofun)
    rw [hrun, hoff]
    exact hs
  · rw [hrun]
    exact hs
  all_goals
    obtain ⟨hadmits, hfailure⟩ := ih _ (.prerequisites hon hfresh) hs
    rw [hchecked] at hadmits hfailure
    rw [hrun]
  · rw [hfailure failure rfl]
    exact hadmits
  · exact f.decide_admits hadmits

/-- Prerequisites keep results admitted if their flags do. -/
lemma keepsAdmitting_prerequisites (f : Flag) (rest : List Prerequisite) (s : EvaluationState)
    (ih : ∀ m', Step setting ⟨.prerequisites f rest, s⟩ m' → m'.KeepsAdmitting setting) :
    KeepsAdmitting setting ⟨.prerequisites f rest, s⟩ := by
  intro hs
  cases rest with
  | nil => exact ⟨hs, nofun⟩
  | cons p rest =>
    have hoff : (f.serveOff (.prerequisiteFailed p.key)).lacksBigSegments = false :=
      Detail.lacksBigSegments_eq_false (f.serveOff_reason_ne nofun)
    rcases f.runPrerequisites_cons_cases setting p rest s with
      ⟨-, hrun⟩ | ⟨g, result, s', hfound, hg, hcases⟩
    -- an unknown prerequisite fails without asking the store
    · rw [hrun]
      refine ⟨hs, fun failure h => ?_⟩
      cases h
      exact hoff
    · have hadmits := ih _ (.prerequisite hfound) hs
      rw [hg] at hadmits
      rcases hcases with ⟨-, hrun⟩ | ⟨-, -, hrun⟩ | ⟨hcycle, ⟨hon, hserved⟩, hrun⟩
      · -- the result is dropped where it ends in a cycle, and recorded otherwise
        rw [hrun]
        refine ⟨hadmits.drop, fun failure h => ?_⟩
        cases h
        rfl
      · rw [hrun]
        refine ⟨hadmits.record, fun failure h => ?_⟩
        cases h
        exact hoff
      · rw [hrun]
        exact ih _ (.nextPrerequisite hfound hg hcycle hon hserved) hadmits.record

/-- Every moment keeps results admitted, by induction on what it leads to. -/
lemma keepsAdmitting (m : Moment) : m.KeepsAdmitting setting := by
  induction m using (step_wellFounded setting).induction with
  | _ m ih =>
    obtain ⟨task, s⟩ := m
    cases task with
    | flag f => exact keepsAdmitting_flag f s ih
    | prerequisites f rest => exact keepsAdmitting_prerequisites f rest s ih
    | _ => trivial

end Moment

/-! ## What is not consulted -/

/-- At this moment an unbounded segment is to be checked. -/
def Moment.ConsultsBigSegment (m : Moment) : Prop :=
  ∃ inner, m.task = .segment inner ∧ inner.unbounded = true

/-- Only segments of the catalog are checked. -/
lemma exists_segment?_of_reaches {f : Flag} {inner : Segment} {s : EvaluationState}
    (h : Reaches setting (.start f) ⟨.segment inner, s⟩) :
    ∃ key, setting.catalog.segment? key = some inner := by
  rcases Relation.ReflTransGen.cases_tail h with heq | ⟨m, -, hstep⟩
  · cases heq
  · cases hstep with
    | segment _ _ _ found => exact ⟨_, found⟩

/-- Only the check of a segment finds anything. -/
lemma Moment.healthFound?_eq_some_iff {m : Moment} {status : BigSegmentsStatus} :
    m.healthFound? setting = some status ↔
      ∃ segment, m.task = .segment segment ∧ segment.Finds setting m.state status := by
  obtain ⟨task, s⟩ := m
  constructor
  · intro h
    cases task with
    | segment inner => exact ⟨inner, rfl, Segment.healthFound?_eq_some_iff.mp h⟩
    | _ => cases h
  · rintro ⟨inner, rfl, h⟩
    exact Segment.healthFound?_eq_some_iff.mpr h

/-- Only unbounded segments find anything about the store. -/
lemma Segment.Finds.unbounded {segment : Segment} {s : EvaluationState} {status : BigSegmentsStatus}
    (h : segment.Finds setting s status) : segment.unbounded = true := by
  cases h <;> assumption

/-- Where there is no big segment store, this is all that can be found. -/
lemma Segment.Finds.eq_notConfigured {segment : Segment} {s : EvaluationState}
    {status : BigSegmentsStatus} (h : segment.Finds setting s status) (hstore : setting.bigSegments = none) :
    status = .notConfigured := by
  cases h with
  | notExported | noStore => rfl
  | asked _ _ _ configured =>
    rw [hstore] at configured
    cases configured

namespace BigSegmentsStatus

variable {found : List BigSegmentsStatus}

/-- What is reported was found. -/
lemma mem_of_reported {status : BigSegmentsStatus} (h : reported found = some status) :
    status ∈ found := by
  rw [reported] at h
  cases hfirst : found.find? (· ≠ .healthy) with
  | some first =>
    rw [hfirst] at h
    cases h
    exact List.mem_of_find?_eq_some hfirst
  | none =>
    rw [hfirst] at h
    cases found with
    | nil => cases h
    | cons first rest =>
      -- all that was found is healthy, the first one too
      cases h
      have hhealthy := List.find?_eq_none.mp hfirst first List.mem_cons_self
      have heq : first = .healthy := by simpa using hhealthy
      rw [heq]
      exact List.mem_cons_self

/-- Nothing is reported only if nothing was found. -/
lemma reported_eq_none_iff : reported found = none ↔ found = [] := by
  constructor
  · intro h
    rw [reported] at h
    split at h
    · cases h
    · split_ifs at h with hempty
      exact List.isEmpty_iff.mp hempty
  · rintro rfl
    rfl

end BigSegmentsStatus

/-! ## What is reported is true -/

/-- The health that is reported with a result is true: of all that was found out about the big segment store
in the evaluation, in order, it is the first that is not healthy, else that the store is healthy if anything
was found at all. What is found is what the answer to the query and the age of the data call for at that
time. So if the result or one of those recorded lacks big segments, the store is reported not to be healthy.
Without a store nothing is reported but that there is none, and nothing at all if no big segment was
consulted. -/
theorem bigSegmentsStatus_truthful (f : Flag) (setting : Setting) :
    (f.evaluate setting).detail.bigSegmentsStatus =
      BigSegmentsStatus.reported ((Moment.start f).healthFound setting) ∧
    (∀ (m : Moment) (status : BigSegmentsStatus), m.healthFound? setting = some status ↔
      ∃ segment, m.task = .segment segment ∧ segment.Finds setting m.state status) ∧
    (∀ d ∈ (f.evaluate setting).results, d.reason = .error .bigSegmentsUnavailable →
      ∃ status, (f.evaluate setting).detail.bigSegmentsStatus = some status ∧ status ≠ .healthy) ∧
    (setting.bigSegments = none →
      (f.evaluate setting).detail.bigSegmentsStatus = none ∨
        (f.evaluate setting).detail.bigSegmentsStatus = some .notConfigured) ∧
    ((∀ m, Reaches setting (.start f) m → ¬m.ConsultsBigSegment) →
      (f.evaluate setting).detail.bigSegmentsStatus = none) := by
  have hreported : (f.evaluate setting).detail.bigSegmentsStatus =
      BigSegmentsStatus.reported ((Moment.start f).healthFound setting) :=
    (Moment.start f).status_after [] rfl
  refine ⟨hreported, fun _ _ => Moment.healthFound?_eq_some_iff, fun d hd hreason => ?_, fun hstore => ?_,
    fun hnone => ?_⟩
  -- the last result and the recorded ones are admitted by the status
  · have hadmits : ((f.run setting .initial).2).Admits (f.run setting .initial).1.lacksBigSegments :=
      (Moment.start f).keepsAdmitting EvaluationState.admits_initial
    have hlacks : d.lacksBigSegments = true := beq_iff_eq.mpr hreason
    refine hadmits ?_
    rcases List.mem_append.mp hd with hevent | hown
    · obtain ⟨e, he, rfl⟩ := List.mem_map.mp hevent
      exact .inr ⟨e, he, hlacks⟩
    · rw [List.mem_singleton.mp hown] at hlacks
      exact .inl hlacks
  -- without a store whatever finds a status finds it missing
  · cases hstatus : (f.evaluate setting).detail.bigSegmentsStatus with
    | none => exact .inl rfl
    | some status =>
      rw [hreported] at hstatus
      obtain ⟨m, -, hfound⟩ := List.mem_filterMap.mp (BigSegmentsStatus.mem_of_reported hstatus)
      obtain ⟨segment, -, hfinds⟩ := Moment.healthFound?_eq_some_iff.mp hfound
      exact .inr (congrArg some (hfinds.eq_notConfigured hstore))
  -- a status is found where an unbounded segment is consulted
  · rw [hreported, BigSegmentsStatus.reported_eq_none_iff, List.eq_nil_iff_forall_not_mem]
    intro status hmem
    obtain ⟨m, hm, hfound⟩ := List.mem_filterMap.mp hmem
    obtain ⟨segment, htask, hfinds⟩ := Moment.healthFound?_eq_some_iff.mp hfound
    exact hnone m (Moment.mem_trace_iff.mp hm) ⟨segment, htask, hfinds.unbounded⟩

/-! ## Stores that change, and no store -/

/-- A setting with a flag for the members of an unbounded segment and no big segment store. -/
def Setting.withoutStore : Setting := { Setting.withMembers (fun _ => .ok none) with bigSegments := none }

/-- A setting with a big segment of users and one of companies, a user at a company, and a store. -/
def Setting.withCompanies (store : BigSegmentStore) : Setting :=
  { catalog := ⟨[], [("beta", .exported "beta"),
      ("partners", { Segment.exported "partners" with unboundedContextKind := some ⟨"company"⟩ })]⟩
    context := .multi
      [⟨.user, "anna", none, false, [], []⟩, ⟨⟨"company"⟩, "acme", none, false, [], []⟩]
    bigSegments := some store }

/-- A flag with a rule for the members of `beta` and one for those of `partners`. -/
def Flag.forBoth : Flag :=
  { Flag.requiring "both" [] with rules := [.forMembers "beta", .forMembers "partners"] }

/-- A store whose data is current at the first query and grows too old until the second one. -/
def BigSegmentStore.aging : BigSegmentStore :=
  ⟨fun _ _ => .ok none, fun number => .age (number * 600 * 1000000000), BigSegments.defaultStaleAfter⟩

/-- A store that fails at the first query and answers from then on, with current data. -/
def BigSegmentStore.recovering : BigSegmentStore :=
  ⟨fun number _ => if number = 0 then .error ⟨"down"⟩ else .ok none, fun _ => .age 0,
    BigSegments.defaultStaleAfter⟩

/-- The flags for the members of `beta` with a store that recovers. -/
def Setting.withRecovery : Setting :=
  { Setting.withMembers (fun _ => .ok none) with bigSegments := some .recovering }

/-- The store is healthy for the user and stale for the company, so it is stale. Where it fails for a
prerequisite and then answers for the flag, it is in error. -/
theorem bigSegmentsStatus_truthful_settings :
    (Moment.start .forBoth).healthFound (.withCompanies .aging) = [.healthy, .stale] ∧
    (Flag.forBoth.evaluate (.withCompanies .aging)).detail.bigSegmentsStatus = some .stale ∧
    (∃ m segment, Reaches (.withCompanies .aging) (.start .forBoth) m ∧ m.task = .segment segment ∧
      segment.Finds (.withCompanies .aging) m.state .stale) ∧
    (Moment.start (.forMembers "third" "beta" ["second"])).healthFound .withRecovery =
      [.storeError, .healthy] ∧
    (∃ status,
      ((Flag.forMembers "third" "beta" ["second"]).evaluate .withRecovery).detail.bigSegmentsStatus =
        some status ∧ status ≠ .healthy) ∧
    (((Flag.forMembers "third" "beta" ["second"]).evaluate .withoutStore).detail.bigSegmentsStatus = none ∨
      ((Flag.forMembers "third" "beta" ["second"]).evaluate .withoutStore).detail.bigSegmentsStatus =
        some .notConfigured) ∧
    ((Flag.requiring "a" ["b", "c", "d"]).evaluate .diamond).detail.bigSegmentsStatus = none := by
  -- each hypothesis is met in a run of its own
  obtain ⟨hreported, hfinds, -⟩ := bigSegmentsStatus_truthful .forBoth (.withCompanies .aging)
  obtain ⟨-, -, hlacking, -, -⟩ :=
    bigSegmentsStatus_truthful (.forMembers "third" "beta" ["second"]) .withRecovery
  obtain ⟨-, -, -, hstore, -⟩ :=
    bigSegmentsStatus_truthful (.forMembers "third" "beta" ["second"]) .withoutStore
  obtain ⟨-, -, -, -, hconsulted⟩ :=
    bigSegmentsStatus_truthful (.requiring "a" ["b", "c", "d"]) .diamond
  have haging : (Moment.start .forBoth).healthFound (.withCompanies .aging) = [.healthy, .stale] :=
    Moment.healthFound_of_within 9 (by decide +kernel)
  have hstale : .stale ∈ (Moment.start .forBoth).healthFound (.withCompanies .aging) := by
    rw [haging]
    exact List.mem_cons_of_mem _ List.mem_cons_self
  obtain ⟨m, hm, hfound⟩ := List.mem_filterMap.mp hstale
  obtain ⟨segment, htask, hstale⟩ := (hfinds m .stale).mp hfound
  refine ⟨haging, ?_, ⟨m, segment, Moment.mem_trace_iff.mp hm, htask, hstale⟩,
    Moment.healthFound_of_within 15 (by decide +kernel), ?_, hstore rfl, hconsulted ?_⟩
  · rw [hreported, haging]
    rfl
  · -- `first` is recorded with the failure
    have hfirst : ∃ e ∈ ((Flag.forMembers "third" "beta" ["second"]).evaluate .withRecovery).events,
        e.result.reason = .error .bigSegmentsUnavailable := by
      decide +kernel
    obtain ⟨e, he, hreason⟩ := hfirst
    exact hlacking _ (List.mem_append_left _ (List.mem_map_of_mem he)) hreason
  · -- there are no segments at all to be checked
    rintro ⟨task, s⟩ hreach ⟨inner, rfl, -⟩
    obtain ⟨key, hfound⟩ := exists_segment?_of_reaches hreach
    cases hfound

end FeatureFlags
