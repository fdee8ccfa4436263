import FeatureFlags.Evaluation.Flag
import Mathlib.Tactic.Simps.Basic
import Mathlib.Tactic.SplitIfs

/-!
# Running evaluations

The evaluation is written in monads. Here every part of it is run from a state, so that what follows can
speak about the state before and the state after and leave the monads alone. For each definition there is
one equation that says what it answers and which state it leaves behind.
-/

namespace FeatureFlags

/-! ## Changes of the state -/

namespace EvaluationState

/-- The state inside of a flag. -/
@[simps]
def enterFlag (s : EvaluationState) (key : String) : EvaluationState :=
  { s with flagPath := key :: s.flagPath }

/-- The state after a flag was left. -/
@[simps]
def leaveFlag (s : EvaluationState) (key : String) : EvaluationState :=
  { s with flagPath := s.flagPath.erase key }

/-- The state inside of a segment. -/
@[simps]
def enterSegment (s : EvaluationState) (key : String) : EvaluationState :=
  { s with segmentPath := key :: s.segmentPath }

/-- The state after a segment was left. -/
@[simps]
def leaveSegment (s : EvaluationState) (key : String) : EvaluationState :=
  { s with segmentPath := s.segmentPath.erase key }

/-- The state after one more prerequisite was evaluated. -/
@[simps]
def record (s : EvaluationState) (event : PrerequisiteEvent) : EvaluationState :=
  { s with events := s.events ++ [event] }

/-- The state after a flag turned out to be its own prerequisite. -/
@[simps]
def markCycle (s : EvaluationState) : EvaluationState := { s with cycle := true }

/-- The state after the health of the big segment store was found. -/
@[simps]
def found (s : EvaluationState) (status : BigSegmentsStatus) : EvaluationState :=
  { s with status := some (status.next s.status) }

/-- The state after the big segment store was asked. -/
@[simps]
def asked (s : EvaluationState) (contextKey : String) : EvaluationState :=
  { s with queries := s.queries ++ [bigSegmentHash contextKey] }

/-- The state after the big segment store answered. -/
@[simps]
def remember (s : EvaluationState) (contextKey : String) (membership : Option Membership) :
    EvaluationState :=
  { s with memberships := s.memberships.insert contextKey membership }

end EvaluationState

variable {α β : Type} (s : EvaluationState)

/-! ## The monads -/

/-- Evaluations pass their state on. -/
lemma Evaluation.run_bind (a : Evaluation α) (f : α → Evaluation β) :
    (a >>= f).run s = (f (a.run s).1).run (a.run s).2 := rfl

lemma Check.run_get : (get : Check EvaluationState).run.run s = (.ok s, s) := rfl

/-- A failed check ends what follows it, and its state stays. -/
lemma Check.run_bind (a : Check α) (f : α → Check β) :
    (a >>= f).run.run s =
      match a.run.run s with
      | (.ok x, s') => (f x).run.run s'
      | (.error e, s') => (.error e, s') := by
  rw [ExceptT.run_bind, Evaluation.run_bind]
  rcases a.run.run s with ⟨_ | _, s'⟩ <;> rfl

variable {s} in
/-- What follows a check that answers goes on with the answer. -/
lemma Check.run_bind_of_ok {a : Check α} {x : α} (h : (a.run.run s).1 = .ok x) (f : α → Check β) :
    (a >>= f).run.run s = (f x).run.run (a.run.run s).2 := by
  rw [Check.run_bind]
  rcases houtcome : a.run.run s with ⟨answer, s'⟩
  rw [houtcome] at h
  cases h
  rfl

variable {s} in
/-- What follows a check that fails is not run. -/
lemma Check.run_bind_of_error {a : Check α} {e : EvaluationError} (h : (a.run.run s).1 = .error e)
    (f : α → Check β) : (a >>= f).run.run s = (.error e, (a.run.run s).2) := by
  rw [Check.run_bind]
  rcases houtcome : a.run.run s with ⟨answer, s'⟩
  rw [houtcome] at h
  cases h
  rfl

/-- Inside of a flag its key is on the path, and after it no longer. -/
lemma run_insideFlag (key : String) (action : Evaluation α) :
    (insideFlag key action).run s =
      ((action.run (s.enterFlag key)).1, (action.run (s.enterFlag key)).2.leaveFlag key) := rfl

/-- Inside of a segment its key is on the path, and after it no longer, also if the check fails. -/
lemma run_insideSegment (key : String) (action : Check α) :
    (insideSegment key action).run.run s =
      ((action.run.run (s.enterSegment key)).1,
        (action.run.run (s.enterSegment key)).2.leaveSegment key) := rfl

/-! ## Big segments -/

/-- A check fails if big segments are unavailable, and the status says why. -/
lemma run_unavailable (status : BigSegmentsStatus) :
    (unavailable status : Check α).run.run s = (.error .bigSegmentsUnavailable, s.found status) := rfl

/-- Memberships are looked up: first whether there is a store, then what is remembered, then by a query. -/
lemma run_membershipOf (setting : Setting) (contextKey : String) :
    (membershipOf setting contextKey).run.run s =
      match setting.bigSegments with
      | none => (.error .bigSegmentsUnavailable, s.found .notConfigured)
      | some store =>
        match Entries.get? contextKey s.memberships with
        | some known => (.ok known, s)
        | none =>
          match store.query s.queries.length contextKey with
          | .error _ => (.error .bigSegmentsUnavailable, (s.asked contextKey).found .storeError)
          | .ok (membership, status) =>
            (.ok membership, ((s.asked contextKey).found status).remember contextKey membership) := by
  rw [membershipOf]
  cases setting.bigSegments with
  | none => rfl
  | some store =>
    dsimp only
    rw [Check.run_bind]
    -- the state that is read is the one that the run starts from
    show StateT.run (ExceptT.run
      (match Entries.get? contextKey s.memberships with | some _ => _ | none => _)) s = _
    cases Entries.get? contextKey s.memberships with
    | some known => rfl
    | none =>
      dsimp only
      rw [Check.run_bind]
      cases store.query s.queries.length contextKey with
      | error e => rfl
      | ok answer => rfl

/-- The four ways to learn the memberships of a context: there is no store, they are known, the store
fails, and the store answers. -/
lemma membershipOf_cases (setting : Setting) (contextKey : String) :
    (setting.bigSegments = none ∧
      (membershipOf setting contextKey).run.run s =
        (.error .bigSegmentsUnavailable, s.found .notConfigured)) ∨
    ∃ store, setting.bigSegments = some store ∧
      ((∃ known, Entries.get? contextKey s.memberships = some known ∧
        (membershipOf setting contextKey).run.run s = (.ok known, s)) ∨
      (∃ e, Entries.get? contextKey s.memberships = none ∧
        store.query s.queries.length contextKey = .error e ∧
        (membershipOf setting contextKey).run.run s =
          (.error .bigSegmentsUnavailable, (s.asked contextKey).found .storeError)) ∨
      ∃ membership status,
        Entries.get? contextKey s.memberships = none ∧
        store.query s.queries.length contextKey = .ok (membership, status) ∧
        (membershipOf setting contextKey).run.run s =
          (.ok membership, ((s.asked contextKey).found status).remember contextKey membership)) := by
  rw [run_membershipOf]
  cases setting.bigSegments with
  | none => exact .inl ⟨rfl, rfl⟩
  | some store =>
    refine .inr ⟨store, rfl, ?_⟩
    dsimp only
    cases Entries.get? contextKey s.memberships with
    | some known => exact .inl ⟨known, rfl, rfl⟩
    | none =>
      refine .inr ?_
      cases store.query s.queries.length contextKey with
      | error e => exact .inl ⟨e, rfl, rfl, rfl⟩
      | ok answer => exact .inr ⟨answer.1, answer.2, rfl, rfl, rfl⟩

/-- What an evaluation learns about the memberships of a context if it asks for them with this query. -/
def Setting.answerAt (setting : Setting) (number : Nat) (contextKey : String) :
    Except EvaluationError (Option Membership) :=
  match setting.bigSegments with
  | none => .error .bigSegmentsUnavailable
  | some store =>
    match store.query number contextKey with
    | .ok (membership, _) => .ok membership
    | .error _ => .error .bigSegmentsUnavailable

namespace Setting

variable {setting : Setting} {store : BigSegmentStore} {number : Nat} {contextKey : String}

/-- Without a store no query is answered. -/
lemma answerAt_of_none (h : setting.bigSegments = none) (number : Nat) (contextKey : String) :
    setting.answerAt number contextKey = .error .bigSegmentsUnavailable := by
  rw [answerAt, h]

/-- A failed query is no answer. -/
lemma answerAt_of_failed {e : QueryError} (hstore : setting.bigSegments = some store)
    (hquery : store.query number contextKey = .error e) :
    setting.answerAt number contextKey = .error .bigSegmentsUnavailable := by
  rw [answerAt, hstore]
  dsimp only
  rw [hquery]

/-- A query is answered whatever the store says about its health. -/
lemma answerAt_of_answered {membership : Option Membership} {status : BigSegmentsStatus}
    (hstore : setting.bigSegments = some store)
    (hquery : store.query number contextKey = .ok (membership, status)) :
    setting.answerAt number contextKey = .ok membership := by
  rw [answerAt, hstore]
  dsimp only
  rw [hquery]

/-- The memberships of a context come out the same whenever an evaluation asks for them. What the big segment
store says about its own health may change. -/
def Steady (setting : Setting) : Prop :=
  ∀ number contextKey, setting.answerAt number contextKey = setting.answerAt 0 contextKey

/-- Without a big segment store there is nothing that could change. -/
lemma Steady.of_none (h : setting.bigSegments = none) : setting.Steady := fun number contextKey => by
  rw [answerAt_of_none h, answerAt_of_none h]

/-- A store that is always found the same answers the same. -/
lemma Steady.of_unchanging {b : BigSegments} (h : setting.bigSegments = some b.unchanging) :
    setting.Steady := fun number contextKey => by
  rw [answerAt, answerAt, h]
  rfl

end Setting

/-! ## Segments -/

/-- A value of a clause names a segment to be checked only if it is a text that is not on the path yet,
there is room on the path, and the catalog has the segment. -/
lemma run_matchesSegments_cons (c : Clause) (nested : SegmentCheck) (setting : Setting)
    (v : AttributeValue) (rest : List AttributeValue) :
    (c.matchesSegments nested setting (v :: rest)).run.run s =
      match v.string? with
      | none => (c.matchesSegments nested setting rest).run.run s
      | some key =>
        if key ∈ s.segmentPath ∨ maxSegmentDepth ≤ s.segmentPath.length then
          (c.matchesSegments nested setting rest).run.run s
        else
          match setting.catalog.segment? key with
          | none => (c.matchesSegments nested setting rest).run.run s
          | some segment =>
            match (insideSegment key (nested segment)).run.run s with
            | (.ok true, s') => (.ok (c.maybeNegate true), s')
            | (.ok false, s') => (c.matchesSegments nested setting rest).run.run s'
            | (.error e, s') => (.error e, s') := by
  rw [Clause.matchesSegments]
  -- only the first value can be a key, and what follows depends on what the segment says
  cases v.string? with
  | none => rfl
  | some key =>
    dsimp only
    rw [Check.run_bind]
    show StateT.run (ExceptT.run
      (if key ∈ s.segmentPath ∨ maxSegmentDepth ≤ s.segmentPath.length then _ else _)) s = _
    split
    · rfl
    · cases setting.catalog.segment? key with
      | none => rfl
      | some segment =>
        dsimp only
        rw [Check.run_bind]
        rcases (insideSegment key (nested segment)).run.run s with ⟨_ | (_ | _), s'⟩ <;> rfl

/-- The segment to be checked for a value of a clause, with the key that names it. There is none if the
value is no text, its key is on the path already, there is no room on the path, or no such segment. -/
def EvaluationState.segmentFor? (setting : Setting) (v : AttributeValue) : Option (String × Segment) :=
  v.string?.bind fun key =>
    if key ∈ s.segmentPath ∨ maxSegmentDepth ≤ s.segmentPath.length then none
    else (setting.catalog.segment? key).map (key, ·)

section Values

variable {s} {setting : Setting} {v : AttributeValue} {key : String} {inner : Segment}

/-- A value leads to a segment that is known, not on the path and not too deep. -/
lemma EvaluationState.segmentFor?_eq_some_iff :
    s.segmentFor? setting v = some (key, inner) ↔
      v.string? = some key ∧ key ∉ s.segmentPath ∧ s.segmentPath.length < maxSegmentDepth ∧
        setting.catalog.segment? key = some inner := by
  rw [segmentFor?, Option.bind_eq_some_iff]
  constructor
  · rintro ⟨named, hv, h⟩
    split_ifs at h with hskip
    obtain ⟨found, hfound, heq⟩ := Option.map_eq_some_iff.mp h
    cases heq
    rw [not_or, Nat.not_le] at hskip
    exact ⟨hv, hskip.1, hskip.2, hfound⟩
  · rintro ⟨hv, hfresh, hroom, hfound⟩
    refine ⟨key, hv, ?_⟩
    rw [if_neg (not_or.mpr ⟨hfresh, Nat.not_le.mpr hroom⟩), hfound]
    rfl

/-- Any other text leads to no segment, and that is no error. -/
lemma EvaluationState.segmentFor?_eq_none_iff :
    s.segmentFor? setting v = none ↔
      ∀ key, v.string? = some key → key ∈ s.segmentPath ∨
        maxSegmentDepth ≤ s.segmentPath.length ∨ setting.catalog.segment? key = none := by
  rw [segmentFor?, Option.bind_eq_none_iff]
  refine forall₂_congr fun key _ => ?_
  rw [← or_assoc]
  split_ifs with hskip
  · exact iff_of_true rfl (.inl hskip)
  · rw [Option.map_eq_none_iff]
    exact (or_iff_right hskip).symm

/-- A value is passed over if no segment is to be checked for it. -/
lemma run_matchesSegments_of_none (c : Clause) (nested : SegmentCheck) (rest : List AttributeValue)
    (h : s.segmentFor? setting v = none) :
    (c.matchesSegments nested setting (v :: rest)).run.run s =
      (c.matchesSegments nested setting rest).run.run s := by
  rw [EvaluationState.segmentFor?_eq_none_iff] at h
  rw [run_matchesSegments_cons]
  cases hv : v.string? with
  | none => rfl
  | some key =>
    dsimp only
    rcases h key hv with hpath | hroom | hunknown
    · rw [if_pos (.inl hpath)]
    · rw [if_pos (.inr hroom)]
    · rw [hunknown, ite_self]

/-- The segment of a value is checked, and then the other values unless it has decided. -/
lemma run_matchesSegments_of_some (c : Clause) (nested : SegmentCheck) (rest : List AttributeValue)
    (h : s.segmentFor? setting v = some (key, inner)) :
    (c.matchesSegments nested setting (v :: rest)).run.run s =
      match (insideSegment key (nested inner)).run.run s with
      | (.ok true, s') => (.ok (c.maybeNegate true), s')
      | (.ok false, s') => (c.matchesSegments nested setting rest).run.run s'
      | (.error e, s') => (.error e, s') := by
  obtain ⟨hv, hfresh, hroom, hfound⟩ := EvaluationState.segmentFor?_eq_some_iff.mp h
  rw [run_matchesSegments_cons, hv]
  dsimp only
  rw [if_neg (not_or.mpr ⟨hfresh, Nat.not_le.mpr hroom⟩), hfound]

end Values

/-- The next clause is checked if this one holds. -/
lemma run_checkClauses_cons (nested : SegmentCheck) (setting : Setting) (c : Clause)
    (rest : List Clause) :
    (checkClauses nested setting (c :: rest)).run.run s =
      match (c.checkWith nested setting).run.run s with
      | (.ok true, s') => (checkClauses nested setting rest).run.run s'
      | (.ok false, s') => (.ok false, s')
      | (.error e, s') => (.error e, s') := by
  rw [checkClauses, Check.run_bind]
  rcases (c.checkWith nested setting).run.run s with ⟨_ | (_ | _), s'⟩ <;> rfl

/-- The weight of a rule matters only if its clauses hold. -/
lemma SegmentRule.run_checkWith (r : SegmentRule) (nested : SegmentCheck) (setting : Setting)
    (key salt : String) :
    (r.checkWith nested setting key salt).run.run s =
      match (checkClauses nested setting r.clauses).run.run s with
      | (.ok true, s') => (r.admits key salt setting.context, s')
      | (.ok false, s') => (.ok false, s')
      | (.error e, s') => (.error e, s') := by
  rw [SegmentRule.checkWith, Check.run_bind]
  rcases (checkClauses nested setting r.clauses).run.run s with ⟨_ | (_ | _), s'⟩ <;> rfl

/-- The next rule is checked if this one does not apply. -/
lemma run_checkRules_cons (segment : Segment) (nested : SegmentCheck) (setting : Setting)
    (r : SegmentRule) (rest : List SegmentRule) :
    (segment.checkRules nested setting (r :: rest)).run.run s =
      match (r.checkWith nested setting segment.key segment.salt).run.run s with
      | (.ok true, s') => (.ok true, s')
      | (.ok false, s') => (segment.checkRules nested setting rest).run.run s'
      | (.error e, s') => (.error e, s') := by
  rw [Segment.checkRules, Check.run_bind]
  rcases (r.checkWith nested setting segment.key segment.salt).run.run s with ⟨_ | (_ | _), s'⟩ <;> rfl

/-- A segment is checked with as much depth as the path leaves. -/
lemma Segment.run_contains (segment : Segment) (setting : Setting) :
    (segment.contains setting).run.run s =
      (Segment.containsAt setting (Segment.depthLeft s) segment).run.run s := by
  rw [Segment.contains, Check.run_bind, Check.run_get]

/-- A clause is checked with one level less than the path leaves. -/
lemma Clause.run_check (c : Clause) (setting : Setting) :
    (c.check setting).run.run s =
      (c.checkWith (Segment.containsAt setting (Segment.depthLeft s - 1)) setting).run.run s := by
  rw [Clause.check, Check.run_bind, Check.run_get]

/-! ## Flags -/

/-- A rule is checked clause by clause. -/
lemma FlagRule.run_check (r : FlagRule) (setting : Setting) :
    (r.check setting).run.run s =
      (checkClauses (Segment.containsAt setting (Segment.depthLeft s - 1)) setting
        r.clauses).run.run s := by
  rw [FlagRule.check, Check.run_bind, Check.run_get]

/-- The first rule that applies or fails decides. -/
lemma run_decideByRules_cons (f : Flag) (setting : Setting) (rule : FlagRule) (index : Nat)
    (rest : List (FlagRule × Nat)) :
    (f.decideByRules setting ((rule, index) :: rest)).run s =
      match (rule.check setting).run.run s with
      | (.error e, s') => (Detail.error e, s')
      | (.ok true, s') => (f.serveOutcome rule.outcome setting.context (.ruleMatch index rule.id), s')
      | (.ok false, s') => (f.decideByRules setting rest).run s' := by
  rw [Flag.decideByRules, Evaluation.run_bind]
  rcases (rule.check setting).run.run s with ⟨_ | (_ | _), s'⟩ <;> rfl

/-- A prerequisite that is evaluated is recorded unless a flag turned out to be its own prerequisite. It is
met if its flag is on and serves the wanted variation. -/
lemma run_checkPrerequisites_cons (f : Flag) (nested : Flag → Evaluation Detail) (setting : Setting)
    (p : Prerequisite) (rest : List Prerequisite) :
    (f.checkPrerequisites nested setting (p :: rest)).run s =
      match setting.catalog.flag? p.key with
      | none => (some (f.serveOff (.prerequisiteFailed p.key)), s)
      | some g =>
        let (result, s') := (nested g).run s
        let recorded := s'.record ⟨f.key, setting.context, g, result⟩
        if s'.cycle = true then (some (Detail.error .malformedFlag), s')
        else if g.on = true ∧ result.variationIndex = some p.variation then
          (f.checkPrerequisites nested setting rest).run recorded
        else (some (f.serveOff (.prerequisiteFailed p.key)), recorded) := by
  rw [Flag.checkPrerequisites]
  cases setting.catalog.flag? p.key with
  | none => rfl
  | some g =>
    dsimp only
    rw [Evaluation.run_bind]
    rcases (nested g).run s with ⟨result, s'⟩
    -- the mark of a cycle is read from the state that the nested evaluation left
    show StateT.run (if s'.cycle then _ else _) s' = if s'.cycle = true then _ else _
    split
    · rfl
    · rw [Evaluation.run_bind]
      show StateT.run (if !g.on || result.variationIndex != some p.variation then _ else _) _ = _
      split_ifs with hunmet hmet hmet
      · simp [hmet] at hunmet
      · rfl
      · rfl
      · rcases Decidable.not_and_iff_not_or_not.mp hmet with hoff | hother
        · simp [hoff] at hunmet
        · simp [hother] at hunmet

/-- Checking prerequisites looks only at the key of the flag that has them and at what it serves if it is off. -/
lemma Flag.checkPrerequisites_eq {f g : Flag} (hkey : g.key = f.key)
    (hoff : ∀ reason, g.serveOff reason = f.serveOff reason) (nested : Flag → Evaluation Detail)
    (setting : Setting) (prerequisites : List Prerequisite) :
    g.checkPrerequisites nested setting prerequisites = f.checkPrerequisites nested setting prerequisites := by
  induction prerequisites with
  | nil => rfl
  | cons p rest ih => rw [Flag.checkPrerequisites, Flag.checkPrerequisites, ih, hkey, hoff]

/-- The ways an evaluation of a flag can go: the flag is off, it is on the path already, one of its
prerequisites is not met, and it is decided. -/
lemma run_evaluateWith (f : Flag) (nested : Flag → Evaluation Detail) (setting : Setting) :
    (f.evaluateWith nested setting).run s =
      if !f.on then (f.serveOff .off, s)
      else if f.key ∈ s.flagPath then (Detail.error .malformedFlag, s.markCycle)
      else
        let (failure, s') :=
          (insideFlag f.key (f.checkPrerequisites nested setting f.prerequisites)).run s
        match failure with
        | some result => (result, s')
        | none => (f.decide setting).run s' := by
  rw [Flag.evaluateWith]
  split
  · rfl
  · rw [Evaluation.run_bind]
    show StateT.run (if f.key ∈ s.flagPath then _ else _) s = _
    split
    · rfl
    · rw [Evaluation.run_bind]
      rcases (insideFlag f.key (f.checkPrerequisites nested setting f.prerequisites)).run s with
        ⟨_ | _, s'⟩ <;> rfl

end FeatureFlags
