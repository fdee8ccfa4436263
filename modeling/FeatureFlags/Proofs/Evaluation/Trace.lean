import FeatureFlags.Proofs.Evaluation.Moments

/-!
# The order of moments

A moment gives rise to at most two others: one that is nested in it (`Moment.nested`), and one for what is
left once that is done (`Moment.later`). So the moments of an evaluation come in an order, in which
`Moment.trace` lists them. They are those that are reached (`Moment.mem_trace_iff`).
-/

namespace FeatureFlags.Moment

section Order

variable (setting : Setting)

/-- The task nested in the one at hand. -/
def nested : Moment → Option Moment
  | ⟨.flag f, s⟩ =>
    if f.on = true ∧ f.key ∉ s.flagPath then
      some ⟨.prerequisites f f.prerequisites, s.enterFlag f.key⟩
    else none
  | ⟨.prerequisites _ (p :: _), s⟩ => (setting.catalog.flag? p.key).map (⟨.flag ·, s⟩)
  | ⟨.rules _ ((rule, _) :: _), s⟩ => some ⟨.clauses rule.clauses, s⟩
  | ⟨.clauses (c :: _), s⟩ => if c.op = .segmentMatch then some ⟨.values c c.values, s⟩ else none
  | ⟨.values _ (v :: _), s⟩ =>
    (s.segmentFor? setting v).map fun (key, inner) => ⟨.segment inner, s.enterSegment key⟩
  | ⟨.segment inner, s⟩ =>
    if inner.unbounded = false ∧ inner.excludes setting.context = false ∧
        inner.includes setting.context = false then
      some ⟨.segmentRules inner inner.rules, s⟩
    else none
  | ⟨.segmentRules _ (r :: _), s⟩ => some ⟨.clauses r.clauses, s⟩
  | _ => none

/-- What is left of the task at hand once the nested one is done, if that has not decided it. -/
def later : Moment → Option Moment
  | ⟨.flag f, s⟩ =>
    if f.on = true ∧ f.key ∉ s.flagPath ∧ f.targetVariation? setting.context = none then
      match f.runPrerequisites setting f.prerequisites (s.enterFlag f.key) with
      | (none, s') => some ⟨.rules f f.rules.zipIdx, s'.leaveFlag f.key⟩
      | _ => none
    else none
  | ⟨.prerequisites f (p :: rest), s⟩ =>
    match setting.catalog.flag? p.key with
    | none => none
    | some g =>
      let (result, s') := g.run setting s
      if s'.cycle = false ∧ g.on = true ∧ result.variationIndex = some p.variation then
        some ⟨.prerequisites f rest, s'.record ⟨f.key, setting.context, g, result⟩⟩
      else none
  | ⟨.rules f ((rule, _) :: rest), s⟩ =>
    match (rule.check setting).run.run s with
    | (.ok false, s') => some ⟨.rules f rest, s'⟩
    | _ => none
  | ⟨.clauses (c :: rest), s⟩ =>
    match (c.check setting).run.run s with
    | (.ok true, s') => some ⟨.clauses rest, s'⟩
    | _ => none
  | ⟨.values c (v :: rest), s⟩ =>
    match s.segmentFor? setting v with
    | none => some ⟨.values c rest, s⟩
    | some (key, inner) =>
      match (inner.contains setting).run.run (s.enterSegment key) with
      | (.ok false, s') => some ⟨.values c rest, s'.leaveSegment key⟩
      | _ => none
  | ⟨.segmentRules inner (r :: rest), s⟩ =>
    match (r.checkWith (·.contains setting) setting inner.key inner.salt).run.run s with
    | (.ok false, s') => some ⟨.segmentRules inner rest, s'⟩
    | _ => none
  | _ => none

end Order

variable {setting : Setting} {m m' : Moment}

/-! ## Steps -/

/-- The moment inside of a moment is a step away. -/
lemma step_of_nested (h : m.nested setting = some m') : Step setting m m' := by
  obtain ⟨task, s⟩ := m
  -- one case for each kind of task
  cases task with
  | flag f =>
    rw [nested] at h
    split_ifs at h with hentered
    cases h
    exact .prerequisites hentered.1 hentered.2
  | prerequisites f rest =>
    cases rest with
    | nil => cases h
    | cons p rest =>
      obtain ⟨g, hfound, rfl⟩ := Option.map_eq_some_iff.mp h
      exact .prerequisite hfound
  | rules f rest =>
    cases rest with
    | nil => cases h
    | cons entry rest =>
      cases h
      exact .ruleClauses
  | clauses rest =>
    cases rest with
    | nil => cases h
    | cons c rest =>
      rw [nested] at h
      split_ifs at h with hop
      cases h
      exact .values hop
  | values c rest =>
    cases rest with
    | nil => cases h
    | cons v rest =>
      obtain ⟨⟨key, inner⟩, hinner, rfl⟩ := Option.map_eq_some_iff.mp h
      obtain ⟨hv, hfresh, hroom, hfound⟩ := EvaluationState.segmentFor?_eq_some_iff.mp hinner
      exact .segment hv hfresh hroom hfound
  | segment inner =>
    rw [nested] at h
    split_ifs at h with hrules
    cases h
    exact .segmentRules hrules.1 hrules.2.1 hrules.2.2
  | segmentRules inner rest =>
    cases rest with
    | nil => cases h
    | cons r rest =>
      cases h
      exact .segmentRuleClauses

/-- The moment after a moment is a step away. -/
lemma step_of_later (h : m.later setting = some m') : Step setting m m' := by
  obtain ⟨task, s⟩ := m
  -- one case for each kind of task; what follows is reached from the state that the nested evaluation leaves
  cases task with
  | flag f =>
    rw [later] at h
    split_ifs at h with hentered
    rcases hchecked : f.runPrerequisites setting f.prerequisites (s.enterFlag f.key) with ⟨_ | _, s'⟩
    · rw [hchecked] at h
      cases h
      exact .rules hentered.1 hentered.2.1 hchecked hentered.2.2
    · rw [hchecked] at h
      cases h
  | prerequisites f rest =>
    cases rest with
    | nil => cases h
    | cons p rest =>
      rw [later] at h
      cases hfound : setting.catalog.flag? p.key with
      | none =>
        rw [hfound] at h
        cases h
      | some g =>
        rw [hfound] at h
        dsimp only at h
        split_ifs at h with hmet
        cases h
        exact .nextPrerequisite hfound rfl hmet.1 hmet.2.1 hmet.2.2
  | rules f rest =>
    cases rest with
    | nil => cases h
    | cons entry rest =>
      rw [later] at h
      split at h
      · cases h
        exact .nextRule ‹_›
      · cases h
  | clauses rest =>
    cases rest with
    | nil => cases h
    | cons c rest =>
      rw [later] at h
      split at h
      · cases h
        exact .nextClause ‹_›
      · cases h
  | values c rest =>
    cases rest with
    | nil => cases h
    | cons v rest =>
      rw [later] at h
      rcases hinner : s.segmentFor? setting v with _ | ⟨key, inner⟩
      · rw [hinner] at h
        cases h
        exact .skippedValue (EvaluationState.segmentFor?_eq_none_iff.mp hinner)
      · obtain ⟨hv, hfresh, hroom, hfound⟩ := EvaluationState.segmentFor?_eq_some_iff.mp hinner
        rw [hinner] at h
        dsimp only at h
        split at h
        · cases h
          exact .nextValue hv hfresh hroom hfound ‹_›
        · cases h
  | segment inner => cases h
  | segmentRules inner rest =>
    cases rest with
    | nil => cases h
    | cons r rest =>
      rw [later] at h
      split at h
      · cases h
        exact .nextSegmentRule ‹_›
      · cases h

/-- Every step goes inside or on. -/
lemma nested_or_later_of_step (h : Step setting m m') :
    m.nested setting = some m' ∨ m.later setting = some m' := by
  -- one case for each step, which goes into a nested evaluation or on to what follows
  cases h with
  | prerequisites on fresh => exact .inl (if_pos ⟨on, fresh⟩)
  | rules on fresh met untargeted =>
    right
    rw [later, if_pos ⟨on, fresh, untargeted⟩, met]
  | prerequisite found =>
    left
    rw [nested, found]
    rfl
  | nextPrerequisite found evaluated acyclic on served =>
    right
    rw [later, found]
    dsimp only
    rw [evaluated]
    exact if_pos ⟨acyclic, on, served⟩
  | ruleClauses => exact .inl rfl
  | nextRule unmatched =>
    right
    rw [later, unmatched]
  | values segments => exact .inl (if_pos segments)
  | nextClause holds =>
    right
    rw [later, holds]
  | segment named fresh room found =>
    left
    rw [nested, EvaluationState.segmentFor?_eq_some_iff.mpr ⟨named, fresh, room, found⟩]
    rfl
  | skippedValue skipped =>
    right
    rw [later, EvaluationState.segmentFor?_eq_none_iff.mpr skipped]
  | nextValue named fresh room found outside =>
    right
    rw [later, EvaluationState.segmentFor?_eq_some_iff.mpr ⟨named, fresh, room, found⟩]
    dsimp only
    rw [outside]
  | segmentRules bounded notExcluded notIncluded =>
    exact .inl (if_pos ⟨bounded, notExcluded, notIncluded⟩)
  | segmentRuleClauses => exact .inl rfl
  | nextSegmentRule unmatched =>
    right
    rw [later, unmatched]

/-! ## The trace -/

/-- The moments of an evaluation from a moment on, in order. -/
def trace (setting : Setting) (m : Moment) : List Moment :=
  m :: ((match _h : m.nested setting with
    | none => []
    | some inner => inner.trace setting) ++
    match _h : m.later setting with
    | none => []
    | some rest => rest.trace setting)
termination_by m.rank setting.catalog
decreasing_by
  · exact rank_lt_of_step (step_of_nested ‹_›)
  · exact rank_lt_of_step (step_of_later ‹_›)

/-- A trace is the moment itself, what is inside of it and what is after it. -/
lemma trace_eq (setting : Setting) (m : Moment) :
    m.trace setting = m :: ((m.nested setting).elim [] (trace setting) ++
      (m.later setting).elim [] (trace setting)) := by
  rw [trace]
  congr 2
  · split <;> simp [*]
  · split <;> simp [*]

/-- The moments of an evaluation from a moment on, if they follow each other at most this often. -/
def traceWithin (setting : Setting) : ℕ → Moment → Option (List Moment)
  | 0, _ => none
  | limit + 1, m => do
    let inner ← (m.nested setting).elim (some []) (traceWithin setting limit)
    let rest ← (m.later setting).elim (some []) (traceWithin setting limit)
    return m :: (inner ++ rest)

/-- A trace that ends within a limit can be evaluated. -/
lemma trace_eq_of_traceWithin {limit : Nat} {moments : List Moment}
    (h : traceWithin setting limit m = some moments) : m.trace setting = moments := by
  induction limit generalizing m moments with
  | zero => cases h
  | succ limit ih =>
    have hpart : ∀ (next : Option Moment) (part : List Moment),
        next.elim (some []) (traceWithin setting limit) = some part →
        next.elim [] (trace setting) = part := by
      intro next part hpart
      cases next with
      | none => exact Option.some.inj hpart
      | some first => exact ih hpart
    simp only [traceWithin, Option.bind_eq_bind, Option.bind_eq_some_iff] at h
    obtain ⟨inner, hinner, rest, hrest, hmoments⟩ := h
    rw [trace_eq, hpart _ _ hinner, hpart _ _ hrest]
    exact Option.some.inj hmoments

/-- What is picked from the moments of an evaluation comes from the first one, then from what is nested in it,
then from what is left. -/
lemma filterMap_trace {α : Type} (setting : Setting) (pick : Moment → Option α) (m : Moment) :
    (m.trace setting).filterMap pick = (pick m).toList ++
      ((m.nested setting).elim [] (fun inner => (inner.trace setting).filterMap pick) ++
        (m.later setting).elim [] fun rest => (rest.trace setting).filterMap pick) := by
  have hpart : ∀ next : Option Moment, (next.elim [] (trace setting)).filterMap pick =
      next.elim [] fun first => (first.trace setting).filterMap pick := by
    intro next
    cases next <;> rfl
  rw [trace_eq, List.filterMap_cons, List.filterMap_append, hpart, hpart]
  cases pick m <;> rfl

/-- An evaluation is made of the moments that it reaches. -/
theorem mem_trace_iff : m' ∈ m.trace setting ↔ Reaches setting m m' := by
  induction m using (step_wellFounded setting).induction with
  | _ m ih =>
    -- each part of the trace lists what is reached from the moment that it starts with
    have hpart : ∀ next : Option Moment, (∀ first, next = some first → Step setting m first) →
        (m' ∈ next.elim [] (trace setting) ↔ ∃ first, next = some first ∧ Reaches setting first m') := by
      intro next hnext
      cases next with
      | none => simp
      | some first => simp [ih first (hnext first rfl)]
    rw [trace_eq, List.mem_cons, List.mem_append, hpart _ fun _ => step_of_nested,
      hpart _ fun _ => step_of_later, Reaches, Relation.ReflTransGen.cases_head_iff, eq_comm]
    refine or_congr_right ⟨?_, ?_⟩
    · rintro (⟨first, hfirst, hreach⟩ | ⟨first, hfirst, hreach⟩)
      · exact ⟨first, step_of_nested hfirst, hreach⟩
      · exact ⟨first, step_of_later hfirst, hreach⟩
    · rintro ⟨first, hstep, hreach⟩
      exact (nested_or_later_of_step hstep).imp (⟨first, ·, hreach⟩) (⟨first, ·, hreach⟩)

end FeatureFlags.Moment
