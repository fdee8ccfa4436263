import FeatureFlags.Proofs.Evaluation.Moments

/-!
# Evaluations finish

Evaluating a flag or checking a segment asks for other flags and segments only at moments that are reached
from it (`consultsReachedOnly`), and no chain of moments goes on for ever. So the recursion without any
bound finishes, and its outcome is that of `Flag.run`. `evaluation_finishes` puts this together with the
bounds on the paths.
-/

namespace FeatureFlags

variable {setting : Setting} {m m' : Moment}

/-! ## What is asked for -/

/-- A way to check segments that is right at all moments that a moment leads to. -/
def SegmentsAgree (setting : Setting) (m : Moment) (nested : SegmentCheck) : Prop :=
  ∀ inner t, LeadsTo setting m ⟨.segment inner, t⟩ →
    (nested inner).run.run t = (inner.contains setting).run.run t

/-- A way to evaluate flags that is right at all moments that a moment leads to. -/
def FlagsAgree (setting : Setting) (m : Moment) (nested : Flag → Evaluation Detail) : Prop :=
  ∀ g t, LeadsTo setting m ⟨.flag g, t⟩ → (nested g).run t = g.run setting t

/-- What agrees from a moment on agrees from any later one. -/
lemma SegmentsAgree.of_step {nested : SegmentCheck} (h : SegmentsAgree setting m nested)
    (hstep : Step setting m m') : SegmentsAgree setting m' nested :=
  fun inner t hlater => h inner t (.head hstep hlater)

/-- What agrees from a moment on agrees from any later one, also for flags. -/
lemma FlagsAgree.of_step {nested : Flag → Evaluation Detail} (h : FlagsAgree setting m nested)
    (hstep : Step setting m m') : FlagsAgree setting m' nested :=
  fun g t hlater => h g t (.head hstep hlater)

/-- Evaluating a flag, checking a rule and checking a segment ask for flags and segments only at moments
that are reached: whatever else is put in place of the nested evaluations makes no difference. -/
structure ConsultsReachedOnly (setting : Setting) : Prop where
  flag : ∀ f s nested, FlagsAgree setting ⟨.flag f, s⟩ nested →
    (f.evaluateWith nested setting).run s = f.run setting s
  rule : ∀ (r : FlagRule) s nested, SegmentsAgree setting ⟨.clauses r.clauses, s⟩ nested →
    (checkClauses nested setting r.clauses).run.run s = (r.check setting).run.run s
  segment : ∀ segment s nested, SegmentsAgree setting ⟨.segment segment, s⟩ nested →
    (segment.containsWith nested setting).run.run s = (segment.contains setting).run.run s

/-! ## Segments -/

section Segments

variable {nested : SegmentCheck} {s : EvaluationState}

/-- The values of a clause consult the segments only that they lead to. -/
lemma Clause.run_matchesSegments_eq (c : Clause) (values : List AttributeValue)
    (h : SegmentsAgree setting ⟨.values c values, s⟩ nested) :
    (c.matchesSegments nested setting values).run.run s =
      (c.matchesSegments (·.contains setting) setting values).run.run s := by
  -- every way to go on with the rest is a step, so what agrees before it agrees after it
  induction values generalizing s with
  | nil => rfl
  | cons v rest ih =>
    rw [run_matchesSegments_cons, run_matchesSegments_cons]
    cases hv : v.string? with
    | none => exact ih (h.of_step (.skippedValue fun key hkey => by rw [hv] at hkey; cases hkey))
    | some key =>
      dsimp only
      by_cases hskip : key ∈ s.segmentPath ∨ maxSegmentDepth ≤ s.segmentPath.length
      · rw [if_pos hskip, if_pos hskip]
        refine ih (h.of_step (.skippedValue fun key' hkey => ?_))
        rw [hv] at hkey
        cases hkey
        exact hskip.imp_right .inl
      · rw [if_neg hskip, if_neg hskip]
        rw [not_or, Nat.not_le] at hskip
        cases hfound : setting.catalog.segment? key with
        | none =>
          refine ih (h.of_step (.skippedValue fun key' hkey => ?_))
          rw [hv] at hkey
          cases hkey
          exact .inr (.inr hfound)
        | some inner =>
          have hinner := h inner (s.enterSegment key)
            (.single (.segment hv hskip.1 hskip.2 hfound))
          dsimp only
          rw [run_insideSegment, run_insideSegment, hinner]
          rcases houtcome : (inner.contains setting).run.run (s.enterSegment key) with
            ⟨_ | _ | _, s'⟩
          · rfl
          · exact ih (h.of_step (.nextValue hv hskip.1 hskip.2 hfound houtcome))
          · rfl

/-- Clauses consult the segments only that they lead to. -/
lemma run_checkClauses_eq (clauses : List Clause)
    (h : SegmentsAgree setting ⟨.clauses clauses, s⟩ nested) :
    (checkClauses nested setting clauses).run.run s =
      (checkClauses (·.contains setting) setting clauses).run.run s := by
  induction clauses generalizing s with
  | nil => rfl
  | cons c rest ih =>
    have hc : (c.checkWith nested setting).run.run s = (c.check setting).run.run s := by
      rw [Clause.check_eq, Clause.checkWith, Clause.checkWith]
      split_ifs with hop
      · exact c.run_matchesSegments_eq c.values (h.of_step (.values hop))
      · rfl
    rw [run_checkClauses_cons, run_checkClauses_cons, hc, ← Clause.check_eq]
    rcases houtcome : (c.check setting).run.run s with ⟨_ | _ | _, s'⟩
    · rfl
    · rfl
    · exact ih (h.of_step (.nextClause houtcome))

/-- Rules of a segment consult the segments only that they lead to. -/
lemma Segment.run_checkRules_eq (segment : Segment) (rules : List SegmentRule)
    (h : SegmentsAgree setting ⟨.segmentRules segment rules, s⟩ nested) :
    (segment.checkRules nested setting rules).run.run s =
      (segment.checkRules (·.contains setting) setting rules).run.run s := by
  induction rules generalizing s with
  | nil => rfl
  | cons r rest ih =>
    have hr : (r.checkWith nested setting segment.key segment.salt).run.run s =
        (r.checkWith (·.contains setting) setting segment.key segment.salt).run.run s := by
      rw [SegmentRule.run_checkWith, SegmentRule.run_checkWith,
        run_checkClauses_eq r.clauses (h.of_step .segmentRuleClauses)]
    rw [run_checkRules_cons, run_checkRules_cons, hr]
    rcases houtcome : (r.checkWith (·.contains setting) setting segment.key segment.salt).run.run s with
      ⟨_ | _ | _, s'⟩
    · rfl
    · exact ih (h.of_step (.nextSegmentRule houtcome))
    · rfl

/-- A segment consults the segments only that it leads to. -/
lemma Segment.run_containsWith_eq (segment : Segment)
    (h : SegmentsAgree setting ⟨.segment segment, s⟩ nested) :
    (segment.containsWith nested setting).run.run s = (segment.contains setting).run.run s := by
  rw [Segment.contains_eq, Segment.containsWith, Segment.containsWith]
  split_ifs with hunbounded hexcluded hincluded
  · rfl
  · rfl
  · rfl
  · refine segment.run_checkRules_eq segment.rules (h.of_step (.segmentRules ?_ ?_ ?_))
    · simpa using hunbounded
    · simpa using hexcluded
    · simpa using hincluded

end Segments

/-! ## Flags -/

section Flags

variable {nested : Flag → Evaluation Detail} {s : EvaluationState}

/-- Prerequisites consult the flags only that they lead to. -/
lemma Flag.run_checkPrerequisites_eq (f : Flag) (prerequisites : List Prerequisite)
    (h : FlagsAgree setting ⟨.prerequisites f prerequisites, s⟩ nested) :
    (f.checkPrerequisites nested setting prerequisites).run s =
      f.runPrerequisites setting prerequisites s := by
  -- the flags below a prerequisite check are those reached from it by steps, which agree by hypothesis
  induction prerequisites generalizing s with
  | nil => rfl
  | cons p rest ih =>
    rw [run_checkPrerequisites_cons]
    cases hfound : setting.catalog.flag? p.key with
    | none => rw [Flag.runPrerequisites_of_unknown hfound]
    | some g =>
      have hnested := h g s (.single (.prerequisite hfound))
      dsimp only
      rw [hnested]
      rcases hg : g.run setting s with ⟨result, s'⟩
      rw [Flag.runPrerequisites_of_found f rest hfound hg]
      dsimp only
      split_ifs with hcycle hmet
      · rfl
      · have hacyclic : s'.cycle = false := Bool.eq_false_iff.mpr hcycle
        exact ih (h.of_step (.nextPrerequisite hfound hg hacyclic hmet.1 hmet.2))
      · rfl

/-- A flag consults the flags only that it leads to. -/
lemma Flag.run_evaluateWith_eq (f : Flag) (h : FlagsAgree setting ⟨.flag f, s⟩ nested) :
    (f.evaluateWith nested setting).run s = f.run setting s := by
  rw [Flag.run_eq, Flag.evaluation_eq, run_evaluateWith, run_evaluateWith]
  split_ifs with hoff hpath
  · rfl
  · rfl
  · have hon : f.on = true := by simpa using hoff
    rw [run_insideFlag, run_insideFlag,
      f.run_checkPrerequisites_eq f.prerequisites (h.of_step (.prerequisites hon hpath))]
    rfl

end Flags

theorem consultsReachedOnly (setting : Setting) : ConsultsReachedOnly setting where
  flag f _ _ h := f.run_evaluateWith_eq h
  rule r _ _ h := by
    rw [FlagRule.check_eq]
    exact run_checkClauses_eq r.clauses h
  segment segment _ _ h := segment.run_containsWith_eq h

/-! ## Evaluations finish -/

/-- Every evaluation finishes: it is made of the evaluations at the moments it reaches, and no chain of
moments goes on for ever. At all of them the path of flags holds own keys of the flag or of stored flags
only, each of them once and so no more than there are, and the path of segments holds at most
`maxSegmentDepth` keys. -/
theorem evaluation_finishes (f : Flag) (setting : Setting) :
    ConsultsReachedOnly setting ∧
    (WellFounded fun later earlier => Step setting earlier later) ∧
    ∀ m, Reaches setting (.start f) m →
      (∀ key ∈ m.state.flagPath, key = f.key ∨ key ∈ setting.catalog.ownKeys) ∧
      m.state.flagPath.Nodup ∧
      m.state.flagPath.length ≤ f.keyCount setting.catalog ∧
      m.state.segmentPath.length ≤ maxSegmentDepth := by
  refine ⟨consultsReachedOnly setting, step_wellFounded setting, fun m hm => ?_⟩
  have hbounded := Moment.Bounded.of_reaches hm
  refine ⟨fun key hkey => ?_, hbounded.once, hbounded.length_flagPath_le, hbounded.room⟩
  exact List.mem_cons.mp (List.mem_toFinset.mp (hbounded.known key hkey))

/-- In a ring the path of keys has no repetitions, so it ends. -/
theorem evaluation_finishes_ring :
    ((EvaluationState.initial.enterFlag "a").enterFlag "b").flagPath.Nodup ∧
    ((EvaluationState.initial.enterFlag "a").enterFlag "b").flagPath.length ≤
      (Flag.requiring "a" ["q"]).keyCount Setting.ring.catalog :=
  have hall := (evaluation_finishes (.requiring "a" ["q"]) .ring).2.2 _
    Setting.ring_reaches
  ⟨hall.2.1, hall.2.2.1⟩

end FeatureFlags
