import FeatureFlags.Proofs.Evaluation.Cycles

/-!
# Prerequisites by themselves

A prerequisite is evaluated in the midst of other flags, from a state that all of them have left something
in: keys on the path, answers of the big segment store, its health, recorded prerequisites. Unless a cycle
is met this does not show in the result.

* `EvaluationState.Faithful`: what was remembered of the big segment store is what it still answers.
* `EvaluationState.Beside`: a state from which less is on the path than from another one, both of them
  faithful and without a cycle. Evaluations from the two come out the same (`Moment.composes`).
* `Moment.records`: what is recorded of a prerequisite is what evaluating it by itself gives.
* `Flag.runPrerequisites_eq_find?`: without a cycle the first prerequisite that is not met by itself
  decides.
-/

namespace FeatureFlags

/-! ## What is remembered -/

/-- Settings that show the same to an evaluation: only what their big segment stores say about their own
health may differ, or change. -/
structure Setting.Alike (setting other : Setting) : Prop extends setting.SameData other where
  steady : setting.Steady
  steady_other : other.Steady
  answers : ∀ contextKey, setting.answerAt 0 contextKey = other.answerAt 0 contextKey

namespace Setting

variable {setting other : Setting}

/-- A setting whose store always answers the same is alike to itself. -/
lemma Alike.refl (h : setting.Steady) : setting.Alike setting :=
  ⟨.refl setting, h, h, fun _ => rfl⟩

/-- A big segment store only fails to be available. -/
lemma answerAt_error {number : Nat} {contextKey : String} {e : EvaluationError}
    (h : setting.answerAt number contextKey = .error e) : e.OfCheck := by
  rw [answerAt] at h
  split at h
  · cases h
    exact .inr rfl
  · split at h
    · cases h
    · cases h
      exact .inr rfl

end Setting

/-- All that a state remembers of the big segment store is what the store answers. -/
def EvaluationState.Faithful (setting : Setting) (s : EvaluationState) : Prop :=
  ∀ contextKey known, Entries.get? contextKey s.memberships = some known →
    setting.answerAt 0 contextKey = .ok known

/-- At first nothing is remembered, so nothing is remembered wrongly. -/
lemma EvaluationState.faithful_initial (setting : Setting) :
    EvaluationState.initial.Faithful setting := by
  intro contextKey known h
  cases h

/-- From a faithful state it makes no difference whether the store was asked before. -/
lemma membershipOf_faithful {setting : Setting} {s : EvaluationState} (hsteady : setting.Steady)
    (hs : s.Faithful setting) (contextKey : String) :
    ((membershipOf setting contextKey).run.run s).1 = setting.answerAt 0 contextKey ∧
      ((membershipOf setting contextKey).run.run s).2.Faithful setting := by
  rcases membershipOf_cases s setting contextKey with ⟨hnone, h⟩ | ⟨store, hstore, ⟨known, hknown, h⟩ |
    ⟨e, -, hquery, h⟩ | ⟨membership, status, -, hquery, h⟩⟩
  · rw [h, Setting.answerAt_of_none hnone]
    exact ⟨rfl, hs⟩
  · rw [h, hs contextKey known hknown]
    exact ⟨rfl, hs⟩
  -- the answer to this query is the one that the first query would have got
  · rw [h, ← hsteady s.queries.length, Setting.answerAt_of_failed hstore hquery]
    exact ⟨rfl, hs⟩
  · have hanswer := Setting.answerAt_of_answered hstore hquery
    rw [hsteady] at hanswer
    rw [h]
    refine ⟨hanswer.symm, fun key known hknown => ?_⟩
    rw [EvaluationState.remember_memberships, Entries.get?_insert] at hknown
    split_ifs at hknown with hkey
    · cases hknown
      rw [← hkey]
      exact hanswer
    · exact hs key known hknown

/-! ## Checks from two faithful states -/

/-- Two faithful states on the same path of segments. -/
structure BothFaithful (setting other : Setting) (path : List String) (s t : EvaluationState) : Prop where
  left : s.segmentPath = path ∧ s.Faithful setting
  right : t.segmentPath = path ∧ t.Faithful other

/-- Checks in alike settings keep what they remember faithful to both. -/
lemma bothFaithful_checkRelation {setting other : Setting} (halike : setting.Alike other) :
    CheckRelation setting other (BothFaithful setting other) where
  data := halike.toSameData
  segmentPath path s t h := ⟨h.left.1, h.right.1⟩
  enterSegment path key s t h :=
    ⟨⟨congrArg (key :: ·) h.left.1, h.left.2⟩, ⟨congrArg (key :: ·) h.right.1, h.right.2⟩⟩
  leaveSegment path key s t h := by
    refine ⟨⟨?_, h.left.2⟩, ⟨?_, h.right.2⟩⟩
    · rw [EvaluationState.leaveSegment_segmentPath, h.left.1, List.erase_cons_head]
    · rw [EvaluationState.leaveSegment_segmentPath, h.right.1, List.erase_cons_head]
  found path status s t h := ⟨h.left, h.right⟩
  -- both stores are steady, so each gives the answer it would give at the start
  membershipOf path contextKey s t h := by
    have hpath := (membershipOf_oneRun setting s path contextKey s s ⟨rfl, h.left.1, .refl s⟩).state
    have hpath' := (membershipOf_oneRun other t path contextKey t t ⟨rfl, h.right.1, .refl t⟩).state
    obtain ⟨hanswer, hfaithful⟩ := membershipOf_faithful halike.steady h.left.2 contextKey
    obtain ⟨hanswer', hfaithful'⟩ := membershipOf_faithful halike.steady_other h.right.2 contextKey
    refine ⟨?_, ⟨⟨hpath.segmentPath, hfaithful⟩, ⟨hpath'.segmentPath, hfaithful'⟩⟩, fun e he => ?_⟩
    · rw [hanswer, hanswer', halike.answers]
    · rw [hanswer] at he
      exact Setting.answerAt_error he

/-! ## Evaluations from two states -/

/-- Two states without a cycle from which evaluations come out the same unless there turns out to be a
cycle: all that is on the path of the second one is on that of the first. -/
structure EvaluationState.Beside (setting other : Setting) (s t : EvaluationState) : Prop where
  flagPath : t.flagPath ⊆ s.flagPath
  segmentPath : s.segmentPath = t.segmentPath
  faithful : s.Faithful setting
  faithful_other : t.Faithful other
  acyclic : s.cycle = false
  acyclic_other : t.cycle = false

namespace EvaluationState.Beside

variable {setting other : Setting} {s s' t t' : EvaluationState}

lemma enterFlag (h : s.Beside setting other t) (key : String) :
    (s.enterFlag key).Beside setting other (t.enterFlag key) where
  flagPath := List.cons_subset_cons key h.flagPath
  segmentPath := h.segmentPath
  faithful := h.faithful
  faithful_other := h.faithful_other
  acyclic := h.acyclic
  acyclic_other := h.acyclic_other

theorem record (h : s.Beside setting other t) (event event' : PrerequisiteEvent) :
    (s.record event).Beside setting other (t.record event') :=
  ⟨h.flagPath, h.segmentPath, h.faithful, h.faithful_other, h.acyclic, h.acyclic_other⟩

/-- States that evaluations left behind are beside each other if those that they started from were. -/
lemma leaveFlag {key : String} (h : s.Beside setting other t)
    (h' : s'.Beside setting other t') (hs : s'.SamePaths (s.enterFlag key))
    (ht : t'.SamePaths (t.enterFlag key)) :
    (s'.leaveFlag key).Beside setting other (t'.leaveFlag key) where
  flagPath := by
    rw [hs.leaveFlag.flagPath, ht.leaveFlag.flagPath]
    exact h.flagPath
  segmentPath := h'.segmentPath
  faithful := h'.faithful
  faithful_other := h'.faithful_other
  acyclic := h'.acyclic
  acyclic_other := h'.acyclic_other

/-- Targets, rules and fallthrough decide the same from states beside each other. -/
lemma decide (h : s.Beside setting other t) (halike : setting.Alike other) (f : Flag) :
    ((f.decide other).run t).1 = ((f.decide setting).run s).1 ∧
      ((f.decide setting).run s).2.Beside setting other ((f.decide other).run t).2 := by
  obtain ⟨hresult, hfaithful⟩ := f.decide_similar (bothFaithful_checkRelation halike)
    (s := s) (t := t) ⟨⟨rfl, h.faithful⟩, ⟨h.segmentPath.symm, h.faithful_other⟩⟩
  obtain ⟨-, hflags⟩ := f.decide_framed setting s
  obtain ⟨-, hflags'⟩ := f.decide_framed other t
  refine ⟨hresult.symm, ⟨?_, ?_, hfaithful.left.2, hfaithful.right.2, ?_, ?_⟩⟩
  · rw [hflags.flagPath, hflags'.flagPath]
    exact h.flagPath
  · rw [hfaithful.left.1, hfaithful.right.1]
  · rw [hflags.cycle]
    exact h.acyclic
  · rw [hflags'.cycle]
    exact h.acyclic_other

end EvaluationState.Beside

/-- Evaluations that do not meet a cycle from a moment come out the same from all states beside it. -/
def Moment.Composes (setting other : Setting) : Moment → Prop
  | ⟨.flag f, s⟩ => ∀ t, s.Beside setting other t → (f.run setting s).2.cycle = false →
      (f.run other t).1 = (f.run setting s).1 ∧
        (f.run setting s).2.Beside setting other (f.run other t).2
  | ⟨.prerequisites f rest, s⟩ => ∀ t, s.Beside setting other t →
      (f.runPrerequisites setting rest s).2.cycle = false →
      (f.runPrerequisites other rest t).1 = (f.runPrerequisites setting rest s).1 ∧
        (f.runPrerequisites setting rest s).2.Beside setting other (f.runPrerequisites other rest t).2
  | _ => True

variable {setting other : Setting}

/-- The evaluation of a flag comes out the same if its prerequisites do. -/
lemma Moment.composes_flag (halike : setting.Alike other) (f : Flag) (s : EvaluationState)
    (h : ∀ m', Step setting ⟨.flag f, s⟩ m' → m'.Composes setting other) :
    Moment.Composes setting other ⟨.flag f, s⟩ := by
  intro t hst hacyclic
  rcases f.run_cases setting s with ⟨hoff, hrun⟩ | ⟨-, -, hrun⟩ |
    ⟨hon, hfresh, failure, s', hchecked, hrun⟩ | ⟨hon, hfresh, s', hchecked, hrun⟩
  · rw [hrun, Flag.run_of_off hoff]
    exact ⟨rfl, hst⟩
  · rw [hrun] at hacyclic
    cases hacyclic
  -- what is not on the longer path is not on the shorter one
  all_goals
    have hfresh' : f.key ∉ t.flagPath := fun hpath => hfresh (hst.flagPath hpath)
    have hpaths := f.runPrerequisites_framed setting f.prerequisites (s.enterFlag f.key)
    have hpaths' := f.runPrerequisites_framed other f.prerequisites (t.enterFlag f.key)
    have hcomposes := h _ (.prerequisites hon hfresh) (t.enterFlag f.key) (hst.enterFlag f.key)
    rcases hchecked' : f.runPrerequisites other f.prerequisites (t.enterFlag f.key) with ⟨failure', t'⟩
    rw [hchecked] at hpaths hcomposes
    rw [hchecked'] at hpaths' hcomposes
    rw [hrun] at hacyclic ⊢
  · obtain ⟨hfailure, hbeside⟩ := hcomposes hacyclic
    cases hfailure
    rw [Flag.run_of_unmet hon hfresh' hchecked']
    exact ⟨rfl, hst.leaveFlag hbeside hpaths hpaths'⟩
  -- rules do not change whether there is a cycle, so the prerequisites were without one
  · rw [(f.decide_framed setting _).2.cycle] at hacyclic
    obtain ⟨hfailure, hbeside⟩ := hcomposes hacyclic
    cases hfailure
    rw [Flag.run_of_met hon hfresh' hchecked']
    exact (hst.leaveFlag hbeside hpaths hpaths').decide halike f

/-- The check of prerequisites comes out the same if the evaluations of their flags do. -/
lemma Moment.composes_prerequisites (halike : setting.Alike other) (f : Flag)
    (rest : List Prerequisite) (s : EvaluationState)
    (h : ∀ m', Step setting ⟨.prerequisites f rest, s⟩ m' → m'.Composes setting other) :
    Moment.Composes setting other ⟨.prerequisites f rest, s⟩ := by
  intro t hst hacyclic
  cases rest with
  | nil => exact ⟨rfl, hst⟩
  | cons p rest =>
    rcases f.runPrerequisites_cons_cases setting p rest s with
      ⟨hunknown, hrun⟩ | ⟨g, result, s', hfound, hg, hcases⟩
    · rw [hrun, Flag.runPrerequisites_of_unknown (halike.catalog ▸ hunknown)]
      exact ⟨rfl, hst⟩
    -- both evaluations take the same prerequisite; only the first is known not to meet a cycle
    · have hcomposes := h _ (.prerequisite hfound) t hst
      rcases hg' : g.run other t with ⟨result', t'⟩
      rw [hg, hg'] at hcomposes
      have hrun' := Flag.runPrerequisites_of_found f rest (halike.catalog ▸ hfound) hg'
      rcases hcases with ⟨hcycle, hrun⟩ | ⟨hcycle, hunmet, hrun⟩ | ⟨hcycle, hmet, hrun⟩
      · rw [hrun, hcycle] at hacyclic
        cases hacyclic
      -- the nested results agree, so both go on or both stop
      all_goals
        obtain ⟨rfl, hbeside⟩ := hcomposes hcycle
        rw [hbeside.acyclic_other, if_neg Bool.false_ne_true] at hrun'
      · rw [if_neg hunmet] at hrun'
        rw [hrun, hrun']
        exact ⟨rfl, hbeside.record _ _⟩
      · rw [if_pos hmet] at hrun'
        rw [hrun] at hacyclic
        rw [hrun, hrun']
        exact h _ (.nextPrerequisite hfound hg hcycle hmet.1 hmet.2) _ (hbeside.record _ _) hacyclic

/-- Every moment composes, by induction on what it leads to. -/
theorem Moment.composes (halike : setting.Alike other) (m : Moment) : m.Composes setting other := by
  induction m using (step_wellFounded setting).induction with
  | _ m ih =>
    obtain ⟨task, s⟩ := m
    cases task with
    | flag f => exact Moment.composes_flag halike f s ih
    | prerequisites f rest => exact Moment.composes_prerequisites halike f rest s ih
    | _ => trivial

/-! ## A flag by itself -/

/-- Two results that differ at most in the health of the big segment store. -/
structure Detail.SameResult (d e : Detail) : Prop where
  value : d.value = e.value
  variationIndex : d.variationIndex = e.variationIndex
  reason : d.reason = e.reason

/-- A state that does not show in what comes next: no segment is being checked, what is remembered is
right, and there is no cycle. -/
structure EvaluationState.Neutral (setting : Setting) (s : EvaluationState) : Prop where
  segmentPath : s.segmentPath = []
  faithful : s.Faithful setting
  acyclic : s.cycle = false

variable {s : EvaluationState}

/-- An evaluation begins in a neutral state. -/
lemma EvaluationState.neutral_initial (setting : Setting) :
    EvaluationState.initial.Neutral setting :=
  ⟨rfl, EvaluationState.faithful_initial setting, rfl⟩

namespace EvaluationState.Neutral

lemma beside_initial (h : s.Neutral setting) (other : Setting) :
    s.Beside setting other .initial where
  flagPath := List.nil_subset _
  segmentPath := h.segmentPath
  faithful := h.faithful
  faithful_other := EvaluationState.faithful_initial other
  acyclic := h.acyclic
  acyclic_other := rfl

lemma enterFlag (h : s.Neutral setting) (key : String) : (s.enterFlag key).Neutral setting :=
  ⟨h.segmentPath, h.faithful, h.acyclic⟩

theorem record (h : s.Neutral setting) (event : PrerequisiteEvent) :
    (s.record event).Neutral setting :=
  ⟨h.segmentPath, h.faithful, h.acyclic⟩

end EvaluationState.Neutral

/-- In the midst of an evaluation a flag has the result that it has by itself. -/
lemma Flag.run_neutral (halike : setting.Alike other) (f : Flag) (hs : s.Neutral setting)
    (hacyclic : (f.run setting s).2.cycle = false) :
    (f.run setting s).1.SameResult (f.evaluate other).detail ∧ (f.run setting s).2.Neutral setting := by
  have hcomposes : Moment.Composes setting other ⟨.flag f, s⟩ := Moment.composes halike _
  obtain ⟨hresult, hbeside⟩ := hcomposes .initial (hs.beside_initial other) hacyclic
  have hpath := (f.run_framed setting s).segmentPath
  refine ⟨?_, hpath.trans hs.segmentPath, hbeside.faithful, hacyclic⟩
  rw [← hresult]
  exact ⟨rfl, rfl, rfl⟩

/-! ## What is recorded -/

/-- All recorded prerequisites have the results that they have by themselves. -/
def EvaluationState.RecordsByItself (other : Setting) (s : EvaluationState) : Prop :=
  ∀ e ∈ s.events, e.result.SameResult (e.prerequisite.evaluate other).detail

/-- A record of the flag by itself keeps the records so. -/
lemma EvaluationState.RecordsByItself.record {event : PrerequisiteEvent}
    (h : s.RecordsByItself other)
    (hevent : event.result.SameResult (event.prerequisite.evaluate other).detail) :
    (s.record event).RecordsByItself other := by
  intro e he
  rw [record_events, List.mem_append, List.mem_singleton] at he
  rcases he with he | rfl
  · exact h e he
  · exact hevent

/-- From a moment on, prerequisites are recorded with the results that they have by themselves, whether or
not a cycle is met in the end. -/
def Moment.Records (setting other : Setting) : Moment → Prop
  | ⟨.flag f, s⟩ => s.Neutral setting → s.RecordsByItself other →
      (f.run setting s).2.RecordsByItself other
  | ⟨.prerequisites f rest, s⟩ => s.Neutral setting → s.RecordsByItself other →
      (f.runPrerequisites setting rest s).2.RecordsByItself other
  | _ => True

/-- A flag records what its prerequisites record. -/
lemma Moment.records_flag (f : Flag) (s : EvaluationState)
    (h : ∀ m', Step setting ⟨.flag f, s⟩ m' → m'.Records setting other) :
    Moment.Records setting other ⟨.flag f, s⟩ := by
  intro hs hrecords
  rcases f.run_cases setting s with ⟨-, hrun⟩ | ⟨-, -, hrun⟩ |
    ⟨hon, hfresh, failure, s', hchecked, hrun⟩ | ⟨hon, hfresh, s', hchecked, hrun⟩
  · rw [hrun]
    exact hrecords
  · rw [hrun]
    exact hrecords
  all_goals
    have hinside := h _ (.prerequisites hon hfresh) (hs.enterFlag f.key) hrecords
    rw [hchecked] at hinside
    rw [hrun]
  · exact hinside
  · intro e he
    rw [(f.decide_framed setting _).2.events] at he
    exact hinside e he

/-- A prerequisite is recorded with the result that its flag has by itself. -/
lemma Moment.records_prerequisites (halike : setting.Alike other) (f : Flag)
    (rest : List Prerequisite) (s : EvaluationState)
    (h : ∀ m', Step setting ⟨.prerequisites f rest, s⟩ m' → m'.Records setting other) :
    Moment.Records setting other ⟨.prerequisites f rest, s⟩ := by
  intro hs hrecords
  cases rest with
  | nil => exact hrecords
  | cons p rest =>
    rcases f.runPrerequisites_cons_cases setting p rest s with
      ⟨-, hrun⟩ | ⟨g, result, s', hfound, hg, hcases⟩
    · rw [hrun]
      exact hrecords
    · have hinside := h _ (.prerequisite hfound) hs hrecords
      have hneutral := g.run_neutral halike hs
      rw [hg] at hinside hneutral
      rcases hcases with ⟨-, hrun⟩ | ⟨hcycle, -, hrun⟩ | ⟨hcycle, hmet, hrun⟩
      -- the flag in which a cycle was met is not recorded
      · rw [hrun]
        exact hinside
      · rw [hrun]
        exact hinside.record (hneutral hcycle).1
      · rw [hrun]
        obtain ⟨hresult, hs'⟩ := hneutral hcycle
        exact h _ (.nextPrerequisite hfound hg hcycle hmet.1 hmet.2) (hs'.record _)
          (hinside.record hresult)

/-- Every moment records results as if by themselves, by induction on what it leads to. -/
theorem Moment.records (halike : setting.Alike other) (m : Moment) : m.Records setting other := by
  induction m using (step_wellFounded setting).induction with
  | _ m ih =>
    obtain ⟨task, s⟩ := m
    cases task with
    | flag f => exact Moment.records_flag f s ih
    | prerequisites f rest => exact Moment.records_prerequisites halike f rest s ih
    | _ => trivial

/-! ## The first prerequisite that is not met -/

/-- Whether a prerequisite names a flag that is on and by itself serves the wanted variation. -/
def Prerequisite.isMet (p : Prerequisite) (setting : Setting) : Bool :=
  match setting.catalog.flag? p.key with
  | none => false
  | some g => g.on && (g.evaluate setting).detail.variationIndex == some p.variation

/-- A prerequisite without a flag is not met. -/
lemma Prerequisite.isMet_eq_false_of_unknown {p : Prerequisite}
    (hunknown : setting.catalog.flag? p.key = none) : p.isMet setting = false := by
  rw [isMet, hunknown]

/-- A prerequisite is met if its flag is on and serves its variation by itself. -/
lemma Prerequisite.isMet_iff_of_found {p : Prerequisite} {g : Flag}
    (hfound : setting.catalog.flag? p.key = some g) :
    p.isMet setting = true ↔
      g.on = true ∧ (g.evaluate setting).detail.variationIndex = some p.variation := by
  rw [isMet, hfound]
  simp

/-- If no cycle is met, the prerequisites of a flag are what they are by themselves: the first one that is
not met is the reason to serve the off variation. -/
theorem Flag.runPrerequisites_eq_find? (halike : setting.Alike other) (f : Flag)
    (rest : List Prerequisite) (hs : s.Neutral setting)
    (hacyclic : (f.runPrerequisites setting rest s).2.cycle = false) :
    (f.runPrerequisites setting rest s).1 =
        (rest.find? (!·.isMet other)).map (fun p => f.serveOff (.prerequisiteFailed p.key)) ∧
      (f.runPrerequisites setting rest s).2.Neutral setting := by
  induction rest generalizing s with
  | nil => exact ⟨rfl, hs⟩
  | cons p rest ih =>
    rcases f.runPrerequisites_cons_cases setting p rest s with
      ⟨hunknown, hrun⟩ | ⟨g, result, s', hfound, hg, hcases⟩
    · rw [halike.catalog] at hunknown
      rw [hrun, List.find?_cons, Prerequisite.isMet_eq_false_of_unknown hunknown]
      exact ⟨rfl, hs⟩
    -- a prerequisite is met by the state exactly when it is met in an evaluation of its own
    · have hneutral := g.run_neutral halike hs
      rw [halike.catalog] at hfound
      have hmet_iff := Prerequisite.isMet_iff_of_found hfound
      rw [hg] at hneutral
      rcases hcases with ⟨hcycle, hrun⟩ | ⟨hcycle, hunmet, hrun⟩ | ⟨hcycle, hmet, hrun⟩
      · rw [hrun, hcycle] at hacyclic
        cases hacyclic
      -- an evaluation without a cycle served what a fresh one serves
      all_goals
        obtain ⟨hresult, hs'⟩ := hneutral hcycle
        rw [← hresult.variationIndex] at hmet_iff
      · have hfails : p.isMet other = false := Bool.eq_false_iff.mpr fun h => hunmet (hmet_iff.mp h)
        rw [hrun, List.find?_cons, hfails]
        exact ⟨rfl, hs'.record _⟩
      · rw [hrun] at hacyclic ⊢
        rw [List.find?_cons, hmet_iff.mpr hmet]
        exact ih (hs'.record _) hacyclic

/-- If no cycle is met, a flag that is on is decided by the first prerequisite that is not met by itself, or
as if it had no prerequisites. -/
lemma Flag.evaluate_eq_find? (halike : setting.Alike other) (f : Flag) (hon : f.on = true)
    (hacyclic : (f.run setting .initial).2.cycle = false) :
    (f.runPrerequisites setting f.prerequisites (EvaluationState.initial.enterFlag f.key)).1 =
        (f.prerequisites.find? (!·.isMet other)).map (fun p => f.serveOff (.prerequisiteFailed p.key)) ∧
      (f.evaluate setting).detail.SameResult
        (match f.prerequisites.find? (!·.isMet other) with
        | some p => f.serveOff (.prerequisiteFailed p.key)
        | none => ((f.decide other).run .initial).1) := by
  -- the flag itself is not on the path yet
  have hfresh : f.key ∉ EvaluationState.initial.flagPath := List.not_mem_nil
  have hneutral := (EvaluationState.neutral_initial setting).enterFlag f.key
  have hfind := f.runPrerequisites_eq_find? halike f.prerequisites hneutral
  rcases hchecked : f.runPrerequisites setting f.prerequisites
    (EvaluationState.initial.enterFlag f.key) with ⟨_ | failure, s'⟩
  -- all prerequisites are met, and the flag decides from a state that only remembers answers
  · have hrun := Flag.run_of_met hon hfresh hchecked
    rw [hrun, (f.decide_framed setting _).2.cycle] at hacyclic
    rw [hchecked] at hfind
    obtain ⟨hmet, hs'⟩ := hfind hacyclic
    refine ⟨hmet, ?_⟩
    have hleft : (s'.leaveFlag f.key).Neutral setting := ⟨hs'.segmentPath, hs'.faithful, hs'.acyclic⟩
    obtain ⟨hresult, -⟩ := (hleft.beside_initial other).decide halike f
    rw [Flag.evaluate, hrun, Option.map_eq_none_iff.mp hmet.symm]
    dsimp only
    rw [hresult]
    exact ⟨rfl, rfl, rfl⟩
  -- a prerequisite fails, and the result is its failure
  · have hrun := Flag.run_of_unmet hon hfresh hchecked
    rw [hrun] at hacyclic
    rw [hchecked] at hfind
    obtain ⟨hfailure, -⟩ := hfind hacyclic
    refine ⟨hfailure, ?_⟩
    obtain ⟨p, hp, rfl⟩ := Option.map_eq_some_iff.mp hfailure.symm
    rw [Flag.evaluate, hrun, hp]
    exact ⟨rfl, rfl, rfl⟩

/-! ## Prerequisites are evaluated as if by themselves -/

/-- Prerequisites are evaluated as if by themselves, by an evaluation whose big segment store gives the same
answers, whatever it says about its health: each one is recorded with that result. If no cycle is met, a flag that is on passes its
prerequisites if and only if all of them are met by themselves. Then it is decided as if it had none; else
the first one that is not met is the reason to serve the off variation. -/
theorem prerequisites_compositional (halike : setting.Alike other) (f : Flag) :
    (∀ e ∈ (f.evaluate setting).events,
      e.result.SameResult (e.prerequisite.evaluate other).detail) ∧
    (f.on = true → (∀ m, Reaches setting (.start f) m → ¬m.MeetsCycle) →
      ((f.runPrerequisites setting f.prerequisites (EvaluationState.initial.enterFlag f.key)).1 = none ↔
        ∀ p ∈ f.prerequisites, p.isMet other = true) ∧
      ((∀ p ∈ f.prerequisites, p.isMet other = true) →
        (f.evaluate setting).detail.SameResult ((f.decide other).run .initial).1) ∧
      ∀ p, f.prerequisites.find? (!·.isMet other) = some p →
        (f.evaluate setting).detail.SameResult (f.serveOff (.prerequisiteFailed p.key))) := by
  constructor
  -- every recorded result was recorded with the recording state, and at the start nothing is recorded
  · have hrecords : (Moment.start f).Records setting other := Moment.records halike _
    exact hrecords (EvaluationState.neutral_initial setting) fun e he => by cases he
  · intro hon hnone
    -- no prerequisite is cut short by a cycle
    have hacyclic : (f.run setting .initial).2.cycle = false := by
      rw [Bool.eq_false_iff, Ne, cycle_iff_exists_meetsCycle]
      rintro ⟨m, hreach, hmeets⟩
      exact hnone m hreach hmeets
    have hall : f.prerequisites.find? (!·.isMet other) = none ↔
        ∀ p ∈ f.prerequisites, p.isMet other = true := by
      simp [List.find?_eq_none]
    obtain ⟨hchecked, hdetail⟩ := f.evaluate_eq_find? halike hon hacyclic
    refine ⟨?_, fun hmet => ?_, fun p hp => ?_⟩
    · rw [hchecked, Option.map_eq_none_iff, hall]
    · rw [hall.mpr hmet] at hdetail
      exact hdetail
    · rw [hp] at hdetail
      exact hdetail

/-- In a diamond the first prerequisite that is not met is the reason. -/
theorem prerequisites_compositional_diamond :
    ((Flag.requiring "e" ["b", "x", "y"]).evaluate .diamond).events.length = 2 ∧
    ((Flag.requiring "e" ["b", "x", "y"]).evaluate .diamond).detail.reason = .prerequisiteFailed "x" := by
  have hnone : ∀ m, Reaches .diamond (.start (.requiring "e" ["b", "x", "y"])) m → ¬m.MeetsCycle :=
    fun m hreach => (Moment.Linked.of_reaches Setting.diamond_underOwnKeys rfl hreach).not_meetsCycle
      (Setting.diamond_acyclicFrom rfl)
  have halike : Setting.diamond.Alike .diamond := .refl (.of_none rfl)
  obtain ⟨-, hcomposes⟩ := prerequisites_compositional halike (.requiring "e" ["b", "x", "y"])
  obtain ⟨-, -, hfirst⟩ := hcomposes rfl hnone
  exact ⟨rfl, (hfirst ⟨"x", 0⟩ rfl).reason⟩

end FeatureFlags
