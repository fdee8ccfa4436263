import FeatureFlags.Proofs.Evaluation.Composition
import FeatureFlags.Proofs.Evaluation.Trace

/-!
# The order of recorded prerequisites

A prerequisite is recorded once its flag has been evaluated, after all that was recorded inside of it. So the
recorded prerequisites are the evaluated flags in post-order, a flag that is evaluated several times as often
(`events_postOrder`).

* `Setting.visited`: the prerequisites that are evaluated, up to the first one that is not met.
* `Moment.lists`: one prerequisite is recorded for each flag that the trace visits, and the same ones are from
  all states beside each other if the big segment store always answers the same.
* `Flag.events_runPrerequisites`: what is recorded for a list of prerequisites, put together from what is
  recorded for each flag by itself.
-/

namespace FeatureFlags

variable {setting : Setting} {s t : EvaluationState} {f g : Flag} {p : Prerequisite}

/-! ## The prerequisites that are evaluated -/

/-- The prerequisites that are evaluated, with their flags: those in front of the first one that is not met,
and this one unless there is no such flag. -/
def Setting.visited (setting : Setting) (prerequisites : List Prerequisite) : List (Prerequisite × Flag) :=
  (prerequisites.takeWhile (·.isMet setting) ++ (prerequisites.find? (!·.isMet setting)).toList).filterMap
    fun p => (setting.catalog.flag? p.key).map (p, ·)

/-- What is recorded for a flag of a prerequisite that has the flag `g`: its result is the one by itself. -/
def Flag.requirement (f : Flag) (setting : Setting) (g : Flag) : PrerequisiteEvent :=
  ⟨f.key, setting.context, g, (g.run setting .initial).1⟩

namespace Setting

lemma visited_nil (setting : Setting) : setting.visited [] = [] := rfl

/-- The walk stops at a prerequisite whose flag is unknown, before it visits anything. -/
lemma visited_of_unknown (rest : List Prerequisite) (hunknown : setting.catalog.flag? p.key = none) :
    setting.visited (p :: rest) = [] := by
  have hunmet := Prerequisite.isMet_eq_false_of_unknown hunknown
  simp [visited, hunmet, hunknown]

/-- The walk visits an unmet prerequisite and stops there. -/
lemma visited_of_unmet (rest : List Prerequisite) (hfound : setting.catalog.flag? p.key = some g)
    (hunmet : p.isMet setting = false) : setting.visited (p :: rest) = [(p, g)] := by
  simp [visited, hunmet, hfound]

/-- The walk goes on behind a prerequisite that is met. -/
lemma visited_of_met (rest : List Prerequisite) (hfound : setting.catalog.flag? p.key = some g)
    (hmet : p.isMet setting = true) : setting.visited (p :: rest) = (p, g) :: setting.visited rest := by
  simp [visited, hmet, hfound]

/-- Only the last prerequisite that is evaluated can be one that is not met. -/
lemma isMet_of_mem_dropLast {prerequisites : List Prerequisite} {v : Prerequisite × Flag}
    (hv : v ∈ (setting.visited prerequisites).dropLast) :
    setting.catalog.flag? v.1.key = some v.2 ∧ v.1.isMet setting = true := by
  -- the walk ends at the first prerequisite that is unknown or unmet, so the ones before its last are met
  induction prerequisites with
  | nil =>
    rw [visited_nil] at hv
    cases hv
  | cons p rest ih =>
    cases hfound : setting.catalog.flag? p.key with
    | none =>
      rw [visited_of_unknown rest hfound] at hv
      cases hv
    | some g =>
      cases hmet : p.isMet setting with
      | false =>
        rw [visited_of_unmet rest hfound hmet] at hv
        cases hv
      | true =>
        rw [visited_of_met rest hfound hmet] at hv
        cases hrest : setting.visited rest with
        | nil =>
          rw [hrest] at hv
          cases hv
        | cons next others =>
          rw [hrest, List.dropLast_cons_cons, ← hrest] at hv
          rcases List.mem_cons.mp hv with rfl | hv
          · exact ⟨hfound, hmet⟩
          · exact ih hv

end Setting

/-! ## The flags that are visited -/

namespace Moment

/-- The flag that is evaluated at a moment. -/
def flag? : Moment → Option Flag
  | ⟨.flag f, _⟩ => some f
  | _ => none

/-- The flags that are evaluated from a moment on, each as often as this happens. -/
def flags (setting : Setting) (m : Moment) : List Flag := (m.trace setting).filterMap flag?

/-- The flags evaluated from a moment on are its own flag, those of the nested evaluation and those of what
follows it. -/
lemma flags_eq (setting : Setting) (m : Moment) :
    m.flags setting = m.flag?.toList ++ ((m.nested setting).elim [] (flags setting) ++
      (m.later setting).elim [] (flags setting)) :=
  filterMap_trace setting flag? m

/-- No flag is evaluated at this moment, nor prerequisites of one. -/
def IsCheck : Moment → Prop
  | ⟨.flag _, _⟩ | ⟨.prerequisites _ _, _⟩ => False
  | _ => True

/-- Checks only lead to checks. -/
lemma IsCheck.step {m m' : Moment} (h : m.IsCheck) (hstep : Step setting m m') : m'.IsCheck := by
  cases hstep with
  | prerequisites | rules | prerequisite | nextPrerequisite => cases h
  | _ => trivial

/-- No flag is evaluated while clauses and segments are checked. -/
lemma IsCheck.flags_eq_nil {m : Moment} (h : m.IsCheck) : m.flags setting = [] := by
  rw [flags, List.filterMap_eq_nil_iff]
  intro m' hm'
  have hcheck : m'.IsCheck := by
    induction mem_trace_iff.mp hm' with
    | refl => exact h
    | tail hreach hstep ih => exact (ih (mem_trace_iff.mpr hreach)).step hstep
  obtain ⟨task, s⟩ := m'
  cases task with
  | flag f => cases hcheck
  | _ => rfl

/-- A flag that is off is evaluated alone. -/
lemma flags_of_off (hoff : f.on = false) : flags setting ⟨.flag f, s⟩ = [f] := by
  have hnested : nested setting ⟨.flag f, s⟩ = none := if_neg (by simp [hoff])
  have hlater : later setting ⟨.flag f, s⟩ = none := if_neg (by simp [hoff])
  rw [flags_eq, hnested, hlater]
  rfl

/-- Inside of a flag, flags are evaluated as its prerequisites only. -/
lemma flags_of_on (hon : f.on = true) (hfresh : f.key ∉ s.flagPath) :
    flags setting ⟨.flag f, s⟩ = f :: flags setting ⟨.prerequisites f f.prerequisites, s.enterFlag f.key⟩ := by
  have hnested : nested setting ⟨.flag f, s⟩ = some ⟨.prerequisites f f.prerequisites, s.enterFlag f.key⟩ :=
    if_pos ⟨hon, hfresh⟩
  -- what is left of a flag after its prerequisites is to look at its rules
  have hlater : (later setting ⟨.flag f, s⟩).elim [] (flags setting) = [] := by
    cases h : later setting ⟨.flag f, s⟩ with
    | none => rfl
    | some m =>
      have hcheck : m.IsCheck := by
        rw [later] at h
        split_ifs at h
        split at h
        · cases h
          trivial
        · cases h
      exact hcheck.flags_eq_nil
  rw [flags_eq, hnested, hlater, List.append_nil]
  rfl

lemma flags_of_unknown (f : Flag) (rest : List Prerequisite) (s : EvaluationState)
    (hunknown : setting.catalog.flag? p.key = none) :
    flags setting ⟨.prerequisites f (p :: rest), s⟩ = [] := by
  rw [flags_eq, nested, later, hunknown]
  rfl

section Found

variable {result : Detail} {s' : EvaluationState} (f : Flag) (rest : List Prerequisite)
  (hfound : setting.catalog.flag? p.key = some g) (hg : g.run setting s = (result, s'))
include hfound hg

/-- Behind an unmet prerequisite nothing is evaluated any more. -/
lemma flags_of_unmet (hunmet : ¬(g.on = true ∧ result.variationIndex = some p.variation)) :
    flags setting ⟨.prerequisites f (p :: rest), s⟩ = flags setting ⟨.flag g, s⟩ := by
  rw [flags_eq, nested, later, hfound]
  dsimp only
  rw [hg]
  dsimp only
  rw [if_neg fun h => hunmet h.2]
  exact List.append_nil _

/-- Behind a prerequisite that is met the rest follows, from the state with the event recorded. -/
lemma flags_of_met (hcycle : s'.cycle = false)
    (hmet : g.on = true ∧ result.variationIndex = some p.variation) :
    flags setting ⟨.prerequisites f (p :: rest), s⟩ = flags setting ⟨.flag g, s⟩ ++
      flags setting ⟨.prerequisites f rest, s'.record ⟨f.key, setting.context, g, result⟩⟩ := by
  rw [flags_eq, nested, later, hfound]
  dsimp only
  rw [hg]
  dsimp only
  rw [if_pos ⟨hcycle, hmet⟩]
  rfl

end Found

end Moment

/-! ## What is recorded from a moment on -/

/-- Whether a cycle is met in a flag, and what is recorded inside of it, depends on its prerequisites: rules
do not add anything to that. -/
lemma Flag.run_after_prerequisites (setting : Setting) (hon : f.on = true)
    (hfresh : f.key ∉ s.flagPath) :
    (f.run setting s).2.cycle =
        (f.runPrerequisites setting f.prerequisites (s.enterFlag f.key)).2.cycle ∧
      (f.run setting s).2.events =
        (f.runPrerequisites setting f.prerequisites (s.enterFlag f.key)).2.events := by
  rcases hchecked : f.runPrerequisites setting f.prerequisites (s.enterFlag f.key) with ⟨_ | failure, s'⟩
  · rw [run_of_met hon hfresh hchecked, (f.decide_framed setting _).2.cycle,
      (f.decide_framed setting _).2.events]
    exact ⟨rfl, rfl⟩
  · rw [run_of_unmet hon hfresh hchecked]
    exact ⟨rfl, rfl⟩

/-- A flag that meets no cycle has the same result from states beside each other. -/
lemma Flag.run_beside (hsteady : setting.Steady) {result : Detail} {s' : EvaluationState}
    (hst : s.Beside setting setting t) (hg : g.run setting s = (result, s')) (hcycle : s'.cycle = false) :
    ∃ t', g.run setting t = (result, t') ∧ s'.Beside setting setting t' := by
  have hcomposes : Moment.Composes setting setting ⟨.flag g, s⟩ := Moment.composes (.refl hsteady) _
  rw [Moment.Composes, hg] at hcomposes
  obtain ⟨hresult, hbeside⟩ := hcomposes t hst hcycle
  exact ⟨(g.run setting t).2, Prod.ext hresult rfl, hbeside⟩

namespace Moment

/-- Unless a cycle is met, one prerequisite is recorded for each flag that is evaluated from a moment on. If
the big segment store always answers the same, these are recorded from all states beside that of the
moment. -/
def Lists (setting : Setting) : Moment → Prop
  | ⟨.flag f, s⟩ => (f.run setting s).2.cycle = false →
      ∃ added, (f.run setting s).2.events = s.events ++ added ∧
        (setting.Steady → ∀ t, s.Beside setting setting t →
          (f.run setting t).2.events = t.events ++ added) ∧
        (flags setting ⟨.flag f, s⟩).Perm (f :: added.map (·.prerequisite))
  | ⟨.prerequisites f rest, s⟩ => (f.runPrerequisites setting rest s).2.cycle = false →
      ∃ added, (f.runPrerequisites setting rest s).2.events = s.events ++ added ∧
        (setting.Steady → ∀ t, s.Beside setting setting t →
          (f.runPrerequisites setting rest t).2.events = t.events ++ added) ∧
        (flags setting ⟨.prerequisites f rest, s⟩).Perm (added.map (·.prerequisite))
  | _ => True

/-- A flag lists what it evaluates, if every moment it leads to does. -/
lemma lists_flag (f : Flag) (s : EvaluationState)
    (ih : ∀ m', Step setting ⟨.flag f, s⟩ m' → m'.Lists setting) : Lists setting ⟨.flag f, s⟩ := by
  intro hacyclic
  cases hon : f.on with
  | false =>
    refine ⟨[], ?_, fun _ t _ => ?_, ?_⟩
    · rw [Flag.run_of_off hon, List.append_nil]
    · rw [Flag.run_of_off hon, List.append_nil]
    · rw [flags_of_off hon]
      exact .refl _
  | true =>
    by_cases hpath : f.key ∈ s.flagPath
    · rw [Flag.run_of_mem_path hon hpath] at hacyclic
      cases hacyclic
    -- the prerequisites are evaluated with the key on the path, and they are all that is recorded
    · rw [(Flag.run_after_prerequisites setting hon hpath).1] at hacyclic
      obtain ⟨added, hevents, hother, hperm⟩ := ih _ (.prerequisites hon hpath) hacyclic
      refine ⟨added, ?_, fun hsteady t hst => ?_, ?_⟩
      · rw [(Flag.run_after_prerequisites setting hon hpath).2]
        exact hevents
      · -- what is not on the longer path is not on the shorter one
        have hfresh : f.key ∉ t.flagPath := fun h => hpath (hst.flagPath h)
        rw [(Flag.run_after_prerequisites setting hon hfresh).2]
        exact hother hsteady _ (hst.enterFlag f.key)
      · rw [flags_of_on hon hpath]
        exact hperm.cons f

/-- A prerequisite check lists what it evaluates, if every moment it leads to does. -/
lemma lists_prerequisites (f : Flag) (rest : List Prerequisite) (s : EvaluationState)
    (ih : ∀ m', Step setting ⟨.prerequisites f rest, s⟩ m' → m'.Lists setting) :
    Lists setting ⟨.prerequisites f rest, s⟩ := by
  intro hacyclic
  cases rest with
  | nil =>
    refine ⟨[], (List.append_nil _).symm, fun _ t _ => (List.append_nil _).symm, ?_⟩
    rw [flags_eq]
    exact .refl _
  | cons p rest =>
    rcases f.runPrerequisites_cons_cases setting p rest s with
      ⟨hunknown, hrun⟩ | ⟨g, result, s', hfound, hg, hcases⟩
    -- nothing is visited
    · refine ⟨[], ?_, fun _ t _ => ?_, ?_⟩
      · rw [hrun, List.append_nil]
      · rw [Flag.runPrerequisites_of_unknown hunknown, List.append_nil]
      · rw [flags_of_unknown f rest s hunknown]
        exact .refl _
    · have hnested := ih _ (.prerequisite hfound)
      rcases hcases with ⟨hcycle, hrun⟩ | ⟨hcycle, hunmet, hrun⟩ | ⟨hcycle, hmet, hrun⟩
      · rw [hrun, hcycle] at hacyclic
        cases hacyclic
      -- an evaluation without a cycle records the nested flag after what it recorded itself
      all_goals
        rw [Lists, hg] at hnested
        obtain ⟨added, hevents, hother, hperm⟩ := hnested hcycle
        rw [hrun] at hacyclic
        have hrecorded : (s'.record ⟨f.key, setting.context, g, result⟩).events =
            s.events ++ (added ++ [⟨f.key, setting.context, g, result⟩]) := by
          rw [EvaluationState.record_events, hevents, List.append_assoc]
      · refine ⟨added ++ [⟨f.key, setting.context, g, result⟩], ?_, fun hsteady t hst => ?_, ?_⟩
        · rw [hrun]
          exact hrecorded
        · have hothers := hother hsteady t hst
          obtain ⟨t', hg', hbeside⟩ := Flag.run_beside hsteady hst hg hcycle
          rw [hg'] at hothers
          rw [Flag.runPrerequisites_of_found f rest hfound hg', hbeside.acyclic_other,
            if_neg Bool.false_ne_true, if_neg hunmet, EvaluationState.record_events, hothers,
            List.append_assoc]
        · -- the trace has the flag in front of what is inside of it, and the records have it at the end
          rw [flags_of_unmet f rest hfound hg hunmet, List.map_append]
          exact hperm.trans (List.perm_append_singleton g _).symm
      · -- the prerequisites that follow start from states with the same record
        obtain ⟨others, hevents', hother', hperm'⟩ :=
          ih _ (.nextPrerequisite hfound hg hcycle hmet.1 hmet.2) hacyclic
        refine ⟨added ++ [⟨f.key, setting.context, g, result⟩] ++ others, ?_, fun hsteady t hst => ?_, ?_⟩
        · rw [hrun, hevents', hrecorded, List.append_assoc, List.append_assoc]
        · have hothers := hother hsteady t hst
          obtain ⟨t', hg', hbeside⟩ := Flag.run_beside hsteady hst hg hcycle
          rw [hg'] at hothers
          rw [Flag.runPrerequisites_of_found f rest hfound hg', hbeside.acyclic_other,
            if_neg Bool.false_ne_true, if_pos hmet, hother' hsteady _ (hbeside.record _ _),
            EvaluationState.record_events, hothers, List.append_assoc, List.append_assoc,
            List.append_assoc]
        · rw [flags_of_met f rest hfound hg hcycle hmet, List.map_append, List.map_append]
          exact (hperm.trans (List.perm_append_singleton g _).symm).append hperm'

/-- By induction on the moments: whatever is reached from here lists what it evaluates. -/
theorem lists (m : Moment) : m.Lists setting := by
  induction m using (step_wellFounded setting).induction with
  | _ m ih =>
    obtain ⟨task, s⟩ := m
    cases task with
    | flag f => exact lists_flag f s ih
    | prerequisites f rest => exact lists_prerequisites f rest s ih
    | _ => trivial

end Moment

/-! ## What is recorded for a list of prerequisites -/

/-- In the midst of an evaluation that meets no cycle, a flag by itself meets none, and what is recorded
inside of it and its result are what they are by itself. -/
lemma Flag.run_by_itself (hsteady : setting.Steady) (f : Flag) (hs : s.Neutral setting)
    (hacyclic : (f.run setting s).2.cycle = false) :
    (f.run setting .initial).2.cycle = false ∧
      (f.run setting s).2.events = s.events ++ (f.evaluate setting).events ∧
      (f.run setting s).1 = (f.run setting .initial).1 := by
  have hbeside := hs.beside_initial setting
  obtain ⟨t, hinitial, hafter⟩ := Flag.run_beside hsteady hbeside rfl hacyclic
  have hlists : Moment.Lists setting ⟨.flag f, s⟩ := Moment.lists _
  obtain ⟨added, hevents, hother, -⟩ := hlists hacyclic
  have hadded : (f.evaluate setting).events = added := hother hsteady _ hbeside
  rw [hinitial, hevents, hadded]
  exact ⟨hafter.acyclic_other, rfl, rfl⟩

/-- If no cycle is met, what is recorded for a list of prerequisites is put together from what is recorded
for the flag of each one by itself. -/
theorem Flag.events_runPrerequisites (hsteady : setting.Steady) (f : Flag) (rest : List Prerequisite)
    (hs : s.Neutral setting)
    (hacyclic : (f.runPrerequisites setting rest s).2.cycle = false) :
    (f.runPrerequisites setting rest s).2.events = s.events ++
        (setting.visited rest).flatMap
          (fun v => (v.2.evaluate setting).events ++ [f.requirement setting v.2]) ∧
      ∀ v ∈ setting.visited rest, (v.2.run setting .initial).2.cycle = false := by
  induction rest generalizing s with
  | nil =>
    rw [Setting.visited_nil, List.flatMap_nil, List.append_nil]
    exact ⟨rfl, fun _ hv => absurd hv List.not_mem_nil⟩
  | cons p rest ih =>
    rcases f.runPrerequisites_cons_cases setting p rest s with
      ⟨hunknown, hrun⟩ | ⟨g, result, s', hfound, hg, hcases⟩
    · rw [hrun, Setting.visited_of_unknown rest hunknown, List.flatMap_nil, List.append_nil]
      exact ⟨rfl, fun _ hv => absurd hv List.not_mem_nil⟩
    · have hneutral := g.run_neutral (.refl hsteady) hs
      have hitself := g.run_by_itself hsteady hs
      have hmet_iff := Prerequisite.isMet_iff_of_found hfound
      rw [hg] at hneutral hitself
      rcases hcases with ⟨hcycle, hrun⟩ | ⟨hcycle, hunmet, hrun⟩ | ⟨hcycle, hmet, hrun⟩
      · rw [hrun, hcycle] at hacyclic
        cases hacyclic
      all_goals
        -- the flag is recorded with the result by itself, which also decides whether it is met
        obtain ⟨hresult, hs'⟩ := hneutral hcycle
        obtain ⟨hfirst, hevents, rfl⟩ := hitself hcycle
        rw [← hresult.variationIndex] at hmet_iff
        have hrecorded : (s'.record (f.requirement setting g)).events =
            s.events ++ ((g.evaluate setting).events ++ [f.requirement setting g]) := by
          rw [EvaluationState.record_events, hevents, List.append_assoc]
      · have hfails : p.isMet setting = false := Bool.eq_false_iff.mpr fun h => hunmet (hmet_iff.mp h)
        rw [hrun, Setting.visited_of_unmet rest hfound hfails, List.flatMap_singleton]
        refine ⟨hrecorded, fun v hv => ?_⟩
        rw [List.mem_singleton.mp hv]
        exact hfirst
      · rw [hrun] at hacyclic ⊢
        rw [Setting.visited_of_met rest hfound (hmet_iff.mpr hmet), List.flatMap_cons]
        obtain ⟨hrest, hothers⟩ := ih (hs'.record _) hacyclic
        refine ⟨?_, List.forall_mem_cons.mpr ⟨hfirst, hothers⟩⟩
        rw [hrest]
        exact (congrArg (· ++ _) hrecorded).trans (List.append_assoc _ _ _)

/-! ## Post-order -/

/-- The cycle mark of the final state is the record of whether a cycle was met. -/
lemma cycle_eq_false_iff (f : Flag) (setting : Setting) :
    (f.run setting .initial).2.cycle = false ↔ ∀ m, Reaches setting (.start f) m → ¬m.MeetsCycle := by
  rw [Bool.eq_false_iff, Ne, cycle_iff_exists_meetsCycle]
  exact ⟨fun h m hreach hmeets => h ⟨m, hreach, hmeets⟩, fun h ⟨m, hreach, hmeets⟩ => h m hreach hmeets⟩

/-- If no cycle is met, prerequisites are recorded in post-order. For a flag that is off there are none. For
one that is on, and if the big segment store always answers the same, each prerequisite up to the first one
that is not met adds what is recorded for its flag by itself, which meets no cycle either, and then this flag
with its result; one without a flag adds nothing. All but the last one of what a flag requires are met, and
there is one record for each time that a flag is evaluated inside of the first one. -/
theorem events_postOrder (f : Flag) (setting : Setting)
    (hnone : ∀ m, Reaches setting (.start f) m → ¬m.MeetsCycle) :
    (f.on = false → (f.evaluate setting).events = []) ∧
    (f.on = true → setting.Steady →
      (f.evaluate setting).events = (setting.visited f.prerequisites).flatMap
        (fun v => (v.2.evaluate setting).events ++ [f.requirement setting v.2]) ∧
      ∀ v ∈ setting.visited f.prerequisites, ∀ m, Reaches setting (.start v.2) m → ¬m.MeetsCycle) ∧
    (∀ g : Flag, ∀ v ∈ (setting.visited g.prerequisites).dropLast,
      v.2.on = true ∧ (g.requirement setting v.2).result.variationIndex = some v.1.variation) ∧
    ((f.evaluate setting).events.map (·.prerequisite)).Perm
      (((Moment.start f).trace setting).tail.filterMap Moment.flag?) := by
  have hacyclic := (cycle_eq_false_iff f setting).mpr hnone
  refine ⟨fun hoff => ?_, fun hon hsteady => ?_, fun g v hv => ?_, ?_⟩
  · rw [Flag.evaluate, Flag.run_of_off hoff]
    rfl
  · have hfresh : f.key ∉ EvaluationState.initial.flagPath := List.not_mem_nil
    obtain ⟨hcycle, hevents⟩ := Flag.run_after_prerequisites setting hon hfresh
    rw [hcycle] at hacyclic
    obtain ⟨hrun, hvisited⟩ := f.events_runPrerequisites hsteady f.prerequisites
      ((EvaluationState.neutral_initial setting).enterFlag f.key) hacyclic
    refine ⟨?_, fun v hv => (cycle_eq_false_iff v.2 setting).mp (hvisited v hv)⟩
    show (f.run setting .initial).2.events = _
    rw [hevents, hrun]
    rfl
  · obtain ⟨hfound, hmet⟩ := Setting.isMet_of_mem_dropLast hv
    exact (Prerequisite.isMet_iff_of_found hfound).mp hmet
  · have hlists : (Moment.start f).Lists setting := Moment.lists _
    obtain ⟨added, hevents, -, hperm⟩ := hlists hacyclic
    have hadded : (f.evaluate setting).events = added := hevents
    -- the trace starts with the flag itself, which is not recorded
    have htrace : (Moment.start f).flags setting =
        f :: ((Moment.start f).trace setting).tail.filterMap Moment.flag? := by
      rw [Moment.flags, Moment.trace_eq]
      rfl
    rw [← Moment.start, htrace] at hperm
    rw [hadded]
    exact hperm.cons_inv.symm

/-- A flag that is reached along three paths is evaluated and recorded three times. -/
theorem events_postOrder_diamond :
    ((Flag.requiring "a" ["b", "c", "d"]).evaluate .diamond).events.map
        (fun e => (e.targetKey, e.prerequisite.key)) =
      [("b", "d"), ("a", "b"), ("c", "d"), ("a", "c"), ("a", "d")] ∧
    (((Moment.start (.requiring "a" ["b", "c", "d"])).trace .diamond).tail.filterMap
      Moment.flag?).length = 5 := by
  have hnone : ∀ m, Reaches .diamond (.start (.requiring "a" ["b", "c", "d"])) m → ¬m.MeetsCycle :=
    fun m hreach => (Moment.Linked.of_reaches Setting.diamond_underOwnKeys rfl hreach).not_meetsCycle
      (Setting.diamond_acyclicFrom rfl)
  obtain ⟨-, hon, -, hperm⟩ := events_postOrder (.requiring "a" ["b", "c", "d"]) .diamond hnone
  constructor
  · rw [(hon rfl (.of_none rfl)).1]
    rfl
  · rw [← hperm.length_eq, List.length_map]
    rfl

end FeatureFlags
