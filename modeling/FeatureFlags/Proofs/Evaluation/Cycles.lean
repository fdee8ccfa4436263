import FeatureFlags.Proofs.Evaluation.Moments

/-!
# Prerequisite cycles

A cycle is met at a moment at which a flag that is on is about to be evaluated although its key is on the
path already (`Moment.MeetsCycle`).

* A cycle that is met spoils everything around it: the evaluations of all flags on the path end as
  malformed at once, and no prerequisite is recorded any more (`Moment.spoiled_of_reaches`).
* The state says that there is a cycle if and only if one was met (`cycle_iff_exists_meetsCycle`).
* No cycle is met in a catalog whose flags have the keys they are stored under, if the prerequisites of the
  flags that are on do not go round in circles (`Moment.Linked.not_meetsCycle`). The path of flags is then
  a path in the graph of prerequisites, however often a flag is reached.
-/

namespace FeatureFlags

variable {setting : Setting} {m m' : Moment}

/-- At this moment a flag that is on is to be evaluated inside of itself. -/
def Moment.MeetsCycle (m : Moment) : Prop :=
  ∃ g, m.task = .flag g ∧ g.on = true ∧ g.key ∈ m.state.flagPath

/-! ## A cycle spoils the evaluation -/

/-- The evaluation from a moment ends as malformed with a cycle, and with these prerequisites recorded.
Only flags and their prerequisites can meet a cycle. -/
def Moment.Spoiled (setting : Setting) (events : List PrerequisiteEvent) : Moment → Prop
  | ⟨.flag f, s⟩ => ∃ s', f.run setting s = (Detail.error .malformedFlag, s') ∧
      s'.cycle = true ∧ s'.events = events
  | ⟨.prerequisites f rest, s⟩ =>
    ∃ s', f.runPrerequisites setting rest s = (some (Detail.error .malformedFlag), s') ∧
      s'.cycle = true ∧ s'.events = events
  | _ => False

/-- The moment that meets a cycle is spoiled, with the events recorded so far. -/
lemma Moment.MeetsCycle.spoiled (h : m.MeetsCycle) : m.Spoiled setting m.state.events := by
  obtain ⟨task, s⟩ := m
  obtain ⟨g, rfl, hon, hpath⟩ := h
  exact ⟨s.markCycle, Flag.run_of_mem_path hon hpath, rfl, rfl⟩

/-- What spoils the evaluation from a moment also spoils it from the moments before. -/
lemma Moment.Spoiled.of_step {events : List PrerequisiteEvent} (hstep : Step setting m m')
    (h : m'.Spoiled setting events) : m.Spoiled setting events := by
  -- steps into rules and clauses are out of the question, since nothing there is spoiled
  cases hstep with
  | @prerequisites f s on fresh =>
    obtain ⟨s₁, hchecked, hcycle, hevents⟩ := h
    exact ⟨s₁.leaveFlag f.key, Flag.run_of_unmet on fresh hchecked, hcycle, hevents⟩
  | @prerequisite f p rest g s found =>
    obtain ⟨s₁, hg, hcycle, hevents⟩ := h
    refine ⟨s₁, ?_, hcycle, hevents⟩
    rw [Flag.runPrerequisites_of_found f rest found hg, if_pos hcycle]
  | @nextPrerequisite f p rest g s s' result found evaluated acyclic on served =>
    obtain ⟨s₁, hrest, hcycle, hevents⟩ := h
    refine ⟨s₁, ?_, hcycle, hevents⟩
    rw [Flag.runPrerequisites_of_found f rest found evaluated, acyclic, if_neg Bool.false_ne_true,
      if_pos ⟨on, served⟩, hrest]
  | _ => cases h

/-- From a cycle that is met on, no prerequisite is recorded, and all evaluations that it is met in end as
malformed. -/
theorem Moment.spoiled_of_reaches (hreach : Reaches setting m m') (h : m'.MeetsCycle) :
    m.Spoiled setting m'.state.events := by
  induction hreach using Relation.ReflTransGen.head_induction_on with
  | refl => exact h.spoiled
  | head hstep _ ih => exact ih.of_step hstep

/-! ## Only a cycle is reported as one -/

/-- The evaluation from a moment is the first to find out that there is a cycle. -/
def Moment.FindsCycle (setting : Setting) : Moment → Prop
  | ⟨.flag f, s⟩ => s.cycle = false ∧ (f.run setting s).2.cycle = true
  | ⟨.prerequisites f rest, s⟩ => s.cycle = false ∧ (f.runPrerequisites setting rest s).2.cycle = true
  | _ => False

/-- What finds a cycle meets it at once or goes on with something that finds it. -/
lemma Moment.FindsCycle.meets_or_step (h : m.FindsCycle setting) :
    m.MeetsCycle ∨ ∃ m', Step setting m m' ∧ m'.FindsCycle setting := by
  obtain ⟨task, s⟩ := m
  -- the mark is set at this moment, or a nested evaluation sets it
  cases task with
  | flag f =>
    obtain ⟨hno, hyes⟩ := h
    rcases f.run_cases setting s with ⟨-, hrun⟩ | ⟨hon, hpath, -⟩ |
      ⟨hon, hfresh, failure, s', hfailed, hrun⟩ | ⟨hon, hfresh, s', hmet, hrun⟩
    · rw [hrun, hno] at hyes
      cases hyes
    · exact .inl ⟨f, rfl, hon, hpath⟩
    · rw [hrun] at hyes
      refine .inr ⟨_, .prerequisites hon hfresh, hno, ?_⟩
      rw [hfailed]
      exact hyes
    · rw [hrun, (f.decide_framed setting _).2.cycle] at hyes
      refine .inr ⟨_, .prerequisites hon hfresh, hno, ?_⟩
      rw [hmet]
      exact hyes
  | prerequisites f rest =>
    obtain ⟨hno, hyes⟩ := h
    cases rest with
    | nil =>
      have hrun : (f.runPrerequisites setting [] s).2 = s := rfl
      rw [hrun, hno] at hyes
      cases hyes
    | cons p rest =>
      -- the nested flag set it, or a later prerequisite does
      rcases f.runPrerequisites_cons_cases setting p rest s with
        ⟨-, hrun⟩ | ⟨g, result, s', hfound, hg, hcases⟩
      · rw [hrun, hno] at hyes
        cases hyes
      · rcases hcases with ⟨hcycle, -⟩ | ⟨hcycle, -, hrun⟩ | ⟨hcycle, ⟨hon, hserved⟩, hrun⟩
        · refine .inr ⟨_, .prerequisite hfound, hno, ?_⟩
          rw [hg]
          exact hcycle
        · rw [hrun, EvaluationState.record_cycle, hcycle] at hyes
          cases hyes
        · rw [hrun] at hyes
          exact .inr ⟨_, .nextPrerequisite hfound hg hcycle hon hserved, hcycle, hyes⟩
  | _ => cases h

/-- What finds a cycle leads to a moment at which it is met. -/
lemma Moment.FindsCycle.exists_meetsCycle (h : m.FindsCycle setting) :
    ∃ m', Reaches setting m m' ∧ m'.MeetsCycle := by
  -- it cannot go on for ever with something else that finds the cycle
  induction m using (step_wellFounded setting).induction with
  | _ m ih =>
    rcases h.meets_or_step with hmeets | ⟨m', hstep, hfinds⟩
    · exact ⟨m, .refl, hmeets⟩
    · obtain ⟨m'', hreach, hmeets⟩ := ih m' hstep hfinds
      exact ⟨m'', .head hstep hreach, hmeets⟩

/-- An evaluation reports a cycle if and only if it meets one. -/
theorem cycle_iff_exists_meetsCycle (f : Flag) (setting : Setting) :
    (f.run setting .initial).2.cycle = true ↔
      ∃ m, Reaches setting (.start f) m ∧ m.MeetsCycle := by
  constructor
  · intro hcycle
    have hfinds : (Moment.start f).FindsCycle setting := ⟨rfl, hcycle⟩
    exact hfinds.exists_meetsCycle
  · rintro ⟨m, hreach, hmeets⟩
    obtain ⟨s', hrun, hcycle, -⟩ := Moment.spoiled_of_reaches hreach hmeets
    rw [hrun]
    exact hcycle

/-! ## Flags without cycles -/

namespace Catalog

/-- A flag that is on has another flag that is on among its prerequisites. -/
def Requires (catalog : Catalog) (f g : Flag) : Prop :=
  f.on = true ∧ g.on = true ∧ ∃ p ∈ f.prerequisites, catalog.flag? p.key = some g

/-- All flags have the keys they are stored under. -/
def UnderOwnKeys (catalog : Catalog) : Prop := ∀ key g, catalog.flag? key = some g → g.key = key

/-- No flag that a flag requires, directly or not, requires itself. -/
def AcyclicFrom (catalog : Catalog) (f : Flag) : Prop :=
  ∀ g, Relation.ReflTransGen catalog.Requires f g → ¬Relation.TransGen catalog.Requires g g

/-- Requirements that go down in some rank do not go round in circles. -/
lemma AcyclicFrom.of_rank {catalog : Catalog} {f : Flag} (known : Flag → Prop) (rank : Flag → Nat)
    (hf : known f)
    (hrank : ∀ g h, known g → catalog.Requires g h → known h ∧ rank h < rank g) :
    catalog.AcyclicFrom f := by
  have hclosed : ∀ g, Relation.ReflTransGen catalog.Requires f g → known g := by
    intro g hfg
    induction hfg with
    | refl => exact hf
    | tail _ hrequires ih => exact (hrank _ _ ih hrequires).1
  intro g hfg hcycle
  have hdown : ∀ h, Relation.TransGen catalog.Requires g h → known h ∧ rank h < rank g := by
    intro h hgh
    induction hgh with
    | single hrequires => exact hrank _ _ (hclosed g hfg) hrequires
    | tail _ hrequires ih =>
      obtain ⟨hknown, hless⟩ := hrank _ _ ih.1 hrequires
      exact ⟨hknown, hless.trans ih.2⟩
  exact lt_irrefl _ (hdown g hcycle).2

end Catalog

/-- The path of flags is a path in the graph of requirements: whatever is on it requires what is evaluated
inside of it. A flag that was left is not on it any more, so it does not matter that it may come again. -/
def Moment.Linked (root : Flag) (catalog : Catalog) : Moment → Prop
  | ⟨.flag g, s⟩ => g.on = true → catalog.flag? g.key = some g ∧
      Relation.ReflTransGen catalog.Requires root g ∧
      ∀ key ∈ s.flagPath, ∃ h, catalog.flag? key = some h ∧ Relation.TransGen catalog.Requires h g
  | ⟨.prerequisites g rest, s⟩ => g.on = true ∧ rest ⊆ g.prerequisites ∧
      Relation.ReflTransGen catalog.Requires root g ∧
      ∀ key ∈ s.flagPath, ∃ h, catalog.flag? key = some h ∧ Relation.ReflTransGen catalog.Requires h g
  | _ => True

namespace Moment.Linked

variable {root : Flag}

/-- An evaluation of a stored flag begins with this flag. -/
lemma start {catalog : Catalog} (hroot : catalog.flag? root.key = some root) :
    (Moment.start root).Linked root catalog :=
  fun _ => ⟨hroot, .refl, fun key hkey => by cases hkey⟩

/-- Every step goes to a flag that is required by the one before. -/
lemma step (hown : setting.catalog.UnderOwnKeys) (h : m.Linked root setting.catalog)
    (hstep : Step setting m m') : m'.Linked root setting.catalog := by
  cases hstep with
  | @prerequisites f s on fresh =>
    obtain ⟨hfound, hroot, hpath⟩ := h on
    refine ⟨on, List.Subset.refl _, hroot, fun key hkey => ?_⟩
    -- the flag itself is on the path inside of it, and requires itself in no steps
    rcases List.mem_cons.mp hkey with rfl | hkey
    · exact ⟨f, hfound, .refl⟩
    · obtain ⟨g, hg, hrequires⟩ := hpath key hkey
      exact ⟨g, hg, hrequires.to_reflTransGen⟩
  | @prerequisite f p rest g s found =>
    obtain ⟨hf, hrest, hroot, hpath⟩ := h
    intro hg
    have hrequires : setting.catalog.Requires f g := ⟨hf, hg, p, hrest List.mem_cons_self, found⟩
    refine ⟨?_, hroot.tail hrequires, fun key hkey => ?_⟩
    · rw [hown p.key g found]
      exact found
    · obtain ⟨g', hg', hpathRequires⟩ := hpath key hkey
      exact ⟨g', hg', .tail' hpathRequires hrequires⟩
  | @nextPrerequisite f p rest g s s' result found evaluated =>
    obtain ⟨hf, hrest, hroot, hpath⟩ := h
    have hpaths := (g.run_framed setting s).flagPath
    rw [evaluated] at hpaths
    refine ⟨hf, List.Subset.trans (List.subset_cons_self p rest) hrest, hroot, ?_⟩
    rw [EvaluationState.record_flagPath, hpaths]
    exact hpath
  | _ => trivial

/-- All flags of an evaluation are linked to the first one. -/
lemma of_reaches (hown : setting.catalog.UnderOwnKeys)
    (hroot : setting.catalog.flag? root.key = some root)
    (hreach : Reaches setting (.start root) m) : m.Linked root setting.catalog := by
  induction hreach with
  | refl => exact start hroot
  | tail _ hstep ih => exact ih.step hown hstep

/-- A cycle that is met is one in the graph of requirements. -/
theorem not_meetsCycle (h : m.Linked root setting.catalog)
    (hacyclic : setting.catalog.AcyclicFrom root) : ¬m.MeetsCycle := by
  obtain ⟨task, s⟩ := m
  rintro ⟨g, rfl, hon, hpath⟩
  obtain ⟨hfound, hroot, hlinked⟩ := h hon
  obtain ⟨g', hfound', hcycle⟩ := hlinked g.key hpath
  rw [hfound] at hfound'
  cases hfound'
  exact hacyclic g hroot hcycle

end Moment.Linked

/-! ## Cycles are detected exactly -/

/-- Cycles among prerequisites are detected exactly. An evaluation reports a cycle if and only if it meets
one, however deep. Then it is malformed and records nothing from there on. In a catalog whose flags have
the keys they are stored under, the evaluation of one of the flags does not meet any cycle if there is none
among the flags that are on and that it requires, along however many paths. -/
theorem cycles_detected_exactly (f : Flag) (setting : Setting) :
    ((f.run setting .initial).2.cycle = true ↔ ∃ m, Reaches setting (.start f) m ∧ m.MeetsCycle) ∧
    (∀ m, Reaches setting (.start f) m → m.MeetsCycle →
      (f.evaluate setting).detail.value = none ∧
      (f.evaluate setting).detail.variationIndex = none ∧
      (f.evaluate setting).detail.reason = .error .malformedFlag ∧
      (f.evaluate setting).events = m.state.events) ∧
    (setting.catalog.UnderOwnKeys → setting.catalog.flag? f.key = some f →
      setting.catalog.AcyclicFrom f →
      (f.run setting .initial).2.cycle = false ∧
      ∀ m, Reaches setting (.start f) m → ¬m.MeetsCycle) := by
  refine ⟨cycle_iff_exists_meetsCycle f setting, fun m hreach hmeets => ?_, fun hown hf hacyclic => ?_⟩
  -- what was recorded when the cycle was met is never added to
  · obtain ⟨s', hrun, -, hevents⟩ := Moment.spoiled_of_reaches hreach hmeets
    rw [Flag.evaluate, hrun]
    exact ⟨rfl, rfl, rfl, hevents⟩
  -- along the steps of an acyclic catalog the path only holds flags that lead here
  · have hnone : ∀ m, Reaches setting (.start f) m → ¬m.MeetsCycle := fun m hreach =>
      (Moment.Linked.of_reaches hown hf hreach).not_meetsCycle hacyclic
    refine ⟨Bool.eq_false_iff.mpr fun hcycle => ?_, hnone⟩
    obtain ⟨m, hreach, hmeets⟩ := (cycle_iff_exists_meetsCycle f setting).mp hcycle
    exact hnone m hreach hmeets

/-- Four flags of which the last one is required along three paths, and one that requires flags that are
missing. -/
def Setting.diamond : Setting :=
  .ofFlags [("a", .requiring "a" ["b", "c", "d"]), ("b", .requiring "b" ["d"]),
    ("c", .requiring "c" ["d"]), ("d", .requiring "d" []), ("e", .requiring "e" ["b", "x", "y"])]

/-- The flags of the diamond are stored under their own keys. -/
lemma Setting.diamond_underOwnKeys : Setting.diamond.catalog.UnderOwnKeys := by
  have hown : ∀ e ∈ Setting.diamond.catalog.flags, e.2.key = e.1 := by decide
  exact fun key g hg => hown (key, g) (Entries.mem_of_get? hg)

/-- The diamond has no cycles: what is required comes later in the alphabet. -/
lemma Setting.diamond_acyclicFrom {f : Flag} (hf : Setting.diamond.catalog.flag? f.key = some f) :
    Setting.diamond.catalog.AcyclicFrom f := by
  have hless : ∀ e ∈ Setting.diamond.catalog.flags, ∀ p ∈ e.2.prerequisites,
      ∀ h ∈ Setting.diamond.catalog.flag? p.key,
        h.prerequisites.length < e.2.prerequisites.length := by decide
  refine .of_rank (fun g => ∃ key, (key, g) ∈ Setting.diamond.catalog.flags) (·.prerequisites.length)
    ⟨f.key, Entries.mem_of_get? hf⟩ ?_
  rintro g h ⟨key, hmem⟩ ⟨-, -, p, hp, hfound⟩
  exact ⟨⟨p.key, Entries.mem_of_get? hfound⟩, hless (key, g) hmem p hp h hfound⟩

/-- A ring is reported as malformed, and a diamond is not a ring. -/
theorem cycles_detected_ring_diamond :
    ((Flag.requiring "a" ["q"]).evaluate .ring).detail.reason = .error .malformedFlag ∧
    ((Flag.requiring "a" ["b", "c", "d"]).run .diamond .initial).2.cycle = false :=
  ⟨((cycles_detected_exactly (.requiring "a" ["q"]) .ring).2.1 _ Setting.ring_reaches
      ⟨_, rfl, rfl, by decide⟩).2.2.1,
    ((cycles_detected_exactly (.requiring "a" ["b", "c", "d"]) .diamond).2.2
      Setting.diamond_underOwnKeys rfl (Setting.diamond_acyclicFrom rfl)).1⟩

end FeatureFlags
