import FeatureFlags.Proofs.Entries
import FeatureFlags.Proofs.Evaluation.Checks
import Mathlib.Data.Finset.Card

/-!
# Flags nested in flags

`Flag.evaluateAt` bounds the nesting of flags by a number. The number that an evaluation starts with is
large enough: each flag that is entered takes its own key out of the keys that are not on the path yet
(`Flag.keysLeft`), and a flag whose key is on the path is not entered. So `Flag.evaluation` obeys the
recursion without any bound (`Flag.evaluation_eq`), whatever the catalog and the state look like.

* `Flag.run_cases`, `Flag.runPrerequisites_cons_cases`: the ways an evaluation can go, with the states that
  it leaves behind.
* `Flag.run_framed`: an evaluation leaves both paths as they were.
-/

namespace FeatureFlags

/-! ## Keys that are left -/

lemma length_eraseDups_eq_card (keys : List String) :
    keys.eraseDups.length = keys.toFinset.card := by
  -- the first key goes together with all of its copies, so the induction is on the length
  induction hlength : keys.length using Nat.strong_induction_on generalizing keys with
  | _ n ih =>
    cases keys with
    | nil => rfl
    | cons key rest =>
      have hshort : (rest.filter fun other => !other == key).length < n := by
        have := List.length_filter_le (fun other => !other == key) rest
        rw [← hlength, List.length_cons]
        omega
      have hinsert : (key :: rest).toFinset =
          insert key (rest.filter fun other => !other == key).toFinset := by
        ext other
        by_cases h : other = key <;> simp [h]
      have hfresh : key ∉ (rest.filter fun other => !other == key).toFinset := by simp
      rw [List.eraseDups_cons, List.length_cons, ih _ hshort _ rfl, hinsert,
        Finset.card_insert_of_notMem hfresh]

lemma Catalog.key_mem_ownKeys {catalog : Catalog} {key : String} {g : Flag}
    (h : catalog.flag? key = some g) : g.key ∈ catalog.ownKeys := by
  have hmem := Entries.mem_of_get? h
  exact List.mem_map_of_mem hmem

/-- How many of the own keys of the flags of a catalog are not on a path. -/
def Catalog.keysLeft (catalog : Catalog) (path : List String) : Nat :=
  (catalog.ownKeys.toFinset \ path.toFinset).card

namespace Flag

/-- The own keys of a flag and of the flags of a catalog. -/
def knownKeys (f : Flag) (catalog : Catalog) : Finset String := (f.key :: catalog.ownKeys).toFinset

/-- The flags that can stand on the path of `f` are as many as `keyCount` says. -/
lemma card_knownKeys (f : Flag) (catalog : Catalog) :
    (f.knownKeys catalog).card = f.keyCount catalog :=
  (length_eraseDups_eq_card _).symm

/-- How many of the known keys are not on a path. -/
def keysLeft (f : Flag) (catalog : Catalog) (path : List String) : Nat :=
  (f.knownKeys catalog \ path.toFinset).card

lemma keysLeft_le_keyCount (f : Flag) (catalog : Catalog) (path : List String) :
    f.keysLeft catalog path ≤ f.keyCount catalog := by
  rw [← card_knownKeys]
  exact Finset.card_le_card Finset.sdiff_subset

variable {f g : Flag} {catalog : Catalog} {path : List String}

/-- The flags of the catalog are known to it. -/
lemma keysLeft_of_mem_ownKeys (path : List String) (hg : g.key ∈ catalog.ownKeys) :
    g.keysLeft catalog path = catalog.keysLeft path := by
  rw [keysLeft, knownKeys, List.toFinset_cons, Finset.insert_eq_of_mem (List.mem_toFinset.mpr hg)]
  rfl

/-- Entering a flag leaves fewer keys. -/
lemma keysLeft_enter_lt (catalog : Catalog) (hf : f.key ∉ path) :
    catalog.keysLeft (f.key :: path) < f.keysLeft catalog path := by
  refine Finset.card_lt_card (Finset.ssubset_iff_subset_ne.mpr ⟨fun key hkey => ?_, fun heq => ?_⟩)
  · simp only [knownKeys, Finset.mem_sdiff, List.mem_toFinset, List.mem_cons, not_or] at hkey ⊢
    exact ⟨.inr hkey.1, hkey.2.2⟩
  -- the key of the flag itself is what is lost
  · have hmem : f.key ∈ f.knownKeys catalog \ path.toFinset := by simp [knownKeys, hf]
    rw [← heq] at hmem
    simp at hmem

end Flag

/-! ## Rules and fallthrough of a flag -/

section Decide

variable {setting other : Setting} {R : List String → EvaluationState → EvaluationState → Prop}
  {path : List String} {s t : EvaluationState}

/-- Two settings that answer every check alike agree on each rule of a flag. -/
lemma FlagRule.check_similar (hR : CheckRelation setting other R) (r : FlagRule) :
    Check.Similar (R path) (r.check setting) (r.check other) := by
  rw [FlagRule.check_eq, FlagRule.check_eq]
  exact checkClauses_similar hR (nestedSimilar_contains setting hR) r.clauses

/-- Two settings that answer every check alike choose the same rule, and so the same result. -/
lemma Flag.decideByRules_similar (hR : CheckRelation setting other R) (f : Flag)
    (rules : List (FlagRule × Nat)) (hst : R path s t) :
    ((f.decideByRules setting rules).run s).1 = ((f.decideByRules other rules).run t).1 ∧
      R path ((f.decideByRules setting rules).run s).2 ((f.decideByRules other rules).run t).2 := by
  induction rules generalizing s t with
  | nil =>
    rw [Flag.decideByRules, Flag.decideByRules, ← hR.data.context]
    exact ⟨rfl, hst⟩
  | cons entry rest ih =>
    obtain ⟨rule, index⟩ := entry
    rw [run_decideByRules_cons, run_decideByRules_cons, ← hR.data.context]
    have h := rule.check_similar hR s t hst
    rcases ha : (rule.check setting).run.run s with ⟨x, s'⟩
    rcases hb : (rule.check other).run.run t with ⟨y, t'⟩
    rw [ha, hb] at h
    obtain rfl : x = y := h.answer
    rcases x with e | _ | _
    · exact ⟨rfl, h.state⟩
    · exact ih h.state
    · exact ⟨rfl, h.state⟩

/-- Targets, rules and fallthrough serve alike from related states. -/
lemma Flag.decide_similar (hR : CheckRelation setting other R) (f : Flag) (hst : R path s t) :
    ((f.decide setting).run s).1 = ((f.decide other).run t).1 ∧
      R path ((f.decide setting).run s).2 ((f.decide other).run t).2 := by
  rw [Flag.decide, Flag.decide, ← hR.data.context]
  cases f.targetVariation? setting.context with
  | some index => exact ⟨rfl, hst⟩
  | none => exact f.decideByRules_similar hR _ hst

end Decide

/-! ## The recursion without a bound -/

namespace Flag

variable {f g : Flag} {setting : Setting} {nested nested' : Flag → Evaluation Detail}
  {s : EvaluationState}

/-- Targets, rules and fallthrough stay where they are, and know about flags what was known before. -/
lemma decide_framed (f : Flag) (setting : Setting) (s : EvaluationState) :
    ((f.decide setting).run s).2.SamePaths s ∧ ((f.decide setting).run s).2.SameFlags s := by
  have h := (f.decide_similar (oneRun_checkRelation setting s)
    (s := s) (t := s) ⟨rfl, rfl, .refl s⟩).2
  exact ⟨⟨h.flags.flagPath, h.segmentPath⟩, h.flags⟩

/-- Two ways to evaluate the flags of a catalog that agree on a path, and stay on it. -/
def NestedAgree (setting : Setting) (path : List String) (nested nested' : Flag → Evaluation Detail) :
    Prop :=
  ∀ key g s, setting.catalog.flag? key = some g → s.flagPath = path →
    (nested g).run s = (nested' g).run s ∧ ((nested g).run s).2.SamePaths s

/-- Two ways of evaluating nested flags that agree on the states with path `path` give the same prerequisite
check there. -/
lemma checkPrerequisites_congr {path : List String} (hn : NestedAgree setting path nested nested')
    (f : Flag) (prerequisites : List Prerequisite) (hs : s.flagPath = path) :
    (f.checkPrerequisites nested setting prerequisites).run s =
        (f.checkPrerequisites nested' setting prerequisites).run s ∧
      ((f.checkPrerequisites nested setting prerequisites).run s).2.SamePaths s := by
  -- the induction carries that the paths are handed back, which the next prerequisite starts from
  induction prerequisites generalizing s with
  | nil => exact ⟨rfl, .refl s⟩
  | cons p rest ih =>
    rw [run_checkPrerequisites_cons, run_checkPrerequisites_cons]
    cases hg : setting.catalog.flag? p.key with
    | none => exact ⟨rfl, .refl s⟩
    | some g =>
      obtain ⟨hrun, hpaths⟩ := hn p.key g s hg hs
      dsimp only
      rw [← hrun]
      rcases hresult : (nested g).run s with ⟨result, s'⟩
      rw [hresult] at hpaths
      have hrecorded : (s'.record ⟨f.key, setting.context, g, result⟩).SamePaths s :=
        ⟨hpaths.flagPath, hpaths.segmentPath⟩
      dsimp only
      split_ifs
      · exact ⟨rfl, hpaths⟩
      · obtain ⟨hrest, hrestPaths⟩ := ih (hrecorded.flagPath.trans hs)
        exact ⟨hrest, hrestPaths.trans hrecorded⟩
      · exact ⟨rfl, hrecorded⟩

/-- The evaluation of a flag asks for nested flags only inside of itself, and then it is not on the path
that it came from. -/
lemma evaluateWith_congr (f : Flag)
    (hn : f.key ∉ s.flagPath → NestedAgree setting (f.key :: s.flagPath) nested nested') :
    (f.evaluateWith nested setting).run s = (f.evaluateWith nested' setting).run s ∧
      ((f.evaluateWith nested setting).run s).2.SamePaths s := by
  rw [run_evaluateWith, run_evaluateWith]
  split_ifs with hoff hpath
  · exact ⟨rfl, .refl s⟩
  · exact ⟨rfl, ⟨rfl, rfl⟩⟩
  · obtain ⟨hrun, hpaths⟩ := checkPrerequisites_congr (hn hpath) f f.prerequisites
      (s := s.enterFlag f.key) rfl
    rw [run_insideFlag, run_insideFlag, ← hrun]
    rcases hchecked : (f.checkPrerequisites nested setting f.prerequisites).run (s.enterFlag f.key) with
      ⟨failure, s'⟩
    rw [hchecked] at hpaths
    cases failure with
    | some result => exact ⟨rfl, hpaths.leaveFlag⟩
    | none => exact ⟨rfl, (f.decide_framed setting _).1.trans hpaths.leaveFlag⟩

/-- All numbers that are not below the number of keys left stand for the same evaluation. -/
lemma evaluateAt_congr (f : Flag) {depth depth' : Nat}
    (h : f.keysLeft setting.catalog s.flagPath ≤ depth)
    (h' : f.keysLeft setting.catalog s.flagPath ≤ depth') :
    (evaluateAt setting depth f).run s = (evaluateAt setting depth' f).run s ∧
      ((evaluateAt setting depth f).run s).2.SamePaths s := by
  -- a flag that is entered takes its key, so one less is enough for the flags nested in it
  induction depth generalizing depth' f s with
  | zero =>
    -- no key is left: the key of the flag is on the path, and nothing nested is asked for
    have hpath : ¬f.key ∉ s.flagPath := fun hf => by
      have := keysLeft_enter_lt setting.catalog hf
      omega
    cases depth' with
    | zero => exact f.evaluateWith_congr fun hf => absurd hf hpath
    | succ depth' => exact f.evaluateWith_congr fun hf => absurd hf hpath
  | succ depth ih =>
    cases depth' with
    | zero =>
      refine f.evaluateWith_congr fun hf => ?_
      have := keysLeft_enter_lt setting.catalog hf
      omega
    | succ depth' =>
      refine f.evaluateWith_congr fun hf key g t hg ht => ?_
      have hless := keysLeft_enter_lt setting.catalog hf
      rw [← ht, ← keysLeft_of_mem_ownKeys _ (Catalog.key_mem_ownKeys hg)] at hless
      exact ih g (by omega) (by omega)

/-- The evaluation of a flag as it comes. -/
def evaluation (f : Flag) (setting : Setting) : Evaluation Detail :=
  evaluateAt setting (f.keyCount setting.catalog) f

/-- The fuel of `run` suffices for any state, so it may be read as `evaluation`. -/
lemma run_eq (f : Flag) (setting : Setting) (s : EvaluationState) :
    f.run setting s = (f.evaluation setting).run s := rfl

/-- A flag is evaluated by evaluating its prerequisites in the same way. -/
theorem evaluation_eq (f : Flag) (setting : Setting) :
    f.evaluation setting = f.evaluateWith (·.evaluation setting) setting := by
  refine StateT.ext fun s => ?_
  have hleft := f.keysLeft_le_keyCount setting.catalog s.flagPath
  rw [evaluation]
  cases hcount : f.keyCount setting.catalog with
  | zero =>
    refine (f.evaluateWith_congr fun hf => ?_).1
    have := keysLeft_enter_lt setting.catalog hf
    omega
  | succ depth =>
    refine (f.evaluateWith_congr fun hf key g t hg ht => ?_).1
    have hless := keysLeft_enter_lt setting.catalog hf
    rw [← ht, ← keysLeft_of_mem_ownKeys _ (Catalog.key_mem_ownKeys hg)] at hless
    exact g.evaluateAt_congr (by omega) (g.keysLeft_le_keyCount _ _)

/-! ## The ways an evaluation can go -/

/-- An evaluation leaves both paths as they were. -/
theorem run_framed (f : Flag) (setting : Setting) (s : EvaluationState) :
    (f.run setting s).2.SamePaths s :=
  (f.evaluateAt_congr (f.keysLeft_le_keyCount _ _) (f.keysLeft_le_keyCount _ _)).2

/-- Checks prerequisites of a flag one after the other, with the state that this leaves behind. -/
def runPrerequisites (f : Flag) (setting : Setting) (prerequisites : List Prerequisite)
    (s : EvaluationState) : Option Detail × EvaluationState :=
  (f.checkPrerequisites (·.evaluation setting) setting prerequisites).run s

/-- A prerequisite check hands the paths back as it found them. -/
lemma runPrerequisites_framed (f : Flag) (setting : Setting) (prerequisites : List Prerequisite)
    (s : EvaluationState) : (f.runPrerequisites setting prerequisites s).2.SamePaths s :=
  (checkPrerequisites_congr (fun _ g t _ _ => ⟨rfl, g.run_framed setting t⟩) f prerequisites rfl).2

/-- A flag that is off serves its off variation and looks at nothing else. -/
lemma run_of_off (hoff : f.on = false) : f.run setting s = (f.serveOff .off, s) := by
  rw [run_eq, evaluation_eq, run_evaluateWith, hoff]
  rfl

/-- A flag that is already being evaluated closes a cycle. -/
lemma run_of_mem_path (hon : f.on = true) (hpath : f.key ∈ s.flagPath) :
    f.run setting s = (Detail.error .malformedFlag, s.markCycle) := by
  rw [run_eq, evaluation_eq, run_evaluateWith, hon, if_pos hpath]
  rfl

/-- What a prerequisite says is the result of a flag that is on and not on the path yet. -/
lemma run_of_unmet {result : Detail} {s' : EvaluationState} (hon : f.on = true)
    (hfresh : f.key ∉ s.flagPath)
    (hchecked : f.runPrerequisites setting f.prerequisites (s.enterFlag f.key) = (some result, s')) :
    f.run setting s = (result, s'.leaveFlag f.key) := by
  rw [runPrerequisites] at hchecked
  rw [run_eq, evaluation_eq, run_evaluateWith, run_insideFlag, hon, if_neg hfresh, hchecked]
  rfl

/-- A flag that is on and not on the path yet is decided once its prerequisites are met. -/
lemma run_of_met {s' : EvaluationState} (hon : f.on = true) (hfresh : f.key ∉ s.flagPath)
    (hchecked : f.runPrerequisites setting f.prerequisites (s.enterFlag f.key) = (none, s')) :
    f.run setting s = (f.decide setting).run (s'.leaveFlag f.key) := by
  rw [runPrerequisites] at hchecked
  rw [run_eq, evaluation_eq, run_evaluateWith, run_insideFlag, hon, if_neg hfresh, hchecked]
  rfl

/-- The ways an evaluation of a flag can go: the flag is off, it is on the path already, one of its
prerequisites is not met, and it is decided. -/
theorem run_cases (f : Flag) (setting : Setting) (s : EvaluationState) :
    (f.on = false ∧ f.run setting s = (f.serveOff .off, s)) ∨
    (f.on = true ∧ f.key ∈ s.flagPath ∧
      f.run setting s = (Detail.error .malformedFlag, s.markCycle)) ∨
    (f.on = true ∧ f.key ∉ s.flagPath ∧ ∃ failure s',
      f.runPrerequisites setting f.prerequisites (s.enterFlag f.key) = (some failure, s') ∧
      f.run setting s = (failure, s'.leaveFlag f.key)) ∨
    (f.on = true ∧ f.key ∉ s.flagPath ∧ ∃ s',
      f.runPrerequisites setting f.prerequisites (s.enterFlag f.key) = (none, s') ∧
      f.run setting s = (f.decide setting).run (s'.leaveFlag f.key)) := by
  cases hon : f.on with
  | false => exact .inl ⟨rfl, run_of_off hon⟩
  | true =>
    by_cases hpath : f.key ∈ s.flagPath
    · exact .inr (.inl ⟨rfl, hpath, run_of_mem_path hon hpath⟩)
    · rcases hchecked : f.runPrerequisites setting f.prerequisites (s.enterFlag f.key) with
        ⟨_ | failure, s'⟩
      · exact .inr (.inr (.inr ⟨rfl, hpath, s', rfl, run_of_met hon hpath hchecked⟩))
      · exact .inr (.inr (.inl ⟨rfl, hpath, failure, s', rfl, run_of_unmet hon hpath hchecked⟩))

variable {p : Prerequisite} {rest : List Prerequisite}

/-- A prerequisite whose flag is not in the catalog fails without an event. -/
lemma runPrerequisites_of_unknown (hunknown : setting.catalog.flag? p.key = none) :
    f.runPrerequisites setting (p :: rest) s = (some (f.serveOff (.prerequisiteFailed p.key)), s) := by
  rw [runPrerequisites, run_checkPrerequisites_cons, hunknown]

/-- A prerequisite that is found and does not turn out to be in a cycle is recorded. It is met if it is on
and serves the wanted variation. -/
lemma runPrerequisites_of_found (f : Flag) (rest : List Prerequisite) {result : Detail}
    {s' : EvaluationState} (hfound : setting.catalog.flag? p.key = some g)
    (hg : g.run setting s = (result, s')) :
    f.runPrerequisites setting (p :: rest) s =
      if s'.cycle = true then (some (Detail.error .malformedFlag), s')
      else if g.on = true ∧ result.variationIndex = some p.variation then
        f.runPrerequisites setting rest (s'.record ⟨f.key, setting.context, g, result⟩)
      else
        (some (f.serveOff (.prerequisiteFailed p.key)),
          s'.record ⟨f.key, setting.context, g, result⟩) := by
  rw [run_eq] at hg
  rw [runPrerequisites, run_checkPrerequisites_cons, hfound]
  dsimp only
  rw [hg]
  rfl

/-- The ways the check of the first of some prerequisites can go: there is no such flag, it turns out that
a flag is its own prerequisite, the flag is off or serves another variation, and the prerequisite is met
and the others follow. -/
theorem runPrerequisites_cons_cases (f : Flag) (setting : Setting) (p : Prerequisite)
    (rest : List Prerequisite) (s : EvaluationState) :
    (setting.catalog.flag? p.key = none ∧
      f.runPrerequisites setting (p :: rest) s = (some (f.serveOff (.prerequisiteFailed p.key)), s)) ∨
    ∃ g result s', setting.catalog.flag? p.key = some g ∧ g.run setting s = (result, s') ∧
      ((s'.cycle = true ∧
        f.runPrerequisites setting (p :: rest) s = (some (Detail.error .malformedFlag), s')) ∨
      (s'.cycle = false ∧ ¬(g.on = true ∧ result.variationIndex = some p.variation) ∧
        f.runPrerequisites setting (p :: rest) s =
          (some (f.serveOff (.prerequisiteFailed p.key)),
            s'.record ⟨f.key, setting.context, g, result⟩)) ∨
      (s'.cycle = false ∧ (g.on = true ∧ result.variationIndex = some p.variation) ∧
        f.runPrerequisites setting (p :: rest) s =
          f.runPrerequisites setting rest (s'.record ⟨f.key, setting.context, g, result⟩))) := by
  cases hfound : setting.catalog.flag? p.key with
  | none => exact .inl ⟨rfl, runPrerequisites_of_unknown hfound⟩
  | some g =>
    -- the three cases are a cycle, a prerequisite that is met and one that is not
    rcases hg : g.run setting s with ⟨result, s'⟩
    refine .inr ⟨g, result, s', rfl, hg, ?_⟩
    have hrun := runPrerequisites_of_found f rest hfound hg
    cases hcycle : s'.cycle with
    | true =>
      rw [hcycle, if_pos rfl] at hrun
      exact .inl ⟨rfl, hrun⟩
    | false =>
      rw [hcycle, if_neg Bool.false_ne_true] at hrun
      split_ifs at hrun with hmet
      · exact .inr (.inr ⟨rfl, hmet, hrun⟩)
      · exact .inr (.inl ⟨rfl, hmet, hrun⟩)

/-! ## Flags made of prerequisites -/

/-- A flag that serves `true` if the flags under some keys serve their first variations. -/
def requiring (key : String) (required : List String) : Flag :=
  { key, version := 1, on := true, targets := [], contextTargets := [], rules := [],
    prerequisites := required.map (⟨·, 0⟩), fallthrough := .variation 0, offVariation := none,
    variations := [.bool true], clientSide := false, clientSideAvailability := none, salt := "",
    trackEvents := false, trackEventsFallthrough := false, debugEventsUntilDate := none,
    samplingRatio := none, excludeFromSummaries := false, migration := none, deleted := false }

end Flag

/-- A setting with flags under some keys and nothing else. -/
def Setting.ofFlags (flags : Entries Flag) : Setting :=
  ⟨⟨flags, []⟩, .single ⟨.user, "anna", none, false, [], []⟩, none⟩

end FeatureFlags
