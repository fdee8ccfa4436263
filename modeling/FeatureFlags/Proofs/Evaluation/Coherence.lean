import FeatureFlags.Proofs.Evaluation.Nesting

/-!
# Coherent results

Value, variation index and reason of a result belong together (`Detail.Coherent`). All results are made by
`Flag.serve`, `Flag.serveOff` and `Detail.error`, where an index that is out of range ends as an error. So
it is enough that a reason that is served with fits the flag (`Reason.Fits`), and that only reasons to
serve the off variation can come without a value.
-/

namespace FeatureFlags

/-- A reason that a flag can serve a value with: it speaks of a rule or of a prerequisite of the flag. -/
def Reason.Fits (f : Flag) : Reason → Prop
  | .ruleMatch index id _ => ∃ rule, f.rules[index]? = some rule ∧ rule.id = id
  | .prerequisiteFailed key => ∃ p ∈ f.prerequisites, p.key = key
  | .error _ => False
  | .off | .targetMatch | .fallthrough _ => True

/-- A reason to serve the off variation. -/
def Reason.ServesOff : Reason → Prop
  | .off | .prerequisiteFailed _ => True
  | _ => False

/-- Value, variation index and reason of a result belong together. -/
structure Detail.Coherent (f : Flag) (d : Detail) : Prop where
  /-- There is a value if and only if there is an index. -/
  present : d.value.isSome ↔ d.variationIndex.isSome
  /-- The index is in range, and the value is the variation at the index. -/
  inRange : ∀ i, d.variationIndex = some i →
    ∃ h : i < f.variations.length, d.value = some f.variations[i]
  /-- An error comes with nothing else, and is one of two. -/
  error : ∀ e, d.reason = .error e → d.value = none ∧ d.variationIndex = none ∧
    (e = .malformedFlag ∨ e = .bigSegmentsUnavailable)
  /-- Other than with an error, a value is missing only where an off variation is to be served and there
  is none. -/
  missing : d.value = none → (∃ e, d.reason = .error e) ∨
    f.offVariation = none ∧ (d.reason = .off ∨ ∃ key, d.reason = .prerequisiteFailed key)
  /-- A rule that matched is one of the flag, at its index. -/
  ruleMatch : ∀ index id inExperiment, d.reason = .ruleMatch index id inExperiment →
    ∃ h : index < f.rules.length, f.rules[index].id = id
  /-- A prerequisite that failed is one of the flag. -/
  prerequisiteFailed : ∀ key, d.reason = .prerequisiteFailed key → ∃ p ∈ f.prerequisites, p.key = key
  /-- Targets, rules and the fallthrough always serve a value. -/
  served : (d.reason = .targetMatch ∨ (∃ index id b, d.reason = .ruleMatch index id b) ∨
    ∃ b, d.reason = .fallthrough b) → d.value.isSome

variable {f : Flag} {reason : Reason}

/-! ## What results are made of -/

/-- A detail with an error has no value and a reason that says which error it was. -/
lemma Detail.error_coherent {e : EvaluationError} (he : e.OfCheck) :
    (Detail.error e).Coherent f where
  present := .rfl
  inRange i hi := by cases hi
  error e' he' := by
    cases he'
    exact ⟨rfl, rfl, he⟩
  missing _ := .inl ⟨e, rfl⟩
  ruleMatch index id b h := by cases h
  prerequisiteFailed key h := by cases h
  served h := by
    rcases h with h | ⟨_, _, _, h⟩ | ⟨_, h⟩ <;> cases h

/-- A variation of the flag is served coherently with any reason that fits. -/
lemma Detail.variation_coherent {index : Nat} {value : FlagValue}
    (hvalue : f.variations[index]? = some value) (hfits : reason.Fits f) :
    Detail.Coherent f ⟨some value, some index, reason, none⟩ where
  present := .rfl
  inRange i hi := by
    cases hi
    obtain ⟨hindex, rfl⟩ := List.getElem?_eq_some_iff.mp hvalue
    exact ⟨hindex, rfl⟩
  error e he := by
    subst he
    cases hfits
  missing h := by cases h
  ruleMatch index id b h := by
    subst h
    obtain ⟨rule, hrule, hid⟩ := hfits
    obtain ⟨hindex, rfl⟩ := List.getElem?_eq_some_iff.mp hrule
    exact ⟨hindex, hid⟩
  prerequisiteFailed key h := by
    subst h
    exact hfits
  served _ := rfl

/-- A flag without an off variation has no value to serve. -/
lemma Detail.empty_coherent (hoff : f.offVariation = none) (hfits : reason.Fits f)
    (hserves : reason.ServesOff) : (Detail.empty reason).Coherent f where
  present := .rfl
  inRange i hi := by cases hi
  error e he := by
    subst he
    cases hserves
  -- nothing is served only where the off variation is missing
  missing _ := by
    refine .inr ⟨hoff, ?_⟩
    cases reason with
    | off => exact .inl rfl
    | prerequisiteFailed key => exact .inr ⟨key, rfl⟩
    | _ => cases hserves
  ruleMatch index id b h := by
    subst h
    cases hserves
  prerequisiteFailed key h := by
    subst h
    exact hfits
  served h := by
    rcases h with rfl | ⟨_, _, _, rfl⟩ | ⟨_, rfl⟩ <;> cases hserves

namespace Flag

/-- A variation that is served is one of the flag, or the flag is malformed. -/
lemma serve_coherent (index : Nat) (hfits : reason.Fits f) : (f.serve index reason).Coherent f := by
  rw [serve]
  cases hvalue : f.variations[index]? with
  | none => exact Detail.error_coherent (.inl rfl)
  | some value => exact Detail.variation_coherent hvalue hfits

/-- The off variation is one of the flag, or there is none. -/
lemma serveOff_coherent (hfits : reason.Fits f) (hserves : reason.ServesOff) :
    (f.serveOff reason).Coherent f := by
  rw [serveOff]
  cases hoff : f.offVariation with
  | none => exact Detail.empty_coherent hoff hfits hserves
  | some index => exact serve_coherent index hfits

/-- No variation can be chosen only for reasons that a check may give. -/
lemma choose_error {outcome : Outcome} {context : Context} {e : EvaluationError}
    (h : f.choose outcome context = .error e) : e.OfCheck := by
  rw [choose] at h
  split at h
  · cases h
  · cases h
    exact .inl rfl
  · cases h
    exact .inl rfl

/-- Whatever an outcome chooses is served coherently. -/
lemma serveOutcome_coherent {reasonFor : Bool → Reason} (outcome : Outcome) (context : Context)
    (hfits : ∀ b, (reasonFor b).Fits f) : (f.serveOutcome outcome context reasonFor).Coherent f := by
  rw [serveOutcome]
  cases hchoice : f.choose outcome context with
  | error e => exact Detail.error_coherent (choose_error hchoice)
  | ok choice => exact serve_coherent _ (hfits _)

/-! ## The parts of an evaluation -/

variable (setting : Setting)

/-- The rules that are looked at stand at their indices among the rules of the flag. -/
lemma decideByRules_coherent (rules : List (FlagRule × Nat)) (s : EvaluationState)
    (hrules : ∀ entry ∈ rules, f.rules[entry.2]? = some entry.1) :
    ((f.decideByRules setting rules).run s).1.Coherent f := by
  induction rules generalizing s with
  | nil => exact serveOutcome_coherent _ _ fun _ => trivial
  | cons entry rest ih =>
    obtain ⟨rule, index⟩ := entry
    rw [run_decideByRules_cons]
    have herror := (rule.check_framed setting).error s
    rcases houtcome : (rule.check setting).run.run s with ⟨e | _ | _, s'⟩
    · rw [houtcome] at herror
      exact Detail.error_coherent (herror e rfl)
    · exact ih s' fun entry hentry => hrules entry (List.mem_cons_of_mem _ hentry)
    · have hrule := hrules (rule, index) List.mem_cons_self
      exact serveOutcome_coherent _ _ fun _ => ⟨rule, hrule, rfl⟩

/-- Targets, rules and the fallthrough are coherent, whichever of them decides. -/
lemma decide_coherent (f : Flag) (s : EvaluationState) :
    ((f.decide setting).run s).1.Coherent f := by
  rw [decide]
  cases f.targetVariation? setting.context with
  | some index => exact serve_coherent index trivial
  | none =>
    -- the rules are numbered from the first one of the flag on
    refine f.decideByRules_coherent setting _ s fun entry hentry => ?_
    exact List.mem_zipIdx_iff_getElem?.mp hentry

/-- What prerequisites of the flag make of it. -/
lemma runPrerequisites_coherent {prerequisites : List Prerequisite} {s s' : EvaluationState}
    {failure : Detail} (hsubset : prerequisites ⊆ f.prerequisites)
    (h : f.runPrerequisites setting prerequisites s = (some failure, s')) : failure.Coherent f := by
  induction prerequisites generalizing s with
  | nil => cases h
  | cons p rest ih =>
    have hoff : (f.serveOff (.prerequisiteFailed p.key)).Coherent f :=
      serveOff_coherent ⟨p, hsubset List.mem_cons_self, rfl⟩ trivial
    rcases f.runPrerequisites_cons_cases setting p rest s with
      ⟨-, hrun⟩ | ⟨g, result, t, -, -, ⟨-, hrun⟩ | ⟨-, -, hrun⟩ | ⟨-, -, hrun⟩⟩
    · rw [hrun] at h
      cases h
      exact hoff
    · rw [hrun] at h
      cases h
      exact Detail.error_coherent (.inl rfl)
    · rw [hrun] at h
      cases h
      exact hoff
    · rw [hrun] at h
      -- this one is met, and one of the others says what the result is
      exact ih (List.Subset.trans (List.subset_cons_self p rest) hsubset) h

/-- A flag is coherent whether it is off, on a cycle, or has prerequisites that are not met. -/
lemma run_coherent (f : Flag) (s : EvaluationState) : (f.run setting s).1.Coherent f := by
  rcases f.run_cases setting s with ⟨-, hrun⟩ | ⟨-, -, hrun⟩ | ⟨-, -, failure, s', hchecked, hrun⟩ |
    ⟨-, -, s', -, hrun⟩
  · rw [hrun]
    exact serveOff_coherent trivial trivial
  · rw [hrun]
    exact Detail.error_coherent (.inl rfl)
  · rw [hrun]
    exact f.runPrerequisites_coherent setting (List.Subset.refl _) hchecked
  · rw [hrun]
    exact f.decide_coherent setting _

end Flag

/-- Every result of an evaluation is coherent. -/
theorem evaluate_coherent (f : Flag) (setting : Setting) : (f.evaluate setting).detail.Coherent f := by
  have h := f.run_coherent setting .initial
  exact ⟨h.present, h.inRange, h.error, h.missing, h.ruleMatch, h.prerequisiteFailed, h.served⟩

end FeatureFlags
