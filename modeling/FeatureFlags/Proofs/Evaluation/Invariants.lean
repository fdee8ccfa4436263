import FeatureFlags.Proofs.Evaluation.Nesting

/-!
# What checks keep

`Check.Keeps I E a` says that `a` keeps `I` as long as it does not fail, and that a failure leaves a state
that satisfies `E` of its error behind. What a failed check has done may matter to those who go on after
it, so `E` need not be a special case of `I`.

A `CheckInvariant` is an `I` with an `E` that the primitives of a check keep. Clauses, rules and segments
are followed once for all of them (`Segment.contains_keeps`, `FlagRule.check_keeps`), and so is the choice
among the rules of a flag (`Flag.decide_keeps`).
-/

namespace FeatureFlags

variable {α β : Type} {I : EvaluationState → Prop} {E : EvaluationError → EvaluationState → Prop}

/-- A check that keeps `I` unless it fails, and then leaves a state behind that satisfies `E` of the error. -/
def Check.Keeps (I : EvaluationState → Prop) (E : EvaluationError → EvaluationState → Prop)
    (a : Check α) : Prop :=
  ∀ s, I s → match a.run.run s with
    | (.ok _, s') => I s'
    | (.error e, s') => E e s'

namespace Check.Keeps

lemma pure (a : α) : Check.Keeps I E (Pure.pure a) := fun _ hs => hs

/-- An invariant survives the two halves of a check: if the first fails it has left `E`, and otherwise the
second starts from `I` again. -/
lemma bind {a : Check α} {f : α → Check β} (ha : Check.Keeps I E a)
    (hf : ∀ x, Check.Keeps I E (f x)) : Check.Keeps I E (a >>= f) := by
  intro s hs
  rw [Check.run_bind]
  have h := ha s hs
  rcases houtcome : a.run.run s with ⟨e | x, s'⟩
  · rw [houtcome] at h
    exact h
  · rw [houtcome] at h
    exact hf x s' h

end Check.Keeps

/-- An invariant of checks and what holds after a failed one. -/
structure CheckInvariant (setting : Setting) (I : EvaluationState → Prop)
    (E : EvaluationError → EvaluationState → Prop) : Prop where
  enterSegment : ∀ s key, I s → I (s.enterSegment key)
  leaveSegment : ∀ s key, I s → I (s.leaveSegment key)
  leaveSegment_error : ∀ e s key, E e s → E e (s.leaveSegment key)
  /-- A rule of a segment that cannot be bucketed fails without any trace. -/
  malformed : ∀ s, I s → E .malformedFlag s
  /-- Big segments that were never exported are unavailable. -/
  notExported : ∀ s, I s → E .bigSegmentsUnavailable (s.found .notConfigured)
  membershipOf : ∀ contextKey, Check.Keeps I E (membershipOf setting contextKey)

variable {setting : Setting} {nested : SegmentCheck}

/-- An invariant is kept inside of a segment, since it is kept on the way in and on the way out. -/
lemma Check.Keeps.insideSegment (hI : CheckInvariant setting I E) (key : String) {a : Check α}
    (ha : Check.Keeps I E a) : Check.Keeps I E (insideSegment key a) := by
  intro s hs
  rw [run_insideSegment]
  have h := ha _ (hI.enterSegment s key hs)
  rcases houtcome : a.run.run (s.enterSegment key) with ⟨e | x, s'⟩
  · rw [houtcome] at h
    exact hI.leaveSegment_error e s' key h
  · rw [houtcome] at h
    exact hI.leaveSegment s' key h

/-! ## Clauses, rules and segments -/

/-- Looking the values of a clause up as segment keys keeps every invariant that the segments found keep. -/
lemma Clause.matchesSegments_keeps (hI : CheckInvariant setting I E)
    (hn : ∀ segment, Check.Keeps I E (nested segment)) (c : Clause) (values : List AttributeValue) :
    Check.Keeps I E (c.matchesSegments nested setting values) := by
  induction values with
  | nil => exact .pure _
  | cons v rest ih =>
    intro s hs
    rw [run_matchesSegments_cons]
    -- a value that names no segment, or one that is not gone into, leaves the state alone
    cases v.string? with
    | none => exact ih s hs
    | some key =>
      dsimp only
      split_ifs with hskip
      · exact ih s hs
      · cases setting.catalog.segment? key with
        | none => exact ih s hs
        | some segment =>
          have h := (hn segment).insideSegment hI key s hs
          dsimp only
          rcases houtcome : (insideSegment key (nested segment)).run.run s with ⟨e | _ | _, s'⟩
          · rw [houtcome] at h
            exact h
          · rw [houtcome] at h
            exact ih s' h
          · rw [houtcome] at h
            exact h

/-- A clause only changes the state through the segments it names. -/
lemma Clause.checkWith_keeps (hI : CheckInvariant setting I E)
    (hn : ∀ segment, Check.Keeps I E (nested segment)) (c : Clause) :
    Check.Keeps I E (c.checkWith nested setting) := by
  rw [Clause.checkWith]
  split_ifs
  · exact c.matchesSegments_keeps hI hn c.values
  · exact .pure _

/-- The clauses of one rule are checked in turn, up to the first that fails or does not match. -/
lemma checkClauses_keeps (hI : CheckInvariant setting I E)
    (hn : ∀ segment, Check.Keeps I E (nested segment)) (clauses : List Clause) :
    Check.Keeps I E (checkClauses nested setting clauses) := by
  induction clauses with
  | nil => exact .pure _
  | cons c rest ih =>
    rw [checkClauses]
    refine (c.checkWith_keeps hI hn).bind fun holds => ?_
    cases holds with
    | false => exact .pure _
    | true => exact ih

/-- Whether a rule admits a context fails in one way only. -/
lemma SegmentRule.eq_malformed_of_admits {r : SegmentRule} {key salt : String} {context : Context}
    {e : EvaluationError} (h : r.admits key salt context = .error e) : e = .malformedFlag := by
  rw [SegmentRule.admits] at h
  split at h
  · cases h
  · split_ifs at h
    split at h
    · cases h
    · cases h
      rfl

/-- A rule of a segment keeps an invariant that its clauses keep: the bucket of its weight is pure. -/
lemma SegmentRule.checkWith_keeps (hI : CheckInvariant setting I E)
    (hn : ∀ segment, Check.Keeps I E (nested segment)) (r : SegmentRule) (key salt : String) :
    Check.Keeps I E (r.checkWith nested setting key salt) := by
  rw [SegmentRule.checkWith]
  refine (checkClauses_keeps hI hn r.clauses).bind fun hold => ?_
  cases hold with
  | false => exact .pure _
  | true =>
    intro s hs
    cases hadmits : r.admits key salt setting.context with
    | ok _ => exact hs
    | error e =>
      obtain rfl := eq_malformed_of_admits hadmits
      exact hI.malformed s hs

namespace Segment

/-- The rules of a segment are tried in turn, up to the first that matches. -/
lemma checkRules_keeps (hI : CheckInvariant setting I E)
    (hn : ∀ segment, Check.Keeps I E (nested segment)) (segment : Segment) (rules : List SegmentRule) :
    Check.Keeps I E (segment.checkRules nested setting rules) := by
  induction rules with
  | nil => exact .pure _
  | cons r rest ih =>
    rw [checkRules]
    refine (r.checkWith_keeps hI hn segment.key segment.salt).bind fun matched => ?_
    cases matched with
    | false => exact ih
    | true => exact .pure _

/-- Membership of an unbounded segment is one query, which is the field `query` of the invariant. -/
lemma containsUnbounded_keeps (hI : CheckInvariant setting I E) (segment : Segment) :
    Check.Keeps I E (segment.containsUnbounded setting) := by
  rw [containsUnbounded]
  cases segment.generation with
  | none => exact hI.notExported
  | some _ =>
    dsimp only
    cases setting.context.entity? (segment.unboundedContextKind.getD .user) with
    | none => exact .pure _
    | some e => exact (hI.membershipOf e.key).bind fun _ => .pure _

/-- Membership of a segment keeps an invariant that membership of the nested segments keeps. -/
lemma containsWith_keeps (hI : CheckInvariant setting I E)
    (hn : ∀ segment, Check.Keeps I E (nested segment)) (segment : Segment) :
    Check.Keeps I E (segment.containsWith nested setting) := by
  rw [containsWith]
  split_ifs
  · exact containsUnbounded_keeps hI segment
  · exact .pure _
  · exact .pure _
  · exact checkRules_keeps hI hn segment segment.rules

/-- By induction on the depth: the nested segments of depth `depth + 1` are those of `depth`. -/
lemma containsAt_keeps (hI : CheckInvariant setting I E) (depth : Nat) (segment : Segment) :
    Check.Keeps I E (containsAt setting depth segment) := by
  induction depth generalizing segment with
  | zero => exact containsWith_keeps hI (fun _ => .pure _) segment
  | succ depth ih => exact containsWith_keeps hI ih segment

/-- Whether a segment holds the context keeps every `CheckInvariant`, without a bound on the nesting. -/
theorem contains_keeps (hI : CheckInvariant setting I E) (segment : Segment) :
    Check.Keeps I E (segment.contains setting) := by
  intro s hs
  rw [run_contains]
  exact containsAt_keeps hI _ segment s hs

end Segment

/-! ## Rules of flags -/

/-- The conditions of a flag's rule keep what the membership of the segments keeps. -/
theorem FlagRule.check_keeps (hI : CheckInvariant setting I E) (r : FlagRule) :
    Check.Keeps I E (r.check setting) := by
  rw [FlagRule.check_eq]
  exact checkClauses_keeps hI (Segment.contains_keeps hI) r.clauses

namespace Flag

variable {f : Flag} {s : EvaluationState} {reason : Reason}

/-- What is served has the reason it is served with, or there is no such variation. -/
lemma serve_reason (f : Flag) (index : Nat) (reason : Reason) :
    (f.serve index reason).reason = reason ∨ (f.serve index reason).reason = .error .malformedFlag := by
  rw [serve]
  cases f.variations[index]? with
  | none => exact .inr rfl
  | some value => exact .inl rfl

/-- Serving a variation never blames the big segment store of its own accord. -/
lemma serve_reason_ne (f : Flag) (index : Nat) (h : reason ≠ .error .bigSegmentsUnavailable) :
    (f.serve index reason).reason ≠ .error .bigSegmentsUnavailable := by
  rcases f.serve_reason index reason with heq | heq <;> rw [heq]
  · exact h
  · exact nofun

lemma serveOff_reason_ne (f : Flag) (h : reason ≠ .error .bigSegmentsUnavailable) :
    (f.serveOff reason).reason ≠ .error .bigSegmentsUnavailable := by
  rw [serveOff]
  cases f.offVariation with
  | none => exact h
  | some index => exact f.serve_reason_ne index h

lemma serveOutcome_reason_ne (f : Flag) {reasonFor : Bool → Reason} (outcome : Outcome) (context : Context)
    (h : ∀ b, reasonFor b ≠ .error .bigSegmentsUnavailable) :
    (f.serveOutcome outcome context reasonFor).reason ≠ .error .bigSegmentsUnavailable := by
  rw [serveOutcome]
  cases hchoice : f.choose outcome context with
  | ok choice => exact f.serve_reason_ne _ (h _)
  | error e =>
    rw [choose] at hchoice
    split at hchoice <;> cases hchoice <;> exact nofun

/-- Either a rule fails, and this is the result, or the invariant is kept and big segments are not the
reason of the result. -/
lemma decideByRules_keeps (hI : CheckInvariant setting I E) (rules : List (FlagRule × Nat))
    (hs : I s) :
    (∃ e, ((f.decideByRules setting rules).run s).1 = Detail.error e ∧
      E e ((f.decideByRules setting rules).run s).2) ∨
    (I ((f.decideByRules setting rules).run s).2 ∧
      ((f.decideByRules setting rules).run s).1.reason ≠ .error .bigSegmentsUnavailable) := by
  induction rules generalizing s with
  | nil => exact .inr ⟨hs, f.serveOutcome_reason_ne _ _ fun _ => nofun⟩
  -- a rule that fails ends the evaluation with its error, and one that does not match hands its state on
  | cons entry rest ih =>
    obtain ⟨rule, index⟩ := entry
    rw [run_decideByRules_cons]
    have h := rule.check_keeps hI s hs
    rcases houtcome : (rule.check setting).run.run s with ⟨e | _ | _, s'⟩
    · rw [houtcome] at h
      exact .inl ⟨e, rfl, h⟩
    · rw [houtcome] at h
      exact ih h
    · rw [houtcome] at h
      exact .inr ⟨h, f.serveOutcome_reason_ne _ _ fun _ => nofun⟩

/-- Deciding a flag whose prerequisites hold keeps the invariant, or ends with the error that broke it; only
in the second case can the reason say that the store did not answer. -/
theorem decide_keeps (hI : CheckInvariant setting I E) (f : Flag) (hs : I s) :
    (∃ e, ((f.decide setting).run s).1 = Detail.error e ∧ E e ((f.decide setting).run s).2) ∨
    (I ((f.decide setting).run s).2 ∧
      ((f.decide setting).run s).1.reason ≠ .error .bigSegmentsUnavailable) := by
  rw [decide]
  cases f.targetVariation? setting.context with
  | some index =>
    refine .inr ⟨hs, f.serve_reason_ne index ?_⟩
    intro htarget
    cases htarget
  | none => exact f.decideByRules_keeps hI _ hs

end Flag

end FeatureFlags
