import FeatureFlags.Proofs.Clause.Answers

/-!
# Negated clauses

Negation reverses the answer of a clause, but it is withheld where there is nothing to compare and where
the check of a segment fails. So a clause and its reverse are checked in the same way, and they give
opposite answers exactly if there is an answer to be reversed (`negation_flips`).
-/

namespace FeatureFlags

namespace Clause

variable {c : Clause} {context : Context}

/-- The clause that is negated if `c` is not, and the other way round. -/
def flipped (c : Clause) : Clause := { c with negate := !c.negate }

/-- Flipping the negation flips the answer. -/
lemma maybeNegate_flipped (c : Clause) (answer : Bool) :
    c.flipped.maybeNegate answer = !c.maybeNegate answer := by
  unfold maybeNegate flipped
  cases c.negate <;> simp

/-- Whether there is something to compare has nothing to do with negation. -/
lemma incomparable_flipped : c.flipped.Incomparable context ↔ c.Incomparable context := Iff.rfl

/-- Where there is something to compare, the flipped clause says the opposite. -/
lemma holds_flipped (h : ¬c.Incomparable context) : c.flipped.holds context = !c.holds context := by
  have hflipped : ¬c.flipped.Incomparable context := fun h' => h (incomparable_flipped.mp h')
  rw [holds_of_comparable h, holds_of_comparable hflipped, maybeNegate_flipped]
  rfl

/-- A clause and its reverse check the same segments, and what they find in them is reversed. -/
lemma run_matchesSegments_flipped (c : Clause) (nested : SegmentCheck) (setting : Setting)
    (values : List AttributeValue) (s : EvaluationState) :
    (c.flipped.matchesSegments nested setting values).run.run s =
      (((c.matchesSegments nested setting values).run.run s).1.map (!·),
        ((c.matchesSegments nested setting values).run.run s).2) := by
  induction values generalizing s with
  | nil =>
    show (Except.ok (c.flipped.maybeNegate false), s) = _
    rw [maybeNegate_flipped]
    rfl
  -- only an answer is flipped: what is nested is asked for in the same way, and errors stay
  | cons v rest ih =>
    cases hinner : s.segmentFor? setting v with
    | none =>
      rw [run_matchesSegments_of_none _ _ rest hinner, run_matchesSegments_of_none _ _ rest hinner]
      exact ih s
    | some named =>
      obtain ⟨key, inner⟩ := named
      rw [run_matchesSegments_of_some _ _ rest hinner, run_matchesSegments_of_some _ _ rest hinner]
      rcases (insideSegment key (nested inner)).run.run s with ⟨e | _ | _, s'⟩
      · rfl
      · exact ih s'
      · dsimp only
        rw [maybeNegate_flipped]
        rfl

/-- Two clauses give opposite answers. -/
def AnswerOppositely (c d : Clause) (setting : Setting) (s : EvaluationState) : Prop :=
  ∃ b, c.answer setting s = .ok b ∧ d.answer setting s = .ok (!b)

section Answers

variable (setting : Setting) (s : EvaluationState)

/-- Clauses about segments fail together or answer oppositely. -/
lemma answers_of_segmentMatch (hop : c.op = .segmentMatch) :
    (∃ e, c.answer setting s = .error e ∧ c.flipped.answer setting s = .error e) ∨
      c.AnswerOppositely c.flipped setting s := by
  have hflipped : c.flipped.answer setting s = (c.answer setting s).map (!·) := by
    rw [answer, answer, check_eq, check_eq, checkWith, checkWith, if_pos hop,
      if_pos (show c.flipped.op = .segmentMatch from hop)]
    exact congrArg Prod.fst (c.run_matchesSegments_flipped _ setting c.values s)
  cases hanswer : c.answer setting s with
  | error e =>
    rw [hanswer] at hflipped
    exact .inl ⟨e, rfl, hflipped⟩
  | ok b =>
    rw [hanswer] at hflipped
    exact .inr ⟨b, hanswer, hflipped⟩

/-- With nothing to compare both clauses say no. -/
lemma answers_of_incomparable (hop : c.op ≠ .segmentMatch) (h : c.Incomparable setting.context) :
    c.answer setting s = .ok false ∧ c.flipped.answer setting s = .ok false := by
  have hop' : c.flipped.op ≠ .segmentMatch := hop
  rw [answer_of_ne hop, answer_of_ne hop', holds_of_incomparable h,
    holds_of_incomparable (incomparable_flipped.mpr h)]
  exact ⟨rfl, rfl⟩

/-- With something to compare both clauses answer, and oppositely. -/
lemma answers_of_comparable (hop : c.op ≠ .segmentMatch) (h : ¬c.Incomparable setting.context) :
    c.AnswerOppositely c.flipped setting s := by
  have hop' : c.flipped.op ≠ .segmentMatch := hop
  refine ⟨c.holds setting.context, answer_of_ne hop setting s, ?_⟩
  rw [answer_of_ne hop', holds_flipped h]

end Answers
end Clause

/-- A clause and its reverse never both match. If they ask for segments, both fail with the same error or
exactly one of them matches. If they do not, exactly one of them matches as long as there is something to
compare, and otherwise neither does. -/
theorem negation_flips (c : Clause) (setting : Setting) (s : EvaluationState) :
    ¬(c.answer setting s = .ok true ∧ c.flipped.answer setting s = .ok true) ∧
    (c.op ≠ .segmentMatch →
      (c.Incomparable setting.context →
        c.answer setting s = .ok false ∧ c.flipped.answer setting s = .ok false) ∧
      (¬c.Incomparable setting.context → c.AnswerOppositely c.flipped setting s)) ∧
    (c.op = .segmentMatch →
      (∃ e, c.answer setting s = .error e ∧ c.flipped.answer setting s = .error e) ∨
        c.AnswerOppositely c.flipped setting s) := by
  have hincomparable := c.answers_of_incomparable setting s
  have hcomparable := c.answers_of_comparable setting s
  have hsegments := c.answers_of_segmentMatch setting s
  refine ⟨?_, fun hop => ⟨hincomparable hop, hcomparable hop⟩, hsegments⟩
  -- in none of the cases there are two answers that say yes
  intro ⟨hanswer, hflipped⟩
  have hopposite : ¬c.AnswerOppositely c.flipped setting s := by
    intro ⟨b, hb, hb'⟩
    rw [hanswer] at hb
    rw [hflipped] at hb'
    cases hb
    cases hb'
  by_cases hop : c.op = .segmentMatch
  · rcases hsegments hop with ⟨e, he, -⟩ | h
    · rw [hanswer] at he
      cases he
    · exact hopposite h
  · by_cases h : c.Incomparable setting.context
    · have hfalse := (hincomparable hop h).1
      rw [hanswer] at hfalse
      cases hfalse
    · exact hopposite (hcomparable hop h)

/-! ## Nested arrays -/

/-- A clause that asks whether the attribute `tags` of a user is or has the text `beta`. -/
def Clause.tagged : Clause := ⟨none, .literal "tags", false, .isIn, [.string "beta"]⟩

/-- A setting whose context is a user with these tags. -/
def Setting.withTags (tags : List AttributeValue) : Setting :=
  ⟨.empty, .single ⟨.user, "anna", none, false, [("tags", .array tags)], []⟩, none⟩

/-- A nested array is in the way only if no element that matches comes before it. -/
theorem negation_flips_nested :
    Clause.tagged.AnswerOppositely Clause.tagged.flipped (.withTags [.string "beta", .array []])
      .initial ∧
    Clause.tagged.answer (.withTags [.array [], .string "beta"]) .initial = .ok false ∧
    Clause.tagged.flipped.answer (.withTags [.array [], .string "beta"]) .initial = .ok false := by
  obtain ⟨-, hanswers, -⟩ :=
    negation_flips .tagged (.withTags [.string "beta", .array []]) .initial
  obtain ⟨-, hnested, -⟩ :=
    negation_flips .tagged (.withTags [.array [], .string "beta"]) .initial
  have hmatch : Clause.tagged.matchesAny (.string "beta") = true := rfl
  refine ⟨(hanswers nofun).2 ?_, (hnested nofun).1 ?_⟩
  · rintro (hinvalid | ⟨-, hobstructed⟩)
    · cases hinvalid
    · rcases Clause.obstructed_cons_iff.mp hobstructed with hscalar | ⟨hunmatched, -⟩
      · cases hscalar
      · rw [hmatch] at hunmatched
        cases hunmatched
  · exact .inr ⟨rfl, [], .array [], [.string "beta"], rfl, rfl, nofun⟩

end FeatureFlags
