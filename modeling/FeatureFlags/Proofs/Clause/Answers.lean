import FeatureFlags.Proofs.Evaluation.Checks

/-!
# What clauses answer

A clause that does not ask for segments compares values of the context with its own values. Where there is
nothing that it could compare (`Clause.Incomparable`) it does not hold, negated or not. Otherwise it holds
if one of the values of the context matches, or the other way round if it is negated.

* `Clause.holds_of_incomparable`, `Clause.holds_of_comparable`: these two cases.
* `Clause.answer_of_ne`: the check of such a clause is about nothing else.
-/

namespace FeatureFlags.Clause

variable {c : Clause} {context : Context}

/-! ## Arrays -/

/-- In an array, a nested array or object stands before all elements that match. -/
def Obstructed (c : Clause) (items : List AttributeValue) : Prop :=
  ∃ before a after, items = before ++ a :: after ∧ a.isScalar = false ∧
    ∀ b ∈ before, c.matchesAny b = false

/-- No elements are left to come upon a value that is no scalar. -/
lemma not_obstructed_nil : ¬c.Obstructed [] := by
  rintro ⟨before, a, after, hitems, -⟩
  simp at hitems

/-- The elements before the first one that is no scalar must not match. -/
lemma obstructed_cons_iff {a : AttributeValue} {rest : List AttributeValue} :
    c.Obstructed (a :: rest) ↔ a.isScalar = false ∨ c.matchesAny a = false ∧ c.Obstructed rest := by
  constructor
  · rintro ⟨before, b, after, hitems, hnested, hbefore⟩
    cases before with
    | nil =>
      obtain ⟨rfl, -⟩ := List.cons.inj hitems
      exact .inl hnested
    | cons first before =>
      obtain ⟨rfl, hrest⟩ := List.cons.inj hitems
      refine .inr ⟨hbefore a List.mem_cons_self, before, b, after, hrest, hnested, ?_⟩
      intro other hother
      exact hbefore other (List.mem_cons_of_mem _ hother)
  · rintro (hnested | ⟨hunmatched, before, b, after, rfl, hnested, hbefore⟩)
    · exact ⟨[], a, rest, rfl, hnested, fun _ h => absurd h List.not_mem_nil⟩
    · exact ⟨a :: before, b, after, rfl, hnested, List.forall_mem_cons.mpr ⟨hunmatched, hbefore⟩⟩

/-- An obstructed list matches nothing, negated or not. -/
lemma matchesElements_of_obstructed {items : List AttributeValue} (h : c.Obstructed items) :
    c.matchesElements items = false := by
  induction items with
  | nil => exact absurd h not_obstructed_nil
  | cons a rest ih =>
    rw [matchesElements]
    rcases obstructed_cons_iff.mp h with hnested | ⟨hunmatched, hrest⟩
    · simp [hnested]
    · simp [hunmatched, ih hrest]

/-- If nothing is in the way, the elements of an array are compared until one matches. -/
lemma matchesElements_of_not_obstructed {items : List AttributeValue} (h : ¬c.Obstructed items) :
    c.matchesElements items = c.maybeNegate (items.any c.matchesAny) := by
  induction items with
  | nil => rfl
  | cons a rest ih =>
    rw [obstructed_cons_iff, not_or, Bool.not_eq_false] at h
    rw [matchesElements, List.any_cons]
    cases hmatched : c.matchesAny a with
    | true => simp [h.1]
    | false =>
      have hrest : ¬c.Obstructed rest := fun hrest => h.2 ⟨hmatched, hrest⟩
      simp [h.1, ih hrest]

/-! ## Values of an attribute -/

/-- The value of the attribute of the entity that a clause is about. There is none if the context has no
such entity, or the entity no such attribute. -/
def value? (c : Clause) (context : Context) : Option AttributeValue :=
  (context.entity? c.kind).bind (·.value? c.reference)

/-- A clause can compare nothing with a missing value, with null, with an object, and with an array that has
a nested array or object before all elements that match. -/
def Unusable (c : Clause) : Option AttributeValue → Prop
  | none | some .null | some (.object _) => True
  | some (.array items) => c.Obstructed items
  | some (.string _) | some (.number _) | some (.bool _) => False

/-- The values that stand for the value of an attribute: the elements of an array, or the value itself. -/
def elementsOf : Option AttributeValue → List AttributeValue
  | none => []
  | some (.array items) => items
  | some a => [a]

/-- A value that cannot be compared matches nothing, negated or not. -/
lemma matchesValue_of_unusable {value : Option AttributeValue} (h : c.Unusable value) :
    c.matchesValue value = false := by
  match value, h with
  | none, _ | some .null, _ | some (.object _), _ => rfl
  | some (.array _), h => exact matchesElements_of_obstructed h

/-- Any other value is compared by its elements. -/
lemma matchesValue_of_usable {value : Option AttributeValue} (h : ¬c.Unusable value) :
    c.matchesValue value = c.maybeNegate ((elementsOf value).any c.matchesAny) := by
  match value, h with
  | none, h | some .null, h | some (.object _), h => exact absurd trivial h
  | some (.array _), h => exact matchesElements_of_not_obstructed h
  | some (.string _), _ | some (.number _), _ | some (.bool _), _ =>
    simp [matchesValue, elementsOf]

/-! ## Contexts -/

/-- There is nothing that a clause could compare: its reference is invalid, or it is about another attribute
than the kind, and the value of this attribute is of no use. -/
def Incomparable (c : Clause) (context : Context) : Prop :=
  c.reference.isValid = false ∨ c.reference.isKind = false ∧ c.Unusable (c.value? context)

/-- The values of a context that a clause compares with its own values. -/
def compared (c : Clause) (context : Context) : List AttributeValue :=
  if c.reference.isKind then context.kinds.map fun k => .string k.name
  else elementsOf (c.value? context)

/-- A clause about another attribute than the kind is about the value of this attribute. -/
lemma holds_of_attribute (hvalid : c.reference.isValid = true) (hkind : c.reference.isKind = false) :
    c.holds context = c.matchesValue (c.value? context) := by
  unfold holds value?
  simp only [hvalid, hkind, Bool.not_true, Bool.false_eq_true, if_false]
  cases context.entity? c.kind <;> rfl

/-- A clause does not hold of a context that gives it nothing to compare. -/
theorem holds_of_incomparable (h : c.Incomparable context) : c.holds context = false := by
  cases hvalid : c.reference.isValid with
  | false => simp [holds, hvalid]
  | true =>
    rcases h with hinvalid | ⟨hkind, hunusable⟩
    · rw [hinvalid] at hvalid
      cases hvalid
    · rw [holds_of_attribute hvalid hkind, matchesValue_of_unusable hunusable]

/-- Any other context is compared by the values that it gives to the clause. -/
theorem holds_of_comparable (h : ¬c.Incomparable context) :
    c.holds context = c.maybeNegate ((c.compared context).any c.matchesAny) := by
  unfold Incomparable at h
  rw [not_or, Bool.not_eq_false] at h
  obtain ⟨hvalid, husable⟩ := h
  cases hkind : c.reference.isKind with
  | true => simp [holds, compared, hvalid, hkind, Function.comp_def]
  | false =>
    rw [holds_of_attribute hvalid hkind, compared, hkind]
    exact matchesValue_of_usable fun hunusable => husable ⟨hkind, hunusable⟩

/-! ## Checks -/

/-- What a clause answers when it is checked. -/
def answer (c : Clause) (setting : Setting) (s : EvaluationState) : Except EvaluationError Bool :=
  ((c.check setting).run.run s).1

/-- The answer of a clause that does not ask for segments is whether it holds. -/
theorem answer_of_ne (hop : c.op ≠ .segmentMatch) (setting : Setting) (s : EvaluationState) :
    c.answer setting s = .ok (c.holds setting.context) := by
  rw [answer, check_eq, checkWith, if_neg hop]
  rfl

end FeatureFlags.Clause
