import FeatureFlags.Proofs.Clause.Answers

/-!
# The entities that a clause sees

A clause about an attribute sees one entity of the context at most, the one of its kind: whatever else is
part of the context makes no difference. A clause about the kind sees all entities, and of each of them the
kind only. It holds if it holds for one of them alone, or if it is negated, for each of them
(`sees_named_entity_only`).
-/

namespace FeatureFlags

namespace Context

variable {context : Context} {kind : Kind} {e : Entity}

/-- The entities of a kind. A context that was built has one of them at most. -/
def entitiesOf (context : Context) (kind : Kind) : List Entity :=
  context.entities.filter (·.kind == kind)

/-- The entity of a kind is the first one of this kind. -/
lemma entity?_eq_head? (context : Context) (kind : Kind) :
    context.entity? kind = (context.entitiesOf kind).head? :=
  List.head?_filter.symm

/-- The entity of a kind is the entity of this kind also if it stands alone. -/
lemma entity?_single (h : context.entity? kind = some e) : (single e).entity? kind = some e := by
  show [e].find? (·.kind == kind) = some e
  simp [kind_of_entity? h]

end Context

namespace Clause

variable {c : Clause} {context other : Context}

/-! ## Clauses about an attribute -/

/-- What a clause sees of a context is the entity of its kind. -/
lemma holds_congr (hkind : c.reference.isKind = false)
    (h : context.entity? c.kind = other.entity? c.kind) : c.holds context = c.holds other := by
  unfold holds
  rw [hkind, h]
  simp only [Bool.false_eq_true, if_false]

/-- Without an entity of its kind a clause does not hold, negated or not. -/
lemma holds_of_no_entity (hkind : c.reference.isKind = false) (h : context.entity? c.kind = none) :
    c.holds context = false := by
  unfold holds
  rw [hkind, h]
  simp

/-! ## Clauses about the kind -/

/-- The reference to the kind is a valid one. -/
lemma isValid_of_isKind {r : Reference} (h : r.isKind = true) : r.isValid = true := by
  have hcomponents : r.components = ["kind"] := eq_of_beq h
  unfold Reference.components at hcomponents
  unfold Reference.isValid Reference.error?
  cases hform : r.form <;> simp [hform] at hcomponents ⊢

/-- A clause about the kind asks each entity for its kind. -/
lemma holds_of_isKind (hkind : c.reference.isKind = true) (context : Context) :
    c.holds context =
      c.maybeNegate (context.entities.any fun e => c.matchesAny (.string e.kind.name)) := by
  unfold holds Context.kinds
  rw [isValid_of_isKind hkind, hkind, List.any_map]
  rfl

/-- A clause about the kind compares the name of the kind. -/
lemma holds_single_of_isKind (hkind : c.reference.isKind = true) (e : Entity) :
    c.holds (.single e) = c.maybeNegate (c.matchesAny (.string e.kind.name)) := by
  rw [holds_of_isKind hkind, Context.entities, List.any_cons, List.any_nil, Bool.or_false]

/-- A clause about the kind holds if it does of some member. -/
lemma holds_iff_exists (hkind : c.reference.isKind = true) (hplain : c.negate = false) :
    c.holds context = true ↔ ∃ e ∈ context.entities, c.holds (.single e) = true := by
  simp [holds_of_isKind hkind context, holds_single_of_isKind hkind, maybeNegate, hplain]

/-- A negated clause about the kind holds if it does of every member. -/
lemma holds_iff_forall (hkind : c.reference.isKind = true) (hnegated : c.negate = true) :
    c.holds context = true ↔ ∀ e ∈ context.entities, c.holds (.single e) = true := by
  simp [holds_of_isKind hkind context, holds_single_of_isKind hkind, maybeNegate, hnegated]

/-! ## Answers for different contexts -/

/-- What a clause answers for a context in a setting that is otherwise the same. -/
def answerFor (c : Clause) (setting : Setting) (s : EvaluationState) (context : Context) :
    Except EvaluationError Bool :=
  c.answer { setting with context } s

/-- Clauses that are not about segments always answer. -/
lemma answerFor_of_ne (hop : c.op ≠ .segmentMatch) (setting : Setting) (s : EvaluationState)
    (context : Context) : c.answerFor setting s context = .ok (c.holds context) :=
  answer_of_ne hop _ s

/-- Clauses that are not about segments answer whether they hold. -/
lemma answerFor_eq_true_iff (hop : c.op ≠ .segmentMatch) (setting : Setting) (s : EvaluationState)
    (context : Context) : c.answerFor setting s context = .ok true ↔ c.holds context = true := by
  rw [answerFor_of_ne hop, Except.ok.injEq]

end Clause

/-- A clause that asks neither for segments nor for the kind answers as it does for the entity of its kind
alone, with no if there is none, and so the same for all contexts that differ in other entities only. A
clause that asks for the kind holds for a context if it holds for one of its entities alone, and a negated
one if it holds for each of them alone. -/
theorem sees_named_entity_only (c : Clause) (hop : c.op ≠ .segmentMatch) (setting : Setting)
    (s : EvaluationState) (context : Context) :
    (c.reference.isKind = false →
      (∀ e, context.entity? c.kind = some e →
        c.answerFor setting s context = c.answerFor setting s (.single e)) ∧
      (context.entity? c.kind = none → c.answerFor setting s context = .ok false) ∧
      ∀ other : Context, other.entitiesOf c.kind = context.entitiesOf c.kind →
        c.answerFor setting s other = c.answerFor setting s context) ∧
    (c.reference.isKind = true →
      (c.negate = false →
        (c.answerFor setting s context = .ok true ↔
          ∃ e ∈ context.entities, c.answerFor setting s (.single e) = .ok true)) ∧
      (c.negate = true →
        (c.answerFor setting s context = .ok true ↔
          ∀ e ∈ context.entities, c.answerFor setting s (.single e) = .ok true))) := by
  refine ⟨fun hkind => ⟨fun e he => ?_, fun hnone => ?_, fun other hother => ?_⟩,
    fun hkind => ⟨fun hplain => ?_, fun hnegated => ?_⟩⟩
  -- a clause that is not about the kind sees the entity of its own kind
  · have hholds := Clause.holds_congr hkind (he.trans (Context.entity?_single he).symm)
    rw [Clause.answerFor_of_ne hop, Clause.answerFor_of_ne hop, hholds]
  · rw [Clause.answerFor_of_ne hop, Clause.holds_of_no_entity hkind hnone]
  · have hentity : other.entity? c.kind = context.entity? c.kind := by
      rw [Context.entity?_eq_head?, Context.entity?_eq_head?, hother]
    rw [Clause.answerFor_of_ne hop, Clause.answerFor_of_ne hop, Clause.holds_congr hkind hentity]
  -- a clause about the kind sees all entities, and negation turns some into every
  · simp only [Clause.answerFor_eq_true_iff hop]
    exact Clause.holds_iff_exists hkind hplain
  · simp only [Clause.answerFor_eq_true_iff hop]
    exact Clause.holds_iff_forall hkind hnegated

/-! ## A user and devices -/

/-- An entity of another kind than `user`. -/
def Entity.device (key : String) : Entity := ⟨⟨"device"⟩, key, some "Anna", true, [], []⟩

/-- A user, who may be using devices. -/
def Context.userWith (devices : List Entity) : Context :=
  .multi (⟨.user, "anna", some "Anna", false, [], []⟩ :: devices)

/-- A clause that asks for the name of users. -/
def Clause.namedAnna : Clause := ⟨none, .literal "name", false, .isIn, [.string "Anna"]⟩

/-- A clause that asks whether no entity is a device. -/
def Clause.noDevice : Clause := ⟨none, .literal "kind", true, .isIn, [.string "device"]⟩

/-- A clause about the name of users does not see a device of the same name. A negated clause about the kind
holds for the user alone, and fails because of the device. -/
theorem sees_named_entity_only_devices :
    let setting : Setting := ⟨.empty, .userWith [], none⟩
    Clause.namedAnna.op ≠ .segmentMatch ∧ Clause.noDevice.op ≠ .segmentMatch ∧
    Clause.namedAnna.answerFor setting .initial (.userWith [.device "tablet"]) =
      Clause.namedAnna.answerFor setting .initial (.userWith []) ∧
    Clause.noDevice.answerFor setting .initial (.userWith []) = .ok true ∧
    Clause.noDevice.answerFor setting .initial (.userWith [.device "tablet"]) ≠ .ok true := by
  intro setting
  refine ⟨nofun, nofun, ?_, ?_, ?_⟩
  · have hname := sees_named_entity_only .namedAnna nofun setting .initial (.userWith [])
    exact (hname.1 rfl).2.2 (.userWith [.device "tablet"]) rfl
  · have hkind := sees_named_entity_only .noDevice nofun setting .initial (.userWith [])
    apply ((hkind.2 rfl).2 rfl).mpr
    intro e he
    rw [List.mem_singleton.mp he]
    rfl
  · have hkind := sees_named_entity_only .noDevice nofun setting .initial (.userWith [.device "tablet"])
    intro hholds
    have hall := ((hkind.2 rfl).2 rfl).mp hholds
    have hdevice := hall (.device "tablet") (List.mem_cons_of_mem _ List.mem_cons_self)
    cases hdevice

end FeatureFlags
