import FeatureFlags.Proofs.Clause.Prepared
import FeatureFlags.Proofs.Rollout.Choices
import FeatureFlags.Proofs.Segment.KeyLists
import Mathlib.Data.List.Forall2
import Mathlib.Data.Option.Basic

/-!
# The order of conditions

Clauses, the values of a clause, the rules of a segment and the keys that it lists can be written in any order.
Where no check can fail, a check does nothing but answer, and what it answers is a conjunction or a disjunction
of the answers of its parts (`checkClauses_settles`, `Segment.checkRules_settles`,
`Clause.matchesSegments_settles`). Segments may name each other in cycles; since every segment that is entered
takes room on the path, the answers of nested segments are there by induction on the room that is left
(`Setting.Reordered.contains_agree`).
-/

namespace FeatureFlags

/-! ## Reordered lists -/

/-- The items of one list correspond to those of the other one in some order. -/
def ReorderedBy {α : Type} (R : α → α → Prop) (l l' : List α) : Prop :=
  ∃ m, List.Forall₂ R l m ∧ m.Perm l'

namespace ReorderedBy

variable {α : Type} {R : α → α → Prop} {l l' : List α}

/-- A permutation is a new order in which nothing else is changed. -/
lemma of_perm (hR : ∀ a, R a a) (h : l.Perm l') : ReorderedBy R l l' :=
  ⟨l, List.forall₂_same.mpr fun a _ => hR a, h⟩

/-- If items that correspond get the same answer, the lists get the same answers in some order. -/
lemma exists_answers {P Q : α → Bool → Prop} (h : ReorderedBy R l l')
    (hR : ∀ a ∈ l, ∀ a', R a a' → ∃ b, P a b ∧ Q a' b) :
    ∃ bs bs', List.Forall₂ P l bs ∧ List.Forall₂ Q l' bs' ∧ bs.Perm bs' := by
  obtain ⟨m, hm, hperm⟩ := h
  obtain ⟨bs, hP, hQ⟩ : ∃ bs, List.Forall₂ P l bs ∧ List.Forall₂ Q m bs := by
    clear hperm
    induction hm with
    | nil => exact ⟨[], .nil, .nil⟩
    | cons hhead htail ih =>
      obtain ⟨b, hb, hb'⟩ := hR _ List.mem_cons_self _ hhead
      obtain ⟨bs, hP, hQ⟩ := ih fun a ha => hR a (List.mem_cons_of_mem _ ha)
      exact ⟨b :: bs, .cons hb hP, .cons hb' hQ⟩
  obtain ⟨bs', hQ', hbs⟩ := List.perm_comp_forall₂ hperm.symm hQ
  exact ⟨bs, bs', hP, hQ', hbs.symm⟩

/-- Whether some item passes a test depends on no order. -/
lemma any_eq {p p' : α → Bool} (h : ReorderedBy R l l') (hR : ∀ a a', R a a' → p a = p' a') :
    l.any p = l'.any p' := by
  obtain ⟨m, hm, hperm⟩ := h
  rw [← hperm.any_eq]
  clear hperm
  induction hm with
  | nil => rfl
  | cons hhead htail ih => rw [List.any_cons, List.any_cons, hR _ _ hhead, ih]

end ReorderedBy

/-! ## Clauses with their values in another order -/

/-- The keys of some values stand in the order of the values. -/
lemma mapM_scalarKey?_eq_some {values : List AttributeValue} {keys : List ScalarKey} :
    values.mapM AttributeValue.scalarKey? = some keys ↔
      List.Forall₂ (fun v key => v.scalarKey? = some key) values keys := by
  induction values generalizing keys with
  | nil =>
    rw [List.forall₂_nil_left_iff, List.mapM_nil]
    exact ⟨fun h => (Option.some.inj h).symm, fun h => congrArg some h.symm⟩
  | cons v rest ih =>
    rw [List.mapM_cons, List.forall₂_cons_left_iff]
    constructor
    · intro h
      obtain ⟨key, hkey, h⟩ := Option.bind_eq_some_iff.mp h
      obtain ⟨others, hothers, h⟩ := Option.bind_eq_some_iff.mp h
      cases h
      exact ⟨key, others, hkey, ih.mp hothers, rfl⟩
    · rintro ⟨key, others, hkey, hothers, rfl⟩
      rw [hkey, ih.mpr hothers]
      rfl

/-- If all of the values are scalar, their keys are reordered with them. -/
lemma exists_keys_of_perm {values values' : List AttributeValue} {keys : List ScalarKey}
    (h : values.Perm values') (hkeys : values.mapM AttributeValue.scalarKey? = some keys) :
    ∃ keys', values'.mapM AttributeValue.scalarKey? = some keys' ∧ keys'.Perm keys := by
  obtain ⟨keys', hkeys', hperm⟩ :=
    List.perm_comp_forall₂ h.symm (mapM_scalarKey?_eq_some.mp hkeys)
  exact ⟨keys', mapM_scalarKey?_eq_some.mpr hkeys', hperm⟩

/-- Prepared values give the same answer in every order, also for "not a number". -/
lemma Prepared.matchesAny_perm (op : Operator) {values values' : List AttributeValue}
    (h : values.Perm values') (a : AttributeValue) :
    (Prepared.of op values').matchesAny op values' a = (Prepared.of op values).matchesAny op values a := by
  -- that some value holds does not depend on the order
  have hholds : (∃ v ∈ values', op.holds a v = true) ↔ ∃ v ∈ values, op.holds a v = true :=
    exists_congr fun v => and_congr_left' h.symm.mem_iff
  have hoperands := (any_operands_iff op values' a).trans (hholds.trans (any_operands_iff op values a).symm)
  unfold matchesAny
  by_cases hin : op = .isIn
  · subst hin
    -- the keys of `isIn` are collected in the order of the values, or there are none in either order
    cases hkeys : values.mapM AttributeValue.scalarKey? with
    | some keys =>
      obtain ⟨keys', hkeys', hperm⟩ := exists_keys_of_perm h hkeys
      rw [show (Prepared.of .isIn values).keys = some keys from hkeys,
        show (Prepared.of .isIn values').keys = some keys' from hkeys']
      have hcontains : keys'.contains = keys.contains := funext fun key => hperm.contains_eq
      show (a.scalarKey?.map keys'.contains).getD false = (a.scalarKey?.map keys.contains).getD false
      rw [hcontains]
    | none =>
      have hkeys' : values'.mapM AttributeValue.scalarKey? = none := by
        refine Option.eq_none_iff_forall_ne_some.mpr fun keys' hsome => ?_
        obtain ⟨keys, hkeys', -⟩ := exists_keys_of_perm h.symm hsome
        rw [hkeys] at hkeys'
        cases hkeys'
      rw [show (Prepared.of .isIn values).keys = none from hkeys,
        show (Prepared.of .isIn values').keys = none from hkeys']
      exact Bool.eq_iff_iff.mpr hoperands
  · rw [show (Prepared.of op values).keys = none from if_neg hin,
      show (Prepared.of op values').keys = none from if_neg hin]
    cases op <;> exact Bool.eq_iff_iff.mpr hoperands

namespace Clause

/-- The same clause with its values in another order. -/
def Reordered (c c' : Clause) : Prop := ∃ values, c.values.Perm values ∧ c' = { c with values }

variable {c c' : Clause}

/-- The order of the values of a clause does not matter. -/
lemma matchesAny_reordered {values : List AttributeValue} (h : c.values.Perm values) (a : AttributeValue) :
    { c with values }.matchesAny a = c.matchesAny a :=
  Prepared.matchesAny_perm c.op h a

/-- It does not matter for any of the elements of a list either. -/
lemma matchesElements_reordered {values : List AttributeValue} (h : c.values.Perm values)
    (items : List AttributeValue) : { c with values }.matchesElements items = c.matchesElements items := by
  induction items with
  | nil => rfl
  | cons a rest ih =>
    unfold matchesElements
    rw [matchesAny_reordered h, ih]
    rfl

lemma matchesValue_reordered {values : List AttributeValue} (h : c.values.Perm values)
    (value : Option AttributeValue) : { c with values }.matchesValue value = c.matchesValue value := by
  unfold matchesValue
  simp only [matchesAny_reordered h, matchesElements_reordered h]
  rfl

/-- A reordered clause holds of the same contexts. -/
lemma Reordered.holds_eq (h : c.Reordered c') (context : Context) : c'.holds context = c.holds context := by
  obtain ⟨values, hvalues, rfl⟩ := h
  unfold holds
  simp only [matchesAny_reordered hvalues, matchesValue_reordered hvalues]
  rfl

end Clause

/-! ## Rules and segments in another order -/

/-- The same keys in another order. -/
def SegmentTarget.Reordered (t t' : SegmentTarget) : Prop :=
  ∃ values, t.values.Perm values ∧ t' = { t with values }

/-- The same rule with its clauses reordered. -/
def SegmentRule.Reordered (r r' : SegmentRule) : Prop :=
  ∃ clauses, ReorderedBy Clause.Reordered r.clauses clauses ∧ r' = { r with clauses }

/-- The same rule with its clauses reordered. -/
def FlagRule.Reordered (r r' : FlagRule) : Prop :=
  ∃ clauses, ReorderedBy Clause.Reordered r.clauses clauses ∧ r' = { r with clauses }

namespace Segment

/-- The same segment with the keys that it lists and its rules reordered. -/
structure Reordered (segment segment' : Segment) : Prop where
  included : segment.included.Perm segment'.included
  excluded : segment.excluded.Perm segment'.excluded
  includedContexts :
    ReorderedBy SegmentTarget.Reordered segment.includedContexts segment'.includedContexts
  excludedContexts :
    ReorderedBy SegmentTarget.Reordered segment.excludedContexts segment'.excludedContexts
  rules : ReorderedBy SegmentRule.Reordered segment.rules segment'.rules
  others : segment' = { segment with
    included := segment'.included
    excluded := segment'.excluded
    includedContexts := segment'.includedContexts
    excludedContexts := segment'.excludedContexts
    rules := segment'.rules }

/-- A bounded segment whose rules bucket contexts by valid references. -/
structure Plain (segment : Segment) : Prop where
  bounded : segment.unbounded = false
  bucketBy : ∀ r ∈ segment.rules, ∀ b, r.bucketBy = some b → b.error? = none

/-- The order of listed keys does not matter. -/
lemma listsUser_perm {keys keys' : List String} (h : keys.Perm keys') (context : Context) :
    listsUser keys' context = listsUser keys context := by
  unfold listsUser
  cases context.entity? .user with
  | none => rfl
  | some e => exact h.symm.contains_eq

/-- The order of lists of keys does not matter, nor that of the keys in them. -/
lemma listsEntity_reordered {targets targets' : List SegmentTarget}
    (h : ReorderedBy SegmentTarget.Reordered targets targets') (context : Context) :
    listsEntity targets' context = listsEntity targets context := by
  refine (h.any_eq ?_).symm
  rintro t _ ⟨values, hvalues, rfl⟩
  dsimp only
  cases context.entity? t.contextKind with
  | none => rfl
  | some e => exact hvalues.contains_eq

variable {segment segment' : Segment}

lemma Reordered.key_eq (h : segment.Reordered segment') : segment'.key = segment.key := by
  rw [h.others]

lemma Reordered.salt_eq (h : segment.Reordered segment') : segment'.salt = segment.salt := by
  rw [h.others]

lemma Reordered.unbounded_eq (h : segment.Reordered segment') : segment'.unbounded = segment.unbounded := by
  rw [h.others]

/-- A reordered segment excludes the same contexts. -/
lemma Reordered.excludes_eq (h : segment.Reordered segment') (context : Context) :
    segment'.excludes context = segment.excludes context := by
  rw [excludes, excludes, listsUser_perm h.excluded, listsEntity_reordered h.excludedContexts]

/-- A reordered segment includes the same contexts. -/
lemma Reordered.includes_eq (h : segment.Reordered segment') (context : Context) :
    segment'.includes context = segment.includes context := by
  rw [includes, includes, listsUser_perm h.included, listsEntity_reordered h.includedContexts]

end Segment

/-- The same context, and the same segments under the same keys, reordered. -/
structure Setting.Reordered (setting setting' : Setting) : Prop where
  context : setting'.context = setting.context
  segments : ∀ key, Option.Rel Segment.Reordered (setting.catalog.segment? key) (setting'.catalog.segment? key)

/-- All segments are bounded, and bucket contexts by valid references. -/
def Setting.Plain (setting : Setting) : Prop :=
  ∀ key segment, setting.catalog.segment? key = some segment → segment.Plain

/-! ## Checks that settle -/

/-- A check ends with an answer and leaves the state as it was. -/
def Check.Settles (a : Check Bool) (s : EvaluationState) (answer : Bool) : Prop :=
  a.run.run s = (.ok answer, s)

/-- Two checks settle with the same answer. -/
def Check.Agree (a a' : Check Bool) (s : EvaluationState) : Prop :=
  ∃ answer, a.Settles s answer ∧ a'.Settles s answer

section Settling

variable {s : EvaluationState} {setting : Setting} {nested : SegmentCheck} {key salt : String}

/-- A check that settles inside of a segment settles. -/
lemma Check.Settles.insideSegment {a : Check Bool} {answer : Bool}
    (h : a.Settles (s.enterSegment key) answer) : Check.Settles (insideSegment key a) s answer := by
  unfold Check.Settles at h ⊢
  have hleft : (s.enterSegment key).leaveSegment key = s := by
    rw [EvaluationState.leaveSegment, EvaluationState.enterSegment, List.erase_cons_head]
  rw [run_insideSegment, h, hleft]

/-- What is found for a value of a clause: whether it names a segment that contains the context. -/
def EvaluationState.Finds (s : EvaluationState) (nested : SegmentCheck) (setting : Setting)
    (v : AttributeValue) (answer : Bool) : Prop :=
  match s.segmentFor? setting v with
  | none => answer = false
  | some (key, inner) => Check.Settles (FeatureFlags.insideSegment key (nested inner)) s answer

/-- A clause asks whether any of its values is found. -/
theorem Clause.matchesSegments_settles (c : Clause) {values : List AttributeValue} {answers : List Bool}
    (h : List.Forall₂ (s.Finds nested setting) values answers) :
    Check.Settles (c.matchesSegments nested setting values) s (c.maybeNegate (answers.any id)) := by
  induction h with
  | nil => rfl
  | @cons v answer rest answers hhead htail ih =>
    unfold EvaluationState.Finds at hhead
    unfold Check.Settles at ih ⊢
    cases hfor : s.segmentFor? setting v with
    | none =>
      rw [hfor] at hhead
      subst hhead
      rw [run_matchesSegments_of_none c nested rest hfor, ih, List.any_cons, id, Bool.false_or]
    | some found =>
      obtain ⟨key, inner⟩ := found
      rw [hfor] at hhead
      rw [run_matchesSegments_of_some c nested rest hfor, hhead]
      cases answer with
      | true => rfl
      | false => exact ih

/-- Clauses that settle give the conjunction of their answers, in any order. -/
theorem checkClauses_settles {clauses : List Clause} {answers : List Bool}
    (h : List.Forall₂ (fun c => (c.checkWith nested setting).Settles s) clauses answers) :
    Check.Settles (checkClauses nested setting clauses) s (answers.all id) := by
  induction h with
  | nil => rfl
  | @cons c answer rest answers hhead htail ih =>
    unfold Check.Settles at hhead ih ⊢
    rw [run_checkClauses_cons, hhead]
    cases answer with
    | true => exact ih
    | false => rfl

/-- A rule settles if its clauses do and its weight can be computed. -/
lemma SegmentRule.checkWith_settles {r : SegmentRule} {matched admitted : Bool}
    (hclauses : Check.Settles (checkClauses nested setting r.clauses) s matched)
    (hadmits : r.admits key salt setting.context = .ok admitted) :
    Check.Settles (r.checkWith nested setting key salt) s (matched && admitted) := by
  unfold Check.Settles at hclauses ⊢
  rw [SegmentRule.run_checkWith, hclauses]
  cases matched with
  | true => exact congrArg (·, s) hadmits
  | false => rfl

/-- Rules that settle give the disjunction of their answers, in any order. -/
theorem Segment.checkRules_settles (segment : Segment) {rules : List SegmentRule} {answers : List Bool}
    (h : List.Forall₂ (fun r => (r.checkWith nested setting segment.key segment.salt).Settles s) rules
      answers) :
    Check.Settles (segment.checkRules nested setting rules) s (answers.any id) := by
  induction h with
  | nil => rfl
  | @cons r answer rest answers hhead htail ih =>
    unfold Check.Settles at hhead ih ⊢
    rw [run_checkRules_cons, hhead]
    cases answer with
    | true => rfl
    | false => exact ih

/-- With a valid reference a rule never fails to bucket a context. -/
lemma SegmentRule.exists_admits {r : SegmentRule} (h : ∀ b, r.bucketBy = some b → b.error? = none)
    (key salt : String) (context : Context) : ∃ admitted, r.admits key salt context = .ok admitted := by
  have hvalid : (Context.bucketReference r.bucketBy false).error? = none := by
    cases hby : r.bucketBy with
    | none => rfl
    | some b => exact h b hby
  unfold admits
  cases r.weight with
  | none => exact ⟨true, rfl⟩
  | some weight =>
    dsimp only
    rw [Context.bucket_of_valid hvalid]
    split_ifs
    · exact ⟨_, rfl⟩
    · exact ⟨_, rfl⟩

end Settling

/-! ## Two settings -/

section Agreeing

variable {s : EvaluationState} {setting setting' : Setting} {nested nested' : SegmentCheck}

/-- In both settings the same is found for every value. -/
def FindAlike (s : EvaluationState) (setting setting' : Setting) (nested nested' : SegmentCheck) : Prop :=
  ∀ v, ∃ answer, s.Finds nested setting v answer ∧ s.Finds nested' setting' v answer

variable (hfind : FindAlike s setting setting' nested nested')
include hfind

/-- Reordered clauses name the same segments, so one of them contains the context in either order. -/
lemma Clause.Reordered.matchesSegments_agree {c c' : Clause} (h : c.Reordered c') :
    Check.Agree (c.matchesSegments nested setting c.values) (c'.matchesSegments nested' setting' c'.values)
      s := by
  obtain ⟨values, hvalues, rfl⟩ := h
  have hreordered : ReorderedBy (· = ·) c.values values := .of_perm (fun _ => rfl) hvalues
  obtain ⟨answers, answers', hanswers, hanswers', hperm⟩ := hreordered.exists_answers
    (P := s.Finds nested setting) (Q := s.Finds nested' setting') (by rintro v - _ rfl; exact hfind v)
  refine ⟨_, c.matchesSegments_settles hanswers, ?_⟩
  rw [hperm.any_eq]
  exact Clause.matchesSegments_settles { c with values } hanswers'

variable (hcontext : setting'.context = setting.context)
include hcontext

/-- Reordered clauses are checked to the same answer. -/
lemma Clause.Reordered.checkWith_agree {c c' : Clause} (h : c.Reordered c') :
    Check.Agree (c.checkWith nested setting) (c'.checkWith nested' setting') s := by
  have hagree := h.matchesSegments_agree hfind
  have hholds := h.holds_eq setting.context
  have hop : c'.op = c.op := by
    obtain ⟨values, -, rfl⟩ := h
    rfl
  unfold checkWith
  rw [hop, hcontext, hholds]
  split_ifs
  · exact hagree
  · exact ⟨_, rfl, rfl⟩

/-- Reordered lists of clauses are checked to the same answer. -/
lemma checkClauses_agree {clauses clauses' : List Clause}
    (h : ReorderedBy Clause.Reordered clauses clauses') :
    Check.Agree (checkClauses nested setting clauses) (checkClauses nested' setting' clauses') s := by
  obtain ⟨answers, answers', hanswers, hanswers', hperm⟩ :=
    h.exists_answers fun c _ c' hc => hc.checkWith_agree hfind hcontext
  refine ⟨_, checkClauses_settles hanswers, ?_⟩
  rw [hperm.all_eq]
  exact checkClauses_settles hanswers'

/-- Reordered rules of segments are checked to the same answer. -/
lemma SegmentRule.Reordered.checkWith_agree {r r' : SegmentRule} (h : r.Reordered r')
    (hbucketBy : ∀ b, r.bucketBy = some b → b.error? = none) (key salt : String) :
    Check.Agree (r.checkWith nested setting key salt) (r'.checkWith nested' setting' key salt) s := by
  obtain ⟨clauses, hclauses, rfl⟩ := h
  obtain ⟨matched, hmatched, hmatched'⟩ := checkClauses_agree hfind hcontext hclauses
  obtain ⟨admitted, hadmits⟩ := SegmentRule.exists_admits hbucketBy key salt setting.context
  refine ⟨_, SegmentRule.checkWith_settles hmatched hadmits, ?_⟩
  rw [← hcontext] at hadmits
  exact SegmentRule.checkWith_settles (r := { r with clauses }) hmatched' hadmits

/-- Reordered lists of rules are checked to the same answer. -/
lemma Segment.Reordered.checkRules_agree {segment segment' : Segment} (h : segment.Reordered segment')
    (hplain : segment.Plain) :
    Check.Agree (segment.checkRules nested setting segment.rules)
      (segment'.checkRules nested' setting' segment'.rules) s := by
  obtain ⟨answers, answers', hanswers, hanswers', hperm⟩ := h.rules.exists_answers fun r hr r' hreordered =>
    hreordered.checkWith_agree hfind hcontext (hplain.bucketBy r hr) segment.key segment.salt
  refine ⟨_, segment.checkRules_settles hanswers, ?_⟩
  rw [hperm.any_eq]
  rw [← h.key_eq, ← h.salt_eq] at hanswers'
  exact segment'.checkRules_settles hanswers'

/-- The lists of a segment decide in the same way, and then its rules do. -/
lemma Segment.Reordered.containsWith_agree {segment segment' : Segment} (h : segment.Reordered segment')
    (hplain : segment.Plain) :
    Check.Agree (segment.containsWith nested setting) (segment'.containsWith nested' setting') s := by
  have hrules := h.checkRules_agree hfind hcontext hplain
  unfold containsWith
  rw [h.unbounded_eq, hplain.bounded, hcontext, h.excludes_eq, h.includes_eq]
  simp only [Bool.false_eq_true, if_false]
  split_ifs
  · exact ⟨false, rfl, rfl⟩
  · exact ⟨true, rfl, rfl⟩
  · exact hrules

end Agreeing

namespace Setting.Reordered

variable {setting setting' : Setting} {s : EvaluationState}

/-- For every value the same segment is to be checked in both settings, reordered, or none is. -/
lemma segmentFor?_cases (h : setting.Reordered setting') (s : EvaluationState) (v : AttributeValue) :
    (s.segmentFor? setting v = none ∧ s.segmentFor? setting' v = none) ∨
      ∃ key inner inner', s.segmentFor? setting v = some (key, inner) ∧
        s.segmentFor? setting' v = some (key, inner') ∧ inner.Reordered inner' := by
  cases hfor : s.segmentFor? setting v with
  -- the two catalogs know the same segments
  | none =>
    refine .inl ⟨rfl, EvaluationState.segmentFor?_eq_none_iff.mpr fun key hv => ?_⟩
    refine (EvaluationState.segmentFor?_eq_none_iff.mp hfor key hv).imp_right (Or.imp_right fun hunknown => ?_)
    have hrel := h.segments key
    rw [hunknown] at hrel
    cases hother : setting'.catalog.segment? key with
    | none => rfl
    | some inner' =>
      rw [hother] at hrel
      cases hrel
  | some found =>
    obtain ⟨key, inner⟩ := found
    obtain ⟨hv, hfresh, hroom, hfound⟩ := EvaluationState.segmentFor?_eq_some_iff.mp hfor
    have hrel := h.segments key
    rw [hfound] at hrel
    cases hother : setting'.catalog.segment? key with
    | none =>
      rw [hother] at hrel
      cases hrel
    | some inner' =>
      rw [hother] at hrel
      cases hrel with
      | some hreordered =>
        refine .inr ⟨key, inner, inner', rfl, ?_, hreordered⟩
        exact EvaluationState.segmentFor?_eq_some_iff.mpr ⟨hv, hfresh, hroom, hother⟩

/-- If nested segments agree inside of every segment that can be entered, the same is found for every value. -/
lemma findAlike (h : setting.Reordered setting') (hplain : setting.Plain)
    (hnested : ∀ (key : String) (inner inner' : Segment), s.segmentPath.length < maxSegmentDepth →
      inner.Reordered inner' → inner.Plain →
        Check.Agree (inner.contains setting) (inner'.contains setting') (s.enterSegment key)) :
    FindAlike s setting setting' (·.contains setting) (·.contains setting') := by
  intro v
  unfold EvaluationState.Finds
  rcases h.segmentFor?_cases s v with ⟨hnone, hnone'⟩ | ⟨key, inner, inner', hsome, hsome', hreordered⟩
  · rw [hnone, hnone']
    exact ⟨false, rfl, rfl⟩
  · obtain ⟨-, -, hroom, hfound⟩ := EvaluationState.segmentFor?_eq_some_iff.mp hsome
    obtain ⟨answer, hanswer, hanswer'⟩ := hnested key inner inner' hroom hreordered (hplain key inner hfound)
    rw [hsome, hsome']
    exact ⟨answer, hanswer.insideSegment, hanswer'.insideSegment⟩

/-- Segments agree, however they are nested: what is nested has less room. -/
theorem contains_agree (h : setting.Reordered setting') (hplain : setting.Plain) {segment segment' : Segment}
    (hsegment : segment.Reordered segment') (hself : segment.Plain) (s : EvaluationState) :
    Check.Agree (segment.contains setting) (segment'.contains setting') s := by
  induction hroom : Segment.depthLeft s using Nat.strong_induction_on generalizing s segment segment' with
  | h room ih =>
    rw [Segment.contains_eq, Segment.contains_eq]
    refine hsegment.containsWith_agree (h.findAlike hplain fun key inner inner' hlength hinner hp => ?_)
      h.context hself
    refine ih _ ?_ hinner hp (s.enterSegment key) rfl
    have hentered : (s.enterSegment key).segmentPath.length = s.segmentPath.length + 1 := rfl
    rw [← hroom, Segment.depthLeft, Segment.depthLeft, hentered]
    omega

/-- A reordered rule of a flag is checked to the same answer. -/
lemma check_agree (h : setting.Reordered setting') (hplain : setting.Plain) {r r' : FlagRule}
    (hrule : r.Reordered r') (s : EvaluationState) : Check.Agree (r.check setting) (r'.check setting') s := by
  obtain ⟨clauses, hclauses, rfl⟩ := hrule
  rw [FlagRule.check_eq, FlagRule.check_eq]
  exact checkClauses_agree
    (h.findAlike hplain fun key _ _ _ hinner hp => h.contains_agree hplain hinner hp (s.enterSegment key))
    h.context hclauses

end Setting.Reordered

/-- Where all segments are bounded and bucket contexts by valid references, rules of flags and segments have an
answer, from whatever state they are checked, and leave this state as it was. They have the same answer after
the values of clauses, the clauses of rules, and the lists and rules of segments were reordered, in the rule or
the segment itself and in all segments of the catalog. -/
theorem order_of_conditions_irrelevant {setting setting' : Setting} (h : setting.Reordered setting')
    (hplain : setting.Plain) (s : EvaluationState) :
    (∀ r r' : FlagRule, r.Reordered r' →
      ∃ answer, (r.check setting).run.run s = (.ok answer, s) ∧
        (r'.check setting').run.run s = (.ok answer, s)) ∧
    (∀ segment segment' : Segment, segment.Plain → segment.Reordered segment' →
      ∃ answer, (segment.contains setting).run.run s = (.ok answer, s) ∧
        (segment'.contains setting').run.run s = (.ok answer, s)) :=
  ⟨fun _ _ hrule => h.check_agree hplain hrule s,
    fun _ _ hself hsegment => h.contains_agree hplain hsegment hself s⟩

/-! ## Clubs that name each other -/

/-- A clause about the segments with these keys. -/
def Clause.inAny (keys : List String) : Clause :=
  ⟨none, .literal "", false, .segmentMatch, keys.map AttributeValue.string⟩

/-- A clause about the name of a user. -/
def Clause.called (names : List String) : Clause :=
  ⟨none, .literal "name", false, .isIn, names.map AttributeValue.string⟩

/-- A segment that includes these users, and others by the clauses of its rules. -/
def Segment.club (key : String) (included : List String) (rules : List (List Clause)) : Segment :=
  { key, version := 1, included, excluded := [], includedContexts := [], excludedContexts := [],
    rules := rules.map fun clauses => ⟨none, clauses, none, none, none⟩,
    salt := "", unbounded := false, unboundedContextKind := none, generation := none, deleted := false }

/-- A user called Anna, and two clubs. -/
def Setting.clubs (chess go : Segment) : Setting :=
  ⟨⟨[], [("chess", chess), ("go", go)]⟩, .named "anna" "Anna", none⟩

/-- A rule for a context in all of some groups of segments. -/
def FlagRule.forClubs (groups : List (List String)) : FlagRule := ⟨"", groups.map Clause.inAny, .malformed, false⟩

lemma Clause.inAny_reordered {keys keys' : List String} (h : keys.Perm keys') :
    (inAny keys).Reordered (inAny keys') :=
  ⟨_, h.map _, rfl⟩

/-- A club with its members and rules in another order is the reordered club. -/
lemma Segment.club_reordered (key : String) {included included' : List String}
    {rules rules' : List (List Clause)} (hincluded : included.Perm included')
    (hrules : ReorderedBy (ReorderedBy Clause.Reordered) rules rules') :
    (club key included rules).Reordered (club key included' rules') := by
  have hnone : ReorderedBy SegmentTarget.Reordered [] [] := ⟨[], .nil, .nil⟩
  obtain ⟨middle, hmiddle, hperm⟩ := hrules
  refine ⟨hincluded, .nil, hnone, hnone, ?_, rfl⟩
  refine ⟨middle.map fun clauses => ⟨none, clauses, none, none, none⟩, ?_, hperm.map _⟩
  exact List.forall₂_map_left_iff.mpr (List.forall₂_map_right_iff.mpr (hmiddle.imp fun _ _ h => ⟨_, h, rfl⟩))

/-- Clubs are plain: they have neither weights nor references. -/
lemma Segment.club_plain (key : String) (included : List String) (rules : List (List Clause)) :
    (club key included rules).Plain := by
  refine ⟨rfl, fun r hr b hb => ?_⟩
  obtain ⟨clauses, -, rfl⟩ := List.mem_map.mp hr
  cases hb

/-- Clubs may be reordered in the catalog. -/
lemma Setting.clubs_reordered {chess chess' go go' : Segment} (hchess : chess.Reordered chess')
    (hgo : go.Reordered go') : (clubs chess go).Reordered (clubs chess' go') := by
  refine ⟨rfl, fun key => ?_⟩
  unfold Catalog.segment? clubs
  simp only [Entries.get?]
  split_ifs
  · exact .some hchess
  · exact .some hgo
  · exact .none

/-- A catalog of plain clubs is plain. -/
lemma Setting.clubs_plain {chess go : Segment} (hchess : chess.Plain) (hgo : go.Plain) :
    (clubs chess go).Plain := by
  intro key segment hfound
  rcases List.mem_cons.mp (Entries.mem_of_get? hfound) with h | h
  · cases h
    exact hchess
  · cases List.mem_singleton.mp h
    exact hgo

/-- The clubs name each other. In the one order they are asked for each other before they ask for the name, in
the other order after that. -/
theorem order_of_conditions_irrelevant_clubs :
    let chess := Segment.club "chess" ["ben", "carl"] [[.inAny ["ghosts", "go"], .called ["Ann", "Anna"]]]
    let go := Segment.club "go" ["dora"] [[.inAny ["chess"]], [.called ["Anna"]]]
    let chess' := Segment.club "chess" ["carl", "ben"] [[.called ["Anna", "Ann"], .inAny ["go", "ghosts"]]]
    let go' := Segment.club "go" ["dora"] [[.called ["Anna"]], [.inAny ["chess"]]]
    ((FlagRule.forClubs [["chess"], ["go", "chess"]]).check (.clubs chess go)).run.run .initial =
      (.ok true, .initial) ∧
    ((FlagRule.forClubs [["chess", "go"], ["chess"]]).check (.clubs chess' go')).run.run .initial =
      (.ok true, .initial) := by
  intro chess go chess' go'
  have hchess : chess.Reordered chess' := by
    refine Segment.club_reordered _ (.swap _ _ _) ⟨_, .cons ?_ .nil, .refl _⟩
    exact ⟨_, .cons (Clause.inAny_reordered (.swap _ _ _)) (.cons ⟨_, .swap _ _ _, rfl⟩ .nil), .swap _ _ _⟩
  have hgo : go.Reordered go' := by
    refine Segment.club_reordered _ (.refl _) (.of_perm (fun _ => ?_) (.swap _ _ _))
    exact .of_perm (fun c => ⟨c.values, .refl _, rfl⟩) (.refl _)
  have hrule : (FlagRule.forClubs [["chess"], ["go", "chess"]]).Reordered
      (.forClubs [["chess", "go"], ["chess"]]) := by
    refine ⟨_, ?_, rfl⟩
    exact ⟨_, .cons (Clause.inAny_reordered (.refl _)) (.cons (Clause.inAny_reordered (.swap _ _ _)) .nil),
      .swap _ _ _⟩
  obtain ⟨hrules, -⟩ := order_of_conditions_irrelevant (Setting.clubs_reordered hchess hgo)
    (Setting.clubs_plain (Segment.club_plain _ _ _) (Segment.club_plain _ _ _)) .initial
  obtain ⟨answer, hanswer, hanswer'⟩ := hrules _ _ hrule
  have htrue : ((FlagRule.forClubs [["chess"], ["go", "chess"]]).check (.clubs chess go)).run.run .initial =
      (.ok true, .initial) := rfl
  rw [htrue] at hanswer
  cases hanswer
  exact ⟨htrue, hanswer'⟩

end FeatureFlags
