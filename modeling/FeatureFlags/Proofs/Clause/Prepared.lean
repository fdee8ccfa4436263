import FeatureFlags.Clause.Basic
import Mathlib.Tactic.SplitIfs

/-!
# Prepared clause values

A clause prepares its values once: the keys of scalar values for `isIn`, and what is made of each value for
the operators that take their values apart. `Prepared.matchesAny_of_iff` says that nobody can tell: the
answer is that of the operator applied to each value in turn, with the value taken apart on the spot.

* `AttributeValue.same_iff_scalarKey?`: scalar values are equal exactly if they have the same key. The one
  exception is "not a number", which has a key and yet equals nothing.
* `Operator.test_operand`: a prepared operand stands for the value that it was made of.
-/

namespace FeatureFlags

/-! ## Keys of numbers -/

namespace Binary

variable {f : Format} {s t : Bool}

/-- Only zeros have the key zero. -/
lemma orderKey_eq_zero {a : Nat} : orderKey s a = 0 ↔ a = 0 := by
  unfold orderKey
  cases s <;> simp

/-- Zero is the only rank whose sign does not show. -/
lemma orderKey_inj {a b : Nat} (ha : a ≠ 0) : orderKey s a = orderKey t b ↔ s = t ∧ a = b := by
  unfold orderKey
  constructor
  · intro h
    cases s <;> cases t <;> simp only [Bool.false_eq_true, if_false, if_true] at h
    · exact ⟨rfl, by omega⟩
    · omega
    · omega
    · exact ⟨rfl, by omega⟩
  · rintro ⟨rfl, rfl⟩
    rfl

variable {a b : Fin (f.infinityRank + 1)}

/-- Both zeros equal zero, and nothing else does. -/
lemma signed_eq_zero_iff : (signed s a).eq zero = true ↔ a.val = 0 := by
  have hzero : orderKey false (min 0 f.infinityRank) = 0 := by simp [orderKey]
  show (orderKey s a == orderKey false (min 0 f.infinityRank)) = true ↔ _
  rw [hzero, beq_iff_eq, orderKey_eq_zero]

/-- The number that stands for all numbers that are numerically equal to this one. -/
def canonical (d : Binary f) : Binary f := if d.eq .zero then .zero else d

lemma canonical_nan : (nan : Binary f).canonical = nan := rfl

/-- The canonical form of a number is the number itself, unless it is a zero. -/
lemma canonical_signed :
    (signed s a).canonical = if a.val = 0 then zero else signed s a := by
  unfold canonical
  simp only [signed_eq_zero_iff]

/-- Numbers are numerically equal exactly if the same number stands for them, "not a number" apart. -/
lemma eq_iff_canonical {d e : Binary f} (hd : d ≠ nan) :
    d.eq e = true ↔ d.canonical = e.canonical := by
  -- numbers are equal exactly when they have the same rank and, zeros apart, the same sign
  cases d with
  | nan => exact absurd rfl hd
  | signed s a =>
    cases e with
    | nan =>
      rw [canonical_nan, canonical_signed]
      by_cases ha : a.val = 0
      · rw [if_pos ha]
        exact ⟨nofun, nofun⟩
      · rw [if_neg ha]
        exact ⟨nofun, nofun⟩
    | signed t b =>
      show (orderKey s a == orderKey t b) = true ↔ _
      rw [beq_iff_eq, canonical_signed, canonical_signed]
      by_cases ha : a.val = 0
      · -- both zeros are equal to zero alone
        have hzero : orderKey s a = 0 := orderKey_eq_zero.mpr ha
        rw [if_pos ha, hzero, eq_comm, orderKey_eq_zero]
        by_cases hb : b.val = 0
        · simp [hb]
        · rw [if_neg hb]
          refine ⟨fun h => absurd h hb, fun h => ?_⟩
          cases h
          exact absurd (Nat.zero_min _) hb
      · rw [if_neg ha, orderKey_inj ha]
        by_cases hb : b.val = 0
        · rw [if_pos hb]
          refine ⟨fun h => absurd (h.2.trans hb) ha, fun h => ?_⟩
          cases h
          exact absurd (Nat.zero_min _) ha
        · rw [if_neg hb, signed.injEq, Fin.ext_iff]

end Binary

/-! ## Keys of scalar values -/

namespace AttributeValue

lemma scalarKey?_number (d : Double) :
    (number d).scalarKey? = some (.number d.canonical) := rfl

/-- A value is equal to a scalar one exactly if it has the same key, unless it is "not a number". -/
theorem same_iff_scalarKey? {a v : AttributeValue} {key : ScalarKey} (ha : a ≠ number .nan)
    (hv : v.scalarKey? = some key) : a.same v = true ↔ a.scalarKey? = some key := by
  -- only scalars have a key, and keys of different types differ
  cases v with
  | string t =>
    cases hv
    cases a <;> simp [same, scalarKey?]
  | bool c =>
    cases hv
    cases a <;> simp [same, scalarKey?]
  | number e =>
    cases hv
    cases a with
    | number d =>
      have hd : d ≠ .nan := fun h => ha (congrArg number h)
      rw [scalarKey?_number, same, Binary.eq_iff_canonical hd]
      simp [Binary.canonical]
    | _ => simp [same, scalarKey?]
  | array items => cases hv
  | object members => cases hv
  | null => cases hv

end AttributeValue

/-- The keys of some values are those that one of the values has. -/
lemma mem_of_mapM_scalarKey? {values : List AttributeValue} {keys : List ScalarKey}
    (h : values.mapM AttributeValue.scalarKey? = some keys) (key : ScalarKey) :
    key ∈ keys ↔ ∃ v ∈ values, v.scalarKey? = some key := by
  induction values generalizing keys with
  | nil =>
    cases h
    simp
  | cons v rest ih =>
    rw [List.mapM_cons] at h
    obtain ⟨first, hfirst, h⟩ := Option.bind_eq_some_iff.mp h
    obtain ⟨others, hothers, h⟩ := Option.bind_eq_some_iff.mp h
    cases h
    simp [hfirst, ih hothers, eq_comm]

/-- If all values are scalar, each has a key. -/
lemma exists_scalarKey?_of_mapM {values : List AttributeValue} {keys : List ScalarKey}
    (h : values.mapM AttributeValue.scalarKey? = some keys) {v : AttributeValue} (hv : v ∈ values) :
    ∃ key, v.scalarKey? = some key := by
  induction values generalizing keys with
  | nil => cases hv
  | cons first rest ih =>
    rw [List.mapM_cons] at h
    obtain ⟨key, hfirst, h⟩ := Option.bind_eq_some_iff.mp h
    obtain ⟨others, hothers, h⟩ := Option.bind_eq_some_iff.mp h
    rcases List.mem_cons.mp hv with rfl | hrest
    · exact ⟨key, hfirst⟩
    · exact ih hothers hrest

/-! ## Prepared operands -/

namespace Operator

/-- Whether an operator holds between a value of a context and a value of a clause that is taken apart on
the spot. -/
def holds (op : Operator) (a v : AttributeValue) : Bool := op.test a v none

/-- What is prepared for a value, which may be of no use to the operator. -/
def operand (op : Operator) (v : AttributeValue) : Operand := (op.prepare? v).getD .invalid

/-- An operand stands for the value that it was made of. -/
theorem test_operand {op : Operator} (h : op.takesApart = true) (a v : AttributeValue) :
    op.test a v (some (op.operand v)) = op.holds a v := by
  cases op with
  | «matches» =>
    unfold holds operand prepare?
    simp only [test, testPattern]
    cases v.string?.bind Pattern.ofText? <;> rfl
  | before | after =>
    unfold holds operand prepare?
    simp only [test, testTimes]
    cases v.timestamp? <;> rfl
  | semVerEqual | semVerLessThan | semVerGreaterThan =>
    unfold holds operand prepare?
    simp only [test, testVersions]
    cases v.version? <;> rfl
  | _ => cases h

end Operator

namespace Prepared

/-- What is prepared are the operands of the values, if the operator looks at them. -/
lemma operands_of (op : Operator) (values : List AttributeValue) :
    (Prepared.of op values).operands = if op.takesApart then values.map op.operand else [] := rfl

/-- Going through the values with their operands, which stand at the same places, is going through the
values. -/
lemma any_operands_iff (op : Operator) (values : List AttributeValue) (a : AttributeValue) :
    (values.zipIdx.any fun (v, i) => op.test a v (Prepared.of op values).operands[i]?) = true ↔
      ∃ v ∈ values, op.holds a v = true := by
  -- each operand was prepared from the value in its place
  have htest : ∀ (v : AttributeValue) (i : Nat), values[i]? = some v →
      op.test a v (Prepared.of op values).operands[i]? = op.holds a v := by
    intro v i hv
    rw [operands_of]
    by_cases hop : op.takesApart = true
    · rw [if_pos hop, List.getElem?_map, hv]
      exact Operator.test_operand hop a v
    · rw [if_neg hop]
      rfl
  rw [List.any_eq_true]
  constructor
  · rintro ⟨⟨v, i⟩, hmem, h⟩
    have hv : values[i]? = some v := List.mem_zipIdx_iff_getElem?.mp hmem
    have hholds : op.holds a v = true := (htest v i hv).symm.trans h
    exact ⟨v, List.mem_of_getElem? hv, hholds⟩
  · rintro ⟨v, hmem, h⟩
    obtain ⟨i, hv⟩ := List.mem_iff_getElem?.mp hmem
    exact ⟨(v, i), List.mem_zipIdx_iff_getElem?.mpr hv, (htest v i hv).trans h⟩

/-- Looking for the key of a value among the keys of scalar values is looking for an equal value. -/
lemma contains_key_iff {values : List AttributeValue} {keys : List ScalarKey}
    (h : values.mapM AttributeValue.scalarKey? = some keys) {a : AttributeValue} (ha : a ≠ .number .nan) :
    (a.scalarKey?.map keys.contains).getD false = true ↔
      ∃ v ∈ values, Operator.isIn.holds a v = true := by
  have hsame : ∀ v ∈ values, a.same v = true ↔ a.scalarKey? = v.scalarKey? := by
    intro v hv
    obtain ⟨key, hkey⟩ := exists_scalarKey?_of_mapM h hv
    rw [AttributeValue.same_iff_scalarKey? ha hkey, hkey]
  show _ ↔ ∃ v ∈ values, a.same v = true
  cases hkey : a.scalarKey? with
  | none =>
    -- a value without a key is equal to no scalar value
    refine ⟨nofun, ?_⟩
    rintro ⟨v, hv, heq⟩
    obtain ⟨key, hkey'⟩ := exists_scalarKey?_of_mapM h hv
    rw [hsame v hv, hkey, hkey'] at heq
    cases heq
  | some key =>
    rw [Option.map_some, Option.getD_some, List.contains_iff_mem, mem_of_mapM_scalarKey? h]
    refine exists_congr fun v => and_congr_right fun hv => ?_
    rw [hsame v hv, hkey, eq_comm]

/-- Prepared values give the answer that the values themselves give. -/
theorem matchesAny_of_iff (op : Operator) (values : List AttributeValue) {a : AttributeValue}
    (ha : a ≠ .number .nan) :
    (Prepared.of op values).matchesAny op values a = true ↔ ∃ v ∈ values, op.holds a v = true := by
  unfold matchesAny
  by_cases hin : op = .isIn
  · subst hin
    cases hkeys : values.mapM AttributeValue.scalarKey? with
    | some keys =>
      rw [show (Prepared.of .isIn values).keys = some keys from hkeys]
      exact contains_key_iff hkeys ha
    | none =>
      rw [show (Prepared.of .isIn values).keys = none from hkeys]
      exact any_operands_iff .isIn values a
  · -- other operators have no keys, so they go through the values
    rw [show (Prepared.of op values).keys = none from if_neg hin]
    cases op <;> exact any_operands_iff _ values a

end Prepared

/-! ## The answers of clauses -/

/-- Preparing the values of a clause never changes an answer: a value matches exactly if the operator holds
between it and some value of the clause that is taken apart on the spot. -/
theorem matchesAny_iff_exists_holds (c : Clause) {a : AttributeValue} (ha : a ≠ .number .nan) :
    c.matchesAny a = true ↔ ∃ v ∈ c.values, c.op.holds a v = true :=
  Prepared.matchesAny_of_iff c.op c.values ha

/-- A negative zero is found among values with a text and a zero. -/
theorem matchesAny_iff_exists_holds_zero :
    AttributeValue.number (.ofRank true 0) ≠ .number .nan ∧
    (⟨none, .literal "age", false, .isIn, [.string "0", .number .zero]⟩ : Clause).matchesAny
      (.number (.ofRank true 0)) = true := by
  have ha : AttributeValue.number (.ofRank true 0) ≠ .number .nan := nofun
  exact ⟨ha, (matchesAny_iff_exists_holds _ ha).mpr ⟨.number .zero, by simp, by decide⟩⟩

end FeatureFlags
