import FeatureFlags.Proofs.Clause.Prepared
import FeatureFlags.Proofs.Version.Order
import FeatureFlags.Proofs.Version.Reading

/-!
# Comparing versions

The operators on versions say how the versions stand that two texts denote, after padding and without build
metadata. Versions are totally ordered, so that one of the three operators holds between any two.

* `Operator.test_iff_relates`: what an operator says, whether or not the value of the clause was prepared.
* `versions_compared`: padding, build metadata and the three operators together.
-/

namespace FeatureFlags

open AttributeValue (string)

/-! ## Operators on versions -/

namespace Operator

/-- The operators that compare versions. -/
def versionOperators : List Operator := [.semVerLessThan, .semVerEqual, .semVerGreaterThan]

/-- How two versions stand if an operator on versions holds between them. -/
def Relates (op : Operator) (v w : Version) : Prop :=
  match op with
  | .semVerLessThan => v < w
  | .semVerEqual => v = w
  | .semVerGreaterThan => w < v
  | _ => False

/-- What an operator is given for a value of a clause: nothing, or what was prepared. -/
def given (op : Operator) (value : AttributeValue) (prepared : Bool) : Option Operand :=
  if prepared then some (op.operand value) else none

lemma mem_versionOperators {op : Operator} :
    op ∈ versionOperators ↔ op = .semVerLessThan ∨ op = .semVerEqual ∨ op = .semVerGreaterThan := by
  simp [versionOperators]

/-- The operators on versions read their values before they compare them. -/
lemma takesApart_of_mem_versionOperators {op : Operator} (hop : op ∈ versionOperators) :
    op.takesApart = true := by
  rcases mem_versionOperators.mp hop with rfl | rfl | rfl <;> rfl

/-- Preparing a value changes nothing. -/
lemma test_given {op : Operator} (hop : op ∈ versionOperators) (a b : AttributeValue) (prepared : Bool) :
    op.test a b (op.given b prepared) = op.holds a b := by
  cases prepared with
  | false => rfl
  | true => exact test_operand (takesApart_of_mem_versionOperators hop) a b

/-- Two values pass a test of versions if both are versions and their order passes it. -/
lemma testVersions_iff (test : Ordering → Bool) (a b : AttributeValue) :
    testVersions test a b none = true ↔
      ∃ v w, a.version? = some v ∧ b.version? = some w ∧ test (v.compare w) = true := by
  unfold testVersions
  cases a.version? with
  | none => simp
  | some v =>
    cases b.version? with
    | none => simp
    | some w => simp

/-- An operator on versions says how the versions stand that two values denote. -/
theorem test_iff_relates {op : Operator} (hop : op ∈ versionOperators) (a b : AttributeValue)
    (prepared : Bool) :
    op.test a b (op.given b prepared) = true ↔
      ∃ v w, a.version? = some v ∧ b.version? = some w ∧ op.Relates v w := by
  rw [test_given hop]
  rcases mem_versionOperators.mp hop with rfl | rfl | rfl
  · show testVersions (· == .lt) a b none = true ↔ _
    simp only [testVersions_iff, beq_iff_eq, Version.compare_eq_lt]
    rfl
  · show testVersions (· == .eq) a b none = true ↔ _
    simp only [testVersions_iff, beq_iff_eq, Version.compare_eq_eq]
    rfl
  · show testVersions (· == .gt) a b none = true ↔ _
    simp only [testVersions_iff, beq_iff_eq, Version.compare_eq_gt]
    rfl

/-- The operator on versions that holds where a comparison has this outcome. -/
def ofOrdering : Ordering → Operator
  | .lt => .semVerLessThan
  | .eq => .semVerEqual
  | .gt => .semVerGreaterThan

lemma ofOrdering_mem (outcome : Ordering) : ofOrdering outcome ∈ versionOperators := by
  cases outcome <;> simp [ofOrdering, versionOperators]

/-- The three relations are the three outcomes of a comparison. -/
lemma relates_iff {op : Operator} (hop : op ∈ versionOperators) (v w : Version) :
    op.Relates v w ↔ op = ofOrdering (v.compare w) := by
  rcases mem_versionOperators.mp hop with rfl | rfl | rfl
  · rw [Relates, ← Version.compare_eq_lt]
    cases v.compare w <;> simp [ofOrdering]
  · rw [Relates, ← Version.compare_eq_eq]
    cases v.compare w <;> simp [ofOrdering]
  · rw [Relates, ← Version.compare_eq_gt]
    cases v.compare w <;> simp [ofOrdering]

/-- Of the three ways in which two versions may stand there is exactly one. -/
lemma existsUnique_relates (v w : Version) : ∃! op, op ∈ versionOperators ∧ op.Relates v w := by
  have hmem := ofOrdering_mem (v.compare w)
  refine ⟨ofOrdering (v.compare w), ⟨hmem, (relates_iff hmem v w).mpr rfl⟩, ?_⟩
  rintro op ⟨hop, hrelates⟩
  exact (relates_iff hop v w).mp hrelates

end Operator

/-! ## All together -/

/-- A value is a text that denotes a version, after padding. -/
def AttributeValue.IsVersion (a : AttributeValue) : Prop :=
  ∃ text v, a = .string text ∧ WrittenVersion.ofLooseText? text = some v

/-- A value is a version if one can be read from it. -/
lemma AttributeValue.isVersion_iff {a : AttributeValue} : a.IsVersion ↔ ∃ v, a.version? = some v := by
  unfold IsVersion
  cases a with
  | string text => simp [version?, exists_comm]
  | _ => simp [version?]

/-- Texts that are read the same denote the same version. -/
lemma AttributeValue.version?_congr {s t : String}
    (h : WrittenVersion.ofLooseText? s = WrittenVersion.ofLooseText? t) :
    (string s).version? = (string t).version? := by
  rw [version?, version?, h]

open AttributeValue Operator Version in
/-- Missing numbers of a version are zero, before any suffix. Build metadata is read and forgotten, and
nothing else may follow a plus sign. Of the operators on versions, exactly one holds between two values that
are versions, as the versions stand in their order, and none holds between other values; and it makes no
difference whether the second value was prepared. -/
theorem versions_compared :
    (∀ major minor suffix : String,
      AreDigits major.toList → AreDigits minor.toList → IsSuffix suffix.toList →
        (string (major ++ suffix)).version? = (string (major ++ ".0.0" ++ suffix)).version? ∧
        (string (major ++ "." ++ minor ++ suffix)).version? =
          (string (major ++ "." ++ minor ++ ".0" ++ suffix)).version?) ∧
    (∀ text build : String, '+' ∉ text.toList →
      (string (text ++ "+" ++ build)).version? =
        if isBuild build.toList then (string text).version? else none) ∧
    ∀ (a b : AttributeValue) (prepared : Bool),
      (a.IsVersion ∧ b.IsVersion →
        ∃! op, op ∈ versionOperators ∧ op.test a b (op.given b prepared) = true) ∧
      (¬(a.IsVersion ∧ b.IsVersion) →
        ∀ op ∈ versionOperators, op.test a b (op.given b prepared) = false) ∧
      ∀ op ∈ versionOperators, op.test a b (op.given b prepared) = true ↔
        ∃ v w, a.version? = some v ∧ b.version? = some w ∧ op.Relates v w := by
  refine ⟨fun major minor suffix hmajor hminor hsuffix => ?_, fun text build hplus => ?_,
    fun a b prepared => ⟨?_, ?_, fun op hop => test_iff_relates hop a b prepared⟩⟩
  · exact ⟨version?_congr (ofLooseText?_major hmajor hsuffix),
      version?_congr (ofLooseText?_minor hmajor hminor hsuffix)⟩
  · -- the build metadata that was taken down is left out
    rw [version?, version?, ofLooseText?_build hplus]
    split_ifs
    · cases WrittenVersion.ofLooseText? text <;> rfl
    · rfl
  · rintro ⟨ha, hb⟩
    obtain ⟨v, hv⟩ := AttributeValue.isVersion_iff.mp ha
    obtain ⟨w, hw⟩ := AttributeValue.isVersion_iff.mp hb
    have htest : ∀ op, op ∈ versionOperators ∧ op.test a b (op.given b prepared) = true ↔
        op ∈ versionOperators ∧ op.Relates v w := by
      intro op
      refine and_congr_right fun hop => ?_
      rw [test_iff_relates hop]
      simp [hv, hw]
    simpa only [htest] using existsUnique_relates v w
  · intro hnot op hop
    apply eq_false_of_ne_true
    intro htest
    obtain ⟨v, w, hv, hw, -⟩ := (test_iff_relates hop a b prepared).mp htest
    exact hnot ⟨AttributeValue.isVersion_iff.mpr ⟨v, hv⟩, AttributeValue.isVersion_iff.mpr ⟨w, hw⟩⟩

open Operator Version in
/-- The candidate of a second version, with build metadata and without, and that version itself. -/
theorem versions_compared_candidate :
    (AreDigits "2".toList ∧ AreDigits "0".toList ∧ IsSuffix "-rc.1".toList ∧
      (string ("2" ++ "-rc.1")).version? = (string ("2" ++ ".0.0" ++ "-rc.1")).version? ∧
      (string ("2" ++ "." ++ "0" ++ "-rc.1")).version? =
        (string ("2" ++ "." ++ "0" ++ ".0" ++ "-rc.1")).version?) ∧
    ('+' ∉ "2-rc.1".toList ∧ isBuild "b7".toList = true ∧
      (string ("2-rc.1" ++ "+" ++ "b7")).version? = (string "2-rc.1").version?) ∧
    (AttributeValue.IsVersion (string "2-rc.1+b7") ∧ AttributeValue.IsVersion (string "2") ∧
      ∃! op, op ∈ versionOperators ∧
        op.test (string "2-rc.1+b7") (string "2") (op.given (string "2") true) = true) ∧
    (¬AttributeValue.IsVersion (.bool true) ∧
      ∀ op ∈ versionOperators, op.test (string "2") (.bool true) (op.given (.bool true) true) = false) := by
  have hmajor : AreDigits "2".toList := by simp [AreDigits, Text.isDigit]
  have hminor : AreDigits "0".toList := by simp [AreDigits, Text.isDigit]
  have hsuffix : IsSuffix "-rc.1".toList := by simp [IsSuffix]
  have hplus : '+' ∉ "2-rc.1".toList := by decide
  have hbuild : isBuild "b7".toList = true := by decide
  have hcandidate : AttributeValue.IsVersion (string "2-rc.1+b7") :=
    ⟨"2-rc.1+b7", ⟨⟨2, 0, 0, [.word "rc", .numeric 1]⟩, ["b7"]⟩, rfl, by decide +kernel⟩
  have hrelease : AttributeValue.IsVersion (string "2") := ⟨"2", ⟨⟨2, 0, 0, []⟩, []⟩, rfl, by decide +kernel⟩
  have hno : ¬AttributeValue.IsVersion (.bool true) := by
    rintro ⟨text, v, htext, -⟩
    cases htext
  obtain ⟨hpadded, hdropped, hcompared⟩ := versions_compared
  refine ⟨⟨hmajor, hminor, hsuffix, hpadded "2" "0" "-rc.1" hmajor hminor hsuffix⟩, ⟨hplus, hbuild, ?_⟩,
    ⟨hcandidate, hrelease, (hcompared _ _ true).1 ⟨hcandidate, hrelease⟩⟩, hno, ?_⟩
  · rw [hdropped "2-rc.1" "b7" hplus, if_pos hbuild]
  · exact (hcompared (string "2") (.bool true) true).2.1 fun h => hno h.2

end FeatureFlags
