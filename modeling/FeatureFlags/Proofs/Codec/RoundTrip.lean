import FeatureFlags.Proofs.Codec.Numbers

/-!
# Flags and segments with plain numbers

Numbers are *plain* if they are integers that can be written without a point: in clauses those that a double
holds exactly, as weights those that single precision holds exactly, and in variations those that fit 64 bits
with a sign. A flag or a segment with plain numbers is written and decoded again without loss
(`restored_of_plainNumbers`).
-/

namespace FeatureFlags

open Json

/-- The numbers of a flag are plain integers. -/
structure Flag.PlainNumbers (f : Flag) : Prop where
  clauses : ∀ d ∈ f.clauseNumbers, ∃ i : ℤ, i.natAbs ≤ 2 ^ 53 - 1 ∧ d.HasValue i
  weights : ∀ w ∈ f.weights, ∃ i : ℤ, i.natAbs ≤ 2 ^ 24 ∧ w.HasValue i
  variations : ∀ n ∈ f.variationNumbers, ∃ i : ℤ, n = .integer i ∧ -2 ^ 63 ≤ i ∧ i < 2 ^ 63

/-- The numbers of a segment are plain integers. -/
structure Segment.PlainNumbers (s : Segment) : Prop where
  clauses : ∀ d ∈ s.clauseNumbers, ∃ i : ℤ, i.natAbs ≤ 2 ^ 53 - 1 ∧ d.HasValue i
  weights : ∀ w ∈ s.weights, ∃ i : ℤ, i.natAbs ≤ 2 ^ 24 ∧ w.HasValue i

/-- A small integer is written as an integer, and read as the same number. -/
lemma clauseNumberRestored_of_hasValue {d : Double} {i : ℤ} (hi : i.natAbs ≤ maxSafeInteger)
    (hd : d.HasValue i) : ClauseNumberRestored d := by
  have hsafe : maxSafeInteger = 9007199254740991 := rfl
  have hexact : d.toExactInt? = some i := Binary.toExactInt?_eq_some.mpr ⟨hd, hi⟩
  have hdocument : Document.exactDouble d = .integer i := by rw [Document.exactDouble, hexact]
  refine ⟨.integer i, ?_, Binary.eq_of_hasValue hd (Binary.double_hasValue_ofInt (by omega))⟩
  rw [hdocument]
  exact reads_integer (by omega) (by omega)

/-- Weights that are safe integers survive. -/
lemma weightRestored_of_hasValue {w : Single} {i : ℤ} (hi : i.natAbs ≤ maxSafeInteger) (hw : w.HasValue i) :
    WeightRestored w := by
  have hsafe : maxSafeInteger = 9007199254740991 := rfl
  have hdocument : Document.exactSingle w = .integer i := by
    rw [Document.exactSingle, Binary.toExactInt?_eq_some.mpr ⟨hw, hi⟩]
  obtain ⟨r, hr, hrank⟩ := hw.exists_rank
  rw [← Int.cast_abs, ← Nat.cast_natAbs] at hrank
  have hinteger : (Binary.ofInt i : Single).HasValue i := Binary.hasValue_ofInt_of_value (by decide) hr hrank
  refine ⟨.integer i, ?_, Binary.eq_of_hasValue hw hinteger⟩
  rw [hdocument]
  exact reads_integer (by omega) (by omega)

/-- Integers of 64 bits survive in variations. -/
lemma variationNumberRestored_integer {i : ℤ} (hleast : -2 ^ 63 ≤ i) (hgreatest : i < 2 ^ 64) :
    VariationNumberRestored (.integer i) :=
  ⟨.integer i, reads_integer (by omega) (by omega), beq_self_eq_true i⟩

/-- A flag with a number of each sort, as a generic value. -/
def numberedFlagValue : Value :=
  .object [("key", .string "f"), ("version", .number (.integer 1)),
    ("rules", .array [.object [("clauses", .array [.object [("values", .array [.number (.integer 5)])]]),
      ("rollout", .object [("variations", .array [.object [("variation", .number (.integer 0)),
        ("weight", .number (.integer 100000))]])])]]),
    ("variations", .array [.number (.integer (-7))])]

/-- The flag of `numberedFlagValue`. -/
def numberedFlag : Flag where
  key := "f"
  version := 1
  on := false
  targets := []
  contextTargets := []
  rules := [⟨"", [⟨none, .ofAttribute "" false, false, .unknown "", [.number (.ofInt 5)]⟩],
    .rollout ⟨false, none, none, [⟨0, .ofInt 100000, false⟩], none⟩, false⟩]
  prerequisites := []
  fallthrough := .malformed
  offVariation := none
  variations := [.int (-7)]
  clientSide := false
  clientSideAvailability := none
  salt := ""
  trackEvents := false
  trackEventsFallthrough := false
  debugEventsUntilDate := none
  samplingRatio := none
  excludeFromSummaries := false
  migration := none
  deleted := false

/-- A segment with a number of each sort, as a generic value. -/
def numberedSegmentValue : Value :=
  .object [("key", .string "s"), ("version", .number (.integer 1)),
    ("rules", .array [.object [("clauses", .array [.object [("values", .array [.number (.integer 5)])]]),
      ("weight", .number (.integer 50000))]])]

/-- The segment of `numberedSegmentValue`. -/
def numberedSegment : Segment where
  key := "s"
  version := 1
  included := []
  excluded := []
  includedContexts := []
  excludedContexts := []
  rules := [⟨none, [⟨none, .ofAttribute "" false, false, .unknown "", [.number (.ofInt 5)]⟩],
    some (.ofInt 50000), none, none⟩]
  salt := ""
  unbounded := false
  unboundedContextKind := none
  generation := none
  deleted := false

/-- Flags and segments with plain numbers are decoded from what they are encoded to. -/
theorem restored_of_plainNumbers :
    (∀ (text : String) (f : Flag), Flag.decode text = .ok f → f.PlainNumbers →
      ∃ f', Flag.decode f.encode = .ok f' ∧ f.same f' = true) ∧
    ∀ (text : String) (s : Segment), Segment.decode text = .ok s → s.PlainNumbers →
      ∃ s', Segment.decode s.encode = .ok s' ∧ s.same s' = true := by
  constructor
  · intro text f h hplain
    refine Flag.restored_of_numbers h ?_ ?_ fun v hv => FlagValue.legible_of_numbers ?_ ?_
    · intro d hd
      obtain ⟨i, hi, hvalue⟩ := hplain.clauses d hd
      exact clauseNumberRestored_of_hasValue hi hvalue
    · intro w hw
      obtain ⟨i, hi, hvalue⟩ := hplain.weights w hw
      exact weightRestored_of_hasValue (hi.trans (by decide)) hvalue
    -- the variations hold integers only, so none of their numbers is scaled
    · intro n hn
      obtain ⟨i, rfl, hleast, hgreatest⟩ := hplain.variations n (List.mem_flatMap.mpr ⟨v, hv, hn⟩)
      exact variationNumberRestored_integer hleast (by omega)
    · rintro i rfl
      obtain ⟨j, hj, -, hgreatest⟩ :=
        hplain.variations (.integer i) (List.mem_flatMap.mpr ⟨_, hv, List.mem_cons_self⟩)
      cases hj
      rw [maxSigned]
      omega
  · intro text s h hplain
    refine Segment.restored_of_numbers h ?_ ?_
    · intro d hd
      obtain ⟨i, hi, hvalue⟩ := hplain.clauses d hd
      exact clauseNumberRestored_of_hasValue hi hvalue
    · intro w hw
      obtain ⟨i, hi, hvalue⟩ := hplain.weights w hw
      exact weightRestored_of_hasValue (hi.trans (by decide)) hvalue

/-- A flag and a segment with integers are restored. -/
theorem restored_numbered :
    (Flag.decode (Document.ofValue numberedFlagValue).text = .ok numberedFlag ∧ numberedFlag.PlainNumbers ∧
      ∃ f', Flag.decode numberedFlag.encode = .ok f' ∧ numberedFlag.same f' = true) ∧
    (Segment.decode (Document.ofValue numberedSegmentValue).text = .ok numberedSegment ∧
      numberedSegment.PlainNumbers ∧
      ∃ s', Segment.decode numberedSegment.encode = .ok s' ∧ numberedSegment.same s' = true) := by
  have hflag : Flag.decode (Document.ofValue numberedFlagValue).text = .ok numberedFlag :=
    (reads_ofValue (by
      simp [numberedFlagValue, Value.numbers, Value.numbersOfMembers, Value.numbersOfItems])).run Flag.decoder
  have hsegment : Segment.decode (Document.ofValue numberedSegmentValue).text = .ok numberedSegment :=
    (reads_ofValue (by
      simp [numberedSegmentValue, Value.numbers, Value.numbersOfMembers, Value.numbersOfItems])).run Segment.decoder
  have hclauses : ∀ d ∈ [(.ofInt 5 : Double)], ∃ i : ℤ, i.natAbs ≤ 2 ^ 53 - 1 ∧ d.HasValue i := by
    simp only [List.mem_singleton, forall_eq]
    exact ⟨5, by decide, Binary.double_hasValue_ofInt (by decide)⟩
  have hweight : ∀ i : ℤ, i.natAbs ≤ 2 ^ 24 → ∀ w ∈ [(.ofInt i : Single)],
      ∃ i : ℤ, i.natAbs ≤ 2 ^ 24 ∧ w.HasValue i := by
    intro i hi
    simp only [List.mem_singleton, forall_eq]
    exact ⟨i, hi, Binary.single_hasValue_ofInt hi⟩
  have hflagPlain : numberedFlag.PlainNumbers := ⟨hclauses, hweight 100000 (by decide), by
    simp [numberedFlag, Flag.variationNumbers, FlagValue.numbers]⟩
  have hsegmentPlain : numberedSegment.PlainNumbers := ⟨hclauses, hweight 50000 (by decide)⟩
  exact ⟨⟨hflag, hflagPlain, restored_of_plainNumbers.1 _ _ hflag hflagPlain⟩,
    hsegment, hsegmentPlain, restored_of_plainNumbers.2 _ _ hsegment hsegmentPlain⟩

end FeatureFlags
