import FeatureFlags.Proofs.Binary.Values
import FeatureFlags.Proofs.Codec.Flags

/-!
# The numbers of flags and segments

A flag or a segment is restored if its numbers are: those in the values of its clauses, its weights and those
in its variations. Everything else is restored whatever it is (`Flag.restored_of_numbers`,
`Segment.restored_of_numbers`).
-/

namespace FeatureFlags

open Json

/-! ## Collecting numbers -/

/-- The numbers of a flag value, each with its kind. -/
def FlagValue.numbers : FlagValue → List Number
  | int i => [.integer i]
  | float d => [.double d]
  | json v => v.numbers
  | _ => []

/-- The numbers that a clause compares with. -/
def Clause.numbers (c : Clause) : List Double := AttributeValue.numbersOfItems c.values

/-- The weights of an outcome. -/
def Outcome.weights : Outcome → List Single
  | rollout r => r.variations.map (·.weight)
  | _ => []

namespace Flag

/-- The numbers that the clauses of a flag compare with. -/
def clauseNumbers (f : Flag) : List Double := f.rules.flatMap fun r => r.clauses.flatMap Clause.numbers

/-- The weights of the rollouts of a flag. -/
def weights (f : Flag) : List Single := f.fallthrough.weights ++ f.rules.flatMap (·.outcome.weights)

/-- The numbers in the variations of a flag. -/
def variationNumbers (f : Flag) : List Number := f.variations.flatMap FlagValue.numbers

end Flag

namespace Segment

/-- The numbers that the clauses of a segment compare with. -/
def clauseNumbers (s : Segment) : List Double := s.rules.flatMap fun r => r.clauses.flatMap Clause.numbers

/-- The weights of the rules of a segment. -/
def weights (s : Segment) : List Single := s.rules.filterMap (·.weight)

end Segment

/-! ## Restoring numbers -/

/-- A number of a clause is restored. -/
def ClauseNumberRestored (d : Double) : Prop := Recovers (fun n => d.eq n.toDouble) (.exactDouble d)

/-- A weight is restored. -/
def WeightRestored (w : Single) : Prop := Recovers (fun n => w.eq n.toSingle) (.exactSingle w)

/-- A number of a variation is restored, and is of the same kind. -/
def VariationNumberRestored (n : Number) : Prop :=
  Recovers (fun n' => Value.same (.number n) (.number n')) (Document.ofValue (.number n))

/-- The numbers of a value are among those of a list with this value. -/
lemma mem_numbersOfItems {a : AttributeValue} {as : List AttributeValue} (h : a ∈ as) {d : Double}
    (hd : d ∈ a.numbers) : d ∈ AttributeValue.numbersOfItems as := by
  induction as with
  | nil => cases h
  | cons b as ih =>
    rw [AttributeValue.numbersOfItems]
    rcases List.mem_cons.mp h with rfl | h
    · exact List.mem_append_left _ hd
    · exact List.mem_append_right _ (ih h)

/-- A clause is legible if its numbers are restored. -/
lemma Clause.legible {c : Clause} (h : ∀ d ∈ c.numbers, ClauseNumberRestored d) : codec.Legible c :=
  ⟨fun _ _ => trivial, trivial, trivial, trivial,
    fun _ ha _ hd => h _ (mem_numbersOfItems ha hd), trivial⟩

lemma WeightedVariation.legible {v : WeightedVariation} (h : WeightRestored v.weight) : codec.Legible v :=
  ⟨trivial, h, trivial, trivial⟩

/-- A rollout is legible if its weights are restored. -/
lemma Rollout.legible {r : Rollout} (h : ∀ v ∈ r.variations, WeightRestored v.weight) : codec.Legible r :=
  ⟨trivial, fun _ _ => trivial, fun _ _ => trivial, fun v hv => WeightedVariation.legible (h v hv),
    fun _ _ => trivial, trivial⟩

lemma Outcome.legible_parts {o : Outcome} (h : ∀ w ∈ o.weights, WeightRestored w) :
    ∀ r, o.row.2.1 = some r → Rollout.codec.Legible r := by
  intro r hr
  cases o with
  | rollout r' =>
    cases hr
    exact Rollout.legible fun v hv => h _ (List.mem_map_of_mem hv)
  | variation _ | malformed => cases hr

/-- An outcome is legible if its weights are restored. -/
lemma Outcome.legible {o : Outcome} (h : ∀ w ∈ o.weights, WeightRestored w) : codec.Legible o :=
  ⟨fun _ _ => trivial, Outcome.legible_parts h, trivial⟩

/-- A rule is legible if the numbers of its clauses and its weights are restored. -/
lemma FlagRule.legible {r : FlagRule} (hclauses : ∀ c ∈ r.clauses, ∀ d ∈ c.numbers, ClauseNumberRestored d)
    (hweights : ∀ w ∈ r.outcome.weights, WeightRestored w) : codec.Legible r :=
  ⟨trivial, fun c hc => Clause.legible (hclauses c hc), fun _ _ => trivial, Outcome.legible_parts hweights,
    trivial, trivial⟩

/-- A rule of a segment is legible if the numbers of its clauses and its weight are restored. -/
lemma SegmentRule.legible {r : SegmentRule}
    (hclauses : ∀ c ∈ r.clauses, ∀ d ∈ c.numbers, ClauseNumberRestored d)
    (hweight : ∀ w, r.weight = some w → WeightRestored w) : codec.Legible r :=
  ⟨fun _ _ => trivial, fun c hc => Clause.legible (hclauses c hc), hweight, fun _ _ => trivial,
    fun _ _ => trivial, trivial⟩

/-- Prerequisites have no numbers that could be lost. -/
lemma Prerequisite.legible {p : Prerequisite} : codec.Legible p := ⟨trivial, trivial, trivial⟩

lemma Target.legible {t : Target} : codec.Legible t := ⟨trivial, fun _ _ => trivial, trivial, trivial⟩

lemma ClientSideAvailability.legible {a : ClientSideAvailability} : codec.Legible a :=
  ⟨trivial, trivial, trivial⟩

lemma MigrationSettings.legible {m : MigrationSettings} : codec.Legible m := ⟨fun _ _ => trivial, trivial⟩

lemma SegmentTarget.legible {t : SegmentTarget} : codec.Legible t :=
  ⟨fun _ _ => trivial, trivial, trivial⟩

/-- A number that is the same as a generic value is the same as a value of a flag. -/
lemma FlagValue.same_ofNumber {n n' : Number} (h : Value.same (.number n) (.number n') = true) :
    (ofNumber n).same (ofNumber n') = true := by
  cases n with
  | integer i =>
    cases n' with
    | integer j =>
      obtain rfl : i = j := beq_iff_eq.mp h
      rw [ofNumber]
      split_ifs
      · exact beq_self_eq_true i
      · exact beq_self_eq_true _
    | double _ => cases h
  | double d =>
    cases n' with
    | integer _ => cases h
    | double _ => exact h

/-- A variation is legible if its numbers are restored and its integer is a signed one. -/
lemma FlagValue.legible_of_numbers {v : FlagValue} (h : ∀ n ∈ v.numbers, VariationNumberRestored n)
    (hint : ∀ i, v = int i → i ≤ maxSigned) : v.Legible := by
  cases v with
  | int i =>
    obtain ⟨n, hreads, hsame⟩ := h _ List.mem_cons_self
    refine ⟨n, hreads, ?_⟩
    have hofNumber : ofNumber (.integer i) = int i := if_pos (hint i rfl)
    rw [← hofNumber]
    exact same_ofNumber hsame
  | float d =>
    obtain ⟨n, hreads, hsame⟩ := h _ List.mem_cons_self
    exact ⟨n, hreads, same_ofNumber (n := .double d) hsame⟩
  | json v => exact h
  | bool _ | string _ => trivial

/-- A flag is restored if its numbers are. -/
theorem Flag.restored_of_numbers {text : String} {f : Flag} (h : decode text = .ok f)
    (hclauses : ∀ d ∈ f.clauseNumbers, ClauseNumberRestored d) (hweights : ∀ w ∈ f.weights, WeightRestored w)
    (hvariations : ∀ v ∈ f.variations, v.Legible) : ∃ f', decode f.encode = .ok f' ∧ f.same f' = true := by
  refine decode_encode h ?_
  have hrules : ∀ r ∈ f.rules, FlagRule.codec.Legible r := fun r hr =>
    FlagRule.legible
      (fun c hc d hd => hclauses d (List.mem_flatMap.mpr ⟨r, hr, List.mem_flatMap.mpr ⟨c, hc, hd⟩⟩))
      fun w hw => hweights w (List.mem_append_right _ (List.mem_flatMap.mpr ⟨r, hr, hw⟩))
  have hfallthrough : Outcome.codec.Legible f.fallthrough :=
    Outcome.legible fun w hw => hweights w (List.mem_append_left _ hw)
  exact ⟨trivial, trivial, trivial, fun _ _ => Target.legible, fun _ _ => Target.legible, hrules,
    fun _ _ => Prerequisite.legible, hfallthrough, fun _ _ => trivial, hvariations, trivial,
    fun _ _ => ClientSideAvailability.legible, trivial, trivial, trivial, fun _ _ => trivial,
    fun _ _ => trivial, trivial, fun _ _ => MigrationSettings.legible, trivial, trivial⟩

/-- A segment is restored if its numbers are. -/
theorem Segment.restored_of_numbers {text : String} {s : Segment} (h : decode text = .ok s)
    (hclauses : ∀ d ∈ s.clauseNumbers, ClauseNumberRestored d) (hweights : ∀ w ∈ s.weights, WeightRestored w) :
    ∃ s', decode s.encode = .ok s' ∧ s.same s' = true := by
  refine decode_encode h ?_
  have hrules : ∀ r ∈ s.rules, SegmentRule.codec.Legible r := fun r hr =>
    SegmentRule.legible
      (fun c hc d hd => hclauses d (List.mem_flatMap.mpr ⟨r, hr, List.mem_flatMap.mpr ⟨c, hc, hd⟩⟩))
      fun w hw => hweights w (List.mem_filterMap.mpr ⟨r, hr, hw⟩)
  exact ⟨trivial, trivial, fun _ _ => trivial, fun _ _ => trivial, fun _ _ => SegmentTarget.legible,
    fun _ _ => SegmentTarget.legible, hrules, trivial, trivial, fun _ _ => trivial, fun _ _ => trivial, trivial,
    trivial⟩

end FeatureFlags
