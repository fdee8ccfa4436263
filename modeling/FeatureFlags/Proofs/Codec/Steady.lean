import FeatureFlags.Proofs.Codec.Flags
import FeatureFlags.Proofs.Json.Alike

/-!
# The decoders of flags and segments are steady

Flags and segments are decoded to the same result off a text and off the generic value of the text
(`Flag.steady_decoder`, `Segment.steady_decoder`).
-/

namespace FeatureFlags

open Json

lemma Kind.steady_decoder : Steady Kind.decoder := Steady.string.map _

lemma Operator.steady_decoder : Steady Operator.decoder := Steady.string.map _

/-- A value of an attribute is decoded off a text as off its generic value. -/
lemma AttributeValue.steady_decoder : Steady AttributeValue.decoder := by
  have heq : AttributeValue.decoder = Decoder.map ofValue Decoder.value := by
    funext room t
    exact ofTree_eq room t
  rw [heq]
  exact Steady.value.map _

/-- A variation is decoded off a text as off its generic value. -/
lemma FlagValue.steady_decoder : Steady FlagValue.decoder := by
  have heq : FlagValue.decoder = Decoder.map ofValue Decoder.value := by
    funext room t
    exact decoder_eq room t
  rw [heq]
  exact Steady.value.map _

namespace Json.Steady

variable {α : Type} {d : Decoder α}

/-- The reader of a list that may be null. -/
theorem listField (h : Steady d) : Steady (Decoder.orDefault [] (Decoder.list d)) := h.list.orDefault _

end Json.Steady

lemma Clause.steady_decoder : Steady Clause.decoder :=
  .record Clause.fields (by decide) ⟨Kind.steady_decoder.optional, .string, .bool, Operator.steady_decoder,
    AttributeValue.steady_decoder.listField, trivial⟩ _

lemma WeightedVariation.steady_decoder : Steady WeightedVariation.decoder :=
  .record WeightedVariation.fields (by decide) ⟨.natural 64, .single, .bool, trivial⟩ _

lemma Rollout.steady_decoder : Steady Rollout.decoder :=
  .record Rollout.fields (by decide) ⟨Steady.string.optional.map _, Kind.steady_decoder.optional,
    Steady.string.optional, WeightedVariation.steady_decoder.listField, (Steady.integer _ _).optional, trivial⟩ _

/-- The members of an outcome are decoded alike, wherever they stand. -/
lemma Outcome.steady_fields : Steady.OfFields Outcome.fields :=
  ⟨(Steady.natural 64).optional, Rollout.steady_decoder.optional, trivial⟩

lemma Outcome.steady_decoder : Steady Outcome.decoder :=
  .record Outcome.fields (by decide) Outcome.steady_fields _

lemma FlagRule.steady_fields : Steady.OfFields FlagRule.fields :=
  ⟨.string, Clause.steady_decoder.listField, .bool, trivial⟩

/-- A rule keeps the members that its outcome is read from, and reads them alike. -/
lemma FlagRule.steady_decoder : Steady FlagRule.decoder := by
  refine .intro (fun {room room' t} ht hroom hroom' => ?_) (fun _ _ _ => rfl)
    fun {n room room' ms ms'} hms hms' hlook hroom hroom' => ?_
  · cases t <;> first | rfl | cases ht
  · obtain ⟨hthrough, -⟩ := readThrough_members hms hms' hlook hroom
    obtain ⟨-, hthrough'⟩ := readThrough_members hms hms' hlook hroom'
    rw [decoder_ofTrees (show 1 < room + 1 by omega) hms fun m hm => hthrough m (List.mem_of_mem_filter hm),
      decoder_ofTrees (show 1 < room' + 1 by omega) hms' fun m hm => hthrough' m (List.mem_of_mem_filter hm)]
    have hfields := Steady.find hroom hroom' hlook FlagRule.steady_fields
    have houtcome := Steady.find hroom hroom' hlook Outcome.steady_fields
    simp only [Nat.add_sub_cancel, hfields, houtcome]

lemma SegmentRule.steady_decoder : Steady SegmentRule.decoder :=
  .record SegmentRule.fields (by decide) ⟨Steady.string.optional, Clause.steady_decoder.listField,
    Steady.single.optional, Steady.string.optional, Kind.steady_decoder.optional, trivial⟩ _

lemma Prerequisite.steady_decoder : Steady Prerequisite.decoder :=
  .record Prerequisite.fields (by decide) ⟨.string, .natural 64, trivial⟩ _

lemma Target.steady_decoder : Steady Target.decoder :=
  .record Target.fields (by decide) ⟨Kind.steady_decoder, Steady.string.listField, .natural 64, trivial⟩ _

lemma ClientSideAvailability.steady_decoder : Steady ClientSideAvailability.decoder :=
  .record ClientSideAvailability.fields (by decide) ⟨.bool, .bool, trivial⟩ _

lemma MigrationSettings.steady_decoder : Steady MigrationSettings.decoder :=
  .record MigrationSettings.fields (by decide) ⟨(Steady.natural 32).optional, trivial⟩ _

/-- A flag is decoded off a text as off its generic value. -/
theorem Flag.steady_decoder : Steady Flag.decoder :=
  .record Flag.fields (by decide)
    ⟨.string, .natural 64, .bool, Target.steady_decoder.listField, Target.steady_decoder.listField,
      FlagRule.steady_decoder.listField, Prerequisite.steady_decoder.listField, Outcome.steady_decoder,
      (Steady.natural 64).optional, FlagValue.steady_decoder.listField, .bool,
      ClientSideAvailability.steady_decoder.optional, .string, .bool, .bool, (Steady.natural 64).optional,
      (Steady.natural 32).optional, .bool, MigrationSettings.steady_decoder.optional, .bool, trivial⟩ _

lemma SegmentTarget.steady_decoder : Steady SegmentTarget.decoder :=
  .record SegmentTarget.fields (by decide) ⟨Steady.string.listField, Kind.steady_decoder, trivial⟩ _

/-- A segment is decoded off a text as off its generic value. -/
theorem Segment.steady_decoder : Steady Segment.decoder :=
  .record Segment.fields (by decide)
    ⟨.string, .natural 64, Steady.string.listField, Steady.string.listField,
      SegmentTarget.steady_decoder.listField, SegmentTarget.steady_decoder.listField,
      SegmentRule.steady_decoder.listField, .string, .bool, Kind.steady_decoder.optional,
      (Steady.integer _ _).optional, .bool, trivial⟩ _

end FeatureFlags
