import FeatureFlags.Flag.Basic
import FeatureFlags.Proofs.Codec.Rules

/-!
# Codecs of flags and segments

A flag or a segment that was decoded, written and decoded again is the same, if each of its numbers can be
read again (`Flag.decode_encode`, `Segment.decode_encode`).
-/

namespace FeatureFlags

open Json

/-! ## The parts of a flag -/

namespace Prerequisite

/-- The codecs of the fields of a prerequisite. -/
def codecs : Codecs [String, Nat] :=
  .cons (.required "key" .string) <|
  .cons (.required "variation" .natural64) <|
  .nil

/-- Prerequisites with equal rows are equal. -/
lemma same_of_codecs {p p' : Prerequisite}
    (h : codecs.same (p.key, p.variation, ()) (p'.key, p'.variation, ()) = true) : p = p' := by
  obtain ⟨key, variation⟩ := p
  obtain ⟨key', variation'⟩ := p'
  simp only [codecs, Codecs.same, FieldCodec.same_required, Codec.same_string, Codec.same_natural64,
    Bool.and_eq_true, beq_iff_eq, Bool.and_true] at h
  rw [h.1, h.2]

/-- The codec of prerequisites. -/
def codec : Codec Prerequisite :=
  .record codecs (fun (key, variation, ()) => ⟨key, variation⟩) (fun p => (p.key, p.variation, ())) document
    (· == ·) (by decide) (fun _ => rfl) (fun _ => rfl) fun h => beq_iff_eq.mpr (same_of_codecs h)

@[simp] lemma same_codec : codec.same = (· == ·) := rfl

end Prerequisite

lemma Kind.isUser_iff (k : Kind) : k.isUser = true ↔ k = .user := beq_iff_eq

namespace Target

/-- The codecs of the fields of a target. -/
def codecs : Codecs [Kind, List String, Nat] :=
  .cons (.unlessDefault "contextKind" .user Kind.codec Kind.isUser Kind.isUser_iff (by decide)) <|
  .cons (.list "values" .string) <|
  .cons (.required "variation" .natural64) <|
  .nil

/-- A target is written field by field; its kind is left out if it is the user. -/
lemma document_eq (t : Target) :
    t.document = .object (codecs.members (t.contextKind, t.values, t.variation, ())) := by
  rw [document, memberUnless_eq]
  rfl

/-- Targets with equal rows are equal. -/
lemma same_of_codecs {t t' : Target}
    (h : codecs.same (t.contextKind, t.values, t.variation, ())
      (t'.contextKind, t'.values, t'.variation, ()) = true) : t = t' := by
  obtain ⟨kind, values, variation⟩ := t
  obtain ⟨kind', values', variation'⟩ := t'
  simp only [codecs, Codecs.same, FieldCodec.same_unlessDefault, FieldCodec.same_list,
    FieldCodec.same_required, Kind.codec, Codec.same_ofString, Codec.same_string, Codec.same_natural64,
    sameList_beq, Bool.and_eq_true, beq_iff_eq, Bool.and_true] at h
  rw [h.1, h.2.1, h.2.2]

/-- The codec of targets of flags. -/
def codec : Codec Target :=
  .record codecs (fun (contextKind, values, variation, ()) => ⟨contextKind, values, variation⟩)
    (fun t => (t.contextKind, t.values, t.variation, ())) document (· == ·) (by decide) document_eq
    (fun _ => rfl) fun h => beq_iff_eq.mpr (same_of_codecs h)

@[simp] lemma same_codec : codec.same = (· == ·) := rfl

end Target

namespace ClientSideAvailability

/-- The codecs of the fields of an availability. -/
def codecs : Codecs [Bool, Bool] :=
  .cons (.flag "usingMobileKey") <| .cons (.flag "usingEnvironmentId") <| .nil

/-- Settings of client side availability with equal rows are equal. -/
lemma same_of_codecs {a a' : ClientSideAvailability}
    (h : codecs.same (a.usingMobileKey, a.usingEnvironmentId, ())
      (a'.usingMobileKey, a'.usingEnvironmentId, ()) = true) : a = a' := by
  obtain ⟨mobile, environment⟩ := a
  obtain ⟨mobile', environment'⟩ := a'
  simp only [codecs, Codecs.same, FieldCodec.same_flag, Bool.and_eq_true, beq_iff_eq, Bool.and_true] at h
  rw [h.1, h.2]

/-- The codec of availabilities. -/
def codec : Codec ClientSideAvailability :=
  .record codecs (fun (mobile, environment, ()) => ⟨mobile, environment⟩)
    (fun a => (a.usingMobileKey, a.usingEnvironmentId, ())) document (· == ·) (by decide) (fun _ => rfl)
    (fun _ => rfl) fun h => beq_iff_eq.mpr (same_of_codecs h)

@[simp] lemma same_codec : codec.same = (· == ·) := rfl

end ClientSideAvailability

namespace MigrationSettings

/-- The codecs of the fields of migration settings. -/
def codecs : Codecs [Option Nat] := .cons (.optional "checkRatio" (.natural 32 (by decide)) nofun) .nil

lemma document_eq (m : MigrationSettings) : m.document = .object (codecs.members (m.checkRatio, ())) := by
  rw [document, member?_eq]
  simp only [codecs, Codecs.members, List.append_nil]
  rfl

/-- Settings of migrations with equal rows are equal. -/
lemma same_of_codecs {m m' : MigrationSettings}
    (h : codecs.same (m.checkRatio, ()) (m'.checkRatio, ()) = true) : m = m' := by
  obtain ⟨ratio⟩ := m
  obtain ⟨ratio'⟩ := m'
  simp only [codecs, Codecs.same, FieldCodec.same_optional, Codec.same_natural, sameOption_beq,
    beq_iff_eq, Bool.and_true] at h
  rw [h]

/-- The codec of migration settings. -/
def codec : Codec MigrationSettings :=
  .record codecs (fun (checkRatio, ()) => ⟨checkRatio⟩) (fun m => (m.checkRatio, ())) document (· == ·)
    (by decide) document_eq (fun _ => rfl) fun h => beq_iff_eq.mpr (same_of_codecs h)

@[simp] lemma same_codec : codec.same = (· == ·) := rfl

end MigrationSettings

/-! ## Flags -/

namespace Flag

/-- The codecs of the fields of a flag. -/
def codecs : Codecs FieldTypes :=
  .cons (.required "key" .string) <|
  .cons (.required "version" .natural64) <|
  .cons (.flag "on") <|
  .cons (.list "targets" Target.codec) <|
  .cons (.list "contextTargets" Target.codec) <|
  .cons (.list "rules" FlagRule.codec) <|
  .cons (.list "prerequisites" Prerequisite.codec) <|
  .cons (.withDefault "fallthrough" .malformed Outcome.codec fun room hroom =>
    ⟨.object .closed,
      bind_eq_ok.mpr ⟨room - 1, enter_eq_ok.mpr ⟨Nat.lt_of_le_of_lt (by decide) hroom, rfl⟩, rfl⟩⟩) <|
  .cons (.optional "offVariation" .natural64 Codec.decoder_natural64_null_ne) <|
  .cons (.list "variations" FlagValue.codec) <|
  .cons (.flagIfTrue "clientSide") <|
  .cons (.optional "clientSideAvailability" ClientSideAvailability.codec nofun) <|
  .cons (.withDefault "salt" "" .string Codec.exists_decoder_string_eq_empty) <|
  .cons (.flagIfTrue "trackEvents") <|
  .cons (.flagIfTrue "trackEventsFallthrough") <|
  .cons (.optional "debugEventsUntilDate" .natural64 Codec.decoder_natural64_null_ne) <|
  .cons (.optional "samplingRatio" (.natural 32 (by decide)) nofun) <|
  .cons (.flagIfTrue "excludeFromSummaries") <|
  .cons (.optional "migration" MigrationSettings.codec nofun) <|
  .cons (.flagIfTrue "deleted") <|
  .nil

/-- The values of the fields of a flag. -/
def row (f : Flag) : Row FieldTypes :=
  (f.key, f.version, f.on, f.targets, f.contextTargets, f.rules, f.prerequisites, f.fallthrough,
    f.offVariation, f.variations, f.clientSide, f.clientSideAvailability, f.salt, f.trackEvents,
    f.trackEventsFallthrough, f.debugEventsUntilDate, f.samplingRatio, f.excludeFromSummaries, f.migration,
    f.deleted, ())

/-- A flag is written field by field. -/
lemma document_eq (f : Flag) : f.document = .object (codecs.members f.row) := by
  simp only [document, member?_eq, memberIfTrue_eq]
  simp only [codecs, Codecs.members, row, List.append_nil, List.append_assoc]
  rfl

/-- Flags with equal rows are equal, numbers being compared numerically. -/
lemma same_of_codecs {f f' : Flag} (h : codecs.same f.row f'.row = true) : f.same f' = true := by
  simpa only [same, codecs, row, Codecs.same, FieldCodec.same_required, FieldCodec.same_flag,
    FieldCodec.same_list, FieldCodec.same_withDefault, FieldCodec.same_optional, FieldCodec.same_flagIfTrue,
    Codec.same_string, Codec.same_natural, Codec.same_natural64, Target.same_codec, FlagRule.same_codec,
    Prerequisite.same_codec, Outcome.same_codec, FlagValue.same_codec, ClientSideAvailability.same_codec,
    MigrationSettings.same_codec, sameList_beq, sameOption_beq, Bool.and_eq_true, and_assoc, and_true] using h

/-- The codec of flags. -/
def codec : Codec Flag :=
  .record codecs ofRow row document same (by decide) document_eq (fun _ => rfl) fun h => same_of_codecs h

/-- A flag whose numbers can be read again is restored. -/
theorem decode_encode {text : String} {f : Flag} (h : decode text = .ok f) (hlegible : codec.Legible f) :
    ∃ f', decode f.encode = .ok f' ∧ f.same f' = true :=
  codec.run_restores (by decide) h hlegible

end Flag

/-! ## Segments -/

namespace SegmentTarget

/-- The codecs of the fields of a list of keys. -/
def codecs : Codecs [List String, Kind] :=
  .cons (.list "values" .string) <|
  .cons (.withDefault "contextKind" .user Kind.codec fun _ _ => ⟨.string "user", rfl⟩) <|
  .nil

/-- Targets of segments with equal rows are equal. -/
lemma same_of_codecs {t t' : SegmentTarget}
    (h : codecs.same (t.values, t.contextKind, ()) (t'.values, t'.contextKind, ()) = true) : t = t' := by
  obtain ⟨values, kind⟩ := t
  obtain ⟨values', kind'⟩ := t'
  simp only [codecs, Codecs.same, FieldCodec.same_list, FieldCodec.same_withDefault, Kind.codec,
    Codec.same_ofString, Codec.same_string, sameList_beq, Bool.and_eq_true, beq_iff_eq, Bool.and_true] at h
  rw [h.1, h.2]

/-- The codec of lists of keys. -/
def codec : Codec SegmentTarget :=
  .record codecs (fun (values, kind, ()) => ⟨values, kind⟩) (fun t => (t.values, t.contextKind, ())) document
    (· == ·) (by decide) (fun _ => rfl) (fun _ => rfl) fun h => beq_iff_eq.mpr (same_of_codecs h)

@[simp] lemma same_codec : codec.same = (· == ·) := rfl

end SegmentTarget

namespace Segment

/-- The codecs of the fields of a segment. -/
def codecs : Codecs FieldTypes :=
  .cons (.required "key" .string) <|
  .cons (.required "version" .natural64) <|
  .cons (.list "included" .string) <|
  .cons (.list "excluded" .string) <|
  .cons (.list "includedContexts" SegmentTarget.codec) <|
  .cons (.list "excludedContexts" SegmentTarget.codec) <|
  .cons (.list "rules" SegmentRule.codec) <|
  .cons (.withDefault "salt" "" .string Codec.exists_decoder_string_eq_empty) <|
  .cons (.flagIfTrue "unbounded") <|
  .cons (.optional "unboundedContextKind" Kind.codec Kind.decoder_null_ne) <|
  .cons (.optional "generation" signed64Codec signed64Codec_null_ne) <|
  .cons (.flagIfTrue "deleted") <|
  .nil

/-- The values of the fields of a segment. -/
def row (s : Segment) : Row FieldTypes :=
  (s.key, s.version, s.included, s.excluded, s.includedContexts, s.excludedContexts, s.rules, s.salt,
    s.unbounded, s.unboundedContextKind, s.generation, s.deleted, ())

/-- A segment is written field by field. -/
lemma document_eq (s : Segment) : s.document = .object (codecs.members s.row) := by
  simp only [document, member?_eq, memberIfTrue_eq]
  simp only [codecs, Codecs.members, row, List.append_nil, List.append_assoc]
  rfl

/-- Segments with equal rows are equal, numbers being compared numerically. -/
lemma same_of_codecs {s s' : Segment} (h : codecs.same s.row s'.row = true) : s.same s' = true := by
  simpa only [same, codecs, row, Codecs.same, FieldCodec.same_required, FieldCodec.same_list,
    FieldCodec.same_withDefault, FieldCodec.same_optional, FieldCodec.same_flagIfTrue, Codec.same_string,
    Codec.same_natural64, Codec.same_ofString, Codec.same_integer, Kind.codec, signed64Codec,
    SegmentTarget.same_codec, SegmentRule.same_codec, sameList_beq, sameOption_beq, Bool.and_eq_true,
    and_assoc, and_true] using h

/-- The codec of segments. -/
def codec : Codec Segment :=
  .record codecs ofRow row document same (by decide) document_eq (fun _ => rfl) fun h => same_of_codecs h

/-- A segment whose numbers can be read again is restored. -/
theorem decode_encode {text : String} {s : Segment} (h : decode text = .ok s) (hlegible : codec.Legible s) :
    ∃ s', decode s.encode = .ok s' ∧ s.same s' = true :=
  codec.run_restores (by decide) h hlegible

end Segment

end FeatureFlags
