import FeatureFlags.Flag.Rule
import FeatureFlags.Flag.Value

/-!
# Flags

A flag lists the values it can serve, its variations, and says who gets which: prerequisites, targets,
rules and a fallthrough while it is on, and one variation while it is off.
-/

namespace FeatureFlags

/-- Another flag that has to serve a given variation. -/
structure Prerequisite where
  key : String
  variation : Nat
  deriving DecidableEq, Repr

/-- The keys of one kind that get a variation. -/
structure Target where
  contextKind : Kind
  values : List String
  variation : Nat
  deriving DecidableEq, Repr

/-- Which applications outside of a server may use a flag. -/
structure ClientSideAvailability where
  usingMobileKey : Bool
  usingEnvironmentId : Bool
  deriving DecidableEq, Repr

/-- Settings of a migration. -/
structure MigrationSettings where
  checkRatio : Option Nat
  deriving DecidableEq, Repr

/-- A feature flag. -/
structure Flag where
  key : String
  version : Nat
  on : Bool
  targets : List Target
  contextTargets : List Target
  rules : List FlagRule
  prerequisites : List Prerequisite
  fallthrough : Outcome
  offVariation : Option Nat
  variations : List FlagValue
  clientSide : Bool
  clientSideAvailability : Option ClientSideAvailability
  salt : String
  trackEvents : Bool
  trackEventsFallthrough : Bool
  debugEventsUntilDate : Option Nat
  samplingRatio : Option Nat
  excludeFromSummaries : Bool
  migration : Option MigrationSettings
  deleted : Bool
  deriving Repr

open Json

/-! ## The parts of a flag in JSON -/

namespace Prerequisite

/-- The fields of a prerequisite. -/
def fields : Fields [String, Nat] :=
  .cons (.required "key" Decoder.string) <|
  .cons (.required "variation" (Decoder.natural 64)) <|
  .nil

/-- Decodes a prerequisite. -/
def decoder : Decoder Prerequisite :=
  Decoder.record fields fun (key, variation, ()) => ⟨key, variation⟩

/-- The document of a prerequisite. -/
def document (p : Prerequisite) : Document :=
  .object [("key", .string p.key), ("variation", .natural p.variation)]

end Prerequisite

namespace Target

/-- The fields of a target. -/
def fields : Fields [Kind, List String, Nat] :=
  .cons (.withDefault "contextKind" .user Kind.decoder) <|
  .cons (.list "values" Decoder.string) <|
  .cons (.required "variation" (Decoder.natural 64)) <|
  .nil

/-- Decodes a target. -/
def decoder : Decoder Target :=
  Decoder.record fields fun (contextKind, values, variation, ()) => ⟨contextKind, values, variation⟩

/-- The document of a target. -/
def document (t : Target) : Document :=
  .object <| (if t.contextKind.isUser then [] else [("contextKind", .string t.contextKind.name)]) ++
    [("values", .strings t.values), ("variation", .natural t.variation)]

end Target

namespace ClientSideAvailability

/-- The fields of an availability. -/
def fields : Fields [Bool, Bool] :=
  .cons (.flag "usingMobileKey") <| .cons (.flag "usingEnvironmentId") <| .nil

/-- Decodes an availability. -/
def decoder : Decoder ClientSideAvailability :=
  Decoder.record fields fun (mobile, environment, ()) => ⟨mobile, environment⟩

/-- The document of an availability. -/
def document (a : ClientSideAvailability) : Document :=
  .object [("usingMobileKey", .bool a.usingMobileKey),
    ("usingEnvironmentId", .bool a.usingEnvironmentId)]

end ClientSideAvailability

namespace MigrationSettings

/-- The fields of migration settings. -/
def fields : Fields [Option Nat] := .cons (.optional "checkRatio" (Decoder.natural 32)) .nil

/-- Decodes migration settings. -/
def decoder : Decoder MigrationSettings := Decoder.record fields fun (checkRatio, ()) => ⟨checkRatio⟩

/-- The document of migration settings. -/
def document (m : MigrationSettings) : Document :=
  .object (Document.member? "checkRatio" .natural m.checkRatio)

end MigrationSettings

/-! ## Flags in JSON -/

namespace Flag

/-- The types of the fields of a flag. -/
abbrev FieldTypes : List Type :=
  [String, Nat, Bool, List Target, List Target, List FlagRule, List Prerequisite, Outcome, Option Nat,
   List FlagValue, Bool, Option ClientSideAvailability, String, Bool, Bool, Option Nat, Option Nat,
   Bool, Option MigrationSettings, Bool]

/-- The fields of a flag. -/
def fields : Fields FieldTypes :=
  .cons (.required "key" Decoder.string) <|
  .cons (.required "version" (Decoder.natural 64)) <|
  .cons (.flag "on") <|
  .cons (.list "targets" Target.decoder) <|
  .cons (.list "contextTargets" Target.decoder) <|
  .cons (.list "rules" FlagRule.decoder) <|
  .cons (.list "prerequisites" Prerequisite.decoder) <|
  .cons (.withDefault "fallthrough" .malformed Outcome.decoder) <|
  .cons (.optional "offVariation" (Decoder.natural 64)) <|
  .cons (.list "variations" FlagValue.decoder) <|
  .cons (.flag "clientSide") <|
  .cons (.optional "clientSideAvailability" ClientSideAvailability.decoder) <|
  .cons (.withDefault "salt" "" Decoder.string) <|
  .cons (.flag "trackEvents") <|
  .cons (.flag "trackEventsFallthrough") <|
  .cons (.optional "debugEventsUntilDate" (Decoder.natural 64)) <|
  .cons (.optional "samplingRatio" (Decoder.natural 32)) <|
  .cons (.flag "excludeFromSummaries") <|
  .cons (.optional "migration" MigrationSettings.decoder) <|
  .cons (.flag "deleted") <|
  .nil

/-- The flag of its fields. -/
def ofRow : Row FieldTypes → Flag
  | (key, version, on, targets, contextTargets, rules, prerequisites, fallthrough, offVariation,
      variations, clientSide, clientSideAvailability, salt, trackEvents, trackEventsFallthrough,
      debugEventsUntilDate, samplingRatio, excludeFromSummaries, migration, deleted, ()) =>
    { key, version, on, targets, contextTargets, rules, prerequisites, fallthrough, offVariation,
      variations, clientSide, clientSideAvailability, salt, trackEvents, trackEventsFallthrough,
      debugEventsUntilDate, samplingRatio, excludeFromSummaries, migration, deleted }

/-- Decodes a flag. -/
def decoder : Decoder Flag := Decoder.record fields ofRow

/-- The document of a flag. -/
def document (f : Flag) : Document :=
  .object <|
    [("key", .string f.key), ("version", .natural f.version), ("on", .bool f.on),
     ("targets", .array (f.targets.map Target.document)),
     ("contextTargets", .array (f.contextTargets.map Target.document)),
     ("rules", .array (f.rules.map FlagRule.document)),
     ("prerequisites", .array (f.prerequisites.map Prerequisite.document)),
     ("fallthrough", f.fallthrough.document)] ++
    Document.member? "offVariation" .natural f.offVariation ++
    [("variations", .array (f.variations.map FlagValue.document))] ++
    Document.memberIfTrue "clientSide" f.clientSide ++
    Document.member? "clientSideAvailability" ClientSideAvailability.document
      f.clientSideAvailability ++
    [("salt", .string f.salt)] ++
    Document.memberIfTrue "trackEvents" f.trackEvents ++
    Document.memberIfTrue "trackEventsFallthrough" f.trackEventsFallthrough ++
    Document.member? "debugEventsUntilDate" .natural f.debugEventsUntilDate ++
    Document.member? "samplingRatio" .natural f.samplingRatio ++
    Document.memberIfTrue "excludeFromSummaries" f.excludeFromSummaries ++
    Document.member? "migration" MigrationSettings.document f.migration ++
    Document.memberIfTrue "deleted" f.deleted

/-- The text of a flag. -/
def encode (f : Flag) : String := f.document.text

/-- Decodes the text of a flag. -/
def decode (text : String) : Except DecodeError Flag := decoder.run text

/-- Whether two flags are equal, numbers being compared numerically. -/
def same (a b : Flag) : Bool :=
  a.key == b.key && a.version == b.version && a.on == b.on && a.targets == b.targets &&
    a.contextTargets == b.contextTargets && sameList FlagRule.same a.rules b.rules &&
    a.prerequisites == b.prerequisites && a.fallthrough.same b.fallthrough &&
    a.offVariation == b.offVariation && sameList FlagValue.same a.variations b.variations &&
    a.clientSide == b.clientSide && a.clientSideAvailability == b.clientSideAvailability &&
    a.salt == b.salt && a.trackEvents == b.trackEvents &&
    a.trackEventsFallthrough == b.trackEventsFallthrough &&
    a.debugEventsUntilDate == b.debugEventsUntilDate && a.samplingRatio == b.samplingRatio &&
    a.excludeFromSummaries == b.excludeFromSummaries && a.migration == b.migration &&
    a.deleted == b.deleted

/-! ## Availability -/

/-- Whether applications that know the environment only may use the flag. -/
def usingEnvironmentId (f : Flag) : Bool :=
  match f.clientSideAvailability with
  | some a => a.usingEnvironmentId
  | none => f.clientSide

/-- Whether mobile applications may use the flag; they may if nothing is said about it. -/
def usingMobileKey (f : Flag) : Bool :=
  match f.clientSideAvailability with
  | some a => a.usingMobileKey
  | none => true

end Flag
end FeatureFlags
