import FeatureFlags.BigSegment
import FeatureFlags.Flag.Basic

/-!
# Results of evaluations

A `Detail` is a value with its place among the variations and the reason why it is served. `Flag.serve`
and `Flag.serveOff` make the details of a flag.
-/

namespace FeatureFlags

/-- Why a flag could not be evaluated. -/
inductive EvaluationError where
  | clientNotReady
  | flagNotFound
  | malformedFlag
  | wrongType
  | exception
  | bigSegmentsUnavailable
  deriving DecidableEq, Repr

/-- The name of an evaluation error. -/
def EvaluationError.name : EvaluationError → String
  | clientNotReady => "CLIENT_NOT_READY"
  | flagNotFound => "FLAG_NOT_FOUND"
  | malformedFlag => "MALFORMED_FLAG"
  | wrongType => "WRONG_TYPE"
  | exception => "EXCEPTION"
  | bigSegmentsUnavailable => "BIG_SEGMENTS_UNAVAILABLE"

/-- Why a value is served. -/
inductive Reason where
  | off
  | targetMatch
  | ruleMatch (index : Nat) (id : String) (inExperiment : Bool)
  | prerequisiteFailed (key : String)
  | fallthrough (inExperiment : Bool)
  | error (error : EvaluationError)
  deriving DecidableEq, Repr

namespace Reason

open Json

/-- The document of a reason: its kind and then what belongs to it. -/
def document : Reason → Document
  | off => .object [("kind", .string "OFF")]
  | targetMatch => .object [("kind", .string "TARGET_MATCH")]
  | ruleMatch index id inExperiment =>
    .object <| [("kind", .string "RULE_MATCH"), ("ruleIndex", .natural index)] ++
      (if id.isEmpty then [] else [("ruleId", .string id)]) ++
      Document.memberIfTrue "inExperiment" inExperiment
  | prerequisiteFailed key =>
    .object [("kind", .string "PREREQUISITE_FAILED"), ("prerequisiteKey", .string key)]
  | fallthrough inExperiment =>
    .object <| ("kind", .string "FALLTHROUGH") :: Document.memberIfTrue "inExperiment" inExperiment
  | error e => .object [("kind", .string "ERROR"), ("errorKind", .string e.name)]

/-- Whether the value was chosen in an experiment. -/
def inExperiment : Reason → Bool
  | ruleMatch _ _ b | fallthrough b => b
  | _ => false

end Reason

/-- The result of an evaluation. -/
structure Detail where
  value : Option FlagValue
  variationIndex : Option Nat
  reason : Reason
  bigSegmentsStatus : Option BigSegmentsStatus
  deriving Repr

namespace Detail

/-- A result without a value. -/
def empty (reason : Reason) : Detail := ⟨none, none, reason, none⟩

/-- A failed evaluation. -/
def error (e : EvaluationError) : Detail := empty (.error e)

/-- Turns a result without a value into an error. -/
def requireValue (d : Detail) (e : EvaluationError) : Detail :=
  match d.value with
  | some _ => d
  | none => { d with reason := .error e, variationIndex := none }

/-- Puts a default in place of a missing value, and keeps the reason. -/
def orElse (d : Detail) (default : FlagValue) : Detail :=
  match d.value with
  | some _ => d
  | none => { d with value := some default, variationIndex := none }

end Detail

namespace Flag

/-- Serves the variation at an index; an index out of range is an error. -/
def serve (f : Flag) (index : Nat) (reason : Reason) : Detail :=
  Detail.requireValue ⟨f.variations[index]?, some index, reason, none⟩ .malformedFlag

/-- Serves the off variation, or nothing at all. -/
def serveOff (f : Flag) (reason : Reason) : Detail :=
  match f.offVariation with
  | some index => f.serve index reason
  | none => Detail.empty reason

/-- The choice of an outcome of the flag for a context. An outcome that names nothing usable and one
that cannot be bucketed are errors. -/
def choose (f : Flag) (outcome : Outcome) (context : Context) : Except EvaluationError Choice :=
  match outcome.choose f.key context f.salt with
  | .ok (some choice) => .ok choice
  | .ok none => .error .malformedFlag
  | .error _ => .error .malformedFlag

/-- Serves the choice of an outcome, with a reason that knows whether it is part of an experiment. -/
def serveOutcome (f : Flag) (outcome : Outcome) (context : Context) (reason : Bool → Reason) : Detail :=
  match f.choose outcome context with
  | .ok choice => f.serve choice.variation (reason choice.inExperiment)
  | .error e => Detail.error e

/-- Whether evaluations with a reason are to be reported in full. -/
def reportsInFull (f : Flag) (reason : Reason) : Bool :=
  if reason.inExperiment then true
  else
    match reason with
    | .fallthrough _ => f.trackEventsFallthrough
    | .ruleMatch index _ _ => ((f.rules[index]?).map (·.trackEvents)).getD false
    | _ => false

end Flag
end FeatureFlags
