import FeatureFlags.Evaluation.Segment

/-!
# Evaluating flags

A flag that is on first has all of its prerequisites evaluated: each has to be on and to serve the wanted
variation. Then targets, rules and the fallthrough decide in this order. A flag that turns out to be its
own prerequisite spoils the whole evaluation.

The definitions are written over the evaluation of prerequisites; `Flag.evaluateAt` ties the knot. Its
number bounds the nesting. It starts as the number of different flag keys, and since no key is twice on
the path, the bound is never felt.
-/

namespace FeatureFlags

/-! ## Targets -/

/-- The variation of a target that lists the context. -/
def Target.variationFor? (t : Target) (context : Context) : Option Nat :=
  match context.entity? t.contextKind with
  | none => none
  | some e => if t.values.contains e.key then some t.variation else none

namespace Flag

/-- The variation of the first target that lists the context. Where the flag has targets by kind, one of
kind `user` without keys stands for the older targets of the same variation. -/
def targetVariation? (f : Flag) (context : Context) : Option Nat :=
  if f.contextTargets.isEmpty then f.targets.findSome? (·.variationFor? context)
  else
    f.contextTargets.findSome? fun t =>
      if t.contextKind.isUser && t.values.isEmpty then
        (f.targets.filter (·.variation == t.variation)).findSome? (·.variationFor? context)
      else t.variationFor? context

/-! ## Rules and fallthrough -/

/-- Serves by the first rule that matches, or by the fallthrough. A rule that fails is the result. -/
def decideByRules (f : Flag) (setting : Setting) : List (FlagRule × Nat) → Evaluation Detail
  | [] => return f.serveOutcome f.fallthrough setting.context .fallthrough
  | (rule, index) :: rest => do
    match ← (rule.check setting).run with
    | .error e => return Detail.error e
    | .ok true => return f.serveOutcome rule.outcome setting.context (.ruleMatch index rule.id)
    | .ok false => f.decideByRules setting rest

/-- Serves by targets, rules and fallthrough. -/
def decide (f : Flag) (setting : Setting) : Evaluation Detail :=
  match f.targetVariation? setting.context with
  | some index => return f.serve index .targetMatch
  | none => f.decideByRules setting f.rules.zipIdx

/-! ## Prerequisites -/

/-- Evaluates prerequisites one after the other. If one is not met this is the result of the flag. -/
def checkPrerequisites (f : Flag) (nested : Flag → Evaluation Detail) (setting : Setting) :
    List Prerequisite → Evaluation (Option Detail)
  | [] => return none
  | p :: rest => do
    let some flag := setting.catalog.flag? p.key
      | return some (f.serveOff (.prerequisiteFailed p.key))
    let result ← nested flag
    if (← get).cycle then return some (Detail.error .malformedFlag)
    else
      modify fun s => { s with events := s.events ++ [⟨f.key, setting.context, flag, result⟩] }
      if !flag.on || result.variationIndex != some p.variation then
        return some (f.serveOff (.prerequisiteFailed p.key))
      else f.checkPrerequisites nested setting rest

/-- Evaluates a flag. -/
def evaluateWith (f : Flag) (nested : Flag → Evaluation Detail) (setting : Setting) :
    Evaluation Detail := do
  if !f.on then return f.serveOff .off
  else if f.key ∈ (← get).flagPath then
    modify fun s => { s with cycle := true }
    return Detail.error .malformedFlag
  else
    match ← insideFlag f.key (f.checkPrerequisites nested setting f.prerequisites) with
    | some result => return result
    | none => f.decide setting

/-- Evaluates a flag, where at most `depth` flags may be nested in it. -/
def evaluateAt (setting : Setting) : Nat → Flag → Evaluation Detail
  | 0, f => f.evaluateWith (fun _ => return Detail.error .malformedFlag) setting
  | depth + 1, f => f.evaluateWith (evaluateAt setting depth) setting

/-- The number of different own keys of a flag and the flags of a catalog. -/
def keyCount (f : Flag) (catalog : Catalog) : Nat := (f.key :: catalog.ownKeys).eraseDups.length

/-- Evaluates a flag as it comes, with the state it leaves behind. -/
def run (f : Flag) (setting : Setting) (state : EvaluationState) : Detail × EvaluationState :=
  (evaluateAt setting (f.keyCount setting.catalog) f).run state

end Flag

/-- The outcome of an evaluation: its result, the prerequisites that were evaluated and the hashes that
were asked of the big segment store. -/
structure EvaluationResult where
  detail : Detail
  events : List PrerequisiteEvent
  queries : List String

/-- Evaluates a flag for a context. The result tells the health of the big segment store if it was
consulted. -/
def Flag.evaluate (f : Flag) (setting : Setting) : EvaluationResult :=
  let (detail, state) := f.run setting .initial
  { detail := { detail with bigSegmentsStatus := state.status }
    events := state.events
    queries := state.queries }

end FeatureFlags
