import FeatureFlags.Evaluation.State

/-!
# Checking clauses and segments

A clause with the operator `segmentMatch` asks whether the context is in one of the segments it names, and
the rules of a segment have clauses again. A segment that is being checked already, and one nested more
than `maxSegmentDepth` deep, counts as not containing the context.

The definitions are written over the check for nested segments; `Segment.containsAt` ties the knot. Its
number bounds the nesting, and the bound is never felt, since the length of the path reaches
`maxSegmentDepth` first.
-/

namespace FeatureFlags

/-- How deep segments may be nested in each other. -/
def maxSegmentDepth : Nat := 20

/-- How a nested segment is checked. -/
abbrev SegmentCheck := Segment → Check Bool

namespace Clause

/-- Whether the context is in one of the segments named by some values, read as the answer of a clause.
Values that are no texts and keys of no segment are passed over. -/
def matchesSegments (c : Clause) (nested : SegmentCheck) (setting : Setting) :
    List AttributeValue → Check Bool
  | [] => return c.maybeNegate false
  | v :: rest => do
    let some key := v.string? | c.matchesSegments nested setting rest
    let path := (← get).segmentPath
    if key ∈ path ∨ maxSegmentDepth ≤ path.length then c.matchesSegments nested setting rest
    else
      let some segment := setting.catalog.segment? key | c.matchesSegments nested setting rest
      if ← insideSegment key (nested segment) then return c.maybeNegate true
      else c.matchesSegments nested setting rest

/-- Checks a clause. -/
def checkWith (c : Clause) (nested : SegmentCheck) (setting : Setting) : Check Bool :=
  if c.op = .segmentMatch then c.matchesSegments nested setting c.values
  else return c.holds setting.context

end Clause

/-- Checks clauses one after the other; all have to hold. -/
def checkClauses (nested : SegmentCheck) (setting : Setting) : List Clause → Check Bool
  | [] => return true
  | c :: rest => do
    if ← c.checkWith nested setting then checkClauses nested setting rest else return false

namespace SegmentRule

/-- Whether a rule whose clauses hold admits the context: its bucket has to lie below the share of the
weight. A rule without a weight, and one with a negative weight, admits everybody. -/
def admits (r : SegmentRule) (key salt : String) (context : Context) :
    Except EvaluationError Bool :=
  match r.weight with
  | none => .ok true
  | some weight =>
    if Binary.le .zero weight then
      match context.bucket r.bucketBy (.keyAndSalt key salt) false (r.rolloutContextKind.getD .user) with
      | .ok placement => .ok (placement.bucket.lt (share weight))
      | .error _ => .error .malformedFlag
    else .ok true

/-- Checks a rule of a segment with this key and salt. -/
def checkWith (r : SegmentRule) (nested : SegmentCheck) (setting : Setting) (key salt : String) :
    Check Bool := do
  if ← checkClauses nested setting r.clauses then
    ExceptT.mk (pure (r.admits key salt setting.context))
  else return false

end SegmentRule

namespace Segment

/-- Checks rules one after the other; one has to match. -/
def checkRules (s : Segment) (nested : SegmentCheck) (setting : Setting) :
    List SegmentRule → Check Bool
  | [] => return false
  | r :: rest => do
    if ← r.checkWith nested setting s.key s.salt then return true else s.checkRules nested setting rest

/-- Whether an unbounded segment contains the context. One without a generation was never exported. -/
def containsUnbounded (s : Segment) (setting : Setting) : Check Bool :=
  match s.generation with
  | none => unavailable .notConfigured
  | some _ =>
    match setting.context.entity? (s.unboundedContextKind.getD .user) with
    | none => return false
    | some e => do
      let membership ← membershipOf setting e.key
      return ((membership.bind (·.check s.unboundedId)).getD false)

/-- Whether a segment contains the context: exclusion goes before inclusion, and both before the
rules. -/
def containsWith (s : Segment) (nested : SegmentCheck) (setting : Setting) : Check Bool :=
  if s.unbounded then s.containsUnbounded setting
  else if s.excludes setting.context then return false
  else if s.includes setting.context then return true
  else s.checkRules nested setting s.rules

/-- Whether a segment contains the context, where at most `depth` segments may be nested in it. -/
def containsAt (setting : Setting) : Nat → Segment → Check Bool
  | 0, s => s.containsWith (fun _ => return false) setting
  | depth + 1, s => s.containsWith (containsAt setting depth) setting

/-- How many segments may still be nested inside of the ones on the path. -/
def depthLeft (state : EvaluationState) : Nat := maxSegmentDepth - state.segmentPath.length

/-- Whether a segment contains the context. -/
def contains (s : Segment) (setting : Setting) : Check Bool := do
  containsAt setting (depthLeft (← get)) s

end Segment

/-- Whether a clause matches the context. -/
def Clause.check (c : Clause) (setting : Setting) : Check Bool := do
  c.checkWith (Segment.containsAt setting (Segment.depthLeft (← get) - 1)) setting

/-- Whether a rule matches the context. -/
def FlagRule.check (r : FlagRule) (setting : Setting) : Check Bool := do
  checkClauses (Segment.containsAt setting (Segment.depthLeft (← get) - 1)) setting r.clauses

end FeatureFlags
