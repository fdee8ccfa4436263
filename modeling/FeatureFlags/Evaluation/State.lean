import FeatureFlags.Evaluation.Catalog
import FeatureFlags.Evaluation.Detail

/-!
# The state of an evaluation

An evaluation remembers which flags and segments it is inside of, what it has learned about big segments,
and what it has recorded. `Evaluation` is a computation with this state, `Check` one that may also fail;
the state of a failed check is kept.
-/

namespace FeatureFlags

/-- A prerequisite that was evaluated for a flag, and its result. -/
structure PrerequisiteEvent where
  targetKey : String
  context : Context
  prerequisite : Flag
  result : Detail
  deriving Repr

/-- The state of an evaluation. -/
structure EvaluationState where
  /-- The own keys of the flags whose prerequisites are being checked. -/
  flagPath : List String
  /-- The keys of the segments that are being checked. -/
  segmentPath : List String
  /-- What the big segment store answered, by the key of the context. -/
  memberships : Entries (Option Membership)
  /-- The health of the big segment store as found so far. -/
  status : Option BigSegmentsStatus
  /-- Whether a flag turned out to be its own prerequisite. -/
  cycle : Bool
  /-- The prerequisites evaluated so far, in order. -/
  events : List PrerequisiteEvent
  /-- The hashes asked of the big segment store so far, in order. -/
  queries : List String

/-- The state before an evaluation. -/
def EvaluationState.initial : EvaluationState := ⟨[], [], [], none, false, [], []⟩

/-- What an evaluation is about: what it can see, the context, and the big segment store if there is
one. -/
structure Setting where
  catalog : Catalog
  context : Context
  bigSegments : Option BigSegmentStore

/-- A computation with the state of an evaluation. -/
abbrev Evaluation (α : Type) := StateM EvaluationState α

/-- A computation with the state of an evaluation that may fail. -/
abbrev Check (α : Type) := ExceptT EvaluationError (StateM EvaluationState) α

/-! ## Paths -/

/-- Carries out an evaluation inside of a flag. -/
def insideFlag {α : Type} (key : String) (action : Evaluation α) : Evaluation α := do
  modify fun s => { s with flagPath := key :: s.flagPath }
  let a ← action
  modify fun s => { s with flagPath := s.flagPath.erase key }
  return a

/-- Carries out a check inside of a segment. -/
def insideSegment {α : Type} (key : String) (action : Check α) : Check α := ExceptT.mk do
  modify fun s => { s with segmentPath := key :: s.segmentPath }
  let a ← action.run
  modify fun s => { s with segmentPath := s.segmentPath.erase key }
  return a

/-! ## Big segments -/

/-- The status to report after one more was found: the first one that is not healthy stays. -/
def BigSegmentsStatus.next (found : BigSegmentsStatus) : Option BigSegmentsStatus → BigSegmentsStatus
  | none | some .healthy => found
  | some s => s

/-- Records the health of the big segment store. -/
def recordStatus (found : BigSegmentsStatus) : Evaluation Unit :=
  modify fun s => { s with status := some (found.next s.status) }

/-- Fails since big segments are unavailable, and records why. -/
def unavailable {α : Type} (found : BigSegmentsStatus) : Check α := do
  recordStatus found
  throw .bigSegmentsUnavailable

/-- The memberships of a context by its key. The store is asked only if it has not answered for that key
before, and it is found as at the number of queries made so far. -/
def membershipOf (setting : Setting) (contextKey : String) : Check (Option Membership) := do
  match setting.bigSegments with
  | none => unavailable .notConfigured
  | some store =>
    let before ← get
    match Entries.get? contextKey before.memberships with
    | some known => return known
    | none =>
      modify fun s => { s with queries := s.queries ++ [bigSegmentHash contextKey] }
      match store.query before.queries.length contextKey with
      | .error _ => unavailable .storeError
      | .ok (membership, status) =>
        recordStatus status
        modify fun s => { s with memberships := s.memberships.insert contextKey membership }
        return membership

end FeatureFlags
