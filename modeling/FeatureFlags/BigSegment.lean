import FeatureFlags.Bucket

/-!
# Big segments

The members of big segments are kept in a store outside of the data set, which answers under the hash of
a context's key. The store lives on while a flag is evaluated: it may fail at one query and answer at the
next, and its data grows older. `BigSegmentStore` tells how each query finds it, and `BigSegments` is the
store as one query finds it.
-/

namespace FeatureFlags

/-- The big segments that a context is in and those that it is excluded from. -/
structure Membership where
  included : List String
  excluded : List String
  deriving DecidableEq, Repr

/-- Whether a context is in a segment, if anything is known about it. Inclusion goes before exclusion. -/
def Membership.check (m : Membership) (segment : String) : Option Bool :=
  if segment ∈ m.included then some true
  else if segment ∈ m.excluded then some false
  else none

/-- The health of a big segment store, as an evaluation found it. -/
inductive BigSegmentsStatus where
  | healthy
  | stale
  | notConfigured
  | storeError
  deriving DecidableEq, Repr

/-- The name of a status. -/
def BigSegmentsStatus.name : BigSegmentsStatus → String
  | healthy => "HEALTHY"
  | stale => "STALE"
  | notConfigured => "NOT_CONFIGURED"
  | storeError => "STORE_ERROR"

/-- What a big segment store says about its data. -/
inductive LastUpdate where
  /-- It cannot say anything. -/
  | unavailable
  /-- It does not know of any update. -/
  | unknown
  /-- The last update is this many nanoseconds old; it may lie in the future. -/
  | age (nanoseconds : Int)
  deriving DecidableEq, Repr

/-- A failed query to a big segment store. -/
structure QueryError where
  text : String
  deriving DecidableEq, Repr

/-- The wording of a failed query. -/
def QueryError.message (e : QueryError) : String := "big segment store query failed: " ++ e.text

/-- A big segment store as a query finds it: its answers by the hash of a context's key, what it says
about its data, and the age in nanoseconds beyond which the data is stale. -/
structure BigSegments where
  membership : String → Except QueryError (Option Membership)
  lastUpdate : LastUpdate
  staleAfter : Nat

namespace BigSegments

/-- The age beyond which data is stale unless something else is said: two minutes. -/
def defaultStaleAfter : Nat := 120 * 1000000000

/-- The health of a store that answers, judged by what it says about its data. -/
def status (b : BigSegments) : BigSegmentsStatus :=
  match b.lastUpdate with
  | .unavailable => .storeError
  | .unknown => .stale
  | .age ns => if ns ≤ b.staleAfter then .healthy else .stale

/-- The memberships of a context, and the health of the store. -/
def query (b : BigSegments) (contextKey : String) :
    Except QueryError (Option Membership × BigSegmentsStatus) :=
  (b.membership (bigSegmentHash contextKey)).map fun m => (m, b.status)

end BigSegments

/-- A big segment store in the course of an evaluation, whose queries are counted from zero: its answers at
each query, what it then says about its data, and the age beyond which the data is stale. -/
structure BigSegmentStore where
  membership : Nat → String → Except QueryError (Option Membership)
  lastUpdate : Nat → LastUpdate
  staleAfter : Nat

namespace BigSegmentStore

/-- The store as a query finds it. -/
def foundBy (store : BigSegmentStore) (number : Nat) : BigSegments :=
  ⟨store.membership number, store.lastUpdate number, store.staleAfter⟩

/-- What a query for a context gives. -/
def query (store : BigSegmentStore) (number : Nat) (contextKey : String) :
    Except QueryError (Option Membership × BigSegmentsStatus) :=
  (store.foundBy number).query contextKey

end BigSegmentStore

/-- A store that all queries find the same. -/
def BigSegments.unchanging (b : BigSegments) : BigSegmentStore :=
  ⟨fun _ => b.membership, fun _ => b.lastUpdate, b.staleAfter⟩

instance : Coe (Option BigSegments) (Option BigSegmentStore) := ⟨Option.map BigSegments.unchanging⟩

end FeatureFlags
