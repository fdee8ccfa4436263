import FeatureFlags.Stream.Error
import FeatureFlags.Stream.EventParser

/-!
# Bodies of streams

A body is what arrives on a connection: chunks of bytes, silences and failures. `deliver` says which events
it yields, and how it fails if it does. Nothing that comes after the first failure counts, and an event
that is not complete by then is never delivered.
-/

namespace FeatureFlags

/-- Something that happens on a connection. -/
inductive BodyPart where
  | chunk (bytes : List UInt8)
  | silence (duration : Nat)
  | failure (error : StreamError)
  deriving DecidableEq, Repr

/-- What a body yields: its events in order, and then its failure if there is one. -/
structure Delivery where
  events : List StreamEvent
  failure : Option StreamError
  deriving DecidableEq, Repr

/-- What the rest of a body yields, given for how long it has been silent. A silence that is longer than
the timeout is a failure. -/
def deliverFrom (timeout silent : Nat) (p : EventParser) : List BodyPart → Delivery
  | [] => ⟨[], none⟩
  | .chunk bytes :: rest =>
    let (events, p) := p.push bytes
    let later := deliverFrom timeout 0 p rest
    ⟨events ++ later.events, later.failure⟩
  | .silence duration :: rest =>
    if timeout < silent + duration then ⟨[], some .readTimeout⟩
    else deliverFrom timeout (silent + duration) p rest
  | .failure e :: _ => ⟨[], some e⟩

/-- What a body yields. -/
def deliver (timeout : Nat) (body : List BodyPart) : Delivery := deliverFrom timeout 0 .fresh body

end FeatureFlags
