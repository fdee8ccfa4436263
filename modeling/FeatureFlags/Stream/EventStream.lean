import FeatureFlags.Stream.Body

/-!
# Event streams that are asked for items

A stream over a body gives one item for each request: an event, or the failure that ends it. Events that are ready
go first. When there are none, chunks are taken from the body until one of them completes an event, so the silence
that counts is the one before a chunk. After a failure nothing is taken from the body any more.
-/

namespace FeatureFlags

/-- An item of a stream. -/
abbrev StreamResult := Except StreamError StreamEvent

/-- A stream of events: what is left of the body, the reader of its bytes, the events that are ready, and whether
the stream has failed. -/
structure EventStream where
  body : List BodyPart
  parser : EventParser
  ready : List StreamEvent
  done : Bool
  deriving DecidableEq, Repr

namespace EventStream

/-- The stream over a body. -/
def ofBody (body : List BodyPart) : EventStream := ⟨body, .fresh, [], false⟩

/-- Takes parts from a body until there is an item, given for how long the body has been silent. -/
def await (timeout silent : Nat) (p : EventParser) : List BodyPart → Option (StreamResult × EventStream)
  | [] => none
  | .failure e :: rest => some (.error e, ⟨rest, p, [], true⟩)
  | .silence duration :: rest =>
    if timeout < silent + duration then some (.error .readTimeout, ⟨rest, p, [], true⟩)
    else await timeout (silent + duration) p rest
  | .chunk bytes :: rest =>
    match p.push bytes with
    | ([], p) => await timeout 0 p rest
    | (event :: ready, p) => some (.ok event, ⟨rest, p, ready, false⟩)

/-- The next item, if there is one. -/
def next? (timeout : Nat) (s : EventStream) : Option (StreamResult × EventStream) :=
  match s.ready with
  | event :: ready => some (.ok event, { s with ready })
  | [] => if s.done then none else await timeout 0 s.parser s.body

/-- The answer to the request with a number, counted from zero. A stream may be asked again after it has ended. -/
def answer (timeout : Nat) (s : EventStream) : Nat → Option StreamResult
  | 0 => (s.next? timeout).map Prod.fst
  | n + 1 =>
    match s.next? timeout with
    | some (_, s) => s.answer timeout n
    | none => s.answer timeout n

end EventStream
end FeatureFlags
