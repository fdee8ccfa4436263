import FeatureFlags.Stream.Backoff
import FeatureFlags.Stream.Error
import FeatureFlags.Stream.EventParser

/-!
# The synchronizer

Two activities keep a store in step with a stream. The *reader* opens connections one after the other,
decodes the events of each and puts messages into a queue: an update for each event that carries one, and
a failure at the end of each connection. The *applier* takes the messages out in order, applies them to the
store and publishes a status. A shutdown stops the reader, and the applier finishes what is in the queue.

`Synchronizer.perform?` lists the actions that can happen, one at a time and in any order that their
conditions admit. Times are in milliseconds; the connections that a source will offer are given as a
script.
-/

namespace FeatureFlags

/-- Something that an open connection delivers. -/
inductive StreamItem where
  | event (event : StreamEvent)
  | pause (duration : Nat)
  | failure (error : StreamError)
  deriving DecidableEq, Repr

/-- What comes of an attempt to connect, after a delay: an error, or items and then either silence or the
end of the stream. -/
inductive Connection where
  | refused (delay : Nat) (error : StreamError)
  | opened (delay : Nat) (items : List StreamItem) (staysOpen : Bool)
  deriving DecidableEq, Repr

/-- The time that passes before an attempt to connect is settled. -/
def Connection.delay : Connection → Nat
  | refused delay _ => delay
  | opened delay _ _ => delay

/-- What the reader hands to the applier. -/
inductive Message where
  | update (update : Update)
  | failed (error : StreamError)
  deriving Repr

/-- Whether the store holds current data. -/
inductive SyncState where
  /-- No data has been received yet. -/
  | initializing
  /-- The store holds a complete set of data, and updates come in. -/
  | valid
  /-- The store holds data, but the connection was lost. -/
  | interrupted
  /-- No more updates will come. -/
  | off
  deriving DecidableEq, Repr

/-- The name of a state. -/
def SyncState.name : SyncState → String
  | initializing => "Initializing"
  | valid => "Valid"
  | interrupted => "Interrupted"
  | off => "Off"

/-- What is published about a synchronizer. -/
structure SyncStatus where
  state : SyncState
  lastError : Option StreamError
  deriving DecidableEq, Repr

/-- What the reader is doing. -/
inductive Reader where
  /-- Waits for the time of the next attempt. -/
  | pausing (wakeAt : Nat)
  /-- Waits for an attempt to be settled. -/
  | connecting (wakeAt : Nat) (connection : Connection)
  /-- Waits for something that never comes. -/
  | hanging
  /-- Reads a connection, once the time has come. -/
  | reading (wakeAt : Nat) (items : List StreamItem) (staysOpen : Bool)
  /-- Waits for room in the queue for an update. -/
  | sending (update : Update) (items : List StreamItem) (staysOpen : Bool)
  /-- Waits for room in the queue for a failure. -/
  | failing (error : StreamError)
  | stopped
  deriving Repr

/-- A synchronizer with its store. -/
structure Synchronizer where
  now : Nat
  backoff : Backoff
  script : List Connection
  reader : Reader
  queue : List Message
  shutdownRequested : Bool
  store : Store
  status : SyncStatus
  finished : Bool
  /-- The times of all attempts to connect. -/
  attempts : List Nat

/-- Something that can happen to a synchronizer. -/
inductive SyncAction where
  /-- The reader begins an attempt to connect. -/
  | attempt
  /-- An attempt is settled. -/
  | connect
  /-- The reader takes the next item of a connection. -/
  | receive
  /-- The reader puts a message into the queue. -/
  | enqueue
  /-- The applier takes a message out of the queue. -/
  | apply
  /-- The reader obeys a shutdown. -/
  | stop
  /-- The applier ends, since no more messages will come. -/
  | finish
  deriving DecidableEq, Repr

/-- How many messages the queue holds at most. -/
def queueCapacity : Nat := 100

/-- The number of nanoseconds in a millisecond. -/
def millisecond : Nat := 1000000

/-- The first full millisecond after a delay in nanoseconds. -/
def wakeTime (now delay : Nat) : Nat := now + (delay + millisecond - 1) / millisecond

/-! ## Messages -/

/-- The status after a failure: one that is not recoverable is the end, any other one interrupts a
synchronizer that was up to date. -/
def SyncStatus.afterFailure (s : SyncStatus) (e : StreamError) : SyncStatus :=
  { state := if !e.isRecoverable then .off else if s.state = .valid then .interrupted else s.state
    lastError := some e }

/-- The status after an update: a complete set of data makes it valid. -/
def SyncStatus.afterUpdate (s : SyncStatus) : Update → SyncStatus
  | .init _ => { s with state := .valid }
  | .upsert .. => s

/-- The message that an item of a connection leads to, if any. -/
def StreamItem.message? : StreamItem → Option Message
  | .pause _ => none
  | .failure e => some (.failed e)
  | .event e =>
    match Update.ofEvent e.nameOrDefault e.data with
    | .error p => some (.failed (.invalidData p))
    | .ok u => u.map .update

/-! ## Actions -/

namespace Synchronizer

/-- A synchronizer that is about to make its first attempt. -/
def start (settings : BackoffSettings) (script : List Connection) : Synchronizer :=
  { now := 0
    backoff := .new settings
    script
    reader := .pausing 0
    queue := []
    shutdownRequested := false
    store := .empty
    status := ⟨.initializing, none⟩
    finished := false
    attempts := [] }

/-- Asks the synchronizer to stop. -/
def requestShutdown (s : Synchronizer) : Synchronizer := { s with shutdownRequested := true }

/-- Lets time pass. -/
def advance (s : Synchronizer) (now : Nat) : Synchronizer := { s with now := max s.now now }

/-- The time on the clock of the backoff. -/
def instant (s : Synchronizer) : Nat := s.now * millisecond

/-- Begins an attempt; once the script is over it never succeeds. -/
def attempt (s : Synchronizer) : Synchronizer :=
  let s := { s with attempts := s.attempts ++ [s.now] }
  match s.script with
  | [] => { s with reader := .hanging }
  | c :: rest => { s with script := rest, reader := .connecting (s.now + c.delay) c }

/-- Settles an attempt. -/
def connect (s : Synchronizer) : Connection → Synchronizer
  | .refused _ e => { s with reader := .failing e }
  | .opened _ items staysOpen =>
    { s with backoff := s.backoff.connected s.instant, reader := .reading s.now items staysOpen }

/-- Takes the next item of a connection. Data that cannot be decoded ends the connection. -/
def receive (s : Synchronizer) (staysOpen : Bool) : List StreamItem → Synchronizer
  | [] => { s with reader := if staysOpen then .hanging else .failing .closed }
  | .pause duration :: rest => { s with reader := .reading (s.now + duration) rest staysOpen }
  | item :: rest =>
    match item.message? with
    | none => { s with reader := .reading s.now rest staysOpen }
    | some (.update u) => { s with reader := .sending u rest staysOpen }
    | some (.failed e) => { s with reader := .failing e }

/-- Puts a failure into the queue, and plans the next attempt if there is to be one. -/
def reportFailure (s : Synchronizer) (jitter : Nat → Nat) (e : StreamError) : Synchronizer :=
  let s := { s with queue := s.queue ++ [Message.failed e] }
  if e.isRecoverable then
    let (delay, backoff) := s.backoff.nextDelay s.instant jitter
    { s with backoff, reader := .pausing (wakeTime s.now delay) }
  else { s with reader := .stopped }

/-- Applies a message that was taken out of the queue. -/
def applyMessage (s : Synchronizer) : Message → Synchronizer
  | .update u => { s with store := s.store.apply u, status := s.status.afterUpdate u }
  | .failed e => { s with status := s.status.afterFailure e }

/-- What an action makes of a synchronizer, if it can happen now. A failure is reported even after a
shutdown was requested; an update that still waits for room is dropped then. -/
def perform? (jitter : Nat → Nat) (s : Synchronizer) : SyncAction → Option Synchronizer
  | .attempt =>
    match s.reader with
    | .pausing wakeAt => if wakeAt ≤ s.now then some s.attempt else none
    | _ => none
  | .connect =>
    match s.reader with
    | .connecting wakeAt c => if wakeAt ≤ s.now then some (s.connect c) else none
    | _ => none
  | .receive =>
    match s.reader with
    | .reading wakeAt items staysOpen =>
      if wakeAt ≤ s.now then some (s.receive staysOpen items) else none
    | _ => none
  | .enqueue =>
    if queueCapacity ≤ s.queue.length then none
    else
      match s.reader with
      | .sending u items staysOpen =>
        some { s with queue := s.queue ++ [Message.update u], reader := .reading s.now items staysOpen }
      | .failing e => some (s.reportFailure jitter e)
      | _ => none
  | .apply =>
    match s.queue with
    | [] => none
    | m :: rest => some ({ s with queue := rest }.applyMessage m)
  | .stop =>
    match s.reader with
    | .failing _ | .stopped => none
    | _ => if s.shutdownRequested then some { s with reader := .stopped } else none
  | .finish =>
    match s.reader, s.queue, s.finished with
    | .stopped, [], false =>
      some { s with finished := true, status := { s.status with state := .off } }
    | _, _, _ => none

end Synchronizer
end FeatureFlags
