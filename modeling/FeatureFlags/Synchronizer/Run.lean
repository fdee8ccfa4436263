import FeatureFlags.Synchronizer.Basic

/-!
# Running a synchronizer on a clock

`Synchronizer.runUntil` lets a synchronizer run on a clock that jumps from one time at which something can
happen to the next. At each of them everything that can happen does, in a fixed order.

`Synchronizer.work` bounds the number of actions that are left: every action makes it smaller.
-/

namespace FeatureFlags

-- sums start from the zero of the core library, whatever else is imported
attribute [local instance (high)] Zero.ofOfNat0

/-- The greatest number of actions that a connection leads to. -/
def Connection.work : Connection → Nat
  | refused .. => 6
  | opened _ items _ => 3 * items.length + 6

/-- The greatest number of actions that follow from what the reader is doing. -/
def Reader.work : Reader → Nat
  | pausing _ => 2
  | connecting _ c => c.work
  | hanging => 1
  | reading _ items _ => 3 * items.length + 5
  | sending _ items _ => 3 * items.length + 7
  | failing _ => 4
  | stopped => 0

/-- The time that the reader waits for. -/
def Reader.wakeAt? : Reader → Option Nat
  | pausing t | connecting t _ | reading t .. => some t
  | _ => none

namespace Synchronizer

/-- The greatest number of actions that are left. -/
def work (s : Synchronizer) : Nat :=
  (s.script.map Connection.work).sum + s.reader.work + s.queue.length + (if s.finished then 0 else 1)

/-- The order in which actions are tried. -/
def actionOrder : List SyncAction := [.stop, .attempt, .connect, .receive, .enqueue, .apply, .finish]

/-- Performs the first action that can happen. -/
def step? (jitter : Nat → Nat) (s : Synchronizer) : Option Synchronizer :=
  actionOrder.findSome? (s.perform? jitter)

/-- Performs at most so many actions. -/
def performUpTo (jitter : Nat → Nat) : Nat → Synchronizer → Synchronizer
  | 0, s => s
  | n + 1, s =>
    match s.step? jitter with
    | some next => performUpTo jitter n next
    | none => s

/-- Performs all actions that can happen now. -/
def settle (jitter : Nat → Nat) (s : Synchronizer) : Synchronizer := performUpTo jitter s.work s

/-- Runs for at most so many wake-ups until a time, or until `halt` holds when nothing more can happen at
some time. What can happen at the final time itself is left for later. -/
def runFor (jitter : Nat → Nat) (halt : Synchronizer → Bool) (target : Nat) :
    Nat → Synchronizer → Synchronizer
  | 0, s => s.advance target
  | n + 1, s =>
    if target ≤ s.now then s
    else
      let s := s.settle jitter
      if halt s then s
      else
        match s.reader.wakeAt? with
        | some t => if t < target then runFor jitter halt target n (s.advance t) else s.advance target
        | none => s.advance target

/-- Runs until a time, or until `halt` holds. -/
def runUntil (jitter : Nat → Nat) (halt : Synchronizer → Bool) (target : Nat) (s : Synchronizer) :
    Synchronizer := runFor jitter halt target (s.work + 1) s

/-- Lets the synchronizer run for a duration. -/
def sleep (jitter : Nat → Nat) (duration : Nat) (s : Synchronizer) : Synchronizer :=
  s.runUntil jitter (fun _ => false) (s.now + duration)

/-- Waits for at most a duration until the state is no longer `initializing`, and tells whether the store
has been initialized. -/
def awaitInitialization (jitter : Nat → Nat) (duration : Nat) (s : Synchronizer) :
    Bool × Synchronizer :=
  let done (s : Synchronizer) : Bool := s.status.state != .initializing
  let s := if done s then s else s.runUntil jitter done (s.now + duration)
  (done s && s.status.state != .off, s)

/-- Asks the synchronizer to stop and waits until it has. -/
def shutdown (jitter : Nat → Nat) (s : Synchronizer) : Synchronizer := s.requestShutdown.settle jitter

end Synchronizer
end FeatureFlags
