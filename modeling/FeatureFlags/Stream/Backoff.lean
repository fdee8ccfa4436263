/-!
# Backoff

Delays between attempts to connect grow exponentially from an initial delay up to a greatest one, and up
to half of each delay is taken off at random. A connection that was up for the reset interval starts the
sequence over.

All durations are in nanoseconds, and times are nanoseconds on some clock.
-/

namespace FeatureFlags

-- powers are those of the core library, whatever else is imported
attribute [local instance (high)] instPowNat

/-- The greatest duration: `2 ^ 64` seconds less a nanosecond. -/
def greatestDuration : Nat := 2 ^ (64 : Nat) * 1000000000 - 1

/-- The greatest factor of a delay. -/
def greatestFactor : Nat := 2 ^ (32 : Nat) - 1

/-- The greatest number of attempts that is counted. -/
def greatestAttempts : Nat := 2 ^ (32 : Nat) - 1

/-- How delays are chosen. -/
structure BackoffSettings where
  initial : Nat
  max : Nat
  resetInterval : Nat
  deriving DecidableEq, Repr

/-- The state of a backoff: its settings, the attempts since the last reset, and the time of the latest
connection since the last delay. -/
structure Backoff where
  settings : BackoffSettings
  attempts : Nat
  connectedAt : Option Nat
  deriving DecidableEq, Repr

namespace Backoff

/-- A backoff before the first attempt. No delay is greater than the greater of the two limits. -/
def new (settings : BackoffSettings) : Backoff :=
  ⟨{ settings with max := Nat.max settings.max settings.initial }, 0, none⟩

/-- Records a connection. -/
def connected (b : Backoff) (now : Nat) : Backoff := { b with connectedAt := some now }

/-- The factor of the delay after so many attempts. -/
def factor (attempts : Nat) : Nat := if attempts < 32 then 2 ^ attempts else greatestFactor

/-- The delay before jitter. -/
def baseDelay (b : Backoff) : Nat :=
  min (min (b.settings.initial * factor b.attempts) greatestDuration) b.settings.max

/-- Whether the latest connection was up for the reset interval. -/
def isDueForReset (b : Backoff) (now : Nat) : Bool :=
  match b.connectedAt with
  | some since => b.settings.resetInterval ≤ now - since
  | none => false

/-- Forgets the latest connection, and the attempts if it was up for long enough. -/
def settle (b : Backoff) (now : Nat) : Backoff :=
  { b with attempts := if b.isDueForReset now then 0 else b.attempts, connectedAt := none }

/-- The next delay, where `jitter` draws what is taken off from the greatest such value. -/
def nextDelay (b : Backoff) (now : Nat) (jitter : Nat → Nat) : Nat × Backoff :=
  let b := b.settle now
  let delay := b.baseDelay
  (delay - jitter (delay / 2), { b with attempts := min (b.attempts + 1) greatestAttempts })

end Backoff
end FeatureFlags
