import FeatureFlags.Update
import FeatureFlags.Url.Error

/-!
# Failures of a stream

What can go wrong with a stream, and which failures are worth another attempt.
-/

namespace FeatureFlags

/-- A failure of a stream. -/
inductive StreamError where
  | invalidUrl (error : UrlError)
  | httpStatus (code : Nat)
  /-- The request failed on its way, for a reason that is given in words, perhaps with a status. -/
  | transport (reason : String) (status : Option Nat)
  | connectTimeout
  | readTimeout
  | closed
  | invalidData (error : PayloadError)
  deriving DecidableEq, Repr

/-- Whether a request that got this status may succeed later. Of the client errors only three may. -/
def isRecoverableStatus (code : Nat) : Bool :=
  if 400 ≤ code ∧ code < 500 then code == 400 || code == 408 || code == 429 else true

namespace StreamError

/-- Whether another attempt may succeed. -/
def isRecoverable : StreamError → Bool
  | httpStatus code => isRecoverableStatus code
  | invalidUrl _ => false
  | _ => true

/-- The status that caused the failure, if any. -/
def status? : StreamError → Option Nat
  | httpStatus code => some code
  | transport _ status => status
  | _ => none

/-- The wording of a failure. -/
def message : StreamError → String
  | invalidUrl e => "invalid stream URL: " ++ e.message
  | httpStatus code => "unexpected HTTP status " ++ toString code
  | transport reason _ => "connection failed: " ++ reason
  | connectTimeout => "no response received within the read timeout"
  | readTimeout => "no data received within the read timeout"
  | closed => "stream closed by the server"
  | invalidData e => "malformed stream data: " ++ e.message

end StreamError
end FeatureFlags
