import FeatureFlags.Json.Decoder
import FeatureFlags.Json.Document

/-!
# Flag values

The values that a flag can serve. A number keeps its kind: an integer that fits 64 bits with a sign is
written back as an integer, any other number is a double.
-/

namespace FeatureFlags

/-- A value that a flag can serve. -/
inductive FlagValue where
  | bool (value : Bool)
  | string (value : String)
  | int (value : Int)
  | float (value : Double)
  | json (value : Json.Value)
  deriving Repr

namespace FlagValue

open Json

/-- The flag value of a number. -/
def ofNumber : Number → FlagValue
  | .integer i => if i ≤ maxSigned then int i else float (.ofInt i)
  | .double d => float d

/-- The flag value of a generic value. -/
def ofValue : Value → FlagValue
  | .bool b => bool b
  | .number n => ofNumber n
  | .string s => string s
  | v => json v

/-- Decodes a flag value: a truth value, a text, an integer or any other number, and whatever is none of
these as it is. -/
def decoder : Decoder FlagValue := fun room t =>
  match t with
  | .bool b => .ok (bool b)
  | .string s => .ok (string s)
  | .number n => .ok (ofNumber n)
  | t => (t.toValue room).map json

/-- The document of a flag value. -/
def document : FlagValue → Document
  | bool b => .bool b
  | string s => .string s
  | int i => .integer i
  | float d => .double d
  | json v => .ofValue v

/-- Whether two flag values are equal: of one kind, numbers being compared numerically. -/
def same : FlagValue → FlagValue → Bool
  | bool a, bool b => a == b
  | string a, string b => a == b
  | int a, int b => a == b
  | float a, float b => a.eq b
  | json a, json b => a.same b
  | _, _ => false

/-! ## Views -/

/-- The truth value of a truth value. -/
def bool? : FlagValue → Option Bool
  | bool b => some b
  | _ => none

/-- The text of a text. -/
def string? : FlagValue → Option String
  | string s => some s
  | _ => none

/-- The number of a number, as a double. -/
def float? : FlagValue → Option Double
  | float d => some d
  | int i => some (.ofInt i)
  | _ => none

/-- The number of a number, its fraction being cut off; a double only if its magnitude is safe. -/
def int? : FlagValue → Option Int
  | int i => some i
  | float d => d.toSafeInt?
  | _ => none

/-- The value as a generic value; a double that is not finite becomes null. -/
def toValue : FlagValue → Value
  | bool b => .bool b
  | string s => .string s
  | int i => .number (.integer i)
  | float d => if d.isFinite then .number (.double d) else .null
  | json v => v

end FlagValue
end FeatureFlags
