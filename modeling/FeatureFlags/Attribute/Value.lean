import FeatureFlags.Json.Decoder
import FeatureFlags.Json.Document
import FeatureFlags.Timestamp
import FeatureFlags.Version

/-!
# Attribute values

The values of context attributes, and the values that clauses compare them with. All numbers are
doubles. The members of an object are kept in the order of their names.

An attribute value can be taken from a generic JSON value (`ofValue`) or decoded off a text (`decoder`).
-/

namespace FeatureFlags

/-- A value of an attribute. -/
inductive AttributeValue where
  | string (value : String)
  | array (items : List AttributeValue)
  | number (value : Double)
  | bool (value : Bool)
  | object (members : List (String × AttributeValue))
  | null
  deriving Repr

instance : Inhabited AttributeValue := ⟨.null⟩

/-- What two scalar values share exactly if they are equal. -/
inductive ScalarKey where
  | string (value : String)
  | number (value : Double)
  | bool (value : Bool)
  deriving DecidableEq, Repr

namespace AttributeValue

open Json

/-! ## From and to JSON -/

mutual

/-- The attribute value of a generic value. -/
def ofValue : Value → AttributeValue
  | .null => null
  | .bool b => bool b
  | .number n => number n.toDouble
  | .string s => string s
  | .array items => array (ofValues items)
  | .object members => object (ofEntries members)

/-- The attribute values of generic values. -/
def ofValues : List Value → List AttributeValue
  | [] => []
  | v :: rest => ofValue v :: ofValues rest

/-- The attribute values of the members of a generic object. -/
def ofEntries : List (String × Value) → List (String × AttributeValue)
  | [] => []
  | (name, v) :: rest => (name, ofValue v) :: ofEntries rest

end

mutual

/-- Reads an attribute value off a tree. -/
def ofTree (room : Nat) : Tree → Except DecodeError AttributeValue
  | .string s => .ok (string s)
  | .number n => .ok (number n.toDouble)
  | .bool b => .ok (bool b)
  | .null => .ok null
  | .array items => do
    let room ← enter room
    return array (← ofItems room items)
  | .object members => do
    let room ← enter room
    return object (← ofMembers room [] members)
  | .unreadable => .error .malformed
  | .broken read _ => .error read.toError

/-- Reads attribute values off the items of an array. -/
def ofItems (room : Nat) : Items → Except DecodeError (List AttributeValue)
  | .closed => .ok []
  | .broken fault => .error fault.toError
  | .item value rest => do
    let v ← ofTree room value
    return v :: (← ofItems room rest)

/-- Reads attribute values off the members of an object; of a repeated name the last one counts. -/
def ofMembers (room : Nat) (done : Entries AttributeValue) :
    Members → Except DecodeError (Entries AttributeValue)
  | .closed => .ok done
  | .broken read _ => .error read.toError
  | .member none _ _ => .error .malformed
  | .member (some name) value rest => do
    let v ← ofTree room value
    ofMembers room (done.insert name v) rest

end

/-- Decodes an attribute value. -/
def decoder : Decoder AttributeValue := ofTree

mutual

/-- The document of an attribute value. -/
def document : AttributeValue → Document
  | string s => .string s
  | array items => .array (documents items)
  | number d => .exactDouble d
  | bool b => .bool b
  | object members => .object (memberDocuments members)
  | null => .null

/-- The documents of attribute values. -/
def documents : List AttributeValue → List Document
  | [] => []
  | v :: rest => document v :: documents rest

/-- The documents of the members of an object. -/
def memberDocuments : List (String × AttributeValue) → List (String × Document)
  | [] => []
  | (name, v) :: rest => (name, document v) :: memberDocuments rest

end

/-- The array of these integers. -/
def ofInts (ints : List Int) : AttributeValue := array (ints.map fun i => number (.ofInt i))

/-! ## Equality -/

mutual

/-- Whether two values are equal; numbers are compared numerically. -/
def same : AttributeValue → AttributeValue → Bool
  | string a, string b => a == b
  | array as, array bs => sameItems as bs
  | number a, number b => a.eq b
  | bool a, bool b => a == b
  | object as, object bs => sameMembers as bs
  | null, null => true
  | _, _ => false

/-- `same` on the items of two arrays. -/
def sameItems : List AttributeValue → List AttributeValue → Bool
  | [], [] => true
  | a :: as, b :: bs => same a b && sameItems as bs
  | _, _ => false

/-- `same` on the members of two objects. -/
def sameMembers : List (String × AttributeValue) → List (String × AttributeValue) → Bool
  | [], [] => true
  | (n, a) :: as, (m, b) :: bs => n == m && same a b && sameMembers as bs
  | _, _ => false

end

/-! ## Views -/

/-- The text of a string. -/
def string? : AttributeValue → Option String
  | string s => some s
  | _ => none

/-- The number of a number. -/
def number? : AttributeValue → Option Double
  | number d => some d
  | _ => none

/-- The truth value of a truth value. -/
def bool? : AttributeValue → Option Bool
  | bool b => some b
  | _ => none

/-- Whether the value is null. -/
def isNull : AttributeValue → Bool
  | null => true
  | _ => false

/-- Whether the value is neither an array nor an object. -/
def isScalar : AttributeValue → Bool
  | array _ | object _ => false
  | _ => true

/-- The time that a value denotes: a number counts milliseconds, its fraction being cut off, and a text
is a date and time. -/
def timestamp? : AttributeValue → Option Timestamp
  | number d => d.toSafeInt?.bind Timestamp.ofMillis?
  | string s => Timestamp.ofText? s
  | _ => none

/-- The version that a text denotes, missing numbers being zero. Build metadata is left out. -/
def version? : AttributeValue → Option Version
  | string s => (WrittenVersion.ofLooseText? s).map (·.version)
  | _ => none

/-- The identity by which a value is placed in a bucket: a text, or an integer of safe magnitude. -/
def bucketable? : AttributeValue → Option String
  | string s => some s
  | number d => d.toExactInt?.map fun i => String.ofList (integerText i)
  | _ => none

/-- The key of a scalar value other than null. Both zeros have one key. -/
def scalarKey? : AttributeValue → Option ScalarKey
  | string s => some (.string s)
  | number d => some (.number (if d.eq .zero then .zero else d))
  | bool b => some (.bool b)
  | _ => none

end AttributeValue
end FeatureFlags
