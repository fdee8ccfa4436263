import FeatureFlags.Json.Tree

/-!
# Decoding JSON

A decoder reads a value of a type off a tree, from left to right, and stops at the first thing that is
wrong. `DecodeError` says of which kind that is. The first argument of a decoder is the number of
arrays and objects that may still be entered; only values that are read count, skipped ones do not.

A *record* is an object with named fields. `Fields` lists them in their order, which is also the order
of the items if the record is written as an array. `record` decodes both forms:

* members of other names are skipped, and a name that appears twice is an error at its second place;
* a field that is absent takes its default, or is an error once the object is closed;
* an array that ends early gives the missing fields their defaults, and one that goes on is malformed.
-/

namespace FeatureFlags.Json

-- powers are those of the core library, whatever else is imported
attribute [local instance (high)] instPowNat

/-- The kinds of errors in decoding. -/
inductive DecodeError where
  /-- The text ends too early. -/
  | endOfText
  /-- The text is not JSON, or nests too deeply. -/
  | malformed
  /-- The text is JSON so far, but not of the wanted shape. -/
  | mismatch
  deriving DecidableEq, Repr

/-- The decoding error of a fault in the text. -/
def Fault.toError : Fault → DecodeError
  | .endOfText => .endOfText
  | .malformed => .malformed

/-- Reads a value of type `α` off a tree, given how many arrays and objects may be entered. -/
abbrev Decoder (α : Type) := Nat → Tree → Except DecodeError α

/-- How many arrays and objects may be nested in each other, and one more. -/
def nestingRoom : Nat := 128

/-- Enters an array or object. -/
def enter (room : Nat) : Except DecodeError Nat :=
  if room ≤ 1 then .error .malformed else .ok (room - 1)

/-- The error of a value that is not of the wanted type. -/
def Tree.mismatch : Tree → DecodeError
  | .unreadable => .malformed
  | .broken read _ => read.toError
  | _ => .mismatch

/-! ## Skipping and reading any value -/

mutual

/-- Skips a value. -/
def Tree.skip : Tree → Except DecodeError Unit
  | .array items => items.skip
  | .object members => members.skip
  | .broken _ skip => .error skip.toError
  | _ => .ok ()

/-- Skips the items of an array. -/
def Items.skip : Items → Except DecodeError Unit
  | .closed => .ok ()
  | .broken fault => .error fault.toError
  | .item value rest => do value.skip; rest.skip

/-- Skips the members of an object. -/
def Members.skip : Members → Except DecodeError Unit
  | .closed => .ok ()
  | .broken _ skip => .error skip.toError
  | .member _ value rest => do value.skip; rest.skip

end

mutual

/-- Reads a value of any shape as a generic value. -/
def Tree.toValue (room : Nat) : Tree → Except DecodeError Value
  | .null => .ok .null
  | .bool b => .ok (.bool b)
  | .number n => .ok (.number n)
  | .string s => .ok (.string s)
  | .unreadable => .error .malformed
  | .broken read _ => .error read.toError
  | .array items => do
    let room ← enter room
    return .array (← items.toValues room)
  | .object members => do
    let room ← enter room
    return .object (← members.toEntries room [])

/-- Reads the items of an array as generic values. -/
def Items.toValues (room : Nat) : Items → Except DecodeError (List Value)
  | .closed => .ok []
  | .broken fault => .error fault.toError
  | .item value rest => do
    let v ← value.toValue room
    return v :: (← rest.toValues room)

/-- Reads the members of an object as generic values; of a repeated name the last value counts. -/
def Members.toEntries (room : Nat) (done : Entries Value) :
    Members → Except DecodeError (Entries Value)
  | .closed => .ok done
  | .broken read _ => .error read.toError
  | .member none _ _ => .error .malformed
  | .member (some name) value rest => do
    let v ← value.toValue room
    rest.toEntries room (done.insert name v)

end

mutual

/-- Reads a value of any shape for its errors only. -/
def Tree.readThrough (room : Nat) : Tree → Except DecodeError Unit
  | .unreadable => .error .malformed
  | .broken read _ => .error read.toError
  | .array items => do
    let room ← enter room
    items.readThrough room
  | .object members => do
    let room ← enter room
    members.readThrough room
  | _ => .ok ()

/-- Reads the items of an array for their errors only. -/
def Items.readThrough (room : Nat) : Items → Except DecodeError Unit
  | .closed => .ok ()
  | .broken fault => .error fault.toError
  | .item value rest => do value.readThrough room; rest.readThrough room

/-- Reads the members of an object for their errors only. -/
def Members.readThrough (room : Nat) : Members → Except DecodeError Unit
  | .closed => .ok ()
  | .broken read _ => .error read.toError
  | .member none _ _ => .error .malformed
  | .member (some _) value rest => do value.readThrough room; rest.readThrough room

end

/-! ## Scalars -/

namespace Decoder

variable {α β : Type}

/-- Decodes a string. -/
def string : Decoder String := fun _ t =>
  match t with
  | .string s => .ok s
  | t => .error t.mismatch

/-- Decodes a truth value. -/
def bool : Decoder Bool := fun _ t =>
  match t with
  | .bool b => .ok b
  | t => .error t.mismatch

/-- Decodes a number. -/
def number : Decoder Number := fun _ t =>
  match t with
  | .number n => .ok n
  | t => .error t.mismatch

/-- Decodes an integer between two bounds. -/
def integer (least greatest : Int) : Decoder Int := fun room t => do
  match ← number room t with
  | .integer i => if least ≤ i ∧ i ≤ greatest then return i else throw .mismatch
  | .double _ => throw .mismatch

/-- Decodes a natural number of at most `bits` bits. -/
def natural (bits : Nat) : Decoder Nat := fun room t => do
  let i ← integer 0 (2 ^ bits - 1) room t
  return i.toNat

/-- Decodes a signed 64-bit integer. -/
def signed64 : Decoder Int := integer (-2 ^ (63 : Nat)) (2 ^ (63 : Nat) - 1)

/-- Decodes a single precision number. -/
def single : Decoder Single := fun room t => do
  let n ← number room t
  return n.toSingle

/-- Decodes any value. -/
def value : Decoder Value := Tree.toValue

/-- Applies a function to what is decoded. -/
def map (f : α → β) (d : Decoder α) : Decoder β := fun room t => (d room t).map f

/-- Decodes a value that may be `null`. -/
def optional (d : Decoder α) : Decoder (Option α) := fun room t =>
  match t with
  | .null => .ok none
  | t => (d room t).map some

/-- Decodes a value; `null` stands for the default. -/
def orDefault (default : α) (d : Decoder α) : Decoder α :=
  map (·.getD default) (optional d)

/-! ## Lists and maps -/

/-- Decodes the items of an array. -/
def items (d : Decoder α) (room : Nat) : Items → Except DecodeError (List α)
  | .closed => .ok []
  | .broken fault => .error fault.toError
  | .item value rest => do
    let a ← d room value
    return a :: (← items d room rest)

/-- Decodes an array. -/
def list (d : Decoder α) : Decoder (List α) := fun room t =>
  match t with
  | .array its => do
    let room ← enter room
    items d room its
  | t => .error t.mismatch

/-- Decodes the members of an object as entries; of a repeated name the last value counts. -/
def entriesFrom (d : Decoder α) (room : Nat) (done : Entries α) :
    Members → Except DecodeError (Entries α)
  | .closed => .ok done
  | .broken read _ => .error read.toError
  | .member none _ _ => .error .malformed
  | .member (some name) value rest => do
    let a ← d room value
    entriesFrom d room (done.insert name a) rest

/-- Decodes an object whose names are free. -/
def entries (d : Decoder α) : Decoder (Entries α) := fun room t =>
  match t with
  | .object members => do
    let room ← enter room
    entriesFrom d room [] members
  | t => .error t.mismatch

end Decoder

/-! ## Records -/

/-- A field of a record: its name, its decoder, its value where an object lacks it and its value where
an array ends before it. A field without such a value is required there. -/
structure Field (α : Type) where
  name : String
  read : Decoder α
  absent : Option α
  cut : Option α

namespace Field

variable {α : Type}

/-- A field that has to be there. -/
def required (name : String) (read : Decoder α) : Field α := ⟨name, read, none, none⟩

/-- A field with a default. -/
def withDefault (name : String) (default : α) (read : Decoder α) : Field α :=
  ⟨name, read, some default, some default⟩

/-- A field that may be absent or `null`. -/
def optional (name : String) (read : Decoder α) : Field (Option α) :=
  ⟨name, Decoder.optional read, some none, some none⟩

/-- A field that may be absent or `null` in an object, but has to be there in an array. -/
def optionalMember (name : String) (read : Decoder α) : Field (Option α) :=
  ⟨name, Decoder.optional read, some none, none⟩

/-- A list that may be absent or `null`, which stands for the empty list. -/
def list (name : String) (read : Decoder α) : Field (List α) :=
  withDefault name [] (Decoder.orDefault [] (Decoder.list read))

/-- A truth value that is false where it is absent. -/
def flag (name : String) : Field Bool := withDefault name false Decoder.bool

end Field

/-- The fields of a record, in order. -/
inductive Fields : List Type → Type 1 where
  | nil : Fields []
  | cons {α : Type} {αs : List Type} (field : Field α) (rest : Fields αs) : Fields (α :: αs)

/-- The values of a record's fields. -/
def Row : List Type → Type
  | [] => Unit
  | α :: αs => α × Row αs

/-- The values of a record's fields found so far. -/
def Slots : List Type → Type
  | [] => Unit
  | α :: αs => Option α × Slots αs

/-- No value found yet. -/
def Slots.empty : (αs : List Type) → Slots αs
  | [] => ()
  | _ :: αs => (none, Slots.empty αs)

namespace Fields

variable {σ : Type}

/-- Stores a member under its field; `none` if the record has no field of this name. -/
def store? (room : Nat) (name : String) (value : Tree) :
    {αs : List Type} → Fields αs → Slots αs → Option (Except DecodeError (Slots αs))
  | _, nil, _ => none
  | _, cons field rest, (slot, slots) =>
    if field.name = name then
      match slot with
      | some _ => some (.error .mismatch)
      | none => some do
        let a ← field.read room value
        return (some a, slots)
    else (store? room name value rest slots).map (·.map (slot, ·))

/-- Reads the members of an object, handing those that are no fields to `other`. -/
def readMembers {αs : List Type} (fields : Fields αs)
    (other : σ → String → Tree → Except DecodeError σ) (room : Nat) :
    σ → Slots αs → Members → Except DecodeError (σ × Slots αs)
  | s, slots, .closed => .ok (s, slots)
  | _, _, .broken read _ => .error read.toError
  | _, _, .member none _ _ => .error .malformed
  | s, slots, .member (some name) value rest => do
    match fields.store? room name value slots with
    | some stored => readMembers fields other room s (← stored) rest
    | none => readMembers fields other room (← other s name value) slots rest

/-- The values of all fields of an object, absent ones by their defaults. -/
def finish : {αs : List Type} → Fields αs → Slots αs → Except DecodeError (Row αs)
  | _, nil, _ => .ok ()
  | _, cons field rest, (slot, slots) =>
    match slot.or field.absent with
    | some a => do return (a, ← finish rest slots)
    | none => .error .mismatch

/-- Reads the fields off the items of an array. -/
def readItems (room : Nat) : {αs : List Type} → Fields αs → Items → Except DecodeError (Row αs)
  | _, nil, .closed => .ok ()
  | _, nil, .broken fault => .error fault.toError
  | _, nil, .item _ _ => .error .malformed
  | _, cons _ _, .broken fault => .error fault.toError
  | _, cons field rest, .item value its => do
    let a ← field.read room value
    return (a, ← readItems room rest its)
  | _, cons field rest, .closed =>
    match field.cut with
    | some a => do return (a, ← readItems room rest .closed)
    | none => .error .mismatch

/-- Decodes the object form of a record, skipping members that are no fields. -/
def decodeMembers {αs : List Type} (fields : Fields αs) (room : Nat) (members : Members) :
    Except DecodeError (Row αs) := do
  let (_, slots) ← fields.readMembers (fun _ _ value => value.skip) room () (Slots.empty αs) members
  fields.finish slots

end Fields

/-- Decodes a record, written as an object or as an array. -/
def Decoder.record {αs : List Type} {β : Type} (fields : Fields αs) (build : Row αs → β) :
    Decoder β := fun room t =>
  match t with
  | .object members => do
    let room ← enter room
    return build (← fields.decodeMembers room members)
  | .array its => do
    let room ← enter room
    return build (← fields.readItems room its)
  | t => .error t.mismatch

/-- Decodes a text that holds one value and nothing else. -/
def Decoder.run {α : Type} (d : Decoder α) (text : String) : Except DecodeError α := do
  let (tree, alone) := Tree.ofText text
  let a ← d nestingRoom tree
  if alone then return a else throw .malformed

/-- Decodes a generic value. Whatever is wrong with it, it is no fault of a text. -/
def Decoder.ofValue {α : Type} (d : Decoder α) (v : Value) : Except DecodeError α :=
  (d nestingRoom (Tree.ofValue v)).mapError fun _ => .mismatch

end FeatureFlags.Json
