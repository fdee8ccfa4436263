import FeatureFlags.Store

/-!
# Updates

The events of a stream carry changes of the data: a `put` event a complete set, a `patch` event one item,
a `delete` event the key and version of an item that is gone. Events of other names, and paths that are
neither flags nor segments, carry nothing.

The item of a patch is first read as a generic value and only then decoded, once its path is known.
-/

namespace FeatureFlags

open Json

/-- A change of the data. -/
inductive Update where
  | init (data : DataSet)
  | upsert (kind : DataKind) (key : String) (item : Descriptor)
  deriving Repr

/-- The things that are decoded. -/
inductive Payload where
  | flag
  | segment
  | put
  | patch
  | delete
  deriving DecidableEq, Repr

/-- The name of what is decoded. -/
def Payload.name : Payload → String
  | flag => "flag"
  | segment => "segment"
  | put => "put"
  | patch => "patch"
  | delete => "delete"

/-- A payload that cannot be decoded. -/
structure PayloadError where
  payload : Payload
  error : DecodeError
  deriving DecidableEq, Repr

/-- What the wording of a payload error starts with. -/
def PayloadError.message (e : PayloadError) : String := "failed to decode " ++ e.payload.name

/-- Decodes a text as part of a payload. -/
def decodeAs {α : Type} (payload : Payload) (d : Decoder α) (text : String) : Except PayloadError α :=
  (d.run text).mapError (⟨payload, ·⟩)

/-- Decodes a generic value as part of a payload. -/
def decodeValueAs {α : Type} (payload : Payload) (d : Decoder α) (v : Value) : Except PayloadError α :=
  (d.ofValue v).mapError (⟨payload, ·⟩)

/-! ## Shapes -/

/-- The fields of a complete set of data. -/
def DataSet.fields : Fields [Entries Flag, Entries Segment] :=
  .cons (.withDefault "flags" [] (Decoder.orDefault [] (Decoder.entries Flag.decoder))) <|
  .cons (.withDefault "segments" [] (Decoder.orDefault [] (Decoder.entries Segment.decoder))) <|
  .nil

/-- The set of data with these flags and segments. -/
def DataSet.ofItems (flags : Entries Flag) (segments : Entries Segment) : DataSet :=
  { flags := flags.map fun (key, f) => (key, Descriptor.ofFlag f)
    segments := segments.map fun (key, s) => (key, Descriptor.ofSegment s) }

/-- Decodes a complete set of data. -/
def DataSet.decoder : Decoder DataSet :=
  Decoder.record DataSet.fields fun (flags, segments, ()) => DataSet.ofItems flags segments

/-- Decodes a `put` payload: its path and its data. -/
def putDecoder : Decoder (Option String × DataSet) :=
  Decoder.record
    (.cons (.optional "path" Decoder.string) <| .cons (.required "data" DataSet.decoder) .nil)
    fun (path, data, ()) => (path, data)

/-- Decodes a `patch` payload: its path and its item as a generic value. -/
def patchDecoder : Decoder (String × Value) :=
  Decoder.record
    (.cons (.required "path" Decoder.string) <| .cons (.required "data" Decoder.value) .nil)
    fun (path, data, ()) => (path, data)

/-- Decodes a `delete` payload: its path and a version. -/
def deleteDecoder : Decoder (String × Nat) :=
  Decoder.record
    (.cons (.required "path" Decoder.string) <|
      .cons (.required "version" (Decoder.natural 64)) .nil)
    fun (path, version, ()) => (path, version)

/-! ## Paths -/

/-- The rest of a text after a start. -/
def dropStart? : List Char → List Char → Option (List Char)
  | [], text => some text
  | _ :: _, [] => none
  | s :: start, c :: text => if s = c then dropStart? start text else none

/-- The path under which the items of a kind are found. -/
def DataKind.path (kind : DataKind) : List Char := ('/' :: kind.namespaceName.toList) ++ ['/']

/-- The key that a path names below the path of a kind. -/
def DataKind.keyOf? (kind : DataKind) (path : String) : Option String :=
  match dropStart? kind.path path.toList with
  | none | some [] => none
  | some key => some (String.ofList key)

/-- The kind and the key that a path names. -/
def parsePath? (path : String) : Option (DataKind × String) :=
  match DataKind.flags.keyOf? path with
  | some key => some (.flags, key)
  | none => (DataKind.segments.keyOf? path).map (.segments, ·)

/-! ## Events -/

/-- The update of a `put` event; a path other than `/` carries nothing. -/
def Update.ofPut (text : String) : Except PayloadError (Option Update) := do
  let (path, data) ← decodeAs .put putDecoder text
  match path with
  | none | some "/" => return some (.init data)
  | some _ => return none

/-- The update of a `patch` event. -/
def Update.ofPatch (text : String) : Except PayloadError (Option Update) := do
  let (path, data) ← decodeAs .patch patchDecoder text
  match parsePath? path with
  | none => return none
  | some (.flags, key) =>
    let flag ← decodeValueAs .flag Flag.decoder data
    return some (.upsert .flags key (.ofFlag flag))
  | some (.segments, key) =>
    let segment ← decodeValueAs .segment Segment.decoder data
    return some (.upsert .segments key (.ofSegment segment))

/-- The update of a `delete` event. -/
def Update.ofDelete (text : String) : Except PayloadError (Option Update) := do
  let (path, version) ← decodeAs .delete deleteDecoder text
  match parsePath? path with
  | none => return none
  | some (kind, key) => return some (.upsert kind key (.tombstone version))

/-- The update that an event carries, if any. -/
def Update.ofEvent (name text : String) : Except PayloadError (Option Update) :=
  if name = "put" then Update.ofPut text
  else if name = "patch" then Update.ofPatch text
  else if name = "delete" then Update.ofDelete text
  else .ok none

/-- Applies an update to a store. -/
def Store.apply (s : Store) : Update → Store
  | .init data => s.init data
  | .upsert kind key item => (s.upsert kind key item).1

end FeatureFlags
