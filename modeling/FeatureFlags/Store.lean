import FeatureFlags.Evaluation.Catalog

/-!
# The store

A store keeps flags and segments with their versions. A deleted item leaves a tombstone, so that older
versions of it stay out. `Store.init` replaces everything; `Store.upsert` replaces one item if its version
is greater than the one that is there.

A store is a value: keeping it is taking a snapshot of it.
-/

namespace FeatureFlags

/-- The two kinds of data. -/
inductive DataKind where
  | flags
  | segments
  deriving DecidableEq, Repr

/-- The name of a kind of data in paths. -/
def DataKind.namespaceName : DataKind → String
  | flags => "flags"
  | segments => "segments"

/-- Something that is stored. -/
inductive Item where
  | flag (flag : Flag)
  | segment (segment : Segment)
  deriving Repr

/-- An item with its version. A descriptor without an item is a tombstone. -/
structure Descriptor where
  version : Nat
  item : Option Item
  deriving Repr

namespace Descriptor

/-- The trace of a deleted item. -/
def tombstone (version : Nat) : Descriptor := ⟨version, none⟩

/-- The descriptor of a flag, a tombstone if the flag is marked as deleted. -/
def ofFlag (f : Flag) : Descriptor :=
  if f.deleted then tombstone f.version else ⟨f.version, some (.flag f)⟩

/-- The descriptor of a segment, a tombstone if the segment is marked as deleted. -/
def ofSegment (s : Segment) : Descriptor :=
  if s.deleted then tombstone s.version else ⟨s.version, some (.segment s)⟩

/-- Whether the item is deleted. -/
def isTombstone (d : Descriptor) : Bool := d.item.isNone

/-- The flag of a descriptor. -/
def flag? (d : Descriptor) : Option Flag :=
  match d.item with
  | some (.flag f) => some f
  | _ => none

/-- The segment of a descriptor. -/
def segment? (d : Descriptor) : Option Segment :=
  match d.item with
  | some (.segment s) => some s
  | _ => none

end Descriptor

/-- A complete set of data. -/
structure DataSet where
  flags : Entries Descriptor
  segments : Entries Descriptor
  deriving Repr

/-- The descriptors of a kind. -/
def DataSet.items (d : DataSet) : DataKind → Entries Descriptor
  | .flags => d.flags
  | .segments => d.segments

/-- Puts a descriptor under a key. -/
def DataSet.insert (d : DataSet) (kind : DataKind) (key : String) (item : Descriptor) : DataSet :=
  match kind with
  | .flags => { d with flags := d.flags.insert key item }
  | .segments => { d with segments := d.segments.insert key item }

/-- A store of flags and segments. -/
structure Store where
  data : DataSet
  initialized : Bool
  deriving Repr

namespace Store

/-- A store that has not received any data. -/
def empty : Store := ⟨⟨[], []⟩, false⟩

/-- Replaces all data. -/
def init (_ : Store) (data : DataSet) : Store := ⟨data, true⟩

/-- The descriptor under a key, tombstones included. -/
def get? (s : Store) (kind : DataKind) (key : String) : Option Descriptor :=
  Entries.get? key (s.data.items kind)

/-- Whether an item may replace what is stored: its version has to be greater. -/
def accepts (s : Store) (kind : DataKind) (key : String) (item : Descriptor) : Bool :=
  match s.get? kind key with
  | some existing => existing.version < item.version
  | none => true

/-- Inserts or replaces an item if its version allows it, and tells whether it did. -/
def upsert (s : Store) (kind : DataKind) (key : String) (item : Descriptor) : Store × Bool :=
  if s.accepts kind key item then ({ s with data := s.data.insert kind key item }, true) else (s, false)

/-- The flag under a key. -/
def flag? (s : Store) (key : String) : Option Flag := (s.get? .flags key).bind (·.flag?)

/-- The segment under a key. -/
def segment? (s : Store) (key : String) : Option Segment := (s.get? .segments key).bind (·.segment?)

/-- The keys of the flags that are not deleted, in ascending order. -/
def flagKeys (s : Store) : List String :=
  (s.data.flags.filter fun e => !e.2.isTombstone).map Prod.fst

/-- What an evaluation can see of the store. -/
def catalog (s : Store) : Catalog :=
  { flags := s.data.flags.filterMap fun (key, d) => d.flag?.map (key, ·)
    segments := s.data.segments.filterMap fun (key, d) => d.segment?.map (key, ·) }

end Store
end FeatureFlags
