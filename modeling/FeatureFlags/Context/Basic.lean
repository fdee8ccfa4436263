import FeatureFlags.Attribute.Reference
import FeatureFlags.Attribute.Value
import FeatureFlags.Bucket
import FeatureFlags.Context.Kind

/-!
# Contexts

A context is the subject of an evaluation: one entity of some kind, or several entities of different
kinds. An entity has the built-in attributes `kind`, `key`, `name` and `anonymous` and any number of
custom ones.

* `Context.entity? k` is the entity of kind `k`.
* `Context.value? r` follows a reference; a context of several kinds answers only for `kind`.
* `Context.bucket` places the entity of a kind in a bucket.
-/

namespace FeatureFlags

/-- An entity of one kind. -/
structure Entity where
  kind : Kind
  key : String
  name : Option String
  anonymous : Bool
  attributes : Entries AttributeValue
  privateAttributes : List Reference
  deriving Repr

/-- The subject of an evaluation. -/
inductive Context where
  | single (entity : Entity)
  | multi (members : List Entity)
  deriving Repr

/-- The value of an attribute of an entity; a built-in attribute hides a custom one. -/
def Entity.attribute? (e : Entity) (name : String) : Option AttributeValue :=
  if name = "kind" then some (.string e.kind.name)
  else if name = "key" then some (.string e.key)
  else if name = "name" then e.name.map .string
  else if name = "anonymous" then some (.bool e.anonymous)
  else Entries.get? name e.attributes

/-- Follows names through the members of objects. -/
def AttributeValue.follow? (v : AttributeValue) : List String → Option AttributeValue
  | [] => some v
  | name :: rest =>
    match v with
    | .object members => (Entries.get? name members).bind (·.follow? rest)
    | _ => none

/-- The value that a reference names in an entity. -/
def Entity.value? (e : Entity) (r : Reference) : Option AttributeValue :=
  match r.components with
  | [] => none
  | name :: rest => (e.attribute? name).bind (·.follow? rest)

namespace Context

/-- The entities of a context. -/
def entities : Context → List Entity
  | single e => [e]
  | multi members => members

/-- Whether this is a context of several kinds. -/
def isMulti : Context → Bool
  | single _ => false
  | multi _ => true

/-- The kind of a context. -/
def kind : Context → Kind
  | single e => e.kind
  | multi _ => .multi

/-- The key of a context; one of several kinds has none of its own. -/
def key : Context → String
  | single e => e.key
  | multi _ => ""

/-- The name of a context. -/
def name : Context → Option String
  | single e => e.name
  | multi _ => none

/-- Whether a context is anonymous. -/
def anonymous : Context → Bool
  | single e => e.anonymous
  | multi _ => false

/-- The attributes of a context that are not to be reported. -/
def privateAttributes : Context → List Reference
  | single e => e.privateAttributes
  | multi _ => []

/-- The entity of a kind. -/
def entity? (c : Context) (k : Kind) : Option Entity := c.entities.find? (·.kind == k)

theorem kind_of_entity? {c : Context} {k : Kind} {e : Entity} (h : c.entity? k = some e) :
    e.kind = k := by
  unfold entity? at h
  have hkind := List.find?_some h
  exact eq_of_beq hkind

/-- The kinds of the entities of a context. -/
def kinds (c : Context) : List Kind := c.entities.map (·.kind)

/-- The key of each kind. -/
def keysByKind (c : Context) : List (Kind × String) := c.entities.map fun e => (e.kind, e.key)

/-- The value that a reference names in a context. -/
def value? (c : Context) (r : Reference) : Option AttributeValue :=
  match c with
  | single e => e.value? r
  | multi _ => if r.isKind then some (.string Kind.multi.name) else none

/-! ## Buckets -/

/-- Where a context falls in a rollout: its bucket, and whether it has an entity of the wanted kind. -/
structure Placement where
  bucket : Single
  kindMissing : Bool
  deriving DecidableEq, Repr

/-- Places the entity of a kind in a bucket by an attribute, `key` unless another one is named.
Experiments always go by `key`. An attribute that cannot be bucketed, or a missing entity, gives
bucket 0; only an invalid reference is an error. -/
def bucket (c : Context) (bucketBy : Option Reference) (hashPrefix : BucketPrefix)
    (experiment : Bool) (kind : Kind) : Except ReferenceError Placement :=
  let reference := if experiment then Reference.ofText "key"
    else bucketBy.getD (Reference.ofText "key")
  match reference.error? with
  | some e => .error e
  | none =>
    match c.entity? kind with
    | none => .ok ⟨.zero, true⟩
    | some e =>
      match (e.value? reference).bind (·.bucketable?) with
      | some identity => .ok ⟨bucketValue hashPrefix identity, false⟩
      | none => .ok ⟨.zero, false⟩

end Context
end FeatureFlags
