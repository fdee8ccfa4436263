import FeatureFlags.Context.Basic

/-!
# Building contexts

`ContextBuilder` collects what is said about one entity and validates it in the end. `Context.combine`
joins contexts into one of several kinds: the members of all contexts, in the order of their kinds, each
kind once. A single member stands for itself.
-/

namespace FeatureFlags

/-- Why a context cannot be built. -/
inductive ContextError where
  | multiKind
  | kind (error : KindError)
  | emptyKey
  | repeatedKind (kind : Kind)
  | noMembers
  deriving DecidableEq, Repr

/-- The wording of a context error. -/
def ContextError.message : ContextError → String
  | multiKind => "a multi-kind context must be built with MultiContextBuilder"
  | kind e => e.message
  | emptyKey => "context key cannot be empty"
  | repeatedKind k => "multi-kind context contains kind '" ++ k.name ++ "' more than once"
  | noMembers => "multi-kind context must contain at least one context"

/-- What has been said about an entity. -/
structure ContextBuilder where
  kind : String
  key : String
  name : Option String
  anonymous : Bool
  attributes : Entries AttributeValue
  privateAttributes : List Reference
  deriving Repr

namespace ContextBuilder

/-- An entity of kind `user` with a key and nothing else. -/
def new (key : String) : ContextBuilder := ⟨"user", key, none, false, [], []⟩

/-- The names that are no custom attributes. -/
def reservedNames : List String := ["", "_meta", "kind", "key", "name", "anonymous"]

/-- Sets an attribute. Built-in attributes only take values of their own type, where null clears `name`;
other values for them are ignored. Null removes a custom attribute. -/
def setValue (b : ContextBuilder) (name : String) (value : AttributeValue) : ContextBuilder :=
  if name ∈ reservedNames then
    match name, value with
    | "kind", .string s => { b with kind := s }
    | "key", .string s => { b with key := s }
    | "name", .string s => { b with name := some s }
    | "name", .null => { b with name := none }
    | "anonymous", .bool a => { b with anonymous := a }
    | _, _ => b
  else
    match value with
    | .null => { b with attributes := b.attributes.erase name }
    | value => { b with attributes := b.attributes.insert name value }

/-- Marks an attribute as private. -/
def addPrivate (b : ContextBuilder) (reference : Reference) : ContextBuilder :=
  { b with privateAttributes := b.privateAttributes ++ [reference] }

/-- The entity that was described. -/
def buildEntity (b : ContextBuilder) : Except ContextError Entity :=
  if b.kind = Kind.multi.name then .error .multiKind
  else
    match Kind.ofName b.kind with
    | .error e => .error (.kind e)
    | .ok kind =>
      if b.key.isEmpty then .error .emptyKey
      else .ok ⟨kind, b.key, b.name, b.anonymous, b.attributes, b.privateAttributes⟩

/-- The context that was described. -/
def build (b : ContextBuilder) : Except ContextError Context := b.buildEntity.map .single

end ContextBuilder

namespace Context

/-- Inserts an entity before the first one whose kind comes later; a repeated kind is an error. -/
def insertByKind (e : Entity) : List Entity → Except ContextError (List Entity)
  | [] => .ok [e]
  | m :: rest =>
    if e.kind.name < m.kind.name then .ok (e :: m :: rest)
    else if m.kind.name < e.kind.name then (insertByKind e rest).map (m :: ·)
    else .error (.repeatedKind m.kind)

/-- Sorts entities by kind; a repeated kind is an error. -/
def sortByKind (entities : List Entity) : Except ContextError (List Entity) :=
  entities.foldlM (fun sorted e => insertByKind e sorted) []

/-- The context of all entities of some contexts. -/
def combine (contexts : List Context) : Except ContextError Context :=
  match sortByKind (contexts.flatMap entities) with
  | .error e => .error e
  | .ok [] => .error .noMembers
  | .ok [e] => .ok (.single e)
  | .ok members => .ok (.multi members)

end Context
end FeatureFlags
