import FeatureFlags.Clause.Basic
import FeatureFlags.Rollout

/-!
# Segments

A segment is a group of contexts: keys that are included or excluded, and rules. The members of an
*unbounded* segment are kept elsewhere, under an identifier made of its key and its generation.
-/

namespace FeatureFlags

/-- The keys of one kind that a segment includes or excludes. -/
structure SegmentTarget where
  values : List String
  contextKind : Kind
  deriving DecidableEq, Repr

/-- A rule of a segment: clauses, and possibly the weight of a part of the contexts. -/
structure SegmentRule where
  id : Option String
  clauses : List Clause
  weight : Option Single
  bucketBy : Option Reference
  rolloutContextKind : Option Kind
  deriving Repr

/-- A group of contexts. -/
structure Segment where
  key : String
  version : Nat
  included : List String
  excluded : List String
  includedContexts : List SegmentTarget
  excludedContexts : List SegmentTarget
  rules : List SegmentRule
  salt : String
  unbounded : Bool
  unboundedContextKind : Option Kind
  generation : Option Int
  deleted : Bool
  deriving Repr

open Json

namespace SegmentTarget

/-- The fields of a list of keys. -/
def fields : Fields [List String, Kind] :=
  .cons (.list "values" Decoder.string) <|
  .cons (.withDefault "contextKind" .user Kind.decoder) <|
  .nil

/-- Decodes a list of keys. -/
def decoder : Decoder SegmentTarget := Decoder.record fields fun (values, kind, ()) => ⟨values, kind⟩

/-- The document of a list of keys. -/
def document (t : SegmentTarget) : Document :=
  .object [("values", .strings t.values), ("contextKind", .string t.contextKind.name)]

end SegmentTarget

namespace SegmentRule

/-- The types of the fields of a rule. -/
abbrev FieldTypes : List Type :=
  [Option String, List Clause, Option Single, Option String, Option Kind]

/-- The fields of a rule. -/
def fields : Fields FieldTypes :=
  .cons (.optional "id" Decoder.string) <|
  .cons (.list "clauses" Clause.decoder) <|
  .cons (.optional "weight" Decoder.single) <|
  .cons (.optional "bucketBy" Decoder.string) <|
  .cons (.optional "rolloutContextKind" Kind.decoder) <|
  .nil

/-- The rule of its fields: the attribute is a path only if the rule names a kind. -/
def ofRow : Row FieldTypes → SegmentRule
  | (id, clauses, weight, bucketBy, kind, ()) =>
    ⟨id, clauses, weight, bucketBy.map (Reference.ofAttribute · kind.isSome), kind⟩

/-- Decodes a rule. -/
def decoder : Decoder SegmentRule := Decoder.record fields ofRow

/-- The document of a rule. -/
def document (r : SegmentRule) : Document :=
  .object <| Document.member? "id" .string r.id ++
    [("clauses", .array (r.clauses.map Clause.document))] ++
    Document.member? "weight" .exactSingle r.weight ++
    Document.member? "bucketBy" (fun b => .string b.text) r.bucketBy ++
    Document.member? "rolloutContextKind" (fun k => .string k.name) r.rolloutContextKind

/-- Whether two rules are equal. -/
def same (a b : SegmentRule) : Bool :=
  a.id == b.id && sameList Clause.same a.clauses b.clauses &&
    sameOption Binary.eq a.weight b.weight && a.bucketBy == b.bucketBy &&
    a.rolloutContextKind == b.rolloutContextKind

end SegmentRule

namespace Segment

/-- The types of the fields of a segment. -/
abbrev FieldTypes : List Type :=
  [String, Nat, List String, List String, List SegmentTarget, List SegmentTarget, List SegmentRule,
   String, Bool, Option Kind, Option Int, Bool]

/-- The fields of a segment. -/
def fields : Fields FieldTypes :=
  .cons (.required "key" Decoder.string) <|
  .cons (.required "version" (Decoder.natural 64)) <|
  .cons (.list "included" Decoder.string) <|
  .cons (.list "excluded" Decoder.string) <|
  .cons (.list "includedContexts" SegmentTarget.decoder) <|
  .cons (.list "excludedContexts" SegmentTarget.decoder) <|
  .cons (.list "rules" SegmentRule.decoder) <|
  .cons (.withDefault "salt" "" Decoder.string) <|
  .cons (.flag "unbounded") <|
  .cons (.optional "unboundedContextKind" Kind.decoder) <|
  .cons (.optional "generation" Decoder.signed64) <|
  .cons (.flag "deleted") <|
  .nil

/-- The segment of its fields. -/
def ofRow : Row FieldTypes → Segment
  | (key, version, included, excluded, includedContexts, excludedContexts, rules, salt, unbounded,
      unboundedContextKind, generation, deleted, ()) =>
    { key, version, included, excluded, includedContexts, excludedContexts, rules, salt, unbounded,
      unboundedContextKind, generation, deleted }

/-- Decodes a segment. -/
def decoder : Decoder Segment := Decoder.record fields ofRow

/-- The document of a segment. -/
def document (s : Segment) : Document :=
  .object <|
    [("key", .string s.key), ("version", .natural s.version), ("included", .strings s.included),
     ("excluded", .strings s.excluded),
     ("includedContexts", .array (s.includedContexts.map SegmentTarget.document)),
     ("excludedContexts", .array (s.excludedContexts.map SegmentTarget.document)),
     ("rules", .array (s.rules.map SegmentRule.document)), ("salt", .string s.salt)] ++
    Document.memberIfTrue "unbounded" s.unbounded ++
    Document.member? "unboundedContextKind" (fun k => .string k.name) s.unboundedContextKind ++
    Document.member? "generation" .integer s.generation ++
    Document.memberIfTrue "deleted" s.deleted

/-- The text of a segment. -/
def encode (s : Segment) : String := s.document.text

/-- Decodes the text of a segment. -/
def decode (text : String) : Except DecodeError Segment := decoder.run text

/-- Whether two segments are equal, weights being compared numerically. -/
def same (a b : Segment) : Bool :=
  a.key == b.key && a.version == b.version && a.included == b.included && a.excluded == b.excluded &&
    a.includedContexts == b.includedContexts && a.excludedContexts == b.excludedContexts &&
    sameList SegmentRule.same a.rules b.rules && a.salt == b.salt && a.unbounded == b.unbounded &&
    a.unboundedContextKind == b.unboundedContextKind && a.generation == b.generation &&
    a.deleted == b.deleted

/-- The identifier of an unbounded segment. -/
def unboundedId (s : Segment) : String :=
  match s.generation with
  | none | some 0 => s.key
  | some g => s.key ++ ".g" ++ String.ofList (integerText g)

/-! ## Lists of keys -/

/-- Whether the key of the `user` entity is listed. -/
def listsUser (keys : List String) (context : Context) : Bool :=
  match context.entity? .user with
  | some e => keys.contains e.key
  | none => false

/-- Whether the key of an entity is listed for its kind. -/
def listsEntity (targets : List SegmentTarget) (context : Context) : Bool :=
  targets.any fun t =>
    match context.entity? t.contextKind with
    | some e => t.values.contains e.key
    | none => false

/-- Whether a context is excluded by its keys. -/
def excludes (s : Segment) (context : Context) : Bool :=
  listsUser s.excluded context || listsEntity s.excludedContexts context

/-- Whether a context is included by its keys. -/
def includes (s : Segment) (context : Context) : Bool :=
  listsUser s.included context || listsEntity s.includedContexts context

end Segment
end FeatureFlags
