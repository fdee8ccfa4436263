import FeatureFlags.Context.Basic

/-!
# Rollouts

A rollout splits contexts among variations by weight: the weights are parts of 100000, and a context gets
the first variation whose cumulated share lies above its bucket, or else the last one. All sums are in
single precision.

An `Outcome` is what a rule or the fallthrough of a flag serves: one variation, a rollout, or nothing
usable.
-/

namespace FeatureFlags

/-- A variation of a rollout with its weight. -/
structure WeightedVariation where
  variation : Nat
  weight : Single
  untracked : Bool
  deriving DecidableEq, Repr

/-- A split of contexts among variations. An experiment goes by the key of a context alone. -/
structure Rollout where
  experiment : Bool
  contextKind : Option Kind
  bucketBy : Option Reference
  variations : List WeightedVariation
  seed : Option Int
  deriving DecidableEq, Repr

/-- What is served once it is known who is asking. -/
inductive Outcome where
  | variation (index : Nat)
  | rollout (rollout : Rollout)
  | malformed
  deriving DecidableEq, Repr

/-- A variation that was chosen, and whether the choice is part of an experiment. -/
structure Choice where
  variation : Nat
  inExperiment : Bool
  deriving DecidableEq, Repr

open Json

/-! ## From and to JSON -/

namespace WeightedVariation

/-- The fields of a weighted variation. -/
def fields : Fields [Nat, Single, Bool] :=
  .cons (.required "variation" (Decoder.natural 64)) <|
  .cons (.required "weight" Decoder.single) <|
  .cons (.flag "untracked") <|
  .nil

/-- Decodes a weighted variation. -/
def decoder : Decoder WeightedVariation :=
  Decoder.record fields fun (variation, weight, untracked, ()) => ⟨variation, weight, untracked⟩

/-- The document of a weighted variation. -/
def document (v : WeightedVariation) : Document :=
  .object <| [("variation", .natural v.variation), ("weight", .exactSingle v.weight)] ++
    Document.memberIfTrue "untracked" v.untracked

/-- Whether two weighted variations are equal, weights being compared numerically. -/
def same (a b : WeightedVariation) : Bool :=
  a.variation == b.variation && a.weight.eq b.weight && a.untracked == b.untracked

end WeightedVariation

/-- Whether two lists are equal item by item. -/
def sameList {α : Type} (same : α → α → Bool) : List α → List α → Bool
  | [], [] => true
  | a :: as, b :: bs => same a b && sameList same as bs
  | _, _ => false

/-- Whether two optional values are equal. -/
def sameOption {α : Type} (same : α → α → Bool) : Option α → Option α → Bool
  | none, none => true
  | some a, some b => same a b
  | _, _ => false

namespace Rollout

/-- Decodes the kind of a rollout; any text but `experiment` and also null is a plain rollout. -/
def kindDecoder : Decoder Bool :=
  Decoder.map (· == some "experiment") (Decoder.optional Decoder.string)

/-- The fields of a rollout. -/
def fields : Fields [Bool, Option Kind, Option String, List WeightedVariation, Option Int] :=
  .cons (.withDefault "kind" false kindDecoder) <|
  .cons (.optionalMember "contextKind" Kind.decoder) <|
  .cons (.optionalMember "bucketBy" Decoder.string) <|
  .cons (.list "variations" WeightedVariation.decoder) <|
  .cons (.optionalMember "seed" Decoder.signed64) <|
  .nil

/-- The rollout of its fields: the attribute is a path only if the rollout names a kind. -/
def ofRow :
    Row [Bool, Option Kind, Option String, List WeightedVariation, Option Int] → Rollout
  | (experiment, contextKind, bucketBy, variations, seed, ()) =>
    ⟨experiment, contextKind, bucketBy.map (Reference.ofAttribute · contextKind.isSome), variations,
      seed⟩

/-- Decodes a rollout. -/
def decoder : Decoder Rollout := Decoder.record fields ofRow

/-- The document of a rollout. -/
def document (r : Rollout) : Document :=
  .object <| (if r.experiment then [("kind", .string "experiment")] else []) ++
    Document.member? "contextKind" (fun k => .string k.name) r.contextKind ++
    Document.member? "bucketBy" (fun b => .string b.text) r.bucketBy ++
    [("variations", .array (r.variations.map WeightedVariation.document))] ++
    Document.member? "seed" .integer r.seed

/-- Whether two rollouts are equal, weights being compared numerically. -/
def same (a b : Rollout) : Bool :=
  a.experiment == b.experiment && a.contextKind == b.contextKind && a.bucketBy == b.bucketBy &&
    sameList WeightedVariation.same a.variations b.variations && a.seed == b.seed

end Rollout

namespace Outcome

/-- The outcome of its two members: a variation goes before a rollout. -/
def ofParts : Option Nat → Option Rollout → Outcome
  | some index, _ => variation index
  | none, some r => rollout r
  | none, none => malformed

/-- The fields of an outcome. -/
def fields : Fields [Option Nat, Option Rollout] :=
  .cons (.optional "variation" (Decoder.natural 64)) <|
  .cons (.optional "rollout" Rollout.decoder) <|
  .nil

/-- The outcome of its fields. -/
def ofRow : Row [Option Nat, Option Rollout] → Outcome
  | (index, split, ()) => ofParts index split

/-- Decodes an outcome. -/
def decoder : Decoder Outcome := Decoder.record fields ofRow

/-- The members of an outcome. -/
def members : Outcome → List (String × Document)
  | variation index => [("variation", .natural index)]
  | rollout r => [("rollout", r.document)]
  | malformed => []

/-- The document of an outcome. -/
def document (o : Outcome) : Document := .object o.members

/-- Whether two outcomes are equal, weights being compared numerically. -/
def same : Outcome → Outcome → Bool
  | variation a, variation b => a == b
  | rollout a, rollout b => a.same b
  | malformed, malformed => true
  | _, _ => false

end Outcome

/-! ## Meaning -/

/-- The weight of everybody. -/
def fullWeight : Single := .ofNat 100000

/-- The share of a weight, between 0 and 1. -/
def share (weight : Single) : Single := weight.div fullWeight

/-- The choice of a weighted variation. -/
def WeightedVariation.choice (v : WeightedVariation) (experiment : Bool) : Choice :=
  ⟨v.variation, experiment && !v.untracked⟩

/-- The first variation whose cumulated share lies above a bucket, if there is any. -/
def pickBelow (bucket sum : Single) : List WeightedVariation → Option WeightedVariation
  | [] => none
  | v :: rest =>
    let sum := sum.add (share v.weight)
    if bucket.lt sum then some v else pickBelow bucket sum rest

/-- The variation for a bucket; above all shares it is the last one. -/
def pick (bucket : Single) (variations : List WeightedVariation) : Option WeightedVariation :=
  (pickBelow bucket .zero variations).or variations.getLast?

/-- What is hashed before the identity of a context. -/
def Rollout.hashPrefix (r : Rollout) (key salt : String) : BucketPrefix :=
  match r.seed with
  | some seed => .seed seed
  | none => .keyAndSalt key salt

/-- The choice of a rollout for a context. It is part of an experiment only if the context has an entity
of the rollout's kind. -/
def Rollout.choose (r : Rollout) (key : String) (context : Context) (salt : String) :
    Except ReferenceError (Option Choice) := do
  let kind := r.contextKind.getD .user
  let placement ← context.bucket r.bucketBy (r.hashPrefix key salt) r.experiment kind
  return (pick placement.bucket r.variations).map (·.choice (r.experiment && !placement.kindMissing))

/-- The choice of an outcome for a context, if it names any. -/
def Outcome.choose (o : Outcome) (key : String) (context : Context) (salt : String) :
    Except ReferenceError (Option Choice) :=
  match o with
  | variation index => .ok (some ⟨index, false⟩)
  | rollout r => r.choose key context salt
  | malformed => .ok none

end FeatureFlags
