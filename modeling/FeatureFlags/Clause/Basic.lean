import FeatureFlags.Clause.Operator
import FeatureFlags.Context.Basic

/-!
# Clauses

A clause is a condition on a context: an attribute of the entity of one kind, an operator and a list of
values. `Clause.holds` decides every clause that does not refer to segments.
-/

namespace FeatureFlags

/-- A condition on a context. Where no kind is named it is about the entity of kind `user`. -/
structure Clause where
  contextKind : Option Kind
  reference : Reference
  negate : Bool
  op : Operator
  values : List AttributeValue
  deriving Repr

namespace Clause

open Json

/-! ## From and to JSON -/

/-- The fields of a clause. -/
def fields : Fields [Option Kind, String, Bool, Operator, List AttributeValue] :=
  .cons (.optionalMember "contextKind" Kind.decoder) <|
  .cons (.withDefault "attribute" "" Decoder.string) <|
  .cons (.flag "negate") <|
  .cons (.withDefault "op" (.unknown "") Operator.decoder) <|
  .cons (.list "values" AttributeValue.decoder) <|
  .nil

/-- The clause of its fields: the attribute is a path only if the clause names a kind. -/
def ofRow : Row [Option Kind, String, Bool, Operator, List AttributeValue] → Clause
  | (contextKind, text, negate, op, values, ()) =>
    ⟨contextKind, Reference.ofAttribute text contextKind.isSome, negate, op, values⟩

/-- Decodes a clause. -/
def decoder : Decoder Clause := Decoder.record fields ofRow

/-- The document of a clause. -/
def document (c : Clause) : Document :=
  .object <| Document.member? "contextKind" (fun k => .string k.name) c.contextKind ++
    [("attribute", .string c.reference.text), ("negate", .bool c.negate),
     ("op", .string c.op.name), ("values", .array (AttributeValue.documents c.values))]

/-- Whether two clauses are equal. -/
def same (a b : Clause) : Bool :=
  a.contextKind == b.contextKind && a.reference == b.reference && a.negate == b.negate &&
    a.op == b.op && AttributeValue.sameItems a.values b.values

/-! ## Meaning -/

/-- The kind of the entity that the clause is about. -/
def kind (c : Clause) : Kind := c.contextKind.getD .user

/-- An answer, reversed if the clause is negated. -/
def maybeNegate (c : Clause) (answer : Bool) : Bool := if c.negate then !answer else answer

/-- The values of the clause, prepared for its operator. -/
def prepared (c : Clause) : Prepared := Prepared.of c.op c.values

/-- Whether a value matches any value of the clause. -/
def matchesAny (c : Clause) (a : AttributeValue) : Bool := c.prepared.matchesAny c.op c.values a

/-- Whether the elements of an array match, one after the other: a nested collection before the first
match is a failure, whether the clause is negated or not. -/
def matchesElements (c : Clause) : List AttributeValue → Bool
  | [] => c.maybeNegate false
  | a :: rest =>
    if !a.isScalar then false
    else if c.matchesAny a then c.maybeNegate true
    else c.matchesElements rest

/-- Whether the value of an attribute matches. A missing value, null and objects never do. -/
def matchesValue (c : Clause) : Option AttributeValue → Bool
  | none | some .null | some (.object _) => false
  | some (.array items) => c.matchesElements items
  | some a => c.maybeNegate (c.matchesAny a)

/-- Whether the clause holds for a context, if it does not refer to segments. A clause about the kind
looks at all entities of the context. -/
def holds (c : Clause) (context : Context) : Bool :=
  if !c.reference.isValid then false
  else if c.reference.isKind then
    c.maybeNegate (context.kinds.any fun k => c.matchesAny (.string k.name))
  else
    match context.entity? c.kind with
    | none => false
    | some e => c.matchesValue (e.value? c.reference)

end Clause
end FeatureFlags
