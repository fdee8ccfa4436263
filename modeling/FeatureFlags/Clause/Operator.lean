import FeatureFlags.Attribute.Value
import FeatureFlags.Pattern.Basic

/-!
# Operators

An operator compares a value of a context with a value of a clause. Values that an operator has to take
apart (patterns, times, versions) can be prepared once: `Prepared.of` holds what was made of each, and for
`isIn` the set of keys of the values.

`Operator.test` uses a prepared operand if it is given one, and prepares it on the spot otherwise.
-/

namespace FeatureFlags

/-- How a clause compares values. An operator of an unknown name never holds. -/
inductive Operator where
  | isIn
  | startsWith
  | endsWith
  | contains
  | matches
  | lessThan
  | lessThanOrEqual
  | greaterThan
  | greaterThanOrEqual
  | before
  | after
  | segmentMatch
  | semVerEqual
  | semVerGreaterThan
  | semVerLessThan
  | unknown (name : String)
  deriving DecidableEq, Repr

namespace Operator

/-- The name of an operator. -/
def name : Operator → String
  | isIn => "in"
  | startsWith => "startsWith"
  | endsWith => "endsWith"
  | contains => "contains"
  | .matches => "matches"
  | lessThan => "lessThan"
  | lessThanOrEqual => "lessThanOrEqual"
  | greaterThan => "greaterThan"
  | greaterThanOrEqual => "greaterThanOrEqual"
  | before => "before"
  | after => "after"
  | segmentMatch => "segmentMatch"
  | semVerEqual => "semVerEqual"
  | semVerGreaterThan => "semVerGreaterThan"
  | semVerLessThan => "semVerLessThan"
  | unknown name => name

/-- The operators that have a name of their own. -/
def named : List Operator :=
  [isIn, startsWith, endsWith, contains, .matches, lessThan, lessThanOrEqual, greaterThan,
   greaterThanOrEqual, before, after, segmentMatch, semVerEqual, semVerGreaterThan, semVerLessThan]

/-- The operator of a name. -/
def ofName (name : String) : Operator :=
  (named.find? (·.name == name)).getD (unknown name)

/-- Decodes an operator. -/
def decoder : Json.Decoder Operator := Json.Decoder.map ofName Json.Decoder.string

end Operator

/-- A clause value prepared for its operator. -/
inductive Operand where
  | pattern (pattern : Pattern)
  | time (time : Timestamp)
  | version (version : Version)
  | invalid

/-- The values of a clause, prepared for its operator: the keys of the values of `isIn` if all of them
are scalars, or one operand for each value of an operator that takes its values apart. -/
structure Prepared where
  keys : Option (List ScalarKey)
  operands : List Operand

/-- Prepares a value for an operator that takes its values apart. -/
def Operator.prepare? (op : Operator) (value : AttributeValue) : Option Operand :=
  match op with
  | .matches => (value.string?.bind Pattern.ofText?).map .pattern
  | .before | .after => value.timestamp?.map .time
  | .semVerEqual | .semVerLessThan | .semVerGreaterThan => value.version?.map .version
  | _ => none

/-- Whether an operator takes its values apart. -/
def Operator.takesApart : Operator → Bool
  | .matches | .before | .after | .semVerEqual | .semVerLessThan | .semVerGreaterThan => true
  | _ => false

/-- Prepares the values of a clause. -/
def Prepared.of (op : Operator) (values : List AttributeValue) : Prepared :=
  { keys := if op = .isIn then values.mapM AttributeValue.scalarKey? else none
    operands := if op.takesApart then values.map fun v => (op.prepare? v).getD .invalid else [] }

/-! ## Comparisons -/

/-- Whether a text starts with another one. -/
def hasStart (text start : String) : Bool := start.toList.isPrefixOf text.toList

/-- Whether a text ends with another one. -/
def hasEnd (text tail : String) : Bool := tail.toList.isSuffixOf text.toList

/-- Whether some rest of a text starts with a part. -/
def occurs (part : List Char) : List Char → Bool
  | [] => part.isEmpty
  | c :: rest => part.isPrefixOf (c :: rest) || occurs part rest

/-- Whether a text contains another one. -/
def hasPart (text part : String) : Bool := occurs part.toList text.toList

/-- Applies a test to two texts; anything else fails it. -/
def testStrings (test : String → String → Bool) (a b : AttributeValue) : Bool :=
  match a.string?, b.string? with
  | some a, some b => test a b
  | _, _ => false

/-- Applies a test to two numbers; anything else fails it. -/
def testNumbers (test : Double → Double → Bool) (a b : AttributeValue) : Bool :=
  match a.number?, b.number? with
  | some a, some b => test a b
  | _, _ => false

/-- Applies a test to two times, where the second may be prepared. -/
def testTimes (test : Timestamp → Timestamp → Bool) (a b : AttributeValue) (prepared : Option Operand) :
    Bool :=
  let right := match prepared with
    | some (.time t) => some t
    | some _ => none
    | none => b.timestamp?
  match a.timestamp?, right with
  | some a, some b => test a b
  | _, _ => false

/-- Applies a test to two versions, where the second may be prepared. -/
def testVersions (test : Ordering → Bool) (a b : AttributeValue) (prepared : Option Operand) : Bool :=
  let right := match prepared with
    | some (.version v) => some v
    | some _ => none
    | none => b.version?
  match a.version?, right with
  | some a, some b => test (a.compare b)
  | _, _ => false

/-- Matches a text against a pattern, which may be prepared. -/
def testPattern (a b : AttributeValue) (prepared : Option Operand) : Bool :=
  let right := match prepared with
    | some (.pattern p) => some p
    | some _ => none
    | none => b.string?.bind Pattern.ofText?
  match a.string?, right with
  | some a, some p => p.matchesText a
  | _, _ => false

/-- Whether an operator holds between a value of a context and a value of a clause. -/
def Operator.test (op : Operator) (a b : AttributeValue) (prepared : Option Operand) : Bool :=
  match op with
  | .isIn => a.same b
  | .startsWith => testStrings hasStart a b
  | .endsWith => testStrings hasEnd a b
  | .contains => testStrings hasPart a b
  | .matches => testPattern a b prepared
  | .lessThan => testNumbers Binary.lt a b
  | .lessThanOrEqual => testNumbers Binary.le a b
  | .greaterThan => testNumbers (fun x y => y.lt x) a b
  | .greaterThanOrEqual => testNumbers (fun x y => y.le x) a b
  | .before => testTimes Timestamp.before a b prepared
  | .after => testTimes (fun s t => t.before s) a b prepared
  | .semVerEqual => testVersions (· == .eq) a b prepared
  | .semVerLessThan => testVersions (· == .lt) a b prepared
  | .semVerGreaterThan => testVersions (· == .gt) a b prepared
  | .segmentMatch | .unknown _ => false

/-- Whether a value of a context matches any value of a clause, given the prepared values. -/
def Prepared.matchesAny (p : Prepared) (op : Operator) (values : List AttributeValue)
    (a : AttributeValue) : Bool :=
  match op, p.keys with
  | .isIn, some keys => (a.scalarKey?.map keys.contains).getD false
  | _, _ => values.zipIdx.any fun (b, i) => op.test a b p.operands[i]?

end FeatureFlags
