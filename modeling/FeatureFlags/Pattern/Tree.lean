/-!
# The structure of patterns

A pattern is a list of alternatives, each of which is a sequence of terms.
-/

namespace FeatureFlags.Pattern

/-- A character of a pattern. -/
structure Letter where
  char : Char
  /-- Whether it was written with two hexadecimal digits, which stand for a byte where text is bytes. -/
  isByte : Bool
  deriving DecidableEq, Repr

/-- The classes that have an escape of one letter. -/
inductive ShortClass where
  | digit
  | space
  | word
  deriving DecidableEq, Repr

/-- The classes that are written `[:name:]` inside of brackets. -/
inductive AsciiClass where
  | alnum | alpha | ascii | blank | cntrl | digit | graph | lower | print | punct | space | upper
  | word | xdigit
  deriving DecidableEq, Repr

/-- The name of a property of characters: a name that stands alone, or a name with a value. -/
inductive PropertyName where
  | plain (name : String)
  | withValue (name value : String)
  deriving DecidableEq, Repr

/-- How two sets in brackets are combined. -/
inductive SetOperation where
  | intersection
  | difference
  | symmetricDifference
  deriving DecidableEq, Repr

mutual

/-- A part of a set in brackets. -/
inductive SetItem where
  | letter (letter : Letter)
  | range (first last : Letter)
  | ascii (kind : AsciiClass) (negated : Bool)
  | short (kind : ShortClass) (negated : Bool)
  | property (name : PropertyName) (negated : Bool)
  | nested (set : BracketSet) (negated : Bool)

/-- What stands in brackets. -/
inductive BracketSet where
  | union (items : List SetItem)
  | combined (op : SetOperation) (left right : BracketSet)

end

/-- A condition on a position. -/
inductive Assertion where
  | lineStart
  | lineEnd
  | textStart
  | textEnd
  | wordBoundary
  | notWordBoundary
  | wordStart
  | wordEnd
  | wordStartHalf
  | wordEndHalf
  deriving DecidableEq, Repr

/-- The options of a pattern. -/
inductive PatternOption where
  | ignoreCase
  | multiLine
  | dotMatchesNewline
  | swapGreed
  | unicode
  | crlf
  | spaced
  deriving DecidableEq, Repr

/-- Options that are switched on or off. -/
abbrev OptionChanges := List (PatternOption × Bool)

/-- A part of a sequence. -/
inductive Term where
  | letter (letter : Letter)
  | dot
  | assertion (assertion : Assertion)
  | short (kind : ShortClass) (negated : Bool)
  | property (name : PropertyName) (negated : Bool)
  | bracket (set : BracketSet) (negated : Bool)
  /-- Changes options up to the end of the group. -/
  | setOptions (changes : OptionChanges)
  | group (changes : OptionChanges) (alternatives : List (List Term))
  | repeated (term : Term) (least : Nat) (most : Option Nat)

/-- The alternatives of a pattern. -/
abbrev Alternatives := List (List Term)

/-! ## Depth -/

/-- The level that a list adds: none if it has at most one member. -/
def levelOf {α : Type} (items : List α) : Nat := if items.length ≤ 1 then 0 else 1

mutual

/-- How deep an item nests. -/
def SetItem.depth : SetItem → Nat
  | .nested set _ => 1 + set.depth
  | _ => 0

/-- How deep a set nests. -/
def BracketSet.depth : BracketSet → Nat
  | .union items => levelOf items + itemsDepth items
  | .combined _ left right => 1 + max left.depth right.depth

/-- How deep the deepest of some items nests. -/
def itemsDepth : List SetItem → Nat
  | [] => 0
  | item :: rest => max item.depth (itemsDepth rest)

end

mutual

/-- How deep a term nests. -/
def Term.depth : Term → Nat
  | .bracket set _ => 1 + set.depth
  | .group _ alternatives => 1 + (levelOf alternatives + alternativesDepth alternatives)
  | .repeated term _ _ => 1 + term.depth
  | _ => 0

/-- How deep the deepest of some terms nests. -/
def termsDepth : List Term → Nat
  | [] => 0
  | term :: rest => max term.depth (termsDepth rest)

/-- How deep the deepest of some sequences nests. -/
def alternativesDepth : List (List Term) → Nat
  | [] => 0
  | terms :: rest => max (levelOf terms + termsDepth terms) (alternativesDepth rest)

end

/-- How deep a pattern nests. -/
def depthOf (alternatives : Alternatives) : Nat := levelOf alternatives + alternativesDepth alternatives

end FeatureFlags.Pattern
