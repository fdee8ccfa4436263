import FeatureFlags.Pattern.Meaning
import FeatureFlags.Pattern.Reader

/-!
# Patterns

A pattern is a regular expression that a text is searched for. Texts that are no pattern, and patterns whose
automaton would be too large, are none.
-/

namespace FeatureFlags

-- powers are those of the core library, whatever else is imported
attribute [local instance (high)] instPowNat

/-- A pattern to search for. -/
structure Pattern where
  regex : Pattern.Regex

namespace Pattern

/-- The greatest size of the automaton of a pattern, in bytes. -/
def maxCost : Nat := 10 * 2 ^ (20 : Nat)

/-- The pattern that a text denotes. -/
def ofText? (text : String) : Option Pattern := do
  let alternatives ← readPattern? text.toList
  let (regex, _) ← alternativesRegex? .initial alternatives
  if regex.cost ≤ maxCost then some ⟨regex⟩ else none

/-- Whether a part of a text matches. -/
def matchesText (p : Pattern) (text : String) : Bool := p.regex.matchesIn text.toList

end Pattern
end FeatureFlags
