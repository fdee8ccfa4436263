import FeatureFlags.Pattern.Regex
import FeatureFlags.Pattern.Tree

/-!
# The meaning of patterns

Turns the structure of a pattern into a regular expression, under the options that hold at each place.

Where the option `unicode` is off a pattern is about bytes. Since texts are characters, it may then only use
sets of ASCII characters; anything that could match a part of a character has no meaning.
-/

namespace FeatureFlags.Pattern

open Unicode (CharSet)

/-- The options that hold at some place. -/
structure Options where
  ignoreCase : Bool
  multiLine : Bool
  dotMatchesNewline : Bool
  unicode : Bool
  crlf : Bool
  deriving DecidableEq, Repr

namespace Options

/-- The options at the start of a pattern. -/
def initial : Options := ⟨false, false, false, true, false⟩

/-- Sets an option. Some have a meaning for the reader only, or none for whether a text matches. -/
def set (o : Options) : PatternOption → Bool → Options
  | .ignoreCase, b => { o with ignoreCase := b }
  | .multiLine, b => { o with multiLine := b }
  | .dotMatchesNewline, b => { o with dotMatchesNewline := b }
  | .unicode, b => { o with unicode := b }
  | .crlf, b => { o with crlf := b }
  | .swapGreed, _ | .spaced, _ => o

/-- Makes changes. -/
def apply (o : Options) (changes : OptionChanges) : Options :=
  changes.foldl (fun o c => o.set c.1 c.2) o

/-- A set together with the other cases of its members, if case is ignored. -/
def fold (o : Options) (s : CharSet) : CharSet :=
  if o.ignoreCase then if o.unicode then s.foldCase else s.foldAsciiCase else s

/-- A set or its complement. The complement of a set of bytes is none of characters. -/
def negate (o : Options) (negated : Bool) (s : CharSet) : Option CharSet :=
  if negated then if o.unicode then some s.compl else none else some s

end Options

/-! ## Classes -/

/-- The characters of a class by name. -/
def AsciiClass.set : AsciiClass → CharSet
  | alnum => .unions [.range 0x30 0x39, .range 0x41 0x5A, .range 0x61 0x7A]
  | alpha => .unions [.range 0x41 0x5A, .range 0x61 0x7A]
  | ascii => .range 0 0x7F
  | blank => .unions [.single 0x09, .single 0x20]
  | cntrl => .unions [.range 0 0x1F, .single 0x7F]
  | digit => .range 0x30 0x39
  | graph => .range 0x21 0x7E
  | lower => .range 0x61 0x7A
  | print => .range 0x20 0x7E
  | punct => .unions [.range 0x21 0x2F, .range 0x3A 0x40, .range 0x5B 0x60, .range 0x7B 0x7E]
  | space => .unions [.range 0x09 0x0D, .single 0x20]
  | upper => .range 0x41 0x5A
  | word => asciiWord
  | xdigit => .unions [.range 0x30 0x39, .range 0x41 0x46, .range 0x61 0x66]

/-- The characters of a class with an escape of one letter. -/
def ShortClass.set (unicode : Bool) : ShortClass → CharSet
  | digit => if unicode then Unicode.digit else AsciiClass.digit.set
  | space => if unicode then Unicode.space else AsciiClass.space.set
  | word => if unicode then Unicode.word else AsciiClass.word.set

/-- The characters of a property. -/
def PropertyName.set? : PropertyName → Option CharSet
  | plain name => Unicode.namedSet? name
  | withValue name value => Unicode.valueSet? name value

/-- The characters of a property as a class. -/
def propertySet? (o : Options) (name : PropertyName) (negated : Bool) : Option CharSet :=
  if o.unicode then do
    let s ← name.set?
    o.negate negated (o.fold s)
  else none

/-! ## Letters and sets -/

/-- The code point of a letter in a set. -/
def Letter.code? (o : Options) (l : Letter) : Option Nat :=
  if o.unicode || l.char.toNat < 0x80 then some l.char.toNat else none

/-- The regular expression of a letter. A byte that is no ASCII character has no meaning. -/
def Letter.regex? (o : Options) (l : Letter) : Option Regex :=
  let n := l.char.toNat
  if !o.unicode && l.isByte && 0x80 ≤ n then none
  else if !o.unicode && 0x80 ≤ n then some (.char (.single n))
  else some (.char (o.fold (.single n)))

/-- Combines two sets. -/
def SetOperation.combine : SetOperation → CharSet → CharSet → CharSet
  | intersection => CharSet.inter
  | difference => CharSet.diff
  | symmetricDifference => CharSet.symmDiff

mutual

/-- The characters of an item. -/
def SetItem.set? (o : Options) : SetItem → Option CharSet
  | .letter l => do return .single (← l.code? o)
  | .range first last => do return .range (← first.code? o) (← last.code? o)
  | .ascii kind negated => o.negate negated (o.fold kind.set)
  | .short kind negated => o.negate negated (kind.set o.unicode)
  | .property name negated => propertySet? o name negated
  | .nested set negated => do o.negate negated (o.fold (← set.set? o))

/-- The characters of what stands in brackets. -/
def BracketSet.set? (o : Options) : BracketSet → Option CharSet
  | .union items => unionSet? o items
  | .combined op left right => do
    let left ← left.set? o
    let right ← right.set? o
    return op.combine (o.fold left) (o.fold right)

/-- The characters of some items. -/
def unionSet? (o : Options) : List SetItem → Option CharSet
  | [] => some .empty
  | item :: rest => do
    let s ← item.set? o
    let t ← unionSet? o rest
    return s.union t

end

/-! ## Terms -/

/-- The set that a dot stands for: all characters, or all but the ends of lines. -/
def dotSet? (o : Options) : Option CharSet :=
  if !o.unicode then none
  else if o.dotMatchesNewline then some (.range 0 Unicode.maxCodePoint)
  else if o.crlf then some (CharSet.unions [.single 0x0A, .single 0x0D]).compl
  else some (CharSet.single 0x0A).compl

/-- The condition on a position that an assertion stands for. -/
def Assertion.look (o : Options) : Assertion → Look
  | lineStart => if o.multiLine then .lineStart o.crlf else .textStart
  | lineEnd => if o.multiLine then .lineEnd o.crlf else .textEnd
  | textStart => .textStart
  | textEnd => .textEnd
  | wordBoundary => .word .boundary o.unicode
  | notWordBoundary => .word .noBoundary o.unicode
  | wordStart => .word .start o.unicode
  | wordEnd => .word .finish o.unicode
  | wordStartHalf => .word .startHalf o.unicode
  | wordEndHalf => .word .finishHalf o.unicode

mutual

/-- The regular expression of a term, and the options after it. -/
def Term.regex? (o : Options) : Term → Option (Regex × Options)
  | .letter l => (l.regex? o).map (·, o)
  | .dot => (dotSet? o).map (.char ·, o)
  | .assertion a => some (.look (a.look o), o)
  | .short kind negated => (o.negate negated (kind.set o.unicode)).map (.char ·, o)
  | .property name negated => (propertySet? o name negated).map (.char ·, o)
  | .bracket set negated => do
    let s ← o.negate negated (o.fold (← set.set? o))
    return (.char s, o)
  | .setOptions changes => some (.empty, o.apply changes)
  | .group changes alternatives => do
    let (r, _) ← alternativesRegex? (o.apply changes) alternatives
    return (r, o)
  | .repeated term least most => do
    let (r, o) ← term.regex? o
    return (.repeated r least most, o)

/-- The regular expression of a sequence, and the options after it. -/
def termsRegex? (o : Options) : List Term → Option (Regex × Options)
  | [] => some (.empty, o)
  | term :: rest => do
    let (first, o) ← term.regex? o
    let (others, o) ← termsRegex? o rest
    return (.seq first others, o)

/-- The regular expression of alternatives, and the options after them. -/
def alternativesRegex? (o : Options) : List (List Term) → Option (Regex × Options)
  | [] => some (.char .empty, o)
  | terms :: rest => do
    let (first, o) ← termsRegex? o terms
    let (others, o) ← alternativesRegex? o rest
    return (.alt first others, o)

end

end FeatureFlags.Pattern
