import FeatureFlags.Unicode.Property

/-!
# Regular expressions

A regular expression leads from positions of a text to positions of it. `Regex.run` computes for a set of
positions where matches that begin at one of them end. A set of positions is a number: bit `i` stands for
the position before the character with index `i`.

A repetition is carried out at most once more than the text has characters. After so many rounds nothing
changes: a longer run through the text passes some position twice.
-/

namespace FeatureFlags.Pattern

open Unicode (CharSet)

-- powers are those of the core library, whatever else is imported
attribute [local instance (high)] instPowNat

/-- A condition on the characters around a position, of which those that belong to words are told. -/
inductive WordCondition where
  | boundary
  | noBoundary
  | start
  | finish
  | startHalf
  | finishHalf
  deriving DecidableEq, Repr

/-- A condition on a position. -/
inductive Look where
  | textStart
  | textEnd
  /-- After a newline or at the start; with `crlf` also after a carriage return that no newline follows. -/
  | lineStart (crlf : Bool)
  /-- Before a newline or at the end; with `crlf` also before a carriage return, but not between it and a
  newline. -/
  | lineEnd (crlf : Bool)
  | word (condition : WordCondition) (unicode : Bool)
  deriving DecidableEq, Repr

/-- A regular expression. -/
inductive Regex where
  | empty
  | char (set : CharSet)
  | look (condition : Look)
  | seq (first second : Regex)
  | alt (left right : Regex)
  | repeated (body : Regex) (least : Nat) (most : Option Nat)

/-! ## Conditions -/

/-- The ASCII characters of words. -/
def asciiWord : CharSet :=
  .unions [.range 0x30 0x39, .range 0x41 0x5A, .single 0x5F, .range 0x61 0x7A]

/-- Whether there is a character, and it belongs to a word. -/
def isWordChar (unicode : Bool) : Option Char → Bool
  | none => false
  | some c => (if unicode then Unicode.word else asciiWord).contains c.toNat

/-- Whether a condition holds between two sides that belong to a word or do not. -/
def WordCondition.holds (before after : Bool) : WordCondition → Bool
  | boundary => before != after
  | noBoundary => before == after
  | start => !before && after
  | finish => before && !after
  | startHalf => !before
  | finishHalf => !after

/-- Whether a condition holds between two characters, where there may be none. -/
def Look.holds (before after : Option Char) : Look → Bool
  | textStart => before.isNone
  | textEnd => after.isNone
  | lineStart false => before.isNone || before == some '\n'
  | lineStart true =>
    before.isNone || before == some '\n' || (before == some '\r' && after != some '\n')
  | lineEnd false => after.isNone || after == some '\n'
  | lineEnd true =>
    after.isNone || after == some '\r' || (after == some '\n' && before != some '\r')
  | word condition unicode => condition.holds (isWordChar unicode before) (isWordChar unicode after)

/-! ## Positions -/

/-- The positions before characters of a set. -/
def charPositions (set : CharSet) : List Char → Nat
  | [] => 0
  | c :: rest => 2 * charPositions set rest + (set.contains c.toNat).toNat

/-- The positions where a condition holds, given the character before the text. -/
def lookPositions (condition : Look) (before : Option Char) : List Char → Nat
  | [] => (condition.holds before none).toNat
  | c :: rest => 2 * lookPositions condition (some c) rest + (condition.holds before (some c)).toNat

/-- All positions of a text. -/
def allPositions (text : List Char) : Nat := 2 ^ (text.length + 1) - 1

/-- Applies a step so many times, or until it changes nothing. -/
def iterate (step : Nat → Nat) : Nat → Nat → Nat
  | 0, s => s
  | n + 1, s => if step s = s then s else iterate step n (step s)

/-- What up to so many steps reach. -/
def reach (step : Nat → Nat) : Nat → Nat → Nat
  | 0, s => s
  | n + 1, s => if s ||| step s = s then s else reach step n (s ||| step s)

namespace Regex

/-- The positions where matches end that begin at some positions. -/
def run (text : List Char) : Regex → Nat → Nat
  | empty, s => s
  | char set, s => 2 * (s &&& charPositions set text)
  | look condition, s => s &&& lookPositions condition none text
  | seq first second, s => second.run text (first.run text s)
  | alt left right, s => left.run text s ||| right.run text s
  | repeated body least most, s =>
    let rounds := text.length + 1
    let base := iterate (body.run text) (min least rounds) s
    match most with
    | none => reach (body.run text) rounds base
    | some most => reach (body.run text) (min (most - least) rounds) base

/-- Whether a part of a text matches. -/
def matchesIn (r : Regex) (text : List Char) : Bool := r.run text (allPositions text) != 0

/-! ## Cost -/

/-- Whether a match can have any characters. -/
def consumes : Regex → Bool
  | empty | look _ => false
  | char _ => true
  | seq a b | alt a b => a.consumes || b.consumes
  | repeated body _ most => body.consumes && most != some 0

/-- About how many bytes an automaton for a set takes. -/
def setCost (set : CharSet) : Nat :=
  if set.ascii then 24 + 8 * set.pieces else 240 + 60 * set.pieces

/-- About how many bytes an automaton takes. Repetitions are unrolled. -/
def cost : Regex → Nat
  | empty | look _ => 32
  | char set => setCost set
  | seq a b => a.cost + b.cost
  | alt a b => a.cost + b.cost + 36
  | repeated body least most =>
    if !body.consumes then body.cost
    else
      match most with
      | none => max least 1 * body.cost + 36
      | some most => least * body.cost + (most - least) * (body.cost + 40)

end Regex
end FeatureFlags.Pattern
