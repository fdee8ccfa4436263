import FeatureFlags.Pattern.Escape

/-!
# Reading sets in brackets

A set is a union of characters, ranges, classes and nested sets. Double signs combine what stands on their
left with what stands on their right, from left to right.
-/

namespace FeatureFlags.Pattern

/-! ## Classes by name -/

/-- The class of a name. -/
def asciiClass? (name : String) : Option AsciiClass :=
  match name with
  | "alnum" => some .alnum
  | "alpha" => some .alpha
  | "ascii" => some .ascii
  | "blank" => some .blank
  | "cntrl" => some .cntrl
  | "digit" => some .digit
  | "graph" => some .graph
  | "lower" => some .lower
  | "print" => some .print
  | "punct" => some .punct
  | "space" => some .space
  | "upper" => some .upper
  | "word" => some .word
  | "xdigit" => some .xdigit
  | _ => none

/-- Reads a class by name after its opening bracket; anything else is none. -/
def readAsciiClass? : List Char → Option (SetItem × List Char)
  | ':' :: rest =>
    let (negated, rest) := match rest with
      | '^' :: rest => (true, rest)
      | rest => (false, rest)
    match rest.dropWhile (· != ':') with
    | ':' :: ']' :: after =>
      (asciiClass? (String.ofList (rest.takeWhile (· != ':')))).map fun kind =>
        (.ascii kind negated, after)
    | _ => none
  | _ => none

/-! ## Items -/

/-- Reads a character or an escape. -/
def readMember (spaced : Bool) : List Char → Option (Escape × List Char)
  | [] => none
  | '\\' :: rest => readEscape spaced rest
  | c :: rest => some (.letter ⟨c, false⟩, rest)

/-- An escape as an item; a condition on a position is none. -/
def Escape.toItem? : Escape → Option SetItem
  | letter l => some (.letter l)
  | short kind negated => some (.short kind negated)
  | property name negated => some (.property name negated)
  | assertion _ => none

/-- An escape as the end of a range. -/
def Escape.toLetter? : Escape → Option Letter
  | letter l => some l
  | _ => none

/-- Whether a hyphen is followed by a closing bracket or another hyphen, and so makes no range. -/
def isLoneHyphen (spaced : Bool) (text : List Char) : Bool :=
  match skip spaced text with
  | ']' :: _ | '-' :: _ => true
  | _ => false

/-- Reads a range, a class or a single character. -/
def readItem (spaced : Bool) (text : List Char) : Option (SetItem × List Char) := do
  let (first, rest) ← readMember spaced text
  match skip spaced rest with
  | [] => none
  | '-' :: after =>
    if isLoneHyphen spaced after then return (← first.toItem?, '-' :: after)
    else
      let (last, rest) ← readMember spaced (skip spaced after)
      let first ← first.toLetter?
      let last ← last.toLetter?
      if first.char ≤ last.char then return (.range first last, rest) else none
  | rest => return (← first.toItem?, rest)

/-! ## Sets -/

/-- A letter that stands for itself. -/
def plainLetter (c : Char) : SetItem := .letter ⟨c, false⟩

/-- Reads leading hyphens, which stand for themselves. -/
def readHyphens (spaced : Bool) (fuel : Nat) (done : List SetItem) (text : List Char) :
    List SetItem × List Char :=
  match fuel, text with
  | fuel + 1, '-' :: rest => readHyphens spaced fuel (plainLetter '-' :: done) (skip spaced rest)
  | _, text => (done, text)

/-- Reads the beginning of a set after its opening bracket: whether it is negated, and hyphens or a closing
bracket that stand for themselves. The items are in reverse. -/
def openSet (spaced : Bool) (text : List Char) : Bool × List SetItem × List Char :=
  let (negated, text) := match skip spaced text with
    | '^' :: rest => (true, skip spaced rest)
    | text => (false, text)
  match readHyphens spaced text.length [] text with
  | ([], ']' :: rest) => (negated, [plainLetter ']'], rest)
  | (items, rest) => (negated, items, rest)

/-- What has been read of a set: a left side that waits for its right one, and items in reverse. -/
structure OpenSet where
  left : Option (SetOperation × BracketSet)
  items : List SetItem

/-- The set that has been read. -/
def OpenSet.close (s : OpenSet) : BracketSet :=
  let right := BracketSet.union s.items.reverse
  match s.left with
  | some (op, left) => .combined op left right
  | none => right

/-- Begins the right side of an operation. -/
def OpenSet.combine (s : OpenSet) (op : SetOperation) : OpenSet := ⟨some (op, s.close), []⟩

/-- Adds an item. -/
def OpenSet.add (s : OpenSet) (item : SetItem) : OpenSet := { s with items := item :: s.items }

/-- Reads the rest of a set. The recursion is bounded by `fuel`; the length of the text is enough. -/
def readSet (spaced : Bool) (fuel : Nat) (s : OpenSet) (text : List Char) :
    Option (BracketSet × List Char) :=
  match fuel with
  | 0 => none
  | fuel + 1 =>
    match skip spaced text with
    | [] => none
    | ']' :: rest => some (s.close, rest)
    | '&' :: '&' :: rest => readSet spaced fuel (s.combine .intersection) rest
    | '-' :: '-' :: rest => readSet spaced fuel (s.combine .difference) rest
    | '~' :: '~' :: rest => readSet spaced fuel (s.combine .symmetricDifference) rest
    | '[' :: rest =>
      match readAsciiClass? rest with
      | some (item, rest) => readSet spaced fuel (s.add item) rest
      | none => do
        let (negated, items, rest) := openSet spaced rest
        let (set, rest) ← readSet spaced fuel ⟨none, items⟩ rest
        readSet spaced fuel (s.add (.nested set negated)) rest
    | text => do
      let (item, rest) ← readItem spaced text
      readSet spaced fuel (s.add item) rest

/-- Reads a set after its opening bracket. -/
def readBracket (spaced : Bool) (text : List Char) : Option (Term × List Char) := do
  let (negated, items, rest) := openSet spaced text
  let (set, rest) ← readSet spaced (text.length + 1) ⟨none, items⟩ rest
  return (.bracket set negated, rest)

end FeatureFlags.Pattern
