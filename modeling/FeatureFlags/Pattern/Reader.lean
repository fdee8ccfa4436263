import FeatureFlags.Pattern.Bracket

/-!
# Reading patterns

`readPattern?` reads a whole pattern. Options that are set inside of a group hold up to its end. Nothing can
look ahead or behind, and no text can be referred to that a group has matched.
-/

namespace FeatureFlags.Pattern

open Text (isDigit digitValue)

-- powers are those of the core library, whatever else is imported
attribute [local instance (high)] instPowNat

/-! ## Repetitions -/

/-- Repeats the last term of a sequence, which is given in reverse. -/
def repeatLast (current : List Term) (least : Nat) (most : Option Nat) : Option (List Term) :=
  match current with
  | [] | .setOptions _ :: _ => none
  | term :: rest => some (.repeated term least most :: rest)

/-- The text after a question mark, if it starts with one. -/
def skipQuestion : List Char → List Char
  | '?' :: rest => rest
  | text => text

/-- The greatest number of repetitions that can be written. -/
def maxCount : Nat := 2 ^ (32 : Nat) - 1

/-- Reads decimal digits. -/
def readDigits (spaced : Bool) (fuel : Nat) (value : Option Nat) (text : List Char) :
    Option Nat × List Char :=
  match fuel, text with
  | fuel + 1, c :: rest =>
    if isDigit c then readDigits spaced fuel (some (value.getD 0 * 10 + digitValue c)) (skip spaced rest)
    else (value, c :: rest)
  | _, text => (value, text)

/-- Reads a number of repetitions, and the white space around it. -/
def readCount (spaced : Bool) (text : List Char) : Option (Nat × List Char) :=
  match readDigits spaced (text.length + 1) none (text.dropWhile isWhite) with
  | (some n, rest) =>
    if n ≤ maxCount then some (n, skip spaced (rest.dropWhile isWhite)) else none
  | (none, _) => none

/-- Reads the bounds of a repetition after the opening brace. -/
def readBounds (spaced : Bool) (text : List Char) : Option ((Nat × Option Nat) × List Char) := do
  let (least, rest) ← readCount spaced (skip spaced text)
  let (most, rest) ← match rest with
    | ',' :: rest =>
      match skip spaced rest with
      | '\x7d' :: rest => some (none, '\x7d' :: rest)
      | rest => (readCount spaced rest).map fun (n, rest) => (some n, rest)
    | rest => some (some least, rest)
  match rest with
  | '\x7d' :: rest =>
    if most.all (least ≤ ·) then return ((least, most), skipQuestion (skip spaced rest))
    else none
  | _ => none

/-! ## Heads of groups -/

/-- The option of a letter. -/
def patternOption? : Char → Option PatternOption
  | 'i' => some .ignoreCase
  | 'm' => some .multiLine
  | 's' => some .dotMatchesNewline
  | 'U' => some .swapGreed
  | 'u' => some .unicode
  | 'R' => some .crlf
  | 'x' => some .spaced
  | _ => none

/-- Reads options up to the sign that ends them. Those after a minus are switched off; the minus may not come
twice, nor last, and no option may be named twice. -/
def readOptions (negated afterMinus : Bool) (done : OptionChanges) :
    List Char → Option (OptionChanges × Char × List Char)
  | [] => none
  | c :: rest =>
    if c = ':' ∨ c = ')' then if afterMinus then none else some (done.reverse, c, rest)
    else if c = '-' then if negated then none else readOptions true true done rest
    else
      match patternOption? c with
      | none => none
      | some o =>
        if done.any (·.1 == o) then none else readOptions negated false ((o, !negated) :: done) rest

/-- Whether a name may begin with a character. -/
def isNameStart (c : Char) : Bool := c == '_' || Unicode.alphabetic.contains c.toNat

/-- Whether a name may go on with a character. -/
def isNameChar (c : Char) : Bool :=
  isNameStart c || c == '.' || c == '[' || c == ']' ||
    [.nd, .nl, .no].contains (Unicode.category c.toNat)

/-- Reads the name of a group and the closing bracket after it. -/
def readName (text : List Char) : Option (String × List Char) :=
  match text.takeWhile (· != '>'), text.dropWhile (· != '>') with
  | first :: others, _ :: rest =>
    if isNameStart first && others.all isNameChar then some (String.ofList (first :: others), rest)
    else none
  | _, _ => none

/-- What an opening parenthesis begins. -/
inductive GroupHead where
  | options (changes : OptionChanges)
  | group (changes : OptionChanges) (name : Option String)

/-- Reads the head of a group after its opening parenthesis. -/
def readHead : List Char → Option (GroupHead × List Char)
  | '?' :: 'P' :: '<' :: rest => (readName rest).map fun (name, rest) => (.group [] (some name), rest)
  | '?' :: '=' :: _ | '?' :: '!' :: _ | '?' :: '<' :: '=' :: _ | '?' :: '<' :: '!' :: _ => none
  | '?' :: '<' :: rest => (readName rest).map fun (name, rest) => (.group [] (some name), rest)
  | '?' :: rest => do
    let (changes, last, rest) ← readOptions false false [] rest
    if last = ':' then return (.group changes none, rest)
    else if changes.isEmpty then none
    else return (.options changes, rest)
  | rest => some (.group [] none, rest)

/-- Whether blanks are free after some changes. -/
def spacedAfter (changes : OptionChanges) (spaced : Bool) : Bool :=
  ((changes.find? (·.1 == .spaced)).map (·.2)).getD spaced

/-! ## Terms -/

/-- Reads a term that is neither a group, a set nor a repetition. -/
def readSimple (spaced : Bool) : List Char → Option (Term × List Char)
  | [] => none
  | '\\' :: rest => do
    let (escape, rest) ← readEscape spaced rest
    let term : Term := match escape with
      | .letter l => .letter l
      | .assertion a => .assertion a
      | .short kind negated => .short kind negated
      | .property name negated => .property name negated
    return (term, rest)
  | '.' :: rest => some (.dot, rest)
  | '^' :: rest => some (.assertion .lineStart, rest)
  | '$' :: rest => some (.assertion .lineEnd, rest)
  | c :: rest => some (.letter ⟨c, false⟩, rest)

/-- What has been read of a group: whether blanks are free, the names of all groups so far, the alternatives
that are complete and the terms of the current one, both in reverse. -/
structure OpenGroup where
  spaced : Bool
  names : List String
  done : Alternatives
  current : List Term

namespace OpenGroup

/-- The beginning of a group. -/
def fresh (spaced : Bool) (names : List String) : OpenGroup := ⟨spaced, names, [], []⟩

/-- Ends the current alternative. -/
def split (g : OpenGroup) : OpenGroup :=
  { g with done := g.current.reverse :: g.done, current := [] }

/-- The alternatives of the group. -/
def close (g : OpenGroup) : Alternatives := g.split.done.reverse

/-- Adds a term. -/
def add (g : OpenGroup) (term : Term) : OpenGroup := { g with current := term :: g.current }

/-- Changes options. -/
def setOptions (g : OpenGroup) (changes : OptionChanges) : OpenGroup :=
  { g.add (.setOptions changes) with spaced := spacedAfter changes g.spaced }

/-- Repeats the last term. -/
def repeatLast (g : OpenGroup) (least : Nat) (most : Option Nat) : Option OpenGroup :=
  (Pattern.repeatLast g.current least most).map fun current => { g with current }

/-- Adds the name of a group. No two groups may have the same name. -/
def addName (g : OpenGroup) : Option String → Option OpenGroup
  | none => some g
  | some name => if g.names.contains name then none else some { g with names := name :: g.names }

end OpenGroup

/-- Reads the rest of a group up to its closing parenthesis or the end of the text, which is left. The
recursion is bounded by `fuel`; the length of the text is enough. -/
def readGroup (fuel : Nat) (g : OpenGroup) (text : List Char) : Option (OpenGroup × List Char) :=
  match fuel with
  | 0 => none
  | fuel + 1 =>
    match skip g.spaced text with
    | [] => some (g, [])
    | ')' :: rest => some (g, ')' :: rest)
    | '|' :: rest => readGroup fuel g.split rest
    | '(' :: rest => do
      let (head, rest) ← readHead (skip g.spaced rest)
      match head with
      | .options changes => readGroup fuel (g.setOptions changes) rest
      | .group changes name =>
        let g ← g.addName name
        let (inner, rest) ← readGroup fuel (.fresh (spacedAfter changes g.spaced) g.names) rest
        match rest with
        | ')' :: rest =>
          readGroup fuel { g.add (.group changes inner.close) with names := inner.names } rest
        | _ => none
    | '[' :: rest => do
      let (term, rest) ← readBracket g.spaced rest
      readGroup fuel (g.add term) rest
    | '?' :: rest => do readGroup fuel (← g.repeatLast 0 (some 1)) (skipQuestion rest)
    | '*' :: rest => do readGroup fuel (← g.repeatLast 0 none) (skipQuestion rest)
    | '+' :: rest => do readGroup fuel (← g.repeatLast 1 none) (skipQuestion rest)
    | '\x7b' :: rest => do
      let ((least, most), rest) ← readBounds g.spaced rest
      readGroup fuel (← g.repeatLast least most) rest
    | text => do
      let (term, rest) ← readSimple g.spaced text
      readGroup fuel (g.add term) rest

/-- How deep a pattern may nest. -/
def maxDepth : Nat := 250

/-- Reads a pattern. -/
def readPattern? (text : List Char) : Option Alternatives :=
  match readGroup (text.length + 1) (.fresh false []) text with
  | some (g, []) => if depthOf g.close ≤ maxDepth then some g.close else none
  | _ => none

end FeatureFlags.Pattern
