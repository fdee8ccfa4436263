import FeatureFlags.Pattern.Tree
import FeatureFlags.Unicode.Property

/-!
# Reading escapes of patterns

What a backslash stands for. Where blanks are free, they may also stand between the parts of an escape.
-/

namespace FeatureFlags.Pattern

open Text (isDigit digitValue hexValue? isLetter)

/-! ## Blanks -/

/-- Whether a character is white space. -/
def isWhite (c : Char) : Bool := Unicode.CodeSet.whiteSpace.contains c.toNat

/-- The text after leading blanks and comments, which go from `#` to the end of the line. -/
def skipBlanks (inComment : Bool) : List Char → List Char
  | [] => []
  | c :: rest =>
    if inComment then skipBlanks (c != '\n') rest
    else if isWhite c then skipBlanks false rest
    else if c = '#' then skipBlanks true rest
    else c :: rest

/-- The text after leading blanks, where these are free. -/
def skip (spaced : Bool) (text : List Char) : List Char :=
  if spaced then skipBlanks false text else text

/-! ## Characters by number -/

/-- The character of a number, if it has one. -/
def charOfNumber? (n : Nat) : Option Char := if n.isValidChar then some (Char.ofNat n) else none

/-- Reads a number of so many hexadecimal digits. -/
def readHexDigits (spaced : Bool) : Nat → Nat → List Char → Option (Nat × List Char)
  | 0, value, text => some (value, text)
  | _ + 1, _, [] => none
  | count + 1, value, c :: rest => do
    let d ← hexValue? c
    readHexDigits spaced count (value * 16 + d) (skip spaced rest)

/-- Reads a number up to a closing brace. There has to be a digit. -/
def readHexBraced (spaced : Bool) (fuel : Nat) (value : Option Nat) (text : List Char) :
    Option (Nat × List Char) :=
  match fuel, skip spaced text with
  | 0, _ | _, [] => none
  | fuel + 1, c :: rest =>
    if c = '\x7d' then value.map (·, skip spaced rest)
    else do
      let d ← hexValue? c
      readHexBraced spaced fuel (some (value.getD 0 * 16 + d)) rest

/-- Reads a character by its number: so many hexadecimal digits, or any number of them in braces. -/
def readNumbered (spaced : Bool) (digits : Nat) (text : List Char) : Option (Letter × List Char) :=
  match skip spaced text with
  | [] => none
  | c :: rest =>
    if c = '\x7b' then do
      let (n, rest) ← readHexBraced spaced (rest.length + 1) none rest
      return (⟨← charOfNumber? n, false⟩, rest)
    else do
      let (n, rest) ← readHexDigits spaced digits 0 (c :: rest)
      return (⟨← charOfNumber? n, digits == 2⟩, rest)

/-! ## Properties -/

/-- Splits a text at the first place where a separator stands. -/
def splitAt? (separator : List Char) (before : List Char) : List Char → Option (List Char × List Char)
  | [] => none
  | c :: rest =>
    if separator.isPrefixOf (c :: rest) then
      some (before.reverse, (c :: rest).drop separator.length)
    else splitAt? separator (c :: before) rest

/-- The name of a property, with a value after `!=`, a colon or an equals sign. -/
def propertyName (text : List Char) : PropertyName :=
  match (splitAt? ['!', '='] [] text).or ((splitAt? [':'] [] text).or (splitAt? ['='] [] text)) with
  | some (name, value) => .withValue (String.ofList name) (String.ofList value)
  | none => .plain (String.ofList text)

/-- Reads characters up to a closing brace. -/
def readBraced (spaced : Bool) (fuel : Nat) (done : List Char) (text : List Char) :
    Option (List Char × List Char) :=
  match fuel, skip spaced text with
  | 0, _ | _, [] => none
  | fuel + 1, c :: rest =>
    if c = '\x7d' then some (done.reverse, rest) else readBraced spaced fuel (c :: done) rest

/-- Reads the name of a property: one letter, or anything in braces. -/
def readProperty (spaced : Bool) (text : List Char) : Option (PropertyName × List Char) :=
  match skip spaced text with
  | [] | '\\' :: _ => none
  | c :: rest =>
    if c = '\x7b' then do
      let (name, rest) ← readBraced spaced (rest.length + 1) [] rest
      return (propertyName name, rest)
    else some (.plain (String.ofList [c]), skip spaced rest)

/-! ## Word boundaries -/

/-- Whether a character may occur in the name of a boundary. -/
def isBoundaryChar (c : Char) : Bool := isLetter c || c == '-'

/-- Reads the name of a boundary, and the blanks in it. -/
def readBoundaryName (spaced : Bool) (fuel : Nat) (done : List Char) (text : List Char) :
    List Char × List Char :=
  match fuel, text with
  | 0, text | _, [] => (done.reverse, text)
  | fuel + 1, c :: rest =>
    if isBoundaryChar c then readBoundaryName spaced fuel (c :: done) (skip spaced rest)
    else (done.reverse, c :: rest)

/-- The boundary of a name. -/
def namedBoundary? (name : String) : Option Assertion :=
  match name with
  | "start" => some .wordStart
  | "end" => some .wordEnd
  | "start-half" => some .wordStartHalf
  | "end-half" => some .wordEndHalf
  | _ => none

/-- Reads what follows the escape of a word boundary: possibly a name in braces. Braces that hold anything
else are left alone. -/
def readBoundary (spaced : Bool) (text : List Char) : Option (Assertion × List Char) :=
  match text with
  | '\x7b' :: inner =>
    match skip spaced inner with
    | [] => none
    | c :: rest =>
      if isBoundaryChar c then
        match readBoundaryName spaced (rest.length + 1) [] (c :: rest) with
        | (name, '\x7d' :: rest) => (namedBoundary? (String.ofList name)).map (·, rest)
        | _ => none
      else some (.wordBoundary, text)
  | _ => some (.wordBoundary, text)

/-! ## Escapes -/

/-- What an escape stands for. -/
inductive Escape where
  | letter (letter : Letter)
  | assertion (assertion : Assertion)
  | short (kind : ShortClass) (negated : Bool)
  | property (name : PropertyName) (negated : Bool)

/-- Whether a backslash before a character stands for the character itself: any sign of ASCII but the angle
brackets. -/
def isPlainEscape (c : Char) : Bool :=
  c.toNat < 0x80 && !isLetter c && !isDigit c && c != '<' && c != '>'

/-- The character that an escape of one letter stands for. -/
def controlChar? : Char → Option Char
  | 'a' => some '\x07'
  | 'f' => some '\x0c'
  | 't' => some '\t'
  | 'n' => some '\n'
  | 'r' => some '\r'
  | 'v' => some '\x0b'
  | _ => none

/-- The class that an escape of one letter stands for, and whether it is negated. -/
def shortClass? : Char → Option (ShortClass × Bool)
  | 'd' => some (.digit, false)
  | 's' => some (.space, false)
  | 'w' => some (.word, false)
  | 'D' => some (.digit, true)
  | 'S' => some (.space, true)
  | 'W' => some (.word, true)
  | _ => none

/-- The condition that an escape of one character stands for. -/
def assertion? : Char → Option Assertion
  | 'A' => some .textStart
  | 'z' => some .textEnd
  | 'B' => some .notWordBoundary
  | '<' => some .wordStart
  | '>' => some .wordEnd
  | _ => none

/-- Reads an escape after its backslash. Digits are none, since groups cannot be referred to. -/
def readEscape (spaced : Bool) : List Char → Option (Escape × List Char)
  | [] => none
  | 'x' :: rest => (readNumbered spaced 2 rest).map fun (l, rest) => (.letter l, rest)
  | 'u' :: rest => (readNumbered spaced 4 rest).map fun (l, rest) => (.letter l, rest)
  | 'U' :: rest => (readNumbered spaced 8 rest).map fun (l, rest) => (.letter l, rest)
  | 'p' :: rest => (readProperty spaced rest).map fun (name, rest) => (.property name false, rest)
  | 'P' :: rest => (readProperty spaced rest).map fun (name, rest) => (.property name true, rest)
  | 'b' :: rest => (readBoundary spaced rest).map fun (a, rest) => (.assertion a, rest)
  | c :: rest =>
    match shortClass? c, controlChar? c, assertion? c with
    | some (kind, negated), _, _ => some (.short kind negated, rest)
    | none, some control, _ => some (.letter ⟨control, false⟩, rest)
    | none, none, some a => some (.assertion a, rest)
    | none, none, none => if isPlainEscape c then some (.letter ⟨c, false⟩, rest) else none

end FeatureFlags.Pattern
