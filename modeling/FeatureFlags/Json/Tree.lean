import FeatureFlags.Json.Value

/-!
# JSON text as far as it can be read

`Tree.ofText` turns any text into a tree. Where the text stops being JSON the tree holds a `broken`
node, so the tree says what a reader meets, in the order in which it meets it; what follows a broken
node is never looked at. Two things depend on what the reader wants of a value:

* a value that is only *skipped* may hold unpaired surrogate escapes and numbers of any size
  (`unreadable`), and
* a number cut off by the end of the text is a premature end to a reader that wants it, but malformed
  to one that skips it.
-/

namespace FeatureFlags.Json

open Text

/-- What is wrong with a text at some point. -/
inductive Fault where
  /-- The text ends too early. -/
  | endOfText
  /-- The text is not JSON. -/
  | malformed
  deriving DecidableEq, Repr

mutual

/-- A value of a JSON text. -/
inductive Tree where
  | null
  | bool (value : Bool)
  | number (value : Number)
  | string (value : String)
  /-- A complete string or number that can be skipped but has no value. -/
  | unreadable
  | array (items : Items)
  | object (members : Members)
  /-- The text breaks off here, with one fault for a reader and one for a skipping reader. -/
  | broken (read skip : Fault)

/-- The items of an array from some point on. -/
inductive Items where
  | closed
  | broken (fault : Fault)
  | item (value : Tree) (rest : Items)

/-- The members of an object from some point on. A name that has no value is `none`. -/
inductive Members where
  | closed
  | broken (read skip : Fault)
  | member (name : Option String) (value : Tree) (rest : Members)

end

instance : Inhabited Tree := ⟨.null⟩

/-! ## Blanks and words -/

/-- Whether a character is a JSON blank. -/
def isBlank (c : Char) : Bool := c == ' ' || c == '\n' || c == '\t' || c == '\r'

/-- The text after its leading blanks. -/
def skipBlanks : List Char → List Char
  | [] => []
  | c :: rest => if isBlank c then skipBlanks rest else c :: rest

/-- Reads the rest of a word. -/
def expectWord : List Char → List Char → Except Fault (List Char)
  | [], text => .ok text
  | _ :: _, [] => .error .endOfText
  | w :: word, c :: text => if w = c then expectWord word text else .error .malformed

/-! ## Strings -/

/-- The value of four hexadecimal digits. -/
def hexValue4? (a b c d : Char) : Option Nat :=
  match hexValue? a, hexValue? b, hexValue? c, hexValue? d with
  | some a, some b, some c, some d => some (((a * 16 + b) * 16 + c) * 16 + d)
  | _, _, _, _ => none

/-- Whether a text has at least `n` bytes in UTF-8. -/
def hasBytes : Nat → List Char → Bool
  | 0, _ => true
  | _ + 1, [] => false
  | n + 1, c :: rest => hasBytes (n + 1 - c.utf8Size) rest

/-- The fault of a `\u` escape whose digits are wrong: four bytes have to be there at least. -/
def hexFault (rest : List Char) : Fault := if hasBytes 4 rest then .malformed else .endOfText

/-- The character of a simple escape. -/
def simpleEscape? : Char → Option Char
  | '"' => some '"'
  | '\\' => some '\\'
  | '/' => some '/'
  | 'b' => some '\x08'
  | 'f' => some '\x0c'
  | 'n' => some '\n'
  | 'r' => some '\r'
  | 't' => some '\t'
  | _ => none

/-- Whether a UTF-16 unit is the first half of a pair. -/
def isLeadingSurrogate (n : Nat) : Bool := 0xD800 ≤ n && n ≤ 0xDBFF

/-- Whether a UTF-16 unit is the second half of a pair. -/
def isTrailingSurrogate (n : Nat) : Bool := 0xDC00 ≤ n && n ≤ 0xDFFF

/-- The character of a pair of UTF-16 units. -/
def ofSurrogates (lead trail : Nat) : Char :=
  Char.ofNat ((lead - 0xD800) * 0x400 + (trail - 0xDC00) + 0x10000)

/-- What was read of a string. -/
inductive StringText where
  /-- The string is complete; it has no value if a surrogate escape in it is unpaired. -/
  | closed (value : Option String) (rest : List Char)
  | broken (read skip : Fault)

/-- A string that breaks off: an unpaired surrogate before that point is what a reader meets first. -/
def StringText.breakOff (paired : Bool) (fault : Fault) : StringText :=
  .broken (if paired then fault else .malformed) fault

/-- Reads a string after its opening quote. The characters so far are given in reverse, and whether all
surrogate escapes so far are paired. -/
def readString (done : List Char) (paired : Bool) : List Char → StringText
  | [] => .breakOff paired .endOfText
  | '"' :: rest => .closed (if paired then some (String.ofList done.reverse) else none) rest
  | '\\' :: 'u' :: a :: b :: c :: d :: rest =>
    match hexValue4? a b c d with
    | none => .breakOff paired (hexFault (a :: b :: c :: d :: rest))
    | some unit =>
      if isLeadingSurrogate unit then
        match rest with
        | '\\' :: 'u' :: a' :: b' :: c' :: d' :: rest' =>
          match hexValue4? a' b' c' d' with
          | none => .breakOff paired (hexFault (a' :: b' :: c' :: d' :: rest'))
          | some unit' =>
            if isTrailingSurrogate unit' then
              readString (ofSurrogates unit unit' :: done) paired rest'
            else readString done false ('\\' :: 'u' :: a' :: b' :: c' :: d' :: rest')
        | [] | ['\\'] => .breakOff paired .endOfText
        | '\\' :: 'u' :: rest' => .breakOff paired (hexFault rest')
        | next :: rest' => readString done false (next :: rest')
      else if isTrailingSurrogate unit then readString done false rest
      else readString (Char.ofNat unit :: done) paired rest
  | '\\' :: 'u' :: rest => .breakOff paired (hexFault rest)
  | ['\\'] => .breakOff paired .endOfText
  | '\\' :: c :: rest =>
    match simpleEscape? c with
    | some e => readString (e :: done) paired rest
    | none => .breakOff paired .malformed
  | c :: rest =>
    if c.toNat < 0x20 then .breakOff paired .malformed else readString (c :: done) paired rest
termination_by text => text.length

/-! ## Numbers -/

/-- What was read of a number. -/
inductive NumberText where
  | complete (numeral : Numeral) (rest : List Char)
  | broken (read skip : Fault)

/-- The fault of a number where a digit is missing. -/
def missingDigit : List Char → NumberText
  | [] => .broken .endOfText .malformed
  | _ :: _ => .broken .malformed .malformed

/-- Reads the exponent of a number, if there is one. -/
def readExponent (n : Numeral) (text : List Char) : NumberText :=
  let digitsOf (negative : Bool) (text : List Char) : NumberText :=
    match text.takeWhile isDigit with
    | [] => missingDigit text
    | digits => .complete { n with exponent := some (negative, digits) } (text.dropWhile isDigit)
  match text with
  | 'e' :: '+' :: rest | 'E' :: '+' :: rest => digitsOf false rest
  | 'e' :: '-' :: rest | 'E' :: '-' :: rest => digitsOf true rest
  | 'e' :: rest | 'E' :: rest => digitsOf false rest
  | _ => .complete n text

/-- Reads the fraction of a number, if there is one, and what follows it. -/
def readFraction (n : Numeral) : List Char → NumberText
  | '.' :: text =>
    match text.takeWhile isDigit with
    | [] => missingDigit text
    | digits => readExponent { n with fraction := some digits } (text.dropWhile isDigit)
  | text => readExponent n text

/-- Reads a number after its sign. A leading zero stands alone. -/
def readNumber (negative : Bool) (text : List Char) : NumberText :=
  match text.takeWhile isDigit with
  | [] => missingDigit text
  | '0' :: _ :: _ => .broken .malformed .malformed
  | digits => readFraction ⟨negative, digits, none, none⟩ (text.dropWhile isDigit)

/-- The tree of a number. -/
def NumberText.toTree : NumberText → Tree × List Char
  | .broken read skip => (.broken read skip, [])
  | .complete numeral rest =>
    match numeral.toNumber? with
    | some n => (.number n, rest)
    | none => (.unreadable, rest)

/-- The tree of a string. -/
def StringText.toTree : StringText → Tree × List Char
  | .broken read skip => (.broken read skip, [])
  | .closed (some s) rest => (.string s, rest)
  | .closed none rest => (.unreadable, rest)

/-- The tree of a word, after its first character. -/
def readWord (word : List Char) (value : Tree) (text : List Char) : Tree × List Char :=
  match expectWord word text with
  | .ok rest => (value, rest)
  | .error fault => (.broken fault fault, [])

/-! ## Values

The recursion is bounded by `fuel`; the length of the text is always enough. -/

mutual

/-- Reads a value, after any blanks. -/
def readTree (fuel : Nat) (text : List Char) : Tree × List Char :=
  match fuel with
  | 0 => (.broken .endOfText .endOfText, [])
  | fuel + 1 =>
    match skipBlanks text with
    | [] => (.broken .endOfText .endOfText, [])
    | 'n' :: rest => readWord ['u', 'l', 'l'] .null rest
    | 't' :: rest => readWord ['r', 'u', 'e'] (.bool true) rest
    | 'f' :: rest => readWord ['a', 'l', 's', 'e'] (.bool false) rest
    | '"' :: rest => (readString [] true rest).toTree
    | '-' :: rest => (readNumber true rest).toTree
    | '[' :: rest =>
      let (items, rest) := match skipBlanks rest with
        | [] => (.broken .endOfText, [])
        | ']' :: rest => (.closed, rest)
        | rest => readItem fuel rest
      (.array items, rest)
    | '{' :: rest =>
      let (members, rest) := match skipBlanks rest with
        | [] => (.broken .endOfText .endOfText, [])
        | '}' :: rest => (.closed, rest)
        | rest => readMember fuel rest
      (.object members, rest)
    | c :: rest =>
      if isDigit c then (readNumber false (c :: rest)).toTree
      else (.broken .malformed .malformed, [])

/-- Reads an item of an array and all that follow. -/
def readItem (fuel : Nat) (text : List Char) : Items × List Char :=
  match fuel with
  | 0 => (.broken .endOfText, [])
  | fuel + 1 =>
    let (value, rest) := readTree fuel text
    let (items, rest) := match skipBlanks rest with
      | [] => (.broken .endOfText, [])
      | ']' :: rest => (.closed, rest)
      | ',' :: rest => readItem fuel rest
      | _ => (.broken .malformed, [])
    (.item value items, rest)

/-- Reads a member of an object and all that follow. -/
def readMember (fuel : Nat) (text : List Char) : Members × List Char :=
  match fuel with
  | 0 => (.broken .endOfText .endOfText, [])
  | fuel + 1 =>
    match skipBlanks text with
    | [] => (.broken .endOfText .endOfText, [])
    | '"' :: rest =>
      match readString [] true rest with
      | .broken read skip => (.broken read skip, [])
      | .closed name rest =>
        match skipBlanks rest with
        | [] => (.member name (.broken .endOfText .endOfText) .closed, [])
        | ':' :: rest =>
          let (value, rest) := readTree fuel rest
          let (members, rest) := match skipBlanks rest with
            | [] => (.broken .endOfText .endOfText, [])
            | '}' :: rest => (.closed, rest)
            | ',' :: rest => readMember fuel rest
            | _ => (.broken .malformed .malformed, [])
          (.member name value members, rest)
        | _ => (.member name (.broken .malformed .malformed) .closed, [])
    | _ => (.broken .malformed .malformed, [])

end

/-- The tree of a text, and whether only blanks follow the value. -/
def Tree.ofText (text : String) : Tree × Bool :=
  let chars := text.toList
  let (tree, rest) := readTree (chars.length + 1) chars
  (tree, (skipBlanks rest).isEmpty)

/-! ## The tree of a value -/

mutual

/-- The tree of a generic value. -/
def Tree.ofValue : Value → Tree
  | .null => .null
  | .bool b => .bool b
  | .number n => .number n
  | .string s => .string s
  | .array items => .array (Items.ofValues items)
  | .object members => .object (Members.ofEntries members)

/-- The items of an array of generic values. -/
def Items.ofValues : List Value → Items
  | [] => .closed
  | v :: rest => .item (Tree.ofValue v) (Items.ofValues rest)

/-- The members of an object of generic values. -/
def Members.ofEntries : List (String × Value) → Members
  | [] => .closed
  | (name, v) :: rest => .member (some name) (Tree.ofValue v) (Members.ofEntries rest)

end

end FeatureFlags.Json
