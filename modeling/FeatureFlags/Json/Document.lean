import FeatureFlags.Json.Value

/-!
# Writing JSON

A `Document` is what is to be written: a JSON value whose objects keep their members in the given order
and whose numbers may also have single precision. `Document.text` writes it without blanks.

* In strings, quotes, backslashes and control characters are escaped, and nothing else.
* Numbers that are not finite are written as `null`.
-/

namespace FeatureFlags.Json

/-- A JSON value to be written. -/
inductive Document where
  | null
  | bool (value : Bool)
  | integer (value : Int)
  | double (value : Double)
  | single (value : Single)
  | string (value : String)
  | array (items : List Document)
  | object (members : List (String × Document))
  deriving Repr

instance : Inhabited Document := ⟨.null⟩

/-- The hexadecimal digit of a number below 16. -/
def hexDigit (n : Nat) : Char :=
  if n < 10 then Char.ofNat ('0'.toNat + n) else Char.ofNat ('a'.toNat + (n - 10))

/-- A character as it is written inside a string. -/
def escapeChar (c : Char) : List Char :=
  match c with
  | '"' => ['\\', '"']
  | '\\' => ['\\', '\\']
  | '\x08' => ['\\', 'b']
  | '\x0c' => ['\\', 'f']
  | '\n' => ['\\', 'n']
  | '\r' => ['\\', 'r']
  | '\t' => ['\\', 't']
  | c =>
    if c.toNat < 0x20 then ['\\', 'u', '0', '0', hexDigit (c.toNat / 16), hexDigit (c.toNat % 16)]
    else [c]

/-- A string in quotes. -/
def quoted (s : String) : List Char := '"' :: s.toList.flatMap escapeChar ++ ['"']

/-- The word for "no value". -/
def nullText : List Char := ['n', 'u', 'l', 'l']

namespace Document

mutual

/-- The text of a document. -/
def chars : Document → List Char
  | null => nullText
  | bool true => ['t', 'r', 'u', 'e']
  | bool false => ['f', 'a', 'l', 's', 'e']
  | integer i => integerText i
  | double d => (d.text? .double).getD nullText
  | single s => (s.text? .single).getD nullText
  | string s => quoted s
  | array [] => ['[', ']']
  | array (d :: rest) => '[' :: d.chars ++ itemChars rest
  | object [] => ['{', '}']
  | object ((name, d) :: rest) => '{' :: quoted name ++ ':' :: d.chars ++ memberChars rest

/-- The text of the items after the first, and the closing bracket. -/
def itemChars : List Document → List Char
  | [] => [']']
  | d :: rest => ',' :: d.chars ++ itemChars rest

/-- The text of the members after the first, and the closing brace. -/
def memberChars : List (String × Document) → List Char
  | [] => ['}']
  | (name, d) :: rest => ',' :: quoted name ++ ':' :: d.chars ++ memberChars rest

end

/-- The text of a document as a string. -/
def text (d : Document) : String := String.ofList d.chars

mutual

/-- The document of a generic value. -/
def ofValue : Value → Document
  | .null => null
  | .bool b => bool b
  | .number (.integer i) => integer i
  | .number (.double d) => double d
  | .string s => string s
  | .array items => array (ofValues items)
  | .object members => object (ofEntries members)

/-- The documents of generic values. -/
def ofValues : List Value → List Document
  | [] => []
  | v :: rest => ofValue v :: ofValues rest

/-- The documents of the members of a generic object. -/
def ofEntries : List (String × Value) → List (String × Document)
  | [] => []
  | (name, v) :: rest => (name, ofValue v) :: ofEntries rest

end

/-- A member that is written only if it has a value. -/
def member? {α : Type} (name : String) (write : α → Document) : Option α → List (String × Document)
  | none => []
  | some a => [(name, write a)]

/-- A truth value that is written only if it is true. -/
def memberIfTrue (name : String) : Bool → List (String × Document)
  | false => []
  | true => [(name, .bool true)]

/-- The document of an optional value, `null` if it is absent. -/
def orNull {α : Type} (write : α → Document) : Option α → Document
  | none => null
  | some a => write a

/-- A natural number. -/
def natural (n : Nat) : Document := integer n

/-- A list of strings. -/
def strings (items : List String) : Document := array (items.map string)

/-- A number that is written as an integer if it is one of magnitude at most `maxSafeInteger`. -/
def exactDouble (d : Double) : Document :=
  match d.toExactInt? with
  | some i => integer i
  | none => double d

/-- A single precision number that is written as an integer if it is one of magnitude at most
`maxSafeInteger`. -/
def exactSingle (s : Single) : Document :=
  match s.toExactInt? with
  | some i => integer i
  | none => single s

end Document
end FeatureFlags.Json
