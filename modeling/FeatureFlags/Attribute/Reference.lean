import FeatureFlags.Json.Decoder
import FeatureFlags.Json.Document

/-!
# Attribute references

A reference names an attribute of a context. A text that starts with a slash is a *path*: its
components are separated by slashes, and inside a component `~0` stands for `~` and `~1` for `/`. Any
other text is a plain name. A reference keeps its text even if the text is invalid.

`pathText` writes a list of components as a path.
-/

namespace FeatureFlags

/-- Why a text is no reference. -/
inductive ReferenceError where
  | empty
  | invalidEscape
  | emptyComponent
  deriving DecidableEq, Repr

/-- The wording of a reference error. -/
def ReferenceError.message : ReferenceError → String
  | empty => "Reference cannot be empty"
  | invalidEscape => "Reference contains invalid escape sequence"
  | emptyComponent => "Reference contains double or trailing slash"

/-- What a reference says: a name taken as it is, the components of a path, or nothing. -/
inductive ReferenceForm where
  | name
  | path (components : List String)
  | invalid (error : ReferenceError)
  deriving DecidableEq, Repr

/-- A reference to an attribute, with the text it was made from. -/
structure Reference where
  text : String
  form : ReferenceForm
  deriving DecidableEq, Repr

namespace Reference

/-! ## Reading and writing paths -/

/-- Replaces the escapes in a component. -/
def unescape : List Char → Except ReferenceError (List Char)
  | [] => .ok []
  | '~' :: '0' :: rest => (unescape rest).map ('~' :: ·)
  | '~' :: '1' :: rest => (unescape rest).map ('/' :: ·)
  | c :: rest => if c = '~' then .error .invalidEscape else (unescape rest).map (c :: ·)

/-- Reads one component of a path. -/
def readComponent (part : List Char) : Except ReferenceError String :=
  if part.isEmpty then .error .emptyComponent else (unescape part).map String.ofList

/-- Reads the components of a path after its first slash; the leftmost faulty one decides the error. -/
def readComponents : List (List Char) → Except ReferenceError (List String)
  | [] => .ok []
  | part :: parts => do
    let component ← readComponent part
    return component :: (← readComponents parts)

/-- A component with its slashes and tildes escaped. -/
def escape : List Char → List Char
  | [] => []
  | '~' :: rest => '~' :: '0' :: escape rest
  | '/' :: rest => '~' :: '1' :: escape rest
  | c :: rest => c :: escape rest

/-- The path with these components. -/
def pathText (components : List String) : String :=
  String.ofList (components.flatMap fun c => '/' :: escape c.toList)

/-! ## References -/

/-- The form of a text in path syntax. -/
def formOf (text : List Char) : ReferenceForm :=
  match text with
  | [] | ['/'] => .invalid .empty
  | '/' :: rest =>
    match readComponents (Text.splitOn '/' rest) with
    | .ok components => .path components
    | .error e => .invalid e
  | _ => .name

/-- The reference a text denotes in path syntax. -/
def ofText (text : String) : Reference := ⟨text, formOf text.toList⟩

/-- The reference to the attribute of exactly this name. -/
def literal (name : String) : Reference :=
  ⟨name, if name.isEmpty then .invalid .empty else .name⟩

/-- The reference of an attribute in flag data: path syntax is used only where the data names the
context kind. -/
def ofAttribute (text : String) (namesKind : Bool) : Reference :=
  if namesKind then ofText text else literal text

instance : Inhabited Reference := ⟨ofText ""⟩

/-- The error of an invalid reference. -/
def error? (r : Reference) : Option ReferenceError :=
  match r.form with
  | .invalid e => some e
  | _ => none

/-- Whether the reference names an attribute. -/
def isValid (r : Reference) : Bool := r.error?.isNone

/-- The names to follow from a context to the attribute; none if the reference is invalid. -/
def components (r : Reference) : List String :=
  match r.form with
  | .name => [r.text]
  | .path components => components
  | .invalid _ => []

/-- The number of components. -/
def depth (r : Reference) : Nat := r.components.length

/-- The component at an index. -/
def component? (r : Reference) (index : Nat) : Option String := r.components[index]?

/-- Whether the reference names the kind of a context. -/
def isKind (r : Reference) : Bool := r.components == ["kind"]

/-- Decodes a reference in path syntax. -/
def decoder : Json.Decoder Reference := Json.Decoder.map ofText Json.Decoder.string

end Reference
end FeatureFlags
