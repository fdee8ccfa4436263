import FeatureFlags.Json.Decoder

/-!
# Context kinds

A kind names the type of entity a context describes. Kinds of contexts are validated; kinds in flag data
are kept as written, and one that no context can have never matches.
-/

namespace FeatureFlags

/-- The kind of a context. -/
structure Kind where
  name : String
  deriving DecidableEq, Repr

/-- Why a name is not the kind of a context. -/
inductive KindError where
  | empty
  | reserved (name : String)
  | disallowedCharacters
  deriving DecidableEq, Repr

/-- The wording of a kind error. -/
def KindError.message : KindError → String
  | empty => "context kind cannot be empty"
  | reserved name => "context kind cannot be '" ++ name ++ "'"
  | disallowedCharacters => "context kind contains disallowed characters"

namespace Kind

/-- The kind of a context unless it names another one. -/
def user : Kind := ⟨"user"⟩

/-- The kind that a context of several kinds shows. -/
def multi : Kind := ⟨"multi"⟩

instance : Inhabited Kind := ⟨user⟩

/-- Whether this is the default kind. -/
def isUser (k : Kind) : Bool := k == user

/-- Whether this is the kind of contexts of several kinds. -/
def isMulti (k : Kind) : Bool := k == multi

/-- Whether a character may occur in a kind: ASCII letters, digits, `-`, `.` and `_`. -/
def isAllowed (c : Char) : Bool :=
  Text.isLetter c || Text.isDigit c || c == '-' || c == '.' || c == '_'

/-- The kind of a context, from its name. -/
def ofName (name : String) : Except KindError Kind :=
  if name = "" then .error .empty
  else if name = "kind" ∨ name = "multi" then .error (.reserved name)
  else if name.toList.all isAllowed then .ok ⟨name⟩
  else .error .disallowedCharacters

/-- Decodes a kind in flag data. -/
def decoder : Json.Decoder Kind := Json.Decoder.map Kind.mk Json.Decoder.string

end Kind
end FeatureFlags
