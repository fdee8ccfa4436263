import FeatureFlags.Json.Number

/-!
# Versions

Semantic versions: three numbers, prerelease fields and build metadata. `WrittenVersion.ofChars?` reads one
strictly; `WrittenVersion.ofLooseText?` also fills in missing minor and patch numbers with zeros. Build
metadata belongs to how a version is written, not to the version itself.

Versions are ordered by their numbers and then by their prerelease fields. A release is after all of its
prereleases; numeric fields are before all others, and a list of fields is before every extension of it.
-/

namespace FeatureFlags

open Text

/-- A field of a prerelease: a number, or a text with a letter or hyphen in it. -/
inductive PrereleaseField where
  | numeric (value : Nat)
  | word (text : String)
  deriving DecidableEq, Repr

/-- A semantic version without build metadata. A release has no prerelease fields. -/
structure Version where
  major : Nat
  minor : Nat
  patch : Nat
  prerelease : List PrereleaseField
  deriving DecidableEq, Repr

/-- A version as it is written, with the fields of its build metadata. -/
structure WrittenVersion where
  version : Version
  build : List String
  deriving DecidableEq, Repr

/-! ## Order -/

/-- Compares two prerelease fields. -/
def PrereleaseField.compare : PrereleaseField → PrereleaseField → Ordering
  | numeric a, numeric b => Ord.compare a b
  | numeric _, word _ => .lt
  | word _, numeric _ => .gt
  | word a, word b => Ord.compare a b

namespace Version

/-- Compares two lists of prerelease fields, field by field. -/
def compareFields : List PrereleaseField → List PrereleaseField → Ordering
  | [], [] => .eq
  | [], _ :: _ => .lt
  | _ :: _, [] => .gt
  | a :: as, b :: bs => (a.compare b).then (compareFields as bs)

/-- Compares two prereleases; no prerelease at all is the greatest. -/
def comparePrerelease : List PrereleaseField → List PrereleaseField → Ordering
  | [], [] => .eq
  | [], _ :: _ => .gt
  | _ :: _, [] => .lt
  | as, bs => compareFields as bs

/-- Compares two versions. -/
def compare (a b : Version) : Ordering :=
  (Ord.compare a.major b.major).then <| (Ord.compare a.minor b.minor).then <|
    (Ord.compare a.patch b.patch).then <| comparePrerelease a.prerelease b.prerelease

/-! ## Text -/

/-- Whether a character may occur in a prerelease or build field. -/
def isFieldChar (c : Char) : Bool :=
  isLetter c || isDigit c || c == '-'

/-- Reads a number of at most 64 bits without leading zeros. -/
def readNumber? (text : List Char) : Option (Nat × List Char) :=
  match text.takeWhile isDigit with
  | [] => none
  | '0' :: _ :: _ => none
  | digits =>
    let n := naturalOfDigits digits
    if n ≤ Json.maxUnsigned then some (n, text.dropWhile isDigit) else none

/-- Reads the longest text of fields separated by points; none may be empty. -/
def readFields? (text : List Char) : Option (List (List Char) × List Char) :=
  let inFields (c : Char) : Bool := isFieldChar c || c == '.'
  let fields := splitOn '.' (text.takeWhile inFields)
  if fields.any List.isEmpty then none else some (fields, text.dropWhile inFields)

/-- The prerelease field of a text; a number has no leading zeros. -/
def prereleaseField? (text : List Char) : Option PrereleaseField :=
  if text.all isDigit then
    match text with
    | '0' :: _ :: _ => none
    | _ => some (.numeric (naturalOfDigits text))
  else some (.word (String.ofList text))

/-- Reads the prerelease fields after a hyphen, if there is one. -/
def readPrerelease? : List Char → Option (List PrereleaseField × List Char)
  | '-' :: text => do
    let (fields, rest) ← readFields? text
    return (← fields.mapM prereleaseField?, rest)
  | text => some ([], text)

/-- Reads the build metadata after a plus sign, if there is one. -/
def readBuild? : List Char → Option (List String × List Char)
  | '+' :: text => do
    let (fields, rest) ← readFields? text
    return (fields.map String.ofList, rest)
  | text => some ([], text)

/-- Splits a point and the digits after it off a text, if it starts so. -/
def splitComponent? : List Char → Option (List Char × List Char)
  | '.' :: text =>
    match text.takeWhile isDigit with
    | [] => none
    | digits => some ('.' :: digits, text.dropWhile isDigit)
  | _ => none

/-- A text with its missing minor and patch numbers filled in by zeros. -/
def padded? (text : List Char) : Option (List Char) :=
  match text.takeWhile isDigit with
  | [] => none
  | major =>
    let rest := text.dropWhile isDigit
    match splitComponent? rest with
    | none => some (major ++ '.' :: '0' :: '.' :: '0' :: rest)
    | some (minor, rest) =>
      match splitComponent? rest with
      | none => some (major ++ minor ++ '.' :: '0' :: rest)
      | some (patch, rest) => some (major ++ minor ++ patch ++ rest)

end Version

namespace WrittenVersion

open Version

/-- The version a text denotes strictly. -/
def ofChars? (text : List Char) : Option WrittenVersion := do
  let (major, text) ← readNumber? text
  let text ← expect? '.' text
  let (minor, text) ← readNumber? text
  let text ← expect? '.' text
  let (patch, text) ← readNumber? text
  let (prerelease, text) ← readPrerelease? text
  let (build, text) ← readBuild? text
  if text.isEmpty then some ⟨⟨major, minor, patch, prerelease⟩, build⟩ else none

/-- The version a text denotes strictly, or else after padding. -/
def ofLooseText? (text : String) : Option WrittenVersion :=
  match ofChars? text.toList with
  | some v => some v
  | none => (padded? text.toList).bind ofChars?

end WrittenVersion

namespace Version

/-- The text of a prerelease field. -/
def fieldText : PrereleaseField → List Char
  | .numeric n => decimalDigits n
  | .word s => s.toList

/-- The text of a version. -/
def text (v : Version) : String :=
  let numbers := decimalDigits v.major ++ '.' :: decimalDigits v.minor ++ '.' :: decimalDigits v.patch
  let prerelease := match v.prerelease with
    | [] => []
    | f :: rest => '-' :: fieldText f ++ rest.flatMap fun f => '.' :: fieldText f
  String.ofList (numbers ++ prerelease)

end Version
end FeatureFlags
