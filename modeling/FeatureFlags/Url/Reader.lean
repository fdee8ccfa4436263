import FeatureFlags.Url.Basic

/-!
# Reading addresses

Blanks and control characters around an address do not count, nor do tabs and line breaks in it. Of the
segments of a path, one dot stands for nothing and two dots take the segment before away.
-/

namespace FeatureFlags.Url

open Text (isDigit isLetter naturalOfDigits)

/-! ## Parts -/

/-- The characters of an address that count. -/
def relevant (text : List Char) : List Char :=
  let isOuter (c : Char) : Bool := c.toNat ≤ 0x20
  let inner := ((text.dropWhile isOuter).reverse.dropWhile isOuter).reverse
  inner.filter fun c => c != '\t' && c != '\n' && c != '\r'

/-- Whether a character may occur in a scheme. -/
def isSchemeChar (c : Char) : Bool := isLetter c || isDigit c || c == '+' || c == '-' || c == '.'

/-- Reads a scheme and the colon after it. -/
def readScheme? (text : List Char) : Option (String × List Char) :=
  match text with
  | [] => none
  | c :: _ =>
    match text.dropWhile isSchemeChar with
    | ':' :: rest =>
      if isLetter c then some (String.ofList ((text.takeWhile isSchemeChar).map Char.toLower), rest)
      else none
    | _ => none

/-- Whether a character separates the segments of a path. -/
def isSlash (special : Bool) (c : Char) : Bool := c == '/' || (special && c == '\\')

/-- Whether a character ends a path. -/
def endsPath (c : Char) : Bool := c == '?' || c == '#'

/-- Whether a character ends the part before the path. -/
def endsAuthority (special : Bool) (c : Char) : Bool := isSlash special c || endsPath c

/-- The text after one slash, if it starts with one. -/
def skipSlash (special : Bool) : List Char → List Char
  | [] => []
  | c :: rest => if isSlash special c then rest else c :: rest

/-! ## Paths -/

/-- Whether a character of a path is written as it is. -/
def keepsInPath (c : Char) : Bool :=
  Host.isPrintable c && !(" \"<>#?".toList ++ ['\x60', '\x7b', '\x7d']).contains c

/-- Whether a character of user information is written as it is. -/
def keepsInUserinfo (c : Char) : Bool := keepsInPath c && !"/:;=@[\\]^|".toList.contains c

/-- The parts of a text between slashes. -/
def splitSlashes (special : Bool) : List Char → List (List Char)
  | [] => [[]]
  | c :: rest =>
    match isSlash special c, splitSlashes special rest with
    | true, parts => [] :: parts
    | false, part :: parts => (c :: part) :: parts
    | false, [] => [[c]]

/-- A segment in which escaped dots are decoded. -/
def decodeDots : List Char → List Char
  | '%' :: '2' :: 'e' :: rest | '%' :: '2' :: 'E' :: rest => '.' :: decodeDots rest
  | c :: rest => c :: decodeDots rest
  | [] => []

/-- A drive letter with its sign written as a colon. -/
def normalizeDrive (segment : List Char) : List Char :=
  match segment with
  | [letter, '|'] => if isLetter letter then [letter, ':'] else segment
  | _ => segment

/-- A path without its last segment; the drive of a file stays. -/
def shorten (scheme : String) (path : List String) : List String :=
  match path with
  | [only] => if scheme = "file" ∧ isDrive only then path else []
  | _ => path.dropLast

/-- Adds segments to a path. -/
def addSegments (scheme : String) (path : List String) : List (List Char) → List String
  | [] => path
  | part :: rest =>
    let dots := decodeDots part
    if dots = ['.', '.'] then
      let path := shorten scheme path
      addSegments scheme (if rest.isEmpty then path ++ [""] else path) rest
    else if dots = ['.'] then addSegments scheme (if rest.isEmpty then path ++ [""] else path) rest
    else
      let segment := Host.escape keepsInPath part
      let segment := if scheme = "file" then normalizeDrive segment else segment
      addSegments scheme (path ++ [String.ofList segment]) rest

/-- The segments of a path without leading empty ones. -/
def dropEmpty : List String → List String
  | "" :: next :: rest => dropEmpty (next :: rest)
  | segments => segments

/-- The segments of the path that a text begins with, after one slash. -/
def readPath (scheme : String) (text : List Char) : List String :=
  let special := isSpecialScheme scheme
  let text := skipSlash special (text.takeWhile (!endsPath ·))
  let segments := addSegments scheme [] (splitSlashes special text)
  if scheme = "file" then dropEmpty segments else segments

/-! ## Authorities -/

/-- The host at the start of a text, up to a colon outside of brackets, and the rest. -/
def splitHost (bracketed : Bool) : List Char → List Char × List Char
  | [] => ([], [])
  | c :: rest =>
    if c = ':' ∧ !bracketed then ([], c :: rest)
    else
      let (host, rest) := splitHost (if c = '[' then true else if c = ']' then false else bracketed) rest
      (c :: host, rest)

/-- The written form of user information: a name and a password after a colon, which is left out with an
empty password. -/
def userinfoText (text : List Char) : String :=
  let name := Host.escape keepsInUserinfo (text.takeWhile (· != ':'))
  let password := Host.escape keepsInUserinfo ((text.dropWhile (· != ':')).drop 1)
  String.ofList (if password.isEmpty then name else name ++ ':' :: password)

/-- Splits the user information off at the last `@`. -/
def splitUserinfo (text : List Char) : Option (List Char) × List Char :=
  if text.contains '@' then
    let host := (text.reverse.takeWhile (· != '@')).reverse
    (some (text.take (text.length - host.length - 1)), host)
  else (none, text)

/-- Reads a port after its colon, and leaves what does not belong to it. -/
def readPort (scheme : String) (text : List Char) : Except UrlError (Option Nat × List Char) :=
  let digits := text.takeWhile isDigit
  let rest := text.dropWhile isDigit
  let port := naturalOfDigits digits
  if 65535 < port ∨ (rest ≠ [] ∧ rest.head? ≠ some '\\') then .error .invalidPort
  else .ok (if digits.isEmpty ∨ defaultPort? scheme = some port then none else some port, rest)

/-- Reads the host, and an empty one only where the scheme is not special. -/
def readHost (special : Bool) (text : List Char) : Except UrlError Host :=
  if special then if text.isEmpty then .error .emptyHost else Host.ofText text
  else Host.ofOpaqueText text

/-- Reads an address after the two slashes. -/
def readAuthority (scheme : String) (text : List Char) : Except UrlError Url := do
  let special := isSpecialScheme scheme
  let authority := text.takeWhile (!endsAuthority special ·)
  let rest := text.dropWhile (!endsAuthority special ·)
  let (userinfo?, hostAndPort) := splitUserinfo authority
  if userinfo? = some [] ∧ hostAndPort.isEmpty ∧ !rest.isEmpty then throw .emptyHost
  let userinfo := userinfoText (userinfo?.getD [])
  let (hostText, portText) := splitHost false hostAndPort
  let host ← readHost special hostText
  if hostText.isEmpty ∧ !portText.isEmpty then throw .emptyHost
  let (port, left) ← match portText with
    | ':' :: portText => readPort scheme portText
    | _ => pure (none, [])
  if hostText.isEmpty ∧ !userinfo.isEmpty then throw .emptyHost
  let rest := left ++ rest
  let path := if !special ∧ (rest.takeWhile (!endsPath ·)).isEmpty then [] else readPath scheme rest
  return ⟨scheme, userinfo, some host, port, .segments path⟩

/-! ## Files -/

/-- Whether a text is a drive letter with its sign. -/
def isDriveText (text : List Char) : Bool := isDrive (String.ofList (normalizeDrive text))

/-- The host of a file; the own machine is none. -/
def fileHost (text : List Char) : Except UrlError Host := do
  if text.isEmpty then return .domain ""
  else
    let host ← Host.ofText text
    return if host = .domain "localhost" then .domain "" else host

/-- Reads the address of a file after its scheme. A file on a drive has no host. -/
def readFile (text : List Char) : Except UrlError Url := do
  let isEnd := endsAuthority true
  let (host, rest) ← match text with
    | a :: b :: rest =>
      if isSlash true a && isSlash true b && !isDriveText (rest.takeWhile (!isEnd ·)) then do
        pure (← fileHost (rest.takeWhile (!isEnd ·)), rest.dropWhile (!isEnd ·))
      else pure (Host.domain "", text)
    | _ => pure (Host.domain "", text)
  let path := readPath "file" rest
  return ⟨"file", "", some (if path.any isDrive then .domain "" else host), none, .segments path⟩

/-! ## Addresses -/

/-- Reads an address after its scheme. -/
def readAfterScheme (scheme : String) (text : List Char) : Except UrlError Url :=
  if scheme = "file" then readFile text
  else if isSpecialScheme scheme then readAuthority scheme (text.dropWhile (isSlash true ·))
  else
    match text with
    | '/' :: '/' :: rest => readAuthority scheme rest
    | '/' :: _ => .ok ⟨scheme, "", none, none, .segments (readPath scheme text)⟩
    | _ =>
      let path := Host.escape Host.isPrintable (text.takeWhile (!endsPath ·))
      .ok ⟨scheme, "", none, none, .rootless (String.ofList path)⟩

/-- The address that a text denotes. -/
def ofText (text : String) : Except UrlError Url :=
  match readScheme? (relevant text.toList) with
  | some (scheme, rest) => readAfterScheme scheme rest
  | none => .error .relativeWithoutBase

end FeatureFlags.Url
