import FeatureFlags.Binary.Shortest
import FeatureFlags.Url.Domain
import FeatureFlags.Url.Error

/-!
# Hosts

A host is a domain name, an address of four bytes or one of eight pieces of 16 bits. A name whose last part
is a number is an address of four bytes, whose parts may be decimal, octal or hexadecimal and of which the
last one may fill several bytes.
-/

namespace FeatureFlags

open Text (isDigit naturalOfDigits hexValue? splitOn)

-- powers are those of the core library, whatever else is imported
attribute [local instance (high)] instPowNat
-- sums start from the zero of the core library, whatever else is imported
attribute [local instance (high)] Zero.ofOfNat0

/-- The host of an address. -/
inductive Host where
  | domain (name : String)
  | ipv4 (address : Nat)
  | ipv6 (pieces : List Nat)
  deriving DecidableEq, Repr

namespace Host

/-! ## Addresses of four bytes -/

/-- The number that digits of a base denote. -/
def numberInBase? (base : Nat) (digits : List Char) : Option Nat :=
  digits.foldlM (fun n c => do
    let d ← hexValue? c
    if d < base then some (n * base + d) else none) 0

/-- The number that a part of an address denotes: hexadecimal after `0x`, octal after `0`. -/
def ipv4Number? : List Char → Option Nat
  | [] => none
  | '0' :: 'x' :: digits | '0' :: 'X' :: digits => numberInBase? 16 digits
  | '0' :: d :: digits => numberInBase? 8 (d :: digits)
  | digits => numberInBase? 10 digits

/-- The parts of a name, without an empty last one. -/
def nameParts (name : List Char) : List (List Char) :=
  let parts := splitOn '.' name
  if 1 < parts.length ∧ parts.getLast? = some [] then parts.dropLast else parts

/-- Whether the last part of a name is a number. -/
def endsInNumber (name : List Char) : Bool :=
  match (nameParts name).getLast? with
  | none => false
  | some last => (!last.isEmpty && last.all isDigit) || (ipv4Number? last).isSome

/-- The value of the bytes before the last number. -/
def leadingBytes (numbers : List Nat) : Nat :=
  (numbers.zipIdx.map fun (n, i) => n * 256 ^ (3 - i)).sum

/-- The address that a name denotes. -/
def ipv4? (name : List Char) : Option Nat := do
  let parts := nameParts name
  let numbers ← parts.mapM ipv4Number?
  let last ← numbers.getLast?
  let bytes := numbers.dropLast
  if parts.length ≤ 4 ∧ bytes.all (· < 256) ∧ last < 256 ^ (5 - parts.length) then
    return leadingBytes bytes + last
  else none

/-! ## Addresses of eight pieces -/

/-- The number of a decimal byte without leading zeros. -/
def decimalByte? (digits : List Char) : Option Nat :=
  match digits with
  | [] | '0' :: _ :: _ => none
  | digits =>
    let n := naturalOfDigits digits
    if digits.all isDigit ∧ n < 256 then some n else none

/-- The two pieces that four decimal bytes denote. -/
def decimalPieces? (text : List Char) : Option (List Nat) := do
  match ← (splitOn '.' text).mapM decimalByte? with
  | [a, b, c, d] => return [a * 256 + b, c * 256 + d]
  | _ => none

/-- The pieces that have been read, and where zeros are left out. -/
structure Pieces where
  done : List Nat
  gap : Option Nat
  deriving DecidableEq, Repr

/-- How many of the eight places are taken; the gap takes one at least. -/
def Pieces.taken (p : Pieces) : Nat := p.done.length + (if p.gap.isSome then 1 else 0)

/-- Reads the rest of an address, piece by piece; `fuel` bounds their number. -/
def readPieces (fuel : Nat) (p : Pieces) (text : List Char) : Option Pieces :=
  match fuel, text with
  | _, [] => some p
  | 0, _ => none
  | fuel + 1, ':' :: rest =>
    if p.taken = 8 ∨ p.gap.isSome then none else readPieces fuel { p with gap := some p.done.length } rest
  | fuel + 1, text => do
    if p.taken = 8 then none
    let digits := (text.take 4).takeWhile fun c => (hexValue? c).isSome
    let value ← numberInBase? 16 digits
    let next : Pieces := { p with done := p.done ++ [value] }
    match text.drop digits.length with
    | [] => return next
    | '.' :: _ =>
      if 6 < p.taken then none else return { p with done := p.done ++ (← decimalPieces? text) }
    | ':' :: [] => none
    | ':' :: rest => readPieces fuel next rest
    | _ => none

/-- Fills the gap with zeros. -/
def Pieces.fill? (p : Pieces) : Option (List Nat) :=
  match p.gap with
  | none => if p.done.length = 8 then some p.done else none
  | some i =>
    if p.taken ≤ 8 then
      some (p.done.take i ++ List.replicate (8 - p.done.length) 0 ++ p.done.drop i)
    else none

/-- The pieces of an address. -/
def ipv6? (text : List Char) : Option (List Nat) :=
  match text with
  | ':' :: ':' :: rest => (readPieces (text.length + 1) ⟨[], some 0⟩ rest).bind Pieces.fill?
  | ':' :: _ | [] | [_] => none
  | text => (readPieces (text.length + 1) ⟨[], none⟩ text).bind Pieces.fill?

/-! ## Reading -/

/-- Reads what stands between brackets. -/
def ofBrackets (text : List Char) : Except UrlError Host :=
  if text.getLast? = some ']' then
    match ipv6? text.dropLast with
    | some pieces => .ok (.ipv6 pieces)
    | none => .error .invalidIpv6Address
  else .error .invalidIpv6Address

/-- The host of an address on the web. -/
def ofText : List Char → Except UrlError Host
  | '[' :: rest => ofBrackets rest
  | text =>
    match Domain.toAscii? text with
    | none => .error .invalidDomainName
    | some [] => .error .emptyHost
    | some name =>
      if endsInNumber name then
        match ipv4? name with
        | some address => .ok (.ipv4 address)
        | none => .error .invalidIpv4Address
      else .ok (.domain (String.ofList name))

/-- Whether a character has no place in the host of other addresses. -/
def isForbidden (c : Char) : Bool :=
  c == '\x00' || c == '\t' || c == '\n' || c == '\r' || " #/:<>?@[\\]^|".toList.contains c

/-- A byte as a percent escape. -/
def escaped (b : UInt8) : List Char :=
  let digit (n : Nat) : Char := if n < 10 then Char.ofNat (0x30 + n) else Char.ofNat (0x37 + n)
  ['%', digit (b.toNat / 16), digit (b.toNat % 16)]

/-- A text in which all but ASCII characters that are kept are escaped. -/
def escape (keep : Char → Bool) (text : List Char) : List Char :=
  text.flatMap fun c =>
    if c.toNat < 0x80 ∧ keep c then [c]
    else (Text.Utf8.encode (String.singleton c)).flatMap escaped

/-- Whether a character is no control character. -/
def isPrintable (c : Char) : Bool := 0x20 ≤ c.toNat && c.toNat < 0x7F

/-- The host of other addresses, which is taken as it is. -/
def ofOpaqueText : List Char → Except UrlError Host
  | '[' :: rest => ofBrackets rest
  | text =>
    if text.any isForbidden then .error .invalidDomainCharacter
    else .ok (.domain (String.ofList (escape isPrintable text)))

/-! ## Text -/

/-- The hexadecimal digits of a number. -/
def hexDigits (n : Nat) : List Char := Nat.toDigits 16 n

/-- The number of zeros at the start of a list. -/
def zeroRun (pieces : List Nat) : Nat := (pieces.takeWhile (· == 0)).length

/-- Where the first of the longest runs of zeros begins, if there is one of two zeros at least, and how long
it is. -/
def longestZeroRun (pieces : List Nat) : Option (Nat × Nat) :=
  let runs := (List.range pieces.length).map fun i => (i, zeroRun (pieces.drop i))
  runs.foldl (fun best run =>
    if 2 ≤ run.2 ∧ best.all (·.2 < run.2) then some run else best) none

/-- The text of some pieces, with colons between them. -/
def piecesText (pieces : List Nat) : List Char := [':'].intercalate (pieces.map hexDigits)

/-- The text of a host. -/
def text : Host → String
  | domain name => name
  | ipv4 a =>
    String.ofList <| ['.'].intercalate <|
      [a / 2 ^ (24 : Nat), a / 2 ^ (16 : Nat) % 256, a / 2 ^ (8 : Nat) % 256, a % 256].map decimalDigits
  | ipv6 pieces =>
    let inner := match longestZeroRun pieces with
      | none => piecesText pieces
      | some (i, n) => piecesText (pieces.take i) ++ ':' :: ':' :: piecesText (pieces.drop (i + n))
    String.ofList ('[' :: inner ++ [']'])

end Host
end FeatureFlags
