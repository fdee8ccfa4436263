import FeatureFlags.Text.Scan

/-!
# Punycode

The encoding of labels of domain names in ASCII. The characters beyond ASCII are inserted in ascending
order: each is told by the number of places and code points that are passed over since the one before. These
numbers are written with the least significant digit first, where thresholds, which adapt to the sizes of the
numbers, tell the last digit.
-/

namespace FeatureFlags.Punycode

/-- The character of a digit below 36. -/
def digitChar (d : Nat) : Char := if d < 26 then Char.ofNat (0x61 + d) else Char.ofNat (0x16 + d)

/-- The digit of a character. -/
def digitOf? (c : Char) : Option Nat :=
  if Text.isDigit c then some (Text.digitValue c + 26)
  else if 'a' ≤ c ∧ c ≤ 'z' then some (c.toNat - 0x61)
  else if 'A' ≤ c ∧ c ≤ 'Z' then some (c.toNat - 0x41)
  else none

/-- The threshold of the digit at a place, counted in steps of 36: between 1 and 26. -/
def threshold (place bias : Nat) : Nat := max 1 (min 26 (place - bias))

/-- Divides a number until it is small, counting the divisions in steps of 36. -/
def shrink (delta place : Nat) : Nat × Nat :=
  if 455 < delta then shrink (delta / 35) (place + 36) else (delta, place)
termination_by delta
decreasing_by exact Nat.div_lt_self (by omega) (by omega)

/-- The bias after a number, given how many characters there are now. -/
def adapt (delta count : Nat) (first : Bool) : Nat :=
  let delta := if first then delta / 700 else delta / 2
  let (rest, place) := shrink (delta + delta / count) 0
  place + 36 * rest / (rest + 38)

/-! ## Encoding -/

/-- The digits of a number from a place on. -/
def digits (bias place n : Nat) : List Char :=
  let t := threshold place bias
  if n < t then [digitChar n]
  else digitChar (t + (n - t) % (36 - t)) :: digits bias (place + 36) ((n - t) / (36 - t))
termination_by n
decreasing_by
  have h : 1 ≤ threshold place bias := Nat.le_max_left ..
  exact Nat.lt_of_le_of_lt (Nat.div_le_self ..) (by omega)

/-- How far an encoder has come: the number that is being collected, the bias, and how many characters have
been written. -/
structure Encoder where
  delta : Nat
  bias : Nat
  written : Nat
  deriving DecidableEq, Repr

/-- Passes over one character of the text while the code point `next` is being written, which was preceded by
`basic` characters of ASCII. -/
def Encoder.pass (basic next : Nat) (e : Encoder) (c : Char) : List Char × Encoder :=
  if c.toNat < next then ([], { e with delta := e.delta + 1 })
  else if c.toNat = next then
    (digits e.bias 36 e.delta,
      ⟨0, adapt e.delta (e.written + 1) (e.written == basic), e.written + 1⟩)
  else ([], e)

/-- Passes over the whole text. -/
def Encoder.passAll (basic next : Nat) (e : Encoder) : List Char → List Char × Encoder
  | [] => ([], e)
  | c :: rest =>
    let (out, e) := e.pass basic next c
    let (others, e) := e.passAll basic next rest
    (out ++ others, e)

/-- Writes the characters with some code points, given in ascending order; `current` is the first one that
has not been passed over. -/
def writeCodes (text : List Char) (basic : Nat) (current : Nat) (e : Encoder) : List Nat → List Char
  | [] => []
  | next :: rest =>
    let e := { e with delta := e.delta + (next - current) * (e.written + 1) }
    let (out, e) := e.passAll basic next text
    out ++ writeCodes text basic (next + 1) { e with delta := e.delta + 1 } rest

/-- Inserts a number into an ascending list, unless it is there. -/
def insertCode (n : Nat) : List Nat → List Nat
  | [] => [n]
  | m :: rest => if n < m then n :: m :: rest else if n = m then m :: rest else m :: insertCode n rest

/-- The encoded form of a text: its ASCII characters, a hyphen if there are any, and the others. -/
def encode (text : List Char) : List Char :=
  let basic := text.filter (·.toNat < 0x80)
  let codes := ((text.map Char.toNat).filter (0x80 ≤ ·)).foldr insertCode []
  basic ++ (if basic.isEmpty then [] else ['-']) ++
    writeCodes text basic.length 0x80 ⟨0, 72, basic.length⟩ codes

/-! ## Decoding -/

/-- Reads a number from a place on. -/
def readNumber (bias : Nat) : Nat → Nat → Nat → List Char → Option (Nat × List Char)
  | _, _, _, [] => none
  | place, weight, value, c :: rest => do
    let d ← digitOf? c
    let value := value + d * weight
    let t := threshold place bias
    if d < t then some (value, rest) else readNumber bias (place + 36) (weight * (36 - t)) value rest

/-- Reads characters and inserts them; `fuel` bounds their number. -/
def readCodes : Nat → Nat → Nat → Nat → List Char → List Char → Option (List Char)
  | _, _, _, _, done, [] => some done
  | 0, _, _, _, _, _ => none
  | fuel + 1, bias, current, place, done, text => do
    let (n, rest) ← readNumber bias 36 1 place text
    let count := done.length + 1
    let code := current + n / count
    let place' := n % count
    if code.isValidChar then
      readCodes fuel (adapt (n - place) count (place == 0)) code (place' + 1)
        (done.take place' ++ Char.ofNat code :: done.drop place') rest
    else none

/-- The text of an encoded form. -/
def decode? (text : List Char) : Option (List Char) :=
  let others := (text.reverse.takeWhile (· != '-')).reverse
  let basic := text.take (text.length - others.length - 1)
  if basic.all (·.toNat < 0x80) then readCodes (others.length + 1) 72 0x80 0 basic others else none

end FeatureFlags.Punycode
