/-!
# UTF-8 with replacement

`Utf8.decode` turns any bytes into text. Each maximal invalid part becomes one replacement character: a
first byte with the continuation bytes that could follow it, up to the first one that could not.
-/

namespace FeatureFlags.Text.Utf8

/-- Where a decoder stands: between characters, or inside of one with the bits so far, the number of bytes
it still needs and the range of the next of them. -/
inductive State where
  | start
  | inside (bits needed low high : Nat)
  deriving DecidableEq, Repr

/-- The character that stands for an invalid part. -/
def replacement : Char := '\uFFFD'

/-- Takes a first byte. -/
def first (b : Nat) : List Char × State :=
  if b < 0x80 then ([Char.ofNat b], .start)
  else if 0xC2 ≤ b ∧ b ≤ 0xDF then ([], .inside (b - 0xC0) 1 0x80 0xBF)
  else if b = 0xE0 then ([], .inside 0 2 0xA0 0xBF)
  else if b = 0xED then ([], .inside (b - 0xE0) 2 0x80 0x9F)
  else if 0xE1 ≤ b ∧ b ≤ 0xEF then ([], .inside (b - 0xE0) 2 0x80 0xBF)
  else if b = 0xF0 then ([], .inside 0 3 0x90 0xBF)
  else if 0xF1 ≤ b ∧ b ≤ 0xF3 then ([], .inside (b - 0xF0) 3 0x80 0xBF)
  else if b = 0xF4 then ([], .inside (b - 0xF0) 3 0x80 0x8F)
  else ([replacement], .start)

/-- Takes a byte, and gives the characters that it completes. -/
def step : State → Nat → List Char × State
  | .start, b => first b
  | .inside bits needed low high, b =>
    if low ≤ b ∧ b ≤ high then
      let bits := bits * 64 + (b - 0x80)
      if needed ≤ 1 then ([Char.ofNat bits], .start) else ([], .inside bits (needed - 1) 0x80 0xBF)
    else
      let (chars, state) := first b
      (replacement :: chars, state)

/-- Decodes bytes from a state on. -/
def decodeFrom : State → List UInt8 → List Char
  | .start, [] => []
  | .inside .., [] => [replacement]
  | state, b :: rest =>
    let (chars, state) := step state b.toNat
    chars ++ decodeFrom state rest

/-- The text of some bytes. -/
def decode (bytes : List UInt8) : List Char := decodeFrom .start bytes

/-- The bytes of a text. -/
def encode (text : String) : List UInt8 := text.toUTF8.toList

end FeatureFlags.Text.Utf8
