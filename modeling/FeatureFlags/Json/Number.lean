import FeatureFlags.Binary.Shortest
import FeatureFlags.Text.Scan

/-!
# JSON numbers

A number is an integer of 64 bits or a double. `Numeral` is the text of a number taken apart, and
`Numeral.toNumber?` gives it its value:

* an integer text within the unsigned or, with a minus sign, the signed 64-bit range is that integer;
* any other text is a double, found by one multiplication or division of a 64-bit significand by a
  power of ten (`Double.ofParts?`). This is the nearest double for short texts only.
-/

namespace FeatureFlags.Json

open Text

-- powers are those of the core library, whatever else is imported
attribute [local instance (high)] instPowNat

/-- A JSON number: an integer between `-2 ^ 63` and `2 ^ 64 - 1`, or a double. -/
inductive Number where
  | integer (value : Int)
  | double (value : Double)
  deriving DecidableEq, Repr

/-- The largest unsigned 64-bit integer. -/
def maxUnsigned : Nat := 2 ^ (64 : Nat) - 1

/-- The largest signed 64-bit integer. -/
def maxSigned : Nat := 2 ^ (63 : Nat) - 1

/-- The number as the nearest double. -/
def Number.toDouble : Number → Double
  | .integer i => .ofInt i
  | .double d => d

/-- The number as the nearest single precision number. An integer is rounded once, a double once more. -/
def Number.toSingle : Number → Single
  | .integer i => .ofInt i
  | .double d => d.convert

/-! ## Decimal significands -/

/-- A decimal with a significand of at most 64 bits, collected digit by digit. -/
structure Significand where
  value : Nat
  exponent : Int
  deriving DecidableEq, Repr

/-- Appends a digit if the significand still fits 64 bits. -/
def Significand.push? (s : Significand) (c : Char) : Option Nat :=
  let next := s.value * 10 + digitValue c
  if next ≤ maxUnsigned then some next else none

/-- Takes the digits before the point. From the first one on that does not fit, they only count in the
exponent; the flag tells whether that happened. -/
def Significand.pushWhole (s : Significand) : List Char → Significand × Bool
  | [] => (s, false)
  | c :: rest =>
    match s.push? c with
    | some value => { s with value }.pushWhole rest
    | none => ({ s with exponent := s.exponent + (rest.length + 1 : Nat) }, true)

/-- Takes the digits after the point, up to the first one that does not fit. -/
def Significand.pushFraction (s : Significand) : List Char → Significand
  | [] => s
  | c :: rest =>
    match s.push? c with
    | some value => Significand.pushFraction ⟨value, s.exponent - 1⟩ rest
    | none => s

/-- The double nearest to a power of ten. -/
def powerOfTen (n : Nat) : Double := .ofNat (10 ^ n)

/-- Divides by `10 ^ n`, in steps of `10 ^ 308`; stops at zero. -/
def divideByPower (x : Double) (n : Nat) : Double :=
  if n ≤ 308 then x.div (powerOfTen n)
  else if x.eq .zero then x
  else divideByPower (x.div (powerOfTen 308)) (n - 308)
termination_by n

/-- Multiplies by `10 ^ n`; a product beyond the largest double has no value. -/
def multiplyByPower? (x : Double) (n : Nat) : Option Double :=
  if n ≤ 308 then
    let product := x.mul (powerOfTen n)
    if product.isInfinite then none else some product
  else if x.eq .zero then some x
  else none

/-- The double of a significand and a power of ten. -/
def doubleOfParts? (negative : Bool) (s : Significand) : Option Double :=
  let x : Double := .ofNat s.value
  let magnitude := if 0 ≤ s.exponent then multiplyByPower? x s.exponent.toNat
    else some (divideByPower x (-s.exponent).toNat)
  magnitude.map fun m => if negative then m.neg else m

/-! ## Numerals -/

/-- The text of a number, taken apart: sign, digits before the point, digits after it if there is a
point, and the exponent with its sign if there is one. -/
structure Numeral where
  negative : Bool
  whole : List Char
  fraction : Option (List Char)
  exponent : Option (Bool × List Char)
  deriving DecidableEq, Repr

/-- The integer of a text without point and exponent, if it fits 64 bits. Negative zero does not. -/
def integerOfDigits? (negative : Bool) (digits : List Char) : Option Int :=
  let n := naturalOfDigits digits
  if negative then if 0 < n ∧ n ≤ 2 ^ (63 : Nat) then some (-(n : Int)) else none
  else if n ≤ maxUnsigned then some n else none

/-- The number a text denotes; `none` if it is beyond the largest double. -/
def Numeral.toNumber? (n : Numeral) : Option Number :=
  match n.fraction, n.exponent with
  | none, none =>
    match integerOfDigits? n.negative n.whole with
    | some i => some (.integer i)
    | none => (doubleOfParts? n.negative ((Significand.mk 0 0).pushWhole n.whole).1).map .double
  | fraction, exponent =>
    let whole := ((Significand.mk 0 0).pushWhole n.whole).1
    let digits := match fraction with
      | some ds => whole.pushFraction ds
      | none => whole
    let scaled : Significand := match exponent with
      | some (negative, ds) =>
        let e : Int := naturalOfDigits ds
        { digits with exponent := digits.exponent + (if negative then -e else e) }
      | none => digits
    (doubleOfParts? n.negative scaled).map .double

end FeatureFlags.Json
