/-!
# Binary floating-point formats

A format lists its non-negative numbers in increasing order, and a number's *rank* is its place in
that list: zero has rank `0`, the smallest positive number rank `1`, and infinity has rank
`infinityRank`. For the interchange formats the rank is the bit pattern below the sign bit.

* `Format.significand` and `Format.exponent` give the value `significand · 2 ^ exponent` of a rank.
* `Format.rankOfRatio` rounds a quotient of natural numbers to the nearest rank, a tie to the even one.
* `Binary f` is a signed rank or "not a number".
-/

namespace FeatureFlags

-- powers are those of the core library, whatever else is imported
attribute [local instance (high)] instPowNat

/-- The quotient `n / d` rounded to the nearest natural number, a half to the even neighbour. -/
def roundHalfEven (n d : Nat) : Nat :=
  let q := n / d
  let r := n % d
  if 2 * r < d then q else if d < 2 * r then q + 1 else q + q % 2

/-- A binary floating-point format: the number of stored fraction bits, the exponent of its smallest
positive number, and the rank of infinity. -/
structure Format where
  fractionBits : Nat
  minExponent : Int
  infinityRank : Nat
  deriving DecidableEq, Repr

namespace Format

/-- Double precision: 64 bits, 52 of them fraction bits. -/
def double : Format := ⟨52, -1074, 2047 * 2 ^ (52 : Nat)⟩

/-- Single precision: 32 bits, 23 of them fraction bits. -/
def single : Format := ⟨23, -149, 255 * 2 ^ (23 : Nat)⟩

/-- The integer significand of the number of this rank. -/
def significand (f : Format) (rank : Nat) : Nat :=
  if rank < 2 ^ f.fractionBits then rank else 2 ^ f.fractionBits + rank % 2 ^ f.fractionBits

/-- The exponent of two that scales the significand of the number of this rank. -/
def exponent (f : Format) (rank : Nat) : Int :=
  f.minExponent + ((rank / 2 ^ f.fractionBits - 1 : Nat) : Int)

/-- `num / den = n / d · 2 ^ e` for the pair `(n, d)`. -/
def scaleDown (num den : Nat) (e : Int) : Nat × Nat :=
  if 0 ≤ e then (num, den * 2 ^ e.toNat) else (num * 2 ^ (-e).toNat, den)

/-- The exponent at which `num / den` has a full significand, or the smallest one of the format. -/
def exponentOfRatio (f : Format) (num den : Nat) : Int :=
  let e : Int := (num.log2 : Int) - (den.log2 : Int) - (f.fractionBits : Int)
  let (n, d) := scaleDown num den e
  max f.minExponent (if n < d * 2 ^ f.fractionBits then e - 1 else e)

/-- The rank nearest to `num / den`, a tie going to the even rank; it may lie beyond infinity. -/
def rankOfRatio (f : Format) (num den : Nat) : Nat :=
  if num = 0 then 0
  else
    let e := f.exponentOfRatio num den
    let (n, d) := scaleDown num den e
    (e - f.minExponent).toNat * 2 ^ f.fractionBits + roundHalfEven n d

end Format

/-- A number of a binary format: a sign and a rank, or "not a number". -/
inductive Binary (f : Format) where
  | nan
  | signed (negative : Bool) (rank : Fin (f.infinityRank + 1))
  deriving DecidableEq, Repr

/-- Double precision numbers. -/
abbrev Double := Binary .double

/-- Single precision numbers. -/
abbrev Single := Binary .single

namespace Binary

variable {f g : Format}

/-- The number of a sign and a rank; ranks beyond infinity are infinity. -/
def ofRank (negative : Bool) (rank : Nat) : Binary f :=
  .signed negative ⟨min rank f.infinityRank, by omega⟩

/-- The number nearest to `± num / den`, a tie going to the even rank. -/
def ofRatio (negative : Bool) (num den : Nat) : Binary f :=
  ofRank negative (f.rankOfRatio num den)

/-- The number nearest to `± n · 2 ^ e`. -/
def ofScaled (negative : Bool) (n : Nat) (e : Int) : Binary f :=
  if 0 ≤ e then ofRatio negative (n * 2 ^ e.toNat) 1 else ofRatio negative n (2 ^ (-e).toNat)

/-- Positive zero. -/
def zero : Binary f := ofRank false 0

/-- The number nearest to a natural number. -/
def ofNat (n : Nat) : Binary f := ofRatio false n 1

/-- The number nearest to an integer; zero is positive. -/
def ofInt (i : Int) : Binary f := ofRatio (i < 0) i.natAbs 1

/-- Whether the number is neither infinite nor "not a number". -/
def isFinite : Binary f → Bool
  | nan => false
  | signed _ r => r.val < f.infinityRank

/-- Whether the number is infinite. -/
def isInfinite : Binary f → Bool
  | nan => false
  | signed _ r => r.val == f.infinityRank

/-- The number with its sign flipped. -/
def neg : Binary f → Binary f
  | nan => nan
  | signed s r => signed (!s) r

/-! ## Comparison -/

/-- A key that orders the signed ranks as the numbers themselves; both zeros have key `0`. -/
def orderKey (negative : Bool) (rank : Nat) : Int :=
  if negative then -(rank : Int) else (rank : Int)

/-- Numeric "less than"; false when either side is not a number. -/
def lt : Binary f → Binary f → Bool
  | signed s a, signed t b => orderKey s a < orderKey t b
  | _, _ => false

/-- Numeric "at most"; false when either side is not a number. -/
def le : Binary f → Binary f → Bool
  | signed s a, signed t b => orderKey s a ≤ orderKey t b
  | _, _ => false

/-- Numeric equality: the two zeros are equal, and "not a number" equals nothing. -/
def eq : Binary f → Binary f → Bool
  | signed s a, signed t b => orderKey s a == orderKey t b
  | _, _ => false

/-! ## Arithmetic, each operation rounded once -/

/-- The product of two numbers. -/
def mul : Binary f → Binary f → Binary f
  | signed s a, signed t b =>
    if a.val = f.infinityRank ∨ b.val = f.infinityRank then
      if a.val = 0 ∨ b.val = 0 then nan else ofRank (s != t) f.infinityRank
    else
      ofScaled (s != t) (f.significand a * f.significand b) (f.exponent a + f.exponent b)
  | _, _ => nan

/-- The quotient of two numbers. -/
def div : Binary f → Binary f → Binary f
  | signed s a, signed t b =>
    if a.val = f.infinityRank then
      if b.val = f.infinityRank then nan else ofRank (s != t) f.infinityRank
    else if b.val = f.infinityRank then ofRank (s != t) 0
    else if b.val = 0 then
      if a.val = 0 then nan else ofRank (s != t) f.infinityRank
    else
      let e := f.exponent a - f.exponent b
      if 0 ≤ e then ofRatio (s != t) (f.significand a * 2 ^ e.toNat) (f.significand b)
      else ofRatio (s != t) (f.significand a) (f.significand b * 2 ^ (-e).toNat)
  | _, _ => nan

/-- The value of a finite number as an integer multiple of the format's smallest positive number. -/
def multiple (f : Format) (negative : Bool) (rank : Nat) : Int :=
  let m : Int := (f.significand rank * 2 ^ (f.exponent rank - f.minExponent).toNat : Nat)
  if negative then -m else m

/-- The sum of two numbers. -/
def add : Binary f → Binary f → Binary f
  | signed s a, signed t b =>
    if a.val = f.infinityRank then
      if b.val = f.infinityRank && s != t then nan else signed s a
    else if b.val = f.infinityRank then signed t b
    else
      let m := multiple f s a + multiple f t b
      if m = 0 then ofRank (s && t) 0 else ofScaled (m < 0) m.natAbs f.minExponent
  | _, _ => nan

/-- The number nearest to this one in another format. -/
def convert : Binary f → Binary g
  | nan => nan
  | signed s r =>
    if r.val = f.infinityRank then ofRank s g.infinityRank
    else ofScaled s (f.significand r) (f.exponent r)

/-! ## Integers -/

/-- A finite number with its fraction cut off. -/
def truncate? : Binary f → Option Int
  | nan => none
  | signed s r =>
    if r.val = f.infinityRank then none
    else
      let e := f.exponent r
      let m : Int := if 0 ≤ e then (f.significand r * 2 ^ e.toNat : Nat)
        else (f.significand r / 2 ^ (-e).toNat : Nat)
      some (if s then -m else m)

/-- Whether a finite number is an integer. -/
def isIntegral : Binary f → Bool
  | nan => false
  | signed _ r =>
    r.val ≠ f.infinityRank &&
      (0 ≤ f.exponent r || f.significand r % 2 ^ (-f.exponent r).toNat == 0)

/-- The bit pattern of a number, where "not a number" is the quiet pattern without a sign. -/
def bits : Binary f → Nat
  | nan => f.infinityRank + 2 ^ (f.fractionBits - 1)
  | signed s r => (if s then f.infinityRank + 2 ^ f.fractionBits else 0) + r.val

end Binary

/-- The largest magnitude up to which every integer is a double: `2 ^ 53 - 1`. -/
def maxSafeInteger : Nat := 2 ^ (53 : Nat) - 1

/-- The number with its fraction cut off, if its magnitude is at most `maxSafeInteger`. -/
def Binary.toSafeInt? {f : Format} (x : Binary f) : Option Int :=
  match x.truncate? with
  | none => none
  | some i =>
    if i.natAbs < maxSafeInteger || (i.natAbs == maxSafeInteger && x.isIntegral) then some i
    else none

/-- The number itself, if it is an integer of magnitude at most `maxSafeInteger`. -/
def Binary.toExactInt? {f : Format} (x : Binary f) : Option Int :=
  if x.isIntegral then x.toSafeInt? else none

end FeatureFlags
