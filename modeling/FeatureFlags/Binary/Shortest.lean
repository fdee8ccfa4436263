import FeatureFlags.Binary.Format

/-!
# Shortest decimals

The decimals that round to a given number form an interval around it, whose ends belong to it exactly
if the significand is even. `Format.shortest` finds the decimal of that interval on the coarsest
power-of-ten grid that has a point there, and of two such points the nearer one (a tie goes to the even
digit), so no decimal with fewer digits reads back as the number.
-/

namespace FeatureFlags

-- powers are those of the core library, whatever else is imported
attribute [local instance (high)] instPowNat

/-- The decimal `digits · 10 ^ exponent`. -/
structure Decimal where
  digits : Nat
  exponent : Int
  deriving DecidableEq, Repr

namespace Format

/-- The reals that round to a number, in quarters of its unit in the last place: the number itself is
at `mid`, and the whole is scaled by `2 ^ exponent`. -/
structure RoundingInterval where
  low : Nat
  mid : Nat
  high : Nat
  closed : Bool
  exponent : Int
  deriving Repr

/-- The interval of reals that round to the positive number of this rank. Below a power of two the
neighbour is only half as far away. -/
def roundingInterval (f : Format) (rank : Nat) : RoundingInterval :=
  let m := f.significand rank
  let narrow := m = 2 ^ f.fractionBits ∧ rank ≠ 2 ^ f.fractionBits
  { low := if narrow then 4 * m - 1 else 4 * m - 2
    mid := 4 * m
    high := 4 * m + 2
    closed := m % 2 == 0
    exponent := f.exponent rank - 2 }

/-- The factors `(p, q)` with `x · 2 ^ e / 10 ^ k = x · p / q`. -/
def gridFactors (e k : Int) : Nat × Nat :=
  (2 ^ e.toNat * 10 ^ (-k).toNat, 2 ^ (-e).toNat * 10 ^ k.toNat)

/-- Whether the point `d` of the grid with factors `(p, q)` lies in the interval. -/
def RoundingInterval.contains (i : RoundingInterval) (p q d : Nat) : Bool :=
  if i.closed then i.low * p ≤ d * q && d * q ≤ i.high * p
  else i.low * p < d * q && d * q < i.high * p

/-- The point of the grid `10 ^ k` in the interval that is nearest to its number, if there is any. -/
def RoundingInterval.pointOnGrid? (i : RoundingInterval) (k : Int) : Option Nat :=
  let (p, q) := gridFactors i.exponent k
  let below := i.mid * p / q
  let above := below + 1
  match i.contains p q below, i.contains p q above with
  | true, true =>
    let down := i.mid * p - below * q
    let up := above * q - i.mid * p
    some (if down < up then below else if up < down then above
      else if below % 2 == 0 then below else above)
  | true, false => some below
  | false, true => some above
  | false, false => none

/-- The first hit on the grids `10 ^ k`, `10 ^ (k - 1)`, …, at most `steps` of them. -/
def RoundingInterval.coarsest (i : RoundingInterval) : Nat → Int → Decimal
  | 0, k => ⟨0, k⟩
  | steps + 1, k =>
    match i.pointOnGrid? k with
    | some d => ⟨d, k⟩
    | none => i.coarsest steps (k - 1)

/-- The shortest decimal that rounds to the positive finite number of this rank. -/
def shortest (f : Format) (rank : Nat) : Decimal :=
  let i := f.roundingInterval rank
  let magnitude : Int := ((i.high.log2 : Int) + i.exponent + 1) * 30103 / 100000 + 1
  i.coarsest (f.fractionBits + 4) magnitude

end Format

/-! ## Written form -/

/-- How a decimal is written: the decimal exponents for which it is positional. Outside of them it is
written with one digit before the point and a signed exponent. -/
structure NumeralLayout where
  leastPositional : Int
  greatestPositional : Int
  deriving Repr

/-- Doubles are positional from `0.00001` up to below `1e+16`. -/
def NumeralLayout.double : NumeralLayout := ⟨-5, 15⟩

/-- Single precision numbers are positional from `0.000001` up to below `1e+13`. -/
def NumeralLayout.single : NumeralLayout := ⟨-6, 12⟩

/-- The decimal digits of a natural number, most significant first. -/
def decimalDigits (n : Nat) : List Char := Nat.toDigits 10 n

/-- The decimal text of an integer, with a minus sign if it is negative. -/
def integerText (i : Int) : List Char :=
  if i < 0 then '-' :: decimalDigits i.natAbs else decimalDigits i.natAbs

/-- The text of a positive decimal. A positional integer ends in `.0`. -/
def Decimal.text (layout : NumeralLayout) (d : Decimal) : List Char :=
  let digits := decimalDigits d.digits
  let n : Int := digits.length
  let leading : Int := n - 1 + d.exponent
  if layout.leastPositional ≤ leading ∧ leading ≤ layout.greatestPositional then
    if n - 1 ≤ leading then
      digits ++ List.replicate d.exponent.toNat '0' ++ ['.', '0']
    else if 0 ≤ leading then
      digits.take (leading.toNat + 1) ++ '.' :: digits.drop (leading.toNat + 1)
    else
      '0' :: '.' :: List.replicate (-leading - 1).toNat '0' ++ digits
  else
    let mantissa := match digits with
      | [] => []
      | [c] => [c]
      | c :: rest => c :: '.' :: rest
    mantissa ++ 'e' :: (if leading < 0 then '-' else '+') :: decimalDigits leading.natAbs

/-- The text of a finite number: the shortest decimal that reads back as it. Numbers that are not
finite have no text. -/
def Binary.text? {f : Format} (layout : NumeralLayout) : Binary f → Option (List Char)
  | .nan => none
  | .signed negative rank =>
    if rank.val = f.infinityRank then none
    else
      let magnitude := if rank.val = 0 then ['0', '.', '0'] else (f.shortest rank).text layout
      some (if negative then '-' :: magnitude else magnitude)

end FeatureFlags
