import FeatureFlags.Binary.Format
import Mathlib.Algebra.Order.Field.Power
import Mathlib.Data.Rat.Cast.Order
import Mathlib.Tactic.FieldSimp
import Mathlib.Tactic.Linarith
import Mathlib.Tactic.NormNum
import Mathlib.Tactic.Positivity
import Mathlib.Tactic.Ring

/-!
# Rounding to the nearest number

`Format.value` is the value of a rank as a rational number. It grows with the rank, each step being a power
of two (`value_succ`).

`Format.Rounds f r q` says that a rational number rounds to rank `r`: it lies between the midpoints to the
neighbours of `r`, or on one of them if `r` is even. A number rounds to one rank only (`Rounds.unique`), and
`rankOfRatio` finds it (`rounds_rankOfRatio`). So rounding depends on the number alone, not on the way in
which it is given as a quotient.
-/

namespace FeatureFlags.Format

variable {f : Format}

/-! ## Values of ranks -/

/-- The value of the number of this rank. -/
def value (f : Format) (rank : Nat) : ℚ := f.significand rank * 2 ^ f.exponent rank

lemma two_zpow_pos (e : ℤ) : (0 : ℚ) < 2 ^ e := zpow_pos (by norm_num) e

lemma two_zpow_succ (e : ℤ) : (2 : ℚ) ^ (e + 1) = 2 * 2 ^ e := by
  rw [zpow_add₀ (by norm_num), zpow_one, mul_comm]

/-- The rank zero is the number zero. -/
@[simp]
lemma value_zero : f.value 0 = 0 := by
  rw [value, significand, if_pos (Nat.two_pow_pos _)]
  simp

/-- Below the first binade the significand is the rank. -/
lemma significand_of_lt {r : Nat} (h : r < 2 ^ f.fractionBits) : f.significand r = r := if_pos h

/-- Below the first binade the exponent is the least one. -/
lemma exponent_of_lt {r : Nat} (h : r < 2 ^ f.fractionBits) : f.exponent r = f.minExponent := by
  rw [exponent, Nat.div_eq_of_lt h]
  simp

/-- The rank of a full significand `2 ^ fractionBits + m` in the binade `k`. -/
lemma significand_of_binade (f : Format) (k : Nat) {m : Nat} (hm : m < 2 ^ f.fractionBits) :
    f.significand ((k + 1) * 2 ^ f.fractionBits + m) = 2 ^ f.fractionBits + m := by
  have hlarge : 2 ^ f.fractionBits ≤ (k + 1) * 2 ^ f.fractionBits + m :=
    (Nat.le_mul_of_pos_left _ (Nat.succ_pos k)).trans (Nat.le_add_right _ _)
  rw [significand, if_neg (Nat.not_lt.mpr hlarge), Nat.mul_add_mod', Nat.mod_eq_of_lt hm]

/-- The exponent grows by one from binade to binade. -/
lemma exponent_of_binade (f : Format) (k : Nat) {m : Nat} (hm : m < 2 ^ f.fractionBits) :
    f.exponent ((k + 1) * 2 ^ f.fractionBits + m) = f.minExponent + k := by
  have hdiv : ((k + 1) * 2 ^ f.fractionBits + m) / 2 ^ f.fractionBits = k + 1 := by
    rw [Nat.mul_comm, Nat.mul_add_div (Nat.two_pow_pos _), Nat.div_eq_of_lt hm, Nat.add_zero]
  rw [exponent, hdiv, Nat.add_sub_cancel]

/-- Every rank is small or has a full significand. -/
lemma exists_binade (f : Format) (r : Nat) : r < 2 ^ f.fractionBits ∨
    ∃ k m, m < 2 ^ f.fractionBits ∧ r = (k + 1) * 2 ^ f.fractionBits + m := by
  rcases Nat.lt_or_ge r (2 ^ f.fractionBits) with h | h
  · exact .inl h
  · refine .inr ⟨r / 2 ^ f.fractionBits - 1, r % 2 ^ f.fractionBits,
      Nat.mod_lt _ (Nat.two_pow_pos _), ?_⟩
    have hdiv : 0 < r / 2 ^ f.fractionBits := Nat.div_pos h (Nat.two_pow_pos _)
    rw [Nat.sub_add_cancel hdiv, Nat.mul_comm, Nat.div_add_mod]

/-- The value of the rank that is `m` steps into a binade, up to its end. -/
lemma value_of_binade {k m : Nat} (hk : k = 0 ∨ 2 ^ f.fractionBits ≤ m) (hm : m ≤ 2 * 2 ^ f.fractionBits) :
    f.value (k * 2 ^ f.fractionBits + m) = m * 2 ^ (f.minExponent + k) := by
  rcases Nat.lt_or_ge m (2 ^ f.fractionBits) with hsmall | hlarge
  · obtain rfl : k = 0 := hk.resolve_right (Nat.not_le.mpr hsmall)
    rw [Nat.zero_mul, Nat.zero_add, value, significand_of_lt hsmall, exponent_of_lt hsmall]
    simp
  · obtain ⟨i, rfl⟩ := Nat.exists_eq_add_of_le hlarge
    have hrank : k * 2 ^ f.fractionBits + (2 ^ f.fractionBits + i) = (k + 1) * 2 ^ f.fractionBits + i := by
      ring
    rcases Nat.lt_or_ge i (2 ^ f.fractionBits) with hi | hi
    · rw [hrank, value, significand_of_binade f k hi, exponent_of_binade f k hi]
    · obtain rfl : i = 2 ^ f.fractionBits := by omega
      have hnext : (k + 1) * 2 ^ f.fractionBits + 2 ^ f.fractionBits =
          (k + 1 + 1) * 2 ^ f.fractionBits + 0 := by
        ring
      rw [hrank, hnext, value, significand_of_binade f _ (Nat.two_pow_pos _),
        exponent_of_binade f _ (Nat.two_pow_pos _), Nat.cast_succ, ← add_assoc, two_zpow_succ]
      push_cast
      ring

/-- From one rank to the next the value grows by the unit of the lower one. -/
theorem value_succ (f : Format) (r : Nat) : f.value (r + 1) = f.value r + 2 ^ f.exponent r := by
  -- the gap above a rank is that of its binade, below the first binade that of the smallest
  rcases f.exists_binade r with h | ⟨k, m, hm, rfl⟩
  · have hr : f.value (0 * 2 ^ f.fractionBits + r) = r * 2 ^ (f.minExponent + (0 : Nat)) :=
      value_of_binade (.inl rfl) (by omega)
    have hsucc : f.value (0 * 2 ^ f.fractionBits + (r + 1)) = (r + 1 : Nat) * 2 ^ (f.minExponent + (0 : Nat)) :=
      value_of_binade (.inl rfl) (by omega)
    rw [Nat.zero_mul, Nat.zero_add, Nat.cast_zero, add_zero] at hr hsucc
    rw [hr, hsucc, exponent_of_lt h]
    push_cast
    ring
  · have hr : f.value (k * 2 ^ f.fractionBits + (2 ^ f.fractionBits + m)) =
        (2 ^ f.fractionBits + m : Nat) * 2 ^ (f.minExponent + k) := value_of_binade (.inr (by omega)) (by omega)
    have hsucc : f.value (k * 2 ^ f.fractionBits + (2 ^ f.fractionBits + m + 1)) =
        (2 ^ f.fractionBits + m + 1 : Nat) * 2 ^ (f.minExponent + k) :=
      value_of_binade (.inr (by omega)) (by omega)
    have hrank : (k + 1) * 2 ^ f.fractionBits + m = k * 2 ^ f.fractionBits + (2 ^ f.fractionBits + m) := by
      ring
    rw [exponent_of_binade f k hm, hrank, add_assoc (k * 2 ^ f.fractionBits), hr, hsucc]
    push_cast
    ring

/-- Greater ranks have greater values, so ranks are compared instead of numbers. -/
lemma value_strictMono (f : Format) : StrictMono f.value :=
  strictMono_nat_of_lt_succ fun r => by
    rw [value_succ]
    exact lt_add_of_pos_right _ (two_zpow_pos _)

lemma value_nonneg (f : Format) (r : Nat) : 0 ≤ f.value r := by
  rw [← f.value_zero]
  exact f.value_strictMono.monotone (Nat.zero_le r)

/-! ## Rounding -/

/-- A rational number rounds to a rank: it lies between the midpoints to the neighbours, which belong to the
even ranks. -/
structure Rounds (f : Format) (r : Nat) (q : ℚ) : Prop where
  below : ∀ s, r = s + 1 → f.value s + f.value r ≤ 2 * q
  belowOdd : ∀ s, r = s + 1 → r % 2 = 1 → f.value s + f.value r < 2 * q
  above : 2 * q ≤ f.value r + f.value (r + 1)
  aboveOdd : r % 2 = 1 → 2 * q < f.value r + f.value (r + 1)

/-- What lies between a number and the midpoint above it rounds to this number. -/
lemma rounds_of_le_of_lt {r : Nat} {q : ℚ} (hle : f.value r ≤ q) (hlt : 2 * q < f.value r + f.value (r + 1)) :
    f.Rounds r q := by
  have hpred : ∀ s, r = s + 1 → f.value s + f.value r < 2 * q := by
    rintro s rfl
    linarith [f.value_strictMono (Nat.lt_succ_self s)]
  exact ⟨fun s hs => (hpred s hs).le, fun s hs _ => hpred s hs, hlt.le, fun _ => hlt⟩

/-- The number of a rank rounds to this rank. -/
lemma rounds_value (f : Format) (r : Nat) : f.Rounds r (f.value r) :=
  rounds_of_le_of_lt le_rfl (by linarith [f.value_strictMono (Nat.lt_succ_self r)])

/-- Rounding keeps the order. -/
lemma Rounds.mono {r r' : Nat} {q q' : ℚ} (h : f.Rounds r q) (h' : f.Rounds r' q') (hq : q ≤ q') :
    r ≤ r' := by
  by_contra hlt
  obtain ⟨s, rfl⟩ : ∃ s, r = s + 1 := ⟨r - 1, by omega⟩
  have hsucc := f.value_strictMono.monotone (show r' + 1 ≤ s + 1 by omega)
  rcases Nat.lt_or_ge r' s with hrs | hrs
  · linarith [f.value_strictMono hrs, h'.above, h.below s rfl]
  · obtain rfl : r' = s := by omega
    rcases Nat.mod_two_eq_zero_or_one r' with heven | hodd
    · linarith [h'.above, h.belowOdd r' rfl (by omega)]
    · linarith [h'.aboveOdd hodd, h.below r' rfl]

/-- A number rounds to one rank only. -/
theorem Rounds.unique {r r' : Nat} {q : ℚ} (h : f.Rounds r q) (h' : f.Rounds r' q) : r = r' :=
  Nat.le_antisymm (h.mono h' le_rfl) (h'.mono h le_rfl)

/-! ## The nearest natural number -/

/-- Rounding a quotient half to even: it is at most half away, and less if the result is odd. -/
lemma roundHalfEven_spec (n : Nat) {d : Nat} (hd : 0 < d) :
    2 * n ≤ (2 * roundHalfEven n d + 1) * d ∧ 2 * roundHalfEven n d * d ≤ 2 * n + d ∧
      (roundHalfEven n d % 2 = 1 →
        2 * n < (2 * roundHalfEven n d + 1) * d ∧ 2 * roundHalfEven n d * d < 2 * n + d) := by
  have hn : n = d * (n / d) + n % d := (Nat.div_add_mod n d).symm
  have hr : n % d < d := Nat.mod_lt n hd
  rw [roundHalfEven]
  generalize n / d = q at *
  generalize n % d = r at *
  subst hn
  split_ifs with hless hmore
  · refine ⟨by nlinarith, by nlinarith, fun _ => ⟨by nlinarith, by nlinarith⟩⟩
  · refine ⟨by nlinarith, by nlinarith, fun _ => ⟨by nlinarith, by nlinarith⟩⟩
  · have htie : 2 * r = d := by omega
    rcases Nat.mod_two_eq_zero_or_one q with heven | hodd
    · rw [heven]
      refine ⟨by nlinarith, by nlinarith, fun h => absurd h (by omega)⟩
    · rw [hodd]
      refine ⟨by nlinarith, by nlinarith, fun h => absurd h (by omega)⟩

/-- The rounded quotient is at most half away from the quotient, and less if it is odd. -/
lemma roundHalfEven_near (n : Nat) {d : Nat} (hd : 0 < d) :
    2 * (n / d : ℚ) ≤ 2 * roundHalfEven n d + 1 ∧ (2 * roundHalfEven n d : ℚ) ≤ 2 * (n / d) + 1 ∧
      (roundHalfEven n d % 2 = 1 →
        2 * (n / d : ℚ) < 2 * roundHalfEven n d + 1 ∧ (2 * roundHalfEven n d : ℚ) < 2 * (n / d) + 1) := by
  obtain ⟨habove, hbelow, hodd⟩ := roundHalfEven_spec n hd
  have hd' : (0 : ℚ) < d := Nat.cast_pos.mpr hd
  rw [← mul_div_assoc, div_add_one hd'.ne', div_le_iff₀ hd', div_lt_iff₀ hd', le_div_iff₀ hd',
    lt_div_iff₀ hd']
  exact ⟨by exact_mod_cast habove, by exact_mod_cast hbelow, fun h => by exact_mod_cast hodd h⟩

/-! ## Scaling a quotient -/

lemma scaleDown_pos (num : Nat) {den : Nat} (hden : 0 < den) (e : ℤ) : 0 < (scaleDown num den e).2 := by
  rw [scaleDown]
  split_ifs
  · exact Nat.mul_pos hden (Nat.two_pow_pos _)
  · exact hden

/-- Scaling down changes a quotient by the power of two only. -/
lemma scaleDown_spec (num : Nat) {den : Nat} (hden : 0 < den) (e : ℤ) :
    ((scaleDown num den e).1 : ℚ) / (scaleDown num den e).2 * 2 ^ e = num / den := by
  have hden' : (den : ℚ) ≠ 0 := Nat.cast_ne_zero.mpr hden.ne'
  have hpow := (two_zpow_pos e).ne'
  rw [scaleDown]
  split_ifs with he
  · obtain ⟨k, rfl⟩ := Int.eq_ofNat_of_zero_le he
    rw [zpow_natCast] at hpow ⊢
    push_cast [Int.toNat_natCast]
    field_simp
  · obtain ⟨k, hk⟩ := Int.eq_ofNat_of_zero_le (show 0 ≤ -e by omega)
    obtain rfl : e = -(k : ℤ) := by omega
    rw [zpow_neg, zpow_natCast] at hpow ⊢
    push_cast [neg_neg, Int.toNat_natCast]
    field_simp

/-- A number is at least the power of two of its logarithm and below the next one. -/
lemma log2_bounds {n : Nat} (hn : 0 < n) :
    (2 : ℚ) ^ (n.log2 : ℤ) ≤ n ∧ (n : ℚ) < 2 ^ ((n.log2 : ℤ) + 1) := by
  constructor
  · rw [zpow_natCast]
    exact_mod_cast Nat.log2_self_le hn.ne'
  · rw [show (n.log2 : ℤ) + 1 = ((n.log2 + 1 : Nat) : ℤ) by push_cast; rfl, zpow_natCast]
    exact_mod_cast Nat.lt_log2_self

/-- A quotient is known up to a factor of four from the logarithms of its parts. -/
lemma log2_quotient_bounds {num den : Nat} (hnum : 0 < num) (hden : 0 < den) :
    (2 : ℚ) ^ ((num.log2 : ℤ) - den.log2 - 1) ≤ num / den ∧
      (num / den : ℚ) < 2 ^ ((num.log2 : ℤ) - den.log2 + 1) := by
  have hden' : (0 : ℚ) < den := Nat.cast_pos.mpr hden
  obtain ⟨hnumLow, hnumHigh⟩ := log2_bounds hnum
  obtain ⟨hdenLow, hdenHigh⟩ := log2_bounds hden
  constructor
  · rw [le_div_iff₀ hden']
    calc (2 : ℚ) ^ ((num.log2 : ℤ) - den.log2 - 1) * den
        ≤ 2 ^ ((num.log2 : ℤ) - den.log2 - 1) * 2 ^ ((den.log2 : ℤ) + 1) :=
          mul_le_mul_of_nonneg_left hdenHigh.le (two_zpow_pos _).le
      _ = 2 ^ (num.log2 : ℤ) := by rw [← zpow_add₀ (by norm_num)]; congr 1; ring
      _ ≤ num := hnumLow
  · rw [div_lt_iff₀ hden']
    calc (num : ℚ) < 2 ^ ((num.log2 : ℤ) + 1) := hnumHigh
      _ = 2 ^ ((num.log2 : ℤ) - den.log2 + 1) * 2 ^ (den.log2 : ℤ) := by
          rw [← zpow_add₀ (by norm_num)]; congr 1; ring
      _ ≤ 2 ^ ((num.log2 : ℤ) - den.log2 + 1) * den :=
          mul_le_mul_of_nonneg_left hdenLow (two_zpow_pos _).le

/-- A scaled quotient is compared with a power of two as the quotient is with a greater one. -/
lemma scaleDown_lt_iff {num den : Nat} (hden : 0 < den) (e : ℤ) (p : Nat) :
    (scaleDown num den e).1 < (scaleDown num den e).2 * 2 ^ p ↔ (num / den : ℚ) < 2 ^ (e + p) := by
  have hpos : (0 : ℚ) < (scaleDown num den e).2 := Nat.cast_pos.mpr (scaleDown_pos num hden e)
  rw [← scaleDown_spec num hden e, zpow_add₀ (by norm_num), mul_comm ((2 : ℚ) ^ e), zpow_natCast,
    mul_lt_mul_iff_left₀ (two_zpow_pos e), div_lt_iff₀ hpos, mul_comm ((2 : ℚ) ^ p)]
  exact_mod_cast Iff.rfl

lemma two_pow_mul_zpow (p : Nat) (e : ℤ) : (2 : ℚ) ^ p * 2 ^ e = 2 ^ (e + p) := by
  rw [zpow_add₀ (by norm_num), zpow_natCast, mul_comm]

/-- At the exponent of a quotient the significand is full, unless it is the smallest exponent. -/
lemma exponentOfRatio_spec (f : Format) {num den : Nat} (hnum : 0 < num) (hden : 0 < den) :
    f.minExponent ≤ f.exponentOfRatio num den ∧
      (num / den : ℚ) < 2 * 2 ^ f.fractionBits * 2 ^ f.exponentOfRatio num den ∧
      (f.minExponent < f.exponentOfRatio num den →
        2 ^ f.fractionBits * 2 ^ f.exponentOfRatio num den ≤ (num / den : ℚ)) := by
  obtain ⟨hlow, hhigh⟩ := log2_quotient_bounds hnum hden
  -- the exponent before it is cut off below
  obtain ⟨e, he, helow, hehigh⟩ : ∃ e, f.exponentOfRatio num den = max f.minExponent e ∧
      (2 : ℚ) ^ (e + f.fractionBits) ≤ num / den ∧ (num / den : ℚ) < 2 ^ (e + f.fractionBits + 1) := by
    let guess : ℤ := (num.log2 : ℤ) - den.log2 - f.fractionBits
    have hexponent : f.exponentOfRatio num den = max f.minExponent
        (if (scaleDown num den guess).1 < (scaleDown num den guess).2 * 2 ^ f.fractionBits then guess - 1
          else guess) := rfl
    have hguess : guess + f.fractionBits = (num.log2 : ℤ) - den.log2 := by omega
    refine ⟨_, hexponent, ?_⟩
    by_cases hsmall : (scaleDown num den guess).1 < (scaleDown num den guess).2 * 2 ^ f.fractionBits
    · rw [if_pos hsmall, sub_add_eq_add_sub, hguess, sub_add_cancel]
      rw [scaleDown_lt_iff hden, hguess] at hsmall
      exact ⟨hlow, hsmall⟩
    · rw [if_neg hsmall, hguess]
      rw [scaleDown_lt_iff hden, hguess, not_lt] at hsmall
      exact ⟨hsmall, hhigh⟩
  rw [he, mul_assoc, two_pow_mul_zpow, ← two_zpow_succ]
  refine ⟨le_max_left _ _, hehigh.trans_le ?_, fun hlt => ?_⟩
  · exact zpow_le_zpow_right₀ (by norm_num) (by omega)
  · rw [max_eq_right (by omega)]
    exact helow

/-! ## The nearest rank -/

/-- The rank that is `m` steps into a binade is followed by a step of at least the unit of the binade. -/
lemma value_succ_of_binade {k m : Nat} (hk : k = 0 ∨ 2 ^ f.fractionBits ≤ m)
    (hm : m ≤ 2 * 2 ^ f.fractionBits) :
    (m + 1) * 2 ^ (f.minExponent + k) ≤ f.value (k * 2 ^ f.fractionBits + m + 1) := by
  have hexponent : f.minExponent + k ≤ f.exponent (k * 2 ^ f.fractionBits + m) := by
    rw [exponent, add_le_add_iff_left, Nat.cast_le]
    rcases hk with rfl | hk
    · exact Nat.zero_le _
    · refine Nat.le_sub_of_add_le ((Nat.le_div_iff_mul_le (Nat.two_pow_pos _)).mpr ?_)
      rw [Nat.succ_mul]
      exact Nat.add_le_add_left hk _
  rw [value_succ, value_of_binade hk hm, add_mul, one_mul]
  exact add_le_add_right (zpow_le_zpow_right₀ (by norm_num) hexponent) _

/-- A number that is rounded to `m` units of its binade rounds to the rank that is `m` steps into it. -/
lemma rounds_of_binade {k m : Nat} {q : ℚ} (hbits : 0 < f.fractionBits)
    (hlow : k = 0 ∨ (2 : ℚ) ^ f.fractionBits * 2 ^ (f.minExponent + k) ≤ q)
    (hhigh : q < 2 * 2 ^ f.fractionBits * 2 ^ (f.minExponent + k))
    (habove : 2 * q ≤ (2 * m + 1) * 2 ^ (f.minExponent + k))
    (hbelow : 2 * m * 2 ^ (f.minExponent + k) ≤ 2 * q + 2 ^ (f.minExponent + k))
    (hodd : m % 2 = 1 → 2 * q < (2 * m + 1) * 2 ^ (f.minExponent + k) ∧
      2 * m * 2 ^ (f.minExponent + k) < 2 * q + 2 ^ (f.minExponent + k)) :
    f.Rounds (k * 2 ^ f.fractionBits + m) q := by
  have hunit : (0 : ℚ) < 2 ^ (f.minExponent + k) := two_zpow_pos _
  have hm : m ≤ 2 * 2 ^ f.fractionBits := by
    have hlt : (2 * m : ℚ) < 4 * 2 ^ f.fractionBits + 1 :=
      lt_of_mul_lt_mul_right (by linarith) hunit.le
    have hlt' : 2 * m < 4 * 2 ^ f.fractionBits + 1 := by exact_mod_cast hlt
    omega
  have hk : k = 0 ∨ 2 ^ f.fractionBits ≤ m := hlow.imp_right fun hq => by
    have hle : (2 * 2 ^ f.fractionBits : ℚ) ≤ 2 * m + 1 :=
      le_of_mul_le_mul_right (by linarith) hunit
    have hle' : 2 * 2 ^ f.fractionBits ≤ 2 * m + 1 := by exact_mod_cast hle
    omega
  have hparity : (k * 2 ^ f.fractionBits + m) % 2 = m % 2 := by
    obtain ⟨b, hb⟩ := Nat.exists_eq_succ_of_ne_zero hbits.ne'
    rw [hb, Nat.pow_succ, ← Nat.mul_assoc, Nat.mul_comm _ 2, Nat.mul_add_mod]
  have hvalue : f.value (k * 2 ^ f.fractionBits + m) = m * 2 ^ (f.minExponent + k) := value_of_binade hk hm
  have hsucc := value_succ_of_binade (f := f) hk hm
  -- the rank below is in the same binade, unless this one is the first of it
  have hpred : ∀ s, k * 2 ^ f.fractionBits + m = s + 1 →
      f.value s = (m - 1) * 2 ^ (f.minExponent + k) ∨
        f.value s < m * 2 ^ (f.minExponent + k) ∧ (m : ℚ) * 2 ^ (f.minExponent + k) ≤ q := by
    intro s hs
    rcases hlow with rfl | hq
    · obtain ⟨i, rfl⟩ : ∃ i, m = i + 1 := ⟨m - 1, by omega⟩
      obtain rfl : s = 0 * 2 ^ f.fractionBits + i := by omega
      refine .inl ?_
      rw [value_of_binade (.inl rfl) (by omega)]
      push_cast
      ring
    · rcases Nat.lt_or_ge (2 ^ f.fractionBits) m with hlt | hge
      · obtain ⟨i, rfl⟩ : ∃ i, m = i + 1 := ⟨m - 1, by omega⟩
        obtain rfl : s = k * 2 ^ f.fractionBits + i := by omega
        refine .inl ?_
        rw [value_of_binade (.inr (by omega)) (by omega)]
        push_cast
        ring
      · have hle : (m : ℚ) ≤ 2 ^ f.fractionBits := by exact_mod_cast hge
        refine .inr ⟨?_, (mul_le_mul_of_nonneg_right hle hunit.le).trans hq⟩
        rw [← hvalue, hs]
        exact f.value_strictMono (Nat.lt_succ_self s)
  refine ⟨fun s hs => ?_, fun s hs hr => ?_, ?_, fun hr => ?_⟩
  · rw [hvalue]
    rcases hpred s hs with h | ⟨h, h'⟩ <;> linarith
  · rw [hvalue]
    rw [hparity] at hr
    rcases hpred s hs with h | ⟨h, h'⟩ <;> linarith [(hodd hr).2]
  · rw [hvalue]
    linarith
  · rw [hvalue]
    rw [hparity] at hr
    linarith [(hodd hr).1]

/-- Rounding finds the rank to which a quotient rounds. -/
theorem rounds_rankOfRatio (f : Format) (hbits : 0 < f.fractionBits) (num : Nat) {den : Nat} (hden : 0 < den) :
    f.Rounds (f.rankOfRatio num den) (num / den) := by
  rcases Nat.eq_zero_or_pos num with rfl | hnum
  · rw [rankOfRatio, if_pos rfl, Nat.cast_zero, zero_div, ← f.value_zero]
    exact f.rounds_value 0
  -- the exponent is chosen so that the scaled number has as many digits as the format
  obtain ⟨hmin, hhigh, hlow⟩ := f.exponentOfRatio_spec hnum hden
  have hrank : f.rankOfRatio num den =
      (f.exponentOfRatio num den - f.minExponent).toNat * 2 ^ f.fractionBits +
        roundHalfEven (scaleDown num den (f.exponentOfRatio num den)).1
          (scaleDown num den (f.exponentOfRatio num den)).2 := if_neg hnum.ne'
  rw [hrank]
  have hscale := scaleDown_spec num hden (f.exponentOfRatio num den)
  obtain ⟨habove, hbelow, hodd⟩ := roundHalfEven_near (scaleDown num den (f.exponentOfRatio num den)).1
    (scaleDown_pos num hden (f.exponentOfRatio num den))
  generalize roundHalfEven _ _ = m at *
  generalize f.exponentOfRatio num den = e at *
  obtain ⟨k, rfl⟩ : ∃ k : Nat, e = f.minExponent + k := ⟨(e - f.minExponent).toNat, by omega⟩
  rw [← hscale] at hhigh hlow ⊢
  generalize ((scaleDown num den (f.minExponent + k)).1 : ℚ) / (scaleDown num den (f.minExponent + k)).2 = x at *
  have hunit : (0 : ℚ) < 2 ^ (f.minExponent + k) := two_zpow_pos _
  rw [show (f.minExponent + k - f.minExponent).toNat = k by omega]
  -- what is nearest to the scaled number is nearest to the number, which is as many units
  refine rounds_of_binade hbits ?_ hhigh ?_ ?_ fun h => ⟨?_, ?_⟩
  · rcases Nat.eq_zero_or_pos k with rfl | hk
    · exact .inl rfl
    · exact .inr (hlow (by omega))
  · rw [← mul_assoc]
    exact mul_le_mul_of_nonneg_right habove hunit.le
  · nlinarith [mul_le_mul_of_nonneg_right hbelow hunit.le]
  · rw [← mul_assoc]
    exact mul_lt_mul_of_pos_right (hodd h).1 hunit
  · nlinarith [mul_lt_mul_of_pos_right (hodd h).2 hunit]

end FeatureFlags.Format
