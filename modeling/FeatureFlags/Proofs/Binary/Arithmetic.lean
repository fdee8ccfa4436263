import FeatureFlags.Proofs.Binary.Values
import FeatureFlags.Json.Number

/-!
# Rounded arithmetic

An operation gives the number to which its exact result rounds (`Binary.mul_eq`, `Binary.div_eq`,
`Binary.convert_eq`). A significand that a double holds, times a power of ten that a double holds, is therefore
rounded only once: such a decimal is read as the nearest double (`Json.doubleOfParts?_eq`).
-/

namespace FeatureFlags

namespace Format

variable {f : Format}

/-! ## Units -/

/-- Greater ranks have greater exponents, so rounding errors grow with the numbers. -/
lemma exponent_mono (f : Format) {r s : Nat} (h : r ≤ s) : f.exponent r ≤ f.exponent s := by
  have hdiv : r / 2 ^ f.fractionBits ≤ s / 2 ^ f.fractionBits := Nat.div_le_div_right h
  rw [exponent, exponent, add_le_add_iff_left, Nat.cast_le]
  omega

lemma minExponent_le (f : Format) (r : Nat) : f.minExponent ≤ f.exponent r := by
  rw [exponent]
  omega

/-- The significand of a number is full, or its unit is the smallest one. -/
lemma unit_le_value (f : Format) (r : Nat) :
    2 ^ f.fractionBits * 2 ^ f.exponent r ≤ f.value r ∨ f.exponent r = f.minExponent := by
  rcases f.exists_binade r with h | ⟨k, m, hm, rfl⟩
  · exact .inr (exponent_of_lt h)
  · refine .inl ?_
    rw [value, significand_of_binade f k hm]
    push_cast
    exact mul_le_mul_of_nonneg_right (le_add_of_nonneg_right m.cast_nonneg) (two_zpow_pos _).le

/-- A number is at most half a unit away from what rounds to it. -/
lemma Rounds.near {r : Nat} {q : ℚ} (hr : 0 < r) (h : f.Rounds r q) :
    |q - f.value r| ≤ 2 ^ f.exponent r / 2 := by
  obtain ⟨s, rfl⟩ : ∃ s, r = s + 1 := ⟨r - 1, by omega⟩
  have hbelow := h.below s rfl
  have habove := h.above
  have hunit : (2 : ℚ) ^ f.exponent s ≤ 2 ^ f.exponent (s + 1) :=
    zpow_le_zpow_right₀ (by norm_num) (f.exponent_mono (Nat.le_succ s))
  rw [value_succ f (s + 1)] at habove
  have hstep := f.value_succ s
  rw [abs_le]
  constructor <;> linarith

end Format

namespace Binary

open Format

variable {f g : Format}

/-! ## Operations -/

/-- Below the rank of infinity the number of a rank is finite. -/
lemma ofRank_of_lt {s : Bool} {r : Nat} (hr : r < f.infinityRank) :
    (ofRank s r : Binary f) = signed s ⟨r, by omega⟩ := by
  rw [ofRank]
  congr 2
  exact Nat.min_eq_left hr.le

section

variable (hbits : 0 < f.fractionBits)
include hbits

/-- A quotient is rounded to the rank that `Rounds` names. -/
lemma ofRatio_eq {s : Bool} {num den r : Nat} (hden : 0 < den) (h : f.Rounds r (num / den)) :
    (ofRatio s num den : Binary f) = ofRank s r := by
  rw [ofRatio, (f.rounds_rankOfRatio hbits num hden).unique h]

/-- A natural number that is the value of a rank is that number. -/
lemma ofNat_eq {n r : Nat} (h : f.value r = n) : (ofNat n : Binary f) = ofRank false r := by
  refine ofRatio_eq hbits Nat.one_pos ?_
  rw [Nat.cast_one, div_one, ← h]
  exact f.rounds_value r

/-- A number times a power of two is rounded to the rank that `Rounds` names. -/
lemma ofScaled_eq {s : Bool} {n r : Nat} {e : ℤ} (h : f.Rounds r (n * 2 ^ e)) :
    (ofScaled s n e : Binary f) = ofRank s r := by
  rw [ofScaled]
  split_ifs with he
  · obtain ⟨k, rfl⟩ := Int.eq_ofNat_of_zero_le he
    refine ofRatio_eq hbits Nat.one_pos ?_
    rw [zpow_natCast] at h
    rw [Int.toNat_natCast, Nat.cast_one, div_one]
    exact_mod_cast h
  · obtain ⟨k, hk⟩ := Int.eq_ofNat_of_zero_le (show 0 ≤ -e by omega)
    obtain rfl : e = -(k : ℤ) := by omega
    refine ofRatio_eq hbits (Nat.two_pow_pos _) ?_
    rw [zpow_neg, zpow_natCast, ← div_eq_mul_inv] at h
    rw [neg_neg, Int.toNat_natCast]
    exact_mod_cast h

/-- A product is the number to which the exact product rounds. -/
theorem mul_eq {s t : Bool} {a b : Fin (f.infinityRank + 1)} {r : Nat} (ha : a.val < f.infinityRank)
    (hb : b.val < f.infinityRank) (h : f.Rounds r (f.value a * f.value b)) :
    (signed s a : Binary f).mul (signed t b) = ofRank (s != t) r := by
  rw [mul, if_neg (by omega)]
  refine ofScaled_eq hbits ?_
  rw [value, value] at h
  rw [zpow_add₀ (by norm_num)]
  push_cast
  convert h using 1
  ring

/-- A quotient is the number to which the exact quotient rounds. -/
theorem div_eq {s t : Bool} {a b : Fin (f.infinityRank + 1)} {r : Nat} (ha : a.val < f.infinityRank)
    (hb : b.val < f.infinityRank) (hpos : 0 < b.val) (h : f.Rounds r (f.value a / f.value b)) :
    (signed s a : Binary f).div (signed t b) = ofRank (s != t) r := by
  have hsignificand : 0 < f.significand b := by
    rw [significand]
    split_ifs
    · exact hpos
    · exact Nat.lt_of_lt_of_le (Nat.two_pow_pos _) (Nat.le_add_right _ _)
  -- the quotient of the significands is scaled by the difference of the exponents
  have hquotient : f.value a / f.value b =
      f.significand a / f.significand b * 2 ^ (f.exponent a - f.exponent b) := by
    rw [value, value, mul_div_mul_comm, zpow_sub₀ (by norm_num)]
  rw [hquotient] at h
  rw [div, if_neg ha.ne, if_neg hb.ne, if_neg hpos.ne']
  dsimp only
  generalize f.exponent a - f.exponent b = e at *
  -- the scale goes to the numerator or to the denominator
  split_ifs with he
  · obtain ⟨k, rfl⟩ := Int.eq_ofNat_of_zero_le he
    refine ofRatio_eq hbits hsignificand ?_
    rw [zpow_natCast, div_mul_eq_mul_div] at h
    rw [Int.toNat_natCast]
    exact_mod_cast h
  · obtain ⟨k, hk⟩ := Int.eq_ofNat_of_zero_le (show 0 ≤ -e by omega)
    obtain rfl : e = -(k : ℤ) := by omega
    refine ofRatio_eq hbits (Nat.mul_pos hsignificand (Nat.two_pow_pos _)) ?_
    rw [zpow_neg, zpow_natCast, ← div_eq_mul_inv, div_div] at h
    rw [neg_neg, Int.toNat_natCast]
    exact_mod_cast h

end

/-- A number is converted to the one to which its value rounds. -/
theorem convert_eq (hbits : 0 < g.fractionBits) {s : Bool} {a : Fin (f.infinityRank + 1)} {r : Nat}
    (ha : a.val < f.infinityRank) (h : g.Rounds r (f.value a)) :
    (signed s a : Binary f).convert = (ofRank s r : Binary g) := by
  rw [convert, if_neg ha.ne]
  exact ofScaled_eq hbits h

end Binary

/-! ## Decimals with small parts -/

namespace Json

open Format Binary

/-- The powers of ten up to the 22nd are doubles. -/
lemma exists_value_powerOfTen {n : Nat} (hn : n ≤ 22) :
    ∃ t, 0 < t ∧ t < double.infinityRank ∧ double.value t = 10 ^ n := by
  have hfive : 5 ^ n ≤ 2 * 2 ^ double.fractionBits := (Nat.pow_le_pow_right (by decide) hn).trans (by decide)
  have hmin : double.minExponent ≤ (n : ℤ) :=
    (show double.minExponent ≤ 0 by decide).trans (Int.natCast_nonneg n)
  obtain ⟨t, ht⟩ := double.exists_value hfive hmin
  have hvalue : double.value t = 10 ^ n := by
    rw [ht, zpow_natCast, Nat.cast_pow, ← mul_pow]
    norm_num
  refine ⟨t, Nat.pos_of_ne_zero ?_, ?_, hvalue⟩
  · rintro rfl
    rw [value_zero] at hvalue
    exact absurd hvalue.symm (by positivity)
  · rw [← double.value_strictMono.lt_iff_lt, hvalue, value_infinityRank_double]
    calc (10 : ℚ) ^ n ≤ 10 ^ 22 := pow_le_pow_right₀ (by norm_num) hn
      _ < 2 ^ 74 := by norm_num
      _ < 2 ^ 1024 := pow_lt_pow_right₀ (by norm_num) (by norm_num)

/-- A significand and a power of ten that both are doubles are read as the nearest double. -/
theorem doubleOfParts?_eq {negative : Bool} {n a r : Nat} {e : ℤ} (hn : double.value a = n)
    (ha : a < double.infinityRank) (he : e.natAbs ≤ 22) (h : double.Rounds r (n * 10 ^ e))
    (hr : r < double.infinityRank) : doubleOfParts? negative ⟨n, e⟩ = some (ofRank negative r) := by
  have hbits : 0 < double.fractionBits := by decide
  have hsign : ∀ x : Double, x = ofRank false r →
      (if negative then x.neg else x) = ofRank negative r := by
    rintro _ rfl
    cases negative <;> rfl
  obtain ⟨t, htpos, ht, hpower⟩ := exists_value_powerOfTen he
  -- both the digits and the power of ten are doubles, so only the product is rounded
  have hten : powerOfTen e.natAbs = signed false ⟨t, by omega⟩ := by
    rw [powerOfTen, ofNat_eq hbits (r := t) (by rw [hpower]; push_cast; rfl), ofRank_of_lt ht]
  have hmantissa : (ofNat n : Double) = signed false ⟨a, by omega⟩ := by
    rw [ofNat_eq hbits hn, ofRank_of_lt ha]
  rw [← hn] at h
  by_cases hnonneg : 0 ≤ e
  · have habs : e.toNat = e.natAbs := by omega
    have hexp : (10 : ℚ) ^ e = double.value t := by
      rw [hpower, ← zpow_natCast, Int.natAbs_of_nonneg hnonneg]
    rw [hexp] at h
    have hproduct : (ofNat n : Double).mul (powerOfTen e.natAbs) = ofRank false r := by
      rw [hmantissa, hten]
      exact mul_eq hbits ha ht h
    have hfinite : (ofRank false r : Double).isInfinite = false := by
      rw [ofRank_of_lt hr, isInfinite]
      exact beq_eq_false_iff_ne.mpr hr.ne
    rw [doubleOfParts?]
    simp only [if_pos hnonneg, habs, multiplyByPower?, if_pos (show e.natAbs ≤ 308 by omega), hproduct, hfinite,
      Bool.false_eq_true, if_false, Option.map_some, hsign _ rfl]
  · have habs : (-e).toNat = e.natAbs := by omega
    have hexp : (10 : ℚ) ^ e = (double.value t)⁻¹ := by
      rw [hpower, ← zpow_natCast, ← zpow_neg]
      congr 1
      omega
    rw [hexp, ← div_eq_mul_inv] at h
    have hquotient : (ofNat n : Double).div (powerOfTen e.natAbs) = ofRank false r := by
      rw [hmantissa, hten]
      exact div_eq hbits ha ht htpos h
    have hdivide : divideByPower (ofNat n) e.natAbs = ofRank false r := by
      rw [divideByPower, if_pos (by omega), hquotient]
    rw [doubleOfParts?]
    simp only [if_neg hnonneg, habs, hdivide, Option.map_some, hsign _ rfl]

end Json
end FeatureFlags
