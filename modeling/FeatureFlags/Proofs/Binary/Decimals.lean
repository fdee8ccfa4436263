import FeatureFlags.Binary.Shortest
import FeatureFlags.Proofs.Binary.Arithmetic
import Mathlib.Data.Rat.Floor

/-!
# Shortest decimals

`Format.shortest` searches the grids of powers of ten from coarse to fine. The interval it searches holds
exactly the numbers that round to the given one (`holds_iff_rounds`), a grid is left only if it has no point in
the interval (`pointOnGrid?_eq_none`), and the search ends before its steps do. So the decimal it finds rounds
to the number, and no coarser grid has one that does (`shortest_spec`).

Decimals with less digits than the format are far from each other: the shortest decimal of the number nearest
to such a decimal is this decimal (`shortest_value_of_few_digits`).
-/

namespace FeatureFlags

/-- The value of a decimal. -/
def Decimal.value (d : Decimal) : ℚ := d.digits * 10 ^ d.exponent

lemma ten_zpow_pos (k : ℤ) : (0 : ℚ) < 10 ^ k := zpow_pos (by norm_num) k

namespace Decimal

/-- A decimal that is positive has digits. -/
lemma digits_pos {d : Decimal} (h : 0 < d.value) : 0 < d.digits := by
  refine Nat.pos_of_ne_zero fun hzero => ?_
  rw [value, hzero, Nat.cast_zero, zero_mul] at h
  exact h.false

/-- The last digit of a decimal is at most all of it. -/
lemma zpow_exponent_le {d : Decimal} (hd : 0 < d.digits) : (10 : ℚ) ^ d.exponent ≤ d.value :=
  le_mul_of_one_le_left (ten_zpow_pos _).le (Nat.one_le_cast.mpr hd)

/-- The exponent of a decimal is bounded by its size. -/
lemma exponent_lt {d : Decimal} {n : Nat} (hd : 0 < d.digits) (h : d.value < 10 ^ n) : d.exponent < n := by
  rw [← zpow_natCast] at h
  exact (zpow_lt_zpow_iff_right₀ (by norm_num : (1 : ℚ) < 10)).mp ((zpow_exponent_le hd).trans_lt h)

/-- Of two decimals with one value the coarser one has the smaller digits. -/
lemma digits_le_of_value_eq {d d' : Decimal} (h : d.value = d'.value) (hexponent : d'.exponent ≤ d.exponent) :
    d.digits ≤ d'.digits := by
  have hscale : (10 : ℚ) ^ d'.exponent ≤ 10 ^ d.exponent := zpow_le_zpow_right₀ (by norm_num) hexponent
  have hle : (d.digits : ℚ) * 10 ^ d'.exponent ≤ d'.digits * 10 ^ d'.exponent := by
    rw [← value, ← h]
    exact mul_le_mul_of_nonneg_left hscale d.digits.cast_nonneg
  exact_mod_cast le_of_mul_le_mul_right hle (ten_zpow_pos _)

end Decimal

namespace Format

variable {f : Format}

/-! ## Powers of two and of ten -/

/-- Two quotients close to `log 2 / log 10` decide for small exponents. -/
lemma ten_zpow_le_two_zpow {a b : ℤ} (h : 196 * a ≤ 59 * b) (h' : 93 * a ≤ 28 * b) :
    (10 : ℚ) ^ a ≤ 2 ^ b := by
  -- the sign of the exponent decides which of the two bounds is used
  rcases le_total 0 a with ha | ha
  · obtain ⟨m, rfl⟩ := Int.eq_ofNat_of_zero_le ha
    obtain ⟨n, rfl⟩ := Int.eq_ofNat_of_zero_le (show 0 ≤ b by omega)
    -- `10 ^ 59 ≤ 2 ^ 196` bounds a power of ten from above
    rw [zpow_natCast, zpow_natCast,
      ← pow_le_pow_iff_left₀ (by positivity) (by positivity) (show 59 ≠ 0 by decide)]
    calc ((10 : ℚ) ^ m) ^ 59 = (10 ^ 59) ^ m := by rw [← pow_mul, ← pow_mul, Nat.mul_comm]
      _ ≤ (2 ^ 196) ^ m := pow_le_pow_left₀ (by positivity) (by norm_num) m
      _ = 2 ^ (196 * m) := by rw [← pow_mul]
      _ ≤ 2 ^ (n * 59) := pow_le_pow_right₀ (by norm_num) (by omega)
      _ = (2 ^ n) ^ 59 := pow_mul _ _ _
  · rcases le_total 0 b with hb | hb
    · exact (zpow_le_one_of_nonpos₀ (by norm_num) ha).trans (one_le_zpow₀ (by norm_num) hb)
    · obtain ⟨m, hm⟩ := Int.eq_ofNat_of_zero_le (show 0 ≤ -a by omega)
      obtain ⟨n, hn⟩ := Int.eq_ofNat_of_zero_le (show 0 ≤ -b by omega)
      obtain rfl : a = -(m : ℤ) := by omega
      obtain rfl : b = -(n : ℤ) := by omega
      rw [zpow_neg, zpow_neg, zpow_natCast, zpow_natCast]
      refine inv_anti₀ (by positivity) ?_
      -- `2 ^ 93 ≤ 10 ^ 28` bounds it from below
      rw [← pow_le_pow_iff_left₀ (by positivity) (by positivity) (show 93 ≠ 0 by decide)]
      calc ((2 : ℚ) ^ n) ^ 93 = (2 ^ 93) ^ n := by rw [← pow_mul, ← pow_mul, Nat.mul_comm]
        _ ≤ (10 ^ 28) ^ n := pow_le_pow_left₀ (by positivity) (by norm_num) n
        _ = 10 ^ (28 * n) := by rw [← pow_mul]
        _ ≤ 10 ^ (m * 93) := pow_le_pow_right₀ (by norm_num) (by omega)
        _ = (10 ^ m) ^ 93 := pow_mul _ _ _

/-- Powers of two below powers of ten: `196 / 59` is just below the logarithm of ten, and `93 / 28` is the
same for small exponents. -/
lemma two_zpow_le_ten_zpow {a b : ℤ} (h : 59 * a ≤ 196 * b) (h' : 28 * a ≤ 93 * b) :
    (2 : ℚ) ^ a ≤ 10 ^ b := by
  have hinv : (10 : ℚ) ^ (-b) ≤ 2 ^ (-a) := ten_zpow_le_two_zpow (by omega) (by omega)
  rw [zpow_neg, zpow_neg] at hinv
  exact (inv_le_inv₀ (ten_zpow_pos _) (two_zpow_pos _)).mp hinv

/-- The guess at the decimal magnitude of a power of two is at most one off to either side. -/
lemma magnitude_bounds {t : ℤ} (ht : t.natAbs ≤ 1200) :
    (10 : ℚ) ^ (t * 30103 / 100000 - 1) ≤ 2 ^ t ∧ (2 : ℚ) ^ t ≤ 10 ^ (t * 30103 / 100000 + 2) :=
  ⟨ten_zpow_le_two_zpow (by omega) (by omega), two_zpow_le_ten_zpow (by omega) (by omega)⟩

/-! ## Grids -/

lemma zpow_mul_pow_toNat {a : ℚ} (ha : a ≠ 0) (e : ℤ) : a ^ e * a ^ (-e).toNat = a ^ e.toNat := by
  rw [← zpow_natCast, ← zpow_natCast, ← zpow_add₀ ha]
  congr 1
  omega

/-- Both factors of a grid are positive, so comparisons may be multiplied by them. -/
lemma gridFactors_pos (e k : ℤ) : 0 < (gridFactors e k).1 ∧ 0 < (gridFactors e k).2 :=
  ⟨Nat.mul_pos (Nat.two_pow_pos _) (Nat.pow_pos (by decide)),
    Nat.mul_pos (Nat.two_pow_pos _) (Nat.pow_pos (by decide))⟩

/-- The factors turn a comparison of powers of two and ten into one of natural numbers. -/
lemma gridFactors_spec (e k : ℤ) : ((gridFactors e k).1 : ℚ) * 10 ^ k = (gridFactors e k).2 * 2 ^ e := by
  have htwo := zpow_mul_pow_toNat (show (2 : ℚ) ≠ 0 by norm_num) e
  have hten := zpow_mul_pow_toNat (show (10 : ℚ) ≠ 0 by norm_num) k
  rw [gridFactors]
  push_cast
  rw [← htwo, ← hten]
  ring

lemma mul_fst_mul (e k : ℤ) (x : Nat) :
    (x * 2 ^ e : ℚ) * (gridFactors e k).2 = x * (gridFactors e k).1 * 10 ^ k := by
  rw [mul_assoc (x : ℚ) (gridFactors e k).1, gridFactors_spec]
  ring

/-- A point of the grid `10 ^ k` compared with a multiple of `2 ^ e`. -/
lemma grid_le_iff (e k : ℤ) (x d : Nat) :
    d * (gridFactors e k).2 ≤ x * (gridFactors e k).1 ↔ (d * 10 ^ k : ℚ) ≤ x * 2 ^ e := by
  have hq : (0 : ℚ) < (gridFactors e k).2 := Nat.cast_pos.mpr (gridFactors_pos e k).2
  rw [← mul_le_mul_iff_left₀ hq, mul_fst_mul, mul_right_comm, mul_le_mul_iff_left₀ (ten_zpow_pos k)]
  exact_mod_cast Iff.rfl

/-- A comparison from below, by natural numbers and by values. -/
lemma le_grid_iff (e k : ℤ) (x d : Nat) :
    x * (gridFactors e k).1 ≤ d * (gridFactors e k).2 ↔ (x * 2 ^ e : ℚ) ≤ d * 10 ^ k := by
  have hq : (0 : ℚ) < (gridFactors e k).2 := Nat.cast_pos.mpr (gridFactors_pos e k).2
  rw [← mul_le_mul_iff_left₀ hq, mul_fst_mul, mul_right_comm (d : ℚ), mul_le_mul_iff_left₀ (ten_zpow_pos k)]
  exact_mod_cast Iff.rfl

/-! ## Intervals -/

namespace RoundingInterval

/-- A rational number lies in the interval. -/
def Holds (i : RoundingInterval) (x : ℚ) : Prop :=
  if i.closed then i.low * 2 ^ i.exponent ≤ x ∧ x ≤ i.high * 2 ^ i.exponent
  else i.low * 2 ^ i.exponent < x ∧ x < i.high * 2 ^ i.exponent

/-- What lies between two numbers of an interval is in it. -/
lemma Holds.between {i : RoundingInterval} {x y z : ℚ} (hx : i.Holds x) (hz : i.Holds z) (hxy : x ≤ y)
    (hyz : y ≤ z) : i.Holds y := by
  rw [Holds] at *
  split_ifs at *
  · exact ⟨hx.1.trans hxy, hyz.trans hz.2⟩
  · exact ⟨hx.1.trans_le hxy, hyz.trans_lt hz.2⟩

/-- The test of an interval on natural numbers decides whether it holds the value. -/
lemma contains_iff (i : RoundingInterval) (k : ℤ) (d : Nat) :
    i.contains (gridFactors i.exponent k).1 (gridFactors i.exponent k).2 d = true ↔ i.Holds (d * 10 ^ k) := by
  rw [contains, Holds]
  split_ifs
  · rw [Bool.and_eq_true, decide_eq_true_eq, decide_eq_true_eq, le_grid_iff, grid_le_iff]
  · rw [Bool.and_eq_true, decide_eq_true_eq, decide_eq_true_eq, ← not_le, ← not_le, le_grid_iff, grid_le_iff,
      not_le, not_le]

/-- The two points of a grid around the number of an interval. -/
lemma neighbours (i : RoundingInterval) (k : ℤ) {below : Nat}
    (h : below = i.mid * (gridFactors i.exponent k).1 / (gridFactors i.exponent k).2) :
    (below * 10 ^ k : ℚ) ≤ i.mid * 2 ^ i.exponent ∧
      (i.mid * 2 ^ i.exponent : ℚ) ≤ (below + 1 : Nat) * 10 ^ k := by
  have hq := (gridFactors_pos i.exponent k).2
  rw [← grid_le_iff, ← le_grid_iff, h]
  exact ⟨Nat.div_mul_le_self _ _, (Nat.lt_mul_of_div_lt (Nat.lt_succ_self _) hq).le⟩

/-- A point that is found on the grid is in the interval. -/
lemma holds_of_pointOnGrid? {i : RoundingInterval} {k : ℤ} {d : Nat} (h : i.pointOnGrid? k = some d) :
    i.Holds (d * 10 ^ k) := by
  rw [← contains_iff]
  rw [pointOnGrid?] at h
  dsimp only at h
  split at h
  · rename_i hbelow habove
    cases h
    split_ifs <;> assumption
  · cases h
    assumption
  · cases h
    assumption
  · cases h

/-- A grid that is left has no point in the interval. -/
theorem pointOnGrid?_eq_none {i : RoundingInterval} {k : ℤ} (hmid : i.Holds (i.mid * 2 ^ i.exponent))
    (h : i.pointOnGrid? k = none) (d : Nat) : ¬ i.Holds (d * 10 ^ k) := by
  obtain ⟨hbelow, habove⟩ := i.neighbours k rfl
  intro hd
  rw [pointOnGrid?] at h
  dsimp only at h
  split at h
  · cases h
  · cases h
  · cases h
  · rename_i hnotBelow hnotAbove
    generalize i.mid * (gridFactors i.exponent k).1 / (gridFactors i.exponent k).2 = below at *
    rcases Nat.lt_or_ge below d with hlt | hge
    · have hle : ((below + 1 : Nat) : ℚ) ≤ d := by exact_mod_cast hlt
      have hin := hmid.between hd habove (mul_le_mul_of_nonneg_right hle (ten_zpow_pos k).le)
      exact absurd ((i.contains_iff k _).mpr hin) (by rw [hnotAbove]; exact Bool.false_ne_true)
    · have hle : (d : ℚ) ≤ below := by exact_mod_cast hge
      have hin := hd.between hmid (mul_le_mul_of_nonneg_right hle (ten_zpow_pos k).le) hbelow
      exact absurd ((i.contains_iff k _).mpr hin) (by rw [hnotBelow]; exact Bool.false_ne_true)

/-- The search finds a point, on the coarsest grid that has one. -/
lemma coarsest_spec {i : RoundingInterval} (hmid : i.Holds (i.mid * 2 ^ i.exponent)) {steps : Nat}
    {k k' : ℤ} {d : Nat} (hd : i.Holds (d * 10 ^ k')) (hle : k' ≤ k) (hsteps : k < k' + steps) :
    i.Holds (i.coarsest steps k).value ∧ k' ≤ (i.coarsest steps k).exponent := by
  induction steps generalizing k with
  | zero => exact absurd hsteps (by omega)
  | succ steps ih =>
    rw [coarsest]
    split
    · rename_i c hc
      exact ⟨holds_of_pointOnGrid? hc, hle⟩
    · rename_i hnone
      have hne : k' ≠ k := by
        rintro rfl
        exact pointOnGrid?_eq_none hmid hnone d hd
      exact ih (by omega) (by omega)

end RoundingInterval

/-- The significand of a rank is even if the rank is. -/
lemma significand_mod_two (hbits : 0 < f.fractionBits) (r : Nat) : f.significand r % 2 = r % 2 := by
  have heven : 2 ∣ 2 ^ f.fractionBits := dvd_pow_self 2 hbits.ne'
  rw [significand]
  split_ifs
  · rfl
  · rw [Nat.add_mod, Nat.mod_eq_zero_of_dvd heven, Nat.zero_add, Nat.mod_mod, Nat.mod_mod_of_dvd _ heven]

lemma significand_pos {r : Nat} (hr : 0 < r) : 0 < f.significand r := by
  rw [significand]
  split_ifs
  · exact hr
  · exact Nat.lt_of_lt_of_le (Nat.two_pow_pos _) (Nat.le_add_right _ _)

/-- A significand has at most one bit more than the fraction. -/
lemma significand_lt (f : Format) (r : Nat) : f.significand r < 2 ^ (f.fractionBits + 1) := by
  have hmod := Nat.mod_lt r (Nat.two_pow_pos f.fractionBits)
  rw [significand, Nat.pow_succ]
  split_ifs <;> omega

/-- The unit below a number is half of the unit above it at the start of a binade, and the same elsewhere. -/
lemma two_mul_unit_pred (f : Format) (s : Nat) :
    2 * (2 : ℚ) ^ f.exponent s =
      (if f.significand (s + 1) = 2 ^ f.fractionBits ∧ s + 1 ≠ 2 ^ f.fractionBits then 1 else 2) *
        2 ^ f.exponent (s + 1) := by
  rcases f.exists_binade (s + 1) with h | ⟨k, m, hm, hs⟩
  · rw [if_neg (by rw [significand_of_lt h]; omega), exponent_of_lt h, exponent_of_lt (show s < _ by omega)]
  · rw [hs, significand_of_binade f k hm, exponent_of_binade f k hm]
    -- only at the bottom of a binade does the gap below differ, where it is half as wide
    rcases Nat.eq_zero_or_pos m with rfl | hpos
    · rcases Nat.eq_zero_or_pos k with rfl | hk
      · rw [if_neg (by simp), exponent_of_lt (show s < _ by omega)]
        simp
      -- the rank below is the last of the previous binade
      · obtain ⟨j, rfl⟩ : ∃ j, k = j + 1 := ⟨k - 1, by omega⟩
        have hlt : 2 ^ f.fractionBits - 1 < 2 ^ f.fractionBits := Nat.sub_lt (Nat.two_pow_pos _) Nat.one_pos
        have hpred : s = (j + 1) * 2 ^ f.fractionBits + (2 ^ f.fractionBits - 1) := by
          rw [Nat.succ_mul] at hs
          omega
        have hne : (j + 1 + 1) * 2 ^ f.fractionBits + 0 ≠ 2 ^ f.fractionBits := by
          have := Nat.two_pow_pos f.fractionBits
          rw [Nat.succ_mul, Nat.succ_mul]
          omega
        rw [if_pos ⟨rfl, hne⟩, hpred, exponent_of_binade f j hlt, one_mul, Nat.cast_succ, ← add_assoc,
          two_zpow_succ]
    · obtain ⟨i, rfl⟩ : ∃ i, m = i + 1 := ⟨m - 1, by omega⟩
      obtain rfl : s = (k + 1) * 2 ^ f.fractionBits + i := by omega
      rw [if_neg (by omega), exponent_of_binade f k (show i < _ by omega)]

lemma four_mul_quarter (e : ℤ) : (2 : ℚ) ^ e = 4 * 2 ^ (e - 2) := by
  rw [show e = e - 2 + 1 + 1 by ring, two_zpow_succ, two_zpow_succ]
  ring_nf

/-- The upper end of an interval is half way to the next number. -/
lemma two_mul_high (f : Format) (r : Nat) :
    2 * ((f.roundingInterval r).high * 2 ^ (f.roundingInterval r).exponent : ℚ) =
      f.value r + f.value (r + 1) := by
  rw [value_succ f r, value, four_mul_quarter (f.exponent r), roundingInterval]
  push_cast
  ring

/-- The lower end of an interval is half way to the number before. -/
lemma two_mul_low (f : Format) (s : Nat) :
    2 * ((f.roundingInterval (s + 1)).low * 2 ^ (f.roundingInterval (s + 1)).exponent : ℚ) =
      f.value s + f.value (s + 1) := by
  have hpos := f.significand_pos (show 0 < s + 1 by omega)
  have hunit := f.two_mul_unit_pred s
  have hstep := f.value_succ s
  have hvalue : f.value (s + 1) = f.significand (s + 1) * 2 ^ f.exponent (s + 1) := rfl
  rw [four_mul_quarter (f.exponent (s + 1))] at hunit hvalue
  rw [roundingInterval]
  dsimp only
  split_ifs at hunit ⊢
  · rw [Nat.cast_sub (by omega)]
    push_cast
    linarith
  · rw [Nat.cast_sub (by omega)]
    push_cast
    linarith

/-- The interval of a number holds exactly what rounds to it. -/
theorem holds_iff_rounds (hbits : 0 < f.fractionBits) {r : Nat} (hr : 0 < r) (x : ℚ) :
    (f.roundingInterval r).Holds x ↔ f.Rounds r x := by
  obtain ⟨s, rfl⟩ : ∃ s, r = s + 1 := ⟨r - 1, by omega⟩
  -- both bounds of the interval are midpoints to the neighbours
  have hhigh := f.two_mul_high (s + 1)
  have hlow := f.two_mul_low s
  have hparity : ((f.roundingInterval (s + 1)).closed = true) ↔ (s + 1) % 2 = 0 := by
    rw [roundingInterval, beq_iff_eq, significand_mod_two hbits]
  rw [RoundingInterval.Holds]
  constructor
  -- an even significand takes the midpoints with it
  · intro h
    split_ifs at h with hclosed
    · have hodd : (s + 1) % 2 ≠ 1 := by
        have := hparity.mp hclosed
        omega
      refine ⟨?_, fun _ _ ho => absurd ho hodd, by linarith [h.2], fun ho => absurd ho hodd⟩
      rintro _ ⟨⟩
      linarith [h.1]
    · refine ⟨?_, ?_, by linarith [h.2], fun _ => by linarith [h.2]⟩
      · rintro _ ⟨⟩
        linarith [h.1]
      · rintro _ ⟨⟩ _
        linarith [h.1]
  · intro h
    split_ifs with hclosed
    · exact ⟨by linarith [h.below s rfl], by linarith [h.above]⟩
    · have hodd : (s + 1) % 2 = 1 := by
        have := hparity.not.mp hclosed
        omega
      exact ⟨by linarith [h.belowOdd s rfl hodd], by linarith [h.aboveOdd hodd]⟩

/-! ## The shortest decimal -/

/-- All ranks but zero have positive values. -/
lemma value_pos {r : Nat} (hr : 0 < r) : 0 < f.value r := by
  rw [← f.value_zero]
  exact f.value_strictMono hr

/-- What is rounded to a positive rank is positive. -/
lemma Rounds.pos {r : Nat} {q : ℚ} (hr : 0 < r) (h : f.Rounds r q) : 0 < q := by
  obtain ⟨s, rfl⟩ : ∃ s, r = s + 1 := ⟨r - 1, by omega⟩
  linarith [h.below s rfl, f.value_nonneg s, f.value_pos hr]

/-- The number itself is in its interval. -/
lemma holds_mid (hbits : 0 < f.fractionBits) {r : Nat} (hr : 0 < r) :
    (f.roundingInterval r).Holds ((f.roundingInterval r).mid * 2 ^ (f.roundingInterval r).exponent) := by
  have hmid : ((f.roundingInterval r).mid * 2 ^ (f.roundingInterval r).exponent : ℚ) = f.value r := by
    rw [roundingInterval, value, four_mul_quarter (f.exponent r)]
    push_cast
    ring
  rw [hmid, holds_iff_rounds hbits hr]
  exact f.rounds_value r

/-- A grid that is finer than a quarter of the unit has a point that rounds to the number. -/
lemma exists_rounds_of_grid (f : Format) (r : Nat) {k : ℤ} (hk : (10 : ℚ) ^ k ≤ 2 ^ (f.exponent r - 2)) :
    ∃ d : Nat, f.Rounds r (d * 10 ^ k) := by
  have hten := ten_zpow_pos k
  have hunit := four_mul_quarter (f.exponent r)
  have hsucc := f.value_succ r
  obtain ⟨d, hlow, hhigh⟩ : ∃ d : Nat, f.value r ≤ d * 10 ^ k ∧ (d * 10 ^ k : ℚ) ≤ f.value r + 10 ^ k := by
    refine ⟨⌊f.value r / 10 ^ k⌋₊ + 1, ?_, ?_⟩
    · rw [← div_le_iff₀ hten]
      push_cast
      exact (Nat.lt_floor_add_one _).le
    · push_cast
      rw [add_mul, one_mul]
      refine add_le_add_left ?_ _
      rw [← le_div_iff₀ hten]
      exact Nat.floor_le (div_nonneg (f.value_nonneg r) hten.le)
  exact ⟨d, rounds_of_le_of_lt hlow (by linarith)⟩

/-- The upper end of an interval fits into two bits more than the fraction. -/
lemma high_bounds (f : Format) (r : Nat) :
    0 < (f.roundingInterval r).high ∧ (f.roundingInterval r).high.log2 < f.fractionBits + 3 := by
  have hlt := f.significand_lt r
  have heq : (f.roundingInterval r).high = 4 * f.significand r + 2 := rfl
  have hpos : 0 < (f.roundingInterval r).high := by omega
  refine ⟨hpos, (Nat.log2_lt hpos.ne').mpr ?_⟩
  rw [heq, Nat.pow_succ _ (f.fractionBits + 2), Nat.pow_succ _ (f.fractionBits + 1)]
  omega

/-- No decimal that rounds to a number is on a grid that is much coarser than the number is large. -/
lemma Rounds.exponent_le {r d : Nat} {k g : ℤ} (hr : 0 < r) (h : f.Rounds r (d * 10 ^ k))
    (hg : f.value r + f.value (r + 1) < 2 * 10 ^ (g + 1)) : k ≤ g := by
  have hpos := h.pos hr
  have hd : (1 : ℚ) ≤ d := by
    refine Nat.one_le_cast.mpr (Nat.pos_of_ne_zero ?_)
    rintro rfl
    simp at hpos
  have hlt : (10 : ℚ) ^ k < 10 ^ (g + 1) := by
    linarith [h.above, le_mul_of_one_le_left (ten_zpow_pos k).le hd]
  have := (zpow_lt_zpow_iff_right₀ (by norm_num : (1 : ℚ) < 10)).mp hlt
  omega

/-- A number of grids after that of the guess `g` the steps are fine enough. -/
lemma grid_le_unit {t g e : ℤ} {p : Nat} (hg : (10 : ℚ) ^ (g - 1) ≤ 2 ^ t) (ht : t ≤ e + p + 3) :
    (10 : ℚ) ^ (g - 2 - p) ≤ 2 ^ e := by
  have height : (2 : ℚ) ^ (p + 3) ≤ 10 ^ (p + 1) := by
    calc (2 : ℚ) ^ (p + 3) ≤ 2 ^ (3 * (p + 1)) := pow_le_pow_right₀ (by norm_num) (by omega)
      _ = (2 ^ 3) ^ (p + 1) := pow_mul _ _ _
      _ ≤ 10 ^ (p + 1) := pow_le_pow_left₀ (by norm_num) (by norm_num) _
  refine le_of_mul_le_mul_right ?_ (show (0 : ℚ) < 10 ^ (p + 1) by positivity)
  calc (10 : ℚ) ^ (g - 2 - p) * 10 ^ (p + 1) = 10 ^ (g - 1) := by
        rw [← zpow_natCast, ← zpow_add₀ (by norm_num)]
        congr 1
        push_cast
        ring
    _ ≤ 2 ^ t := hg
    _ ≤ 2 ^ (e + p + 3) := zpow_le_zpow_right₀ (by norm_num) ht
    _ = 2 ^ e * 2 ^ (p + 3) := by
        rw [← zpow_natCast, ← zpow_add₀ (by norm_num), add_assoc]
        rfl
    _ ≤ 2 ^ e * 10 ^ (p + 1) := mul_le_mul_of_nonneg_left height (two_zpow_pos _).le

/-- The shortest decimal rounds to the number, and so does no decimal on a coarser grid. -/
theorem shortest_spec (hbits : 0 < f.fractionBits) (hlength : f.fractionBits ≤ 60)
    (hmin : -1100 ≤ f.minExponent) (hmax : f.exponent f.infinityRank ≤ 1000) {r : Nat} (hr : 0 < r)
    (hfinite : r < f.infinityRank) : f.Rounds r (f.shortest r).value ∧
      ∀ (d : Nat) (k : ℤ), f.Rounds r (d * 10 ^ k) → k ≤ (f.shortest r).exponent := by
  let i := f.roundingInterval r
  have hexponent : i.exponent = f.exponent r - 2 := rfl
  have hleast := f.minExponent_le r
  have hgreatest := f.exponent_mono hfinite.le
  have hmid : i.Holds (i.mid * 2 ^ i.exponent) := holds_mid hbits hr
  obtain ⟨hhigh, hlog⟩ : 0 < i.high ∧ i.high.log2 < f.fractionBits + 3 := f.high_bounds r
  -- `t` is the binary magnitude of the upper end, `g` the guess at its decimal magnitude
  obtain ⟨t, ht⟩ : ∃ t : ℤ, t = (i.high.log2 : ℤ) + i.exponent + 1 := ⟨_, rfl⟩
  obtain ⟨g, hg⟩ : ∃ g : ℤ, g = t * 30103 / 100000 := ⟨_, rfl⟩
  have hshortest : f.shortest r = i.coarsest (f.fractionBits + 4) (g + 1) := by
    rw [hg, ht]
    rfl
  obtain ⟨hguessLow, hguessHigh⟩ := magnitude_bounds (t := t) (by omega)
  rw [← hg] at hguessLow hguessHigh
  have hend : (i.high * 2 ^ i.exponent : ℚ) < 2 ^ t := by
    calc (i.high * 2 ^ i.exponent : ℚ) < 2 ^ ((i.high.log2 : ℤ) + 1) * 2 ^ i.exponent :=
          mul_lt_mul_of_pos_right (log2_bounds hhigh).2 (two_zpow_pos _)
      _ = 2 ^ t := by
          rw [← zpow_add₀ (by norm_num), ht]
          congr 1
          ring
  have hends : f.value r + f.value (r + 1) < 2 * 10 ^ (g + 1 + 1) := by
    rw [← two_mul_high, show g + 1 + 1 = g + 2 by ring]
    exact mul_lt_mul_of_pos_left (hend.trans_le hguessHigh) two_pos
  have hfirst : ∀ (d : Nat) (k : ℤ), f.Rounds r (d * 10 ^ k) → k ≤ g + 1 := fun d k h => h.exponent_le hr hends
  have hfine : (10 : ℚ) ^ (g - 2 - f.fractionBits) ≤ 2 ^ (f.exponent r - 2) := grid_le_unit hguessLow (by omega)
  obtain ⟨c, hc⟩ := f.exists_rounds_of_grid r hfine
  have hsearch : ∀ (d : Nat) (k : ℤ), f.Rounds r (d * 10 ^ k) → g - 2 - f.fractionBits ≤ k →
      i.Holds (f.shortest r).value ∧ k ≤ (f.shortest r).exponent := by
    intro d k hd hk
    rw [hshortest]
    exact RoundingInterval.coarsest_spec hmid ((holds_iff_rounds hbits hr _).mpr hd) (hfirst d k hd)
      (by push_cast; omega)
  refine ⟨(holds_iff_rounds hbits hr _).mp (hsearch c _ hc le_rfl).1, fun d k hd => ?_⟩
  rcases le_total k (g - 2 - f.fractionBits) with hsmall | hlarge
  · exact hsmall.trans (hsearch c _ hc le_rfl).2
  · exact (hsearch d k hd hlarge).2

/-- Every positive finite double is the nearest one to its shortest decimal. -/
lemma double_shortest_spec {r : Nat} (hr : 0 < r) (hfinite : r < double.infinityRank) :
    double.Rounds r (double.shortest r).value ∧
      ∀ (d : Nat) (k : ℤ), double.Rounds r (d * 10 ^ k) → k ≤ (double.shortest r).exponent :=
  shortest_spec (by decide) (by decide) (by decide) (by decide) hr hfinite

/-- Every positive finite single precision number is the nearest one to its shortest decimal. -/
lemma single_shortest_spec {r : Nat} (hr : 0 < r) (hfinite : r < single.infinityRank) :
    single.Rounds r (single.shortest r).value ∧
      ∀ (d : Nat) (k : ℤ), single.Rounds r (d * 10 ^ k) → k ≤ (single.shortest r).exponent :=
  shortest_spec (by decide) (by decide) (by decide) (by decide) hr hfinite

/-! ## Decimals with few digits -/

/-- On a grid that is not too fine, a number with few digits is the only one that rounds to its rank. -/
lemma eq_of_rounds_of_few_digits {r d c : Nat} {k : ℤ} (hr : 0 < r) (hd : f.Rounds r (d * 10 ^ k))
    (hc : f.Rounds r (c * 10 ^ k)) (hfew : d < 2 ^ f.fractionBits) (hk : (2 : ℚ) ^ f.minExponent < 10 ^ k) :
    c = d := by
  have hten := ten_zpow_pos k
  have hdnear := abs_le.mp (hd.near hr)
  have hcnear := abs_le.mp (hc.near hr)
  -- the unit is smaller than a step of the grid
  have hunit : (2 : ℚ) ^ f.exponent r < 10 ^ k := by
    rcases f.unit_le_value r with hfull | hmin
    · have hfew' : (d + 1 : ℚ) ≤ 2 ^ f.fractionBits := by exact_mod_cast hfew
      have hpos := two_zpow_pos (f.exponent r)
      by_contra hle
      push Not at hle
      have hsmall : (d * 10 ^ k : ℚ) ≤ d * 2 ^ f.exponent r := mul_le_mul_of_nonneg_left hle d.cast_nonneg
      have hlarge : ((d + 1) * 2 ^ f.exponent r : ℚ) ≤ 2 ^ f.fractionBits * 2 ^ f.exponent r :=
        mul_le_mul_of_nonneg_right hfew' hpos.le
      linarith [hdnear.1]
    · rwa [hmin]
  have hclose : |((c : ℤ) - d : ℚ)| < 1 := by
    have hdiff : |((c : ℤ) - d : ℚ) * 10 ^ k| < 10 ^ k := by
      rw [sub_mul, Int.cast_natCast, abs_lt]
      constructor <;> linarith [hdnear.1, hdnear.2, hcnear.1, hcnear.2]
    rw [abs_mul, abs_of_pos hten] at hdiff
    exact (mul_lt_iff_lt_one_left hten).mp hdiff
  have hint : |(c : ℤ) - d| < 1 := by exact_mod_cast hclose
  rw [Int.abs_lt_one_iff] at hint
  omega

/-- A decimal with few digits is recovered from the double that is nearest to it. -/
theorem shortest_value_of_few_digits {r d : Nat} {k : ℤ} (hr : 0 < r) (hfinite : r < double.infinityRank)
    (h : double.Rounds r (d * 10 ^ k)) (hfew : d < 2 ^ 52) (hk : -300 ≤ k) :
    (double.shortest r).value = d * 10 ^ k ∧ k ≤ (double.shortest r).exponent := by
  obtain ⟨hrounds, hcoarsest⟩ := double_shortest_spec hr hfinite
  have hle := hcoarsest d k h
  refine ⟨?_, hle⟩
  obtain ⟨j, hj⟩ := Int.eq_ofNat_of_zero_le (show 0 ≤ (double.shortest r).exponent - k by omega)
  have hvalue : (double.shortest r).value = ((double.shortest r).digits * 10 ^ j : Nat) * 10 ^ k := by
    rw [Decimal.value, show (double.shortest r).exponent = j + k by omega, zpow_add₀ (by norm_num),
      zpow_natCast]
    push_cast
    ring
  have hgrid : (2 : ℚ) ^ double.minExponent < 10 ^ k := by
    calc (2 : ℚ) ^ double.minExponent < 2 ^ (-1000 : ℤ) := zpow_lt_zpow_right₀ (by norm_num) (by decide)
      _ ≤ 10 ^ k := two_zpow_le_ten_zpow (by omega) (by omega)
  rw [hvalue] at hrounds ⊢
  rw [eq_of_rounds_of_few_digits hr h hrounds hfew hgrid]

end Format
end FeatureFlags
