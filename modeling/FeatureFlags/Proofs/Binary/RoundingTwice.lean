import FeatureFlags.Proofs.Binary.Decimals

/-!
# Rounding twice

Rounding to a finer format first can only change the result if the finer number is the midpoint of two numbers
of the coarser one and the exact number is not (`Rounds.of_rounds`). The midpoints of single precision are
doubles with few binary digits. The shortest decimals of single precision have few decimal digits, so they are
either a midpoint or too far from it to be rounded to it (`eq_of_near`). Such a decimal can be read as a double
first (`single_rounds_of_double`).
-/

namespace FeatureFlags.Format

variable {f g : Format}

/-! ## Midpoints -/

/-- The midpoint between a number and the next one. -/
def midpoint (f : Format) (r : Nat) : ℚ := (2 * f.significand r + 1 : Nat) * 2 ^ (f.exponent r - 1)

/-- A midpoint is half way between two neighbours. -/
lemma two_mul_midpoint (f : Format) (r : Nat) : 2 * f.midpoint r = f.value r + f.value (r + 1) := by
  have hunit : (2 : ℚ) ^ f.exponent r = 2 * 2 ^ (f.exponent r - 1) := by
    rw [← two_zpow_succ, sub_add_cancel]
  rw [value_succ, value, midpoint, hunit]
  push_cast
  ring

/-- A number that rounds to a rank rounds to it by way of a finer format that has the midpoints around the
rank, unless it is rounded onto one of them. -/
theorem Rounds.of_rounds {r t : Nat} {q : ℚ} (h : f.Rounds r q) (h' : g.Rounds t q)
    (hfine : ∀ s, r = s ∨ r = s + 1 → ∃ m, g.value m = f.midpoint s)
    (hsafe : ∀ s, r = s ∨ r = s + 1 → g.value t = f.midpoint s → q = f.midpoint s) :
    f.Rounds r (g.value t) := by
  -- the midpoints are numbers of the finer format, so the first rounding does not cross them
  have hbelow : ∀ s, r = s + 1 → f.midpoint s ≤ g.value t := by
    intro s hs
    obtain ⟨m, hm⟩ := hfine s (.inr hs)
    have hle : g.value m ≤ q := by linarith [h.below s hs, hs ▸ f.two_mul_midpoint s]
    rw [← hm]
    exact g.value_strictMono.monotone ((g.rounds_value m).mono h' hle)
  have habove : g.value t ≤ f.midpoint r := by
    obtain ⟨m, hm⟩ := hfine r (.inl rfl)
    have hle : q ≤ g.value m := by linarith [h.above, f.two_mul_midpoint r]
    rw [← hm]
    exact g.value_strictMono.monotone (h'.mono (g.rounds_value m) hle)
  -- it lands on one only if the number was there before
  refine ⟨fun s hs => ?_, fun s hs hodd => ?_, ?_, fun hodd => ?_⟩
  · linarith [hbelow s hs, hs ▸ f.two_mul_midpoint s]
  · have hne : g.value t ≠ f.midpoint s := fun heq => by
      linarith [h.belowOdd s hs hodd, hsafe s (.inr hs) heq, hs ▸ f.two_mul_midpoint s]
    linarith [lt_of_le_of_ne (hbelow s hs) hne.symm, hs ▸ f.two_mul_midpoint s]
  · linarith [f.two_mul_midpoint r]
  · have hne : g.value t ≠ f.midpoint r := fun heq => by
      linarith [h.aboveOdd hodd, hsafe r (.inl rfl) heq, f.two_mul_midpoint r]
    linarith [lt_of_le_of_ne habove hne, f.two_mul_midpoint r]

/-! ## Decimals close to midpoints -/

/-- A decimal with few digits after the point is not closer to a short binary number than this number's
53rd binary digit, unless it is this number. -/
theorem eq_of_near {d a m : Nat} {e : ℤ} (ha : a ≤ 12) (hm : m < 2 ^ 25)
    (hsize : (m * 2 ^ e * 10 ^ a : ℚ) < 2 ^ 53)
    (hnear : |(d * 10 ^ (-a : ℤ) - m * 2 ^ e : ℚ)| ≤ m * 2 ^ e / 2 ^ 53) :
    (d * 10 ^ (-a : ℤ) : ℚ) = m * 2 ^ e := by
  -- both are integers after multiplication with `scale`
  obtain ⟨c, hac, hec, hc⟩ : ∃ c : Nat, a ≤ c ∧ 0 ≤ e + c ∧ (c = a ∨ e = -(c : ℤ)) :=
    ⟨max a (-e).toNat, by omega, by omega, by omega⟩
  obtain ⟨i, rfl⟩ := Nat.exists_eq_add_of_le hac
  obtain ⟨j, hj⟩ := Int.eq_ofNat_of_zero_le hec
  obtain ⟨scale, hscale⟩ : ∃ scale : ℚ, scale = 5 ^ a * 2 ^ (a + i) := ⟨_, rfl⟩
  have hpos : 0 < scale := by
    rw [hscale]
    positivity
  have hdecimal : (d * 10 ^ (-a : ℤ) : ℚ) * scale = (d * 2 ^ i : ℤ) := by
    have hten : (10 : ℚ) ^ a = 5 ^ a * 2 ^ a := by rw [← mul_pow]; norm_num
    rw [hscale, zpow_neg, zpow_natCast, hten, pow_add]
    push_cast
    field_simp
  have hbinary : (m * 2 ^ e : ℚ) * scale = (m * 5 ^ a * 2 ^ j : ℤ) := by
    have htwo : (2 : ℚ) ^ e * 2 ^ (a + i) = 2 ^ j := by
      rw [← zpow_natCast, ← zpow_natCast, ← zpow_add₀ (by norm_num), hj]
    rw [hscale]
    push_cast
    rw [← htwo]
    ring
  have hsmall : (m * 2 ^ e : ℚ) * scale < 2 ^ 53 := by
    rcases hc with hc | hc
    · obtain rfl : i = 0 := by omega
      have hten : scale = 10 ^ a := by rw [hscale, Nat.add_zero, ← mul_pow]; norm_num
      rwa [hten]
    · obtain rfl : j = 0 := by omega
      have hfive : m * 5 ^ a < 2 ^ 25 * 5 ^ 12 + 1 :=
        Nat.lt_succ_of_le (Nat.mul_le_mul hm.le (Nat.pow_le_pow_right (by decide) ha))
      rw [hbinary]
      push_cast
      rw [mul_one]
      have hcast : (m * 5 ^ a : ℚ) < 2 ^ 25 * 5 ^ 12 + 1 := by exact_mod_cast hfive
      exact hcast.trans (by norm_num)
  have hclose : |((d * 2 ^ i - m * 5 ^ a * 2 ^ j : ℤ) : ℚ)| < 1 := by
    rw [Int.cast_sub, ← hdecimal, ← hbinary, ← sub_mul, abs_mul, abs_of_pos hpos]
    calc _ ≤ (m * 2 ^ e / 2 ^ 53 : ℚ) * scale := mul_le_mul_of_nonneg_right hnear hpos.le
      _ = m * 2 ^ e * scale / 2 ^ 53 := by ring
      _ < 1 := (div_lt_one (by positivity)).mpr hsmall
  have hint : |(d * 2 ^ i - m * 5 ^ a * 2 ^ j : ℤ)| < 1 := by exact_mod_cast hclose
  refine mul_right_cancel₀ hpos.ne' ?_
  rw [hdecimal, hbinary, sub_eq_zero.mp (Int.abs_lt_one_iff.mp hint)]

/-! ## Single precision by way of doubles -/

/-- A value is below the power of two that its significand cannot reach. -/
lemma value_lt (f : Format) (r : Nat) : f.value r < 2 ^ (f.fractionBits + 1) * 2 ^ f.exponent r := by
  have hlt : (f.significand r : ℚ) < 2 ^ (f.fractionBits + 1) := by exact_mod_cast f.significand_lt r
  exact mul_lt_mul_of_pos_right hlt (two_zpow_pos _)

/-- The midpoints of single precision are doubles. -/
lemma exists_double_midpoint (s : Nat) : ∃ m, double.value m = single.midpoint s := by
  have hlt : single.significand s < 2 ^ 24 := single.significand_lt s
  have hmin : -149 ≤ single.exponent s := single.minExponent_le s
  exact double.exists_value (show 2 * single.significand s + 1 ≤ 2 * 2 ^ 52 by omega)
    (show -1074 ≤ single.exponent s - 1 by omega)

/-- What rounds to a double that is a midpoint of single precision is close to it. -/
lemma near_of_value_midpoint {t s : Nat} {q : ℚ} (h : double.Rounds t q)
    (ht : double.value t = single.midpoint s) :
    |q - single.midpoint s| ≤ single.midpoint s / 2 ^ 53 := by
  have hmin : -149 ≤ single.exponent s := single.minExponent_le s
  have hlarge : (2 : ℚ) ^ (-150 : ℤ) ≤ single.midpoint s := by
    have hone : (1 : ℚ) ≤ (2 * single.significand s + 1 : Nat) := Nat.one_le_cast.mpr (Nat.le_add_left _ _)
    calc (2 : ℚ) ^ (-150 : ℤ) ≤ 2 ^ (single.exponent s - 1) := zpow_le_zpow_right₀ (by norm_num) (by omega)
      _ ≤ single.midpoint s := le_mul_of_one_le_left (two_zpow_pos _).le hone
  -- the midpoint is not zero, so neither is the double
  have hpos : 0 < t := by
    refine Nat.pos_of_ne_zero ?_
    rintro rfl
    rw [value_zero] at ht
    linarith [two_zpow_pos (-150)]
  have hfull : (2 : ℚ) ^ 52 * 2 ^ double.exponent t ≤ double.value t := by
    refine (double.unit_le_value t).resolve_right fun hexponent => ?_
    have hlt := double.value_lt t
    have htiny : (2 : ℚ) ^ (double.fractionBits + 1) * 2 ^ double.exponent t < 2 ^ (-150 : ℤ) := by
      rw [hexponent, two_pow_mul_zpow]
      exact zpow_lt_zpow_right₀ (by norm_num) (by decide)
    linarith
  -- the double is normal, so it is off by half of its last place
  rw [← ht]
  linarith [h.near hpos]

/-- The midpoint above a number, or above the one before it, is at most twice as great. -/
lemma midpoint_le {r s : Nat} (hr : 0 < r) (hs : r = s ∨ r = s + 1) : f.midpoint s ≤ 2 * f.value r := by
  have hunit : (2 : ℚ) ^ f.exponent r ≤ f.value r :=
    le_mul_of_one_le_left (two_zpow_pos _).le (Nat.one_le_cast.mpr (significand_pos hr))
  have hpos := f.value_pos hr
  rcases hs with rfl | rfl
  · linarith [f.two_mul_midpoint r, f.value_succ r]
  · linarith [f.two_mul_midpoint s, f.value_strictMono.monotone (Nat.le_succ s)]

/-- Single precision numbers below `2 ^ 52` are finite. -/
lemma single_lt_infinityRank {r : Nat} (h : single.value r < 2 ^ 52) : r < single.infinityRank := by
  rw [← single.value_strictMono.lt_iff_lt, value_infinityRank_single]
  exact h.trans (pow_lt_pow_right₀ (by norm_num) (by norm_num))

lemma pos_of_value_pos {r : Nat} (h : 0 < f.value r) : 0 < r := by
  refine Nat.pos_of_ne_zero ?_
  rintro rfl
  exact h.ne' value_zero

section

variable {r : Nat} (hr : 0 < r) (hfinite : r < single.infinityRank)
include hr hfinite

/-- A grid with steps of at most a quarter of the unit is not coarser than that of the shortest decimal. -/
lemma le_single_exponent {k : ℤ} (hk : (10 : ℚ) ^ k ≤ 2 ^ (single.exponent r - 2)) :
    k ≤ (single.shortest r).exponent := by
  obtain ⟨c, hc⟩ := single.exists_rounds_of_grid r hk
  exact (single_shortest_spec hr hfinite).2 c k hc

/-- The shortest decimal is at most twice the number. -/
lemma single_shortest_le : (single.shortest r).value ≤ 2 * single.value r := by
  linarith [(single_shortest_spec hr hfinite).1.above, single.two_mul_midpoint r,
    midpoint_le (f := single) hr (.inl rfl)]

/-- The shortest decimal has few digits: its last place is worth more than a fortieth of the unit. -/
lemma single_value_lt_digits : single.value r < 2 ^ 26 * 10 ^ ((single.shortest r).exponent + 1) := by
  have hquarter : (2 : ℚ) ^ (single.exponent r - 2) < 10 ^ ((single.shortest r).exponent + 1) := by
    by_contra hle
    have := le_single_exponent hr hfinite (not_lt.mp hle)
    omega
  have hlarge : single.value r < 2 ^ 24 * 2 ^ single.exponent r := single.value_lt r
  rw [four_mul_quarter] at hlarge
  linarith

/-- The digits of a shortest decimal are few enough for double precision. -/
lemma single_digits_le : (single.shortest r).digits ≤ 2 ^ 53 := by
  have hlt := single_value_lt_digits hr hfinite
  have hle := single_shortest_le hr hfinite
  rw [zpow_add₀ (by norm_num), zpow_one] at hlt
  rw [Decimal.value] at hle
  have hdigits : ((single.shortest r).digits : ℚ) < 2 ^ 27 * 10 :=
    lt_of_mul_lt_mul_right (by linarith) (ten_zpow_pos (single.shortest r).exponent).le
  have hdigits' : (single.shortest r).digits < 2 ^ 27 * 10 := by exact_mod_cast hdigits
  omega

/-- The shortest decimal of a number that is not tiny has at most twelve places. -/
lemma single_places (hleast : 1 / 10000 ≤ single.value r) : -12 ≤ (single.shortest r).exponent := by
  refine le_single_exponent hr hfinite ?_
  have hlarge : single.value r < 2 ^ 24 * 2 ^ single.exponent r := single.value_lt r
  rw [four_mul_quarter] at hlarge
  norm_num at hleast hlarge ⊢
  linarith

/-- The shortest decimal of a number of single precision that is neither tiny nor huge rounds to this number
by way of the double nearest to it. -/
theorem single_rounds_of_double (hleast : 1 / 10000 ≤ single.value r) (hgreatest : single.value r < 2 ^ 52)
    {t : Nat} (h : double.Rounds t (single.shortest r).value) : single.Rounds r (double.value t) := by
  obtain ⟨hrounds, -⟩ := single_shortest_spec hr hfinite
  have hplaces := single_places hr hfinite hleast
  rcases le_or_gt 0 (single.shortest r).exponent with hwhole | hfraction
  · -- a natural number, which is a double itself
    obtain ⟨k, hk⟩ := Int.eq_ofNat_of_zero_le hwhole
    have hvalue : (single.shortest r).value = ((single.shortest r).digits * 10 ^ k : Nat) := by
      rw [Decimal.value, hk, zpow_natCast]
      push_cast
      rfl
    have hle : (single.shortest r).digits * 10 ^ k ≤ 2 * 2 ^ double.fractionBits := by
      have hle' : (((single.shortest r).digits * 10 ^ k : Nat) : ℚ) ≤ 2 ^ 53 := by
        rw [← hvalue]
        linarith [single_shortest_le hr hfinite]
      exact_mod_cast hle'
    obtain ⟨m, hm⟩ := double.exists_value hle (show double.minExponent ≤ 0 by decide)
    rw [zpow_zero, mul_one, ← hvalue] at hm
    rw [← hm] at h
    rwa [h.unique (double.rounds_value m), hm]
  -- with a fraction the decimal is near to a midpoint only if it is one
  · obtain ⟨a, ha⟩ := Int.eq_ofNat_of_zero_le (show 0 ≤ -(single.shortest r).exponent by omega)
    have hexponent : (single.shortest r).exponent = -(a : ℤ) := by omega
    have hvalue : (single.shortest r).value = (single.shortest r).digits * 10 ^ (-(a : ℤ)) := by
      rw [Decimal.value, hexponent]
    have hscale : single.value r * 10 ^ a < 2 ^ 26 * 10 := by
      have hlt := single_value_lt_digits hr hfinite
      rw [hexponent] at hlt
      have hten : (10 : ℚ) ^ (-(a : ℤ) + 1) * 10 ^ a = 10 := by
        rw [← zpow_natCast, ← zpow_add₀ (by norm_num), neg_add_eq_sub, sub_add_cancel, zpow_one]
      calc single.value r * 10 ^ a < 2 ^ 26 * 10 ^ (-(a : ℤ) + 1) * 10 ^ a :=
            mul_lt_mul_of_pos_right hlt (by positivity)
        _ = 2 ^ 26 * 10 := by rw [mul_assoc, hten]
    refine hrounds.of_rounds h (fun s _ => exists_double_midpoint s) fun s hs heq => ?_
    have hnear := near_of_value_midpoint h heq
    -- the midpoint has one more bit than the single
    have hshort : 2 * single.significand s + 1 < 2 ^ 25 := by
      have hlt : single.significand s < 2 ^ 24 := single.significand_lt s
      omega
    have hsize : single.midpoint s * 10 ^ a < 2 ^ 53 := by
      calc single.midpoint s * 10 ^ a ≤ 2 * single.value r * 10 ^ a :=
            mul_le_mul_of_nonneg_right (midpoint_le hr hs) (by positivity)
        _ = 2 * (single.value r * 10 ^ a) := by ring
        _ < 2 * (2 ^ 26 * 10) := mul_lt_mul_of_pos_left hscale (by norm_num)
        _ < 2 ^ 53 := by norm_num
    rw [hvalue] at hnear ⊢
    exact eq_of_near (by omega) hshort hsize hnear

end

end FeatureFlags.Format
