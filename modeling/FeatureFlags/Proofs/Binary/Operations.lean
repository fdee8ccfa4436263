import FeatureFlags.Proofs.Binary.Arithmetic

/-!
# Operations by value

What an operation makes of finite numbers is told by their values alone, so that the signs of zeros need not
be followed: numbers are compared as their values are (`Binary.lt_iff_of_hasValue`), and the quotient and the
sum of numbers that are not negative have the value to which the exact quotient and the exact sum round
(`Binary.hasValue_div`, `Binary.hasValue_add`). Dividing by a positive number keeps the order of all numbers,
negative and infinite ones included (`Binary.div_le_div_right`).

What is not larger than a power of two is moved by at most half the unit of the numbers below the power
(`Format.Rounds.error_le`), in single precision by `2 ^ -25` of the power (`Format.Rounds.single_error_le`).
-/

namespace FeatureFlags

namespace Format

variable {f : Format}

/-! ## Values of signed ranks -/

/-- The value of a signed rank. -/
def signedValue (f : Format) (key : ℤ) : ℚ := Binary.withSign (key < 0) (f.value key.natAbs)

/-- The keys that are natural numbers are those of positive numbers. -/
lemma signedValue_natCast (f : Format) (r : Nat) : f.signedValue r = f.value r := by
  have hpos : ¬(r : ℤ) < 0 := Int.not_lt.mpr (Int.natCast_nonneg r)
  rw [signedValue, decide_eq_false hpos, Int.natAbs_natCast]
  rfl

/-- The opposite key has the opposite value. -/
lemma signedValue_neg (f : Format) (key : ℤ) : f.signedValue (-key) = -f.signedValue key := by
  rcases lt_trichotomy key 0 with h | rfl | h
  · have hneg : ¬-key < 0 := by omega
    rw [signedValue, signedValue, decide_eq_false hneg, decide_eq_true h, Int.natAbs_neg]
    exact (neg_neg _).symm
  · rw [Int.neg_zero, ← Nat.cast_zero, signedValue_natCast, value_zero, neg_zero]
  · have hneg : -key < 0 := by omega
    rw [signedValue, signedValue, decide_eq_false (not_lt.mpr h.le), decide_eq_true hneg, Int.natAbs_neg]
    rfl

/-- The key of a number has the value of the number. -/
lemma signedValue_orderKey (f : Format) (s : Bool) (r : Nat) :
    f.signedValue (Binary.orderKey s r) = Binary.withSign s (f.value r) := by
  cases s with
  | false => exact f.signedValue_natCast r
  | true =>
    show f.signedValue (-(r : ℤ)) = -f.value r
    rw [signedValue_neg, signedValue_natCast]

/-- Keys are ordered as values are. -/
lemma signedValue_lt (f : Format) {i j : ℤ} (hij : i < j) : f.signedValue i < f.signedValue j := by
  rcases lt_or_ge i 0 with hi | hi
  · obtain ⟨a, rfl⟩ : ∃ a : Nat, i = -a := ⟨i.natAbs, by omega⟩
    rw [signedValue_neg, signedValue_natCast]
    rcases lt_or_ge j 0 with hj | hj
    · obtain ⟨b, rfl⟩ : ∃ b : Nat, j = -b := ⟨j.natAbs, by omega⟩
      rw [signedValue_neg, signedValue_natCast, neg_lt_neg_iff]
      exact f.value_strictMono (by omega)
    · obtain ⟨b, rfl⟩ := Int.eq_ofNat_of_zero_le hj
      have ha : f.value 0 < f.value a := f.value_strictMono (by omega)
      rw [value_zero] at ha
      rw [signedValue_natCast]
      linarith [f.value_nonneg b]
  · obtain ⟨a, rfl⟩ := Int.eq_ofNat_of_zero_le hi
    obtain ⟨b, rfl⟩ := Int.eq_ofNat_of_zero_le (show 0 ≤ j by omega)
    rw [signedValue_natCast, signedValue_natCast]
    exact f.value_strictMono (by omega)

/-- One key is below another one if its value is. -/
lemma signedValue_lt_iff (f : Format) {i j : ℤ} : f.signedValue i < f.signedValue j ↔ i < j := by
  refine ⟨fun h => ?_, f.signedValue_lt⟩
  by_contra hle
  rcases (not_lt.mp hle).lt_or_eq with hlt | rfl
  · exact lt_asymm h (f.signedValue_lt hlt)
  · exact lt_irrefl _ h

/-- One key is at most another one if its value is. -/
lemma signedValue_le_iff (f : Format) {i j : ℤ} : f.signedValue i ≤ f.signedValue j ↔ i ≤ j := by
  rw [← not_lt, signedValue_lt_iff, not_lt]

/-! ## How far numbers are moved by rounding -/

/-- The unit of a number below a power of two. -/
lemma exponent_le_of_value_lt {r : Nat} {e : ℤ} (he : f.minExponent ≤ e)
    (h : f.value r < 2 ^ (e + 1 + f.fractionBits)) : f.exponent r ≤ e := by
  rcases f.unit_le_value r with hfull | hmin
  · rw [two_pow_mul_zpow] at hfull
    have hlt := (zpow_lt_zpow_iff_right₀ (by norm_num : (1 : ℚ) < 2)).mp (hfull.trans_lt h)
    omega
  · omega

/-- What is at most a power of two moves by at most half the unit of the numbers below. -/
theorem Rounds.error_le {r : Nat} {q : ℚ} {e : ℤ} (h : f.Rounds r q) (hq : 0 ≤ q) (he : f.minExponent ≤ e)
    (hle : q ≤ 2 ^ (e + 1 + f.fractionBits)) : |q - f.value r| ≤ 2 ^ e / 2 := by
  have hstep : ∀ s, f.value s < q → f.value (s + 1) ≤ f.value s + 2 ^ e := by
    intro s hs
    have hexponent := exponent_le_of_value_lt he (hs.trans_le hle)
    rw [value_succ]
    linarith [zpow_le_zpow_right₀ (by norm_num : (1 : ℚ) ≤ 2) hexponent]
  rcases lt_trichotomy q (f.value r) with hlt | heq | hgt
  · obtain ⟨s, rfl⟩ : ∃ s, r = s + 1 := by
      refine Nat.exists_eq_add_one.mpr (Nat.pos_of_ne_zero ?_)
      rintro rfl
      rw [value_zero] at hlt
      exact hlt.not_ge hq
    -- `q` lies above the middle between `r` and the number before it
    have hbelow := h.below s rfl
    have hpred := hstep s (by linarith)
    rw [abs_of_neg (sub_neg.mpr hlt)]
    linarith
  · rw [heq, sub_self, abs_zero]
    exact (half_pos (two_zpow_pos e)).le
  · have hnext := hstep r hgt
    rw [abs_of_pos (sub_pos.mpr hgt)]
    linarith [h.above]

/-- What is at most `2 ^ k` moves by at most `2 ^ (k - 25)` in single precision. -/
theorem Rounds.single_error_le {r : Nat} {q : ℚ} (k : ℤ) (h : single.Rounds r q) (hq : 0 ≤ q) (hk : -125 ≤ k)
    (hle : q ≤ 2 ^ k) : |q - single.value r| ≤ 2 ^ (k - 25) := by
  have hbits : (single.fractionBits : ℤ) = 23 := rfl
  have hmin : single.minExponent = -149 := rfl
  have hunit : (2 : ℚ) ^ (k - 24) / 2 = 2 ^ (k - 25) := by
    rw [show k - 24 = k - 25 + 1 by ring, two_zpow_succ, mul_div_cancel_left₀ _ two_ne_zero]
  rw [← hunit]
  refine h.error_le hq (by omega) ?_
  rwa [hbits, show k - 24 + 1 + 23 = k by ring]

/-- Single precision numbers up to `2 ^ 100` do not overflow. -/
lemma Rounds.lt_infinityRank_single {r : Nat} {q : ℚ} (h : single.Rounds r q) (hq : q ≤ 2 ^ 100) :
    r < single.infinityRank := by
  obtain ⟨a, ha⟩ := single.exists_value (show 1 ≤ 2 * 2 ^ single.fractionBits by decide)
    (show single.minExponent ≤ (100 : Nat) by decide)
  rw [zpow_natCast, Nat.cast_one, one_mul] at ha
  refine (h.mono (single.rounds_value a) (by rwa [ha])).trans_lt ?_
  rw [← single.value_strictMono.lt_iff_lt, ha, value_infinityRank_single]
  exact pow_lt_pow_right₀ (by norm_num) (by norm_num)

end Format

namespace Binary

open Format

variable {f : Format} {x y : Binary f} {p q : ℚ}

/-! ## Comparison -/

/-- Numbers with values are compared by these. -/
theorem lt_iff_of_hasValue (hx : x.HasValue p) (hy : y.HasValue q) : x.lt y = true ↔ p < q := by
  cases x with
  | nan => exact hx.elim
  | signed s a =>
    cases y with
    | nan => exact hy.elim
    | signed t b =>
      show decide (orderKey s a < orderKey t b) = true ↔ p < q
      rw [decide_eq_true_iff, ← hx.2, ← hy.2, ← signedValue_orderKey, ← signedValue_orderKey]
      exact f.signedValue_lt_iff.symm

/-- Numbers with values are compared by these, also if they may be equal. -/
lemma le_iff_of_hasValue (hx : x.HasValue p) (hy : y.HasValue q) : x.le y = true ↔ p ≤ q := by
  cases x with
  | nan => exact hx.elim
  | signed s a =>
    cases y with
    | nan => exact hy.elim
    | signed t b =>
      show decide (orderKey s a ≤ orderKey t b) = true ↔ p ≤ q
      rw [decide_eq_true_iff, ← hx.2, ← hy.2, ← signedValue_orderKey, ← signedValue_orderKey]
      exact f.signedValue_le_iff.symm

/-! ## Quotients and sums -/

/-- A number with a value that is not negative has this value as its magnitude; its sign shows only at
zero. -/
lemma HasValue.exists_signed (hx : x.HasValue p) (hp : 0 ≤ p) :
    ∃ s a, x = signed s a ∧ a.val < f.infinityRank ∧ f.value a = p ∧ (s = true → p = 0) := by
  cases x with
  | nan => exact hx.elim
  | signed s a =>
    refine ⟨s, a, rfl, hx.1, ?_, ?_⟩
    · rw [← abs_withSign s (f.value_nonneg a), hx.2, abs_of_nonneg hp]
    · rintro rfl
      have hneg : -f.value a = p := hx.2
      linarith [f.value_nonneg a]

/-- The number of a rank has the value of the rank if it is not negative, or if it is a zero. -/
lemma hasValue_ofRank {s : Bool} {r : Nat} (hr : r < f.infinityRank) (hs : s = true → r = 0) :
    (ofRank s r : Binary f).HasValue (f.value r) := by
  rw [ofRank_of_lt hr]
  refine ⟨hr, ?_⟩
  cases s with
  | false => rfl
  | true =>
    obtain rfl := hs rfl
    show -f.value 0 = f.value 0
    rw [value_zero, neg_zero]

section

variable (hbits : 0 < f.fractionBits)
include hbits

/-- A quotient has the value to which the exact quotient rounds. -/
theorem hasValue_div {r : Nat} (hx : x.HasValue p) (hy : y.HasValue q) (hp : 0 ≤ p) (hq : 0 < q)
    (h : f.Rounds r (p / q)) (hr : r < f.infinityRank) : (x.div y).HasValue (f.value r) := by
  obtain ⟨s, a, rfl, ha, rfl, hs⟩ := hx.exists_signed hp
  obtain ⟨t, b, rfl, hb, rfl, ht⟩ := hy.exists_signed hq.le
  have hpos : 0 < b.val := by
    rw [← f.value_strictMono.lt_iff_lt, value_zero]
    exact hq
  rw [div_eq hbits ha hb hpos h]
  refine hasValue_ofRank hr fun hsign => ?_
  obtain rfl : t = false := Bool.eq_false_of_not_eq_true fun htrue => hq.ne' (ht htrue)
  -- the quotient is negative only if it is a negative zero
  have hzero := hs (by simpa using hsign)
  rw [hzero, zero_div, ← f.value_zero] at h
  exact h.unique (f.rounds_value 0)

omit hbits in
/-- The multiple of the smallest number that a sum is made of is the value. -/
lemma multiple_mul (f : Format) (s : Bool) (r : Nat) :
    (multiple f s r : ℚ) * 2 ^ f.minExponent = withSign s (f.value r) := by
  obtain ⟨k, hk⟩ := Int.eq_ofNat_of_zero_le (sub_nonneg.mpr (f.minExponent_le r))
  have hexponent : f.exponent r = f.minExponent + k := by omega
  have hmagnitude : ((f.significand r * 2 ^ k : Nat) : ℚ) * 2 ^ f.minExponent = f.value r := by
    rw [value, hexponent, zpow_add₀ (by norm_num), zpow_natCast]
    push_cast
    ring
  rw [multiple, hk, Int.toNat_natCast, ← hmagnitude]
  cases s with
  | false => exact_mod_cast rfl
  | true =>
    show ((-((f.significand r * 2 ^ k : Nat) : ℤ) : ℤ) : ℚ) * 2 ^ f.minExponent = -_
    push_cast
    ring

/-- A sum has the value to which the exact sum rounds. -/
theorem hasValue_add {r : Nat} (hx : x.HasValue p) (hy : y.HasValue q) (hp : 0 ≤ p) (hq : 0 ≤ q)
    (h : f.Rounds r (p + q)) (hr : r < f.infinityRank) : (x.add y).HasValue (f.value r) := by
  cases x with
  | nan => exact hx.elim
  | signed s a =>
    cases y with
    | nan => exact hy.elim
    | signed t b =>
      -- the sum is computed exactly, in units of the least exponent
      have hsum : ((multiple f s a + multiple f t b : ℤ) : ℚ) * 2 ^ f.minExponent = p + q := by
        rw [Int.cast_add, add_mul, multiple_mul, multiple_mul, hx.2, hy.2]
      have hunit := two_zpow_pos f.minExponent
      rw [add, if_neg hx.1.ne, if_neg hy.1.ne]
      dsimp only
      generalize multiple f s a + multiple f t b = m at *
      -- a sum of zero takes its sign from the rounding mode, any other is rounded
      split_ifs with hzero
      · subst hzero
        rw [Int.cast_zero, zero_mul] at hsum
        rw [← hsum, ← f.value_zero] at h
        obtain rfl := h.unique (f.rounds_value 0)
        exact hasValue_ofRank hr fun _ => rfl
      -- the sum is not negative, since neither summand is
      · have hpos : ¬m < 0 := by
          intro hneg
          have hneg' : (m : ℚ) < 0 := by exact_mod_cast hneg
          linarith [mul_neg_of_neg_of_pos hneg' hunit]
        obtain ⟨n, rfl⟩ := Int.eq_ofNat_of_zero_le (not_lt.mp hpos)
        rw [← hsum, Int.cast_natCast] at h
        rw [decide_eq_false hpos, Int.natAbs_natCast, ofScaled_eq hbits h]
        exact hasValue_ofRank hr nofun

end

/-! ## The order of results -/

section Order

variable {z : Binary f}

/-- Less than another number is a number with a smaller key; what is no number is not. -/
lemma lt_eq_true_iff :
    x.lt y = true ↔ ∃ s a t b, x = signed s a ∧ y = signed t b ∧ orderKey s a < orderKey t b := by
  constructor
  · intro h
    cases x with
    | nan => cases h
    | signed s a =>
      cases y with
      | nan => cases h
      | signed t b => exact ⟨s, a, t, b, rfl, rfl, of_decide_eq_true h⟩
  · rintro ⟨s, a, t, b, rfl, rfl, h⟩
    exact decide_eq_true h

/-- At most another number is a number with a key that is not greater. -/
lemma le_eq_true_iff :
    x.le y = true ↔ ∃ s a t b, x = signed s a ∧ y = signed t b ∧ orderKey s a ≤ orderKey t b := by
  constructor
  · intro h
    cases x with
    | nan => cases h
    | signed s a =>
      cases y with
      | nan => cases h
      | signed t b => exact ⟨s, a, t, b, rfl, rfl, of_decide_eq_true h⟩
  · rintro ⟨s, a, t, b, rfl, rfl, h⟩
    exact decide_eq_true h

protected lemma lt_of_lt_of_le (h : x.lt y = true) (h' : y.le z = true) : x.lt z = true := by
  obtain ⟨s, a, t, b, rfl, rfl, hlt⟩ := lt_eq_true_iff.mp h
  obtain ⟨_, _, u, c, heq, rfl, hle⟩ := le_eq_true_iff.mp h'
  cases heq
  exact lt_eq_true_iff.mpr ⟨s, a, u, c, rfl, rfl, hlt.trans_le hle⟩

protected lemma le_trans (h : x.le y = true) (h' : y.le z = true) : x.le z = true := by
  obtain ⟨s, a, t, b, rfl, rfl, hle⟩ := le_eq_true_iff.mp h
  obtain ⟨_, _, u, c, heq, rfl, hle'⟩ := le_eq_true_iff.mp h'
  cases heq
  exact le_eq_true_iff.mpr ⟨s, a, u, c, rfl, rfl, hle.trans hle'⟩

/-- What keeps the order of the ranks and zero keeps the order of the numbers. -/
lemma ofRank_le_ofRank {g : Nat → Nat} (hg : Monotone g) (hzero : g 0 = 0) {s t : Bool}
    {a b : Fin (f.infinityRank + 1)} (h : (signed s a).le (signed t b) = true) :
    (ofRank s (g a) : Binary f).le (ofRank t (g b)) = true := by
  have hkey : orderKey s a ≤ orderKey t b := of_decide_eq_true h
  refine decide_eq_true ?_
  dsimp only
  -- numbers of different signs are compared with zero
  cases s <;> cases t <;> simp only [orderKey, if_true, if_false, Bool.false_eq_true] at hkey ⊢
  · have hle : g a ≤ g b := hg (by omega)
    omega
  · have ha : a.val = 0 := by omega
    have hb : b.val = 0 := by omega
    rw [ha, hb, hzero]
    omega
  · omega
  · have hle : g b ≤ g a := hg (by omega)
    omega

/-- Ranks beyond infinity make no difference. -/
lemma ofRank_max (s : Bool) (r : Nat) :
    (ofRank s (max f.infinityRank r) : Binary f) = ofRank s f.infinityRank := by
  rw [ofRank, ofRank]
  congr 2
  omega

section

variable (hbits : 0 < f.fractionBits) (hz : z.HasValue q) (hq : 0 < q)
include hbits hz hq

/-- Division by a positive number moves ranks in a way that keeps their order. -/
lemma exists_div_eq_ofRank : ∃ g : Nat → Nat, Monotone g ∧ g 0 = 0 ∧
    ∀ s (a : Fin (f.infinityRank + 1)), (signed s a).div z = ofRank s (g a) := by
  obtain ⟨t, d, rfl, hd, rfl, ht⟩ := hz.exists_signed hq.le
  obtain rfl : t = false := Bool.eq_false_of_not_eq_true fun htrue => hq.ne' (ht htrue)
  have hpos : 0 < d.val := by
    rw [← f.value_strictMono.lt_iff_lt, value_zero]
    exact hq
  choose g hg using fun r => f.exists_rounds hbits (div_nonneg (f.value_nonneg r) hq.le)
  have hmono : Monotone g := fun a b hab =>
    (hg a).mono (hg b) (div_le_div_of_nonneg_right (f.value_strictMono.monotone hab) hq.le)
  have hzero : g 0 = 0 := by
    refine (hg 0).unique ?_
    rw [value_zero, zero_div, ← f.value_zero]
    exact f.rounds_value 0
  -- an infinite number stays infinite
  refine ⟨fun r => if r < f.infinityRank then g r else max f.infinityRank (g r), fun a b hab => ?_, ?_,
    fun s a => ?_⟩
  · have hle := hmono hab
    dsimp only
    split_ifs <;> omega
  · dsimp only
    rw [if_pos (Nat.zero_lt_of_lt hd), hzero]
  · dsimp only
    by_cases ha : a.val < f.infinityRank
    · rw [if_pos ha, div_eq hbits ha hd hpos (hg a), Bool.bne_false]
    · have hinfinite : a.val = f.infinityRank := by omega
      rw [if_neg ha, ofRank_max, div, if_pos hinfinite, if_neg hd.ne, Bool.bne_false]

/-- Dividing by a positive number keeps the order. -/
theorem div_le_div_right (h : x.le y = true) : (x.div z).le (y.div z) = true := by
  obtain ⟨g, hg, hzero, hdiv⟩ := exists_div_eq_ofRank hbits hz hq
  obtain ⟨s, a, t, b, rfl, rfl, -⟩ := le_eq_true_iff.mp h
  rw [hdiv, hdiv]
  exact ofRank_le_ofRank hg hzero h

end
end Order

/-- The sign and the magnitude of an integer multiple of a unit. -/
lemma sign_of_mul_eq_withSign {t : Bool} {m : ℤ} {unit magnitude : ℚ} (hunit : 0 < unit)
    (hmagnitude : 0 ≤ magnitude) (hm : m ≠ 0) (h : m * unit = withSign t magnitude) :
    decide (m < 0) = t ∧ m.natAbs * unit = magnitude := by
  constructor
  · cases t with
    | false =>
      refine decide_eq_false fun hneg => ?_
      have hvalue : m * unit = magnitude := h
      linarith [mul_neg_of_neg_of_pos (Int.cast_lt_zero.mpr hneg) hunit]
    | true =>
      refine decide_eq_true (lt_of_le_of_ne (not_lt.mp fun hpos => ?_) hm)
      have hvalue : m * unit = -magnitude := h
      linarith [mul_pos (Int.cast_pos.mpr hpos) hunit]
  · rw [Nat.cast_natAbs, Int.cast_abs, ← abs_withSign t hmagnitude, ← h, abs_mul, abs_of_pos hunit]

/-- Added to zero, a number is as great as before. -/
lemma lt_zero_add (hbits : 0 < f.fractionBits) (hinfinity : 0 < f.infinityRank) (x y : Binary f) :
    x.lt (zero.add y) = x.lt y := by
  cases y with
  | nan => rfl
  | signed t b =>
    have hzero : (zero : Binary f) = signed false ⟨0, Nat.zero_lt_succ _⟩ := ofRank_of_lt hinfinity
    -- infinity stays as it is
    by_cases hb : b.val = f.infinityRank
    · rw [hzero, add, if_neg hinfinity.ne, if_pos hb]
    -- the sum is exact again, so nothing is rounded
    have hsum : ((multiple f false 0 + multiple f t b : ℤ) : ℚ) * 2 ^ f.minExponent =
        withSign t (f.value b) := by
      rw [Int.cast_add, add_mul, multiple_mul, multiple_mul, value_zero]
      exact zero_add _
    rw [hzero, add, if_neg hinfinity.ne, if_neg hb]
    dsimp only
    generalize multiple f false 0 + multiple f t b = m at *
    have hunit := two_zpow_pos f.minExponent
    have hb' := lt_of_le_of_ne (Nat.le_of_lt_succ b.isLt) hb
    split_ifs with hm
    · -- then the number is a zero, with whatever sign
      rw [hm, Int.cast_zero, zero_mul] at hsum
      have hrank : b.val = 0 := by
        refine f.value_strictMono.injective ?_
        rw [value_zero, ← abs_withSign t (f.value_nonneg b), ← hsum, abs_zero]
      have hkey : orderKey t b = orderKey false 0 := by
        rw [hrank]
        cases t <;> rfl
      cases x with
      | nan => rfl
      | signed s a =>
        rw [Bool.false_and, ofRank_of_lt hinfinity, lt, lt, hkey]
    · obtain ⟨hsign, hmagnitude⟩ := sign_of_mul_eq_withSign hunit (f.value_nonneg b) hm hsum
      rw [hsign, ofScaled_eq hbits (hmagnitude ▸ f.rounds_value b), ofRank_of_lt hb']

end Binary
end FeatureFlags
