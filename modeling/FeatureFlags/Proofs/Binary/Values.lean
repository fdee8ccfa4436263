import FeatureFlags.Proofs.Binary.Rounding

/-!
# Values of numbers

`Binary.HasValue x q` says that a number is finite and what its value is. Numbers of one value are equal
(`Binary.eq_of_hasValue`), and a quotient that is the value of a rank is rounded to it.

The integers that a format holds exactly are read and written without loss (`Binary.hasValue_ofInt`,
`Binary.toExactInt?_eq_some`).
-/

namespace FeatureFlags

namespace Format

variable {f : Format}

/-- A small multiple of a power of two that is not too small is the value of a rank. -/
lemma exists_value (f : Format) {m : Nat} (hm : m ≤ 2 * 2 ^ f.fractionBits) {e : ℤ}
    (he : f.minExponent ≤ e) : ∃ r, f.value r = m * 2 ^ e := by
  obtain ⟨k, rfl⟩ : ∃ k : Nat, e = f.minExponent + k := ⟨(e - f.minExponent).toNat, by omega⟩
  clear he
  induction k generalizing m with
  | zero => exact ⟨_, value_of_binade (.inl rfl) hm⟩
  | succ k ih =>
    rcases Nat.lt_or_ge m (2 ^ f.fractionBits) with hlt | hge
    · -- the same number with a smaller unit
      obtain ⟨r, hr⟩ := ih (show 2 * m ≤ 2 * 2 ^ f.fractionBits by omega)
      refine ⟨r, ?_⟩
      rw [hr, Nat.cast_succ, ← add_assoc, two_zpow_succ]
      push_cast
      ring
    · exact ⟨_, value_of_binade (.inr hge) hm⟩

/-- A quotient that is the value of a rank is rounded to this rank. -/
lemma rankOfRatio_of_value (hbits : 0 < f.fractionBits) {num den r : Nat} (hden : 0 < den)
    (h : f.value r = num / den) : f.rankOfRatio num den = r := by
  have hrounds := f.rounds_rankOfRatio hbits num hden
  rw [← h] at hrounds
  exact hrounds.unique (f.rounds_value r)

/-- A non-negative rational number rounds to a rank. -/
lemma exists_rounds (f : Format) (hbits : 0 < f.fractionBits) {q : ℚ} (hq : 0 ≤ q) : ∃ r, f.Rounds r q := by
  obtain ⟨n, hn⟩ := Int.eq_ofNat_of_zero_le (Rat.num_nonneg.mpr hq)
  have hquotient : q = (n : ℚ) / q.den := by
    conv_lhs => rw [← Rat.num_div_den q, hn]
    rfl
  refine ⟨f.rankOfRatio n q.den, ?_⟩
  have h := f.rounds_rankOfRatio hbits n q.den_pos
  rwa [← hquotient] at h

/-- Double precision numbers overflow at `2 ^ 1024`. -/
lemma value_infinityRank_double : double.value double.infinityRank = 2 ^ 1024 := by
  have h := value_of_binade (f := double) (k := 2046) (m := 2 ^ 52) (.inr le_rfl) (by decide)
  have hrank : 2046 * 2 ^ double.fractionBits + 2 ^ 52 = double.infinityRank := by decide
  rw [hrank] at h
  rw [h, show double.minExponent + (2046 : Nat) = (972 : Nat) by decide, zpow_natCast, Nat.cast_pow,
    Nat.cast_two, ← pow_add]

/-- Double precision numbers up to `2 ^ 100` do not overflow. -/
lemma Rounds.lt_infinityRank {r : Nat} {q : ℚ} (h : double.Rounds r q) (hq : q ≤ 2 ^ 100) :
    r < double.infinityRank := by
  obtain ⟨a, ha⟩ := double.exists_value (show 1 ≤ 2 * 2 ^ double.fractionBits by decide)
    (show double.minExponent ≤ (100 : Nat) by decide)
  rw [zpow_natCast, Nat.cast_one, one_mul] at ha
  refine (h.mono (double.rounds_value a) (by rwa [ha])).trans_lt ?_
  rw [← double.value_strictMono.lt_iff_lt, ha, value_infinityRank_double]
  exact pow_lt_pow_right₀ (by norm_num) (by norm_num)

/-- Single precision numbers overflow at `2 ^ 128`. -/
lemma value_infinityRank_single : single.value single.infinityRank = 2 ^ 128 := by
  have h := value_of_binade (f := single) (k := 254) (m := 2 ^ 23) (.inr le_rfl) (by decide)
  have hrank : 254 * 2 ^ single.fractionBits + 2 ^ 23 = single.infinityRank := by decide
  rw [hrank] at h
  rw [h, show single.minExponent + (254 : Nat) = (105 : Nat) by decide, zpow_natCast, Nat.cast_pow,
    Nat.cast_two, ← pow_add]

end Format

namespace Binary

variable {f : Format}

/-- A magnitude with its sign. -/
def withSign (negative : Bool) (q : ℚ) : ℚ := if negative then -q else q

/-- The number is finite and has this value. -/
def HasValue (x : Binary f) (q : ℚ) : Prop :=
  match x with
  | nan => False
  | signed s r => r.val < f.infinityRank ∧ withSign s (f.value r) = q

lemma abs_withSign (s : Bool) {q : ℚ} (hq : 0 ≤ q) : |withSign s q| = q := by
  cases s
  · exact abs_of_nonneg hq
  · exact (abs_neg q).trans (abs_of_nonneg hq)

/-- The magnitude of a value is the value of a rank. -/
lemma HasValue.exists_rank {x : Binary f} {q : ℚ} (h : x.HasValue q) :
    ∃ r, r < f.infinityRank ∧ f.value r = |q| := by
  cases x with
  | nan => exact h.elim
  | signed s r => exact ⟨r, h.1, by rw [← h.2, abs_withSign s (f.value_nonneg r)]⟩

/-- Numbers of one value are equal, even if they are zeros with different signs. -/
theorem eq_of_hasValue {x y : Binary f} {q : ℚ} (hx : x.HasValue q) (hy : y.HasValue q) : x.eq y = true := by
  cases x with
  | nan => exact hx.elim
  | signed s a =>
    cases y with
    | nan => exact hy.elim
    | signed t b =>
      have hvalue : withSign s (f.value a) = withSign t (f.value b) := hx.2.trans hy.2.symm
      -- the magnitudes agree, and the signs where they are not zero
      have hrank : a.val = b.val := by
        refine f.value_strictMono.injective ?_
        rw [← abs_withSign s (f.value_nonneg a), ← abs_withSign t (f.value_nonneg b), hvalue]
      rw [hrank] at hvalue
      have hkey : orderKey s a = orderKey t b := by
        rw [hrank]
        cases s <;> cases t <;> try rfl
        all_goals
          have hzero : f.value b = f.value 0 := by
            rw [f.value_zero]
            simp only [withSign, if_true, Bool.false_eq_true, if_false] at hvalue
            linarith
          rw [f.value_strictMono.injective hzero]
          rfl
      exact beq_iff_eq.mpr hkey

/-- A quotient that is the value of a finite number is rounded to this number. -/
lemma hasValue_ofRatio (hbits : 0 < f.fractionBits) (s : Bool) {num den r : Nat} (hden : 0 < den)
    (hr : r < f.infinityRank) (h : f.value r = num / den) :
    (ofRatio s num den : Binary f).HasValue (withSign s (num / den)) := by
  rw [ofRatio, ofRank, Format.rankOfRatio_of_value hbits hden h, HasValue]
  simp only [Nat.min_eq_left hr.le]
  exact ⟨hr, by rw [h]⟩

/-- An integer whose magnitude is the value of a finite number is converted without loss. -/
lemma hasValue_ofInt_of_value (hbits : 0 < f.fractionBits) {i : ℤ} {r : Nat} (hr : r < f.infinityRank)
    (h : f.value r = i.natAbs) : (ofInt i : Binary f).HasValue i := by
  have hquotient : f.value r = (i.natAbs : ℚ) / (1 : Nat) := by rw [h, Nat.cast_one, div_one]
  have hratio := hasValue_ofRatio hbits (decide (i < 0)) Nat.one_pos hr hquotient
  have hvalue : withSign (decide (i < 0)) ((i.natAbs : ℚ) / (1 : Nat)) = i := by
    rw [Nat.cast_one, div_one, withSign, Nat.cast_natAbs]
    simp only [decide_eq_true_eq]
    split_ifs with hneg
    · rw [abs_of_neg hneg]
      push_cast
      ring
    · rw [abs_of_nonneg (by omega)]
  rwa [hvalue] at hratio

/-- A format holds the integers up to the length of its significand, if they are not infinite. -/
theorem hasValue_ofInt (hbits : 0 < f.fractionBits) (hmin : f.minExponent ≤ 0) {i : ℤ}
    (hi : i.natAbs ≤ 2 * 2 ^ f.fractionBits) (hfinite : (i.natAbs : ℚ) < f.value f.infinityRank) :
    (ofInt i : Binary f).HasValue i := by
  obtain ⟨r, hr⟩ := f.exists_value hi hmin
  rw [zpow_zero, mul_one] at hr
  exact hasValue_ofInt_of_value hbits (f.value_strictMono.lt_iff_lt.mp (by rw [hr]; exact hfinite)) hr

/-- Double precision has all integers up to `2 ^ 53`. -/
lemma double_hasValue_ofInt {i : ℤ} (hi : i.natAbs ≤ 2 ^ 53) : (ofInt i : Double).HasValue i := by
  refine hasValue_ofInt (by decide) (by decide) (hi.trans (by decide)) ?_
  rw [Format.value_infinityRank_double]
  have hle : (i.natAbs : ℚ) ≤ 2 ^ 53 := by exact_mod_cast hi
  exact hle.trans_lt (pow_lt_pow_right₀ (by norm_num) (by norm_num))

/-- Single precision has all integers up to `2 ^ 24`. -/
lemma single_hasValue_ofInt {i : ℤ} (hi : i.natAbs ≤ 2 ^ 24) : (ofInt i : Single).HasValue i := by
  refine hasValue_ofInt (by decide) (by decide) (hi.trans (by decide)) ?_
  rw [Format.value_infinityRank_single]
  have hle : (i.natAbs : ℚ) ≤ 2 ^ 24 := by exact_mod_cast hi
  exact hle.trans_lt (pow_lt_pow_right₀ (by norm_num) (by norm_num))

/-! ## Integers -/

/-- The magnitude of a rank with its fraction cut off. -/
lemma truncate?_signed {s : Bool} {r : Fin (f.infinityRank + 1)} (hr : r.val < f.infinityRank) {n : Nat}
    (h : f.value r = n) : (signed s r : Binary f).isIntegral = true ∧
      (signed s r : Binary f).truncate? = some (if s then -(n : ℤ) else n) := by
  rw [isIntegral, truncate?, if_neg hr.ne]
  rw [Format.value] at h
  by_cases he : 0 ≤ f.exponent r
  · obtain ⟨e, he'⟩ := Int.eq_ofNat_of_zero_le he
    rw [he', zpow_natCast] at h
    have hnat : f.significand r * 2 ^ e = n := by exact_mod_cast h
    simp only [he', Int.natCast_nonneg, if_true, Int.toNat_natCast, hnat]
    exact ⟨by simp [hr.ne], trivial⟩
  · obtain ⟨e, he'⟩ := Int.eq_ofNat_of_zero_le (show 0 ≤ -f.exponent r by omega)
    have hneg : f.exponent r = -(e : ℤ) := by omega
    rw [hneg, zpow_neg, zpow_natCast, ← div_eq_mul_inv, div_eq_iff (by positivity)] at h
    have hnat : f.significand r = n * 2 ^ e := by exact_mod_cast h
    simp only [he', if_neg he, Int.toNat_natCast, hnat, Nat.mul_mod_left, Nat.mul_div_cancel _ (Nat.two_pow_pos e)]
    exact ⟨by simp [hr.ne], trivial⟩

/-- The magnitude of an integral number is a natural number. -/
lemma exists_natural_of_isIntegral {s : Bool} {r : Fin (f.infinityRank + 1)}
    (h : (signed s r : Binary f).isIntegral = true) : r.val < f.infinityRank ∧ ∃ n : Nat, f.value r = n := by
  simp only [isIntegral, Bool.and_eq_true, Bool.or_eq_true, decide_eq_true_eq, beq_iff_eq] at h
  obtain ⟨hr, hintegral⟩ := h
  refine ⟨by omega, ?_⟩
  rw [Format.value]
  by_cases he : 0 ≤ f.exponent r
  · obtain ⟨e, he'⟩ := Int.eq_ofNat_of_zero_le he
    exact ⟨f.significand r * 2 ^ e, by rw [he', zpow_natCast]; push_cast; rfl⟩
  · obtain ⟨e, he'⟩ := Int.eq_ofNat_of_zero_le (show 0 ≤ -f.exponent r by omega)
    have hneg : f.exponent r = -(e : ℤ) := by omega
    rw [he', Int.toNat_natCast] at hintegral
    obtain ⟨n, hn⟩ := Nat.dvd_of_mod_eq_zero (hintegral.resolve_left he)
    refine ⟨n, ?_⟩
    rw [hneg, zpow_neg, zpow_natCast, ← div_eq_mul_inv, hn, div_eq_iff (by positivity)]
    push_cast
    ring

lemma withSign_natCast (s : Bool) (n : Nat) :
    withSign s (n : ℚ) = ((if s then -(n : ℤ) else n : ℤ) : ℚ) := by
  cases s
  · rfl
  · exact (Int.cast_neg (n : ℤ)).symm

/-- A number is a small integer exactly if this integer is its value. -/
theorem toExactInt?_eq_some {x : Binary f} {i : ℤ} :
    x.toExactInt? = some i ↔ x.HasValue i ∧ i.natAbs ≤ maxSafeInteger := by
  cases x with
  | nan => exact ⟨nofun, fun h => h.1.elim⟩
  | signed s r =>
    -- a number that is not integral has no such value
    by_cases hintegral : (signed s r : Binary f).isIntegral = true
    · obtain ⟨hr, n, hn⟩ := exists_natural_of_isIntegral hintegral
      have hvalue : (signed s r : Binary f).HasValue i ↔ (if s then -(n : ℤ) else n) = i := by
        rw [HasValue, hn, withSign_natCast]
        exact ⟨fun h => by exact_mod_cast h.2, fun h => ⟨hr, by exact_mod_cast h⟩⟩
      rw [toExactInt?, if_pos hintegral, toSafeInt?, (truncate?_signed hr hn).2, hvalue, hintegral]
      generalize (if s then -(n : ℤ) else n) = j
      simp only [Bool.and_true, Bool.or_eq_true, decide_eq_true_eq, beq_iff_eq, ← Nat.le_iff_lt_or_eq,
        Option.ite_none_right_eq_some, Option.some.injEq]
      constructor
      · rintro ⟨h, rfl⟩
        exact ⟨rfl, h⟩
      · rintro ⟨rfl, h⟩
        exact ⟨h, rfl⟩
    · rw [toExactInt?, if_neg hintegral]
      refine ⟨nofun, fun ⟨⟨hr, hvalue⟩, _⟩ => absurd ?_ hintegral⟩
      have hmagnitude : f.value r = i.natAbs := by
        rw [← abs_withSign s (f.value_nonneg r), hvalue, Nat.cast_natAbs, Int.cast_abs]
      exact (truncate?_signed hr hmagnitude).1

end Binary
end FeatureFlags
