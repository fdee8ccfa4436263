import FeatureFlags.Proofs.Binary.Decimals
import FeatureFlags.Proofs.Json.Integers

/-!
# Decimals in JSON

A text with a point or an exponent *denotes* a significand of 64 bits if the significand is what the reader
collects from it (`Denotes`). The text of a decimal denotes its digits and its exponent, or, if it is written as
a whole number, this number with one zero after the point (`denotes_text`). If these parts are doubles, the text
is read as the double nearest to the decimal (`reads_decimal`).
-/

namespace FeatureFlags.Json

open Text Format Binary

/-! ## Collecting digits -/

/-- Digits pushed onto `n` shift it by their number. -/
lemma foldl_digits (n : Nat) (ds : List Char) :
    ds.foldl (fun n c => n * 10 + digitValue c) n = n * 10 ^ ds.length + naturalOfDigits ds := by
  induction ds using List.reverseRecOn with
  | nil => simp [naturalOfDigits]
  | append_singleton ds c ih =>
    rw [naturalOfDigits, List.foldl_append, List.foldl_append, ih, List.length_append, naturalOfDigits]
    simp only [List.foldl_cons, List.foldl_nil, List.length_singleton, pow_succ]
    ring

lemma naturalOfDigits_append (xs ys : List Char) :
    naturalOfDigits (xs ++ ys) = naturalOfDigits xs * 10 ^ ys.length + naturalOfDigits ys := by
  rw [naturalOfDigits, List.foldl_append, foldl_digits, ← naturalOfDigits]

lemma naturalOfDigits_replicate (n : Nat) : naturalOfDigits (List.replicate n '0') = 0 := by
  induction n with
  | zero => rfl
  | succ n ih => rw [List.replicate_succ', naturalOfDigits_append, ih]; rfl

/-- Pushing digits never makes a number smaller. -/
lemma le_foldl_digits (n : Nat) (ds : List Char) : n ≤ ds.foldl (fun n c => n * 10 + digitValue c) n := by
  rw [foldl_digits]
  exact (Nat.le_mul_of_pos_right _ (Nat.pow_pos (by decide))).trans (Nat.le_add_right _ _)

/-- A digit is taken as long as the significand stays below the limit. -/
lemma push?_of_le {s : Significand} {c : Char} (h : s.value * 10 + digitValue c ≤ maxUnsigned) :
    s.push? c = some (s.value * 10 + digitValue c) := if_pos h

lemma pushWhole_cons (s : Significand) (c : Char) (rest : List Char) :
    s.pushWhole (c :: rest) = match s.push? c with
      | some value => Significand.pushWhole { s with value } rest
      | none => ({ s with exponent := s.exponent + (rest.length + 1 : Nat) }, true) := by
  rfl

lemma pushFraction_cons (s : Significand) (c : Char) (rest : List Char) :
    s.pushFraction (c :: rest) = match s.push? c with
      | some value => Significand.pushFraction ⟨value, s.exponent - 1⟩ rest
      | none => s := by
  rfl

lemma pushWhole_step {s : Significand} {c : Char} {value : Nat} (h : s.push? c = some value)
    (rest : List Char) :
    s.pushWhole (c :: rest) = (Significand.mk value s.exponent).pushWhole rest := by
  rw [pushWhole_cons, h]

lemma pushFraction_step {s : Significand} {c : Char} {value : Nat} (h : s.push? c = some value)
    (rest : List Char) :
    s.pushFraction (c :: rest) = (Significand.mk value (s.exponent - 1)).pushFraction rest := by
  rw [pushFraction_cons, h]

/-- Digits that fit are all collected. -/
lemma pushWhole_of_le {n : Nat} {e : ℤ} {ds : List Char}
    (h : ds.foldl (fun n c => n * 10 + digitValue c) n ≤ maxUnsigned) :
    ((Significand.mk n e).pushWhole ds).1 = ⟨ds.foldl (fun n c => n * 10 + digitValue c) n, e⟩ := by
  induction ds generalizing n with
  | nil => rfl
  | cons c ds ih =>
    rw [List.foldl_cons] at h ⊢
    have hstep := pushWhole_step (push?_of_le (s := ⟨n, e⟩) (le_trans (le_foldl_digits _ ds) h)) ds
    exact (congrArg Prod.fst hstep).trans (ih h)

/-- All digits of a fraction are taken if the number they make is below the limit. -/
lemma pushFraction_of_le {n : Nat} {e : ℤ} {ds : List Char}
    (h : ds.foldl (fun n c => n * 10 + digitValue c) n ≤ maxUnsigned) :
    (Significand.mk n e).pushFraction ds = ⟨ds.foldl (fun n c => n * 10 + digitValue c) n, e - ds.length⟩ := by
  induction ds generalizing n e with
  | nil => exact congrArg _ (sub_zero e).symm
  | cons c ds ih =>
    rw [List.foldl_cons] at h ⊢
    have hstep := pushFraction_step (push?_of_le (s := ⟨n, e⟩) (le_trans (le_foldl_digits _ ds) h)) ds
    have hexponent : e - 1 - (ds.length : ℤ) = e - ((c :: ds).length : ℤ) := by
      rw [List.length_cons]
      omega
    rw [← hexponent]
    exact hstep.trans (ih h)

/-- What is collected from the digits before the point and those after it. -/
lemma collect_of_le {whole fraction : List Char} (h : naturalOfDigits (whole ++ fraction) ≤ maxUnsigned) :
    (((Significand.mk 0 0).pushWhole whole).1).pushFraction fraction =
      ⟨naturalOfDigits (whole ++ fraction), -fraction.length⟩ := by
  have hall : naturalOfDigits (whole ++ fraction) =
      fraction.foldl (fun n c => n * 10 + digitValue c) (whole.foldl (fun n c => n * 10 + digitValue c) 0) :=
    List.foldl_append
  rw [hall] at h ⊢
  rw [pushWhole_of_le ((le_foldl_digits _ fraction).trans h), pushFraction_of_le h, zero_sub]

/-! ## Texts of doubles -/

namespace Numeral

/-- The digits after the point. -/
def fractionDigits (n : Numeral) : List Char := n.fraction.getD []

/-- The exponent that is written. -/
def writtenExponent (n : Numeral) : ℤ :=
  match n.exponent with
  | none => 0
  | some (negative, digits) => if negative then -(naturalOfDigits digits : ℤ) else naturalOfDigits digits

/-- All digits and the exponent that belongs to them. -/
def significand (n : Numeral) : Significand :=
  ⟨naturalOfDigits (n.whole ++ n.fractionDigits), n.writtenExponent - n.fractionDigits.length⟩

/-- A text that is not read as an integer is read as the double of its digits and its exponent. -/
lemma toNumber?_eq {n : Numeral} (hfits : n.significand.value ≤ maxUnsigned)
    (hdouble : n.fraction ≠ none ∨ n.exponent ≠ none ∨ integerOfDigits? n.negative n.whole = none) :
    n.toNumber? = (doubleOfParts? n.negative n.significand).map .double := by
  obtain ⟨negative, whole, fraction, exponent⟩ := n
  -- with a fraction the point is moved to the end of the digits, otherwise there is none
  cases fraction with
  | none =>
    have hwhole : ((Significand.mk 0 0).pushWhole whole).1 = ⟨naturalOfDigits (whole ++ []), 0⟩ := by
      have hfits' : naturalOfDigits (whole ++ []) ≤ maxUnsigned := hfits
      rw [List.append_nil] at hfits' ⊢
      exact pushWhole_of_le hfits'
    rcases exponent with _ | ⟨sign, digits⟩
    · have hinteger : integerOfDigits? negative whole = none := by simpa using hdouble
      rw [toNumber?]
      dsimp only
      rw [hinteger, hwhole]
      rfl
    · rw [toNumber?]
      dsimp only
      rw [hwhole, zero_add, ← sub_zero (if sign = true then _ else _)]
      rfl
  | some fraction =>
    have hcollect := collect_of_le (show naturalOfDigits (whole ++ fraction) ≤ maxUnsigned from hfits)
    rcases exponent with _ | ⟨sign, digits⟩
    · rw [toNumber?]
      dsimp only
      rw [hcollect, ← zero_sub]
      rfl
    · rw [toNumber?]
      dsimp only
      rw [hcollect, neg_add_eq_sub]
      rfl

end Numeral

/-- A text without a sign is one of a double with these parts. -/
def Denotes (text : List Char) (s : Significand) : Prop :=
  ∀ negative, ∃ n : Numeral, n.Proper ∧ n.chars = (if negative then '-' :: text else text) ∧
    n.toNumber? = (doubleOfParts? negative s).map .double

/-- Digits with a point among them. -/
lemma denotes_point {whole fraction : List Char} (hwhole : AreDigits whole)
    (hleading : ∀ c rest, whole = '0' :: c :: rest → False) (hfraction : AreDigits fraction)
    (hfits : naturalOfDigits (whole ++ fraction) ≤ maxUnsigned) :
    Denotes (whole ++ '.' :: fraction) ⟨naturalOfDigits (whole ++ fraction), -fraction.length⟩ := by
  intro negative
  let n : Numeral := ⟨negative, whole, some fraction, none⟩
  have hproper : n.Proper := by
    refine ⟨hwhole, hleading, ?_, ?_⟩
    · rintro _ ⟨⟩
      exact hfraction
    · rintro _ _ ⟨⟩
  refine ⟨n, hproper, ?_, ?_⟩
  · rw [Numeral.chars, Numeral.unsignedChars, Numeral.fractionChars, Numeral.exponentChars, List.append_nil]
  · have hsome : n.fraction ≠ none := Option.some_ne_none fraction
    rw [n.toNumber?_eq hfits (.inl hsome), ← zero_sub]
    rfl

/-- Digits with a point after the first of them, if there are more, and an exponent. -/
lemma denotes_scientific {c : Char} {rest : List Char} (hdigits : AreDigits (c :: rest)) (e : ℤ)
    (hfits : naturalOfDigits (c :: rest) ≤ maxUnsigned) :
    Denotes ((match c :: rest with
        | [] => []
        | [c] => [c]
        | c :: rest => c :: '.' :: rest) ++ 'e' :: (if e < 0 then '-' else '+') :: decimalDigits e.natAbs)
      ⟨naturalOfDigits (c :: rest), e - rest.length⟩ := by
  intro negative
  -- one digit before the point, and the others behind it if there are any
  let n : Numeral := ⟨negative, [c], if rest = [] then none else some rest,
    some (decide (e < 0), decimalDigits e.natAbs)⟩
  have hproper : n.Proper := by
    have hwhole : AreDigits [c] :=
      ⟨List.cons_ne_nil c [], fun d hd => hdigits.2 d (List.mem_cons.mpr (.inl (List.mem_singleton.mp hd)))⟩
    refine ⟨hwhole, ?_, fun digits hf => ?_, ?_⟩
    · rintro _ _ ⟨⟩
    · obtain ⟨hne, rfl⟩ : rest ≠ [] ∧ rest = digits := by simpa [n] using hf
      exact ⟨hne, fun x hx => hdigits.2 x (List.mem_cons_of_mem _ hx)⟩
    · rintro _ _ ⟨⟩
      exact areDigits_decimalDigits _
  have hfraction : n.fractionDigits = rest := by
    rw [Numeral.fractionDigits]
    cases rest <;> rfl
  have hexponent : n.writtenExponent = e := by
    rw [Numeral.writtenExponent]
    simp only [n, naturalOfDigits_decimalDigits, decide_eq_true_eq]
    split_ifs <;> omega
  have hsignificand : n.significand = ⟨naturalOfDigits (c :: rest), e - rest.length⟩ := by
    rw [Numeral.significand, hfraction, hexponent]
    rfl
  refine ⟨n, hproper, ?_, ?_⟩
  · cases rest <;>
      simp [n, Numeral.chars, Numeral.unsignedChars, Numeral.fractionChars, Numeral.exponentChars]
  · have hsome : n.exponent ≠ none := Option.some_ne_none _
    rw [n.toNumber?_eq (by rwa [hsignificand]) (.inr (.inl hsome)), hsignificand]

/-! ## Texts of decimals -/

lemma isDigit_of_mem_zeros {n : Nat} {c : Char} (h : c ∈ List.replicate n '0') : isDigit c = true := by
  rw [List.eq_of_mem_replicate h]
  rfl

section

variable {digits : List Char} (hdigits : AreDigits digits) (hleading : ∀ rest, digits ≠ '0' :: rest)
include hdigits

/-- Zeros before the digits. -/
lemma denotes_small (n : Nat) (hfits : naturalOfDigits digits ≤ maxUnsigned) :
    Denotes ('0' :: '.' :: List.replicate n '0' ++ digits)
      ⟨naturalOfDigits digits, -(n + digits.length : ℤ)⟩ := by
  have hzero : AreDigits ['0'] := areDigits_of_all (List.cons_ne_nil '0' []) rfl
  have hfraction : AreDigits (List.replicate n '0' ++ digits) :=
    ⟨by simp [hdigits.1], fun c hc => (List.mem_append.mp hc).elim isDigit_of_mem_zeros (hdigits.2 c)⟩
  have hnumber : naturalOfDigits (['0'] ++ (List.replicate n '0' ++ digits)) = naturalOfDigits digits := by
    rw [naturalOfDigits_append, naturalOfDigits_append, naturalOfDigits_replicate]
    simp [naturalOfDigits, digitValue]
  have hleading : ∀ c rest, ['0'] = '0' :: c :: rest → False := by
    rintro _ _ ⟨⟩
  have h := denotes_point hzero hleading hfraction (by rwa [hnumber])
  rw [hnumber, List.length_append, List.length_replicate] at h
  exact_mod_cast h

include hleading

/-- A point among the digits. -/
lemma denotes_split {i : Nat} (hpos : 0 < i) (hi : i < digits.length)
    (hfits : naturalOfDigits digits ≤ maxUnsigned) :
    Denotes (digits.take i ++ '.' :: digits.drop i) ⟨naturalOfDigits digits, -(digits.length - i : ℤ)⟩ := by
  have hjoin : digits.take i ++ digits.drop i = digits := List.take_append_drop i digits
  have htake : AreDigits (digits.take i) :=
    ⟨by simp [hdigits.1]; omega, fun c hc => hdigits.2 c (List.mem_of_mem_take hc)⟩
  have hdrop : AreDigits (digits.drop i) :=
    ⟨by simp; omega, fun c hc => hdigits.2 c (List.mem_of_mem_drop hc)⟩
  have hzero : ∀ c rest, digits.take i = '0' :: c :: rest → False := fun c rest heq => by
    rw [heq] at hjoin
    exact hleading _ hjoin.symm
  have h := denotes_point htake hzero hdrop (by rwa [hjoin])
  rwa [hjoin, List.length_drop, Nat.cast_sub hi.le] at h

/-- A whole number. -/
lemma denotes_whole (n : Nat) (hfits : naturalOfDigits digits * 10 ^ n * 10 ≤ maxUnsigned) :
    Denotes (digits ++ List.replicate n '0' ++ ['.', '0']) ⟨naturalOfDigits digits * 10 ^ n * 10, -1⟩ := by
  have hwhole : AreDigits (digits ++ List.replicate n '0') :=
    ⟨by simp [hdigits.1], fun c hc => (List.mem_append.mp hc).elim (hdigits.2 c) isDigit_of_mem_zeros⟩
  have hzero : ∀ c rest, digits ++ List.replicate n '0' = '0' :: c :: rest → False := fun c rest heq => by
    obtain ⟨c', ds, rfl⟩ := List.exists_cons_of_ne_nil hdigits.1
    obtain ⟨rfl, -⟩ := List.cons.inj heq
    exact hleading ds rfl
  have hnumber : naturalOfDigits (digits ++ List.replicate n '0' ++ ['0']) =
      naturalOfDigits digits * 10 ^ n * 10 := by
    rw [naturalOfDigits_append, naturalOfDigits_append, naturalOfDigits_replicate, List.length_replicate,
      Nat.add_zero]
    rfl
  have h := denotes_point hwhole hzero (show AreDigits ['0'] from areDigits_of_all nofun rfl) (by rwa [hnumber])
  rwa [hnumber] at h

end

/-- A decimal is written so that it denotes its digits and its exponent, or as a whole number with a zero after
the point. -/
theorem denotes_text (layout : NumeralLayout) {d : Decimal} (hd : 0 < d.digits) (hfits : d.digits ≤ maxUnsigned)
    (hwhole : 0 ≤ d.exponent → d.digits * 10 ^ d.exponent.toNat < 10 ^ (layout.greatestPositional + 1).toNat →
      d.digits * 10 ^ d.exponent.toNat * 10 ≤ maxUnsigned) :
    Denotes (d.text layout) ⟨d.digits, d.exponent⟩ ∨
      0 ≤ d.exponent ∧ d.digits * 10 ^ d.exponent.toNat < 10 ^ (layout.greatestPositional + 1).toNat ∧
        Denotes (d.text layout) ⟨d.digits * 10 ^ d.exponent.toNat * 10, -1⟩ := by
  have hdigits := areDigits_decimalDigits d.digits
  have hvalue := naturalOfDigits_decimalDigits d.digits
  have hleading : ∀ rest, decimalDigits d.digits ≠ '0' :: rest := head_decimalDigits hd
  have hpos : 0 < (decimalDigits d.digits).length := List.length_pos_of_ne_nil hdigits.1
  -- the digits have as many places as the number of them says
  have hlt : d.digits < 10 ^ (decimalDigits d.digits).length :=
    (Nat.length_toDigits_le_iff (by decide) hpos).mp le_rfl
  rw [Decimal.text]
  generalize decimalDigits d.digits = digits at *
  dsimp only
  obtain ⟨leading, hlead⟩ : ∃ leading : ℤ, leading = (digits.length : ℤ) - 1 + d.exponent := ⟨_, rfl⟩
  rw [← hlead]
  rw [← hvalue] at hfits
  -- the layout writes a number out if its leading digit is near the point
  by_cases hpositional : layout.leastPositional ≤ leading ∧ leading ≤ layout.greatestPositional
  · rw [if_pos hpositional]
    by_cases hinteger : (digits.length : ℤ) - 1 ≤ leading
    -- without a fraction zeros are appended and the point comes behind them
    · rw [if_pos hinteger]
      have hsize : d.digits * 10 ^ d.exponent.toNat < 10 ^ (layout.greatestPositional + 1).toNat := by
        calc d.digits * 10 ^ d.exponent.toNat < 10 ^ digits.length * 10 ^ d.exponent.toNat :=
              Nat.mul_lt_mul_of_pos_right hlt (Nat.pow_pos (by decide))
          _ = 10 ^ (digits.length + d.exponent.toNat) := (Nat.pow_add _ _ _).symm
          _ ≤ 10 ^ (layout.greatestPositional + 1).toNat := Nat.pow_le_pow_right (by decide) (by omega)
      have hexponent : 0 ≤ d.exponent := by omega
      have h := denotes_whole hdigits hleading d.exponent.toNat (by rw [hvalue]; exact hwhole hexponent hsize)
      rw [hvalue] at h
      exact .inr ⟨hexponent, hsize, h⟩
    · rw [if_neg hinteger]
      left
      by_cases hmiddle : 0 ≤ leading
      · rw [if_pos hmiddle]
        have h := denotes_split hdigits hleading (Nat.succ_pos leading.toNat) (by omega) hfits
        rwa [hvalue, show -(digits.length - (leading.toNat.succ : ℕ) : ℤ) = d.exponent by omega] at h
      · rw [if_neg hmiddle]
        have h := denotes_small hdigits (-leading - 1).toNat hfits
        rwa [hvalue, show -((-leading - 1).toNat + digits.length : ℤ) = d.exponent by omega] at h
  -- otherwise it is written with an exponent
  · rw [if_neg hpositional]
    left
    obtain ⟨c, rest, rfl⟩ := List.exists_cons_of_ne_nil hdigits.1
    have h := denotes_scientific hdigits leading hfits
    rw [List.length_cons] at hlead
    rwa [hvalue, show leading - rest.length = d.exponent by omega] at h

/-! ## Reading decimals -/

/-- Text that denotes a significand is read as the double of its parts, with either sign. -/
lemma reads_of_denotes {text : List Char} {s : Significand} (h : Denotes text s) {negative : Bool}
    {x : Double} (hx : doubleOfParts? negative s = some x) :
    Reads (if negative then '-' :: text else text) (.number (.double x)) := by
  obtain ⟨n, hproper, hchars, hnumber⟩ := h negative
  rw [← hchars]
  exact n.reads hproper (by rw [hnumber, hx, Option.map_some])

/-- The natural numbers up to the length of the significand are doubles, and so are the even ones up to twice
of it. -/
lemma exists_double_natural {m j : Nat} (hm : m ≤ 2 ^ 53) (hj : j ≤ 1) :
    ∃ a, a < double.infinityRank ∧ double.value a = (m * 2 ^ j : Nat) := by
  obtain ⟨a, ha⟩ := double.exists_value (show m ≤ 2 * 2 ^ double.fractionBits from hm)
    ((show double.minExponent ≤ 0 by decide).trans (Int.natCast_nonneg j))
  have hvalue : double.value a = (m * 2 ^ j : Nat) := by
    rw [ha, zpow_natCast]
    push_cast
    rfl
  refine ⟨a, ?_, hvalue⟩
  have hle : m * 2 ^ j ≤ 2 ^ 53 * 2 ^ 1 := Nat.mul_le_mul hm (Nat.pow_le_pow_right (by decide) hj)
  have hle' : ((m * 2 ^ j : Nat) : ℚ) ≤ 2 ^ 54 := by exact_mod_cast hle
  rw [← double.value_strictMono.lt_iff_lt, hvalue, value_infinityRank_double]
  exact hle'.trans_lt (pow_lt_pow_right₀ (by norm_num) (by norm_num))

/-- The text of a decimal with small parts is read as the nearest double. -/
theorem reads_decimal {layout : NumeralLayout} {d : Decimal} {r : Nat} (hd : 0 < d.digits)
    (hdigits : d.digits ≤ 2 ^ 53) (hexponent : d.exponent.natAbs ≤ 22)
    (hwhole : d.value < 10 ^ (layout.greatestPositional + 1).toNat → d.value < 10 ^ 15)
    (h : double.Rounds r d.value) (hr : r < double.infinityRank) (negative : Bool) :
    Reads (if negative then '-' :: d.text layout else d.text layout)
      (.number (.double (ofRank negative r))) := by
  have hunsigned : maxUnsigned = 18446744073709551615 := rfl
  have hinteger : 0 ≤ d.exponent → d.value = (d.digits * 10 ^ d.exponent.toNat : Nat) := by
    intro he
    obtain ⟨e, he'⟩ := Int.eq_ofNat_of_zero_le he
    rw [Decimal.value, he', zpow_natCast, Int.toNat_natCast]
    push_cast
    rfl
  have hsmall : 0 ≤ d.exponent → d.digits * 10 ^ d.exponent.toNat < 10 ^ (layout.greatestPositional + 1).toNat →
      d.digits * 10 ^ d.exponent.toNat < 10 ^ 15 := by
    intro he hlt
    rw [hinteger he] at hwhole
    exact_mod_cast hwhole (by exact_mod_cast hlt)
  -- what the reader collects stays within 64 bits
  have hfits : 0 ≤ d.exponent → d.digits * 10 ^ d.exponent.toNat < 10 ^ (layout.greatestPositional + 1).toNat →
      d.digits * 10 ^ d.exponent.toNat * 10 ≤ maxUnsigned := fun he hlt => by
    have := hsmall he hlt
    omega
  rcases denotes_text layout hd (by omega) hfits with hdenotes | ⟨he, hlt, hdenotes⟩
  · obtain ⟨a, ha, hvalue⟩ := exists_double_natural hdigits (Nat.zero_le 1)
    rw [pow_zero, mul_one] at hvalue
    exact reads_of_denotes hdenotes (doubleOfParts?_eq hvalue ha hexponent h hr)
  -- a whole number has a zero behind the point, which the reader collects too
  · have hbound := hsmall he hlt
    obtain ⟨a, ha, hvalue⟩ :=
      exists_double_natural (show d.digits * 10 ^ d.exponent.toNat * 5 ≤ 2 ^ 53 by omega) le_rfl
    rw [show d.digits * 10 ^ d.exponent.toNat * 5 * 2 ^ 1 = d.digits * 10 ^ d.exponent.toNat * 10 by ring]
      at hvalue
    refine reads_of_denotes hdenotes (doubleOfParts?_eq hvalue ha (by decide) ?_ hr)
    rw [Nat.cast_mul, ← hinteger he, Nat.cast_ofNat, zpow_neg, zpow_one, mul_inv_cancel_right₀ (by norm_num)]
    exact h

lemma reads_zero (negative : Bool) :
    Reads (if negative then ['-', '0', '.', '0'] else ['0', '.', '0'])
      (.number (.double (ofRank negative 0))) := by
  have hzero : AreDigits ['0'] := areDigits_of_all nofun rfl
  have hdenotes : Denotes ['0', '.', '0'] ⟨0, -1⟩ := denotes_point hzero nofun hzero (Nat.zero_le _)
  refine reads_of_denotes hdenotes (doubleOfParts?_eq (a := 0) (by simp) (by decide) (by decide) ?_ (by decide))
  rw [Nat.cast_zero, zero_mul, ← double.value_zero]
  exact double.rounds_value 0

end FeatureFlags.Json
