import FeatureFlags.Proofs.Json.Reading

/-!
# Integers in JSON

The decimal digits of a natural number are read as this number (`naturalOfDigits_decimalDigits`), and an
integer that fits 64 bits, with or without a sign, is read as the integer that was written
(`reads_integer`).
-/

namespace FeatureFlags.Json

open Text

/-! ## Decimal digits -/

lemma isDigit_eq (c : Char) : isDigit c = c.isDigit := rfl

lemma naturalOfDigits_eq (digits : List Char) : naturalOfDigits digits = Nat.ofDigitChars 10 digits 0 := by
  rw [naturalOfDigits, Nat.ofDigitChars_eq_foldl]
  congr 1
  funext n c
  rw [digitValue, Nat.mul_comm]

/-- The digits written for a number denote it. -/
@[simp]
theorem naturalOfDigits_decimalDigits (n : Nat) : naturalOfDigits (decimalDigits n) = n := by
  rw [naturalOfDigits_eq, decimalDigits, Nat.ofDigitChars_toDigits (by decide) (by decide)]

/-- What is written for a number is one or more digits. -/
lemma areDigits_decimalDigits (n : Nat) : AreDigits (decimalDigits n) :=
  ⟨Nat.toDigits_ne_nil, fun c hc => by
    rw [isDigit_eq]
    exact Nat.isDigit_of_mem_toDigits (by decide) (by decide) hc⟩

/-- Only zero is written with a leading zero. -/
lemma head_decimalDigits {n : Nat} (hn : 0 < n) : ∀ rest, decimalDigits n ≠ '0' :: rest := by
  induction n using Nat.strongRecOn with
  | _ n ih =>
    intro rest heq
    rw [decimalDigits, Nat.toDigits_eq_if (by decide)] at heq
    split_ifs at heq with hsmall
    · have hdigit : ∀ m < 10, 0 < m → Nat.digitChar m ≠ '0' := by decide
      exact hdigit n hsmall hn (List.cons.inj heq).1
    · have hhead := ih (n / 10) (by omega) (by omega)
      rcases hdigits : decimalDigits (n / 10) with _ | ⟨c, cs⟩
      · exact (areDigits_decimalDigits (n / 10)).1 hdigits
      · rw [← decimalDigits, hdigits] at heq
        obtain ⟨rfl, -⟩ := List.cons.inj heq
        exact hhead cs hdigits

/-! ## Integers -/

/-- The text of an integer, taken apart. -/
def Numeral.ofInt (i : Int) : Numeral := ⟨i < 0, decimalDigits i.natAbs, none, none⟩

/-- The numeral of an integer is spelled as the integer is. -/
lemma Numeral.chars_ofInt (i : Int) : (Numeral.ofInt i).chars = integerText i := by
  rw [integerText, chars, unsignedChars]
  simp only [ofInt, fractionChars, exponentChars, List.append_nil, decide_eq_true_eq]

lemma proper_of_decimalDigits {negative : Bool} {n : Nat} :
    Numeral.Proper ⟨negative, decimalDigits n, none, none⟩ where
  whole := areDigits_decimalDigits n
  leading c rest heq := by
    rcases Nat.eq_zero_or_pos n with rfl | hn
    · cases heq
    · exact head_decimalDigits hn _ heq
  fraction := nofun
  exponent := nofun

/-- The numeral of an integer within 64 bits is read as that integer. -/
lemma toNumber?_ofInt {i : Int} (hleast : -9223372036854775808 ≤ i)
    (hgreatest : i ≤ 18446744073709551615) : (Numeral.ofInt i).toNumber? = some (.integer i) := by
  have hunsigned : maxUnsigned = 18446744073709551615 := rfl
  have hinteger : integerOfDigits? (i < 0) (decimalDigits i.natAbs) = some i := by
    rw [integerOfDigits?, naturalOfDigits_decimalDigits]
    by_cases hnegative : i < 0
    · rw [decide_eq_true hnegative, if_pos rfl, if_pos (by omega)]
      exact congrArg some (by omega)
    · rw [decide_eq_false hnegative, if_neg Bool.false_ne_true, if_pos (by omega)]
      exact congrArg some (by omega)
  rw [Numeral.toNumber?, Numeral.ofInt, hinteger]

/-- An integer that fits 64 bits is read as it was written. -/
theorem reads_integer {i : Int} (hleast : -9223372036854775808 ≤ i) (hgreatest : i ≤ 18446744073709551615) :
    Reads (Document.chars (.integer i)) (.number (.integer i)) := by
  rw [Document.chars, ← Numeral.chars_ofInt]
  exact Numeral.reads proper_of_decimalDigits (toNumber?_ofInt hleast hgreatest)

end FeatureFlags.Json
