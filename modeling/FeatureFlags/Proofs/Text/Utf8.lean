import FeatureFlags.Text.Utf8
import Mathlib.Tactic.SplitIfs

/-!
# Decoding what was encoded

The decoder is a machine with one state between characters, so it is enough to follow it through the bytes
of one character: from its start it gives the character and is back at its start
(`decodeFrom_encodeChar`). So `decode` undoes `encode`. The byte of a newline stands in the bytes of a text
only for a newline (`notMem_encode`), since all bytes of longer characters have their highest bit set.
-/

namespace FeatureFlags.Text.Utf8

/-! ## Bytes of a text -/

/-- The loop puts the bytes from an index on behind those that it has gathered. -/
lemma toList_loop (bytes : ByteArray) (left i : Nat) (gathered : List UInt8)
    (hleft : bytes.size = i + left) :
    ByteArray.toList.loop bytes i gathered = gathered.reverse ++ bytes.data.toList.drop i := by
  have hsize : bytes.data.toList.length = bytes.size := Array.length_toList
  -- the loop counts up, so the induction is on the number of bytes that are left
  induction left generalizing i gathered with
  | zero =>
    unfold ByteArray.toList.loop
    rw [if_neg (by omega), List.drop_of_length_le (by omega), List.append_nil]
  | succ left ih =>
    have hi : i < bytes.data.toList.length := by omega
    unfold ByteArray.toList.loop
    rw [if_pos (by omega), ih (i + 1) _ (by omega), List.drop_eq_getElem_cons hi, List.reverse_cons,
      List.append_assoc, List.singleton_append, Array.getElem_toList]
    congr 2
    exact getElem!_pos bytes.data i _

/-- A text is encoded character by character. -/
lemma encode_eq_flatMap (text : String) :
    encode text = text.toList.flatMap String.utf8EncodeChar := by
  unfold encode
  rw [String.toUTF8_eq_toByteArray, ← String.utf8Encode_toList, ByteArray.toList,
    toList_loop _ _ 0 [] (Nat.zero_add _).symm]
  simp [List.utf8Encode]

lemma encode_append (front back : String) : encode (front ++ back) = encode front ++ encode back := by
  simp [encode_eq_flatMap]

/-! ## Steps of the decoder -/

/-- The byte that is written for a number below 256. -/
lemma toNat_byte {n : Nat} (h : n < 256) : (UInt8.ofNat n).toNat = n := by
  rw [UInt8.toNat_ofNat', Nat.mod_eq_of_lt h]

/-- One byte moves the decoder by one step. -/
lemma decodeFrom_byte {n : Nat} (hn : n < 256) {state next : State} {chars : List Char}
    (h : step state n = (chars, next)) (rest : List UInt8) :
    decodeFrom state (UInt8.ofNat n :: rest) = chars ++ decodeFrom next rest := by
  have hcons : ∀ b, decodeFrom state (b :: rest) =
      (step state b.toNat).1 ++ decodeFrom (step state b.toNat).2 rest := by
    intro b
    cases state <;> rfl
  rw [hcons, toNat_byte hn, h]

section Step

variable {bits needed low high b : Nat}

/-- A byte in range that is not the last one of its character. -/
lemma step_inside (hb : low ≤ b ∧ b ≤ high) (hneeded : 1 < needed) :
    step (.inside bits needed low high) b =
      ([], .inside (bits * 64 + (b - 0x80)) (needed - 1) 0x80 0xBF) := by
  simp only [step, if_pos hb, if_neg (Nat.not_le.mpr hneeded)]

/-- The last byte of a character. -/
lemma step_last (hb : low ≤ b ∧ b ≤ high) :
    step (.inside bits 1 low high) b = ([Char.ofNat (bits * 64 + (b - 0x80))], .start) := by
  simp only [step, if_pos hb, Nat.le_refl, if_true]

/-- The first byte of a character of three bytes. The least of these characters and the ones that share
their first byte with surrogates have ranges of their own for the second byte. -/
lemma step_first_three (hb : 0xE0 ≤ b ∧ b ≤ 0xEF) :
    step .start b = ([], .inside (b - 0xE0) 2 (if b = 0xE0 then 0xA0 else 0x80)
      (if b = 0xED then 0x9F else 0xBF)) := by
  simp only [step]
  unfold first
  rw [if_neg (by omega), if_neg (by omega)]
  by_cases he0 : b = 0xE0
  · subst he0
    rfl
  by_cases hed : b = 0xED
  · subst hed
    rfl
  · rw [if_neg he0, if_neg hed, if_pos (by omega), if_neg he0, if_neg hed]

/-- The first byte of a character of four bytes. The least and the greatest of these characters have ranges
of their own for the second byte. -/
lemma step_first_four (hb : 0xF0 ≤ b ∧ b ≤ 0xF4) :
    step .start b = ([], .inside (b - 0xF0) 3 (if b = 0xF0 then 0x90 else 0x80)
      (if b = 0xF4 then 0x8F else 0xBF)) := by
  simp only [step]
  unfold first
  rw [if_neg (by omega), if_neg (by omega), if_neg (by omega), if_neg (by omega), if_neg (by omega)]
  by_cases hf0 : b = 0xF0
  · subst hf0
    rfl
  by_cases hf4 : b = 0xF4
  · subst hf4
    rfl
  · rw [if_neg hf0, if_pos (by omega), if_neg hf0, if_neg hf4]

end Step

/-! ## One character -/

lemma val_bounds (c : Char) :
    c.val.toNat < 0xD800 ∨ 0xDFFF < c.val.toNat ∧ c.val.toNat < 0x110000 := c.valid

/-- The bytes of a character are read as the character, wherever they stand. -/
theorem decodeFrom_encodeChar (c : Char) (rest : List UInt8) :
    decodeFrom .start (String.utf8EncodeChar c ++ rest) = c :: decodeFrom .start rest := by
  have hchar : Char.ofNat c.val.toNat = c := Char.ofNat_toNat c
  have hvalid := val_bounds c
  unfold String.utf8EncodeChar
  generalize c.val.toNat = v at hchar hvalid ⊢
  dsimp only
  split_ifs with h1 h2 h3
  -- one byte
  · have hfirst : step .start v = ([Char.ofNat v], .start) := if_pos (by omega)
    rw [List.cons_append, decodeFrom_byte (by omega) hfirst, hchar]
    rfl
  -- two bytes
  · have hfirst : step .start (v / 64 % 32 + 192) =
        ([], .inside (v / 64 % 32 + 192 - 0xC0) 1 0x80 0xBF) := by
      simp only [step]
      unfold first
      rw [if_neg (by omega), if_pos (by omega)]
    have hv : (v / 64 % 32 + 192 - 0xC0) * 64 + (v % 64 + 128 - 0x80) = v := by omega
    rw [List.cons_append, List.cons_append, decodeFrom_byte (by omega) hfirst,
      decodeFrom_byte (by omega) (step_last (by omega)), hv, hchar]
    rfl
  -- three bytes
  · have hfirst := step_first_three (b := v / 4096 % 16 + 224) (by omega)
    generalize hlow : (if v / 4096 % 16 + 224 = 0xE0 then 0xA0 else 0x80) = low at hfirst
    generalize hhigh : (if v / 4096 % 16 + 224 = 0xED then 0x9F else 0xBF) = high at hfirst
    have hrange : low ≤ v / 64 % 64 + 128 ∧ v / 64 % 64 + 128 ≤ high := by
      rw [← hlow, ← hhigh]
      split_ifs <;> omega
    have hv : ((v / 4096 % 16 + 224 - 0xE0) * 64 + (v / 64 % 64 + 128 - 0x80)) * 64 +
        (v % 64 + 128 - 0x80) = v := by omega
    rw [List.cons_append, List.cons_append, List.cons_append, decodeFrom_byte (by omega) hfirst,
      decodeFrom_byte (by omega) (step_inside hrange (by omega)),
      decodeFrom_byte (by omega) (step_last (by omega)), hv, hchar]
    rfl
  -- four bytes
  · have hfirst := step_first_four (b := v / 262144 % 8 + 240) (by omega)
    generalize hlow : (if v / 262144 % 8 + 240 = 0xF0 then 0x90 else 0x80) = low at hfirst
    generalize hhigh : (if v / 262144 % 8 + 240 = 0xF4 then 0x8F else 0xBF) = high at hfirst
    have hrange : low ≤ v / 4096 % 64 + 128 ∧ v / 4096 % 64 + 128 ≤ high := by
      rw [← hlow, ← hhigh]
      split_ifs <;> omega
    have hv : (((v / 262144 % 8 + 240 - 0xF0) * 64 + (v / 4096 % 64 + 128 - 0x80)) * 64 +
        (v / 64 % 64 + 128 - 0x80)) * 64 + (v % 64 + 128 - 0x80) = v := by omega
    rw [List.cons_append, List.cons_append, List.cons_append, List.cons_append,
      decodeFrom_byte (by omega) hfirst, decodeFrom_byte (by omega) (step_inside hrange (by omega)),
      decodeFrom_byte (by omega) (step_inside (by omega) (by omega)),
      decodeFrom_byte (by omega) (step_last (by omega)), hv, hchar]
    rfl

/-! ## Texts -/

/-- The bytes of a text are read as the text. -/
theorem decode_encode (text : String) : decode (encode text) = text.toList := by
  rw [encode_eq_flatMap, decode]
  induction text.toList with
  | nil => rfl
  | cons c rest ih => rw [List.flatMap_cons, decodeFrom_encodeChar, ih]

/-- All bytes of a character have their highest bit set, unless the character is one byte itself. -/
lemma eq_of_mem_encodeChar {c : Char} {b : UInt8} (hb : b.toNat < 0x80)
    (h : b ∈ String.utf8EncodeChar c) : c.toNat = b.toNat := by
  have hvalid := val_bounds c
  unfold String.utf8EncodeChar at h
  show c.val.toNat = b.toNat
  generalize c.val.toNat = v at hvalid h ⊢
  dsimp only at h
  split_ifs at h <;> simp only [List.mem_cons, List.not_mem_nil, or_false] at h
  · rw [h, toNat_byte (by omega)]
  -- in the other cases the byte is at least 128
  · rcases h with rfl | rfl <;> rw [toNat_byte (by omega)] at hb <;> omega
  · rcases h with rfl | rfl | rfl <;> rw [toNat_byte (by omega)] at hb <;> omega
  · rcases h with rfl | rfl | rfl | rfl <;> rw [toNat_byte (by omega)] at hb <;> omega

/-- A newline is in the bytes of a text only if it is in the text. -/
theorem notMem_encode {text : String} (h : '\n' ∉ text.toList) : 10 ∉ encode text := by
  rw [encode_eq_flatMap, List.mem_flatMap]
  rintro ⟨c, hc, hbyte⟩
  have hnewline : c.toNat = 10 := eq_of_mem_encodeChar (by decide) hbyte
  have heq : c = '\n' := by rw [← Char.ofNat_toNat c, hnewline]
  exact h (heq ▸ hc)

end FeatureFlags.Text.Utf8
