import FeatureFlags.Json.Decoder
import FeatureFlags.Json.Document
import FeatureFlags.Proofs.Text.Scan
import Mathlib.Data.List.Forall2
import Mathlib.Tactic.SplitIfs

/-!
# Reading what was written

`Reads chars t` says that a text is read as the tree `t`, whatever follows it that cannot be part of it.
The texts that are written are read as expected:

* `readString_escape`: a string in quotes is read as this string;
* `Numeral.reads`: the text of a number is taken apart into this number;
* `reads_array`, `reads_object`: arrays and objects are read item by item and member by member.
-/

namespace FeatureFlags.Json

open Text

/-! ## What follows a value -/

/-- Texts that do not go on a number: they are empty, or start with some other character. -/
def Delimited (text : List Char) : Prop :=
  ∀ c rest, text = c :: rest → isDigit c = false ∧ c ≠ '.' ∧ c ≠ 'e' ∧ c ≠ 'E'

lemma delimited_nil : Delimited [] := nofun

/-- A character that no number goes on with delimits the number in front of it. -/
lemma delimited_cons {c : Char} {rest : List Char}
    (h : isDigit c = false ∧ c ≠ '.' ∧ c ≠ 'e' ∧ c ≠ 'E') : Delimited (c :: rest) := by
  rintro d tail heq
  cases heq
  exact h

/-- A text is read as a complete tree; blanks at its end may be left over. -/
structure Reads (chars : List Char) (t : Tree) : Prop where
  whole : t.skip = .ok ()
  read : ∀ {fuel : Nat} {suffix : List Char}, chars.length < fuel → Delimited suffix →
    ∃ rest, readTree fuel (chars ++ suffix) = (t, rest) ∧ skipBlanks rest = skipBlanks suffix

/-- A text that is read as a tree is the text of this tree. -/
lemma Reads.ofText {chars : List Char} {t : Tree} (h : Reads chars t) :
    Tree.ofText (String.ofList chars) = (t, true) := by
  obtain ⟨rest, hread, hrest⟩ := h.read (Nat.lt_succ_self _) delimited_nil
  rw [List.append_nil] at hread
  simp only [Tree.ofText, String.toList_ofList, hread, hrest]
  rfl

/-- Decoding a text that is read as a tree is decoding the tree. -/
lemma Reads.run {α : Type} {chars : List Char} {t : Tree} (h : Reads chars t) (d : Decoder α) :
    d.run (String.ofList chars) = d nestingRoom t := by
  rw [Decoder.run, h.ofText]
  change (d nestingRoom t >>= fun a => .ok a) = _
  cases d nestingRoom t <;> rfl

lemma skipBlanks_skipBlanks (text : List Char) : skipBlanks (skipBlanks text) = skipBlanks text := by
  induction text with
  | nil => rfl
  | cons c rest ih =>
    rw [skipBlanks]
    split_ifs with hc
    · exact ih
    · rw [skipBlanks, if_neg hc]

/-- Blanks in front of a tree do not matter. -/
lemma readTree_skipBlanks (fuel : Nat) (text : List Char) :
    readTree fuel (skipBlanks text) = readTree fuel text := by
  cases fuel with
  | zero => rfl
  | succ fuel => rw [readTree, readTree, skipBlanks_skipBlanks]

/-! ## Words -/

lemma reads_null : Reads nullText .null := by
  refine ⟨rfl, fun {fuel suffix} hfuel _ => ⟨suffix, ?_, rfl⟩⟩
  obtain ⟨fuel, rfl⟩ := Nat.exists_eq_succ_of_ne_zero (Nat.ne_zero_of_lt hfuel)
  rfl

lemma reads_bool (b : Bool) : Reads (Document.chars (.bool b)) (.bool b) := by
  refine ⟨rfl, fun {fuel suffix} hfuel _ => ⟨suffix, ?_, rfl⟩⟩
  obtain ⟨fuel, rfl⟩ := Nat.exists_eq_succ_of_ne_zero (Nat.ne_zero_of_lt hfuel)
  cases b <;> rfl

/-! ## Strings -/

lemma hexValue?_hexDigit : ∀ n < 16, hexValue? (hexDigit n) = some n := by decide

/-- A control character is read back from its `\u` escape. -/
lemma readString_unicode (done : List Char) (rest : List Char) {c : Char} (h : c.toNat < 0x20) :
    readString done true
        ('\\' :: 'u' :: '0' :: '0' :: hexDigit (c.toNat / 16) :: hexDigit (c.toNat % 16) :: rest) =
      readString (c :: done) true rest := by
  -- two digits are enough for a control character, so the unit is the character itself
  have hunit : hexValue4? '0' '0' (hexDigit (c.toNat / 16)) (hexDigit (c.toNat % 16)) =
      some c.toNat := by
    have hzero : hexValue? '0' = some 0 := by decide
    simp only [hexValue4?, hzero, hexValue?_hexDigit _ (show c.toNat / 16 < 16 by omega),
      hexValue?_hexDigit _ (show c.toNat % 16 < 16 by omega)]
    congr 1
    omega
  have hlead : isLeadingSurrogate c.toNat = false := by
    simp only [isLeadingSurrogate, Bool.and_eq_false_iff, decide_eq_false_iff_not]
    omega
  have htrail : isTrailingSurrogate c.toNat = false := by
    simp only [isTrailingSurrogate, Bool.and_eq_false_iff, decide_eq_false_iff_not]
    omega
  rw [readString]
  simp [hunit, hlead, htrail, Char.ofNat_toNat]

lemma readString_simple (done : List Char) (paired : Bool) (rest : List Char) {c e : Char}
    (h : simpleEscape? c = some e) :
    readString done paired ('\\' :: c :: rest) = readString (e :: done) paired rest := by
  rw [readString.eq_def]
  split
  case h_7 hescape heq =>
    cases heq
    exact absurd rfl (hescape c rest rfl)
  all_goals simp_all [simpleEscape?]

lemma readString_plain (done : List Char) (paired : Bool) (rest : List Char) {c : Char}
    (hquote : c ≠ '"') (hslash : c ≠ '\\') (h : ¬ c.toNat < 0x20) :
    readString done paired (c :: rest) = readString (c :: done) paired rest := by
  rw [readString.eq_def]
  split
  case h_7 heq =>
    cases heq
    rw [if_neg h]
  all_goals simp_all

/-- A character that was written inside a string is read as this character. -/
lemma readString_escapeChar (done : List Char) (c : Char) (rest : List Char) :
    readString done true (escapeChar c ++ rest) = readString (c :: done) true rest := by
  rw [escapeChar.eq_def]
  split
  case h_8 hquote hslash _ _ _ _ _ =>
    split_ifs with hcontrol
    · exact readString_unicode done rest hcontrol
    · exact readString_plain done true rest hquote hslash hcontrol
  all_goals exact readString_simple done true rest rfl

/-- By induction on the characters: what the writer escapes the reader restores, up to the closing quote. -/
theorem readString_escape (s : String) (rest : List Char) :
    readString [] true (s.toList.flatMap escapeChar ++ '"' :: rest) = .closed (some s) rest := by
  have hdone : ∀ (chars done : List Char),
      readString done true (chars.flatMap escapeChar ++ '"' :: rest) =
        .closed (some (String.ofList (done.reverse ++ chars))) rest := by
    intro chars
    induction chars with
    | nil => intro done; simp [readString]
    | cons c chars ih =>
      intro done
      rw [List.flatMap_cons, List.append_assoc, readString_escapeChar, ih]
      simp
  simpa using hdone s.toList []

/-- A quoted string is read as the string. -/
lemma reads_string (s : String) : Reads (quoted s) (.string s) := by
  refine ⟨rfl, fun {fuel suffix} hfuel _ => ⟨suffix, ?_, rfl⟩⟩
  obtain ⟨fuel, rfl⟩ := Nat.exists_eq_succ_of_ne_zero (Nat.ne_zero_of_lt hfuel)
  have hread := readString_escape s suffix
  rw [quoted, List.cons_append, List.cons_append, List.append_assoc, List.singleton_append, readTree]
  simp [skipBlanks, isBlank, hread, StringText.toTree]

/-! ## Numbers -/

/-- Decimal digits, at least one. -/
def AreDigits (digits : List Char) : Prop := digits ≠ [] ∧ ∀ c ∈ digits, isDigit c = true

lemma areDigits_of_all {digits : List Char} (hne : digits ≠ []) (h : digits.all isDigit = true) :
    AreDigits digits := ⟨hne, List.all_eq_true.mp h⟩

namespace Numeral

/-- The text after the whole digits: the fraction, if there is one. -/
def fractionChars : Option (List Char) → List Char
  | none => []
  | some digits => '.' :: digits

/-- The text of the exponent, if there is one; its sign is always there. -/
def exponentChars : Option (Bool × List Char) → List Char
  | none => []
  | some (negative, digits) => 'e' :: (if negative then '-' else '+') :: digits

/-- The text of a number without its sign. -/
def unsignedChars (n : Numeral) : List Char :=
  n.whole ++ (fractionChars n.fraction ++ exponentChars n.exponent)

/-- The text of a number. -/
def chars (n : Numeral) : List Char := if n.negative then '-' :: n.unsignedChars else n.unsignedChars

/-- Whether the text of the number is one in JSON: there are digits wherever digits belong, and a leading
zero stands alone. -/
structure Proper (n : Numeral) : Prop where
  whole : AreDigits n.whole
  leading : ∀ c rest, n.whole = '0' :: c :: rest → False
  fraction : ∀ digits, n.fraction = some digits → AreDigits digits
  exponent : ∀ negative digits, n.exponent = some (negative, digits) → AreDigits digits

end Numeral

/-- Digits are taken up to the first character that is not one. -/
lemma takeWhile_digits {digits rest : List Char} (hdigits : ∀ c ∈ digits, isDigit c = true)
    (hrest : ∀ c tail, rest = c :: tail → isDigit c = false) :
    (digits ++ rest).takeWhile isDigit = digits ∧ (digits ++ rest).dropWhile isDigit = rest := by
  apply scan_of_forall hdigits
  intro c hc
  obtain ⟨tail, htail⟩ := List.head?_eq_some_iff.mp hc
  exact hrest c tail htail

/-- Without an exponent the number ends here. -/
lemma readExponent_of_delimited (n : Numeral) {text : List Char} (h : Delimited text) :
    readExponent n text = .complete n text := by
  cases text with
  | nil => rfl
  | cons c rest =>
    obtain ⟨-, -, he, hE⟩ := h c rest rfl
    rw [readExponent.eq_def]
    split <;> simp_all

/-- The digits of an exponent are read up to the end of the number. -/
lemma complete_exponent (n : Numeral) (negative : Bool) {digits text : List Char}
    (hdigits : AreDigits digits) (h : Delimited text) :
    (match (digits ++ text).takeWhile isDigit with
      | [] => missingDigit (digits ++ text)
      | digits' => .complete { n with exponent := some (negative, digits') }
          ((digits ++ text).dropWhile isDigit)) =
      NumberText.complete { n with exponent := some (negative, digits) } text := by
  obtain ⟨htake, hdrop⟩ := takeWhile_digits hdigits.2 fun c tail heq => (h c tail heq).1
  obtain ⟨d, ds, rfl⟩ := List.exists_cons_of_ne_nil hdigits.1
  rw [htake, hdrop]

/-- An exponent as the writer puts it, with its sign always written. -/
lemma readExponent_signed (n : Numeral) {negative : Bool} {digits text : List Char}
    (hdigits : AreDigits digits) (h : Delimited text) :
    readExponent n ('e' :: (if negative then '-' else '+') :: (digits ++ text)) =
      .complete { n with exponent := some (negative, digits) } text := by
  cases negative with
  | false => exact complete_exponent n false hdigits h
  | true => exact complete_exponent n true hdigits h

/-- An exponent is read up to the end of the number. -/
lemma readExponent_exponentChars {n : Numeral} {e : Option (Bool × List Char)} {text : List Char}
    (hnone : n.exponent = none)
    (hdigits : ∀ negative digits, e = some (negative, digits) → AreDigits digits)
    (h : Delimited text) :
    readExponent n (Numeral.exponentChars e ++ text) = .complete { n with exponent := e } text := by
  rcases e with _ | ⟨negative, digits⟩
  · rw [Numeral.exponentChars, List.nil_append, readExponent_of_delimited n h, ← hnone]
  · exact readExponent_signed n (hdigits negative digits rfl) h

/-- What follows the digits of a number before its exponent is no digit. -/
lemma exponentChars_head {e : Option (Bool × List Char)} {text : List Char} (h : Delimited text) :
    ∀ c tail, Numeral.exponentChars e ++ text = c :: tail → isDigit c = false ∧ c ≠ '.' := by
  rcases e with _ | ⟨negative, digits⟩
  · intro c tail heq
    exact ⟨(h c tail heq).1, (h c tail heq).2.1⟩
  · rintro c tail heq
    cases heq
    decide

/-- A fraction is read, and the exponent after it. -/
lemma readFraction_chars {n : Numeral} {f : Option (List Char)} {e : Option (Bool × List Char)}
    {text : List Char} (hfraction : n.fraction = none) (hexponent : n.exponent = none)
    (hf : ∀ digits, f = some digits → AreDigits digits)
    (he : ∀ negative digits, e = some (negative, digits) → AreDigits digits) (h : Delimited text) :
    readFraction n (Numeral.fractionChars f ++ (Numeral.exponentChars e ++ text)) =
      .complete { n with fraction := f, exponent := e } text := by
  rcases f with _ | digits
  · rw [Numeral.fractionChars, List.nil_append, readFraction.eq_def]
    split
    case h_1 heq => exact absurd rfl (exponentChars_head h _ _ heq).2
    case h_2 => rw [readExponent_exponentChars hexponent he h, ← hfraction]
  · obtain ⟨htake, hdrop⟩ := takeWhile_digits (hf digits rfl).2
      fun c tail heq => (exponentChars_head (e := e) h c tail heq).1
    obtain ⟨d, ds, rfl⟩ := List.exists_cons_of_ne_nil (hf digits rfl).1
    rw [Numeral.fractionChars, List.cons_append, readFraction, htake, hdrop]
    exact readExponent_exponentChars hexponent he h

/-- The text of a number is taken apart into this number. -/
lemma readNumber_unsignedChars {n : Numeral} {text : List Char} (hn : n.Proper) (h : Delimited text) :
    readNumber n.negative (n.unsignedChars ++ text) = .complete n text := by
  have hrest : ∀ c tail, Numeral.fractionChars n.fraction ++ (Numeral.exponentChars n.exponent ++ text) =
      c :: tail → isDigit c = false := by
    cases n.fraction with
    | none => exact fun c tail heq => (exponentChars_head h c tail heq).1
    | some digits =>
      rintro c tail heq
      cases heq
      rfl
  obtain ⟨htake, hdrop⟩ := takeWhile_digits hn.whole.2 hrest
  rw [Numeral.unsignedChars, List.append_assoc, List.append_assoc, readNumber, htake, hdrop]
  split
  case h_1 hnil => exact absurd hnil hn.whole.1
  case h_2 c rest hzero => exact absurd hzero (hn.leading c rest)
  case h_3 => exact readFraction_chars rfl rfl hn.fraction hn.exponent h

lemma not_isBlank_of_isDigit {c : Char} (hc : isDigit c = true) : isBlank c = false := by
  rw [isBlank, Bool.eq_false_iff]
  intro h
  simp only [Bool.or_eq_true, beq_iff_eq] at h
  rcases h with ((rfl | rfl) | rfl) | rfl <;> cases hc

/-- A tree that starts with a digit is a number. -/
lemma readTree_digit {c : Char} (hc : isDigit c = true) (fuel : Nat) (text : List Char) :
    readTree (fuel + 1) (c :: text) = (readNumber false (c :: text)).toTree := by
  rw [readTree, skipBlanks, if_neg (Bool.eq_false_iff.mp (not_isBlank_of_isDigit hc))]
  split
  case h_9 heq =>
    cases heq
    rw [if_pos hc]
  all_goals simp_all <;> cases hc

/-- The text of a number is read as the value of the number. -/
theorem Numeral.reads {n : Numeral} {x : Number} (hn : n.Proper) (hx : n.toNumber? = some x) :
    Reads n.chars (.number x) := by
  refine ⟨rfl, fun {fuel suffix} hfuel h => ⟨suffix, ?_, rfl⟩⟩
  obtain ⟨fuel, rfl⟩ := Nat.exists_eq_succ_of_ne_zero (Nat.ne_zero_of_lt hfuel)
  have hread := readNumber_unsignedChars hn h
  have htree : (NumberText.complete n suffix).toTree = (.number x, suffix) := by
    rw [NumberText.toTree, hx]
  rw [Numeral.chars]
  cases hsign : n.negative with
  | true =>
    rw [if_pos rfl, List.cons_append, ← htree, ← hread, hsign]
    rfl
  | false =>
    obtain ⟨c, rest, hwhole⟩ := List.exists_cons_of_ne_nil hn.whole.1
    have hc : isDigit c = true := hn.whole.2 c (by rw [hwhole]; exact List.mem_cons_self)
    rw [if_neg Bool.false_ne_true, ← htree, ← hread, hsign, unsignedChars, hwhole]
    exact readTree_digit hc fuel _

/-! ## Arrays -/

/-- The items of an array that is complete. -/
def Items.ofTrees : List Tree → Items
  | [] => .closed
  | t :: rest => .item t (Items.ofTrees rest)

/-- Documents with the trees that their texts are read as. -/
abbrev ReadAs (ds : List Document) (ts : List Tree) : Prop :=
  List.Forall₂ (fun d t => Reads d.chars t) ds ts

lemma Items.skip_ofTrees {ds : List Document} {ts : List Tree} (h : ReadAs ds ts) :
    (Items.ofTrees ts).skip = .ok () := by
  induction h with
  | nil => rfl
  | cons hd _ ih =>
    rw [Items.ofTrees, Items.skip, hd.whole]
    exact ih

/-- An item is followed by a comma or a bracket, which both end a number. -/
lemma delimited_itemChars (ds : List Document) (suffix : List Char) :
    Delimited (Document.itemChars ds ++ suffix) := by
  cases ds <;> exact delimited_cons (by decide)

/-- By induction on the items behind the first. -/
lemma readItem_itemChars {ds : List Document} {ts : List Tree} (h : ReadAs ds ts) {d : Document}
    {t : Tree} (hd : Reads d.chars t) {fuel : Nat} {suffix : List Char}
    (hfuel : (d.chars ++ Document.itemChars ds).length < fuel) :
    readItem fuel (d.chars ++ (Document.itemChars ds ++ suffix)) =
      (.item t (Items.ofTrees ts), suffix) := by
  -- the fuel is the length of the text, one more for each comma
  induction h generalizing d t fuel with
  | nil =>
    obtain ⟨fuel, rfl⟩ := Nat.exists_eq_succ_of_ne_zero (Nat.ne_zero_of_lt hfuel)
    simp only [List.length_append, Document.itemChars, List.length_singleton] at hfuel
    obtain ⟨rest, hread, hrest⟩ := hd.read (by omega : d.chars.length < fuel) (delimited_itemChars [] suffix)
    rw [readItem, hread]
    dsimp only
    rw [hrest]
    rfl
  | @cons d' t' ds ts hd' _ ih =>
    obtain ⟨fuel, rfl⟩ := Nat.exists_eq_succ_of_ne_zero (Nat.ne_zero_of_lt hfuel)
    simp only [List.length_append, Document.itemChars, List.cons_append, List.length_cons] at hfuel
    obtain ⟨rest, hread, hrest⟩ :=
      hd.read (by omega : d.chars.length < fuel) (delimited_itemChars (d' :: ds) suffix)
    have hitems : readItem fuel (d'.chars ++ (Document.itemChars ds ++ suffix)) =
        (.item t' (Items.ofTrees ts), suffix) := ih hd' (by simp only [List.length_append]; omega)
    rw [readItem, hread]
    dsimp only
    rw [hrest, Document.itemChars, List.cons_append, List.cons_append, List.append_assoc]
    simp only [skipBlanks, show isBlank ',' = false from rfl, Bool.false_eq_true, if_false, hitems]
    rfl

lemma readItem_skipBlanks (fuel : Nat) (text : List Char) :
    readItem fuel (skipBlanks text) = readItem fuel text := by
  cases fuel with
  | zero => rfl
  | succ fuel => rw [readItem, readItem, readTree_skipBlanks]

/-- After an opening bracket that does not close at once come the items. -/
lemma readTree_bracket {text : List Char} (hnil : skipBlanks text ≠ [])
    (hclosed : ∀ rest, skipBlanks text ≠ ']' :: rest) (fuel : Nat) :
    readTree (fuel + 1) ('[' :: text) =
      (.array (readItem fuel text).1, (readItem fuel text).2) := by
  rw [readTree, skipBlanks, if_neg (by decide)]
  simp only
  rw [readItem_skipBlanks]

/-- No value starts with a closing bracket. -/
lemma Reads.not_bracket {chars : List Char} {t : Tree} (h : Reads chars t) {suffix rest : List Char}
    (hsuffix : Delimited suffix) : skipBlanks (chars ++ suffix) ≠ ']' :: rest := by
  intro heq
  obtain ⟨rest', hread, -⟩ := h.read (Nat.lt_succ_self _) hsuffix
  rw [readTree, heq] at hread
  cases hread
  cases h.whole

lemma Reads.not_nil {chars : List Char} {t : Tree} (h : Reads chars t) {suffix : List Char}
    (hsuffix : Delimited suffix) : skipBlanks (chars ++ suffix) ≠ [] := by
  intro heq
  obtain ⟨rest', hread, -⟩ := h.read (Nat.lt_succ_self _) hsuffix
  rw [readTree, heq] at hread
  cases hread
  cases h.whole

/-- An array is read item by item. -/
theorem reads_array {ds : List Document} {ts : List Tree} (h : ReadAs ds ts) :
    Reads (Document.chars (.array ds)) (.array (Items.ofTrees ts)) := by
  refine ⟨Items.skip_ofTrees h, fun {fuel suffix} hfuel hsuffix => ⟨suffix, ?_, rfl⟩⟩
  obtain ⟨fuel, rfl⟩ := Nat.exists_eq_succ_of_ne_zero (Nat.ne_zero_of_lt hfuel)
  cases h with
  | nil => rfl
  | @cons d t ds ts hd h =>
    simp only [Document.chars, List.length_append, List.length_cons, List.cons_append] at hfuel
    have hitems : readItem fuel (d.chars ++ (Document.itemChars ds ++ suffix)) =
        (.item t (Items.ofTrees ts), suffix) :=
      readItem_itemChars h hd (by simp only [List.length_append]; omega)
    have hdelimited := delimited_itemChars ds suffix
    rw [Document.chars, List.cons_append, List.cons_append, List.append_assoc,
      readTree_bracket (hd.not_nil hdelimited) (fun _ => hd.not_bracket hdelimited), hitems]
    rfl

/-! ## Objects -/

/-- The members of an object that is complete. -/
def Members.ofTrees : List (String × Tree) → Members
  | [] => .closed
  | (name, t) :: rest => .member (some name) t (Members.ofTrees rest)

/-- The text of members after the first, and the closing brace. -/
def memberTexts : List (String × List Char) → List Char
  | [] => ['}']
  | (name, chars) :: rest => ',' :: quoted name ++ ':' :: chars ++ memberTexts rest

/-- The text of an object, given the texts of its values. -/
def objectText : List (String × List Char) → List Char
  | [] => ['{', '}']
  | (name, chars) :: rest => '{' :: quoted name ++ ':' :: chars ++ memberTexts rest

/-- Texts of members with the trees that they are read as. -/
abbrev MembersReadAs (texts : List (String × List Char)) (ts : List (String × Tree)) : Prop :=
  List.Forall₂ (fun m t => m.1 = t.1 ∧ Reads m.2 t.2) texts ts

lemma skip_of_readAs {texts : List (String × List Char)} {ts : List (String × Tree)}
    (h : MembersReadAs texts ts) : ∀ m ∈ ts, m.2.skip = .ok () := by
  induction h with
  | nil => nofun
  | cons hm _ ih =>
    intro m hmem
    rcases List.mem_cons.mp hmem with rfl | hmem
    · exact hm.2.whole
    · exact ih m hmem

lemma Members.skip_ofTrees {ts : List (String × Tree)} (h : ∀ m ∈ ts, m.2.skip = .ok ()) :
    (Members.ofTrees ts).skip = .ok () := by
  induction ts with
  | nil => rfl
  | cons m ts ih =>
    rw [Members.ofTrees, Members.skip, h m List.mem_cons_self]
    exact ih fun n hn => h n (List.mem_cons_of_mem _ hn)

/-- A member is followed by a comma or a brace, which both end a number. -/
lemma delimited_memberTexts (texts : List (String × List Char)) (suffix : List Char) :
    Delimited (memberTexts texts ++ suffix) := by
  rcases texts with _ | ⟨⟨name, chars⟩, rest⟩ <;> exact delimited_cons (by decide)

/-- No blank stands before the opening quotation mark. -/
lemma skipBlanks_quoted (name : String) (text : List Char) :
    skipBlanks (quoted name ++ text) = '"' :: (name.toList.flatMap escapeChar ++ '"' :: text) := by
  rewrite [quoted, List.cons_append, List.cons_append, List.append_assoc]
  rfl

/-- Reads what follows the value of a member: the end of the object, or the other members. -/
def readOtherMembers (fuel : Nat) (text : List Char) : Members × List Char :=
  match skipBlanks text with
  | [] => (.broken .endOfText .endOfText, [])
  | '}' :: rest => (.closed, rest)
  | ',' :: rest => readMember fuel rest
  | _ => (.broken .malformed .malformed, [])

/-- A member is read as its name, its value and the other members. -/
lemma readMember_quoted (fuel : Nat) (name : String) (text : List Char) :
    readMember (fuel + 1) (quoted name ++ ':' :: text) =
      let (value, rest) := readTree fuel text
      let (members, rest) := readOtherMembers fuel rest
      (.member (some name) value members, rest) := by
  have hcolon : skipBlanks (':' :: text) = ':' :: text := rfl
  simp only [readMember, skipBlanks_quoted, readString_escape, hcolon]
  rfl

/-- After an opening brace and a name come the members. -/
lemma readTree_brace (fuel : Nat) (name : String) (text : List Char) :
    readTree (fuel + 1) ('{' :: (quoted name ++ text)) =
      (.object (readMember fuel (quoted name ++ text)).1, (readMember fuel (quoted name ++ text)).2) := by
  rw [readTree, skipBlanks, if_neg (by decide), quoted, List.cons_append, List.cons_append]
  rfl

/-- By induction on the members behind the first. -/
lemma readMember_memberTexts {texts : List (String × List Char)} {ts : List (String × Tree)}
    (h : MembersReadAs texts ts) {name : String} {chars : List Char} {t : Tree} (hm : Reads chars t)
    {fuel : Nat} {suffix : List Char}
    (hfuel : (quoted name ++ ':' :: chars ++ memberTexts texts).length < fuel) :
    readMember fuel (quoted name ++ ':' :: (chars ++ (memberTexts texts ++ suffix))) =
      (.member (some name) t (Members.ofTrees ts), suffix) := by
  -- as for the items, with the names in front of the values
  induction h generalizing name chars t fuel with
  | nil =>
    obtain ⟨fuel, rfl⟩ := Nat.exists_eq_succ_of_ne_zero (Nat.ne_zero_of_lt hfuel)
    simp only [List.length_append, List.length_cons, memberTexts] at hfuel
    obtain ⟨rest, hread, hrest⟩ :=
      hm.read (by omega : chars.length < fuel) (delimited_memberTexts [] suffix)
    rw [readMember_quoted, hread]
    dsimp only
    rw [readOtherMembers, hrest]
    rfl
  | @cons m t' texts ts hm' _ ih =>
    obtain ⟨name', chars'⟩ := m
    obtain ⟨name'', t'⟩ := t'
    obtain ⟨rfl : name' = name'', hm'⟩ := hm'
    obtain ⟨fuel, rfl⟩ := Nat.exists_eq_succ_of_ne_zero (Nat.ne_zero_of_lt hfuel)
    simp only [List.length_append, List.length_cons, memberTexts, List.cons_append] at hfuel
    obtain ⟨rest, hread, hrest⟩ :=
      hm.read (by omega : chars.length < fuel) (delimited_memberTexts ((name', chars') :: texts) suffix)
    have hmembers : readMember fuel (quoted name' ++ ':' :: (chars' ++ (memberTexts texts ++ suffix))) =
        (.member (some name') t' (Members.ofTrees ts), suffix) :=
      ih hm' (by simp only [List.length_append, List.length_cons]; omega)
    rw [readMember_quoted, hread]
    dsimp only
    rw [readOtherMembers, hrest, memberTexts]
    -- the comma is not blank, so the members behind it follow at once
    simp only [List.cons_append, List.append_assoc, skipBlanks, show isBlank ',' = false from rfl,
      Bool.false_eq_true, if_false, hmembers]
    rfl

/-- An object is read member by member. -/
theorem reads_object {texts : List (String × List Char)} {ts : List (String × Tree)}
    (h : MembersReadAs texts ts) : Reads (objectText texts) (.object (Members.ofTrees ts)) := by
  refine ⟨Members.skip_ofTrees (skip_of_readAs h), fun {fuel suffix} hfuel hsuffix => ⟨suffix, ?_, rfl⟩⟩
  obtain ⟨fuel, rfl⟩ := Nat.exists_eq_succ_of_ne_zero (Nat.ne_zero_of_lt hfuel)
  cases h with
  | nil => rfl
  | @cons m t texts ts hm h =>
    obtain ⟨name, chars⟩ := m
    obtain ⟨name', t⟩ := t
    obtain ⟨rfl : name = name', hm⟩ := hm
    simp only [objectText, List.length_append, List.length_cons, List.cons_append] at hfuel
    have hmembers : readMember fuel (quoted name ++ ':' :: (chars ++ (memberTexts texts ++ suffix))) =
        (.member (some name) t (Members.ofTrees ts), suffix) :=
      readMember_memberTexts h hm (by simp only [List.length_append, List.length_cons]; omega)
    simp only [objectText, List.cons_append, List.append_assoc]
    rw [readTree_brace, hmembers]
    rfl

/-- The text of an object is made of the texts of its members. -/
lemma chars_object (members : List (String × Document)) :
    Document.chars (.object members) = objectText (members.map fun m => (m.1, m.2.chars)) := by
  have hrest : ∀ rest : List (String × Document),
      Document.memberChars rest = memberTexts (rest.map fun m => (m.1, m.2.chars)) := by
    intro rest
    induction rest with
    | nil => rfl
    | cons m rest ih => rw [Document.memberChars, ih]; rfl
  cases members with
  | nil => rfl
  | cons m rest => rw [Document.chars, hrest]; rfl

end FeatureFlags.Json
