import FeatureFlags.Proofs.Codec.Values

/-!
# Values by alternatives

A value of a clause or of a flag can be decoded off a text in two ways. One reads a generic value and converts it.
The other reads the value in full and then tries decoders one after the other, each for one form of the value, and
takes the first that accepts it (`Decoder.firstOf`). Both ways accept the same texts with the same results, and
both are what the decoders of this library do (`decoded_as_converted`).

The alternatives for numbers overlap: an integer that fits 64 bits with a sign is found before it can become a
double. No integer of a text lies below those (`Numeral.least_le`).
-/

namespace FeatureFlags

open Json

namespace Json

/-! ## Alternatives -/

namespace Decoder

variable {α : Type}

/-- Decodes with the first of some decoders that accepts a value. The value is read in full before. -/
def firstOf (ds : List (Decoder α)) : Decoder α := fun room t => do
  t.readThrough room
  match ds.findSome? fun d => (d room t).toOption with
  | some a => return a
  | none => throw .mismatch

/-- Decodes `null`, and nothing else. -/
def null (a : α) : Decoder α := fun _ t =>
  match t with
  | .null => .ok a
  | t => .error t.mismatch

/-- A decoder that maps its result maps the result of decoding a text. -/
lemma run_map {β : Type} (f : α → β) (d : Decoder α) (text : String) :
    (map f d).run text = (d.run text).map f := by
  rw [run, run]
  dsimp only [map]
  cases d nestingRoom (Tree.ofText text).1 with
  | error e => rfl
  | ok a => cases (Tree.ofText text).2 <;> rfl

/-- Decoders that agree on the tree of a text agree on the text. -/
lemma run_congr {d d' : Decoder α} {text : String}
    (h : d nestingRoom (Tree.ofText text).1 = d' nestingRoom (Tree.ofText text).1) : d.run text = d'.run text := by
  rw [run, run]
  dsimp only
  rw [h]

/-- Alternatives fail if there is no generic value to try them on. -/
lemma firstOf_of_error {ds : List (Decoder α)} {room : Nat} {t : Tree} {e : DecodeError}
    (h : t.toValue room = .error e) : firstOf ds room t = .error e := by
  rw [firstOf, readThrough_eq, h]
  rfl

/-- The first alternative that succeeds gives the result. -/
lemma firstOf_of_ok {ds : List (Decoder α)} {room : Nat} {t : Tree} {v : Value} {a : α}
    (h : t.toValue room = .ok v) (hfind : ds.findSome? (fun d => (d room t).toOption) = some a) :
    firstOf ds room t = .ok a := by
  rw [firstOf, readThrough_of_toValue h, hfind]
  rfl

end Decoder

end Json

/-! ## Values of clauses -/

namespace AttributeValue

/-- The forms of a value, in the order in which they are tried. -/
def alternatives : List (Decoder AttributeValue) :=
  [Decoder.map string Decoder.string, Decoder.map array (Decoder.list decoder),
    Decoder.map (fun n => number n.toDouble) Decoder.number, Decoder.map bool Decoder.bool,
    Decoder.map object (Decoder.entries decoder), Decoder.null null]

/-- The items of an array are decoded one by one. -/
lemma items_decoder_eq (room : Nat) (items : Items) : Decoder.items decoder room items = ofItems room items := by
  cases items with
  | closed | broken => rfl
  | item t rest =>
    rw [Decoder.items, ofItems, items_decoder_eq room rest]
    rfl

/-- The members of an object are decoded one by one. -/
lemma entriesFrom_decoder_eq (room : Nat) : ∀ (done : Entries AttributeValue) (members : Members),
    Decoder.entriesFrom decoder room done members = ofMembers room done members
  | _, .closed | _, .broken _ _ | _, .member none _ _ => rfl
  | done, .member (some name) t rest => by
    rw [Decoder.entriesFrom, ofMembers]
    exact congrArg (ofTree room t >>= ·) (funext fun v => entriesFrom_decoder_eq room _ rest)

/-- The alternative for arrays does with an array what decoding does. -/
lemma list_decoder_array (room : Nat) (items : Items) :
    Decoder.map array (Decoder.list decoder) room (.array items) = decoder room (.array items) := by
  rw [show decoder room (.array items) = ofTree room (.array items) from rfl, ofTree, Decoder.map, Decoder.list]
  cases enter room with
  | error e => rfl
  | ok inner =>
    dsimp only [bind, Except.bind]
    rw [items_decoder_eq]
    cases ofItems inner items <;> rfl

/-- The alternative for objects does with an object what decoding does. -/
lemma entries_decoder_object (room : Nat) (members : Members) :
    Decoder.map object (Decoder.entries decoder) room (.object members) = decoder room (.object members) := by
  rw [show decoder room (.object members) = ofTree room (.object members) from rfl, ofTree, Decoder.map,
    Decoder.entries]
  cases enter room with
  | error e => rfl
  | ok inner =>
    dsimp only [bind, Except.bind]
    rw [entriesFrom_decoder_eq]
    cases ofMembers inner [] members <;> rfl

/-- A value that can be read is accepted by the alternative for its form. -/
lemma findSome?_alternatives {room : Nat} {t : Tree} {a : AttributeValue} (h : decoder room t = .ok a) :
    alternatives.findSome? (fun d => (d room t).toOption) = some a := by
  cases t with
  | array items =>
    have harray := (list_decoder_array room items).trans h
    simp only [alternatives, List.findSome?_cons, harray]
    rfl
  | object members =>
    have hobject := (entries_decoder_object room members).trans h
    simp only [alternatives, List.findSome?_cons, hobject]
    rfl
  | unreadable | broken => cases h
  | _ =>
    cases h
    rfl

/-- To decode a value directly is to convert the generic value. -/
lemma decoder_eq_map : decoder = Decoder.map ofValue Decoder.value := by
  funext room t
  exact ofTree_eq room t

/-- To decode a value is to take the first alternative that accepts it. -/
lemma decoder_eq_firstOf : decoder = Decoder.firstOf alternatives := by
  funext room t
  cases hv : t.toValue room with
  | error e =>
    rw [Decoder.firstOf_of_error hv, decoder, ofTree_eq, hv]
    rfl
  | ok v =>
    have hdecoded : decoder room t = .ok (ofValue v) := by
      rw [decoder, ofTree_eq, hv]
      rfl
    rw [hdecoded, Decoder.firstOf_of_ok hv (findSome?_alternatives hdecoded)]

end AttributeValue

/-! ## Values of flags -/

namespace Json

/-- The integers of texts fit 64 bits, with a sign if they are negative. -/
theorem Numeral.least_le {n : Numeral} {i : Int} (h : n.toNumber? = some (.integer i)) :
    -2 ^ (63 : Nat) ≤ i := by
  rw [toNumber?] at h
  split at h
  · split at h
    · cases h
      rename_i hdigits
      rw [integerOfDigits?] at hdigits
      split_ifs at hdigits <;> cases hdigits <;> omega
    · obtain ⟨x, -, hx⟩ := Option.map_eq_some_iff.mp h
      cases hx
  · obtain ⟨x, -, hx⟩ := Option.map_eq_some_iff.mp h
    cases hx

/-- A number in a tree stands for a numeral of the text. -/
lemma exists_numeral_of_toTree {text : NumberText} {n : Number} {rest : List Char}
    (h : text.toTree = (.number n, rest)) : ∃ numeral : Numeral, numeral.toNumber? = some n := by
  cases text with
  | broken read skip => cases h
  | complete numeral tail =>
    rw [NumberText.toTree] at h
    cases hnumber : numeral.toNumber? with
    | none =>
      rw [hnumber] at h
      cases h
    | some m =>
      rw [hnumber] at h
      cases h
      exact ⟨numeral, hnumber⟩

/-- A number that is read was written as a numeral. -/
lemma exists_numeral_of_readTree {fuel : Nat} {text rest : List Char} {n : Number}
    (h : readTree fuel text = (.number n, rest)) : ∃ numeral : Numeral, numeral.toNumber? = some n := by
  cases fuel with
  | zero => cases h
  | succ fuel =>
    rw [readTree] at h
    -- keywords, strings, arrays and objects are no numbers
    split at h
    case h_2 | h_3 | h_4 =>
      rw [readWord] at h
      split at h <;> cases h
    case h_5 =>
      cases hstring : readString [] true ‹_› with
      | broken read skip =>
        rw [hstring] at h
        cases h
      | closed value tail =>
        rw [hstring] at h
        cases value <;> cases h
    case h_6 => exact exists_numeral_of_toTree h
    case h_9 =>
      split_ifs at h
      · exact exists_numeral_of_toTree h
      · cases h
    all_goals cases h

/-- A text that is a number is a numeral. -/
lemma exists_numeral_of_ofText {text : String} {n : Number} (h : (Tree.ofText text).1 = .number n) :
    ∃ numeral : Numeral, numeral.toNumber? = some n := by
  rcases hread : readTree (text.toList.length + 1) text.toList with ⟨t, rest⟩
  rw [Tree.ofText, hread] at h
  cases h
  exact exists_numeral_of_readTree hread

end Json

namespace FlagValue

/-- The forms of a value, in the order in which they are tried. -/
def alternatives : List (Decoder FlagValue) :=
  [Decoder.map bool Decoder.bool, Decoder.map string Decoder.string, Decoder.map int Decoder.signed64,
    Decoder.map (fun n => float n.toDouble) Decoder.number, Decoder.map json Decoder.value]

/-- An integer of the signed range is decoded as it is. -/
lemma signed64_integer {room : Nat} {i : Int} (h : -2 ^ (63 : Nat) ≤ i) :
    Decoder.signed64 room (.number (.integer i)) = if i ≤ maxSigned then .ok i else .error .mismatch := by
  show (if -2 ^ (63 : Nat) ≤ i ∧ i ≤ 2 ^ (63 : Nat) - 1 then Except.ok i else .error DecodeError.mismatch) = _
  have hgreatest : i ≤ 2 ^ (63 : Nat) - 1 ↔ i ≤ maxSigned := by
    rw [maxSigned]
    omega
  simp only [h, hgreatest, true_and]

/-- A number is taken as an integer if it fits, else as a double. -/
lemma findSome?_number {room : Nat} {n : Number} (h : ∀ i, n = .integer i → -2 ^ (63 : Nat) ≤ i) :
    alternatives.findSome? (fun d => (d room (.number n)).toOption) = some (ofNumber n) := by
  cases n with
  | double d => rfl
  | integer i =>
    rw [ofNumber]
    simp only [alternatives, List.findSome?_cons, Decoder.map, signed64_integer (h i rfl)]
    split_ifs <;> rfl

/-- A value that can be read is accepted by the alternative for its form. -/
lemma findSome?_alternatives {room : Nat} {t : Tree} {v : Value} (h : t.toValue room = .ok v)
    (hleast : ∀ i, t = .number (.integer i) → -2 ^ (63 : Nat) ≤ i) :
    alternatives.findSome? (fun d => (d room t).toOption) = some (ofValue v) := by
  cases t with
  | number n =>
    cases h
    exact findSome?_number fun i hi => hleast i (congrArg _ hi)
  -- an array or an object is refused by every alternative but the last
  | array items =>
    simp only [alternatives, List.findSome?_cons, Decoder.map, Decoder.value, h]
    rw [Tree.toValue] at h
    obtain ⟨_, -, h⟩ := bind_eq_ok.mp h
    obtain ⟨_, -, h⟩ := bind_eq_ok.mp h
    cases h
    rfl
  | object members =>
    simp only [alternatives, List.findSome?_cons, Decoder.map, Decoder.value, h]
    rw [Tree.toValue] at h
    obtain ⟨_, -, h⟩ := bind_eq_ok.mp h
    obtain ⟨_, -, h⟩ := bind_eq_ok.mp h
    cases h
    rfl
  | unreadable | broken => cases h
  | _ =>
    cases h
    rfl

/-- To decode a flag value directly is to convert the generic value. -/
lemma decoder_eq_map : decoder = Decoder.map ofValue Decoder.value := by
  funext room t
  exact decoder_eq room t

/-- On what is read off a text, decoding a value is taking the first alternative that accepts it. -/
lemma decoder_eq_firstOf {room : Nat} {t : Tree}
    (hleast : ∀ i, t = .number (.integer i) → -2 ^ (63 : Nat) ≤ i) :
    decoder room t = Decoder.firstOf alternatives room t := by
  rw [decoder_eq]
  cases hv : t.toValue room with
  | error e =>
    rw [Decoder.firstOf_of_error hv]
    rfl
  | ok v =>
    rw [Decoder.firstOf_of_ok hv (findSome?_alternatives hv hleast)]
    rfl

end FlagValue

/-! ## Texts -/

/-- For every text, both ways of decoding a value give what the conversion of its generic value gives: they
accept the texts of generic values, with the same errors for all others. -/
theorem decoded_as_converted (text : String) :
    AttributeValue.decoder.run text = (Decoder.value.run text).map AttributeValue.ofValue ∧
    (Decoder.firstOf AttributeValue.alternatives).run text =
      (Decoder.value.run text).map AttributeValue.ofValue ∧
    FlagValue.decoder.run text = (Decoder.value.run text).map FlagValue.ofValue ∧
    (Decoder.firstOf FlagValue.alternatives).run text = (Decoder.value.run text).map FlagValue.ofValue := by
  have hattribute : AttributeValue.decoder.run text = (Decoder.value.run text).map AttributeValue.ofValue := by
    rw [AttributeValue.decoder_eq_map, Decoder.run_map]
  have hflag : FlagValue.decoder.run text = (Decoder.value.run text).map FlagValue.ofValue := by
    rw [FlagValue.decoder_eq_map, Decoder.run_map]
  refine ⟨hattribute, ?_, hflag, ?_⟩
  · rw [← AttributeValue.decoder_eq_firstOf, hattribute]
  · rw [← hflag]
    refine Decoder.run_congr (FlagValue.decoder_eq_firstOf fun i hi => ?_).symm
    obtain ⟨numeral, hnumeral⟩ := exists_numeral_of_ofText hi
    exact Numeral.least_le hnumeral

/-- The three kinds of numbers at the bounds of 64 bits, and negative zero. -/
example : [FlagValue.decoder.run "9223372036854775807", FlagValue.decoder.run "9223372036854775808",
    FlagValue.decoder.run "-0"] =
      [.ok (.int 9223372036854775807), .ok (.float (.ofInt 9223372036854775808)), .ok (.float (.neg .zero))] := by
  rfl

end FeatureFlags
