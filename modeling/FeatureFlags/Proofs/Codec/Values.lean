import FeatureFlags.Attribute.Value
import FeatureFlags.Flag.Value
import FeatureFlags.Proofs.Json.Codecs

/-!
# Codecs of values

Values of clauses and values of flags are both taken from generic values: decoding one is reading a generic
value and converting it (`AttributeValue.ofTree_eq`, `FlagValue.decoder_eq`). They are restored if their
numbers are:

* a number of a clause is a double, which may be written as an integer;
* a number of a flag value keeps its kind.
-/

namespace FeatureFlags

open Json

namespace Json

/-! ## Numbers that are written some way -/

/-- A document is read as a number like the given one. -/
def Recovers (alike : Number → Bool) (d : Document) : Prop :=
  ∃ n, Reads d.chars (.number n) ∧ alike n = true

/-- A value is read again if each of its numbers can be read again. -/
lemma exists_mapNumbers (alike : Number → Number → Bool) {write : Number → Document} {room : Nat}
    {t : Tree} {v : Value} (h : t.toValue room = .ok v)
    (hnumbers : ∀ n ∈ v.numbers, Recovers (alike n) (write n)) :
    ∃ f, (∀ n ∈ v.numbers, alike n (f n) = true) ∧
      Reads (Document.ofValueWith write v).chars (Tree.ofValue (v.mapNumbers f)) ∧
      (Tree.ofValue (v.mapNumbers f)).toValue room = .ok (v.mapNumbers f) := by
  have hchoice : ∀ n, ∃ n', n ∈ v.numbers → Reads (write n).chars (.number n') ∧ alike n n' = true := by
    intro n
    by_cases hn : n ∈ v.numbers
    · obtain ⟨n', h⟩ := hnumbers n hn
      exact ⟨n', fun _ => h⟩
    · exact ⟨n, fun h => absurd h hn⟩
  obtain ⟨f, hf⟩ := Classical.axiom_of_choice hchoice
  refine ⟨f, fun n hn => (hf n hn).2, reads_ofValueWith v fun n hn => (hf n hn).1, ?_⟩
  rw [toValue_mapNumbers, toValue_ofValue h]
  rfl

end Json

/-! ## Values of clauses -/

namespace AttributeValue

mutual

/-- The numbers of a value. -/
def numbers : AttributeValue → List Double
  | .null | .bool _ | .string _ => []
  | .number d => [d]
  | .array items => numbersOfItems items
  | .object members => numbersOfMembers members

/-- The numbers of the items of an array. -/
def numbersOfItems : List AttributeValue → List Double
  | [] => []
  | v :: rest => v.numbers ++ numbersOfItems rest

/-- The numbers of the members of an object. -/
def numbersOfMembers : List (String × AttributeValue) → List Double
  | [] => []
  | (_, v) :: rest => v.numbers ++ numbersOfMembers rest

end

/-- The members of an object are converted one by one. -/
lemma ofEntries_eq (entries : Entries Value) : ofEntries entries = Entries.mapValues ofValue entries := by
  induction entries with
  | nil => rfl
  | cons e rest ih =>
    rw [ofEntries, ih]
    rfl

mutual

/-- Reading an attribute value is reading a generic value and converting it. -/
theorem ofTree_eq (room : Nat) : ∀ t : Tree, ofTree room t = (t.toValue room).map ofValue
  | .null | .bool _ | .number _ | .string _ | .unreadable | .broken _ _ => rfl
  | .array items => by
    rw [ofTree, Tree.toValue]
    cases enter room with
    | error e => rfl
    | ok inner =>
      dsimp only [bind, Except.bind]
      rw [ofItems_eq inner items]
      cases items.toValues inner <;> rfl
  | .object members => by
    have hmembers := fun inner => ofMembers_eq inner [] members
    rw [ofEntries] at hmembers
    rw [ofTree, Tree.toValue]
    cases enter room with
    | error e => rfl
    | ok inner =>
      dsimp only [bind, Except.bind]
      rw [hmembers inner]
      cases members.toEntries inner [] <;> rfl

/-- To convert the items while they are read is to read and then to convert them. -/
lemma ofItems_eq (room : Nat) : ∀ items : Items,
    ofItems room items = (items.toValues room).map ofValues
  | .closed | .broken _ => rfl
  | .item t rest => by
    rw [ofItems, Items.toValues, ofTree_eq room t, ofItems_eq room rest]
    cases t.toValue room with
    | error e => rfl
    | ok v => cases rest.toValues room <;> rfl

/-- To convert the members while they are read is to read and then to convert them. -/
lemma ofMembers_eq (room : Nat) : ∀ (done : Entries Value) (members : Members),
    ofMembers room (ofEntries done) members = (members.toEntries room done).map ofEntries
  | _, .closed | _, .broken _ _ | _, .member none _ _ => rfl
  | done, .member (some name) t rest => by
    rw [ofMembers, Members.toEntries, ofTree_eq room t]
    cases t.toValue room with
    | error e => rfl
    | ok v =>
      have hinsert : Entries.insert name (ofValue v) (ofEntries done) =
          ofEntries (Entries.insert name v done) := by
        rw [ofEntries_eq, ofEntries_eq, Entries.insert_mapValues]
      dsimp only [bind, Except.bind, Except.map]
      rw [hinsert]
      exact ofMembers_eq room _ rest

end

mutual

/-- A converted value is written like the generic one, with doubles for numbers. -/
lemma document_ofValue : ∀ v : Value,
    (ofValue v).document = Document.ofValueWith (fun n => .exactDouble n.toDouble) v
  | .null | .bool _ | .string _ | .number _ => rfl
  | .array items => by rw [ofValue, document, documents_ofValues items, Document.ofValueWith]
  | .object members => by
    rw [ofValue, document, memberDocuments_ofEntries members, Document.ofValueWith]

lemma documents_ofValues : ∀ vs : List Value,
    documents (ofValues vs) = Document.ofValuesWith (fun n => .exactDouble n.toDouble) vs
  | [] => rfl
  | v :: rest => by
    rw [ofValues, documents, document_ofValue v, documents_ofValues rest, Document.ofValuesWith]

lemma memberDocuments_ofEntries : ∀ members : Entries Value,
    memberDocuments (ofEntries members) =
      Document.ofEntriesWith (fun n => .exactDouble n.toDouble) members
  | [] => rfl
  | (_, v) :: rest => by
    rw [ofEntries, memberDocuments, document_ofValue v, memberDocuments_ofEntries rest,
      Document.ofEntriesWith]

end

mutual

/-- The numbers of a converted value are those of the generic one, as doubles. -/
lemma numbers_ofValue : ∀ v : Value, (ofValue v).numbers = v.numbers.map Number.toDouble
  | .null | .bool _ | .string _ | .number _ => rfl
  | .array items => numbersOfItems_ofValues items
  | .object members => numbersOfMembers_ofEntries members

lemma numbersOfItems_ofValues : ∀ vs : List Value,
    numbersOfItems (ofValues vs) = (Value.numbersOfItems vs).map Number.toDouble
  | [] => rfl
  | v :: rest => by
    rw [ofValues, numbersOfItems, numbers_ofValue v, numbersOfItems_ofValues rest,
      Value.numbersOfItems, List.map_append]

lemma numbersOfMembers_ofEntries : ∀ members : Entries Value,
    numbersOfMembers (ofEntries members) = (Value.numbersOfMembers members).map Number.toDouble
  | [] => rfl
  | (_, v) :: rest => by
    rw [ofEntries, numbersOfMembers, numbers_ofValue v, numbersOfMembers_ofEntries rest,
      Value.numbersOfMembers, List.map_append]

end

section Same

variable {f : Number → Number}

mutual

/-- Replacing numbers by equal ones gives an equal value. -/
lemma same_mapNumbers : ∀ v : Value, (∀ n ∈ v.numbers, n.toDouble.eq (f n).toDouble = true) →
    (ofValue v).same (ofValue (v.mapNumbers f)) = true
  | .null, _ => rfl
  | .bool _, _ | .string _, _ => beq_self_eq_true _
  | .number n, h => h n List.mem_cons_self
  | .array items, h => sameItems_mapItems items h
  | .object members, h => sameMembers_mapMembers members h

lemma sameItems_mapItems : ∀ vs : List Value,
    (∀ n ∈ Value.numbersOfItems vs, n.toDouble.eq (f n).toDouble = true) →
    sameItems (ofValues vs) (ofValues (Value.mapItems f vs)) = true
  | [], _ => rfl
  | v :: rest, h => by
    rw [Value.mapItems, ofValues, ofValues, sameItems,
      same_mapNumbers v fun n hn => h n (List.mem_append_left _ hn),
      sameItems_mapItems rest fun n hn => h n (List.mem_append_right _ hn)]
    rfl

lemma sameMembers_mapMembers : ∀ members : Entries Value,
    (∀ n ∈ Value.numbersOfMembers members, n.toDouble.eq (f n).toDouble = true) →
    sameMembers (ofEntries members) (ofEntries (Value.mapMembers f members)) = true
  | [], _ => rfl
  | (name, v) :: rest, h => by
    rw [Value.mapMembers, ofEntries, ofEntries, sameMembers, beq_self_eq_true,
      same_mapNumbers v fun n hn => h n (List.mem_append_left _ hn),
      sameMembers_mapMembers rest fun n hn => h n (List.mem_append_right _ hn)]
    rfl

end

end Same

/-- The codec of the values of clauses. -/
def codec : Codec AttributeValue where
  decoder := decoder
  document := document
  same := same
  Legible a := ∀ d ∈ a.numbers, Recovers (fun n => d.eq n.toDouble) (.exactDouble d)
  depth := 0
  restores {room t a} _ h hlegible := by
    rw [decoder, ofTree_eq] at h
    obtain ⟨v, hv, rfl⟩ := map_eq_ok.mp h
    have hnumbers : ∀ n ∈ v.numbers,
        Recovers (fun n' => n.toDouble.eq n'.toDouble) (.exactDouble n.toDouble) := fun n hn =>
      hlegible n.toDouble (by rw [numbers_ofValue]; exact List.mem_map_of_mem hn)
    obtain ⟨f, hf, hreads, hvalue⟩ :=
      exists_mapNumbers (fun n n' => n.toDouble.eq n'.toDouble) hv hnumbers
    refine ⟨_, ofValue (v.mapNumbers f), ?_, readThrough_of_toValue hvalue, ?_, same_mapNumbers v hf⟩
    · rw [document_ofValue]
      exact hreads
    · rw [decoder, ofTree_eq, hvalue]
      rfl

end AttributeValue

/-! ## Values of flags -/

namespace FlagValue

/-- Decoding a flag value is reading a generic value and converting it. -/
theorem decoder_eq (room : Nat) (t : Tree) : decoder room t = (t.toValue room).map ofValue := by
  cases t with
  | array items =>
    rw [decoder, Tree.toValue]
    · cases enter room with
      | error e => rfl
      | ok inner =>
        dsimp only [bind, Except.bind]
        cases items.toValues inner <;> rfl
    all_goals nofun
  | object members =>
    rw [decoder, Tree.toValue]
    · cases enter room with
      | error e => rfl
      | ok inner =>
        dsimp only [bind, Except.bind]
        cases members.toEntries inner [] <;> rfl
    all_goals nofun
  | _ => rfl

/-- A flag value is read as the same value, if its numbers are. -/
def Legible : FlagValue → Prop
  | int i => Recovers (fun n => (int i).same (ofNumber n)) (.integer i)
  | float d => Recovers (fun n => (float d).same (ofNumber n)) (.double d)
  | json v => ∀ n ∈ v.numbers, Recovers (fun n' => Value.same (.number n) (.number n'))
      (Document.ofValue (.number n))
  | _ => True

/-- A legible number is read back from what is written for it. -/
lemma recovers_ofNumber {n : Number} (h : (ofNumber n).Legible) :
    Recovers (fun n' => (ofNumber n).same (ofNumber n')) (ofNumber n).document := by
  cases n with
  | integer i =>
    rw [ofNumber] at h ⊢
    split_ifs at h ⊢ <;> exact h
  | double d => exact h

/-- A variation of any other shape is read back if it is legible. -/
lemma restores_json {room : Nat} {t : Tree} {v : Value} (hv : t.toValue room = .ok v)
    (hlegible : (json v).Legible) (hjson : ∀ f, ofValue (v.mapNumbers f) = json (v.mapNumbers f)) :
    ∃ t' a', Restored decoder same room (json v).document (json v) t' a' := by
  obtain ⟨f, hf, hreads, hvalue⟩ :=
    exists_mapNumbers (fun n n' => Value.same (.number n) (.number n')) hv hlegible
  refine ⟨_, json (v.mapNumbers f), ?_, readThrough_of_toValue hvalue, ?_, Value.same_mapNumbers v hf⟩
  · rw [document, Document.ofValue_eq]
    exact hreads
  · rw [decoder_eq, hvalue, Except.map, hjson]

/-- The codec of the values of flags. -/
def codec : Codec FlagValue where
  decoder := decoder
  document := document
  same := same
  Legible := Legible
  depth := 0
  restores {room t a} _ h hlegible := by
    rw [decoder_eq] at h
    obtain ⟨v, hv, rfl⟩ := map_eq_ok.mp h
    cases v with
    | bool b => exact ⟨.bool b, bool b, reads_bool b, rfl, rfl, beq_self_eq_true b⟩
    | string s => exact ⟨.string s, string s, reads_string s, rfl, rfl, beq_self_eq_true s⟩
    | number n =>
      obtain ⟨n', hreads, hsame⟩ := recovers_ofNumber hlegible
      exact ⟨.number n', ofNumber n', hreads, rfl, rfl, hsame⟩
    | null | array items | object members => exact restores_json hv hlegible fun _ => rfl

@[simp] lemma same_codec : codec.same = same := rfl

end FlagValue

end FeatureFlags
