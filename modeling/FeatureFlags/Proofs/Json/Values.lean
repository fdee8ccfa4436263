import FeatureFlags.Proofs.Entries
import FeatureFlags.Proofs.Json.Reading
import Mathlib.Data.String.Basic

/-!
# Generic values

A generic value that was read off a tree is *canonical*: its own tree is read as this value again, in the
same room (`toValue_ofValue`). Its objects have their names in ascending order, each once, so the order in
which their members are met makes no difference.

`Value.mapNumbers` replaces the numbers of a value and leaves its shape as it is. A value whose numbers are
written in some way is read with each number replaced by the one that its text is read as
(`reads_ofValueWith`).
-/

namespace FeatureFlags

/-! ## Entries in order -/

namespace Entries

variable {α β : Type}

/-- Names in ascending order, each once. -/
def Ordered (entries : Entries α) : Prop := entries.names.Pairwise (· < ·)

lemma insert_last {name : String} {value : α} {entries : Entries α}
    (h : ∀ n ∈ entries.names, n < name) : insert name value entries = entries ++ [(name, value)] := by
  induction entries with
  | nil => rfl
  | cons entry rest ih =>
    obtain ⟨first, v⟩ := entry
    have hfirst : first < name := h first List.mem_cons_self
    rw [insert, if_neg (String.lt_asymm hfirst), if_pos hfirst,
      ih fun n hn => h n (List.mem_cons_of_mem _ hn)]
    rfl

lemma mem_names_insert {name n : String} {value : α} {entries : Entries α}
    (h : n ∈ (insert name value entries).names) : n = name ∨ n ∈ entries.names := by
  induction entries with
  | nil => exact .inl (List.mem_singleton.mp h)
  | cons entry rest ih =>
    obtain ⟨first, v⟩ := entry
    rw [insert] at h
    split_ifs at h
    · exact List.mem_cons.mp h
    · rcases List.mem_cons.mp h with rfl | hrest
      · exact .inr List.mem_cons_self
      · exact (ih hrest).imp_right (List.mem_cons_of_mem _)
    · exact (List.mem_cons.mp h).imp_right (List.mem_cons_of_mem _)

lemma mem_insert {name : String} {value : α} {entries : Entries α} {e : String × α}
    (h : e ∈ insert name value entries) : e = (name, value) ∨ e ∈ entries := by
  induction entries with
  | nil => exact .inl (List.mem_singleton.mp h)
  | cons entry rest ih =>
    obtain ⟨first, v⟩ := entry
    rw [insert] at h
    split_ifs at h
    · exact List.mem_cons.mp h
    · rcases List.mem_cons.mp h with rfl | hrest
      · exact .inr List.mem_cons_self
      · exact (ih hrest).imp_right (List.mem_cons_of_mem _)
    · exact (List.mem_cons.mp h).imp_right (List.mem_cons_of_mem _)

lemma ordered_insert {name : String} {value : α} {entries : Entries α} (h : entries.Ordered) :
    (insert name value entries).Ordered := by
  induction entries with
  | nil => exact List.pairwise_singleton _ _
  | cons entry rest ih =>
    obtain ⟨first, v⟩ := entry
    obtain ⟨hfirst, hrest⟩ := List.pairwise_cons.mp h
    rw [insert]
    -- the new entry comes before the first, after it or in its place
    split_ifs with hless hgreater
    · refine List.pairwise_cons.mpr ⟨fun n hn => ?_, h⟩
      rcases List.mem_cons.mp hn with rfl | hn
      · exact hless
      · exact String.lt_trans hless (hfirst n hn)
    · refine List.pairwise_cons.mpr ⟨fun n hn => ?_, ih hrest⟩
      rcases mem_names_insert hn with rfl | hn
      · exact hgreater
      · exact hfirst n hn
    · have hname : first = name :=
        String.le_antisymm (String.not_lt.mp hless) (String.not_lt.mp hgreater)
      exact List.pairwise_cons.mpr ⟨fun n hn => hname ▸ hfirst n hn, hrest⟩

lemma get?_of_not_mem {name : String} {entries : Entries α} (h : name ∉ entries.names) :
    get? name entries = none := by
  induction entries with
  | nil => rfl
  | cons entry rest ih =>
    obtain ⟨first, v⟩ := entry
    have hfirst : first ≠ name := fun h' => h (h' ▸ List.mem_cons_self)
    rw [get?, if_neg hfirst, ih fun h' => h (List.mem_cons_of_mem _ h')]

/-- Applies a function to all values. -/
def mapValues (f : α → β) (entries : Entries α) : Entries β := entries.map fun e => (e.1, f e.2)

lemma insert_mapValues (f : α → β) (name : String) (value : α) (entries : Entries α) :
    insert name (f value) (mapValues f entries) = mapValues f (insert name value entries) := by
  induction entries with
  | nil => rfl
  | cons entry rest ih =>
    obtain ⟨first, v⟩ := entry
    rw [mapValues, List.map_cons, insert, insert, ← mapValues, ih]
    split_ifs <;> rfl

end Entries

namespace Json

/-! ## Steps of a decoder -/

section Steps

variable {ε α β : Type} {x : Except ε α}

lemma bind_eq_ok {f : α → Except ε β} {b : β} : x >>= f = .ok b ↔ ∃ a, x = .ok a ∧ f a = .ok b := by
  cases x with
  | error e => exact ⟨nofun, nofun⟩
  | ok a => exact ⟨fun h => ⟨a, rfl, h⟩, fun ⟨_, ha, h⟩ => by cases ha; exact h⟩

lemma map_eq_ok {f : α → β} {b : β} : x.map f = .ok b ↔ ∃ a, x = .ok a ∧ f a = b := by
  cases x with
  | error e => exact ⟨nofun, nofun⟩
  | ok a => exact ⟨fun h => ⟨a, rfl, Except.ok.inj h⟩, fun ⟨_, ha, h⟩ => by cases ha; exact congrArg _ h⟩

end Steps

/-! ## Reading for errors only -/

mutual

/-- What can be read through can be skipped. -/
lemma skip_of_readThrough {room : Nat} : ∀ {t : Tree}, t.readThrough room = .ok () → t.skip = .ok ()
  | .null, _ | .bool _, _ | .number _, _ | .string _, _ => rfl
  | .unreadable, h | .broken _ _, h => by cases h
  | .array items, h => by
    obtain ⟨inner, -, h⟩ := bind_eq_ok.mp h
    exact skip_of_readThrough_items h
  | .object members, h => by
    obtain ⟨inner, -, h⟩ := bind_eq_ok.mp h
    exact skip_of_readThrough_members h

lemma skip_of_readThrough_items {room : Nat} : ∀ {items : Items},
    items.readThrough room = .ok () → items.skip = .ok ()
  | .closed, _ => rfl
  | .broken _, h => by cases h
  | .item t rest, h => by
    obtain ⟨⟨⟩, ht, h⟩ := bind_eq_ok.mp h
    exact bind_eq_ok.mpr ⟨(), skip_of_readThrough ht, skip_of_readThrough_items h⟩

lemma skip_of_readThrough_members {room : Nat} : ∀ {members : Members},
    members.readThrough room = .ok () → members.skip = .ok ()
  | .closed, _ => rfl
  | .broken _ _, h | .member none _ _, h => by cases h
  | .member (some name) t rest, h => by
    obtain ⟨⟨⟩, ht, h⟩ := bind_eq_ok.mp h
    exact bind_eq_ok.mpr ⟨(), skip_of_readThrough ht, skip_of_readThrough_members h⟩

end

mutual

/-- Reading for errors only finds what reading a generic value finds. -/
lemma readThrough_eq (room : Nat) : ∀ t : Tree, t.readThrough room = (t.toValue room).map fun _ => ()
  | .null | .bool _ | .number _ | .string _ | .unreadable | .broken _ _ => rfl
  | .array items => by
    rw [Tree.readThrough, Tree.toValue]
    cases enter room with
    | error e => rfl
    | ok inner =>
      dsimp only [bind, Except.bind]
      rw [readThrough_items_eq inner items]
      cases items.toValues inner <;> rfl
  | .object members => by
    rw [Tree.readThrough, Tree.toValue]
    cases enter room with
    | error e => rfl
    | ok inner =>
      dsimp only [bind, Except.bind]
      rw [readThrough_members_eq inner [] members]
      cases members.toEntries inner [] <;> rfl

/-- Items are read through exactly when they convert to values. -/
lemma readThrough_items_eq (room : Nat) : ∀ items : Items,
    items.readThrough room = (items.toValues room).map fun _ => ()
  | .closed | .broken _ => rfl
  | .item t rest => by
    rw [Items.readThrough, Items.toValues, readThrough_eq room t, readThrough_items_eq room rest]
    cases t.toValue room with
    | error e => rfl
    | ok v => cases rest.toValues room <;> rfl

/-- Members are read through exactly when they convert to entries. -/
lemma readThrough_members_eq (room : Nat) : ∀ (done : Entries Value) (members : Members),
    members.readThrough room = (members.toEntries room done).map fun _ => ()
  | _, .closed | _, .broken _ _ | _, .member none _ _ => rfl
  | done, .member (some name) t rest => by
    rw [Members.readThrough, Members.toEntries, readThrough_eq room t]
    cases t.toValue room with
    | error e => rfl
    | ok v => exact readThrough_members_eq room (done.insert name v) rest

end

/-- A tree that converts to a value is read through. -/
lemma readThrough_of_toValue {room : Nat} {t : Tree} {v : Value} (h : t.toValue room = .ok v) :
    t.readThrough room = .ok () := by
  rw [readThrough_eq, h]
  rfl

/-! ## Canonical values -/

lemma enter_eq_ok {room inner : Nat} : enter room = .ok inner ↔ 1 < room ∧ inner = room - 1 := by
  rw [enter]
  split_ifs with h
  · exact ⟨nofun, fun h' => absurd h'.1 (by omega)⟩
  · exact ⟨fun h' => ⟨by omega, (Except.ok.inj h').symm⟩, fun h' => congrArg _ h'.2.symm⟩

/-- What is inside an array or an object is read with room for one less. -/
lemma enter_bind_eq_ok {α : Type} {room : Nat} {f : Nat → Except DecodeError α} {a : α} :
    enter room >>= f = .ok a ↔ 1 < room ∧ f (room - 1) = .ok a := by
  rw [bind_eq_ok]
  constructor
  · rintro ⟨inner, hinner, h⟩
    obtain ⟨hroom, rfl⟩ := enter_eq_ok.mp hinner
    exact ⟨hroom, h⟩
  · rintro ⟨hroom, h⟩
    exact ⟨room - 1, enter_eq_ok.mpr ⟨hroom, rfl⟩, h⟩

/-- Members in ascending order are read one after the other. -/
lemma toEntries_ofEntries_append {room : Nat} {entries done : Entries Value}
    (hcanonical : ∀ e ∈ entries, (Tree.ofValue e.2).toValue room = .ok e.2)
    (hordered : (done ++ entries).Ordered) :
    (Members.ofEntries entries).toEntries room done = .ok (done ++ entries) := by
  induction entries generalizing done with
  | nil => rw [List.append_nil]; rfl
  | cons entry rest ih =>
    obtain ⟨name, v⟩ := entry
    have hlast : ∀ n ∈ Entries.names done, n < name := fun n hn => by
      rw [Entries.Ordered, Entries.names, List.map_append] at hordered
      exact (List.pairwise_append.mp hordered).2.2 n hn name List.mem_cons_self
    rw [Members.ofEntries, Members.toEntries, hcanonical _ List.mem_cons_self]
    have hstep : (Members.ofEntries rest).toEntries room (done ++ [(name, v)]) =
        .ok (done ++ [(name, v)] ++ rest) :=
      ih (fun e he => hcanonical e (List.mem_cons_of_mem _ he)) (by simpa using hordered)
    rw [List.append_assoc, List.singleton_append] at hstep
    exact bind_eq_ok.mpr ⟨v, rfl, by rw [Entries.insert_last hlast, hstep]⟩

/-- Ordered entries of values that read back are themselves read back. -/
lemma toEntries_ofEntries {room : Nat} {entries : Entries Value}
    (hcanonical : ∀ e ∈ entries, (Tree.ofValue e.2).toValue room = .ok e.2) (hordered : entries.Ordered) :
    (Members.ofEntries entries).toEntries room [] = .ok entries :=
  toEntries_ofEntries_append hcanonical hordered

mutual

/-- The tree of a value that was read is read as this value. -/
theorem toValue_ofValue {room : Nat} : ∀ {t : Tree} {v : Value}, t.toValue room = .ok v →
    (Tree.ofValue v).toValue room = .ok v
  | .null, _, h | .bool _, _, h | .number _, _, h | .string _, _, h => by cases h; rfl
  | .unreadable, _, h | .broken _ _, _, h => by cases h
  | .array items, v, h => by
    rw [Tree.toValue] at h
    obtain ⟨inner, hroom, h⟩ := bind_eq_ok.mp h
    obtain ⟨vs, hitems, h⟩ := bind_eq_ok.mp h
    cases h
    rw [Tree.ofValue, Tree.toValue]
    exact bind_eq_ok.mpr ⟨inner, hroom, bind_eq_ok.mpr ⟨vs, toValues_ofValues hitems, rfl⟩⟩
  | .object members, v, h => by
    rw [Tree.toValue] at h
    obtain ⟨inner, hroom, h⟩ := bind_eq_ok.mp h
    obtain ⟨entries, hentries, h⟩ := bind_eq_ok.mp h
    cases h
    -- the entries of a tree are in order, so inserting them one by one gives them back
    obtain ⟨hordered, hcanonical⟩ := canonical_of_toEntries hentries List.Pairwise.nil nofun
    rw [Tree.ofValue, Tree.toValue]
    exact bind_eq_ok.mpr ⟨inner, hroom,
      bind_eq_ok.mpr ⟨entries, toEntries_ofEntries hcanonical hordered, rfl⟩⟩

/-- The items of values that were read are read as these values. -/
lemma toValues_ofValues {room : Nat} : ∀ {items : Items} {vs : List Value},
    items.toValues room = .ok vs → (Items.ofValues vs).toValues room = .ok vs
  | .closed, _, h => by cases h; rfl
  | .broken _, _, h => by cases h
  | .item t rest, vs, h => by
    rw [Items.toValues] at h
    obtain ⟨v, hv, h⟩ := bind_eq_ok.mp h
    obtain ⟨vs, hvs, h⟩ := bind_eq_ok.mp h
    cases h
    rw [Items.ofValues, Items.toValues]
    exact bind_eq_ok.mpr ⟨v, toValue_ofValue hv, bind_eq_ok.mpr ⟨vs, toValues_ofValues hvs, rfl⟩⟩

/-- Reading members keeps the entries in order and their values canonical. -/
lemma canonical_of_toEntries {room : Nat} : ∀ {members : Members} {done entries : Entries Value},
    members.toEntries room done = .ok entries → done.Ordered →
    (∀ e ∈ done, (Tree.ofValue e.2).toValue room = .ok e.2) →
    entries.Ordered ∧ ∀ e ∈ entries, (Tree.ofValue e.2).toValue room = .ok e.2
  | .closed, _, _, h, hordered, hcanonical => by cases h; exact ⟨hordered, hcanonical⟩
  | .broken _ _, _, _, h, _, _ | .member none _ _, _, _, h, _, _ => by cases h
  | .member (some name) t rest, done, entries, h, hordered, hcanonical => by
    rw [Members.toEntries] at h
    obtain ⟨v, hv, h⟩ := bind_eq_ok.mp h
    refine canonical_of_toEntries h (Entries.ordered_insert hordered) fun e he => ?_
    rcases Entries.mem_insert he with rfl | he
    · exact toValue_ofValue hv
    · exact hcanonical e he

end

/-! ## Numbers of a value -/

mutual

/-- The numbers of a value. -/
def Value.numbers : Value → List Number
  | .null | .bool _ | .string _ => []
  | .number n => [n]
  | .array items => Value.numbersOfItems items
  | .object members => Value.numbersOfMembers members

/-- The numbers of the items of an array. -/
def Value.numbersOfItems : List Value → List Number
  | [] => []
  | v :: rest => v.numbers ++ Value.numbersOfItems rest

/-- The numbers of the members of an object. -/
def Value.numbersOfMembers : List (String × Value) → List Number
  | [] => []
  | (_, v) :: rest => v.numbers ++ Value.numbersOfMembers rest

end

mutual

/-- Replaces the numbers of a value. -/
def Value.mapNumbers (f : Number → Number) : Value → Value
  | .null => .null
  | .bool b => .bool b
  | .number n => .number (f n)
  | .string s => .string s
  | .array items => .array (Value.mapItems f items)
  | .object members => .object (Value.mapMembers f members)

/-- Replaces the numbers of the items of an array. -/
def Value.mapItems (f : Number → Number) : List Value → List Value
  | [] => []
  | v :: rest => v.mapNumbers f :: Value.mapItems f rest

/-- Replaces the numbers of the members of an object. -/
def Value.mapMembers (f : Number → Number) : List (String × Value) → List (String × Value)
  | [] => []
  | (name, v) :: rest => (name, v.mapNumbers f) :: Value.mapMembers f rest

end

mutual

lemma Value.mapNumbers_id : ∀ v : Value, v.mapNumbers id = v
  | .null | .bool _ | .number _ | .string _ => rfl
  | .array items => by rw [Value.mapNumbers, Value.mapItems_id items]
  | .object members => by rw [Value.mapNumbers, Value.mapMembers_id members]

lemma Value.mapItems_id : ∀ vs : List Value, Value.mapItems id vs = vs
  | [] => rfl
  | v :: rest => by rw [Value.mapItems, Value.mapNumbers_id v, Value.mapItems_id rest]

lemma Value.mapMembers_id : ∀ members : Entries Value, Value.mapMembers id members = members
  | [] => rfl
  | (name, v) :: rest => by rw [Value.mapMembers, Value.mapNumbers_id v, Value.mapMembers_id rest]

end

/-- Changing the numbers of members is changing those of each value. -/
lemma Value.mapMembers_eq (f : Number → Number) (members : Entries Value) :
    Value.mapMembers f members = Entries.mapValues (·.mapNumbers f) members := by
  induction members with
  | nil => rfl
  | cons m rest ih =>
    rw [Value.mapMembers, ih]
    rfl

mutual

/-- Other numbers do not change how a value is read. -/
lemma toValue_mapNumbers (f : Number → Number) (room : Nat) : ∀ v : Value,
    (Tree.ofValue (v.mapNumbers f)).toValue room =
      ((Tree.ofValue v).toValue room).map (·.mapNumbers f)
  | .null | .bool _ | .number _ | .string _ => rfl
  | .array items => by
    rw [Value.mapNumbers, Tree.ofValue, Tree.ofValue, Tree.toValue, Tree.toValue]
    cases enter room with
    | error e => rfl
    | ok inner =>
      -- only the numbers differ, so the same level is entered on both sides
      dsimp only [bind, Except.bind]
      rw [toValues_mapItems f inner items]
      cases (Items.ofValues items).toValues inner <;> rfl
  | .object members => by
    rw [Value.mapNumbers, Tree.ofValue, Tree.ofValue, Tree.toValue, Tree.toValue]
    cases enter room with
    | error e => rfl
    | ok inner =>
      have hmembers := toEntries_mapMembers f inner members []
      rw [Value.mapMembers] at hmembers
      dsimp only [bind, Except.bind]
      rw [hmembers]
      cases (Members.ofEntries members).toEntries inner [] <;> rfl

/-- Changing numbers commutes with reading items. -/
lemma toValues_mapItems (f : Number → Number) (room : Nat) : ∀ vs : List Value,
    (Items.ofValues (Value.mapItems f vs)).toValues room =
      ((Items.ofValues vs).toValues room).map (Value.mapItems f)
  | [] => rfl
  | v :: rest => by
    rw [Value.mapItems, Items.ofValues, Items.ofValues, Items.toValues, Items.toValues,
      toValue_mapNumbers f room v, toValues_mapItems f room rest]
    cases (Tree.ofValue v).toValue room with
    | error e => rfl
    | ok v' => cases (Items.ofValues rest).toValues room <;> rfl

lemma toEntries_mapMembers (f : Number → Number) (room : Nat) : ∀ members done : Entries Value,
    (Members.ofEntries (Value.mapMembers f members)).toEntries room (Value.mapMembers f done) =
      ((Members.ofEntries members).toEntries room done).map (Value.mapMembers f)
  | [], done => rfl
  | (name, v) :: rest, done => by
    rw [Value.mapMembers, Members.ofEntries, Members.ofEntries, Members.toEntries, Members.toEntries,
      toValue_mapNumbers f room v]
    cases (Tree.ofValue v).toValue room with
    | error e => rfl
    | ok v' =>
      have hinsert : Entries.insert name (v'.mapNumbers f) (Value.mapMembers f done) =
          Value.mapMembers f (Entries.insert name v' done) := by
        rw [Value.mapMembers_eq, Value.mapMembers_eq, Entries.insert_mapValues]
      dsimp only [bind, Except.bind, Except.map]
      rw [hinsert]
      exact toEntries_mapMembers f room rest _

end

/-! ## Writing values -/

mutual

/-- The document of a generic value whose numbers are written in some way. -/
def Document.ofValueWith (write : Number → Document) : Value → Document
  | .null => .null
  | .bool b => .bool b
  | .number n => write n
  | .string s => .string s
  | .array items => .array (Document.ofValuesWith write items)
  | .object members => .object (Document.ofEntriesWith write members)

/-- The documents of the items of an array. -/
def Document.ofValuesWith (write : Number → Document) : List Value → List Document
  | [] => []
  | v :: rest => Document.ofValueWith write v :: Document.ofValuesWith write rest

/-- The documents of the members of an object. -/
def Document.ofEntriesWith (write : Number → Document) :
    List (String × Value) → List (String × Document)
  | [] => []
  | (name, v) :: rest => (name, Document.ofValueWith write v) :: Document.ofEntriesWith write rest

end

lemma Items.ofValues_eq (vs : List Value) : Items.ofValues vs = Items.ofTrees (vs.map Tree.ofValue) := by
  induction vs with
  | nil => rfl
  | cons v rest ih =>
    rw [Items.ofValues, ih]
    rfl

lemma Members.ofEntries_eq (entries : Entries Value) :
    Members.ofEntries entries = Members.ofTrees (Entries.mapValues Tree.ofValue entries) := by
  induction entries with
  | nil => rfl
  | cons e rest ih =>
    rw [Members.ofEntries, ih]
    rfl

section Writing

variable {write : Number → Document} {f : Number → Number}

mutual

/-- A value is read with each number replaced by the one that its text is read as. -/
theorem reads_ofValueWith : ∀ v : Value,
    (∀ n ∈ v.numbers, Reads (write n).chars (.number (f n))) →
    Reads (Document.ofValueWith write v).chars (Tree.ofValue (v.mapNumbers f))
  | .null, _ => reads_null
  | .bool b, _ => reads_bool b
  | .string s, _ => reads_string s
  | .number n, h => h n List.mem_cons_self
  | .array items, h => by
    rw [Value.mapNumbers, Tree.ofValue, Items.ofValues_eq]
    exact reads_array (readAs_ofValuesWith items h)
  | .object members, h => by
    rw [Value.mapNumbers, Tree.ofValue, Members.ofEntries_eq, Document.ofValueWith, chars_object]
    exact reads_object (readAs_ofEntriesWith members h)

/-- Items are read back with their numbers changed by `f`, if `f` is what reading does to each number as
written. -/
lemma readAs_ofValuesWith : ∀ vs : List Value,
    (∀ n ∈ Value.numbersOfItems vs, Reads (write n).chars (.number (f n))) →
    ReadAs (Document.ofValuesWith write vs) ((Value.mapItems f vs).map Tree.ofValue)
  | [], _ => .nil
  | v :: rest, h =>
    .cons (reads_ofValueWith v fun n hn => h n (List.mem_append_left _ hn))
      (readAs_ofValuesWith rest fun n hn => h n (List.mem_append_right _ hn))

lemma readAs_ofEntriesWith : ∀ members : Entries Value,
    (∀ n ∈ Value.numbersOfMembers members, Reads (write n).chars (.number (f n))) →
    MembersReadAs ((Document.ofEntriesWith write members).map fun m => (m.1, m.2.chars))
      (Entries.mapValues Tree.ofValue (Value.mapMembers f members))
  | [], _ => .nil
  | (_, v) :: rest, h =>
    .cons ⟨rfl, reads_ofValueWith v fun n hn => h n (List.mem_append_left _ hn)⟩
      (readAs_ofEntriesWith rest fun n hn => h n (List.mem_append_right _ hn))

end

end Writing

mutual

/-- The plain writer is the one with the plain way of writing numbers. -/
lemma Document.ofValue_eq : ∀ v : Value,
    Document.ofValue v = Document.ofValueWith (fun n => Document.ofValue (.number n)) v
  | .null | .bool _ | .string _ | .number _ => rfl
  | .array items => by rw [Document.ofValue, Document.ofValueWith, Document.ofValues_eq items]
  | .object members => by rw [Document.ofValue, Document.ofValueWith, Document.ofEntries_eq members]

lemma Document.ofValues_eq : ∀ vs : List Value,
    Document.ofValues vs = Document.ofValuesWith (fun n => Document.ofValue (.number n)) vs
  | [] => rfl
  | v :: rest => by
    rw [Document.ofValues, Document.ofValuesWith, Document.ofValue_eq v, Document.ofValues_eq rest]

lemma Document.ofEntries_eq : ∀ members : Entries Value,
    Document.ofEntries members = Document.ofEntriesWith (fun n => Document.ofValue (.number n)) members
  | [] => rfl
  | (_, v) :: rest => by
    rw [Document.ofEntries, Document.ofEntriesWith, Document.ofValue_eq v, Document.ofEntries_eq rest]

end

mutual

/-- A value is the same as one with other numbers if the numbers are the same. -/
lemma Value.same_mapNumbers {f : Number → Number} : ∀ v : Value,
    (∀ n ∈ v.numbers, Value.same (.number n) (.number (f n)) = true) → v.same (v.mapNumbers f) = true
  | .null, _ => rfl
  | .bool _, _ | .string _, _ => beq_self_eq_true _
  | .number n, h => h n List.mem_cons_self
  | .array items, h => Value.sameItems_mapItems items h
  | .object members, h => Value.sameMembers_mapMembers members h

/-- Items count as the same if each changed number does. -/
lemma Value.sameItems_mapItems {f : Number → Number} : ∀ vs : List Value,
    (∀ n ∈ Value.numbersOfItems vs, Value.same (.number n) (.number (f n)) = true) →
    Value.sameItems vs (Value.mapItems f vs) = true
  | [], _ => rfl
  | v :: rest, h => by
    rw [Value.mapItems, Value.sameItems,
      Value.same_mapNumbers v fun n hn => h n (List.mem_append_left _ hn),
      Value.sameItems_mapItems rest fun n hn => h n (List.mem_append_right _ hn)]
    rfl

lemma Value.sameMembers_mapMembers {f : Number → Number} : ∀ members : Entries Value,
    (∀ n ∈ Value.numbersOfMembers members, Value.same (.number n) (.number (f n)) = true) →
    Value.sameMembers members (Value.mapMembers f members) = true
  | [], _ => rfl
  | (name, v) :: rest, h => by
    rw [Value.mapMembers, Value.sameMembers, beq_self_eq_true,
      Value.same_mapNumbers v fun n hn => h n (List.mem_append_left _ hn),
      Value.sameMembers_mapMembers rest fun n hn => h n (List.mem_append_right _ hn)]
    rfl

end

end Json
end FeatureFlags
