import FeatureFlags.Proofs.Json.Values
import Mathlib.Data.Option.Basic

/-!
# Records

What a record is decoded to depends only on what is found under the names of its fields: if no name is
repeated, decoding the members of an object is looking up each field by its name (`decodeMembers_ofTrees`).
The order of the members does not matter, nor do members of other names, as long as they can be skipped.

In the other direction, whatever a record is decoded from, each field has a value that was read off some
tree, or a default (`yields_of_decodeMembers`, `yields_of_readItems`).
-/

namespace FeatureFlags.Json

section Results

variable {ε α β : Type}

lemma toOption_bind (x : Except ε α) (f : α → Except ε β) :
    (x >>= f).toOption = x.toOption.bind fun a => (f a).toOption := by
  cases x <;> rfl

lemma toOption_bind_congr {x y : Except ε α} {f g : α → Except ε β} (h : x.toOption = y.toOption)
    (h' : ∀ a, (f a).toOption = (g a).toOption) : (x >>= f).toOption = (y >>= g).toOption := by
  rw [toOption_bind, toOption_bind, h]
  exact congrArg _ (funext h')

lemma toOption_map (x : Except ε α) (f : α → β) : (x.map f).toOption = x.toOption.map f := by
  cases x <;> rfl

lemma toOption_mapError {ε' : Type} (x : Except ε α) (f : ε → ε') :
    (x.mapError f).toOption = x.toOption := by
  cases x <;> rfl

lemma toOption_eq_some {x : Except ε α} {a : α} : x.toOption = some a ↔ x = .ok a := by
  cases x with
  | error e => exact ⟨nofun, nofun⟩
  | ok b => exact ⟨fun h => congrArg _ (Option.some.inj h), fun h => congrArg _ (Except.ok.inj h)⟩

lemma toOption_eq_none {x : Except ε α} : x.toOption = none ↔ ∃ e, x = .error e := by
  cases x with
  | error e => exact ⟨fun _ => ⟨e, rfl⟩, fun _ => rfl⟩
  | ok a => exact ⟨nofun, nofun⟩

end Results

/-- What is found under a name. -/
abbrev Lookup := String → Option Tree

/-! ## Fields looked up by name -/

/-- The value of a field in an object. -/
def Field.find {α : Type} (f : Field α) (room : Nat) (look : Lookup) : Option α :=
  match look f.name with
  | some t => (f.read room t).toOption
  | none => f.absent

namespace Fields

/-- The names of the fields. -/
def names : {αs : List Type} → Fields αs → List String
  | _, nil => []
  | _, cons f rest => f.name :: rest.names

/-- The values of all fields in an object. -/
def find (room : Nat) (look : Lookup) : {αs : List Type} → Fields αs → Option (Row αs)
  | _, nil => some ()
  | _, cons f rest => (f.find room look).bind fun a => (rest.find room look).map (a, ·)

/-- Fields look only at their own names. -/
lemma find_congr {room : Nat} {look look' : Lookup} : {αs : List Type} → (fields : Fields αs) →
    (∀ name ∈ fields.names, look name = look' name) → fields.find room look = fields.find room look'
  | _, nil, _ => rfl
  | _, cons f rest, h => by
    rw [find, find, Field.find, Field.find, h f.name List.mem_cons_self,
      find_congr rest fun name hname => h name (List.mem_cons_of_mem _ hname)]

lemma find_cons_eq_some {α : Type} {αs : List Type} {f : Field α} {rest : Fields αs} {room : Nat}
    {look : Lookup} {a : α} {row : Row αs} : (cons f rest).find room look = some (a, row) ↔
      f.find room look = some a ∧ rest.find room look = some row := by
  rw [find]
  cases f.find room look with
  | none => exact ⟨nofun, nofun⟩
  | some b =>
    cases rest.find room look with
    | none => exact ⟨nofun, nofun⟩
    | some row' =>
      constructor
      · intro h
        cases h
        exact ⟨rfl, rfl⟩
      · rintro ⟨h, h'⟩
        cases h
        cases h'
        rfl

/-! ### Slots

While members are read, each field has a slot. `fill` says what the slots hold in the end. -/

end Fields

/-- Fills the slot of a field with what is found under its name. -/
def Field.fill {α : Type} (f : Field α) (room : Nat) (look : Lookup) (slot : Option α) :
    Option (Option α) :=
  match look f.name, slot with
  | none, slot => some slot
  | some _, some _ => none
  | some t, none => (f.read room t).toOption.map some

namespace Fields

/-- Fills the slots with what is found under the names of the fields. -/
def fill (room : Nat) (look : Lookup) : {αs : List Type} → Fields αs → Slots αs → Option (Slots αs)
  | _, nil, _ => some ()
  | _, cons f rest, (slot, slots) =>
    (f.fill room look slot).bind fun a => (rest.fill room look slots).map (a, ·)

/-- Filling looks only at the names of the fields. -/
lemma fill_congr {room : Nat} {look look' : Lookup} : {αs : List Type} → (fields : Fields αs) →
    (slots : Slots αs) → (∀ name ∈ fields.names, look name = look' name) →
    fields.fill room look slots = fields.fill room look' slots
  | _, nil, _, _ => rfl
  | _, cons f rest, (slot, slots), h => by
    have hrest : rest.fill room look slots = rest.fill room look' slots :=
      fill_congr rest slots fun name hname => h name (List.mem_cons_of_mem _ hname)
    simp only [fill, Field.fill, h f.name List.mem_cons_self, hrest]

lemma fill_none {room : Nat} : {αs : List Type} → (fields : Fields αs) → (slots : Slots αs) →
    fields.fill room (fun _ => none) slots = some slots
  | _, nil, _ => rfl
  | _, cons f rest, (slot, slots) => by
    simp only [fill, Field.fill, fill_none rest slots]
    rfl

/-- A member that names no field is not stored. -/
lemma store?_of_not_mem {room : Nat} {name : String} {t : Tree} : {αs : List Type} →
    (fields : Fields αs) → (slots : Slots αs) → name ∉ fields.names →
    fields.store? room name t slots = none
  | _, nil, _, _ => rfl
  | _, cons f rest, (slot, slots), h => by
    have hname : f.name ≠ name := fun h' => h (h' ▸ List.mem_cons_self)
    have hrest : name ∉ rest.names := fun h' => h (List.mem_cons_of_mem _ h')
    simp only [store?, if_neg hname, store?_of_not_mem rest slots hrest, Option.map_none]

/-- Storing one member first and filling the rest is filling with all of them. -/
lemma fill_insert (room : Nat) {name : String} {t : Tree} {look look' : Lookup}
    (hname : look name = some t) (hname' : look' name = none)
    (hother : ∀ n, n ≠ name → look n = look' n) : {αs : List Type} → (fields : Fields αs) →
    (slots : Slots αs) → fields.names.Nodup → name ∈ fields.names →
    ∃ stored, fields.store? room name t slots = some stored ∧
      fields.fill room look slots = stored.toOption.bind (fields.fill room look')
  | _, nil, _, _, h => absurd h List.not_mem_nil
  | _, cons f rest, (slot, slots), hnodup, h => by
    obtain ⟨hfirst, hrest⟩ := List.nodup_cons.mp hnodup
    -- the member is for this field or for one of the rest
    by_cases hf : f.name = name
    · have hfill : rest.fill room look slots = rest.fill room look' slots :=
        fill_congr rest slots fun n hn => hother n fun h' => hfirst (by rwa [hf, ← h'])
      -- a slot that is filled already makes it a duplicate
      cases slot with
      | some a =>
        refine ⟨.error .mismatch, by simp only [store?, if_pos hf], ?_⟩
        simp only [fill, Field.fill, hf, hname, Option.bind_none, Except.toOption]
      | none =>
        refine ⟨_, by simp only [store?, if_pos hf]; rfl, ?_⟩
        simp only [fill, Field.fill, hf, hname, hfill]
        cases f.read room t with
        | error e => rfl
        | ok a =>
          change _ = fill room look' (cons f rest) (some a, slots)
          simp only [fill, Field.fill, hf, hname']
          rfl
    · have hmem : name ∈ rest.names := (List.mem_cons.mp h).resolve_left (Ne.symm hf)
      obtain ⟨stored, hstored, hfill⟩ := fill_insert room hname hname' hother rest slots hrest hmem
      refine ⟨stored.map (slot, ·), ?_, ?_⟩
      · simp only [store?, if_neg hf, hstored]
        rfl
      · have hslot : f.fill room look slot = f.fill room look' slot := by
          simp only [Field.fill, hother f.name hf]
        simp only [fill, hslot, hfill]
        cases stored with
        | error e => cases f.fill room look' slot <;> rfl
        | ok slots' => rfl

/-! ### Members -/

/-- The members that are no fields. -/
def others {αs : List Type} (fields : Fields αs) (members : List (String × Tree)) :
    List (String × Tree) :=
  members.filter fun m => m.1 ∉ fields.names

/-- Dropping the members of the fields leaves the other names as they were. -/
lemma get?_others {αs : List Type} {fields : Fields αs} {members : List (String × Tree)} {name : String}
    (h : name ∉ fields.names) : Entries.get? name (fields.others members) = Entries.get? name members := by
  induction members with
  | nil => rfl
  | cons m rest ih =>
    obtain ⟨n, t⟩ := m
    by_cases hn : n ∈ fields.names
    · have hothers : fields.others ((n, t) :: rest) = fields.others rest := by simp [others, hn]
      have hne : n ≠ name := fun h' => h (h' ▸ hn)
      rw [hothers, ih, Entries.get?, if_neg hne]
    · have hothers : fields.others ((n, t) :: rest) = (n, t) :: fields.others rest := by
        simp [others, hn]
      rw [hothers, Entries.get?, Entries.get?, ih]

variable {σ : Type}

/-- Reading members fills the slots and hands the members that are no fields on. -/
lemma readMembers_ofTrees {αs : List Type} {fields : Fields αs} (hfields : fields.names.Nodup)
    {other : σ → String → Tree → Except DecodeError σ} {room : Nat} {members : List (String × Tree)}
    (hmembers : (Entries.names members).Nodup) (s : σ) (slots : Slots αs) :
    (fields.readMembers other room s slots (Members.ofTrees members)).toOption =
      ((fields.others members).foldlM (fun s m => other s m.1 m.2) s).toOption.bind fun s =>
        (fields.fill room (Entries.get? · members) slots).map (s, ·) := by
  -- members are stored in the order of the text, and the slots are filled in the order of the fields
  induction members generalizing s slots with
  | nil =>
    simp only [Entries.get?, fill_none]
    rfl
  | cons m rest ih =>
    obtain ⟨name, t⟩ := m
    obtain ⟨hname, hrest⟩ := List.nodup_cons.mp hmembers
    have hother : ∀ n, n ≠ name → Entries.get? n ((name, t) :: rest) = Entries.get? n rest :=
      fun n hn => if_neg (Ne.symm hn)
    -- the member is for one of the fields, or it is another
    by_cases hfield : name ∈ fields.names
    · have hfound : Entries.get? name ((name, t) :: rest) = some t := if_pos rfl
      have hgone : Entries.get? name rest = none := Entries.get?_of_not_mem hname
      obtain ⟨stored, hstored, hfill⟩ := fill_insert room hfound hgone hother fields slots hfields
        hfield
      have hothers : fields.others ((name, t) :: rest) = fields.others rest := by
        simp [others, hfield]
      rw [Members.ofTrees, readMembers, hstored, hothers, hfill]
      simp only
      rw [toOption_bind]
      cases stored with
      | error e => cases (List.foldlM (fun s m => other s m.1 m.2) s (fields.others rest)) <;> rfl
      | ok slots' => exact ih hrest s slots'
    · have hfill : fields.fill room (Entries.get? · ((name, t) :: rest)) slots =
          fields.fill room (Entries.get? · rest) slots :=
        fill_congr fields slots fun n hn => hother n fun h => hfield (h ▸ hn)
      have hothers : fields.others ((name, t) :: rest) = (name, t) :: fields.others rest := by
        simp [others, hfield]
      rw [Members.ofTrees, readMembers, store?_of_not_mem fields slots hfield, hothers, hfill]
      simp only
      rw [toOption_bind, List.foldlM_cons, toOption_bind]
      cases other s name t with
      | error e => rfl
      | ok s' => exact ih hrest s' slots

/-- A row is finished field by field; an empty slot takes what the field says for an absent member. -/
lemma finish_cons {α : Type} {αs : List Type} (f : Field α) (rest : Fields αs) (slot : Option α)
    (slots : Slots αs) : ((cons f rest).finish (slot, slots)).toOption =
      (slot.or f.absent).bind fun a => (rest.finish slots).toOption.map (a, ·) := by
  simp only [finish]
  cases slot.or f.absent with
  | none => rfl
  | some a => cases rest.finish slots <;> rfl

/-- Filling an empty slot and then falling back on the absent value is finding the field. -/
lemma fill_or_absent {α : Type} (f : Field α) (room : Nat) (look : Lookup) :
    (f.fill room look none).bind (·.or f.absent) = f.find room look := by
  rw [Field.fill.eq_def, Field.find.eq_def]
  cases look f.name with
  | none => rfl
  | some t =>
    dsimp only
    cases f.read room t <;> rfl

/-- Filling the slots and finishing the row is finding the row: the reader in order and the reader by name
agree. -/
lemma fill_finish {room : Nat} {look : Lookup} : {αs : List Type} → (fields : Fields αs) →
    (fields.fill room look (Slots.empty αs)).bind (fun slots => (fields.finish slots).toOption) =
      fields.find room look
  | _, nil => rfl
  | _, cons f rest => by
    rw [find, ← fill_or_absent, ← fill_finish rest, Slots.empty, fill]
    cases f.fill room look none with
    | none => rfl
    | some slot =>
      cases rest.fill room look (Slots.empty _) with
      | none =>
        dsimp only [Option.bind_some]
        cases slot.or f.absent <;> rfl
      | some slots => exact finish_cons f rest slot slots

/-- Members are skipped exactly when each tree can be. -/
lemma foldlM_skip_iff {members : List (String × Tree)} :
    members.foldlM (fun (_ : Unit) m => m.2.skip) () = .ok () ↔ ∀ m ∈ members, m.2.skip = .ok () := by
  induction members with
  | nil => exact ⟨fun _ => nofun, fun _ => rfl⟩
  | cons m rest ih =>
    rw [List.foldlM_cons, bind_eq_ok, List.forall_mem_cons, ← ih]
    exact ⟨fun ⟨_, h⟩ => h, fun h => ⟨(), h⟩⟩

/-- The members of an object can be decoded if each field is found by its name and all others can be skipped. -/
lemma decodeMembers_eq_ok_iff {αs : List Type} {fields : Fields αs} (hfields : fields.names.Nodup)
    {room : Nat} {members : List (String × Tree)} (hmembers : (Entries.names members).Nodup) {row : Row αs} :
    fields.decodeMembers room (Members.ofTrees members) = .ok row ↔
      (∀ m ∈ fields.others members, m.2.skip = .ok ()) ∧
        fields.find room (Entries.get? · members) = some row := by
  rw [← toOption_eq_some, decodeMembers, toOption_bind, readMembers_ofTrees hfields hmembers,
    ← fill_finish, ← foldlM_skip_iff]
  cases (fields.others members).foldlM (fun (_ : Unit) m => m.2.skip) () with
  | error e => exact ⟨nofun, nofun⟩
  | ok u =>
    cases fields.fill room (Entries.get? · members) (Slots.empty αs) with
    | none => exact ⟨nofun, nofun⟩
    | some slots => exact ⟨fun h => ⟨rfl, h⟩, And.right⟩

/-- Decoding the members of an object is looking up each field by its name. -/
theorem decodeMembers_ofTrees {αs : List Type} {fields : Fields αs} (hfields : fields.names.Nodup)
    {room : Nat} {members : List (String × Tree)} (hmembers : (Entries.names members).Nodup)
    (hskip : ∀ m ∈ members, m.2.skip = .ok ()) :
    (fields.decodeMembers room (Members.ofTrees members)).toOption =
      fields.find room (Entries.get? · members) := by
  refine Option.ext fun row => ?_
  rw [toOption_eq_some, decodeMembers_eq_ok_iff hfields hmembers]
  exact ⟨And.right, fun h => ⟨fun m hm => hskip m (List.mem_of_mem_filter hm), h⟩⟩

end Fields

/-- Decoding an object as a record is looking up the fields of the record. -/
lemma record_ofTrees {αs : List Type} {β : Type} {fields : Fields αs} (hfields : fields.names.Nodup)
    {room : Nat} (hroom : 1 < room) {members : List (String × Tree)}
    (hmembers : (Entries.names members).Nodup) (hskip : ∀ m ∈ members, m.2.skip = .ok ())
    (build : Row αs → β) :
    (Decoder.record fields build room (.object (Members.ofTrees members))).toOption =
      (fields.find (room - 1) (Entries.get? · members)).map build := by
  have henter : enter room = .ok (room - 1) := enter_eq_ok.mpr ⟨hroom, rfl⟩
  rw [← Fields.decodeMembers_ofTrees hfields hmembers hskip]
  simp only [Decoder.record, henter]
  change (fields.decodeMembers (room - 1) (Members.ofTrees members) >>= _).toOption = _
  cases fields.decodeMembers (room - 1) (Members.ofTrees members) <;> rfl

/-! ## Where values come from -/

/-- A value of a field was read off some tree, or is one of its defaults. -/
def Field.Yields {α : Type} (f : Field α) (room : Nat) (a : α) : Prop :=
  (∃ t, f.read room t = .ok a) ∨ f.absent = some a ∨ f.cut = some a

namespace Fields

/-- Every field yields its value. -/
def Yields (room : Nat) : {αs : List Type} → Fields αs → Row αs → Prop
  | _, nil, _ => True
  | _, cons f rest, (a, row) => f.Yields room a ∧ rest.Yields room row

/-- What the slots hold was read off some trees. -/
def SlotsRead (room : Nat) : {αs : List Type} → Fields αs → Slots αs → Prop
  | _, nil, _ => True
  | _, cons f rest, (slot, slots) =>
    (∀ a, slot = some a → ∃ t, f.read room t = .ok a) ∧ rest.SlotsRead room slots

lemma slotsRead_empty {room : Nat} : {αs : List Type} → (fields : Fields αs) →
    fields.SlotsRead room (Slots.empty αs)
  | _, nil => trivial
  | _, cons _ rest => ⟨nofun, slotsRead_empty rest⟩

/-- Storing one member fills its slot with something that was read. -/
lemma slotsRead_store? {room : Nat} {name : String} {t : Tree} : {αs : List Type} →
    (fields : Fields αs) → {slots slots' : Slots αs} → fields.SlotsRead room slots →
    fields.store? room name t slots = some (.ok slots') → fields.SlotsRead room slots'
  | _, nil, _, _, _, h => by cases h
  | _, cons f rest, (slot, slots), slots', hread, h => by
    obtain ⟨hslot, hslots⟩ := hread
    simp only [store?] at h
    split_ifs at h with hname
    · cases slot with
      | some a => cases h
      | none =>
        obtain ⟨a, ha, h⟩ := bind_eq_ok.mp (Option.some.inj h)
        cases h
        exact ⟨fun b hb => ⟨t, by cases hb; exact ha⟩, hslots⟩
    · obtain ⟨stored, hstored, h⟩ := Option.map_eq_some_iff.mp h
      obtain ⟨slots'', hslots'', rfl⟩ := map_eq_ok.mp h
      subst hslots''
      exact ⟨hslot, slotsRead_store? rest hslots hstored⟩

/-- By induction on the members: every filled slot holds something that was read. -/
lemma slotsRead_readMembers {αs : List Type} {fields : Fields αs} {σ : Type}
    {other : σ → String → Tree → Except DecodeError σ} {room : Nat} : {members : Members} →
    {s s' : σ} → {slots slots' : Slots αs} → fields.SlotsRead room slots →
    fields.readMembers other room s slots members = .ok (s', slots') → fields.SlotsRead room slots'
  | .closed, _, _, _, _, hslots, h => by
    rw [readMembers] at h
    cases h
    exact hslots
  | .broken _ _, _, _, _, _, _, h | .member none _ _, _, _, _, _, _, h => by
    rw [readMembers] at h
    cases h
  | .member (some name) t rest, s, _, slots, _, hslots, h => by
    rw [readMembers] at h
    cases hstore : fields.store? room name t slots with
    | none =>
      rw [hstore] at h
      obtain ⟨_, _, h⟩ := bind_eq_ok.mp h
      exact slotsRead_readMembers hslots h
    | some stored =>
      rw [hstore] at h
      obtain ⟨slots'', rfl, h⟩ := bind_eq_ok.mp h
      exact slotsRead_readMembers (slotsRead_store? fields hslots hstore) h

/-- A finished row holds in each field what was read for it, or what the field says for an absent member. -/
lemma yields_of_finish {room : Nat} : {αs : List Type} → (fields : Fields αs) →
    {slots : Slots αs} → {row : Row αs} → fields.SlotsRead room slots →
    fields.finish slots = .ok row → fields.Yields room row
  | _, nil, _, _, _, _ => trivial
  | _, cons f rest, (slot, slots), row, hread, h => by
    obtain ⟨hslot, hslots⟩ := hread
    rw [finish] at h
    cases hvalue : slot.or f.absent with
    | none =>
      rw [hvalue] at h
      cases h
    | some a =>
      rw [hvalue] at h
      obtain ⟨row', hrow, h⟩ := bind_eq_ok.mp h
      cases h
      refine ⟨?_, yields_of_finish rest hslots hrow⟩
      cases slot with
      | some b => exact .inl (hslot a hvalue)
      | none => exact .inr (.inl hvalue)

/-- The values of a record that is written as an object. -/
theorem yields_of_decodeMembers {αs : List Type} {fields : Fields αs} {room : Nat} {members : Members}
    {row : Row αs} (h : fields.decodeMembers room members = .ok row) : fields.Yields room row := by
  rw [decodeMembers] at h
  obtain ⟨⟨_, slots⟩, hslots, h⟩ := bind_eq_ok.mp h
  exact yields_of_finish fields (slotsRead_readMembers (slotsRead_empty fields) hslots) h

/-- The values of a record that is written as an array. -/
theorem yields_of_readItems {room : Nat} : {αs : List Type} → (fields : Fields αs) → {items : Items} →
    {row : Row αs} → fields.readItems room items = .ok row → fields.Yields room row
  | _, nil, _, _, _ => trivial
  | _, cons _ _, .broken _, _, h => by cases h
  -- items are for the fields in their order; a field behind the last item is cut off
  | _, cons f rest, .item t items, row, h => by
    rw [readItems] at h
    obtain ⟨a, ha, h⟩ := bind_eq_ok.mp h
    obtain ⟨row', hrow, h⟩ := bind_eq_ok.mp h
    cases h
    exact ⟨.inl ⟨t, ha⟩, yields_of_readItems rest hrow⟩
  | _, cons f rest, .closed, row, h => by
    rw [readItems] at h
    cases hcut : f.cut with
    | none =>
      rw [hcut] at h
      cases h
    | some a =>
      rw [hcut] at h
      obtain ⟨row', hrow, h⟩ := bind_eq_ok.mp h
      cases h
      exact ⟨.inr (.inr hcut), yields_of_readItems rest hrow⟩

end Fields

/-- A record that was decoded is made of values that its fields yield. -/
lemma yields_of_record {αs : List Type} {β : Type} {fields : Fields αs} {build : Row αs → β}
    {room : Nat} {t : Tree} {b : β} (h : Decoder.record fields build room t = .ok b) :
    ∃ row, 1 < room ∧ fields.Yields (room - 1) row ∧ b = build row := by
  cases t with
  | object members =>
    obtain ⟨hlarge, h⟩ := enter_bind_eq_ok.mp h
    obtain ⟨row, hrow, h⟩ := bind_eq_ok.mp h
    cases h
    exact ⟨row, hlarge, Fields.yields_of_decodeMembers hrow, rfl⟩
  | array items =>
    obtain ⟨hlarge, h⟩ := enter_bind_eq_ok.mp h
    obtain ⟨row, hrow, h⟩ := bind_eq_ok.mp h
    cases h
    exact ⟨row, hlarge, Fields.yields_of_readItems fields hrow, rfl⟩
  | _ => cases h

end FeatureFlags.Json
