import FeatureFlags.Proofs.Json.Edits
import Mathlib.Logic.Relation

/-!
# Tolerant decoders

A decoder is *tolerant* for a layout if what it decodes a tree to is not changed by an edit of the tree. Values
that are read as a whole, lists and records have tolerant decoders (`Tolerant.value`, `Tolerant.listField`,
`Tolerant.record`).

For a record, the edits of its members come down to what is found under one name: nothing there is new, it is
itself edited, or an idle member has come or gone (`Revised`). A field finds the same value then, and a member
that is no field can still be passed over.
-/

namespace FeatureFlags

namespace Entries

variable {α : Type}

/-- Looking up among members with one of a new name in their middle. -/
lemma get?_middle {before after : Entries α} {name : String} (h : name ∉ before.names) (value : α)
    (key : String) : get? key (before ++ (name, value) :: after) =
      if name = key then some value else get? key (before ++ after) := by
  induction before with
  | nil => rfl
  | cons entry before ih =>
    obtain ⟨first, v⟩ := entry
    obtain ⟨hfirst, hbefore⟩ := not_or.mp (mt List.mem_cons.mpr h)
    rw [List.cons_append, get?, ih hbefore, List.cons_append, get?]
    by_cases hkey : name = key
    · subst hkey
      simp [Ne.symm hfirst]
    · simp [hkey]

/-- In another order, the same is found under each name. -/
lemma get?_perm {as bs : Entries α} (h : as.Perm bs) (hnames : as.names.Nodup) (key : String) :
    get? key as = get? key bs := by
  have hnames' : bs.names.Nodup := (h.map _).nodup hnames
  refine Option.ext fun value => ⟨fun hvalue => ?_, fun hvalue => ?_⟩
  · exact get?_of_mem hnames' (h.mem_iff.mp (mem_of_get? hvalue))
  · exact get?_of_mem hnames (h.mem_iff.mpr (mem_of_get? hvalue))

end Entries

namespace Json

/-! ## What edits do under one name -/

/-- The members by their names, if all names have values. -/
def named (ms : List (Option String × Tree)) : List (String × Tree) := ms.map fun m => (m.1.getD "", m.2)

lemma ofList_eq_ofTrees {ms : List (Option String × Tree)} (h : ∀ m ∈ ms, m.1.isSome) :
    Members.ofList ms = Members.ofTrees (named ms) := by
  induction ms with
  | nil => rfl
  | cons m ms ih =>
    obtain ⟨name, t⟩ := m
    obtain ⟨hname, hrest⟩ := List.forall_mem_cons.mp h
    obtain ⟨name, rfl⟩ := Option.isSome_iff_exists.mp hname
    rw [Members.ofList, ih hrest]
    rfl

lemma names_named {ms : List (Option String × Tree)} (h : ∀ m ∈ ms, m.1.isSome) :
    (Entries.names (named ms)).map some = ms.map Prod.fst := by
  rw [Entries.names, named, List.map_map, List.map_map]
  refine List.map_congr_left fun m hm => ?_
  obtain ⟨name, hname⟩ := Option.isSome_iff_exists.mp (h m hm)
  simp only [Function.comp_apply, hname, Option.getD_some]

lemma nodup_names_named {ms : List (Option String × Tree)} (h : ∀ m ∈ ms, m.1.isSome)
    (hnames : (ms.map Prod.fst).Nodup) : (Entries.names (named ms)).Nodup := by
  rw [← names_named h] at hnames
  exact hnames.of_map some

/-- What an edit does to what is found under a name. -/
inductive Revised (room : Nat) (layout : Option Layout) : Option Tree → Option Tree → Prop
  | same (o : Option Tree) : Revised room layout o o
  | edited {t t' : Tree} (h : Edit room (layout.getD .value) t t') : Revised room layout (some t) (some t')
  | inserted {t : Tree} (hidle : Idle layout t) (hthrough : t.readThrough room = .ok ()) :
    Revised room layout none (some t)
  | removed {t : Tree} (hidle : Idle layout t) : Revised room layout (some t) none

namespace Revised

variable {room : Nat} {layout : Option Layout} {o o' : Option Tree}

/-- A revision can be skipped if the original can. -/
theorem skip (h : Revised room layout o o') (ho : ∀ t, o = some t → t.skip = .ok ()) :
    ∀ t, o' = some t → t.skip = .ok () := by
  rintro t rfl
  cases h with
  | same => exact ho t rfl
  | edited h => exact h.skip (ho _ rfl)
  | inserted _ hthrough => exact skip_of_readThrough hthrough

/-- A revision is read through if the original is. -/
theorem readThrough (h : Revised room layout o o') (ho : ∀ t, o = some t → t.readThrough room = .ok ()) :
    ∀ t, o' = some t → t.readThrough room = .ok () := by
  rintro t rfl
  cases h with
  | same => exact ho t rfl
  | edited h => exact h.readThrough (ho _ rfl)
  | inserted _ hthrough => exact hthrough

end Revised

/-- A name that does not occur is not among the legible names either. -/
lemma not_mem_names_named {ms : List (Option String × Tree)} (h : ∀ m ∈ ms, m.1.isSome) {name : String}
    (hname : some name ∉ ms.map Prod.fst) : name ∉ Entries.names (named ms) := by
  rw [← names_named h] at hname
  exact fun hmem => hname (List.mem_map_of_mem hmem)

lemma named_append (before after : List (Option String × Tree)) :
    named (before ++ after) = named before ++ named after :=
  List.map_append

/-- What is found under each name if there is one more member. -/
lemma get?_named_middle {before after : List (Option String × Tree)} (h : ∀ m ∈ before, m.1.isSome)
    {name : String} (hname : some name ∉ before.map Prod.fst) (t : Tree) (key : String) :
    Entries.get? key (named (before ++ (some name, t) :: after)) =
      if name = key then some t else Entries.get? key (named (before ++ after)) := by
  rw [named_append, named_append]
  exact Entries.get?_middle (not_mem_names_named h hname) t key

/-- What an edit can do: it revises the members of an object, edits an item of an array, or exchanges null and
an empty list. -/
lemma Edit.cases {room : Nat} {layout : Layout} {t t' : Tree} (h : Edit room layout t t') :
    (∃ ms ms', t = .object (.ofList ms) ∧ t' = .object (.ofList ms') ∧
      ((∀ m ∈ ms, m.1.isSome) → (ms.map Prod.fst).Nodup → (∀ m ∈ ms', m.1.isSome) ∧
        ∀ key, Revised (room - 1) (layout.member? (some key)) (Entries.get? key (named ms))
          (Entries.get? key (named ms')))) ∨
    (∃ before after s s', t = .array (.ofTrees (before ++ s :: after)) ∧
      t' = .array (.ofTrees (before ++ s' :: after)) ∧ Edit (room - 1) (layout.item before.length) s s') ∨
    ∃ item, layout = .list item ∧
      (t = .null ∧ t' = .array .closed ∧ 1 < room ∨ t = .array .closed ∧ t' = .null) := by
  -- an edit changes members, an item, or a list that is missing
  cases h with
  | @reorder _ _ ms ms' hperm =>
    refine .inl ⟨_, _, rfl, rfl, fun hsome hnames => ⟨fun m hm => hsome m (hperm.mem_iff.mpr hm), fun key => ?_⟩⟩
    have hnamed : (named ms).Perm (named ms') := hperm.map _
    rw [Entries.get?_perm hnamed (nodup_names_named hsome hnames)]
    exact .same _
  | @insert _ _ before after name s hnew hidle hthrough =>
    refine .inl ⟨_, _, rfl, rfl, fun hsome _ => ?_⟩
    obtain ⟨hbefore, hafter⟩ := List.forall_mem_append.mp hsome
    -- the new name is not among the members before it either
    have hname : some name ∉ before.map Prod.fst := fun hmem => hnew (by
      rw [List.map_append]
      exact List.mem_append_left _ hmem)
    refine ⟨List.forall_mem_append.mpr ⟨hbefore, List.forall_mem_cons.mpr ⟨rfl, hafter⟩⟩, fun key => ?_⟩
    rw [get?_named_middle hbefore hname]
    split_ifs with hkey
    · subst hkey
      rw [Entries.get?_of_not_mem (not_mem_names_named hsome hnew)]
      exact .inserted hidle hthrough
    · exact .same _
  | @remove _ _ before after name s hidle =>
    refine .inl ⟨_, _, rfl, rfl, fun hsome hnames => ?_⟩
    obtain ⟨hbefore, hafter⟩ := List.forall_mem_append.mp hsome
    have hsome' := List.forall_mem_append.mpr ⟨hbefore, (List.forall_mem_cons.mp hafter).2⟩
    rw [List.map_append] at hnames
    obtain ⟨hname, -⟩ := List.nodup_cons.mp (List.nodup_middle.mp hnames)
    refine ⟨hsome', fun key => ?_⟩
    rw [get?_named_middle hbefore fun hmem => hname (List.mem_append_left _ hmem)]
    split_ifs with hkey
    · subst hkey
      rw [Entries.get?_of_not_mem (not_mem_names_named hsome' (by rwa [List.map_append]))]
      exact .removed hidle
    · exact .same _
  | @member _ _ before after name s s' h =>
    refine .inl ⟨_, _, rfl, rfl, fun hsome hnames => ?_⟩
    -- replacing the value of a member leaves the names as they are
    refine ⟨forall_mem_replace ?_ hsome, fun key => ?_⟩
    · exact fun hname => hname
    obtain ⟨hbefore, hafter⟩ := List.forall_mem_append.mp hsome
    obtain ⟨name, rfl⟩ := Option.isSome_iff_exists.mp (List.forall_mem_cons.mp hafter).1
    rw [List.map_append] at hnames
    obtain ⟨hname, -⟩ := List.nodup_cons.mp (List.nodup_middle.mp hnames)
    have hname' : some name ∉ before.map Prod.fst := fun hmem => hname (List.mem_append_left _ hmem)
    rw [get?_named_middle hbefore hname', get?_named_middle hbefore hname']
    split_ifs with hkey
    · subst hkey
      exact .edited h
    · exact .same _
  | item h => exact .inr (.inl ⟨_, _, _, _, rfl, rfl, h⟩)
  | empty hroom => exact .inr (.inr ⟨_, rfl, .inl ⟨rfl, rfl, hroom⟩⟩)
  | null => exact .inr (.inr ⟨_, rfl, .inr ⟨rfl, rfl⟩⟩)

/-! ## Tolerant decoders -/

/-- What a tree is decoded to is not changed by an edit of the tree. -/
structure Tolerant {α : Type} (layout : Layout) (d : Decoder α) : Prop where
  keep : ∀ {room : Nat} {t t' : Tree} {a : α}, Edit room layout t t' → t.Distinct layout → d room t = .ok a →
    d room t' = .ok a

/-- A field finds the same value after an edit of what is found under its name. -/
structure TolerantField {α : Type} (layout : Layout) (f : Field α) : Prop where
  read : Tolerant layout f.read
  absent_of_idle : ∀ {room : Nat} {t : Tree} {a : α}, Idle (some layout) t → f.read room t = .ok a →
    f.absent = some a
  idle_of_absent : ∀ {room : Nat} {t : Tree} {a : α}, Idle (some layout) t → t.readThrough room = .ok () →
    f.absent = some a → f.read room t = .ok a

variable {α β : Type}

namespace Tolerant

variable {layout : Layout} {d : Decoder α}

/-- A decoder that accepts neither arrays nor objects. -/
lemma ofScalar (harray : ∀ room items a, d room (.array items) ≠ .ok a)
    (hobject : ∀ room members a, d room (.object members) ≠ .ok a) : Tolerant .value d := by
  refine ⟨fun h _ hdecode => ?_⟩
  rcases h.cases with ⟨_, _, rfl, _⟩ | ⟨_, _, _, _, rfl, _⟩ | ⟨_, heq, _⟩
  · exact absurd hdecode (hobject _ _ _)
  · exact absurd hdecode (harray _ _ _)
  · cases heq

lemma string : Tolerant .value Decoder.string := ofScalar nofun nofun

lemma bool : Tolerant .value Decoder.bool := ofScalar nofun nofun

lemma integer (least greatest : Int) : Tolerant .value (Decoder.integer least greatest) := ofScalar nofun nofun

lemma natural (bits : Nat) : Tolerant .value (Decoder.natural bits) := ofScalar nofun nofun

lemma single : Tolerant .value Decoder.single := ofScalar nofun nofun

theorem value : Tolerant .value Decoder.value := ⟨fun h hdistinct hv => h.toValue hdistinct hv⟩

lemma map (f : α → β) (h : Tolerant layout d) : Tolerant layout (Decoder.map f d) := by
  refine ⟨fun hedit hdistinct hdecode => ?_⟩
  obtain ⟨a, ha, rfl⟩ := map_eq_ok.mp hdecode
  exact map_eq_ok.mpr ⟨a, h.keep hedit hdistinct ha, rfl⟩

/-- A value that may be null; null is left alone where no list is read. -/
lemma optional (h : Tolerant layout d) (hlayout : ∀ item, layout ≠ .list item) :
    Tolerant layout (Decoder.optional d) := by
  refine ⟨fun hedit hdistinct hdecode => ?_⟩
  rcases hedit.cases with ⟨_, _, rfl, rfl, _⟩ | ⟨_, _, _, _, rfl, rfl, _⟩ | ⟨item, heq, _⟩
  · exact (h.map some).keep hedit hdistinct hdecode
  · exact (h.map some).keep hedit hdistinct hdecode
  · exact absurd heq (hlayout item)

/-- The reader of a list that may be null. -/
theorem listField (h : Tolerant layout d) : Tolerant (.list layout) (Decoder.orDefault [] (Decoder.list d)) := by
  refine ⟨fun hedit hdistinct hdecode => ?_⟩
  rcases hedit.cases with ⟨_, _, rfl, _⟩ | ⟨before, after, s, s', rfl, rfl, hitem⟩ |
    ⟨_, _, ⟨rfl, rfl, hroom⟩ | ⟨rfl, rfl⟩⟩
  · cases hdecode
  · obtain ⟨_, hlist, rfl⟩ := map_eq_ok.mp hdecode
    obtain ⟨as, has, rfl⟩ := map_eq_ok.mp hlist
    obtain ⟨hroom, has⟩ := enter_bind_eq_ok.mp has
    have has' := items_replace (fun a => h.keep hitem (distinct_item hdistinct)) has
    exact map_eq_ok.mpr ⟨_, map_eq_ok.mpr ⟨as, enter_bind_eq_ok.mpr ⟨hroom, has'⟩, rfl⟩, rfl⟩
  · cases hdecode
    exact map_eq_ok.mpr ⟨_, map_eq_ok.mpr ⟨[], enter_bind_eq_ok.mpr ⟨hroom, rfl⟩, rfl⟩, rfl⟩
  · obtain ⟨_, hlist, rfl⟩ := map_eq_ok.mp hdecode
    obtain ⟨as, has, rfl⟩ := map_eq_ok.mp hlist
    obtain ⟨-, has⟩ := enter_bind_eq_ok.mp has
    cases has
    rfl

end Tolerant

/-! ### Fields -/

namespace TolerantField

variable {layout : Layout} {f : Field α} {room : Nat} {look look' : Lookup}

/-- A field that is no list has no idle members. -/
lemma of_ne_list (h : Tolerant layout f.read) (hlayout : ∀ item, layout ≠ .list item) :
    TolerantField layout f where
  read := h
  absent_of_idle hidle := by
    cases layout with
    | list item => exact absurd rfl (hlayout item)
    | value | record => cases hidle
  idle_of_absent hidle := by
    cases layout with
    | list item => exact absurd rfl (hlayout item)
    | value | record => cases hidle

/-- A list is empty if it is absent, null or empty. -/
theorem list (name : String) {d : Decoder α} (h : Tolerant layout d) :
    TolerantField (.list layout) (Field.list name d) where
  read := h.listField
  absent_of_idle {room t a} hidle hread := by
    rcases hidle with rfl | rfl
    · cases hread
      rfl
    · have hedit : Edit room (.list layout) (.array .closed) .null := .null
      have hnull := h.listField.keep hedit trivial hread
      cases hnull
      rfl
  idle_of_absent hidle hthrough habsent := by
    cases habsent
    rcases hidle with rfl | rfl
    · rfl
    · exact h.listField.keep (.empty (readThrough_closed_iff.mp hthrough)) trivial rfl

/-- A tolerant field finds the same value in a revision. -/
lemma find (h : TolerantField layout f) (hrevised : Revised room (some layout) (look f.name) (look' f.name))
    (hdistinct : ∀ t, look f.name = some t → t.Distinct layout) {a : α} (ha : f.find room look = some a) :
    f.find room look' = some a := by
  rw [Field.find] at ha ⊢
  generalize look f.name = o, look' f.name = o' at ha hrevised hdistinct
  cases hrevised with
  | same => exact ha
  | edited hedit => exact toOption_eq_some.mpr (h.read.keep hedit (hdistinct _ rfl) (toOption_eq_some.mp ha))
  | inserted hidle hthrough => exact toOption_eq_some.mpr (h.idle_of_absent hidle hthrough ha)
  | removed hidle => exact h.absent_of_idle hidle (toOption_eq_some.mp ha)

end TolerantField

namespace Tolerant

/-- The fields of a record, each with what is read off its member. -/
def OfFields : {αs : List Type} → List (String × Layout) → Fields αs → Prop
  | _, [], .nil => True
  | _, (name, layout) :: layouts, .cons f rest => f.name = name ∧ TolerantField layout f ∧ OfFields layouts rest
  | _, _, _ => False

/-- Tolerant fields have the names of their layouts. -/
lemma names_eq : {αs : List Type} → {layouts : List (String × Layout)} → {fields : Fields αs} →
    OfFields layouts fields → fields.names = Entries.names layouts
  | _, [], .nil, _ => rfl
  | _, (_, _) :: _, .cons f rest, h => by
    rw [Fields.names, h.1, names_eq h.2.2]
    rfl

/-- Fields find the same values after an edit of what is found under their names. The layouts may be those of
some of the members only. -/
lemma find {room : Nat} {look look' : Lookup} {all : List (String × Layout)} (hall : (Entries.names all).Nodup)
    (hrevised : ∀ name, Revised room (Entries.get? name all) (look name) (look' name))
    (hdistinct : ∀ name t layout, look name = some t → Entries.get? name all = some layout → t.Distinct layout) :
    {αs : List Type} → {layouts : List (String × Layout)} → {fields : Fields αs} → OfFields layouts fields →
      (∀ l ∈ layouts, l ∈ all) → {row : Row αs} → fields.find room look = some row →
      fields.find room look' = some row
  | _, [], .nil, _, _, _, hrow => hrow
  | _, (name, layout) :: layouts, .cons f rest, h, hsub, (a, row), hrow => by
    obtain ⟨rfl, hf, hrest⟩ := h
    obtain ⟨hfirst, hsub⟩ := List.forall_mem_cons.mp hsub
    obtain ⟨ha, hrow⟩ := Fields.find_cons_eq_some.mp hrow
    have hlayout : Entries.get? f.name all = some layout := Entries.get?_of_mem hall hfirst
    refine Fields.find_cons_eq_some.mpr ⟨hf.find ?_ (fun t ht => hdistinct _ t layout ht hlayout) ha,
      find hall hrevised hdistinct hrest hsub hrow⟩
    rw [← hlayout]
    exact hrevised f.name

/-- By induction on the fields, up to the place of the edited item. -/
lemma readItems {room : Nat} {after : List Tree} {t t' : Tree} : {αs : List Type} →
    {layouts : List (String × Layout)} → {fields : Fields αs} → OfFields layouts fields → {before : List Tree} →
    Edit room ((layouts.map Prod.snd).getD before.length .value) t t' →
    (Items.ofTrees (before ++ t :: after)).Distinct (fun i => (layouts.map Prod.snd).getD i .value) →
    {row : Row αs} → fields.readItems room (.ofTrees (before ++ t :: after)) = .ok row →
    fields.readItems room (.ofTrees (before ++ t' :: after)) = .ok row
  | _, [], .nil, _, [], _, _, _, hrow => by cases hrow
  | _, [], .nil, _, _ :: _, _, _, _, hrow => by cases hrow
  | _, (_, _) :: _, .cons f rest, h, [], hedit, hdistinct, _, hrow => by
    obtain ⟨a, ha, hrow⟩ := bind_eq_ok.mp hrow
    exact bind_eq_ok.mpr ⟨a, h.2.1.read.keep hedit hdistinct.1 ha, hrow⟩
  | _, (_, _) :: _, .cons f rest, h, s :: before, hedit, hdistinct, _, hrow => by
    obtain ⟨a, ha, hrow⟩ := bind_eq_ok.mp hrow
    obtain ⟨row, hrest, hrow⟩ := bind_eq_ok.mp hrow
    exact bind_eq_ok.mpr ⟨a, ha, bind_eq_ok.mpr ⟨row, readItems h.2.2 hedit hdistinct.2 hrest, hrow⟩⟩

/-! ### Records -/

/-- What an edit of a record does to its members: `ms` and `ms'` are all members by their names. -/
structure MembersEdited (room : Nat) (layouts : List (String × Layout)) (ms ms' : List (String × Tree)) : Prop where
  names : (Entries.names ms).Nodup
  names' : (Entries.names ms').Nodup
  revised : ∀ name, Revised room (Entries.get? name layouts) (Entries.get? name ms) (Entries.get? name ms')
  distinct : ∀ name t layout, Entries.get? name ms = some t → Entries.get? name layouts = some layout →
    t.Distinct layout

namespace MembersEdited

variable {room : Nat} {layouts : List (String × Layout)} {ms ms' : List (String × Tree)}

/-- What holds of the members that are no fields still holds of them if no edit takes it away. -/
lemma others {p : Tree → Prop} {αs : List Type} {fields : Fields αs}
    (h : MembersEdited room layouts ms ms')
    (hkeep : ∀ {layout o o'}, Revised room layout o o' → (∀ t, o = some t → p t) → ∀ t, o' = some t → p t)
    (hothers : ∀ m ∈ fields.others ms, p m.2) : ∀ m ∈ fields.others ms', p m.2 := by
  intro m hm
  obtain ⟨hm, hname⟩ := List.mem_filter.mp hm
  refine hkeep (h.revised m.1) (fun t ht => ?_) m.2 (Entries.get?_of_mem h.names' hm)
  exact hothers (m.1, t) (List.mem_filter.mpr ⟨Entries.mem_of_get? ht, hname⟩)

end MembersEdited

/-- Members that were read have legible names. -/
lemma isSome_of_readMembers {σ : Type} {αs : List Type} {fields : Fields αs}
    {other : σ → String → Tree → Except DecodeError σ} {room : Nat} {ms : List (Option String × Tree)} {s : σ}
    {slots : Slots αs} {r : σ × Slots αs} (h : fields.readMembers other room s slots (.ofList ms) = .ok r) :
    ∀ m ∈ ms, m.1.isSome := by
  induction ms generalizing s slots with
  | nil => exact nofun
  | cons m ms ih =>
    obtain ⟨name, t⟩ := m
    cases name with
    | none => cases h
    | some name =>
      refine List.forall_mem_cons.mpr ⟨rfl, ?_⟩
      rw [Members.ofList, Fields.readMembers] at h
      split at h <;> obtain ⟨_, -, h⟩ := bind_eq_ok.mp h <;> exact ih h

/-- Members that are revised under every name form an edit of the record. -/
lemma membersEdited {room : Nat} {layouts : List (String × Layout)} {ms ms' : List (Option String × Tree)}
    (hsome : ∀ m ∈ ms, m.1.isSome) (hsome' : ∀ m ∈ ms', m.1.isSome)
    (hdistinct : (Tree.object (.ofList ms)).Distinct (.record layouts))
    (hdistinct' : (Tree.object (.ofList ms')).Distinct (.record layouts))
    (hrevised : ∀ name, Revised room (Entries.get? name layouts) (Entries.get? name (named ms))
      (Entries.get? name (named ms'))) : MembersEdited room layouts (named ms) (named ms') where
  names := nodup_names_named hsome (by rw [← names_ofList]; exact hdistinct.1)
  names' := nodup_names_named hsome' (by rw [← names_ofList]; exact hdistinct'.1)
  revised := hrevised
  distinct name t layout ht hlayout := by
    obtain ⟨⟨first, t⟩, hm, heq⟩ := List.mem_map.mp (Entries.mem_of_get? ht)
    obtain ⟨first, rfl⟩ := Option.isSome_iff_exists.mp (hsome _ hm)
    cases heq
    exact distinct_ofList_iff.mp hdistinct.2 _ hm layout hlayout

/-- A decoder of objects is tolerant if edited members do not change its result. -/
lemma object_keep {layouts : List (String × Layout)} {d : Decoder α}
    (hsome : ∀ {room ms a}, d room (.object (.ofList ms)) = .ok a → ∀ m ∈ ms, m.1.isSome)
    (hmembers : ∀ {room ms ms' a}, MembersEdited (room - 1) layouts ms ms' →
      d room (.object (.ofTrees ms)) = .ok a → d room (.object (.ofTrees ms')) = .ok a)
    (hitem : ∀ {room before after t t' a},
      Edit (room - 1) ((layouts.map Prod.snd).getD before.length .value) t t' →
      (Items.ofTrees (before ++ t :: after)).Distinct (fun i => (layouts.map Prod.snd).getD i .value) →
      d room (.array (.ofTrees (before ++ t :: after))) = .ok a →
      d room (.array (.ofTrees (before ++ t' :: after))) = .ok a) : Tolerant (.record layouts) d := by
  refine ⟨fun hedit hdistinct hdecode => ?_⟩
  rcases hedit.cases with ⟨ms, ms', rfl, rfl, hrevised⟩ | ⟨_, _, _, _, rfl, rfl, h⟩ | ⟨_, heq, _⟩
  -- members were decoded, so their names are legible and the order of reading does not matter
  · have hms := hsome hdecode
    have hdistinct' := hedit.distinct hdistinct
    obtain ⟨hms', hrevised⟩ := hrevised hms (by rw [← names_ofList]; exact hdistinct.1)
    rw [ofList_eq_ofTrees hms] at hdecode
    rw [ofList_eq_ofTrees hms']
    exact hmembers (membersEdited hms hms' hdistinct hdistinct' hrevised) hdecode
  · exact hitem h hdistinct hdecode
  · cases heq

/-- A record is tolerant if its fields are. -/
theorem record {αs : List Type} (layouts : List (String × Layout)) (fields : Fields αs)
    (hnames : (Entries.names layouts).Nodup) (h : OfFields layouts fields) (build : Row αs → β) :
    Tolerant (.record layouts) (Decoder.record fields build) := by
  have hfields : fields.names.Nodup := by rwa [names_eq h]
  -- members are decoded in the order of the text, and found by name
  refine object_keep (fun {room ms a} hdecode => ?_) (fun {room ms ms' a} hms hdecode => ?_)
    fun {room before after t t' a} hedit hdistinct hdecode => ?_
  · obtain ⟨-, hdecode⟩ := enter_bind_eq_ok.mp hdecode
    obtain ⟨_, hrow, -⟩ := bind_eq_ok.mp hdecode
    obtain ⟨_, hread, -⟩ := bind_eq_ok.mp hrow
    exact isSome_of_readMembers hread
  · obtain ⟨hroom, hdecode⟩ := enter_bind_eq_ok.mp hdecode
    obtain ⟨row, hrow, heq⟩ := bind_eq_ok.mp hdecode
    obtain ⟨hskip, hfind⟩ := (Fields.decodeMembers_eq_ok_iff hfields hms.names).mp hrow
    have hrow' := (Fields.decodeMembers_eq_ok_iff hfields hms.names').mpr
      ⟨hms.others Revised.skip hskip, find hnames hms.revised hms.distinct h (fun _ hl => hl) hfind⟩
    exact enter_bind_eq_ok.mpr ⟨hroom, bind_eq_ok.mpr ⟨row, hrow', heq⟩⟩
  · obtain ⟨hroom, hdecode⟩ := enter_bind_eq_ok.mp hdecode
    obtain ⟨row, hrow, heq⟩ := bind_eq_ok.mp hdecode
    exact enter_bind_eq_ok.mpr ⟨hroom, bind_eq_ok.mpr ⟨row, readItems h hedit hdistinct hrow, heq⟩⟩

end Tolerant

/-! ## Texts -/

/-- The tree of one text is that of another after some edits. -/
def Edited (layout : Layout) (text text' : String) : Prop :=
  ∃ t t', Tree.ofText text = (t, true) ∧ Tree.ofText text' = (t', true) ∧
    Relation.ReflTransGen (Edit nestingRoom layout) t t'

/-- A text is that of an object, and another text is that of this object without the member of a name. -/
def MemberRemoved (name : String) (text text' : String) : Prop :=
  ∃ before t after, Tree.ofText text = (.object (.ofList (before ++ (some name, t) :: after)), true) ∧
    Tree.ofText text' = (.object (.ofList (before ++ after)), true)

/-- On a text that is one whole tree, a decoder answers as it does on the tree. -/
lemma run_eq_ok_iff {d : Decoder α} {text : String} {t : Tree} {a : α} (h : Tree.ofText text = (t, true)) :
    d.run text = .ok a ↔ d nestingRoom t = .ok a := by
  rw [Decoder.run, h]
  dsimp only
  cases d nestingRoom t <;> rfl

/-- Every text that is edited from one without repeated names is decoded to the same. -/
lemma Tolerant.run {layout : Layout} {d : Decoder α} (h : Tolerant layout d) {text text' : String} {a : α}
    (hnames : (Tree.ofText text).1.DistinctNames) (hdecode : d.run text = .ok a)
    (hedited : Edited layout text text') : d.run text' = .ok a := by
  obtain ⟨t, t', htext, htext', hedits⟩ := hedited
  rw [htext] at hnames
  rw [run_eq_ok_iff htext] at hdecode
  rw [run_eq_ok_iff htext']
  clear htext'
  -- no step repeats a name where it is read, so the next one is tolerated too
  have hchain : t'.Distinct layout ∧ d nestingRoom t' = .ok a := by
    induction hedits with
    | refl => exact ⟨distinct_of_distinctNames hnames, hdecode⟩
    | tail _ hedit ih => exact ⟨hedit.distinct ih.1, h.keep hedit ih.1 ih.2⟩
  exact hchain.2

/-- A field of this name has to be there. -/
def Fields.Requires (name : String) : {αs : List Type} → Fields αs → Prop
  | _, .nil => False
  | _, .cons f rest => f.name = name ∧ f.absent = none ∨ rest.Requires name

/-- A record with a required field is not found where its name is missing. -/
lemma find_eq_none_of_requires {name : String} {room : Nat} {look : Lookup} (hlook : look name = none) :
    {αs : List Type} → {fields : Fields αs} → fields.Requires name → fields.find room look = none
  | _, .cons f rest, h => by
    rcases h with ⟨hname, habsent⟩ | h
    · rw [Fields.find, Field.find, hname, hlook, habsent]
      rfl
    · rw [Fields.find, find_eq_none_of_requires hlook h]
      cases f.find room look <;> rfl

/-- Without a member that has to be there, a record is not decoded. -/
lemma exists_error_of_removed {αs : List Type} {fields : Fields αs} (hfields : fields.names.Nodup) {name : String}
    (hrequires : fields.Requires name) (build : Row αs → β) {text text' : String}
    (hnames : (Tree.ofText text).1.DistinctNames) (hremoved : MemberRemoved name text text') :
    ∃ e, (Decoder.record fields build).run text' = .error e := by
  obtain ⟨before, t, after, htext, htext'⟩ := hremoved
  rw [htext] at hnames
  have hmembers := hnames.1
  -- the names that remain are distinct, and the required one is not among them
  rw [names_ofList, List.map_append] at hmembers
  obtain ⟨hname, hrest⟩ := List.nodup_cons.mp (List.nodup_middle.mp hmembers)
  rw [← List.map_append] at hname hrest
  -- if it were decoded, the required member would have been found
  rw [← toOption_eq_none, Option.eq_none_iff_forall_ne_some]
  intro b hb
  rw [toOption_eq_some, run_eq_ok_iff htext'] at hb
  obtain ⟨-, hb⟩ := enter_bind_eq_ok.mp hb
  obtain ⟨row, hrow, -⟩ := bind_eq_ok.mp hb
  obtain ⟨_, hread, -⟩ := bind_eq_ok.mp hrow
  have hsome := Tolerant.isSome_of_readMembers hread
  rw [ofList_eq_ofTrees hsome, Fields.decodeMembers_eq_ok_iff hfields (nodup_names_named hsome hrest)] at hrow
  have hlook := Entries.get?_of_not_mem (not_mem_names_named hsome hname)
  rw [find_eq_none_of_requires hlook hrequires] at hrow
  cases hrow.2

end Json
end FeatureFlags
