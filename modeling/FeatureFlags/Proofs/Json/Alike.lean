import FeatureFlags.Proofs.Json.Records
import FeatureFlags.Proofs.Json.Values

/-!
# Trees of one value

A value can be decoded off the text that holds it or off the tree of the generic value that was read first.
The two trees differ in the order of the members of their objects. `Alike n` says that this is all, that both
are complete and no name is repeated, and that at most `n` arrays and objects are nested in each other.

A decoder is *steady* if it gives the same result for trees that are alike, in any rooms that are large enough.
The decoders of this library are: `Steady.list`, `Steady.record` and the others put them together. What is read
off a text without repeated names is alike to the tree of its generic value (`alike_ofValue`).
-/

namespace FeatureFlags

/-! ## Entries with the same values -/

namespace Entries

variable {α β : Type}

lemma get?_mapValues (f : α → β) (name : String) (entries : Entries α) :
    get? name (mapValues f entries) = (get? name entries).map f := by
  induction entries with
  | nil => rfl
  | cons entry rest ih =>
    obtain ⟨first, v⟩ := entry
    rw [mapValues, List.map_cons, get?, get?, ← mapValues, ih]
    split_ifs <;> rfl

lemma names_mapValues (f : α → β) (entries : Entries α) : (mapValues f entries).names = entries.names := by
  rw [names, mapValues, List.map_map]
  rfl

lemma isSome_get?_iff {name : String} {entries : Entries α} :
    (get? name entries).isSome ↔ name ∈ entries.names := by
  induction entries with
  | nil => exact ⟨nofun, nofun⟩
  | cons entry rest ih =>
    obtain ⟨first, v⟩ := entry
    have hnames : name ∈ names ((first, v) :: rest) ↔ name = first ∨ name ∈ names rest := List.mem_cons
    rw [get?, hnames, ← ih]
    by_cases hfirst : first = name
    · simp [hfirst]
    · simp [hfirst, Ne.symm hfirst]

lemma ordered_nil : Ordered ([] : Entries α) := List.Pairwise.nil

/-- Names in strictly ascending order are distinct. -/
lemma Ordered.nodup {entries : Entries α} (h : entries.Ordered) : entries.names.Nodup :=
  h.imp fun hlt => by
    rintro rfl
    exact String.lt_irrefl _ hlt

/-- Without repeated names, every entry is found. -/
lemma get?_of_mem {entries : Entries α} (hnodup : entries.names.Nodup) {name : String} {value : α}
    (h : (name, value) ∈ entries) : get? name entries = some value := by
  induction entries with
  | nil => cases h
  | cons entry rest ih =>
    obtain ⟨first, v⟩ := entry
    obtain ⟨hfirst, hrest⟩ := List.nodup_cons.mp hnodup
    rcases List.mem_cons.mp h with heq | h
    · cases heq
      exact if_pos rfl
    · have hne : first ≠ name := by
        rintro rfl
        exact hfirst (List.mem_map.mpr ⟨_, h, rfl⟩)
      rw [get?, if_neg hne, ih hrest h]

/-- Entries in order are determined by what is found in them. -/
lemma Ordered.ext {as bs : Entries α} (ha : as.Ordered) (hb : bs.Ordered)
    (h : ∀ name, get? name as = get? name bs) : as = bs := by
  induction as generalizing bs with
  | nil =>
    cases bs with
    | nil => rfl
    | cons b bs =>
      have hfound : none = some b.2 := by simpa [get?] using h b.1
      cases hfound
  | cons a as ih =>
    obtain ⟨n, v⟩ := a
    cases bs with
    | nil =>
      have hfound : some v = none := by simpa [get?] using h n
      cases hfound
    | cons b bs =>
      obtain ⟨m, w⟩ := b
      obtain ⟨hfirst, has⟩ := List.pairwise_cons.mp ha
      obtain ⟨hfirst', hbs⟩ := List.pairwise_cons.mp hb
      -- the least name of one side is found on the other
      have hname : n = m := by
        refine String.le_antisymm (String.not_lt.mp fun hlt => ?_) (String.not_lt.mp fun hlt => ?_)
        · have hgone : get? m ((n, v) :: as) = none := get?_of_not_mem fun hmem => by
            rcases List.mem_cons.mp hmem with rfl | hmem
            · exact String.lt_irrefl _ hlt
            · exact String.lt_asymm hlt (hfirst m hmem)
          rw [h m, get?, if_pos rfl] at hgone
          cases hgone
        · have hgone : get? n ((m, w) :: bs) = none := get?_of_not_mem fun hmem => by
            rcases List.mem_cons.mp hmem with rfl | hmem
            · exact String.lt_irrefl _ hlt
            · exact String.lt_asymm hlt (hfirst' n hmem)
          rw [← h n, get?, if_pos rfl] at hgone
          cases hgone
      subst hname
      have hvalue : some v = some w := by simpa [get?] using h n
      cases hvalue
      rw [ih has hbs fun name => ?_]
      by_cases heq : n = name
      · subst heq
        rw [get?_of_not_mem fun hmem => String.lt_irrefl _ (hfirst n hmem),
          get?_of_not_mem fun hmem => String.lt_irrefl _ (hfirst' n hmem)]
      · simpa [get?, heq] using h name

end Entries

namespace Json

/-! ## Trees that are alike -/

/-- Trees of values that are neither arrays nor objects. -/
def Tree.IsScalar : Tree → Prop
  | .null | .bool _ | .number _ | .string _ => True
  | _ => False

/-- Trees of one value, given what that means for the items and the members. -/
inductive AlikeStep (r : Tree → Tree → Prop) : Tree → Tree → Prop
  | scalar {t : Tree} (h : t.IsScalar) : AlikeStep r t t
  | array {ts ts' : List Tree} (h : List.Forall₂ r ts ts') :
    AlikeStep r (.array (Items.ofTrees ts)) (.array (Items.ofTrees ts'))
  | object {ms ms' : List (String × Tree)} (hnames : (Entries.names ms).Nodup)
    (hnames' : (Entries.names ms').Nodup)
    (h : ∀ name, Option.Rel r (Entries.get? name ms) (Entries.get? name ms')) :
    AlikeStep r (.object (Members.ofTrees ms)) (.object (Members.ofTrees ms'))

/-- Complete trees of one value, in which at most `n` arrays and objects are nested in each other. -/
def Alike : Nat → Tree → Tree → Prop
  | 0, t, t' => t.IsScalar ∧ t' = t
  | n + 1, t, t' => AlikeStep (Alike n) t t'

/-- Arrays are alike item by item. -/
lemma alike_array {n : Nat} {ts ts' : List Tree} (h : List.Forall₂ (Alike n) ts ts') :
    Alike (n + 1) (.array (Items.ofTrees ts)) (.array (Items.ofTrees ts')) :=
  AlikeStep.array h

/-- Objects are alike if every name leads to alike members, in whatever order these stand. -/
lemma alike_object {n : Nat} {ms ms' : List (String × Tree)} (hnames : (Entries.names ms).Nodup)
    (hnames' : (Entries.names ms').Nodup)
    (h : ∀ name, Option.Rel (Alike n) (Entries.get? name ms) (Entries.get? name ms')) :
    Alike (n + 1) (.object (Members.ofTrees ms)) (.object (Members.ofTrees ms')) :=
  AlikeStep.object hnames hnames' h

lemma alike_scalar {n : Nat} {t : Tree} (h : t.IsScalar) : Alike n t t := by
  cases n with
  | zero => exact ⟨h, rfl⟩
  | succ n => exact .scalar h

/-! ### The value of trees that are alike -/

lemma exists_of_rel_left {α β : Type} {r : α → β → Prop} {o : Option α} {o' : Option β} {a : α}
    (h : Option.Rel r o o') (ha : o = some a) : ∃ b, o' = some b ∧ r a b := by
  cases h with
  | none => cases ha
  | some h =>
    cases ha
    exact ⟨_, rfl, h⟩

lemma exists_of_rel_right {α β : Type} {r : α → β → Prop} {o : Option α} {o' : Option β} {b : β}
    (h : Option.Rel r o o') (hb : o' = some b) : ∃ a, o = some a ∧ r a b := by
  cases h with
  | none => cases hb
  | some h =>
    cases hb
    exact ⟨_, rfl, h⟩

/-- Going one level down costs one unit of room, which `n < room` leaves. -/
lemma enter_bind {β : Type} {n room : Nat} (h : n < room) (f : Nat → Except DecodeError β) :
    enter (room + 1) >>= f = f room := by
  have henter : enter (room + 1) = .ok room := enter_eq_ok.mpr ⟨by omega, rfl⟩
  rw [henter]
  rfl

/-- Members with these values are read as entries in order. -/
lemma toEntries_ofTrees {room : Nat} {g : String → Value} {ms : List (String × Tree)}
    {done : Entries Value} (hms : ∀ m ∈ ms, m.2.toValue room = .ok (g m.1)) (hdone : done.Ordered) :
    ∃ entries, (Members.ofTrees ms).toEntries room done = .ok entries ∧ entries.Ordered ∧
      ∀ name, Entries.get? name entries =
        if name ∈ Entries.names ms then some (g name) else Entries.get? name done := by
  -- the entries read so far are `done`: what comes later under the same name replaces them
  induction ms generalizing done with
  | nil => exact ⟨done, rfl, hdone, fun _ => rfl⟩
  | cons m ms ih =>
    obtain ⟨first, t⟩ := m
    obtain ⟨entries, hread, hordered, hentries⟩ := ih (fun m hm => hms m (List.mem_cons_of_mem _ hm))
      (Entries.ordered_insert hdone : (Entries.insert first (g first) done).Ordered)
    refine ⟨entries, bind_eq_ok.mpr ⟨_, hms _ List.mem_cons_self, hread⟩, hordered, fun name => ?_⟩
    rw [hentries name, Entries.get?_insert]
    have hnames : name ∈ Entries.names ((first, t) :: ms) ↔ name = first ∨ name ∈ Entries.names ms :=
      List.mem_cons
    simp only [hnames]
    by_cases hfirst : first = name
    · subst hfirst
      simp
    · simp [hfirst, Ne.symm hfirst]

/-- Members with the same names and the same values are read as the same entries. -/
lemma exists_entries {n : Nat} {g : String → Value} {ms ms' : List (String × Tree)}
    (hnames : (Entries.names ms).Nodup) (hnames' : (Entries.names ms').Nodup)
    (h : ∀ name, Option.Rel
      (fun t t' => ∀ room, n < room → t.toValue room = .ok (g name) ∧ t'.toValue room = .ok (g name))
      (Entries.get? name ms) (Entries.get? name ms')) :
    ∃ entries, ∀ room, n < room → (Members.ofTrees ms).toEntries room [] = .ok entries ∧
      (Members.ofTrees ms').toEntries room [] = .ok entries := by
  -- both lists of members give each name the same value
  have hleft : ∀ room, n < room → ∀ m ∈ ms, m.2.toValue room = .ok (g m.1) := by
    intro room hroom m hm
    obtain ⟨t', -, hv⟩ := exists_of_rel_left (h m.1) (Entries.get?_of_mem hnames hm)
    exact (hv room hroom).1
  have hright : ∀ room, n < room → ∀ m ∈ ms', m.2.toValue room = .ok (g m.1) := by
    intro room hroom m hm
    obtain ⟨t, -, hv⟩ := exists_of_rel_right (h m.1) (Entries.get?_of_mem hnames' hm)
    exact (hv room hroom).2
  have hmem : ∀ name, name ∈ Entries.names ms ↔ name ∈ Entries.names ms' := by
    intro name
    have hrel := h name
    rw [← Entries.isSome_get?_iff, ← Entries.isSome_get?_iff]
    generalize Entries.get? name ms = o, Entries.get? name ms' = o' at hrel
    cases hrel <;> rfl
  -- ordered entries are determined by their names and values, so both lists are read as the same
  obtain ⟨entries, -, hordered, hentries⟩ :=
    toEntries_ofTrees (hleft (n + 1) (Nat.lt_succ_self n)) Entries.ordered_nil
  refine ⟨entries, fun room hroom => ⟨?_, ?_⟩⟩
  · obtain ⟨entries', hread, hordered', hentries'⟩ := toEntries_ofTrees (hleft room hroom) Entries.ordered_nil
    rw [hread, hordered.ext hordered' fun name => by rw [hentries, hentries']]
  · obtain ⟨entries', hread, hordered', hentries'⟩ := toEntries_ofTrees (hright room hroom) Entries.ordered_nil
    rw [hread, hordered.ext hordered' fun name => by simp only [hentries, hentries', hmem]]

/-- Scalars convert to the same value whatever room there is. -/
lemma toValue_scalar {t : Tree} (h : t.IsScalar) : ∃ v, ∀ room, t.toValue room = .ok v := by
  cases t <;> first | exact ⟨_, fun _ => rfl⟩ | cases h

/-- Trees that are alike are complete, and have the same value. -/
lemma Alike.exists_value {n : Nat} {t t' : Tree} (h : Alike n t t') :
    ∃ v, ∀ room, n < room → t.toValue room = .ok v ∧ t'.toValue room = .ok v := by
  -- the induction is on the depth, with the trees of one level less below
  induction n generalizing t t' with
  | zero =>
    obtain ⟨hscalar, rfl⟩ := h
    obtain ⟨v, hv⟩ := toValue_scalar hscalar
    exact ⟨v, fun room _ => ⟨hv room, hv room⟩⟩
  | succ n ih =>
    cases h with
    | scalar hscalar =>
      obtain ⟨v, hv⟩ := toValue_scalar hscalar
      exact ⟨v, fun room _ => ⟨hv room, hv room⟩⟩
    | @array ts ts' hts =>
      obtain ⟨vs, hvs⟩ : ∃ vs, ∀ room, n < room → (Items.ofTrees ts).toValues room = .ok vs ∧
          (Items.ofTrees ts').toValues room = .ok vs := by
        induction hts with
        | nil => exact ⟨[], fun _ _ => ⟨rfl, rfl⟩⟩
        | cons ht _ ihs =>
          obtain ⟨v, hv⟩ := ih ht
          obtain ⟨vs, hvs⟩ := ihs
          refine ⟨v :: vs, fun room hroom => ⟨?_, ?_⟩⟩
          · exact bind_eq_ok.mpr ⟨v, (hv room hroom).1, bind_eq_ok.mpr ⟨vs, (hvs room hroom).1, rfl⟩⟩
          · exact bind_eq_ok.mpr ⟨v, (hv room hroom).2, bind_eq_ok.mpr ⟨vs, (hvs room hroom).2, rfl⟩⟩
      refine ⟨.array vs, fun room hroom => ?_⟩
      obtain ⟨room, rfl⟩ : ∃ r, room = r + 1 := ⟨room - 1, by omega⟩
      have hroom' : n < room := by omega
      rw [Tree.toValue, Tree.toValue, enter_bind hroom', enter_bind hroom', (hvs room hroom').1,
        (hvs room hroom').2]
      exact ⟨rfl, rfl⟩
    -- the values of the members are chosen name by name
    | @object ms ms' hnames hnames' hlook =>
      have hvalue : ∀ name, ∃ v, Option.Rel
          (fun t t' => ∀ room, n < room → t.toValue room = .ok v ∧ t'.toValue room = .ok v)
          (Entries.get? name ms) (Entries.get? name ms') := by
        intro name
        have hrel := hlook name
        generalize Entries.get? name ms = o, Entries.get? name ms' = o' at hrel
        cases hrel with
        | none => exact ⟨.null, .none⟩
        | some h =>
          obtain ⟨v, hv⟩ := ih h
          exact ⟨v, .some hv⟩
      obtain ⟨g, hg⟩ := Classical.axiom_of_choice hvalue
      obtain ⟨entries, hentries⟩ := exists_entries hnames hnames' hg
      refine ⟨.object entries, fun room hroom => ?_⟩
      obtain ⟨room, rfl⟩ : ∃ r, room = r + 1 := ⟨room - 1, by omega⟩
      have hroom' : n < room := by omega
      rw [Tree.toValue, Tree.toValue, enter_bind hroom', enter_bind hroom', (hentries room hroom').1,
        (hentries room hroom').2]
      exact ⟨rfl, rfl⟩

/-- Alike trees are read through without an error as soon as there is room for their depth. -/
lemma Alike.readThrough {n room : Nat} {t t' : Tree} (h : Alike n t t') (hroom : n < room) :
    t.readThrough room = .ok () ∧ t'.readThrough room = .ok () := by
  obtain ⟨v, hv⟩ := h.exists_value
  exact ⟨readThrough_of_toValue (hv room hroom).1, readThrough_of_toValue (hv room hroom).2⟩

/-- The members of objects that are alike can be read for their errors. -/
lemma readThrough_members {n room : Nat} {ms ms' : List (String × Tree)}
    (hnames : (Entries.names ms).Nodup) (hnames' : (Entries.names ms').Nodup)
    (h : ∀ name, Option.Rel (Alike n) (Entries.get? name ms) (Entries.get? name ms')) (hroom : n < room) :
    (∀ m ∈ ms, m.2.readThrough room = .ok ()) ∧ ∀ m ∈ ms', m.2.readThrough room = .ok () := by
  constructor
  · intro m hm
    obtain ⟨t', -, halike⟩ := exists_of_rel_left (h m.1) (Entries.get?_of_mem hnames hm)
    exact (halike.readThrough hroom).1
  · intro m hm
    obtain ⟨t, -, halike⟩ := exists_of_rel_right (h m.1) (Entries.get?_of_mem hnames' hm)
    exact (halike.readThrough hroom).2

/-! ## Steady decoders -/

/-- A decoder gives the same result for trees that are alike. -/
structure Steady {α : Type} (d : Decoder α) : Prop where
  agree : ∀ {n room room' : Nat} {t t' : Tree}, Alike n t t' → n < room → n < room' →
    (d room t).toOption = (d room' t').toOption

namespace Steady

variable {α β : Type} {d : Decoder α}

/-- The cases of a steady decoder: scalars, arrays that were entered and objects that were entered. -/
lemma intro (hscalar : ∀ {room room' : Nat} {t : Tree}, t.IsScalar → 0 < room → 0 < room' →
      (d room t).toOption = (d room' t).toOption)
    (harray : ∀ {n room room' : Nat} {ts ts' : List Tree}, List.Forall₂ (Alike n) ts ts' → n < room →
      n < room' → (d (room + 1) (.array (Items.ofTrees ts))).toOption =
        (d (room' + 1) (.array (Items.ofTrees ts'))).toOption)
    (hobject : ∀ {n room room' : Nat} {ms ms' : List (String × Tree)}, (Entries.names ms).Nodup →
      (Entries.names ms').Nodup →
      (∀ name, Option.Rel (Alike n) (Entries.get? name ms) (Entries.get? name ms')) → n < room →
      n < room' → (d (room + 1) (.object (Members.ofTrees ms))).toOption =
        (d (room' + 1) (.object (Members.ofTrees ms'))).toOption) : Steady d := by
  -- the depth settles which kinds of trees there are
  refine ⟨fun {n room room' t t'} h hroom hroom' => ?_⟩
  cases n with
  | zero =>
    obtain ⟨hscalar', rfl⟩ := h
    exact hscalar hscalar' hroom hroom'
  | succ n =>
    obtain ⟨room, rfl⟩ : ∃ r, room = r + 1 := ⟨room - 1, by omega⟩
    obtain ⟨room', rfl⟩ : ∃ r, room' = r + 1 := ⟨room' - 1, by omega⟩
    cases h with
    | scalar h => exact hscalar h (by omega) (by omega)
    | array h => exact harray h (by omega) (by omega)
    | object hnames hnames' h => exact hobject hnames hnames' h (by omega) (by omega)

/-- A decoder of scalars. -/
lemma ofScalar (hscalar : ∀ (room room' : Nat) {t : Tree}, t.IsScalar → d room t = d room' t)
    (harray : ∀ room items, (d room (.array items)).toOption = none)
    (hobject : ∀ room members, (d room (.object members)).toOption = none) : Steady d :=
  intro (fun h _ _ => congrArg _ (hscalar _ _ h)) (fun _ _ _ => (harray _ _).trans (harray _ _).symm)
    fun _ _ _ _ _ => (hobject _ _).trans (hobject _ _).symm

lemma string : Steady Decoder.string := ofScalar (fun _ _ _ _ => rfl) (fun _ _ => rfl) fun _ _ => rfl

lemma bool : Steady Decoder.bool := ofScalar (fun _ _ _ _ => rfl) (fun _ _ => rfl) fun _ _ => rfl

lemma integer (least greatest : Int) : Steady (Decoder.integer least greatest) :=
  ofScalar (fun _ _ _ _ => rfl) (fun _ _ => rfl) fun _ _ => rfl

lemma natural (bits : Nat) : Steady (Decoder.natural bits) :=
  ofScalar (fun _ _ _ _ => rfl) (fun _ _ => rfl) fun _ _ => rfl

lemma single : Steady Decoder.single := ofScalar (fun _ _ _ _ => rfl) (fun _ _ => rfl) fun _ _ => rfl

lemma map (f : α → β) (h : Steady d) : Steady (Decoder.map f d) :=
  ⟨fun halike hroom hroom' => by
    rw [Decoder.map, Decoder.map, toOption_map, toOption_map, h.agree halike hroom hroom']⟩

/-- `null` apart, an optional decoder answers as the decoder it wraps. -/
lemma optional_of_ne (d : Decoder α) {room : Nat} {t : Tree} (ht : t ≠ .null) :
    (Decoder.optional d room t).toOption = (d room t).toOption.map some := by
  rw [← toOption_map, Decoder.optional.eq_def]
  split
  · exact absurd rfl ht
  · rfl

lemma optional_array (d : Decoder α) (room : Nat) (items : Items) :
    (Decoder.optional d room (.array items)).toOption = (d room (.array items)).toOption.map some :=
  optional_of_ne d nofun

lemma optional_object (d : Decoder α) (room : Nat) (members : Members) :
    (Decoder.optional d room (.object members)).toOption = (d room (.object members)).toOption.map some :=
  optional_of_ne d nofun

/-- Alike trees are both `null` or neither is. -/
lemma optional (h : Steady d) : Steady (Decoder.optional d) := by
  refine intro (fun {room room' t} ht hroom hroom' => ?_) (fun {n room room' ts ts'} hts hroom hroom' => ?_)
    fun {n room room' ms ms'} hnames hnames' hms hroom hroom' => ?_
  · by_cases hnull : t = .null
    · subst hnull
      rfl
    · rw [optional_of_ne d hnull, optional_of_ne d hnull,
        h.agree (alike_scalar ht) hroom hroom']
  · rw [optional_array, optional_array,
      h.agree (alike_array hts) (Nat.succ_lt_succ hroom) (Nat.succ_lt_succ hroom')]
  · rw [optional_object, optional_object,
      h.agree (alike_object hnames hnames' hms) (Nat.succ_lt_succ hroom) (Nat.succ_lt_succ hroom')]

theorem value : Steady Decoder.value :=
  ⟨fun h hroom hroom' => by
    obtain ⟨v, hv⟩ := h.exists_value
    rw [Decoder.value, (hv _ hroom).1, (hv _ hroom').2]⟩

lemma orDefault (default : α) (h : Steady d) : Steady (Decoder.orDefault default d) := h.optional.map _

/-- By induction on the items, with one decoder that is steady for each pair. -/
lemma items {n room room' : Nat} (h : Steady d) (hroom : n < room) (hroom' : n < room') {ts ts' : List Tree}
    (hts : List.Forall₂ (Alike n) ts ts') : (Decoder.items d room (Items.ofTrees ts)).toOption =
      (Decoder.items d room' (Items.ofTrees ts')).toOption := by
  induction hts with
  | nil => rfl
  | cons ht _ ih =>
    simp only [Items.ofTrees, Decoder.items]
    exact toOption_bind_congr (h.agree ht hroom hroom') fun a => toOption_bind_congr ih fun _ => rfl

theorem list (h : Steady d) : Steady (Decoder.list d) := by
  refine intro (fun {room room' t} ht hroom hroom' => ?_) (fun {n room room' ts ts'} hts hroom hroom' => ?_)
    fun {n room room' ms ms'} hnames hnames' hms hroom hroom' => rfl
  · cases t <;> first | rfl | cases ht
  · simp only [Decoder.list, enter_bind hroom, enter_bind hroom']
    exact h.items hroom hroom' hts

/-! ### Records -/

/-- The decoders of all fields are steady. -/
def OfFields : {αs : List Type} → Fields αs → Prop
  | _, .nil => True
  | _, .cons f rest => Steady f.read ∧ OfFields rest

/-- Steady fields find the same row among members that are alike under every name. -/
lemma find {n room room' : Nat} (hroom : n < room) (hroom' : n < room') {look look' : Lookup}
    (hlook : ∀ name, Option.Rel (Alike n) (look name) (look' name)) : {αs : List Type} →
    {fields : Fields αs} → OfFields fields → fields.find room look = fields.find room' look'
  | _, .nil, _ => rfl
  | _, .cons f rest, h => by
    obtain ⟨hf, hrest⟩ := h
    have hfirst : f.find room look = f.find room' look' := by
      have hrel := hlook f.name
      rw [Field.find, Field.find]
      generalize look f.name = o, look' f.name = o' at hrel
      cases hrel with
      | none => rfl
      | some ht => exact hf.agree ht hroom hroom'
    rw [Fields.find, Fields.find, hfirst, find hroom hroom' hlook hrest]

/-- Steady fields read the same row from arrays that are alike. -/
lemma readItems {n room room' : Nat} (hroom : n < room) (hroom' : n < room') : {αs : List Type} →
    {fields : Fields αs} → OfFields fields → {ts ts' : List Tree} → List.Forall₂ (Alike n) ts ts' →
    (fields.readItems room (Items.ofTrees ts)).toOption =
      (fields.readItems room' (Items.ofTrees ts')).toOption
  | _, .nil, _, _, _, hts => by cases hts <;> rfl
  | _, .cons f rest, h, _, _, hts => by
    obtain ⟨hf, hrest⟩ := h
    cases hts with
    | nil =>
      have hread := readItems hroom hroom' hrest (.nil : List.Forall₂ (Alike n) [] [])
      simp only [Items.ofTrees, Fields.readItems]
      cases f.cut with
      | none => rfl
      | some a => exact toOption_bind_congr hread fun _ => rfl
    | cons ht hts =>
      simp only [Items.ofTrees, Fields.readItems]
      exact toOption_bind_congr (hf.agree ht hroom hroom') fun a =>
        toOption_bind_congr (readItems hroom hroom' hrest hts) fun _ => rfl

/-- A record decoder is steady: by name from objects, by place from arrays. -/
theorem record {αs : List Type} (fields : Fields αs) (hnames : fields.names.Nodup) (h : OfFields fields)
    (build : Row αs → β) : Steady (Decoder.record fields build) := by
  refine intro (fun {room room' t} ht hroom hroom' => ?_) (fun {n room room' ts ts'} hts hroom hroom' => ?_)
    fun {n room room' ms ms'} hms hms' hlook hroom hroom' => ?_
  · cases t <;> first | rfl | cases ht
  · simp only [Decoder.record, enter_bind hroom, enter_bind hroom']
    exact toOption_bind_congr (readItems hroom hroom' h hts) fun _ => rfl
  · simp only [Decoder.record, enter_bind hroom, enter_bind hroom']
    obtain ⟨hthrough, -⟩ := readThrough_members hms hms' hlook hroom
    obtain ⟨-, hthrough'⟩ := readThrough_members hms hms' hlook hroom'
    refine toOption_bind_congr ?_ fun _ => rfl
    rw [Fields.decodeMembers_ofTrees hnames hms fun m hm => skip_of_readThrough (hthrough m hm),
      Fields.decodeMembers_ofTrees hnames hms' fun m hm => skip_of_readThrough (hthrough' m hm),
      find hroom hroom' hlook h]

end Steady

/-! ## Trees without repeated names -/

/-- The names of members. -/
def Members.names : Members → List (Option String)
  | .member name _ rest => name :: rest.names
  | _ => []

lemma Members.names_ofTrees (ms : List (String × Tree)) :
    (Members.ofTrees ms).names = (Entries.names ms).map some := by
  induction ms with
  | nil => rfl
  | cons m ms ih =>
    rw [Members.ofTrees, Members.names, ih]
    rfl

mutual

/-- No object in the tree has a name twice. -/
def Tree.DistinctNames : Tree → Prop
  | .array items => items.DistinctNames
  | .object members => members.names.Nodup ∧ members.DistinctNames
  | _ => True

/-- No object in the items has a name twice. -/
def Items.DistinctNames : Items → Prop
  | .item t rest => t.DistinctNames ∧ rest.DistinctNames
  | _ => True

/-- No object in the values of the members has a name twice. -/
def Members.DistinctNames : Members → Prop
  | .member _ t rest => t.DistinctNames ∧ rest.DistinctNames
  | _ => True

end

mutual

/-- How many arrays and objects are nested in each other. -/
def Tree.depth : Tree → Nat
  | .array items => items.depth + 1
  | .object members => members.depth + 1
  | _ => 0

/-- The greatest depth of the items. -/
def Items.depth : Items → Nat
  | .item t rest => max t.depth rest.depth
  | _ => 0

/-- The greatest depth of the values of the members. -/
def Members.depth : Members → Nat
  | .member _ t rest => max t.depth rest.depth
  | _ => 0

end

mutual

/-- What was read without repeated names is alike to the tree of its value. -/
theorem alike_ofValue {n room : Nat} : ∀ {t : Tree} {v : Value}, t.toValue room = .ok v → t.DistinctNames →
    t.depth ≤ n → Alike n t (Tree.ofValue v)
  | .null, _, h, _, _ | .bool _, _, h, _, _ | .number _, _, h, _, _ | .string _, _, h, _, _ => by
    cases h
    exact alike_scalar trivial
  | .unreadable, _, h, _, _ | .broken _ _, _, h, _, _ => by cases h
  | .array items, _, h, hnames, hdepth => by
    obtain ⟨inner, -, h⟩ := bind_eq_ok.mp h
    obtain ⟨vs, hitems, h⟩ := bind_eq_ok.mp h
    cases h
    obtain ⟨n, rfl⟩ : ∃ m, n = m + 1 := ⟨n - 1, by rw [Tree.depth] at hdepth; omega⟩
    obtain ⟨ts, rfl, hts⟩ := alike_ofValues hitems hnames (Nat.succ_le_succ_iff.mp hdepth)
    rw [Tree.ofValue, Items.ofValues_eq]
    exact alike_array hts
  | .object members, _, h, hnames, hdepth => by
    obtain ⟨inner, -, h⟩ := bind_eq_ok.mp h
    obtain ⟨entries, hentries, h⟩ := bind_eq_ok.mp h
    cases h
    obtain ⟨n, rfl⟩ : ∃ m, n = m + 1 := ⟨n - 1, by rw [Tree.depth] at hdepth; omega⟩
    obtain ⟨ms, rfl, hms, hlook⟩ :=
      alike_ofEntries hentries hnames.1 hnames.2 (Nat.succ_le_succ_iff.mp hdepth)
    -- entries are in the order of their names, members in the order of the text
    obtain ⟨hordered, -⟩ := canonical_of_toEntries hentries Entries.ordered_nil nofun
    rw [Tree.ofValue, Members.ofEntries_eq]
    refine alike_object hms ?_ fun name => ?_
    · rw [Entries.names_mapValues]
      exact hordered.nodup
    · rw [Entries.get?_mapValues]
      by_cases hname : name ∈ Entries.names ms
      · exact (hlook name).1 hname
      · rw [(hlook name).2 hname, Entries.get?_of_not_mem hname]
        exact .none

/-- The items converted to values are alike to those values written down as trees. -/
lemma alike_ofValues {n room : Nat} : ∀ {items : Items} {vs : List Value}, items.toValues room = .ok vs →
    items.DistinctNames → items.depth ≤ n →
    ∃ ts, items = Items.ofTrees ts ∧ List.Forall₂ (Alike n) ts (vs.map Tree.ofValue)
  | .closed, _, h, _, _ => by
    cases h
    exact ⟨[], rfl, .nil⟩
  | .broken _, _, h, _, _ => by cases h
  | .item t rest, _, h, hnames, hdepth => by
    obtain ⟨v, hv, h⟩ := bind_eq_ok.mp h
    obtain ⟨vs, hvs, h⟩ := bind_eq_ok.mp h
    cases h
    obtain ⟨ht, hrest⟩ := max_le_iff.mp hdepth
    obtain ⟨ts, rfl, hts⟩ := alike_ofValues hvs hnames.2 hrest
    exact ⟨t :: ts, rfl, .cons (alike_ofValue hv hnames.1 ht) hts⟩

/-- What is found among the members is alike to what is found among the entries that they are read as. -/
lemma alike_ofEntries {n room : Nat} : ∀ {members : Members} {done entries : Entries Value},
    members.toEntries room done = .ok entries → members.names.Nodup → members.DistinctNames →
    members.depth ≤ n →
    ∃ ms, members = Members.ofTrees ms ∧ (Entries.names ms).Nodup ∧
      ∀ name, (name ∈ Entries.names ms → Option.Rel (Alike n) (Entries.get? name ms)
          ((Entries.get? name entries).map Tree.ofValue)) ∧
        (name ∉ Entries.names ms → Entries.get? name entries = Entries.get? name done)
  | .closed, _, _, h, _, _, _ => by
    cases h
    exact ⟨[], rfl, List.nodup_nil, fun _ => ⟨nofun, fun _ => rfl⟩⟩
  | .broken _ _, _, _, h, _, _, _ | .member none _ _, _, _, h, _, _, _ => by cases h
  | .member (some first) t rest, done, entries, h, hnames, hdistinct, hdepth => by
    obtain ⟨v, hv, h⟩ := bind_eq_ok.mp h
    -- a name that is new takes the value read here; a later member cannot take it over
    obtain ⟨hfirst, hnames⟩ := List.nodup_cons.mp hnames
    obtain ⟨ht, hrest⟩ := max_le_iff.mp hdepth
    obtain ⟨ms, rfl, hms, hlook⟩ := alike_ofEntries h hnames hdistinct.2 hrest
    have hfirst' : first ∉ Entries.names ms := fun hmem => hfirst (by
      rw [Members.names_ofTrees]
      exact List.mem_map_of_mem hmem)
    refine ⟨(first, t) :: ms, rfl, List.nodup_cons.mpr ⟨hfirst', hms⟩, fun name => ?_⟩
    have hmem : name ∈ Entries.names ((first, t) :: ms) ↔ name = first ∨ name ∈ Entries.names ms :=
      List.mem_cons
    rw [hmem]
    by_cases heq : first = name
    · subst heq
      refine ⟨fun _ => ?_, fun h => absurd (.inl rfl) h⟩
      rw [(hlook first).2 hfirst', Entries.get?_insert, if_pos rfl, Entries.get?, if_pos rfl]
      exact .some (alike_ofValue hv hdistinct.1 ht)
    · rw [Entries.get?, if_neg heq]
      refine ⟨fun h => (hlook name).1 (h.resolve_left (Ne.symm heq)), fun h => ?_⟩
      rw [(hlook name).2 fun h' => h (.inr h'), Entries.get?_insert, if_neg heq]

end

end Json
end FeatureFlags
