import FeatureFlags.Proofs.Json.Integers
import FeatureFlags.Proofs.Json.Records
import FeatureFlags.Rollout
import Mathlib.Algebra.Order.Ring.Int

/-!
# Codecs

A codec is a decoder together with a way to write what it decodes, such that what was decoded is restored:
written and decoded again, it is the same. `Codec.list` and `Codec.record` make codecs of arrays and of
records. A field of a record may be left out where it is written, if its absence stands for its value;
`FieldCodec` says what is needed for that.

Some values have no text that is read as the same value, in particular some numbers. A codec says by `Legible`
which values are restored. Its `depth` is the room that its own arrays and objects need where they are not
read but written for a default.
-/

namespace FeatureFlags.Json

/-- A document is read as a tree that is decoded to a value like the given one. -/
structure Restored {α : Type} (decoder : Decoder α) (same : α → α → Bool) (room : Nat) (d : Document)
    (a : α) (t : Tree) (a' : α) : Prop where
  reads : Reads d.chars t
  readThrough : t.readThrough room = .ok ()
  decodes : decoder room t = .ok a'
  alike : same a a' = true

/-- A decoder with a way to write what it decodes, so that it is restored. -/
structure Codec (α : Type) where
  decoder : Decoder α
  document : α → Document
  same : α → α → Bool
  Legible : α → Prop
  depth : Nat
  restores : ∀ {room : Nat} {t : Tree} {a : α}, depth < room → decoder room t = .ok a → Legible a →
    ∃ t' a', Restored decoder same room (document a) a t' a'

/-- A field with a way to write it or to leave it out. -/
structure FieldCodec (α : Type) where
  field : Field α
  write : α → Option Document
  same : α → α → Bool
  Legible : α → Prop
  depth : Nat
  restores : ∀ {room : Nat} {a : α} {d : Document}, depth < room → field.Yields room a → Legible a →
    write a = some d → ∃ t' a', Restored field.read same room d a t' a'
  restoresAbsent : ∀ {a : α}, Legible a → write a = none → ∃ a', field.absent = some a' ∧ same a a' = true

/-! ## Scalars and lists -/

namespace Codec

variable {α β : Type}

/-- A codec of values that are written as the tree they are read off. -/
def scalar [DecidableEq α] (decoder : Decoder α) (document : α → Document) (tree : α → Tree)
    (hreads : ∀ {room t a}, decoder room t = .ok a → Reads (document a).chars (tree a))
    (hthrough : ∀ room a, (tree a).readThrough room = .ok ())
    (hdecodes : ∀ {room t a}, decoder room t = .ok a → decoder room (tree a) = .ok a) : Codec α where
  decoder := decoder
  document := document
  same a b := a == b
  Legible _ := True
  depth := 0
  restores {room _ a} _ h _ := ⟨tree a, a, hreads h, hthrough room a, hdecodes h, beq_self_eq_true a⟩

/-- Strings. -/
def string : Codec String :=
  scalar Decoder.string .string .string (fun _ => reads_string _) (fun _ _ => rfl) fun _ => rfl

/-- Truth values. -/
def bool : Codec Bool :=
  scalar Decoder.bool .bool .bool (fun _ => reads_bool _) (fun _ _ => rfl) fun _ => rfl

/-- Strings that are wrapped. -/
def ofString [DecidableEq α] (read : String → α) (text : α → String) (h : ∀ s, read (text (read s)) = read s) :
    Codec α :=
  scalar (Decoder.map read Decoder.string) (fun a => .string (text a)) (fun a => .string (text a))
    (fun _ => reads_string _) (fun _ _ => rfl) fun {room t a} ha => by
      obtain ⟨s, -, rfl⟩ := map_eq_ok.mp ha
      exact congrArg Except.ok (h s)

lemma decoder_integer_eq_ok {least greatest : Int} {room : Nat} {t : Tree} {i : Int} :
    Decoder.integer least greatest room t = .ok i ↔
      t = .number (.integer i) ∧ least ≤ i ∧ i ≤ greatest := by
  constructor
  · intro h
    obtain ⟨n, hn, hi⟩ := bind_eq_ok.mp h
    -- only a number is accepted, and only if it is written as an integer
    cases t with
    | number m =>
      cases hn
      cases n with
      | integer j =>
        dsimp only at hi
        split_ifs at hi with hbounds
        · cases hi
          exact ⟨rfl, hbounds⟩
      | double d => cases hi
    | _ => cases hn
  · rintro ⟨rfl, hbounds⟩
    exact bind_eq_ok.mpr ⟨.integer i, rfl, if_pos hbounds⟩

/-- Integers between two bounds that fit 64 bits. -/
def integer (least greatest : Int) (hleast : -9223372036854775808 ≤ least)
    (hgreatest : greatest ≤ 18446744073709551615) : Codec Int :=
  scalar (Decoder.integer least greatest) .integer (fun i => .number (.integer i))
    (fun h => by
      obtain ⟨-, hl, hg⟩ := decoder_integer_eq_ok.mp h
      exact reads_integer (hleast.trans hl) (hg.trans hgreatest))
    (fun _ _ => rfl)
    fun h => decoder_integer_eq_ok.mpr ⟨rfl, (decoder_integer_eq_ok.mp h).2⟩

lemma decoder_natural_eq_ok {bits room : Nat} {t : Tree} {n : Nat} :
    Decoder.natural bits room t = .ok n ↔ t = .number (.integer n) ∧ (n : Int) ≤ 2 ^ bits - 1 := by
  constructor
  · intro h
    obtain ⟨i, hi, h⟩ := bind_eq_ok.mp h
    cases h
    obtain ⟨rfl, hl, hg⟩ := decoder_integer_eq_ok.mp hi
    rw [Int.toNat_of_nonneg hl]
    exact ⟨rfl, hg⟩
  · rintro ⟨rfl, hn⟩
    exact bind_eq_ok.mpr ⟨n, decoder_integer_eq_ok.mpr ⟨rfl, Int.natCast_nonneg n, hn⟩, rfl⟩

/-- Natural numbers. -/
def natural (bits : Nat) (hbits : bits ≤ 64) : Codec Nat :=
  scalar (Decoder.natural bits) .natural (fun n => .number (.integer n))
    (fun h => by
      obtain ⟨-, hn⟩ := decoder_natural_eq_ok.mp h
      have hpow : (2 : Int) ^ bits ≤ 2 ^ 64 := pow_le_pow_right₀ (by decide) hbits
      exact reads_integer (by omega) (by omega))
    (fun _ _ => rfl)
    fun h => decoder_natural_eq_ok.mpr ⟨rfl, (decoder_natural_eq_ok.mp h).2⟩

/-- Natural numbers of 64 bits. -/
def natural64 : Codec Nat := natural 64 le_rfl

/-- The default of a text is a text itself. -/
lemma exists_decoder_string_eq_empty (room : Nat) (_ : string.depth < room) :
    ∃ t, string.decoder room t = .ok "" := ⟨.string "", rfl⟩

lemma decoder_string_null_ne (room : Nat) (s : String) : string.decoder room .null ≠ .ok s := nofun

lemma decoder_natural64_null_ne (room n : Nat) : natural64.decoder room .null ≠ .ok n := nofun

section Projections

@[simp] lemma same_string : string.same = (· == ·) := rfl

@[simp] lemma same_ofString [DecidableEq α] (read : String → α) (text : α → String)
    (h : ∀ s, read (text (read s)) = read s) : (ofString read text h).same = (· == ·) := rfl

@[simp] lemma same_integer (least greatest : Int) (hleast : -9223372036854775808 ≤ least)
    (hgreatest : greatest ≤ 18446744073709551615) :
    (integer least greatest hleast hgreatest).same = (· == ·) := rfl

@[simp] lemma same_natural (bits : Nat) (h : bits ≤ 64) : (natural bits h).same = (· == ·) := rfl

@[simp] lemma same_natural64 : natural64.same = (· == ·) := rfl

end Projections

/-- Items that were decoded are restored one by one. -/
lemma restores_items (c : Codec α) {room : Nat} (hroom : c.depth < room) : {items : Items} →
    {as : List α} → Decoder.items c.decoder room items = .ok as → (∀ a ∈ as, c.Legible a) →
    ∃ ts as', ReadAs (as.map c.document) ts ∧ (Items.ofTrees ts).readThrough room = .ok () ∧
      Decoder.items c.decoder room (Items.ofTrees ts) = .ok as' ∧ sameList c.same as as' = true
  | .closed, _, h, _ => by
    cases h
    exact ⟨[], [], .nil, rfl, rfl, rfl⟩
  | .broken _, _, h, _ => by cases h
  -- the items are restored one by one, the rest by recursion
  | .item t items, as, h, hlegible => by
    rw [Decoder.items] at h
    obtain ⟨a, ha, h⟩ := bind_eq_ok.mp h
    obtain ⟨as, has, h⟩ := bind_eq_ok.mp h
    cases h
    obtain ⟨t', a', hrestored⟩ := c.restores hroom ha (hlegible a List.mem_cons_self)
    obtain ⟨ts, as', hreads, hthrough, hdecodes, hsame⟩ :=
      restores_items c hroom has fun b hb => hlegible b (List.mem_cons_of_mem _ hb)
    refine ⟨t' :: ts, a' :: as', .cons hrestored.reads hreads, ?_, ?_, ?_⟩
    · exact bind_eq_ok.mpr ⟨(), hrestored.readThrough, hthrough⟩
    · exact bind_eq_ok.mpr ⟨a', hrestored.decodes, bind_eq_ok.mpr ⟨as', hdecodes, rfl⟩⟩
    · rw [sameList, hrestored.alike, hsame]
      rfl

/-- Arrays of values that are restored. -/
def list (c : Codec α) : Codec (List α) where
  decoder := Decoder.list c.decoder
  document as := .array (as.map c.document)
  same := sameList c.same
  Legible as := ∀ a ∈ as, c.Legible a
  depth := c.depth + 1
  restores {room t as} hroom h hlegible := by
    cases t with
    | array items =>
      obtain ⟨inner, hinner, h⟩ := bind_eq_ok.mp h
      obtain ⟨-, rfl⟩ := enter_eq_ok.mp hinner
      obtain ⟨ts, as', hreads, hthrough, hdecodes, hsame⟩ :=
        restores_items c (by omega : c.depth < room - 1) h hlegible
      exact ⟨.array (Items.ofTrees ts), as', reads_array hreads,
        bind_eq_ok.mpr ⟨_, hinner, hthrough⟩, bind_eq_ok.mpr ⟨_, hinner, hdecodes⟩, hsame⟩
    | _ => cases h

end Codec

/-! ## Fields -/

section Optional

variable {α : Type} {decoder : Decoder α} {room : Nat} {t : Tree}

/-- An optional decoder answers `none` or what the wrapped decoder answers. -/
lemma optional_eq_ok {o : Option α} (h : Decoder.optional decoder room t = .ok o) :
    o = none ∨ ∃ a, o = some a ∧ decoder room t = .ok a := by
  rw [Decoder.optional.eq_def] at h
  split at h
  · cases h
    exact .inl rfl
  · obtain ⟨a, ha, rfl⟩ := map_eq_ok.mp h
    exact .inr ⟨a, rfl, ha⟩

/-- A decoder that refuses `null` keeps its answers when wrapped. -/
lemma optional_of_ok {a : α} (hnull : decoder room .null ≠ .ok a) (h : decoder room t = .ok a) :
    Decoder.optional decoder room t = .ok (some a) := by
  rw [Decoder.optional.eq_def]
  split
  · exact absurd h hnull
  · rw [h]
    rfl

end Optional

namespace FieldCodec

variable {α : Type}

/-- A field that is always there. -/
def required (name : String) (c : Codec α) : FieldCodec α where
  field := .required name c.decoder
  write a := some (c.document a)
  same := c.same
  Legible := c.Legible
  depth := c.depth
  restores hroom h hlegible hwrite := by
    cases hwrite
    obtain ⟨t, ha⟩ | habsent | hcut := h
    · exact c.restores hroom ha hlegible
    · cases habsent
    · cases hcut
  restoresAbsent _ h := nomatch h

/-- A field with a default that is always written. -/
def withDefault (name : String) (default : α) (c : Codec α)
    (hdefault : ∀ room, c.depth < room → ∃ t, c.decoder room t = .ok default) : FieldCodec α where
  field := .withDefault name default c.decoder
  write a := some (c.document a)
  same := c.same
  Legible := c.Legible
  depth := c.depth
  restores {room a d} hroom h hlegible hwrite := by
    cases hwrite
    obtain ⟨t, ha⟩ | habsent | hcut := h
    · exact c.restores hroom ha hlegible
    · cases habsent
      obtain ⟨t, ht⟩ := hdefault room hroom
      exact c.restores hroom ht hlegible
    · cases hcut
      obtain ⟨t, ht⟩ := hdefault room hroom
      exact c.restores hroom ht hlegible
  restoresAbsent _ h := nomatch h

/-- A field that is left out if it has its default. -/
def unlessDefault (name : String) (default : α) (c : Codec α) (skip : α → Bool)
    (hskip : ∀ a, skip a = true ↔ a = default) (hsame : c.same default default = true) :
    FieldCodec α where
  field := .withDefault name default c.decoder
  write a := if skip a then none else some (c.document a)
  same := c.same
  Legible := c.Legible
  depth := c.depth
  restores {room a d} hroom h hlegible hwrite := by
    split_ifs at hwrite with ha
    cases hwrite
    obtain ⟨t, ha'⟩ | habsent | hcut := h
    · exact c.restores hroom ha' hlegible
    · cases habsent
      exact absurd ((hskip default).mpr rfl) ha
    · cases hcut
      exact absurd ((hskip default).mpr rfl) ha
  restoresAbsent {a} _ hwrite := by
    split_ifs at hwrite with ha
    rw [(hskip a).mp ha]
    exact ⟨default, rfl, hsame⟩

/-- A truth value that is always written. -/
def flag (name : String) : FieldCodec Bool :=
  withDefault name false .bool fun _ _ => ⟨.bool false, rfl⟩

lemma not_iff_eq_false (b : Bool) : not b = true ↔ b = false := by
  cases b <;> decide

/-- A truth value that is left out if it is false. -/
def flagIfTrue (name : String) : FieldCodec Bool :=
  unlessDefault name false .bool not not_iff_eq_false (by decide)

/-- A list that is always written. -/
def list (name : String) (c : Codec α) : FieldCodec (List α) where
  field := .list name c.decoder
  write as := some (c.list.document as)
  same := c.list.same
  Legible := c.list.Legible
  depth := c.list.depth
  restores {room as d} hroom h hlegible hwrite := by
    cases hwrite
    have hread : ∃ t, c.list.decoder room t = .ok as := by
      have hempty : ∃ t, c.list.decoder room t = .ok [] :=
        ⟨.array .closed, bind_eq_ok.mpr
          ⟨_, enter_eq_ok.mpr ⟨Nat.lt_of_le_of_lt (Nat.le_add_left 1 _) hroom, rfl⟩, rfl⟩⟩
      obtain ⟨t, ht⟩ | habsent | hcut := h
      · obtain ⟨o, ho, rfl⟩ := map_eq_ok.mp ht
        rcases optional_eq_ok ho with rfl | ⟨as, rfl, has⟩
        · exact hempty
        · exact ⟨t, has⟩
      · cases habsent
        exact hempty
      · cases hcut
        exact hempty
    obtain ⟨t, ht⟩ := hread
    obtain ⟨t', as', hrestored⟩ := c.list.restores hroom ht hlegible
    exact ⟨t', as', { hrestored with
      decodes := map_eq_ok.mpr ⟨some as', optional_of_ok nofun hrestored.decodes, rfl⟩ }⟩
  restoresAbsent _ h := nomatch h

/-- A value that is left out if there is none, whatever an array says that ends before it. Null is no
value. -/
def orNone (name : String) (c : Codec α) (cut : Option (Option α)) (hcut : ∀ o, cut = some o → o = none)
    (hnull : ∀ room a, c.decoder room .null ≠ .ok a) : FieldCodec (Option α) where
  field := ⟨name, Decoder.optional c.decoder, some none, cut⟩
  write := Option.map c.document
  same := sameOption c.same
  Legible o := ∀ a, o = some a → c.Legible a
  depth := c.depth
  restores {room o d} hroom h hlegible hwrite := by
    obtain ⟨a, rfl, rfl⟩ := Option.map_eq_some_iff.mp hwrite
    have hread : ∃ t, c.decoder room t = .ok a := by
      obtain ⟨t, ht⟩ | habsent | hcut' := h
      · rcases optional_eq_ok ht with h | ⟨b, h, hb⟩
        · cases h
        · cases h
          exact ⟨t, hb⟩
      · cases habsent
      · cases hcut _ hcut'
    obtain ⟨t, ht⟩ := hread
    obtain ⟨t', a', hrestored⟩ := c.restores hroom ht (hlegible a rfl)
    exact ⟨t', some a', { hrestored with
      decodes := optional_of_ok (hnull room a') hrestored.decodes }⟩
  restoresAbsent {o} _ hwrite := by
    cases o with
    | none => exact ⟨none, rfl, rfl⟩
    | some a => cases hwrite

/-- A value that is left out if there is none. -/
def optional (name : String) (c : Codec α) (hnull : ∀ room a, c.decoder room .null ≠ .ok a) :
    FieldCodec (Option α) :=
  orNone name c (some none) (fun _ h => (Option.some.inj h).symm) hnull

/-- A value that is left out of an object if there is none. -/
def optionalMember (name : String) (c : Codec α) (hnull : ∀ room a, c.decoder room .null ≠ .ok a) :
    FieldCodec (Option α) :=
  orNone name c none nofun hnull

section Projections

variable (name : String) (c : Codec α) (default : α)

@[simp] lemma same_required : (required name c).same = c.same := rfl

@[simp] lemma same_withDefault (h : ∀ room, c.depth < room → ∃ t, c.decoder room t = .ok default) :
    (withDefault name default c h).same = c.same := rfl

@[simp] lemma same_unlessDefault (skip : α → Bool) (h : ∀ a, skip a = true ↔ a = default)
    (h' : c.same default default = true) : (unlessDefault name default c skip h h').same = c.same := rfl

@[simp] lemma same_flag : (flag name).same = (· == ·) := rfl

@[simp] lemma same_flagIfTrue : (flagIfTrue name).same = (· == ·) := rfl

@[simp] lemma same_list : (list name c).same = sameList c.same := rfl

@[simp] lemma same_optional (h : ∀ room a, c.decoder room .null ≠ .ok a) :
    (optional name c h).same = sameOption c.same := rfl

@[simp] lemma same_optionalMember (h : ∀ room a, c.decoder room .null ≠ .ok a) :
    (optionalMember name c h).same = sameOption c.same := rfl

end Projections

end FieldCodec

/-! ## Records -/

/-- The members are read under the names they were written with. -/
lemma names_eq_of_readAs {texts : List (String × List Char)} {ts : List (String × Tree)}
    (h : MembersReadAs texts ts) : Entries.names ts = texts.map Prod.fst := by
  induction h with
  | nil => rfl
  | cons hm _ ih =>
    rw [Entries.names, List.map_cons, List.map_cons, hm.1, ← ih]
    rfl

lemma Members.readThrough_ofTrees {room : Nat} {ts : List (String × Tree)}
    (h : ∀ m ∈ ts, m.2.readThrough room = .ok ()) : (Members.ofTrees ts).readThrough room = .ok () := by
  induction ts with
  | nil => rfl
  | cons m ts ih =>
    exact bind_eq_ok.mpr ⟨(), h m List.mem_cons_self, ih fun n hn => h n (List.mem_cons_of_mem _ hn)⟩

/-- The codecs of the fields of a record, in the order in which they are written. -/
inductive Codecs : List Type → Type 1 where
  | nil : Codecs []
  | cons {α : Type} {αs : List Type} (codec : FieldCodec α) (rest : Codecs αs) : Codecs (α :: αs)

namespace Codecs

/-- The fields of the codecs. -/
def fields : {αs : List Type} → Codecs αs → Fields αs
  | _, nil => .nil
  | _, cons c rest => .cons c.field rest.fields

/-- The members that are written for the values of the fields. -/
def members : {αs : List Type} → Codecs αs → Row αs → List (String × Document)
  | _, nil, _ => []
  | _, cons c rest, (a, row) =>
    ((c.write a).map (c.field.name, ·)).toList ++ rest.members row

/-- Whether the values of two rows are the same. -/
def same : {αs : List Type} → Codecs αs → Row αs → Row αs → Bool
  | _, nil, _, _ => true
  | _, cons c rest, (a, row), (b, row') => c.same a b && rest.same row row'

/-- All values of a row are legible. -/
def Legible : {αs : List Type} → Codecs αs → Row αs → Prop
  | _, nil, _ => True
  | _, cons c rest, (a, row) => c.Legible a ∧ rest.Legible row

/-- The greatest depth of the codecs. -/
def depth : {αs : List Type} → Codecs αs → Nat
  | _, nil => 0
  | _, cons c rest => max c.depth rest.depth

/-- The names of the members that are written are names of fields, each at most once. -/
lemma names_members_sublist : {αs : List Type} → (cs : Codecs αs) → (row : Row αs) →
    ((cs.members row).map Prod.fst).Sublist cs.fields.names
  | _, nil, _ => .slnil
  | _, cons c rest, (a, row) => by
    have hrest := names_members_sublist rest row
    rw [members, fields, Fields.names]
    cases c.write a with
    | none => exact hrest.cons _
    | some d => exact hrest.cons_cons _

/-- The texts of the members that are written. -/
def texts {αs : List Type} (cs : Codecs αs) (row : Row αs) : List (String × List Char) :=
  (cs.members row).map fun m => (m.1, m.2.chars)

/-- The members written are some of the fields, in the order of the fields. -/
lemma names_texts_sublist {αs : List Type} (cs : Codecs αs) (row : Row αs) :
    ((cs.texts row).map Prod.fst).Sublist cs.fields.names := by
  rw [texts, List.map_map]
  exact cs.names_members_sublist row

/-- The values of a record are restored one by one. -/
lemma restores {room : Nat} : {αs : List Type} → (cs : Codecs αs) → cs.fields.names.Nodup →
    cs.depth < room → {row : Row αs} → cs.fields.Yields room row → cs.Legible row →
    ∃ ts row', MembersReadAs (cs.texts row) ts ∧
      (∀ m ∈ ts, m.2.readThrough room = .ok ()) ∧
      cs.fields.find room (Entries.get? · ts) = some row' ∧ cs.same row row' = true
  | _, nil, _, _, _, _, _ => ⟨[], (), .nil, nofun, rfl, rfl⟩
  | _, cons c rest, hnames, hroom, (a, row), hyields, hlegible => by
    obtain ⟨hname, hnames⟩ := List.nodup_cons.mp hnames
    obtain ⟨ts, row', hreads, hthrough, hfind, hsame⟩ :=
      restores rest hnames (lt_of_le_of_lt (le_max_right _ _) hroom) hyields.2 hlegible.2
    -- the name of the first field is not written by the others
    have hts : c.field.name ∉ Entries.names ts := by
      rw [names_eq_of_readAs hreads]
      intro hmem
      exact hname ((names_texts_sublist rest row).subset hmem)
    have htexts : (cons c rest).texts (a, row) =
        ((c.write a).map fun d => (c.field.name, d.chars)).toList ++ rest.texts row := by
      simp only [texts, members]
      cases c.write a <;> rfl
    -- a member that is left out is restored from its absence
    cases hwrite : c.write a with
    | none =>
      obtain ⟨a', habsent, hsame'⟩ := c.restoresAbsent hlegible.1 hwrite
      refine ⟨ts, (a', row'), ?_, hthrough, ?_, ?_⟩
      · rw [htexts, hwrite]
        exact hreads
      · simp only [fields, Fields.find, Field.find, Entries.get?_of_not_mem hts, habsent, hfind]
        rfl
      · rw [same, hsame', hsame]
        rfl
    | some d =>
      obtain ⟨t, a', hrestored⟩ :=
        c.restores (lt_of_le_of_lt (le_max_left _ _) hroom) hyields.1 hlegible.1 hwrite
      refine ⟨(c.field.name, t) :: ts, (a', row'), ?_, ?_, ?_, ?_⟩
      · rw [htexts, hwrite]
        exact .cons ⟨rfl, hrestored.reads⟩ hreads
      · intro m hm
        rcases List.mem_cons.mp hm with rfl | hm
        · exact hrestored.readThrough
        · exact hthrough m hm
      -- the other fields do not look at the first member
      · have hrest : rest.fields.find room (Entries.get? · ((c.field.name, t) :: ts)) = some row' := by
          rw [← hfind]
          refine Fields.find_congr rest.fields fun n hn => if_neg ?_
          rintro rfl
          exact hname hn
        have hfirst : Entries.get? c.field.name ((c.field.name, t) :: ts) = some t := if_pos rfl
        simp only [fields, Fields.find, Field.find, hfirst, hrestored.decodes, hrest]
        rfl
      · rw [same, hrestored.alike, hsame]
        rfl

end Codecs

/-- Records whose fields are restored. A value may be split into a row that differs from the one that it was
built from, as long as the fields yield it too. -/
def Codec.splitRecord {αs : List Type} {β : Type} (cs : Codecs αs) (build : Row αs → β) (split : β → Row αs)
    (document : β → Document) (same : β → β → Bool) (hnames : cs.fields.names.Nodup)
    (hdocument : ∀ b, document b = .object (cs.members (split b)))
    (hsplit : ∀ {room row}, cs.fields.Yields room row → cs.fields.Yields room (split (build row)))
    (hsame : ∀ {row row'}, cs.same (split (build row)) row' = true →
      same (build row) (build row') = true) : Codec β where
  decoder := Decoder.record cs.fields build
  document := document
  same := same
  Legible b := cs.Legible (split b)
  depth := cs.depth + 1
  restores {room t b} hroom h hlegible := by
    obtain ⟨row, hlarge, hyields, rfl⟩ := yields_of_record h
    obtain ⟨ts, row', hreads, hthrough, hfind, hrow⟩ :=
      cs.restores hnames (by omega : cs.depth < room - 1) (hsplit hyields) hlegible
    have henter : enter room = .ok (room - 1) := enter_eq_ok.mpr ⟨hlarge, rfl⟩
    refine ⟨.object (Members.ofTrees ts), build row', ?_, ?_, ?_, hsame hrow⟩
    · rw [hdocument, chars_object]
      exact reads_object hreads
    · exact bind_eq_ok.mpr ⟨_, henter, Members.readThrough_ofTrees hthrough⟩
    · have hdecode : cs.fields.decodeMembers (room - 1) (Members.ofTrees ts) = .ok row' := by
        rw [← toOption_eq_some, Fields.decodeMembers_ofTrees hnames ?_ (skip_of_readAs hreads), hfind]
        rw [names_eq_of_readAs hreads]
        exact (cs.names_texts_sublist _).nodup hnames
      exact bind_eq_ok.mpr ⟨_, henter, bind_eq_ok.mpr ⟨row', hdecode, rfl⟩⟩

/-- Records that are made of the values of their fields. -/
def Codec.record {αs : List Type} {β : Type} (cs : Codecs αs) (build : Row αs → β) (split : β → Row αs)
    (document : β → Document) (same : β → β → Bool) (hnames : cs.fields.names.Nodup)
    (hdocument : ∀ b, document b = .object (cs.members (split b)))
    (hsplit : ∀ row, split (build row) = row)
    (hsame : ∀ {row row'}, cs.same row row' = true → same (build row) (build row') = true) : Codec β :=
  .splitRecord cs build split document same hnames hdocument (fun h => by rwa [hsplit])
    fun h => hsame (by rwa [hsplit] at h)

/-! ## Texts -/

/-- The text of a value is read as its tree, with the numbers that are read for its own. -/
lemma reads_mapNumbers {v : Value} {f : Number → Number}
    (h : ∀ n ∈ v.numbers, Reads (Document.ofValue (.number n)).chars (.number (f n))) :
    Reads (Document.ofValue v).chars (Tree.ofValue (v.mapNumbers f)) := by
  rw [Document.ofValue_eq]
  exact reads_ofValueWith v h

/-- The text of a value whose numbers are integers is read as the tree of the value. -/
lemma reads_ofValue {v : Value} (hv : ∀ n ∈ v.numbers, ∃ i : ℤ, n = .integer i ∧ -2 ^ 63 ≤ i ∧ i < 2 ^ 64) :
    Reads (Document.ofValue v).chars (Tree.ofValue v) := by
  have hreads : Reads (Document.ofValue v).chars (Tree.ofValue (v.mapNumbers id)) := by
    refine reads_mapNumbers fun n hn => ?_
    obtain ⟨i, rfl, hleast, hgreatest⟩ := hv n hn
    exact reads_integer (by omega) (by omega)
  rwa [Value.mapNumbers_id] at hreads

/-- A value that was decoded off a text is restored from the text that it is written as. -/
lemma Codec.run_restores {α : Type} (c : Codec α) (hdepth : c.depth < nestingRoom) {text : String} {a : α}
    (h : c.decoder.run text = .ok a) (hlegible : c.Legible a) :
    ∃ a', c.decoder.run (c.document a).text = .ok a' ∧ c.same a a' = true := by
  obtain ⟨b, hb, h⟩ := bind_eq_ok.mp h
  have hab : b = a := by
    split_ifs at h
    exact Except.ok.inj h
  subst hab
  obtain ⟨t, a', hrestored⟩ := c.restores hdepth hb hlegible
  refine ⟨a', ?_, hrestored.alike⟩
  rw [Document.text, hrestored.reads.run]
  exact hrestored.decodes

end FeatureFlags.Json
