import FeatureFlags.Proofs.Json.Alike
import Mathlib.Data.List.Nodup

/-!
# Edits

An edit changes the tree of a text in one place: it gives the members of an object another order, adds a
member from which nothing is read or takes one away, or replaces an empty list by null or null by an empty list.
Where that can be done depends on what is read off a tree, which its `Layout` says. The number of arrays and
objects that may be entered bounds how deep a new member may be.

Whoever reads the tree, an edit takes nothing away from him:

* what can be skipped or can be read in full still can (`Edit.skip`, `Edit.readThrough`);
* no name gets repeated in an object that is read (`Edit.distinct`);
* a value that is read as a whole stays this value (`Edit.toValue`).
-/

namespace FeatureFlags

lemma Entries.insert_comm {α : Type} {entries : Entries α} {n m : String} (hne : n ≠ m) (v w : α)
    (h : entries.Ordered) : insert n v (insert m w entries) = insert m w (insert n v entries) := by
  refine (ordered_insert (ordered_insert h)).ext (ordered_insert (ordered_insert h)) fun name => ?_
  rw [get?_insert, get?_insert, get?_insert, get?_insert]
  split_ifs with hn hm
  · exact absurd (hn.trans hm.symm) hne
  all_goals rfl

namespace Json

/-! ## Members with names that may have no value -/

/-- Members one after the other. A name that has no value is `none`. -/
def Members.ofList : List (Option String × Tree) → Members
  | [] => .closed
  | (name, t) :: rest => .member name t (ofList rest)

section Lists

variable {room : Nat} {ms ms' : List (Option String × Tree)} {ts : List Tree}

lemma names_ofList (ms : List (Option String × Tree)) : (Members.ofList ms).names = ms.map Prod.fst := by
  induction ms with
  | nil => rfl
  | cons m ms ih =>
    rw [Members.ofList, Members.names, ih]
    rfl

/-- Members can be skipped exactly when each of their trees can. -/
lemma skip_ofList_iff : (Members.ofList ms).skip = .ok () ↔ ∀ m ∈ ms, m.2.skip = .ok () := by
  induction ms with
  | nil => exact ⟨fun _ => nofun, fun _ => rfl⟩
  | cons m ms ih =>
    rw [Members.ofList, Members.skip, bind_eq_ok, List.forall_mem_cons, ← ih]
    exact Unique.exists_iff

/-- Members are read through exactly when each name is legible and each tree is read through. -/
lemma readThrough_ofList_iff : (Members.ofList ms).readThrough room = .ok () ↔
    ∀ m ∈ ms, m.1.isSome ∧ m.2.readThrough room = .ok () := by
  induction ms with
  | nil => exact ⟨fun _ => nofun, fun _ => rfl⟩
  | cons m ms ih =>
    obtain ⟨name, t⟩ := m
    rw [List.forall_mem_cons, ← ih]
    cases name with
    | none => exact ⟨nofun, fun h => absurd h.1.1 Bool.false_ne_true⟩
    | some name =>
      rw [Members.ofList, Members.readThrough, bind_eq_ok]
      exact Unique.exists_iff.trans (and_congr_left' (and_iff_right rfl).symm)

lemma skip_ofTrees_iff : (Items.ofTrees ts).skip = .ok () ↔ ∀ t ∈ ts, t.skip = .ok () := by
  induction ts with
  | nil => exact ⟨fun _ => nofun, fun _ => rfl⟩
  | cons t ts ih =>
    rw [Items.ofTrees, Items.skip, bind_eq_ok, List.forall_mem_cons, ← ih]
    exact Unique.exists_iff

lemma readThrough_ofTrees_iff : (Items.ofTrees ts).readThrough room = .ok () ↔
    ∀ t ∈ ts, t.readThrough room = .ok () := by
  induction ts with
  | nil => exact ⟨fun _ => nofun, fun _ => rfl⟩
  | cons t ts ih =>
    rw [Items.ofTrees, Items.readThrough, bind_eq_ok, List.forall_mem_cons, ← ih]
    exact Unique.exists_iff

/-- An object takes one level of room, its members the rest. -/
lemma readThrough_object_iff : (Tree.object (.ofList ms)).readThrough room = .ok () ↔
    1 < room ∧ ∀ m ∈ ms, m.1.isSome ∧ m.2.readThrough (room - 1) = .ok () := by
  rw [Tree.readThrough, enter_bind_eq_ok, readThrough_ofList_iff]

/-- An array takes one level of room, its items the rest. -/
lemma readThrough_array_iff : (Tree.array (.ofTrees ts)).readThrough room = .ok () ↔
    1 < room ∧ ∀ t ∈ ts, t.readThrough (room - 1) = .ok () := by
  rw [Tree.readThrough, enter_bind_eq_ok, readThrough_ofTrees_iff]

lemma readThrough_closed_iff : (Tree.array .closed).readThrough room = .ok () ↔ 1 < room :=
  (@readThrough_array_iff room []).trans ⟨And.left, fun h => ⟨h, fun _ ht => absurd ht List.not_mem_nil⟩⟩

/-- One of a list of things is replaced. -/
lemma forall_mem_replace {α : Type} {p : α → Prop} {before after : List α} {a a' : α} (h : p a → p a')
    (hall : ∀ x ∈ before ++ a :: after, p x) : ∀ x ∈ before ++ a' :: after, p x := by
  rw [List.forall_mem_append, List.forall_mem_cons] at hall ⊢
  exact ⟨hall.1, h hall.2.1, hall.2.2⟩

end Lists

/-! ## Layouts -/

/-- What is read off a tree. -/
inductive Layout where
  /-- A value as a whole. -/
  | value
  /-- A list. It may be null, and an object may lack it. -/
  | list (item : Layout)
  /-- A record of these fields, in order. -/
  | record (fields : List (String × Layout))

namespace Layout

/-- What is read off the items of an array. -/
def item : Layout → Nat → Layout
  | value, _ => value
  | list item, _ => item
  | record fields, i => (fields.map Prod.snd).getD i value

/-- What is read off the members of an object; `none` if a member is not read. -/
def member? : Layout → Option String → Option Layout
  | value, _ => some value
  | list _, _ => none
  | record fields, name => name.bind fun name => Entries.get? name fields

end Layout

/-- A member from which nothing is read: one that is not known, or an empty list. -/
def Idle : Option Layout → Tree → Prop
  | none, _ => True
  | some (.list _), t => t = .null ∨ t = .array .closed
  | some _, _ => False

/-! ## Edits -/

/-- A change in one place of a tree. A member that is not read can still be edited like any value. -/
inductive Edit : Nat → Layout → Tree → Tree → Prop
  /-- The members of an object are put in another order. -/
  | reorder {room : Nat} {layout : Layout} {ms ms' : List (Option String × Tree)} (h : ms.Perm ms') :
    Edit room layout (.object (.ofList ms)) (.object (.ofList ms'))
  /-- A member from which nothing is read is added. -/
  | insert {room : Nat} {layout : Layout} {before after : List (Option String × Tree)} {name : String} {t : Tree}
    (hnew : some name ∉ (before ++ after).map Prod.fst) (hidle : Idle (layout.member? (some name)) t)
    (hthrough : t.readThrough (room - 1) = .ok ()) :
    Edit room layout (.object (.ofList (before ++ after))) (.object (.ofList (before ++ (some name, t) :: after)))
  /-- A member from which nothing is read is taken away. -/
  | remove {room : Nat} {layout : Layout} {before after : List (Option String × Tree)} {name : String} {t : Tree}
    (hidle : Idle (layout.member? (some name)) t) :
    Edit room layout (.object (.ofList (before ++ (some name, t) :: after))) (.object (.ofList (before ++ after)))
  /-- Null is replaced by an empty list. -/
  | empty {room : Nat} {item : Layout} (hroom : 1 < room) : Edit room (.list item) .null (.array .closed)
  /-- An empty list is replaced by null. -/
  | null {room : Nat} {item : Layout} : Edit room (.list item) (.array .closed) .null
  /-- An item of an array is edited. -/
  | item {room : Nat} {layout : Layout} {before after : List Tree} {t t' : Tree}
    (h : Edit (room - 1) (layout.item before.length) t t') :
    Edit room layout (.array (.ofTrees (before ++ t :: after))) (.array (.ofTrees (before ++ t' :: after)))
  /-- The value of a member of an object is edited. -/
  | member {room : Nat} {layout : Layout} {before after : List (Option String × Tree)} {name : Option String}
    {t t' : Tree} (h : Edit (room - 1) ((layout.member? name).getD .value) t t') :
    Edit room layout (.object (.ofList (before ++ (name, t) :: after)))
      (.object (.ofList (before ++ (name, t') :: after)))

mutual

/-- No object that is read has a name twice. -/
def Tree.Distinct (layout : Layout) : Tree → Prop
  | .array items => items.Distinct layout.item
  | .object members => members.names.Nodup ∧ members.Distinct layout
  | _ => True

/-- No object that is read in the items has a name twice. -/
def Items.Distinct (layout : Nat → Layout) : Items → Prop
  | .item t rest => t.Distinct (layout 0) ∧ rest.Distinct fun i => layout (i + 1)
  | _ => True

/-- No object that is read in the values of the members has a name twice. -/
def Members.Distinct (layout : Layout) : Members → Prop
  | .member name t rest => (∀ l, layout.member? name = some l → t.Distinct l) ∧ rest.Distinct layout
  | _ => True

end

mutual

/-- Without repeated names, there are none wherever one looks. -/
lemma distinct_of_distinctNames : ∀ {t : Tree} {layout : Layout}, t.DistinctNames → t.Distinct layout
  | .null, _, _ | .bool _, _, _ | .number _, _, _ | .string _, _, _ | .unreadable, _, _ | .broken _ _, _, _ =>
    trivial
  | .array _, _, h => distinctItems_of_distinctNames h
  | .object _, _, h => ⟨h.1, distinctMembers_of_distinctNames h.2⟩

/-- Names that are distinct everywhere are distinct wherever a layout looks. -/
lemma distinctItems_of_distinctNames : ∀ {items : Items} {layout : Nat → Layout},
    items.DistinctNames → items.Distinct layout
  | .closed, _, _ | .broken _, _, _ => trivial
  | .item _ _, _, h => ⟨distinct_of_distinctNames h.1, distinctItems_of_distinctNames h.2⟩

lemma distinctMembers_of_distinctNames : ∀ {members : Members} {layout : Layout},
    members.DistinctNames → members.Distinct layout
  | .closed, _, _ | .broken _ _, _, _ => trivial
  | .member _ _ _, _, h => ⟨fun _ _ => distinct_of_distinctNames h.1, distinctMembers_of_distinctNames h.2⟩

end

/-- An object is distinct in a layout exactly when the members it has a layout for are. -/
lemma distinct_ofList_iff {layout : Layout} {ms : List (Option String × Tree)} :
    (Members.ofList ms).Distinct layout ↔ ∀ m ∈ ms, ∀ l, layout.member? m.1 = some l → m.2.Distinct l := by
  induction ms with
  | nil => exact ⟨fun _ => nofun, fun _ => trivial⟩
  | cons m ms ih =>
    rw [List.forall_mem_cons, ← ih]
    rfl

lemma distinct_item {before after : List Tree} {t : Tree} {layout : Nat → Layout}
    (h : (Items.ofTrees (before ++ t :: after)).Distinct layout) : t.Distinct (layout before.length) := by
  induction before generalizing layout with
  | nil => exact h.1
  | cons s before ih => exact ih h.2

lemma distinct_member {before after : List (Option String × Tree)} {name : Option String} {t : Tree}
    {layout l : Layout} (h : (Members.ofList (before ++ (name, t) :: after)).Distinct layout)
    (hl : layout.member? name = some l) : t.Distinct l :=
  distinct_ofList_iff.mp h (name, t) (List.mem_append_right _ List.mem_cons_self) l hl

/-- Replacing one item keeps the others distinct. -/
lemma distinct_replace {before after : List Tree} {t t' : Tree} {layout : Nat → Layout}
    (h : t.Distinct (layout before.length) → t'.Distinct (layout before.length))
    (hall : (Items.ofTrees (before ++ t :: after)).Distinct layout) :
    (Items.ofTrees (before ++ t' :: after)).Distinct layout := by
  induction before generalizing layout with
  | nil => exact ⟨h hall.1, hall.2⟩
  | cons s before ih => exact ⟨hall.1, ih h hall.2⟩

/-- An idle tree has no names a layout looks at. -/
lemma distinct_of_idle {layout : Layout} {t : Tree} (h : Idle (some layout) t) : t.Distinct layout := by
  cases layout with
  | list item => rcases h with rfl | rfl <;> trivial
  | value | record => cases h

namespace Edit

variable {room : Nat} {layout : Layout} {t t' : Tree}

/-- What can be skipped can be skipped after an edit. -/
theorem skip (h : Edit room layout t t') (hskip : t.skip = .ok ()) : t'.skip = .ok () := by
  induction h with
  | reorder h =>
    rw [Tree.skip, skip_ofList_iff] at hskip ⊢
    exact fun m hm => hskip m (h.mem_iff.mpr hm)
  | insert hnew hidle hthrough =>
    rw [Tree.skip, skip_ofList_iff, List.forall_mem_append] at hskip ⊢
    exact ⟨hskip.1, List.forall_mem_cons.mpr ⟨skip_of_readThrough hthrough, hskip.2⟩⟩
  | remove hidle =>
    rw [Tree.skip, skip_ofList_iff, List.forall_mem_append] at hskip ⊢
    exact ⟨hskip.1, (List.forall_mem_cons.mp hskip.2).2⟩
  | empty | null => rfl
  | item h ih =>
    rw [Tree.skip, skip_ofTrees_iff] at hskip ⊢
    exact forall_mem_replace ih hskip
  | member h ih =>
    rw [Tree.skip, skip_ofList_iff] at hskip ⊢
    exact forall_mem_replace ih hskip

/-- What can be read in full can be read in full after an edit. -/
theorem readThrough (h : Edit room layout t t') (hthrough : t.readThrough room = .ok ()) :
    t'.readThrough room = .ok () := by
  -- each edit changes one place; the other members and items are untouched
  induction h with
  | reorder h =>
    rw [readThrough_object_iff] at hthrough ⊢
    exact ⟨hthrough.1, fun m hm => hthrough.2 m (h.mem_iff.mpr hm)⟩
  | insert hnew hidle hthrough' =>
    rw [readThrough_object_iff, List.forall_mem_append] at hthrough ⊢
    exact ⟨hthrough.1, hthrough.2.1, List.forall_mem_cons.mpr ⟨⟨rfl, hthrough'⟩, hthrough.2.2⟩⟩
  | remove hidle =>
    rw [readThrough_object_iff, List.forall_mem_append] at hthrough ⊢
    exact ⟨hthrough.1, hthrough.2.1, (List.forall_mem_cons.mp hthrough.2.2).2⟩
  | empty hroom => exact readThrough_closed_iff.mpr hroom
  | null => rfl
  | item h ih =>
    rw [readThrough_array_iff] at hthrough ⊢
    exact ⟨hthrough.1, forall_mem_replace ih hthrough.2⟩
  | member h ih =>
    rw [readThrough_object_iff] at hthrough ⊢
    refine ⟨hthrough.1, forall_mem_replace ?_ hthrough.2⟩
    exact fun ⟨hname, hvalue⟩ => ⟨hname, ih hvalue⟩

/-- No name gets repeated in an object that is read. -/
theorem distinct (h : Edit room layout t t') (hdistinct : t.Distinct layout) : t'.Distinct layout := by
  induction h with
  | reorder h =>
    rw [Tree.Distinct, names_ofList, distinct_ofList_iff] at hdistinct ⊢
    exact ⟨(h.map _).nodup hdistinct.1, fun m hm => hdistinct.2 m (h.mem_iff.mpr hm)⟩
  | insert hnew hidle hthrough =>
    rw [Tree.Distinct, names_ofList, distinct_ofList_iff, List.forall_mem_append] at hdistinct ⊢
    -- the new name is none of the others
    refine ⟨?_, hdistinct.2.1, List.forall_mem_cons.mpr ⟨?_, hdistinct.2.2⟩⟩
    · rw [List.map_append] at hnew hdistinct ⊢
      exact List.nodup_middle.mpr (List.nodup_cons.mpr ⟨hnew, hdistinct.1⟩)
    · exact fun l hl => distinct_of_idle (hl ▸ hidle)
  | remove hidle =>
    rw [Tree.Distinct, names_ofList, distinct_ofList_iff, List.forall_mem_append] at hdistinct ⊢
    refine ⟨?_, hdistinct.2.1, (List.forall_mem_cons.mp hdistinct.2.2).2⟩
    have hnames := hdistinct.1
    rw [List.map_append] at hnames ⊢
    exact (List.nodup_cons.mp (List.nodup_middle.mp hnames)).2
  | empty | null => trivial
  | item h ih => exact distinct_replace ih hdistinct
  | member h ih =>
    rw [Tree.Distinct, names_ofList, distinct_ofList_iff] at hdistinct ⊢
    refine ⟨?_, forall_mem_replace ?_ hdistinct.2⟩
    · rw [List.map_append] at hdistinct ⊢
      exact hdistinct.1
    · intro ht l hl
      rw [hl] at ih
      exact ih (ht l hl)

end Edit

/-! ### Values that are read as a whole -/

section Whole

variable {α : Type} {d : Decoder α} {room : Nat}

/-- Replacing an item by one that decodes alike leaves the decoded list as it is. -/
lemma items_replace {before after : List Tree} {t t' : Tree} (h : ∀ a, d room t = .ok a → d room t' = .ok a)
    {as : List α} (hall : Decoder.items d room (.ofTrees (before ++ t :: after)) = .ok as) :
    Decoder.items d room (.ofTrees (before ++ t' :: after)) = .ok as := by
  induction before generalizing as with
  | nil =>
    obtain ⟨a, ha, hrest⟩ := bind_eq_ok.mp hall
    exact bind_eq_ok.mpr ⟨a, h a ha, hrest⟩
  | cons s before ih =>
    obtain ⟨a, ha, hrest⟩ := bind_eq_ok.mp hall
    obtain ⟨as', has, hall⟩ := bind_eq_ok.mp hrest
    exact bind_eq_ok.mpr ⟨a, ha, bind_eq_ok.mpr ⟨as', ih has, hall⟩⟩

lemma items_value (room : Nat) (items : Items) :
    Decoder.items Decoder.value room items = items.toValues room := by
  cases items with
  | closed | broken => rfl
  | item t rest =>
    rw [Decoder.items, Items.toValues, items_value room rest]
    rfl

/-- Replacing a member by one of the same value leaves the entries as they are. -/
lemma toEntries_replace {before after : List (Option String × Tree)} {name : Option String} {t t' : Tree}
    (h : ∀ v, t.toValue room = .ok v → t'.toValue room = .ok v) {done entries : Entries Value}
    (hall : (Members.ofList (before ++ (name, t) :: after)).toEntries room done = .ok entries) :
    (Members.ofList (before ++ (name, t') :: after)).toEntries room done = .ok entries := by
  induction before generalizing done with
  | nil =>
    cases name with
    | none => cases hall
    | some name =>
      obtain ⟨v, hv, hrest⟩ := bind_eq_ok.mp hall
      exact bind_eq_ok.mpr ⟨v, h v hv, hrest⟩
  | cons m before ih =>
    obtain ⟨first, s⟩ := m
    cases first with
    | none => cases hall
    | some first =>
      obtain ⟨v, hv, hrest⟩ := bind_eq_ok.mp hall
      exact bind_eq_ok.mpr ⟨v, hv, ih hrest⟩

/-- In another order, members without repeated names are read as the same entries. -/
lemma toEntries_perm {ms ms' : List (Option String × Tree)} (hperm : ms.Perm ms')
    (hnames : (ms.map Prod.fst).Nodup) {done entries : Entries Value} (hdone : done.Ordered)
    (h : (Members.ofList ms).toEntries room done = .ok entries) :
    (Members.ofList ms').toEntries room done = .ok entries := by
  induction hperm generalizing done with
  | nil => exact h
  | cons m _ ih =>
    obtain ⟨name, t⟩ := m
    cases name with
    | none => cases h
    | some name =>
      obtain ⟨v, hv, h⟩ := bind_eq_ok.mp h
      exact bind_eq_ok.mpr ⟨v, hv, ih (List.nodup_cons.mp hnames).2 (Entries.ordered_insert hdone) h⟩
  | swap m m' rest =>
    -- two members that change places have different names, so their insertions commute
    obtain ⟨name, t⟩ := m
    obtain ⟨name', t'⟩ := m'
    cases name' with
    | none => cases h
    | some name' =>
      obtain ⟨v', hv', h⟩ := bind_eq_ok.mp h
      cases name with
      | none => cases h
      | some name =>
        obtain ⟨v, hv, h⟩ := bind_eq_ok.mp h
        have hne : name' ≠ name := fun heq =>
          (List.nodup_cons.mp hnames).1 (List.mem_cons.mpr (.inl (congrArg some heq)))
        refine bind_eq_ok.mpr ⟨v, hv, bind_eq_ok.mpr ⟨v', hv', ?_⟩⟩
        rw [Entries.insert_comm hne v' v hdone]
        exact h
  | trans hperm _ ih ih' => exact ih' ((hperm.map _).nodup hnames) hdone (ih hnames hdone h)

end Whole

/-- A value that is read as a whole stays this value. -/
theorem Edit.toValue {room : Nat} {t t' : Tree} {v : Value} (h : Edit room .value t t')
    (hdistinct : t.Distinct .value) (hv : t.toValue room = .ok v) : t'.toValue room = .ok v := by
  -- a value has the same layout at every depth, which excludes the edits that need a record
  generalize hlayout : Layout.value = layout at h hdistinct
  induction h generalizing v with
  | reorder h =>
    rw [Tree.Distinct, names_ofList] at hdistinct
    obtain ⟨hroom, hv⟩ := enter_bind_eq_ok.mp hv
    obtain ⟨entries, hentries, heq⟩ := bind_eq_ok.mp hv
    have hentries' := toEntries_perm h hdistinct.1 Entries.ordered_nil hentries
    exact enter_bind_eq_ok.mpr ⟨hroom, bind_eq_ok.mpr ⟨entries, hentries', heq⟩⟩
  | insert _ hidle _ | remove hidle =>
    subst hlayout
    cases hidle
  | empty | null => cases hlayout
  | item h ih =>
    subst hlayout
    obtain ⟨hroom, hv⟩ := enter_bind_eq_ok.mp hv
    obtain ⟨vs, hvs, heq⟩ := bind_eq_ok.mp hv
    refine enter_bind_eq_ok.mpr ⟨hroom, bind_eq_ok.mpr ⟨vs, ?_, heq⟩⟩
    rw [← items_value] at hvs ⊢
    exact items_replace (fun _ ht => ih ht rfl (distinct_item hdistinct)) hvs
  | member h ih =>
    subst hlayout
    obtain ⟨hroom, hv⟩ := enter_bind_eq_ok.mp hv
    obtain ⟨entries, hentries, heq⟩ := bind_eq_ok.mp hv
    refine enter_bind_eq_ok.mpr ⟨hroom, bind_eq_ok.mpr ⟨entries, ?_, heq⟩⟩
    exact toEntries_replace (fun _ ht => ih ht rfl (distinct_member hdistinct.2 rfl)) hentries

end Json
end FeatureFlags
