import FeatureFlags.Context.Builder
import FeatureFlags.Proofs.Attribute.Paths
import FeatureFlags.Proofs.Entries
import FeatureFlags.Proofs.Json.Alike

/-!
# Attributes of built contexts

An attribute is set by its name and read by a reference. However often attributes are set, a field of the builder
has the last value that was given to its name and that it takes (`ContextBuilder.field_setValues`), and a reference
to the name reads this field (`attributes_as_told`). Longer references read members of objects, one name after the
other (`Entity.value?_append`).

* `ContextBuilder.setValue_eq`: what one call does to all fields.
* `ContextBuilder.buildEntity_eq_ok_iff`: which entities are described.
-/

namespace FeatureFlags

/-! ## Kinds and described entities -/

/-- A name is that of a kind if it has allowed characters only and is not reserved. -/
lemma Kind.ofName_eq_ok_iff {name : String} {kind : Kind} :
    Kind.ofName name = .ok kind ↔
      kind = ⟨name⟩ ∧ name ≠ "" ∧ name ≠ "kind" ∧ name ≠ "multi" ∧ name.toList.all isAllowed = true := by
  unfold Kind.ofName
  split_ifs with hempty hreserved hallowed
  · simp [hempty]
  · rcases hreserved with rfl | rfl <;> simp
  · rw [not_or] at hreserved
    constructor
    · intro h
      cases h
      exact ⟨rfl, hempty, hreserved.1, hreserved.2, hallowed⟩
    · rintro ⟨rfl, -⟩
      rfl
  · simp [hallowed]

namespace ContextBuilder

/-- An entity is described by a valid kind and a key. -/
theorem buildEntity_eq_ok_iff {b : ContextBuilder} {e : Entity} :
    b.buildEntity = .ok e ↔
      Kind.ofName b.kind = .ok ⟨b.kind⟩ ∧ b.key ≠ "" ∧
        e = ⟨⟨b.kind⟩, b.key, b.name, b.anonymous, b.attributes, b.privateAttributes⟩ := by
  unfold buildEntity
  by_cases hmulti : b.kind = Kind.multi.name
  · rw [if_pos hmulti]
    refine iff_of_false nofun fun h => ?_
    exact (Kind.ofName_eq_ok_iff.mp h.1).2.2.2.1 hmulti
  rw [if_neg hmulti]
  cases hkind : Kind.ofName b.kind with
  | error e => exact iff_of_false nofun fun h => nomatch h.1
  | ok kind =>
    obtain ⟨rfl, -⟩ := Kind.ofName_eq_ok_iff.mp hkind
    by_cases hkey : b.key = ""
    · exact iff_of_false (by simp [hkey]) fun h => h.2.1 hkey
    · simp only [String.isEmpty_iff, hkey, if_false, Except.ok.injEq, ne_eq, not_false_eq_true, true_and]
      exact eq_comm

end ContextBuilder

/-! ## References and members -/

namespace AttributeValue

/-- The member of an object. -/
def member? (v : AttributeValue) (name : String) : Option AttributeValue :=
  match v with
  | object members => Entries.get? name members
  | _ => none

/-- A path is followed member by member. -/
lemma follow?_cons (v : AttributeValue) (name : String) (rest : List String) :
    v.follow? (name :: rest) = (v.member? name).bind (·.follow? rest) := by
  cases v <;> rfl

/-- To follow a path is to follow its parts, one after the other. -/
lemma follow?_append (v : AttributeValue) (front back : List String) :
    v.follow? (front ++ back) = (v.follow? front).bind (·.follow? back) := by
  induction front generalizing v with
  | nil => rfl
  | cons name front ih =>
    rw [List.cons_append, follow?_cons, follow?_cons, Option.bind_assoc]
    exact congrArg _ (funext ih)

lemma follow?_singleton (v : AttributeValue) (name : String) : v.follow? [name] = v.member? name := by
  rw [follow?_cons]
  exact Option.bind_fun_some _

/-- The value, unless it is null. -/
def kept? (v : AttributeValue) : Option AttributeValue := if v.isNull then none else some v

/-- What a value says about the name of an entity; null says that there is none. -/
def displayName? : AttributeValue → Option (Option String)
  | string s => some (some s)
  | null => some none
  | _ => none

end AttributeValue

namespace Reference

variable {name : String}

/-- A literal name is one component, whatever its characters are. -/
lemma components_literal (h : name ≠ "") : (literal name).components = [name] := by
  simp [literal, components, h]

/-- The text of a path is read as this path. -/
lemma form_ofText_pathText {components : List String} (hne : components ≠ [])
    (h : ∀ c ∈ components, c ≠ "") : (ofText (pathText components)).form = .path components :=
  form_eq_path_iff.mpr ⟨hne, h, rfl⟩

/-- A path of one component is read as this component. -/
lemma components_path (h : name ≠ "") : (ofText (pathText [name])).components = [name] :=
  components_of_form_eq_path (form_ofText_pathText (List.cons_ne_nil name []) (by simpa using h))

end Reference

lemma Entity.value?_singleton (e : Entity) {r : Reference} {name : String} (h : r.components = [name]) :
    e.value? r = e.attribute? name := by
  unfold value?
  rw [h]
  exact Option.bind_fun_some _

/-- The last name of a reference is looked up in what the names before it lead to. -/
theorem Entity.value?_append (e : Entity) {r r' : Reference} {front : List String} {name : String}
    (hfront : front ≠ []) (hr : r.components = front ++ [name]) (hr' : r'.components = front) :
    e.value? r = (e.value? r').bind (·.member? name) := by
  obtain ⟨first, rest, rfl⟩ := List.exists_cons_of_ne_nil hfront
  rw [value?, value?, hr, hr', List.cons_append]
  show (e.attribute? first).bind _ = ((e.attribute? first).bind _).bind _
  rw [Option.bind_assoc]
  refine congrArg _ (funext fun v => ?_)
  rw [AttributeValue.follow?_append]
  exact congrArg _ (funext fun v => v.follow?_singleton name)

/-! ## Removed entries -/

namespace Entries

variable {α : Type} {name key : String} {entries : Entries α}

/-- Erasing adds no names. -/
lemma mem_names_erase (h : key ∈ (erase name entries).names) : key ∈ entries.names := by
  induction entries with
  | nil => exact h
  | cons entry rest ih =>
    obtain ⟨first, v⟩ := entry
    rw [erase] at h
    split_ifs at h
    · exact List.mem_cons_of_mem _ h
    · rcases List.mem_cons.mp h with rfl | h
      · exact List.mem_cons_self
      · exact List.mem_cons_of_mem _ (ih h)

/-- Erasing keeps the order. -/
lemma ordered_erase (h : entries.Ordered) : (erase name entries).Ordered := by
  induction entries with
  | nil => exact h
  | cons entry rest ih =>
    obtain ⟨first, v⟩ := entry
    obtain ⟨hfirst, hrest⟩ := List.pairwise_cons.mp h
    rw [erase]
    split_ifs
    · exact hrest
    · exact List.pairwise_cons.mpr ⟨fun n hn => hfirst n (mem_names_erase hn), ih hrest⟩

/-- An erased name is gone, and the others are as they were. -/
lemma get?_erase (name key : String) (h : entries.Ordered) :
    get? key (erase name entries) = if name = key then none else get? key entries := by
  induction entries with
  | nil => simp [erase, get?]
  | cons entry rest ih =>
    obtain ⟨first, v⟩ := entry
    obtain ⟨hfirst, hrest⟩ := List.pairwise_cons.mp h
    rw [erase, get?]
    by_cases hname : first = name
    · rw [if_pos hname, hname]
      split_ifs with hkey
      · -- the name does not come again
        refine get?_of_not_mem fun hmem => String.lt_irrefl key ?_
        have hless := hfirst key hmem
        rwa [hname, hkey] at hless
      · rfl
    · rw [if_neg hname, get?, ih hrest]
      split_ifs with hfirstKey hkey
      · exact absurd (hfirstKey.trans hkey.symm) hname
      · rfl
      · rfl
      · rfl

end Entries

/-! ## Calls of a builder -/

namespace ContextBuilder

/-- Sets attributes, one after the other. -/
def setValues (b : ContextBuilder) (calls : List (String × AttributeValue)) : ContextBuilder :=
  calls.foldl (fun b call => b.setValue call.1 call.2) b

/-- The values that calls give to a name. -/
def valuesFor (name : String) (calls : List (String × AttributeValue)) : List AttributeValue :=
  (calls.filter (·.1 == name)).map Prod.snd

/-- The last value for a name that can be read. -/
def lastFor {α : Type} (read : AttributeValue → Option α) (name : String)
    (calls : List (String × AttributeValue)) : Option α :=
  ((valuesFor name calls).filterMap read).getLast?

variable {b : ContextBuilder} {calls : List (String × AttributeValue)} {name : String}

/-- A name that is not reserved is none of the four built-in ones. -/
lemma ne_of_not_mem_reservedNames (h : name ∉ reservedNames) :
    name ≠ "kind" ∧ name ≠ "key" ∧ name ≠ "name" ∧ name ≠ "anonymous" := by
  simp only [reservedNames, List.mem_cons, List.not_mem_nil, or_false, not_or] at h
  exact h.2.2

/-- What a call does: a built-in attribute is changed by the values that it takes, and a custom one by all. -/
theorem setValue_eq (b : ContextBuilder) (name : String) (value : AttributeValue) :
    b.setValue name value =
      { kind := if name = "kind" then value.string?.getD b.kind else b.kind
        key := if name = "key" then value.string?.getD b.key else b.key
        name := if name = "name" then value.displayName?.getD b.name else b.name
        anonymous := if name = "anonymous" then value.bool?.getD b.anonymous else b.anonymous
        attributes :=
          if name ∈ reservedNames then b.attributes
          else if value.isNull then b.attributes.erase name else b.attributes.insert name value
        privateAttributes := b.privateAttributes } := by
  by_cases h : name ∈ reservedNames
  · have hnames := h
    simp only [reservedNames, List.mem_cons, List.not_mem_nil, or_false] at hnames
    rcases hnames with rfl | rfl | rfl | rfl | rfl | rfl <;> cases value <;> rfl
  · obtain ⟨hkind, hkey, hname, hanonymous⟩ := ne_of_not_mem_reservedNames h
    simp only [setValue, if_neg h, if_neg hkind, if_neg hkey, if_neg hname, if_neg hanonymous]
    cases value <;> rfl

/-- The attributes stay in order whatever is set. -/
lemma ordered_setValue (h : b.attributes.Ordered) (name : String) (value : AttributeValue) :
    (b.setValue name value).attributes.Ordered := by
  rw [setValue_eq]
  dsimp only
  split_ifs
  · exact h
  · exact Entries.ordered_erase h
  · exact Entries.ordered_insert h

/-- What a custom attribute has after a call; null removes it. -/
lemma get?_setValue (h : b.attributes.Ordered) (hname : name ∉ reservedNames) (called : String)
    (value : AttributeValue) :
    Entries.get? name (b.setValue called value).attributes =
      if called = name then value.kept? else Entries.get? name b.attributes := by
  rw [setValue_eq]
  dsimp only
  by_cases hcalled : called = name
  · subst hcalled
    rw [if_neg hname, if_pos rfl, AttributeValue.kept?]
    split_ifs
    · rw [Entries.get?_erase called called h, if_pos rfl]
    · rw [Entries.get?_insert, if_pos rfl]
  · rw [if_neg hcalled]
    split_ifs
    · rfl
    · rw [Entries.get?_erase called name h, if_neg hcalled]
    · rw [Entries.get?_insert, if_neg hcalled]

/-- A built-in name never gets among the custom attributes. -/
lemma not_mem_names_setValue {value : AttributeValue} {called : String} (hname : name ∈ reservedNames)
    (h : name ∉ b.attributes.names) : name ∉ (b.setValue called value).attributes.names := by
  rw [setValue_eq]
  dsimp only
  split_ifs with hcalled
  · exact h
  · exact fun hmem => h (Entries.mem_names_erase hmem)
  · intro hmem
    rcases Entries.mem_names_insert hmem with rfl | hmem
    · exact hcalled hname
    · exact h hmem

/-- A field has the last value that was given to its name and that it takes. -/
theorem field_setValues {α : Type} (field : ContextBuilder → α) (read : AttributeValue → Option α)
    (hstep : ∀ b : ContextBuilder, b.attributes.Ordered → ∀ called value,
      field (b.setValue called value) = if called = name then (read value).getD (field b) else field b)
    (h : b.attributes.Ordered) :
    field (b.setValues calls) = (lastFor read name calls).getD (field b) := by
  induction calls generalizing b with
  | nil => rfl
  | cons call rest ih =>
    obtain ⟨called, value⟩ := call
    have hrest := ih (ordered_setValue h called value)
    rw [hstep b h] at hrest
    refine hrest.trans ?_
    unfold lastFor valuesFor
    by_cases hcalled : called = name
    · subst hcalled
      cases hvalue : read value <;> simp [hvalue, List.getLast?_cons]
    · simp [hcalled]

/-- The kind is the last one that was set as a text. -/
lemma kind_setValues (h : b.attributes.Ordered) :
    (b.setValues calls).kind = (lastFor AttributeValue.string? "kind" calls).getD b.kind :=
  field_setValues (·.kind) _ (fun b _ called value => by rw [setValue_eq]) h

/-- The key is the last one that was set as a text. -/
lemma key_setValues (h : b.attributes.Ordered) :
    (b.setValues calls).key = (lastFor AttributeValue.string? "key" calls).getD b.key :=
  field_setValues (·.key) _ (fun b _ called value => by rw [setValue_eq]) h

/-- The name is the last one that was set as a text or as null. -/
lemma name_setValues (h : b.attributes.Ordered) :
    (b.setValues calls).name = (lastFor AttributeValue.displayName? "name" calls).getD b.name :=
  field_setValues (·.name) _ (fun b _ called value => by rw [setValue_eq]) h

/-- Whether a context is anonymous was said last by a boolean. -/
lemma anonymous_setValues (h : b.attributes.Ordered) :
    (b.setValues calls).anonymous = (lastFor AttributeValue.bool? "anonymous" calls).getD b.anonymous :=
  field_setValues (·.anonymous) _ (fun b _ called value => by rw [setValue_eq]) h

lemma ordered_of_new (hnew : b.attributes = []) : b.attributes.Ordered := by
  rw [hnew]
  exact Entries.ordered_nil

/-- A custom attribute has its last value, unless that is null. -/
lemma get?_setValues (hnew : b.attributes = []) (hname : name ∉ reservedNames) :
    Entries.get? name (b.setValues calls).attributes =
      (valuesFor name calls).getLast?.bind AttributeValue.kept? := by
  have h : Entries.get? name (b.setValues calls).attributes = _ :=
    field_setValues (fun b => Entries.get? name b.attributes) (fun value => some value.kept?)
      (fun b hb => get?_setValue hb hname) (ordered_of_new hnew)
  rw [hnew, lastFor, List.filterMap_eq_map', List.getLast?_map] at h
  rw [h]
  cases (valuesFor name calls).getLast? <;> rfl

/-- No custom attribute gets a reserved name. -/
lemma not_mem_names_setValues (hname : name ∈ reservedNames) (h : name ∉ b.attributes.names) :
    name ∉ (b.setValues calls).attributes.names := by
  induction calls generalizing b with
  | nil => exact h
  | cons call rest ih => exact ih (not_mem_names_setValue hname h)

end ContextBuilder

open ContextBuilder in
/-- What a builder is told is what references read:
* a reference of one name has the last value of a custom attribute, unless that is null;
* it has the last value of a built-in attribute that is of its type, or the one it had before;
* the last name of a path is looked up in the object that is the value of the names before it;
* no custom attribute has a reserved name, so that it would be hidden by a built-in one. -/
theorem attributes_as_told (b : ContextBuilder) (calls : List (String × AttributeValue)) (c : Context)
    (hnew : b.attributes = []) (hbuilt : (b.setValues calls).build = .ok c) :
    (∀ name, name ≠ "" → (Reference.literal name).components = [name] ∧
      (Reference.ofText (Reference.pathText [name])).form = .path [name] ∧
      (Reference.ofText (Reference.pathText [name])).components = [name]) ∧
    (∀ name, name ∉ reservedNames → ∀ r : Reference, r.components = [name] →
      c.value? r = (valuesFor name calls).getLast?.bind AttributeValue.kept?) ∧
    (∀ r : Reference, r.components = ["kind"] →
      c.value? r = some (.string ((lastFor AttributeValue.string? "kind" calls).getD b.kind))) ∧
    (∀ r : Reference, r.components = ["key"] →
      c.value? r = some (.string ((lastFor AttributeValue.string? "key" calls).getD b.key))) ∧
    (∀ r : Reference, r.components = ["name"] →
      c.value? r = ((lastFor AttributeValue.displayName? "name" calls).getD b.name).map .string) ∧
    (∀ r : Reference, r.components = ["anonymous"] →
      c.value? r = some (.bool ((lastFor AttributeValue.bool? "anonymous" calls).getD b.anonymous))) ∧
    (∀ text front name, front ≠ [] → (Reference.ofText text).form = .path (front ++ [name]) →
      (Reference.ofText (Reference.pathText front)).form = .path front ∧
      c.value? (.ofText text) =
        (c.value? (.ofText (Reference.pathText front))).bind (·.member? name)) ∧
    ∃ e, c = .single e ∧ ∀ name ∈ reservedNames, name ∉ e.attributes.names := by
  have hordered := ordered_of_new hnew
  -- what was built is one entity, whose fields are those of the builder
  obtain ⟨e, hentity, rfl⟩ := Json.map_eq_ok.mp hbuilt
  obtain ⟨-, -, rfl⟩ := buildEntity_eq_ok_iff.mp hentity
  refine ⟨fun name hname => ?_, fun name hname r hr => ?_, fun r hr => ?_, fun r hr => ?_, fun r hr => ?_,
    fun r hr => ?_, fun text front name hfront hform => ?_, _, rfl,
    fun name hname => not_mem_names_setValues hname ?_⟩
  · exact ⟨Reference.components_literal hname, Reference.form_ofText_pathText (by simp) (by simpa using hname),
      Reference.components_path hname⟩
  -- a name that is not reserved is looked up among the attributes
  · obtain ⟨hkind, hkey, hdisplay, hanonymous⟩ := ne_of_not_mem_reservedNames hname
    refine (Entity.value?_singleton _ hr).trans ?_
    rw [Entity.attribute?, if_neg hkind, if_neg hkey, if_neg hdisplay, if_neg hanonymous]
    exact get?_setValues hnew hname
  · rw [← kind_setValues hordered]
    exact Entity.value?_singleton _ hr
  · rw [← key_setValues hordered]
    exact Entity.value?_singleton _ hr
  · rw [← name_setValues hordered]
    exact Entity.value?_singleton _ hr
  · rw [← anonymous_setValues hordered]
    exact Entity.value?_singleton _ hr
  -- a longer path goes on from the value of the shorter one
  · have hall := (Reference.form_eq_path_iff.mp hform).2.1
    have hpath : (Reference.ofText (Reference.pathText front)).form = .path front :=
      Reference.form_ofText_pathText hfront fun n hn => hall n (List.mem_append_left _ hn)
    exact ⟨hpath, Entity.value?_append _ hfront (Reference.components_of_form_eq_path hform)
      (Reference.components_of_form_eq_path hpath)⟩
  · rw [hnew]
    exact List.not_mem_nil

/-- Calls with a name that needs escapes, with a removed attribute, and with values that are ignored. -/
def callsForAlice : List (String × AttributeValue) :=
  [("a/b~", .object [("c/", .string "here")]), ("city", .string "Rome"), ("city", .null), ("kind", .string "org"),
    ("kind", .bool true), ("key", .null), ("name", .string "Alice"), ("name", .null), ("anonymous", .string "yes"),
    ("_meta", .bool true)]

/-- What is built of them. -/
def contextOfAlice : Context :=
  .single ⟨⟨"org"⟩, "alice", none, false, [("a/b~", .object [("c/", .string "here")])], []⟩

/-- A name with a slash and a tilde is found as a literal and, escaped, along a path. -/
theorem attributes_as_told_alice :
    ((ContextBuilder.new "alice").setValues callsForAlice).build = .ok contextOfAlice ∧
    contextOfAlice.value? (.literal "a/b~") = some (.object [("c/", .string "here")]) ∧
    contextOfAlice.value? (.ofText "/a~1b~0/c~1") = some (.string "here") ∧
    contextOfAlice.value? (.literal "city") = none ∧
    contextOfAlice.value? (.literal "kind") = some (.string "org") ∧
    contextOfAlice.value? (.ofText "/key") = some (.string "alice") ∧
    contextOfAlice.value? (.literal "name") = none ∧
    contextOfAlice.value? (.ofText "anonymous") = some (.bool false) := by
  have hbuilt : ((ContextBuilder.new "alice").setValues callsForAlice).build = .ok contextOfAlice := rfl
  obtain ⟨hread, hcustom, hkind, hkey, hname, hanonymous, hpath, -⟩ :=
    attributes_as_told (.new "alice") callsForAlice contextOfAlice rfl hbuilt
  have habove := (hpath "/a~1b~0/c~1" ["a/b~"] "c/" (by decide) (by decide)).2
  rw [hcustom "a/b~" (by decide) _ (hread "a/b~" (by decide)).2.2] at habove
  exact ⟨hbuilt, hcustom "a/b~" (by decide) _ (by decide), habove, hcustom "city" (by decide) _ (by decide),
    hkind _ (by decide), hkey _ (by decide), hname _ (by decide), hanonymous _ (by decide)⟩

end FeatureFlags
