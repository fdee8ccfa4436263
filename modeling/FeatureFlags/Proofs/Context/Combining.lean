import FeatureFlags.Proofs.Context.Attributes
import FeatureFlags.Proofs.Json.Records
import Mathlib.Data.List.Nodup
import Mathlib.Data.List.Perm.Basic

/-!
# Contexts as sets of kinds

Contexts are combined by collecting their entities, and the entities of a context are a set that is ordered by
kind. So a context is determined by its entities in any order (`Context.combine_eq_ok_iff`): nothing else is known
about the contexts that were combined, neither their order nor which of them were combined before
(`Context.combined_as_set_of_kinds`).

* `Ascending`: entities of different kinds, in the order of their kinds.
* `Context.sortByKind_eq_ok_iff`: sorting gives the ascending permutation, if there is one.
* `Context.exists_sortByKind_iff`: there is one if the kinds are different.
-/

namespace FeatureFlags

/-- The entities are ordered by kind, and no kind comes twice. -/
def Ascending (entities : List Entity) : Prop := entities.Pairwise (·.kind.name < ·.kind.name)

lemma ascending_cons_iff {e : Entity} {entities : List Entity} :
    Ascending (e :: entities) ↔ (∀ m ∈ entities, e.kind.name < m.kind.name) ∧ Ascending entities :=
  List.pairwise_cons

/-- The entities are of different kinds. -/
def OfDifferentKinds (entities : List Entity) : Prop := (entities.map Entity.kind).Nodup

/-- Kinds that ascend are different. -/
lemma Ascending.ofDifferentKinds {entities : List Entity} (h : Ascending entities) :
    OfDifferentKinds entities :=
  List.pairwise_map.mpr (h.imp fun hlt hkind => String.ne_of_lt hlt (congrArg Kind.name hkind))

/-- That kinds are different does not depend on their order. -/
lemma ofDifferentKinds_perm {entities others : List Entity} (h : entities.Perm others) :
    OfDifferentKinds entities ↔ OfDifferentKinds others :=
  (h.map Entity.kind).nodup_iff

/-- There is only one order. -/
lemma Ascending.eq_of_perm {entities others : List Entity} (h : Ascending entities)
    (h' : Ascending others) (hperm : entities.Perm others) : entities = others :=
  hperm.eq_of_pairwise (fun _ _ _ _ hlt hgt => absurd hgt (String.lt_asymm hlt)) h h'

namespace Context

variable {e : Entity} {given members sorted result : List Entity}

/-! ## Sorting by kind -/

/-- An entity is inserted before those of greater kinds. -/
lemma insertByKind_of_lt {m : Entity} (h : e.kind.name < m.kind.name) (rest : List Entity) :
    insertByKind e (m :: rest) = .ok (e :: m :: rest) := by
  rw [insertByKind, if_pos h]

/-- An entity is inserted behind those of smaller kinds. -/
lemma insertByKind_of_gt {m : Entity} (h : m.kind.name < e.kind.name) (rest : List Entity) :
    insertByKind e (m :: rest) = (insertByKind e rest).map (m :: ·) := by
  rw [insertByKind, if_neg (String.lt_asymm h), if_pos h]

/-- An entity is put among the others, in its place. -/
lemma perm_ascending_of_insertByKind (h : Ascending members) (hresult : insertByKind e members = .ok result) :
    result.Perm (e :: members) ∧ Ascending result := by
  induction members generalizing result with
  | nil =>
    cases hresult
    exact ⟨.refl _, List.pairwise_singleton _ e⟩
  | cons m rest ih =>
    obtain ⟨hm, hrest⟩ := ascending_cons_iff.mp h
    -- the entity is put where its kind belongs; two of one kind are refused
    by_cases hless : e.kind.name < m.kind.name
    · rw [insertByKind_of_lt hless] at hresult
      cases hresult
      refine ⟨.refl _, ascending_cons_iff.mpr ⟨?_, h⟩⟩
      exact List.forall_mem_cons.mpr ⟨hless, fun n hn => String.lt_trans hless (hm n hn)⟩
    · by_cases hgreater : m.kind.name < e.kind.name
      · rw [insertByKind_of_gt hgreater] at hresult
        obtain ⟨tail, htail, rfl⟩ := Json.map_eq_ok.mp hresult
        obtain ⟨hperm, hascending⟩ := ih hrest htail
        refine ⟨(hperm.cons m).trans (.swap e m rest), ascending_cons_iff.mpr ⟨fun n hn => ?_, hascending⟩⟩
        rcases List.mem_cons.mp (hperm.mem_iff.mp hn) with rfl | hn
        · exact hgreater
        · exact hm n hn
      · rw [insertByKind, if_neg hless, if_neg hgreater] at hresult
        cases hresult

/-- An entity of a new kind has a place. -/
lemma exists_insertByKind (hnew : e.kind ∉ members.map Entity.kind) :
    ∃ result, insertByKind e members = .ok result := by
  induction members with
  | nil => exact ⟨_, rfl⟩
  | cons m rest ih =>
    rw [List.map_cons, List.mem_cons, not_or] at hnew
    by_cases hless : e.kind.name < m.kind.name
    · exact ⟨_, insertByKind_of_lt hless rest⟩
    · have hgreater : m.kind.name < e.kind.name := by
        by_contra hnot
        have hname := String.le_antisymm (String.not_lt.mp hnot) (String.not_lt.mp hless)
        exact hnew.1 (congrArg Kind.mk hname)
      obtain ⟨tail, htail⟩ := ih hnew.2
      exact ⟨m :: tail, by rw [insertByKind_of_gt hgreater, htail]; rfl⟩

/-- Insertion by kinds, one entity after the other, gives the same entities in order. -/
lemma perm_ascending_of_foldlM (h : Ascending members)
    (hsorted : given.foldlM (fun sorted e => insertByKind e sorted) members = .ok sorted) :
    sorted.Perm (members ++ given) ∧ Ascending sorted := by
  induction given generalizing members with
  | nil =>
    cases hsorted
    rw [List.append_nil]
    exact ⟨.refl _, h⟩
  | cons e rest ih =>
    rw [List.foldlM_cons] at hsorted
    obtain ⟨inserted, hinserted, hrest⟩ := Json.bind_eq_ok.mp hsorted
    obtain ⟨hperm, hascending⟩ := perm_ascending_of_insertByKind h hinserted
    obtain ⟨hperm', hascending'⟩ := ih hascending hrest
    exact ⟨hperm'.trans ((hperm.append_right rest).trans List.perm_middle.symm), hascending'⟩

/-- Entities of different kinds can be inserted one after the other. -/
lemma exists_foldlM (h : Ascending members) (hkinds : OfDifferentKinds (members ++ given)) :
    ∃ sorted, given.foldlM (fun sorted e => insertByKind e sorted) members = .ok sorted := by
  induction given generalizing members with
  | nil => exact ⟨members, rfl⟩
  | cons e rest ih =>
    have hfirst : OfDifferentKinds (e :: (members ++ rest)) :=
      (ofDifferentKinds_perm List.perm_middle).mp hkinds
    have hnew : e.kind ∉ members.map Entity.kind := by
      intro hmem
      rw [OfDifferentKinds, List.map_cons, List.map_append, List.nodup_cons] at hfirst
      exact hfirst.1 (List.mem_append_left _ hmem)
    obtain ⟨inserted, hinserted⟩ := exists_insertByKind hnew
    obtain ⟨hperm, hascending⟩ := perm_ascending_of_insertByKind h hinserted
    obtain ⟨sorted, hsorted⟩ := ih hascending ((ofDifferentKinds_perm (hperm.append_right rest)).mpr hfirst)
    refine ⟨sorted, ?_⟩
    rw [List.foldlM_cons]
    exact Json.bind_eq_ok.mpr ⟨inserted, hinserted, hsorted⟩

/-- Entities can be sorted if their kinds are different. -/
theorem exists_sortByKind_iff : (∃ sorted, sortByKind given = .ok sorted) ↔ OfDifferentKinds given := by
  constructor
  · rintro ⟨sorted, hsorted⟩
    obtain ⟨hperm, hascending⟩ := perm_ascending_of_foldlM .nil hsorted
    exact (ofDifferentKinds_perm hperm).mp hascending.ofDifferentKinds
  · exact exists_foldlM .nil

/-- Sorting finds the one order by kind. -/
theorem sortByKind_eq_ok_iff : sortByKind given = .ok sorted ↔ sorted.Perm given ∧ Ascending sorted := by
  constructor
  · exact perm_ascending_of_foldlM .nil
  · rintro ⟨hperm, hascending⟩
    obtain ⟨other, hother⟩ :=
      exists_sortByKind_iff.mpr ((ofDifferentKinds_perm hperm).mp hascending.ofDifferentKinds)
    obtain ⟨hperm', hascending'⟩ := perm_ascending_of_foldlM .nil hother
    obtain rfl := hascending.eq_of_perm hascending' (hperm.trans hperm'.symm)
    exact hother

/-! ## Combined contexts -/

/-- The form of a context: one entity stands for itself, and several ones are ordered by kind. -/
inductive WellFormed : Context → Prop where
  | single (e : Entity) : WellFormed (.single e)
  | multi {members : List Entity} (several : 2 ≤ members.length) (ascending : Ascending members) :
      WellFormed (.multi members)

variable {contexts : List Context} {c d : Context}

/-- The members of a well-formed context ascend by their kinds. -/
lemma WellFormed.ascending (h : c.WellFormed) : Ascending c.entities := by
  cases h with
  | single e => exact List.pairwise_singleton _ e
  | multi several ascending => exact ascending

/-- A well-formed context has a member. -/
lemma WellFormed.entities_ne_nil (h : c.WellFormed) : c.entities ≠ [] := by
  cases h with
  | single e => exact List.cons_ne_nil e []
  | multi several ascending => exact List.ne_nil_of_length_pos (Nat.zero_lt_of_lt several)

/-- The entities of a well-formed context are all that there is to it. -/
lemma WellFormed.eq_of_entities (hc : c.WellFormed) (hd : d.WellFormed) (h : c.entities = d.entities) :
    c = d := by
  cases hc with
  | single e =>
    cases hd with
    | single e' => rw [List.singleton_inj.mp h]
    | multi several _ =>
      obtain rfl : [e] = _ := h
      exact absurd several (Nat.not_succ_le_self 1)
  | multi several _ =>
    cases hd with
    | single e =>
      obtain rfl : _ = [e] := h
      exact absurd several (Nat.not_succ_le_self 1)
    | multi _ _ => exact congrArg Context.multi h

/-- Sorted entities, if there are any, are those of a context. -/
lemma exists_combine_of_sortByKind (h : sortByKind (contexts.flatMap entities) = .ok sorted)
    (hne : sorted ≠ []) :
    ∃ c : Context, c.WellFormed ∧ c.entities = sorted ∧ combine contexts = .ok c := by
  obtain ⟨-, hascending⟩ := sortByKind_eq_ok_iff.mp h
  unfold combine
  rw [h]
  match sorted, hne with
  | [e], _ => exact ⟨.single e, .single e, rfl, rfl⟩
  | e :: m :: rest, _ =>
    exact ⟨.multi (e :: m :: rest), .multi (Nat.le_add_left 2 rest.length) hascending, rfl, rfl⟩

/-- Combining contexts makes the one well-formed context that has all of their entities. -/
theorem combine_eq_ok_iff :
    combine contexts = .ok c ↔ c.WellFormed ∧ c.entities.Perm (contexts.flatMap entities) := by
  constructor
  · intro h
    -- sorting by kind fails if a kind comes twice, and otherwise it permutes
    cases hsorted : sortByKind (contexts.flatMap entities) with
    | error e =>
      rw [combine, hsorted] at h
      cases h
    | ok sorted =>
      have hne : sorted ≠ [] := by
        rintro rfl
        rw [combine, hsorted] at h
        cases h
      obtain ⟨c', hc', rfl, hcombined⟩ := exists_combine_of_sortByKind hsorted hne
      rw [hcombined] at h
      cases h
      exact ⟨hc', (sortByKind_eq_ok_iff.mp hsorted).1⟩
  · rintro ⟨hc, hperm⟩
    have hsorted := sortByKind_eq_ok_iff.mpr ⟨hperm, hc.ascending⟩
    obtain ⟨c', hc', hentities, hcombined⟩ := exists_combine_of_sortByKind hsorted hc.entities_ne_nil
    rw [hcombined, hc'.eq_of_entities hc hentities]

/-- Contexts can be combined if there are any entities and their kinds are different. -/
lemma exists_combine_iff :
    (∃ c, combine contexts = .ok c) ↔
      contexts.flatMap entities ≠ [] ∧ OfDifferentKinds (contexts.flatMap entities) := by
  constructor
  · rintro ⟨c, h⟩
    obtain ⟨hc, hperm⟩ := combine_eq_ok_iff.mp h
    exact ⟨fun hnil => hc.entities_ne_nil (hnil ▸ hperm).eq_nil,
      (ofDifferentKinds_perm hperm).mp hc.ascending.ofDifferentKinds⟩
  · rintro ⟨hne, hkinds⟩
    obtain ⟨sorted, hsorted⟩ := exists_sortByKind_iff.mpr hkinds
    have hperm := (sortByKind_eq_ok_iff.mp hsorted).1
    obtain ⟨c, -, -, h⟩ := exists_combine_of_sortByKind hsorted fun hnil => hne (hnil ▸ hperm).symm.eq_nil
    exact ⟨c, h⟩

/-- What is made of contexts depends on their entities only, whatever their order. -/
lemma toOption_combine_of_perm {others : List Context}
    (h : (others.flatMap entities).Perm (contexts.flatMap entities)) :
    (combine others).toOption = (combine contexts).toOption := by
  refine Option.ext fun c => ?_
  rw [Json.toOption_eq_some, Json.toOption_eq_some, combine_eq_ok_iff, combine_eq_ok_iff]
  exact and_congr_right fun _ => ⟨(·.trans h), (·.trans h.symm)⟩

/-! ## Built contexts -/

/-- A context that was described as one entity, or combined from other built contexts. -/
inductive Built : Context → Prop where
  | single {b : ContextBuilder} {c : Context} (built : b.build = .ok c) : Built c
  | combined {parts : List Context} {c : Context} (built : ∀ part ∈ parts, Built part)
      (combined : combine parts = .ok c) : Built c

/-- The entities of a built context were described one by one. -/
lemma Built.exists_builder (h : c.Built) :
    ∀ e ∈ c.entities, ∃ b : ContextBuilder, b.build = .ok (.single e) := by
  induction h with
  | @single b c built =>
    intro e he
    obtain ⟨e', hentity, rfl⟩ := Json.map_eq_ok.mp built
    obtain rfl := List.mem_singleton.mp he
    exact ⟨b, built⟩
  | combined built combined ih =>
    intro e he
    obtain ⟨part, hpart, he⟩ := List.mem_flatMap.mp ((combine_eq_ok_iff.mp combined).2.mem_iff.mp he)
    exact ih part hpart e he

/-- An entity that is described is not of the kind that contexts of several kinds show. -/
lemma kind_ne_multi_of_build {b : ContextBuilder} (h : b.build = .ok (.single e)) : e.kind ≠ .multi := by
  obtain ⟨e', hentity, heq⟩ := Json.map_eq_ok.mp h
  cases heq
  obtain ⟨hkind, -, rfl⟩ := ContextBuilder.buildEntity_eq_ok_iff.mp hentity
  exact fun hmulti => (Kind.ofName_eq_ok_iff.mp hkind).2.2.2.1 (congrArg Kind.name hmulti)

/-- The entity of a kind is found, wherever it is. -/
lemma entity?_eq_some_iff (h : OfDifferentKinds c.entities) {kind : Kind} :
    c.entity? kind = some e ↔ e ∈ c.entities ∧ e.kind = kind := by
  constructor
  · intro hfound
    exact ⟨List.mem_of_find?_eq_some hfound, kind_of_entity? hfound⟩
  · rintro ⟨he, rfl⟩
    have hsome : (c.entities.find? (·.kind == e.kind)).isSome :=
      List.find?_isSome.mpr ⟨e, he, beq_self_eq_true e.kind⟩
    obtain ⟨e', hfound⟩ := Option.isSome_iff_exists.mp hsome
    have hkind : e'.kind = e.kind := kind_of_entity? hfound
    obtain rfl := List.inj_on_of_nodup_map h (List.mem_of_find?_eq_some hfound) he hkind
    exact hfound

/-- Contexts are combined as sets of kinds:
* they can be combined if they have any entities, and these are of different kinds;
* one entity stands for itself, and several ones are members in the order of their kinds, each of which is a
  context that can be built on its own if the contexts are; and for each kind the entity of this kind is found;
* the order of the contexts does not matter;
* nor does it matter if some of them are combined before. -/
theorem combined_as_set_of_kinds (contexts : List Context) :
    ((∃ c, combine contexts = .ok c) ↔
      contexts.flatMap entities ≠ [] ∧ ((contexts.flatMap entities).map Entity.kind).Nodup) ∧
    (∀ c, combine contexts = .ok c →
      ((∃ e, contexts.flatMap entities = [e] ∧ c = .single e) ∨
        ∃ members, c = .multi members ∧ 2 ≤ members.length ∧
          members.Pairwise (·.kind.name < ·.kind.name) ∧ members.Perm (contexts.flatMap entities)) ∧
      ((∀ part ∈ contexts, part.Built) → c.Built ∧
        ∀ e ∈ c.entities, (∃ b : ContextBuilder, b.build = .ok (.single e)) ∧ e.kind ≠ .multi) ∧
      ∀ kind e, c.entity? kind = some e ↔ e ∈ contexts.flatMap entities ∧ e.kind = kind) ∧
    (∀ others : List Context, others.Perm contexts →
      (combine others).toOption = (combine contexts).toOption) ∧
    ∀ part rest c, contexts.Perm (part ++ rest) → combine part = .ok c →
      ∀ others : List Context, others.Perm (c :: rest) →
        (combine others).toOption = (combine contexts).toOption := by
  refine ⟨exists_combine_iff, fun c hcombined => ⟨?_, fun hbuilt => ?_, fun kind e => ?_⟩, fun others hperm => ?_,
    fun part rest c hparts hcombined others hothers => ?_⟩
  -- what is combined is well formed, and a single entity is not put into a list
  · obtain ⟨hc, hperm⟩ := combine_eq_ok_iff.mp hcombined
    cases hc with
    | single e => exact .inl ⟨e, List.perm_singleton.mp hperm.symm, rfl⟩
    | multi several ascending => exact .inr ⟨_, rfl, several, ascending, hperm⟩
  · have hc : c.Built := .combined hbuilt hcombined
    refine ⟨hc, fun e he => ?_⟩
    obtain ⟨b, hb⟩ := hc.exists_builder e he
    exact ⟨⟨b, hb⟩, kind_ne_multi_of_build hb⟩
  · obtain ⟨hc, hperm⟩ := combine_eq_ok_iff.mp hcombined
    rw [entity?_eq_some_iff hc.ascending.ofDifferentKinds, hperm.mem_iff]
  · exact toOption_combine_of_perm (hperm.flatMap_right entities)
  -- a part that was combined stands for its entities
  · have hpart := (combine_eq_ok_iff.mp hcombined).2.append_right (rest.flatMap entities)
    rw [← List.flatMap_append] at hpart
    exact toOption_combine_of_perm
      ((hothers.flatMap_right entities).trans (hpart.trans (hparts.symm.flatMap_right entities)))

/-- An entity with a key and nothing else. -/
def keyed (kind key : String) : Entity := ⟨⟨kind⟩, key, none, false, [], []⟩

/-- An entity with a valid kind and a key can be built. -/
lemma built_keyed {kind key : String} (h : Kind.ofName kind = .ok ⟨kind⟩) (hkey : key ≠ "") :
    (single (keyed kind key)).Built := by
  have hentity : ContextBuilder.buildEntity ⟨kind, key, none, false, [], []⟩ = .ok (keyed kind key) :=
    ContextBuilder.buildEntity_eq_ok_iff.mpr ⟨h, hkey, rfl⟩
  exact .single (Json.map_eq_ok.mpr ⟨_, hentity, rfl⟩)

/-- A user, an organisation and a device, of which two may be combined before. -/
theorem combined_as_set_of_kinds_three :
    combine [single (keyed "user" "u"), single (keyed "org" "o"), single (keyed "device" "d")] =
      .ok (.multi [keyed "device" "d", keyed "org" "o", keyed "user" "u"]) ∧
    (multi [keyed "device" "d", keyed "org" "o", keyed "user" "u"]).Built ∧
    (multi [keyed "device" "d", keyed "org" "o", keyed "user" "u"]).entity? ⟨"org"⟩ = some (keyed "org" "o") ∧
    (combine [multi [keyed "device" "d", keyed "user" "u"], single (keyed "org" "o")]).toOption =
      some (.multi [keyed "device" "d", keyed "org" "o", keyed "user" "u"]) := by
  have hcombined : combine [single (keyed "user" "u"), single (keyed "org" "o"), single (keyed "device" "d")] =
      .ok (.multi [keyed "device" "d", keyed "org" "o", keyed "user" "u"]) := rfl
  obtain ⟨-, hresult, -, hnested⟩ :=
    combined_as_set_of_kinds [single (keyed "user" "u"), single (keyed "org" "o"), single (keyed "device" "d")]
  obtain ⟨-, hbuilt, hfound⟩ := hresult _ hcombined
  refine ⟨hcombined, (hbuilt ?_).1, (hfound _ _).mpr ⟨?_, rfl⟩, ?_⟩
  · simp only [List.forall_mem_cons, List.not_mem_nil, false_imp_iff, implies_true, and_true]
    exact ⟨built_keyed rfl (by decide), built_keyed rfl (by decide), built_keyed rfl (by decide)⟩
  · exact List.mem_of_getElem? (i := 1) rfl
  · rw [hnested [single (keyed "device" "d"), single (keyed "user" "u")] [single (keyed "org" "o")] _ ?_ rfl _
      (.refl _), hcombined]
    · rfl
    · exact (List.reverse_perm _).symm.trans (.cons _ (.swap _ _ _))

end Context
end FeatureFlags
