import FeatureFlags.Proofs.Entries
import FeatureFlags.Update
import Mathlib.Data.List.DropRight
import Mathlib.Data.List.Pairwise
import Mathlib.Data.List.Perm.Basic

/-!
# What a store converges to

A store that has taken some updates holds under each key the newest of the descriptors that it was offered
since all its data was last replaced.

* `Store.get?_apply`: an update acts on each key by itself, as `Update.revise` says.
* `IsNewest.concat`: to keep the newest descriptor it is enough to compare each new one with the one kept.
* `Update.revise_comm`: upserts that do not offer the same version of the same key commute, so the order in
  which they come does not matter.
-/

namespace FeatureFlags

/-! ## Newest descriptors -/

/-- A descriptor is the newest of some if its version is the greatest of theirs and it is the first that has
it. There is no newest one only if there are none at all. -/
def IsNewest (offered : List Descriptor) : Option Descriptor → Prop
  | none => offered = []
  | some d => ∃ before after, offered = before ++ d :: after ∧
      (∀ e ∈ before, e.version < d.version) ∧ ∀ e ∈ after, e.version ≤ d.version

namespace IsNewest

lemma toList (d : Option Descriptor) : IsNewest d.toList d := by
  cases d with
  | none => rfl
  | some d => exact ⟨[], [], rfl, by simp, by simp⟩

/-- One more descriptor is the newest if its version is greater than that of the newest before it. -/
theorem concat {offered : List Descriptor} {current : Option Descriptor} (h : IsNewest offered current)
    (item : Descriptor) :
    IsNewest (offered ++ [item])
      (if ∀ existing ∈ current, existing.version < item.version then some item else current) := by
  -- an offer is kept if it is the first or newer than what is there, so ties go to the earlier one
  cases current with
  | none =>
    obtain rfl : offered = [] := h
    simpa using toList (some item)
  | some d =>
    obtain ⟨before, after, rfl, hbefore, hafter⟩ := h
    by_cases hnewer : d.version < item.version
    · have hall : ∀ e ∈ before ++ d :: after, e.version < item.version := by
        intro e he
        rcases List.mem_append.mp he with he | he
        · exact (hbefore e he).trans hnewer
        · rcases List.mem_cons.mp he with rfl | he
          · exact hnewer
          · exact (hafter e he).trans_lt hnewer
      rw [if_pos (by simpa using hnewer)]
      exact ⟨before ++ d :: after, [], rfl, hall, fun e he => by cases he⟩
    · rw [if_neg (by simpa using hnewer)]
      refine ⟨before, after ++ [item], by simp, hbefore, ?_⟩
      intro e he
      rcases List.mem_append.mp he with he | he
      · exact hafter e he
      · obtain rfl := List.mem_singleton.mp he
        exact Nat.le_of_not_lt hnewer

end IsNewest

/-! ## Updates of one key -/

namespace Update

/-- Whether an update replaces all data. -/
def isInit : Update → Bool
  | init _ => true
  | upsert .. => false

/-- The descriptors that an update offers for a key. -/
def offers (kind : DataKind) (key : String) : Update → List Descriptor
  | init data => (Entries.get? key (data.items kind)).toList
  | upsert kind' key' item => if kind' = kind ∧ key' = key then [item] else []

/-- The updates since all data was last replaced: the last replacement, if there was one, and the upserts
after it. -/
def sinceInit (updates : List Update) : List Update :=
  (updates.rdropWhile (!·.isInit)).getLast?.toList ++ updates.rtakeWhile (!·.isInit)

/-- The descriptors that were offered for a key since all data was last replaced, in order. -/
def offered (kind : DataKind) (key : String) (updates : List Update) : List Descriptor :=
  (sinceInit updates).flatMap (offers kind key)

/-- What an update makes of the descriptor under a key. -/
def revise (kind : DataKind) (key : String) (current : Option Descriptor) : Update → Option Descriptor
  | init data => Entries.get? key (data.items kind)
  | upsert kind' key' item =>
    if kind' = kind ∧ key' = key ∧ ∀ existing ∈ current, existing.version < item.version then some item
    else current

/-- Two updates offer the same version for the same key. -/
def Clash : Update → Update → Prop
  | upsert kind key item, upsert kind' key' item' =>
    kind = kind' ∧ key = key' ∧ item.version = item'.version
  | _, _ => False

variable {u v : Update} {updates : List Update} (kind : DataKind) (key : String)

/-- An initialization makes everything before it irrelevant. -/
lemma sinceInit_concat_init (updates : List Update) (data : DataSet) :
    sinceInit (updates ++ [init data]) = [init data] := by
  simp [sinceInit, isInit]

lemma sinceInit_concat_upsert (updates : List Update) (kind : DataKind) (key : String)
    (item : Descriptor) :
    sinceInit (updates ++ [upsert kind key item]) = sinceInit updates ++ [upsert kind key item] := by
  simp [sinceInit, isInit]

/-- An upsert replaces the item under its own key if that is older. -/
@[simp]
lemma revise_same (item : Descriptor) (current : Option Descriptor) :
    (upsert kind key item).revise kind key current =
      if ∀ existing ∈ current, existing.version < item.version then some item else current := by
  simp [revise]

/-- An upsert leaves every other key alone. -/
lemma revise_other {kind' : DataKind} {key' : String} (h : ¬(kind' = kind ∧ key' = key))
    (item : Descriptor) (current : Option Descriptor) :
    (upsert kind' key' item).revise kind key current = current := by
  rw [revise, if_neg fun hall => h ⟨hall.1, hall.2.1⟩]

lemma Clash.symm (h : u.Clash v) : v.Clash u := by
  cases u with
  | init data => cases h
  | upsert kind key item =>
    cases v with
    | init data => cases h
    | upsert kind' key' item' => exact ⟨h.1.symm, h.2.1.symm, h.2.2.symm⟩

/-- An update keeps the newest descriptor of those that were offered. -/
lemma isNewest_revise {current : Option Descriptor} (h : IsNewest (offered kind key updates) current)
    (u : Update) : IsNewest (offered kind key (updates ++ [u])) (u.revise kind key current) := by
  cases u with
  | init data =>
    rw [offered, sinceInit_concat_init, List.flatMap_singleton]
    exact .toList _
  | upsert kind' key' item =>
    rw [offered, sinceInit_concat_upsert, List.flatMap_append, List.flatMap_singleton, offers]
    by_cases hsame : kind' = kind ∧ key' = key
    · obtain ⟨rfl, rfl⟩ := hsame
      rw [if_pos ⟨rfl, rfl⟩, revise_same]
      exact h.concat item
    · rw [if_neg hsame, List.append_nil, revise_other kind key hsame]
      exact h

/-- No upsert removes a descriptor or takes a lower version for it. -/
lemma exists_revise_eq_some (h : u.isInit = false) (d : Descriptor) :
    ∃ e, u.revise kind key (some d) = some e ∧ d.version ≤ e.version := by
  cases u with
  | init data => cases h
  | upsert kind' key' item =>
    rw [revise]
    split
    · next hnewer => exact ⟨item, rfl, (hnewer.2.2 d rfl).le⟩
    · exact ⟨d, rfl, le_rfl⟩

/-- Of two versions of a key the greater one stays, in whichever order they come. -/
lemma revise_same_comm {item item' : Descriptor} (h : item.version ≠ item'.version)
    (current : Option Descriptor) :
    (upsert kind key item').revise kind key ((upsert kind key item).revise kind key current) =
      (upsert kind key item).revise kind key ((upsert kind key item').revise kind key current) := by
  -- what is newest wins in either order: one of the two, or what is there already
  cases current with
  | none =>
    rcases Nat.lt_or_gt_of_ne h with hless | hgreater
    · simp [hless, Nat.lt_asymm hless]
    · simp [hgreater, Nat.lt_asymm hgreater]
  | some d =>
    by_cases hitem : d.version < item.version
    · by_cases hitem' : d.version < item'.version
      · rcases Nat.lt_or_gt_of_ne h with hless | hgreater
        · simp [hitem, hitem', hless, Nat.lt_asymm hless]
        · simp [hitem, hitem', hgreater, Nat.lt_asymm hgreater]
      · have hlower : ¬item.version < item'.version := by omega
        simp [hitem, hitem', hlower]
    · by_cases hitem' : d.version < item'.version
      · have hlower : ¬item'.version < item.version := by omega
        simp [hitem, hitem', hlower]
      · simp [hitem, hitem']

/-- Upserts that do not clash commute. -/
theorem revise_comm (hu : u.isInit = false) (hv : v.isInit = false) (h : ¬u.Clash v)
    (current : Option Descriptor) :
    v.revise kind key (u.revise kind key current) = u.revise kind key (v.revise kind key current) := by
  cases u with
  | init data => cases hu
  | upsert kind₁ key₁ item₁ =>
    cases v with
    | init data => cases hv
    | upsert kind₂ key₂ item₂ =>
      by_cases h₁ : kind₁ = kind ∧ key₁ = key
      · by_cases h₂ : kind₂ = kind ∧ key₂ = key
        · obtain ⟨⟨rfl, rfl⟩, rfl, rfl⟩ := And.intro h₁ h₂
          exact revise_same_comm _ _ (fun heq => h ⟨rfl, rfl, heq⟩) current
        · rw [revise_other kind key h₂, revise_other kind key h₂]
      · rw [revise_other kind key h₁, revise_other kind key h₁]

end Update

/-! ## Stores -/

namespace Store

/-- Applies updates one after the other. -/
def applyAll (s : Store) (updates : List Update) : Store := updates.foldl Store.apply s

/-- The store that has taken some updates since it was created. -/
def ofUpdates (updates : List Update) : Store := empty.applyAll updates

/-- Two stores answer all lookups in the same way. -/
def SameContents (s t : Store) : Prop :=
  s.initialized = t.initialized ∧ ∀ kind key, s.get? kind key = t.get? kind key

variable (s : Store) {updates upserts : List Update} (kind : DataKind) (key : String)

/-- The store accepts an item that is newer than the one it holds. -/
lemma accepts_iff (item : Descriptor) :
    s.accepts kind key item = true ↔ ∀ existing ∈ s.get? kind key, existing.version < item.version := by
  rw [accepts]
  cases s.get? kind key <;> simp

lemma upsert_snd (item : Descriptor) : (s.upsert kind key item).2 = s.accepts kind key item := by
  rw [upsert]
  split <;> simp_all

lemma upsert_fst_of_rejected {item : Descriptor} (h : (s.upsert kind key item).2 = false) :
    (s.upsert kind key item).1 = s := by
  rw [upsert_snd] at h
  rw [upsert, h]
  rfl

/-- A store is initialized by its first initialization and stays so. -/
lemma initialized_apply (u : Update) : (s.apply u).initialized = (u.isInit || s.initialized) := by
  cases u with
  | init data => rfl
  | upsert kind key item =>
    rw [apply, upsert]
    split <;> rfl

lemma items_insert (d : DataSet) (kind kind' : DataKind) (key : String) (item : Descriptor) :
    (d.insert kind key item).items kind' =
      if kind = kind' then (d.items kind').insert key item else d.items kind' := by
  cases kind <;> cases kind' <;> rfl

/-- An item that is put under a key is found there, and nothing else changes. -/
theorem get?_insert (kind' : DataKind) (key' : String) (item : Descriptor) :
    ({ s with data := s.data.insert kind' key' item } : Store).get? kind key =
      if kind' = kind ∧ key' = key then some item else s.get? kind key := by
  rw [get?, items_insert]
  by_cases hkind : kind' = kind
  · simp only [hkind, if_true, true_and]
    exact Entries.get?_insert key' key item (s.data.items kind)
  · simp only [hkind, if_false, false_and]
    rfl

/-- An update acts on each key by itself. -/
theorem get?_apply (u : Update) : (s.apply u).get? kind key = u.revise kind key (s.get? kind key) := by
  cases u with
  | init data => rfl
  | upsert kind' key' item =>
    rw [apply, upsert, Update.revise]
    by_cases haccepts : s.accepts kind' key' item = true
    · rw [if_pos haccepts, get?_insert]
      rw [accepts_iff] at haccepts
      by_cases hsame : kind' = kind ∧ key' = key
      · obtain ⟨rfl, rfl⟩ := hsame
        rw [if_pos ⟨rfl, rfl⟩, if_pos ⟨rfl, rfl, haccepts⟩]
      · rw [if_neg hsame, if_neg fun h => hsame ⟨h.1, h.2.1⟩]
    · rw [if_neg haccepts]
      rw [accepts_iff] at haccepts
      rw [if_neg]
      rintro ⟨rfl, rfl, hnewer⟩
      exact haccepts hnewer

/-- What the store holds under one key is a fold of the updates over that key alone. -/
lemma get?_applyAll (updates : List Update) :
    (s.applyAll updates).get? kind key = updates.foldl (Update.revise kind key) (s.get? kind key) := by
  induction updates generalizing s with
  | nil => rfl
  | cons u rest ih =>
    rw [List.foldl_cons, ← get?_apply]
    exact ih (s.apply u)

/-- By induction on the updates from the back: the store holds the newest offer under each key. -/
lemma isNewest_get?_ofUpdates (updates : List Update) :
    IsNewest (Update.offered kind key updates) ((ofUpdates updates).get? kind key) := by
  induction updates using List.reverseRecOn with
  | nil => cases kind <;> rfl
  | append_singleton updates u ih =>
    have hget : (ofUpdates (updates ++ [u])).get? kind key =
        u.revise kind key ((ofUpdates updates).get? kind key) := by
      rw [← get?_apply, ofUpdates, applyAll, List.foldl_append]
      rfl
    rw [hget]
    exact Update.isNewest_revise kind key ih u

/-- Between replacements no key loses its descriptor, and no version decreases. -/
lemma exists_get?_applyAll_eq_some (h : ∀ u ∈ upserts, u.isInit = false) {d : Descriptor}
    (hd : s.get? kind key = some d) :
    ∃ e, (s.applyAll upserts).get? kind key = some e ∧ d.version ≤ e.version := by
  induction upserts generalizing s d with
  | nil => exact ⟨d, hd, le_rfl⟩
  | cons u rest ih =>
    obtain ⟨e, he, hde⟩ := Update.exists_revise_eq_some kind key (h u List.mem_cons_self) d
    have hnext : (s.apply u).get? kind key = some e := by rw [get?_apply, hd, he]
    obtain ⟨e', he', hee'⟩ := ih (s.apply u) (fun v hv => h v (List.mem_cons_of_mem u hv)) hnext
    exact ⟨e', he', hde.trans hee'⟩

/-- Upserts do not initialize a store. -/
lemma initialized_applyAll (h : ∀ u ∈ upserts, u.isInit = false) :
    (s.applyAll upserts).initialized = s.initialized := by
  induction upserts generalizing s with
  | nil => rfl
  | cons u rest ih =>
    have hfirst : (s.apply u).initialized = s.initialized := by
      rw [initialized_apply, h u List.mem_cons_self, Bool.false_or]
    exact (ih (s.apply u) fun v hv => h v (List.mem_cons_of_mem u hv)).trans hfirst

/-- The order of upserts of different versions does not matter. -/
lemma sameContents_applyAll_of_perm {reordered : List Update} (h : ∀ u ∈ upserts, u.isInit = false)
    (hdistinct : upserts.Pairwise fun u v => ¬u.Clash v) (hperm : upserts.Perm reordered) :
    SameContents (s.applyAll upserts) (s.applyAll reordered) := by
  have hreordered : ∀ u ∈ reordered, u.isInit = false := fun u hu => h u (hperm.mem_iff.mpr hu)
  have : Std.Symm fun u v : Update => ¬u.Clash v := ⟨fun u v huv hvu => huv hvu.symm⟩
  refine ⟨by rw [initialized_applyAll s h, initialized_applyAll s hreordered], fun kind key => ?_⟩
  rw [get?_applyAll, get?_applyAll]
  refine hperm.foldl_eq' (fun u hu v hv current => ?_) _
  by_cases heq : u = v
  · rw [heq]
  · exact Update.revise_comm kind key (h u hu) (h v hv) (hdistinct.forall hu hv heq) current

/-- A store that has taken some updates holds under each key the newest of the descriptors offered since
the last replacement. It takes an upsert if its version is greater than that under its key, and otherwise
stays as it is. So the order of the upserts after a replacement does not matter as long as no version of a
key comes twice, and between replacements no key is lost and no version decreases. -/
theorem converges (updates : List Update) :
    (∀ kind key,
      IsNewest (Update.offered kind key updates) ((ofUpdates updates).get? kind key)) ∧
    (∀ kind key item,
      (((ofUpdates updates).upsert kind key item).2 = true ↔
        ∀ existing ∈ (ofUpdates updates).get? kind key, existing.version < item.version) ∧
      (((ofUpdates updates).upsert kind key item).2 = false →
        ((ofUpdates updates).upsert kind key item).1 = ofUpdates updates)) ∧
    (∀ upserts reordered, (∀ u ∈ upserts, u.isInit = false) →
      (upserts.Pairwise fun u v => ¬u.Clash v) → upserts.Perm reordered →
      SameContents (ofUpdates (updates ++ upserts)) (ofUpdates (updates ++ reordered))) ∧
    (∀ upserts, (∀ u ∈ upserts, u.isInit = false) → ∀ kind key d,
      (ofUpdates updates).get? kind key = some d →
      ∃ e, (ofUpdates (updates ++ upserts)).get? kind key = some e ∧ d.version ≤ e.version) := by
  have hafter : ∀ later, ofUpdates (updates ++ later) = (ofUpdates updates).applyAll later :=
    fun later => List.foldl_append
  refine ⟨fun kind key => isNewest_get?_ofUpdates kind key updates,
    fun kind key item => ⟨?_, upsert_fst_of_rejected _ kind key⟩, ?_, ?_⟩
  · rw [upsert_snd, accepts_iff]
  · intro upserts reordered h hdistinct hperm
    rw [hafter, hafter]
    exact sameContents_applyAll_of_perm _ h hdistinct hperm
  · intro upserts h kind key d hd
    rw [hafter]
    exact exists_get?_applyAll_eq_some _ kind key h hd

/-- A flag that was replaced in version 3 and deleted in versions 4 and 5 is deleted in version 5, whichever
deletion comes first. -/
theorem converges_deletions :
    let replaced : List Update := [.init ⟨[("a", ⟨3, none⟩)], []⟩]
    let deletions : List Update := [.upsert .flags "a" (.tombstone 5), .upsert .flags "a" (.tombstone 4)]
    SameContents (ofUpdates (replaced ++ deletions)) (ofUpdates (replaced ++ deletions.reverse)) ∧
      (∃ e, (ofUpdates (replaced ++ deletions)).get? .flags "a" = some e ∧ 3 ≤ e.version) ∧
      (ofUpdates (replaced ++ deletions)).get? .flags "a" = some (.tombstone 5) := by
  intro replaced deletions
  have hupserts : ∀ u ∈ deletions, u.isInit = false := by simp [deletions, Update.isInit]
  have hdistinct : deletions.Pairwise fun u v => ¬u.Clash v := by
    simp [deletions, Update.Clash, Descriptor.tombstone]
  obtain ⟨-, -, hreorder, hgrows⟩ := converges replaced
  exact ⟨hreorder deletions deletions.reverse hupserts hdistinct deletions.reverse_perm.symm,
    hgrows deletions hupserts .flags "a" ⟨3, none⟩ rfl, rfl⟩

end Store
end FeatureFlags
