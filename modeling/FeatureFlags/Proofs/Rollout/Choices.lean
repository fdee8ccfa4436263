import FeatureFlags.Rollout
import Mathlib.Tactic.SplitIfs

/-!
# Choices of rollouts

A rollout goes by one number, the hash number of the context: what it chooses is the weighted variation picked
for the bucket of this number (`Rollout.choose_of_valid`), and the only failure is a reference that is invalid
(`Rollout.choose_of_error`).

An experiment hashes nothing but the key of an entity. So it cannot tell contexts apart that have entities of
the same key, and the attribute that it names for plain rollouts is not even looked at
(`experiments_by_key_alone`).
-/

namespace FeatureFlags

/-! ## Hash numbers of contexts -/

/-- The hash number of an identity under a prefix. -/
def hashOf (hashPrefix : BucketPrefix) (identity : String) : Nat :=
  hashNumber (Digest.Sha1.hash (Text.Utf8.encode (hashPrefix.text ++ "." ++ identity)))

namespace Context

variable {context : Context} {kind : Kind} {reference : Reference}

/-- The text by which the entity of a kind is hashed. There is none if the context has no such entity, or the
attribute of the entity cannot be bucketed. -/
def identity? (context : Context) (reference : Reference) (kind : Kind) : Option String :=
  (context.entity? kind).bind fun e => (e.value? reference).bind (·.bucketable?)

/-- The hash number by which a context is placed. A context without an identity is placed as if it were 0. -/
def hashFor (context : Context) (reference : Reference) (hashPrefix : BucketPrefix) (kind : Kind) : Nat :=
  ((context.identity? reference kind).map (hashOf hashPrefix)).getD 0

/-- The reference by which contexts are placed. -/
def bucketReference (bucketBy : Option Reference) (experiment : Bool) : Reference :=
  if experiment then .ofText "key" else bucketBy.getD (.ofText "key")

lemma bucketOfHash_zero : bucketOfHash 0 = .zero := by decide +kernel

lemma bucket_of_error {bucketBy : Option Reference} {experiment : Bool} {e : ReferenceError}
    (h : (bucketReference bucketBy experiment).error? = some e) (context : Context)
    (hashPrefix : BucketPrefix) (kind : Kind) :
    context.bucket bucketBy hashPrefix experiment kind = .error e := by
  unfold bucket
  unfold bucketReference at h
  dsimp only
  rw [h]

lemma bucket_of_valid {bucketBy : Option Reference} {experiment : Bool}
    (h : (bucketReference bucketBy experiment).error? = none) (context : Context)
    (hashPrefix : BucketPrefix) (kind : Kind) :
    context.bucket bucketBy hashPrefix experiment kind =
      .ok ⟨bucketOfHash (context.hashFor (bucketReference bucketBy experiment) hashPrefix kind),
        (context.entity? kind).isNone⟩ := by
  -- a missing entity and a value that cannot be bucketed both count as the hash number zero
  unfold bucket hashFor identity?
  unfold bucketReference at h ⊢
  dsimp only
  rw [h]
  cases context.entity? kind with
  | none =>
    show Except.ok _ = Except.ok _
    rw [← bucketOfHash_zero]
    rfl
  | some e =>
    dsimp only [Option.bind_some]
    generalize (e.value? _).bind (·.bucketable?) = identity
    cases identity with
    | none =>
      show Except.ok _ = Except.ok _
      rw [← bucketOfHash_zero]
      rfl
    | some identity => rfl

/-- By its key an entity can always be hashed. -/
lemma identity?_key : context.identity? (.ofText "key") kind = (context.entity? kind).map (·.key) := by
  unfold identity?
  cases context.entity? kind with
  | none => rfl
  | some e => rfl

/-- Bucketing by key looks at nothing of an entity but its key. -/
lemma hashFor_key_congr {other : Context} (hashPrefix : BucketPrefix)
    (h : (other.entity? kind).map (·.key) = (context.entity? kind).map (·.key)) :
    other.hashFor (.ofText "key") hashPrefix kind = context.hashFor (.ofText "key") hashPrefix kind := by
  rw [hashFor, hashFor, identity?_key, identity?_key, h]

end Context

/-! ## Picked variations -/

lemma mem_of_pickBelow {bucket sum : Single} {variations : List WeightedVariation} {v : WeightedVariation}
    (h : pickBelow bucket sum variations = some v) : v ∈ variations := by
  induction variations generalizing sum with
  | nil => cases h
  | cons u rest ih =>
    unfold pickBelow at h
    dsimp only at h
    split_ifs at h
    · cases h
      exact List.mem_cons_self
    · exact List.mem_cons_of_mem u (ih h)

lemma mem_of_pick {bucket : Single} {variations : List WeightedVariation} {v : WeightedVariation}
    (h : pick bucket variations = some v) : v ∈ variations := by
  unfold pick at h
  rcases Option.or_eq_some_iff.mp h with hbelow | ⟨-, hlast⟩
  · exact mem_of_pickBelow hbelow
  · exact List.mem_of_getLast? hlast

/-- Only an empty list leaves nothing to pick, since the last variation takes what is left over. -/
lemma pick_eq_none_iff {bucket : Single} {variations : List WeightedVariation} :
    pick bucket variations = none ↔ variations = [] := by
  unfold pick
  rw [Option.or_eq_none_iff, List.getLast?_eq_none_iff]
  constructor
  · exact And.right
  · rintro rfl
    exact ⟨rfl, rfl⟩

/-! ## Choices -/

namespace Rollout

variable {r : Rollout}

/-- The kind of the entities that are placed. -/
def kind (r : Rollout) : Kind := r.contextKind.getD .user

/-- The reference by which contexts are placed. -/
def reference (r : Rollout) : Reference := Context.bucketReference r.bucketBy r.experiment

/-- The hash number by which a context is placed. -/
def hashFor (r : Rollout) (key : String) (context : Context) (salt : String) : Nat :=
  context.hashFor r.reference (r.hashPrefix key salt) r.kind

/-- The weighted variation for a context. -/
def selected? (r : Rollout) (key : String) (context : Context) (salt : String) : Option WeightedVariation :=
  pick (bucketOfHash (r.hashFor key context salt)) r.variations

/-- Whether the rollout is an experiment that observes the context. -/
def observes (r : Rollout) (context : Context) : Bool :=
  r.experiment && (context.entity? r.kind).isSome

theorem choose_of_error {e : ReferenceError} (h : r.reference.error? = some e) (key : String)
    (context : Context) (salt : String) : r.choose key context salt = .error e := by
  unfold choose
  dsimp only
  rw [Context.bucket_of_error h]
  rfl

theorem choose_of_valid (h : r.reference.error? = none) (key : String) (context : Context) (salt : String) :
    r.choose key context salt =
      .ok ((r.selected? key context salt).map (·.choice (r.observes context))) := by
  unfold choose
  dsimp only
  rw [Context.bucket_of_valid h]
  show Except.ok _ = _
  rw [Option.not_isNone]
  rfl

/-- What was picked for the bucket of the context is chosen. -/
lemma choose_of_pick (hvalid : r.reference.error? = none) {key salt : String} {context : Context}
    {v : WeightedVariation} (h : pick (bucketOfHash (r.hashFor key context salt)) r.variations = some v) :
    r.choose key context salt = .ok (some (v.choice (r.observes context))) := by
  rw [choose_of_valid hvalid, selected?, h]
  rfl

/-- Only a plain rollout can have an invalid reference. -/
lemma error?_reference {e : ReferenceError} :
    r.reference.error? = some e ↔
      r.experiment = false ∧ ∃ b, r.bucketBy = some b ∧ b.error? = some e := by
  have hkey : (Reference.ofText "key").error? = none := rfl
  unfold reference Context.bucketReference
  cases r.experiment with
  | true => simp [hkey]
  | false => cases hby : r.bucketBy <;> simp [hkey]

/-- A rollout fails for its reference and for nothing else. -/
lemma choose_eq_error_iff {key salt : String} {context : Context} {e : ReferenceError} :
    r.choose key context salt = .error e ↔ r.reference.error? = some e := by
  cases hvalid : r.reference.error? with
  | none =>
    rw [choose_of_valid hvalid]
    exact ⟨nofun, nofun⟩
  | some e' =>
    rw [choose_of_error hvalid, Except.error.injEq, Option.some.injEq]

/-- A rollout serves nothing exactly when it has no variations. -/
lemma choose_eq_none_iff {key salt : String} {context : Context} :
    r.choose key context salt = .ok none ↔ r.reference.error? = none ∧ r.variations = [] := by
  cases hvalid : r.reference.error? with
  | none =>
    rw [choose_of_valid hvalid, Except.ok.injEq, Option.map_eq_none_iff, selected?, pick_eq_none_iff]
    exact (and_iff_right rfl).symm
  | some e =>
    rw [choose_of_error hvalid]
    exact ⟨nofun, nofun⟩

/-- A choice is made of the entry that was picked. -/
lemma exists_entry_of_choose {key salt : String} {context : Context} {choice : Choice}
    (h : r.choose key context salt = .ok (some choice)) :
    ∃ v ∈ r.variations, r.selected? key context salt = some v ∧ choice = v.choice (r.observes context) := by
  cases hvalid : r.reference.error? with
  | none =>
    rw [choose_of_valid hvalid] at h
    obtain ⟨v, hselected, hchoice⟩ := Option.map_eq_some_iff.mp (Except.ok.inj h)
    exact ⟨v, mem_of_pick hselected, hselected, hchoice.symm⟩
  | some e =>
    rw [choose_of_error hvalid] at h
    cases h

/-- Experiments bucket by key whatever the rollout names. -/
lemma reference_of_experiment (h : r.experiment = true) : r.reference = .ofText "key" := by
  rw [reference, h]
  rfl

/-- An experiment places contexts by the keys of their entities. -/
lemma choose_congr (hexperiment : r.experiment = true) (bucketBy : Option Reference) {context other : Context}
    {key key' salt salt' : String} (hsalted : r.hashPrefix key' salt' = r.hashPrefix key salt)
    (h : (other.entity? r.kind).map (·.key) = (context.entity? r.kind).map (·.key)) :
    { r with bucketBy }.choose key' other salt' = r.choose key context salt := by
  -- an experiment reads neither its reference nor anything of the entity but the key
  have hreference := reference_of_experiment hexperiment
  have hreference' : { r with bucketBy }.reference = .ofText "key" := reference_of_experiment hexperiment
  have hsalted' : { r with bucketBy }.hashPrefix key' salt' = r.hashPrefix key salt := hsalted
  have hselected : { r with bucketBy }.selected? key' other salt' = r.selected? key context salt := by
    rw [selected?, selected?, hashFor, hashFor, hreference, hreference', hsalted']
    exact congrArg (fun hash => pick (bucketOfHash hash) r.variations) (Context.hashFor_key_congr _ h)
  have hobserves : { r with bucketBy }.observes other = r.observes context := by
    have hsome := congrArg Option.isSome h
    rw [Option.isSome_map, Option.isSome_map] at hsome
    exact congrArg (r.experiment && ·) hsome
  have hvalid : r.reference.error? = none := by
    rw [hreference]
    rfl
  have hvalid' : { r with bucketBy }.reference.error? = none := by
    rw [hreference']
    rfl
  rw [choose_of_valid hvalid, choose_of_valid hvalid', hselected, hobserves]

end Rollout

/-- An experiment makes the same choice for contexts that both have an entity of its kind, with the same key,
or both have none, whatever else is in them and whatever attribute it names; if it has a seed, for all keys
and salts. A choice is that of a listed entry, the one for the hash number of the context, and it is part of an
experiment exactly if the rollout is one, the context has an entity of its kind, and the entry is tracked. A
rollout fails exactly if it is plain and names an invalid attribute. Otherwise it chooses nothing exactly if it
lists nothing. -/
theorem experiments_by_key_alone (r : Rollout) (key : String) (context : Context) (salt : String) :
    (r.experiment = true →
      ∀ (bucketBy : Option Reference) (other : Context) (key' salt' : String),
        (other.entity? r.kind).map (·.key) = (context.entity? r.kind).map (·.key) →
        (r.seed = none → key' = key ∧ salt' = salt) →
          { r with bucketBy }.choose key' other salt' = r.choose key context salt) ∧
    (∀ choice, r.choose key context salt = .ok (some choice) →
      ∃ v ∈ r.variations, r.selected? key context salt = some v ∧ choice.variation = v.variation ∧
        (choice.inExperiment = true ↔
          r.experiment = true ∧ (∃ e, context.entity? r.kind = some e) ∧ v.untracked = false)) ∧
    (∀ e, r.choose key context salt = .error e ↔
      r.experiment = false ∧ ∃ b, r.bucketBy = some b ∧ b.error? = some e) ∧
    (r.choose key context salt = .ok none ↔
      (r.experiment = true ∨ ∀ b, r.bucketBy = some b → b.error? = none) ∧ r.variations = []) := by
  refine ⟨fun hexperiment bucketBy other key' salt' hkeys hseed => ?_, fun choice hchoice => ?_,
    fun e => ?_, ?_⟩
  -- without a seed the prefix is made of the key and the salt
  · refine Rollout.choose_congr hexperiment bucketBy ?_ hkeys
    unfold Rollout.hashPrefix
    cases hnone : r.seed with
    | none =>
      obtain ⟨rfl, rfl⟩ := hseed hnone
      rfl
    | some seed => rfl
  · obtain ⟨v, hmem, hselected, rfl⟩ := Rollout.exists_entry_of_choose hchoice
    refine ⟨v, hmem, hselected, rfl, ?_⟩
    simp [WeightedVariation.choice, Rollout.observes, Option.isSome_iff_exists, and_assoc]
  · rw [Rollout.choose_eq_error_iff, Rollout.error?_reference]
  -- experiments have a valid reference, and others the one they name
  · have hvalid : r.reference.error? = none ↔
        r.experiment = true ∨ ∀ b, r.bucketBy = some b → b.error? = none := by
      rw [Option.eq_none_iff_forall_ne_some]
      simp only [ne_eq, Rollout.error?_reference]
      cases r.experiment with
      | true => simp
      | false => cases r.bucketBy <;> simp [Option.eq_none_iff_forall_ne_some]
    rw [Rollout.choose_eq_none_iff, hvalid]

/-! ## A user on another device -/

/-- An experiment with a seed, whose last part is not tracked. -/
def Rollout.trial (bucketBy : Option Reference) : Rollout :=
  ⟨true, none, bucketBy, [⟨0, .ofNat 10000, false⟩, ⟨1, .ofNat 20000, false⟩, ⟨0, .ofNat 70000, true⟩],
    some 61⟩

/-- A user of this key and name. -/
def Context.named (key name : String) : Context := .single ⟨.user, key, some name, false, [], []⟩

/-- A device with an anonymous user of this key. -/
def Context.shared (key : String) : Context :=
  .multi [⟨⟨"device"⟩, "tablet", none, false, [], []⟩,
    ⟨.user, key, none, true, [("plan", .string "gold")], []⟩]

/-- On another device a user gets the same choice in another flag, although the experiment names an attribute
that would make a plain rollout fail. Another user falls into the part that is not tracked. -/
theorem experiments_by_key_alone_shared :
    let trial := Rollout.trial (some (.ofText "//"))
    trial.choose "other" (.shared "userKeyA") "pepper" = .ok (some ⟨0, true⟩) ∧
    (∃ v ∈ trial.variations, v.untracked = true ∧
      trial.choose "flag" (.named "userKeyC" "Carl") "salt" = .ok (some ⟨v.variation, false⟩)) ∧
    { trial with experiment := false }.choose "flag" (.named "userKeyA" "Anna") "salt" =
      .error .emptyComponent := by
  intro trial
  have hchoice {key : String} {choice : Choice}
      (h : (((Rollout.trial none).selected? "flag" (.named key "Anna") "salt").map (·.choice true)) =
        some choice) :
      (Rollout.trial none).choose "flag" (.named key "Anna") "salt" = .ok (some choice) :=
    (Rollout.choose_of_valid rfl _ _ _).trans (congrArg Except.ok h)
  -- the first two trials are the same but for the reference, which an experiment does not read
  refine ⟨?_, ?_, ?_⟩
  · obtain ⟨hsame, -⟩ := experiments_by_key_alone (.trial none) "flag" (.named "userKeyA" "Anna") "salt"
    have hshared := hsame rfl (some (.ofText "//")) (.shared "userKeyA") "other" "pepper" rfl nofun
    exact hshared.trans (hchoice (by decide +kernel))
  · have hcarl : trial.choose "flag" (.named "userKeyC" "Carl") "salt" = .ok (some ⟨0, false⟩) :=
      (Rollout.choose_congr rfl _ rfl rfl).trans (hchoice (by decide +kernel))
    obtain ⟨-, hlisted, -⟩ := experiments_by_key_alone trial "flag" (.named "userKeyC" "Carl") "salt"
    obtain ⟨v, hmem, -, hvariation, htracked⟩ := hlisted _ hcarl
    refine ⟨v, hmem, ?_, hcarl.trans (by rw [← hvariation])⟩
    refine Bool.of_not_eq_false fun huntracked => ?_
    cases htracked.mpr ⟨rfl, ⟨_, rfl⟩, huntracked⟩
  · obtain ⟨-, -, hfailing, -⟩ := experiments_by_key_alone { trial with experiment := false } "flag"
      (.named "userKeyA" "Anna") "salt"
    exact (hfailing .emptyComponent).mpr ⟨rfl, .ofText "//", rfl, rfl⟩

end FeatureFlags
