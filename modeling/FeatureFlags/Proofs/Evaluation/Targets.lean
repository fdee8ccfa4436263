import FeatureFlags.Proofs.Evaluation.Nesting
import Mathlib.Data.List.Nodup

/-!
# Two lists of targets

A flag has an older list of targets and a list of targets by kind. In the latter, an entry of kind `user` without
keys is a *placeholder*: it marks where the older targets of its variation are checked. A flag that has only older
targets can be given one placeholder for each of them (`target_lists_agree`). Older targets are meant for users, but
one that names another kind is matched as well, and then entries in between may interfere
(`inserted_placeholder_reorders`).

* `Target.Interspersed`: entries in their order, between others for kinds that the context does not have.
* `Target.Marks`: placeholders for older targets, in their order, between entries that list nobody.
* `Flag.targetVariation?_of_marks`, `Flag.targetVariation?_withOlder`: what the entries find, and which of the
  older targets they look at.
* `Flag.run_withTargets`: an evaluation depends on the targets only by the variation that they give.
-/

namespace FeatureFlags

/-! ## Lists -/

/-- Only the members of a list matter for what is found in it. -/
lemma findSome?_congr {α β : Type} {f g : α → Option β} {l : List α} (h : ∀ a ∈ l, f a = g a) :
    l.findSome? f = l.findSome? g := by
  induction l with
  | nil => rfl
  | cons a l ih =>
    rw [List.forall_mem_cons] at h
    rw [List.findSome?_cons, List.findSome?_cons, h.1, ih h.2]

/-- Without repetitions the member with some value is the only one. -/
lemma filter_eq_singleton {α β : Type} [DecidableEq β] {f : α → β} {l : List α} (hnodup : (l.map f).Nodup)
    {a : α} (h : a ∈ l) : l.filter (f · == f a) = [a] := by
  induction l with
  | nil => cases h
  | cons b l ih =>
    rw [List.map_cons, List.nodup_cons] at hnodup
    rcases List.mem_cons.mp h with rfl | h
    · have hrest : l.filter (f · == f a) = [] := by
        refine List.filter_eq_nil_iff.mpr fun c hc heq => hnodup.1 ?_
        rw [← eq_of_beq heq]
        exact List.mem_map_of_mem hc
      rw [List.filter_cons, if_pos (beq_self_eq_true (f a)), hrest]
    · have hne : ¬(f b == f a) = true := fun heq => hnodup.1 (eq_of_beq heq ▸ List.mem_map_of_mem h)
      rw [List.filter_cons, if_neg hne, ih hnodup.2 h]

/-! ## Placeholders -/

namespace Target

/-- Whether the entry stands for the older targets of its variation. -/
def isPlaceholder (t : Target) : Bool := t.contextKind.isUser && t.values.isEmpty

/-- The placeholder for a target. -/
def placeholder (t : Target) : Target := ⟨.user, [], t.variation⟩

lemma isPlaceholder_placeholder (t : Target) : t.placeholder.isPlaceholder = true := rfl

/-- A target is for nobody if the context has no member of its kind. -/
lemma variationFor?_of_absent {t : Target} {context : Context} (h : context.entity? t.contextKind = none) :
    t.variationFor? context = none := by
  rw [variationFor?, h]

/-- One placeholder for each of some targets, in their order, and between them entries for kinds that the context
does not have. If such an entry is a placeholder as well, it stands for no target that lists the context. -/
inductive Marks (context : Context) (older : List Target) : List Target → List Target → Prop where
  | nil : Marks context older [] []
  | placeholder (t : Target) {targets entries : List Target} (rest : Marks context older targets entries) :
      Marks context older (t :: targets) (t.placeholder :: entries)
  | inserted (t : Target) {targets entries : List Target} (absent : context.entity? t.contextKind = none)
      (inert : t.isPlaceholder = true →
        ∀ o ∈ older, o.variation = t.variation → o.variationFor? context = none)
      (rest : Marks context older targets entries) : Marks context older targets (t :: entries)

/-- Some entries in their order, and between them any others for kinds that the context does not have. -/
inductive Interspersed (context : Context) : List Target → List Target → Prop where
  | nil : Interspersed context [] []
  | kept (t : Target) {own entries : List Target} (rest : Interspersed context own entries) :
      Interspersed context (t :: own) (t :: entries)
  | inserted (t : Target) {own entries : List Target} (absent : context.entity? t.contextKind = none)
      (rest : Interspersed context own entries) : Interspersed context own (t :: entries)

/-- Where the older targets are for users, whatever is put in between stands for none of them that lists the
context: a placeholder could be put in only if the context has no user. -/
lemma marks_of_interspersed {context : Context} {older targets entries : List Target}
    (husers : ∀ o ∈ older, o.contextKind = .user)
    (h : Interspersed context (targets.map placeholder) entries) : Marks context older targets entries := by
  generalize hplaceholders : targets.map placeholder = placeholders at h
  induction h generalizing targets with
  | nil =>
    rw [List.map_eq_nil_iff.mp hplaceholders]
    exact .nil
  | kept t rest ih =>
    obtain ⟨target, others, rfl, rfl, hothers⟩ := List.map_eq_cons_iff.mp hplaceholders
    exact .placeholder target (ih hothers)
  | inserted t absent rest ih =>
    refine .inserted t absent (fun hplaceholder o ho _ => variationFor?_of_absent ?_) (ih hplaceholders)
    have huser : t.contextKind = .user := eq_of_beq (Bool.and_eq_true_iff.mp hplaceholder).1
    rw [husers o ho, ← huser]
    exact absent

/-- Whether one of the entries is a placeholder for this target. -/
def isMarkedBy (t : Target) (entries : List Target) : Bool :=
  entries.any fun entry => entry.isPlaceholder && entry.variation == t.variation

end Target

namespace Flag

variable {f : Flag} {context : Context}

/-! ## What entries find -/

/-- What an entry by kind finds. -/
def entryVariation? (f : Flag) (context : Context) (entry : Target) : Option Nat :=
  if entry.isPlaceholder then
    (f.targets.filter (·.variation == entry.variation)).findSome? (·.variationFor? context)
  else entry.variationFor? context

/-- Without targets by kind the older ones are looked through in their order. -/
lemma targetVariation?_of_nil (h : f.contextTargets = []) :
    f.targetVariation? context = f.targets.findSome? (·.variationFor? context) := by
  rw [targetVariation?, h]
  rfl

/-- Otherwise the entries by kind say in which order the targets are looked through. -/
lemma targetVariation?_of_ne_nil (h : f.contextTargets ≠ []) :
    f.targetVariation? context = f.contextTargets.findSome? (f.entryVariation? context) := by
  rw [targetVariation?, if_neg (mt List.isEmpty_iff.mp h)]
  rfl

/-- A placeholder finds what its target finds, if this is the only one of its variation. -/
lemma entryVariation?_placeholder (hnodup : (f.targets.map (·.variation)).Nodup) {t : Target}
    (h : t ∈ f.targets) : f.entryVariation? context t.placeholder = t.variationFor? context := by
  rw [entryVariation?, if_pos t.isPlaceholder_placeholder]
  show List.findSome? _ (f.targets.filter (·.variation == t.variation)) = _
  rw [filter_eq_singleton hnodup h, List.findSome?_cons]
  cases t.variationFor? context <;> rfl

/-- An entry for an absent kind decides nothing, if no older target has its variation. -/
lemma entryVariation?_of_absent {entry : Target} (habsent : context.entity? entry.contextKind = none)
    (hinert : entry.isPlaceholder = true →
      ∀ o ∈ f.targets, o.variation = entry.variation → o.variationFor? context = none) :
    f.entryVariation? context entry = none := by
  rw [entryVariation?]
  split_ifs with hplaceholder
  · refine List.findSome?_eq_none_iff.mpr fun o ho => ?_
    rw [List.mem_filter] at ho
    exact hinert hplaceholder o ho.1 (eq_of_beq ho.2)
  · exact Target.variationFor?_of_absent habsent

/-- Entries find what the targets find for which they have placeholders. -/
lemma findSome?_of_marks (hnodup : (f.targets.map (·.variation)).Nodup) {targets entries : List Target}
    (htargets : ∀ t ∈ targets, t ∈ f.targets) (h : Target.Marks context f.targets targets entries) :
    entries.findSome? (f.entryVariation? context) = targets.findSome? (·.variationFor? context) := by
  induction h with
  | nil => rfl
  | placeholder t rest ih =>
    rw [List.forall_mem_cons] at htargets
    rw [List.findSome?_cons, List.findSome?_cons, entryVariation?_placeholder hnodup htargets.1, ih htargets.2]
  | inserted t absent inert rest ih =>
    rw [List.findSome?_cons, entryVariation?_of_absent absent inert, ih htargets]

/-- Entries that mark all older targets, in any case once, change nothing. -/
theorem targetVariation?_of_marks (hnone : f.contextTargets = []) (hnodup : (f.targets.map (·.variation)).Nodup)
    {entries : List Target} (h : Target.Marks context f.targets f.targets entries) :
    ({ f with contextTargets := entries } : Flag).targetVariation? context = f.targetVariation? context := by
  by_cases hentries : entries = []
  · rw [hentries, ← hnone]
  · rw [targetVariation?_of_nil hnone]
    refine (targetVariation?_of_ne_nil (f := { f with contextTargets := entries }) hentries).trans ?_
    exact findSome?_of_marks hnodup (fun _ => id) h

/-- Only the older targets with placeholders are looked at. -/
theorem targetVariation?_withOlder (hentries : f.contextTargets ≠ []) {targets : List Target}
    (h : targets.filter (·.isMarkedBy f.contextTargets) = f.targets.filter (·.isMarkedBy f.contextTargets)) :
    ({ f with targets } : Flag).targetVariation? context = f.targetVariation? context := by
  rw [targetVariation?_of_ne_nil hentries, targetVariation?_of_ne_nil (f := { f with targets }) hentries]
  refine findSome?_congr fun entry hentry => ?_
  rw [entryVariation?, entryVariation?]
  split_ifs with hplaceholder
  · have hmarked : ∀ ts : List Target, ts.filter (·.variation == entry.variation) =
        (ts.filter (·.isMarkedBy f.contextTargets)).filter (·.variation == entry.variation) := by
      intro ts
      rw [List.filter_filter]
      refine List.filter_congr fun t _ => ?_
      by_cases ht : t.variation = entry.variation
      · have hmark : t.isMarkedBy f.contextTargets = true :=
          List.any_eq_true.mpr ⟨entry, hentry, by simp [hplaceholder, ht]⟩
        rw [hmark, Bool.and_true]
      · simp [ht]
    show (targets.filter _).findSome? _ = _
    rw [hmarked targets, h, ← hmarked f.targets]
  · rfl

/-! ## Evaluations -/

/-- Rules are tried whatever the targets are. -/
lemma decideByRules_withTargets (f : Flag) (targets contextTargets : List Target) (setting : Setting)
    (rules : List (FlagRule × Nat)) :
    ({ f with targets, contextTargets } : Flag).decideByRules setting rules = f.decideByRules setting rules := by
  induction rules with
  | nil => rfl
  | cons rule rest ih =>
    rw [decideByRules, decideByRules, ih]
    rfl

variable {targets contextTargets : List Target} {setting : Setting}

/-- Flags with the same targeted variation are evaluated alike. -/
lemma evaluateWith_withTargets (nested : Flag → Evaluation Detail)
    (h : ({ f with targets, contextTargets } : Flag).targetVariation? setting.context =
      f.targetVariation? setting.context) :
    ({ f with targets, contextTargets } : Flag).evaluateWith nested setting = f.evaluateWith nested setting := by
  have hdecide : ({ f with targets, contextTargets } : Flag).decide setting = f.decide setting := by
    rw [decide, decide, h, decideByRules_withTargets]
    rfl
  rw [evaluateWith, evaluateWith, hdecide,
    checkPrerequisites_eq (f := f) (g := { f with targets, contextTargets }) rfl fun _ => rfl]
  rfl

/-- With other targets that give the same variation, a flag is evaluated as before. -/
theorem run_withTargets
    (h : ({ f with targets, contextTargets } : Flag).targetVariation? setting.context =
      f.targetVariation? setting.context) (state : EvaluationState) :
    ({ f with targets, contextTargets } : Flag).run setting state = f.run setting state := by
  rw [run, run]
  show StateT.run (evaluateAt setting (f.keyCount setting.catalog) _) state = _
  cases f.keyCount setting.catalog with
  | zero => rw [evaluateAt, evaluateAt, evaluateWith_withTargets _ h]
  | succ depth => rw [evaluateAt, evaluateAt, evaluateWith_withTargets _ h]

/-- Whether two flags serve a context in the same way, in every setting and from every state. -/
def ServesAlike (f g : Flag) (context : Context) : Prop :=
  g.targetVariation? context = f.targetVariation? context ∧
  ∀ setting : Setting, setting.context = context →
    (∀ state, g.run setting state = f.run setting state) ∧ g.evaluate setting = f.evaluate setting

/-- Flags with the same targeted variation serve alike in every setting. -/
lemma servesAlike_withTargets
    (h : ({ f with targets, contextTargets } : Flag).targetVariation? context = f.targetVariation? context) :
    f.ServesAlike { f with targets, contextTargets } context := by
  refine ⟨h, ?_⟩
  rintro setting rfl
  refine ⟨run_withTargets h, ?_⟩
  rw [evaluate, evaluate, run_withTargets h]

end Flag

/-- The two lists of targets agree:
* instead of older targets of different variations alone, a flag may have placeholders for them, in the same order
  and between any entries for kinds that the context does not have, if the older targets are for users;
* if they are for other kinds, it may if no entry in between is a placeholder for one that lists the context;
* older targets without a placeholder do not matter if there are targets by kind. -/
theorem target_lists_agree (f : Flag) (context : Context) :
    (f.contextTargets = [] → (f.targets.map (·.variation)).Nodup →
      (∀ t ∈ f.targets, t.contextKind = .user) →
      ∀ entries, Target.Interspersed context (f.targets.map Target.placeholder) entries →
        f.ServesAlike { f with contextTargets := entries } context) ∧
    (f.contextTargets = [] → (f.targets.map (·.variation)).Nodup →
      ∀ entries, Target.Marks context f.targets f.targets entries →
        f.ServesAlike { f with contextTargets := entries } context) ∧
    (f.contextTargets ≠ [] → ∀ targets : List Target,
      targets.filter (·.isMarkedBy f.contextTargets) = f.targets.filter (·.isMarkedBy f.contextTargets) →
        f.ServesAlike { f with targets } context) := by
  refine ⟨fun hnone hnodup husers entries hentries => ?_, fun hnone hnodup entries hmarks => ?_,
    fun hentries targets hmarked => ?_⟩
  · have hmarks := Target.marks_of_interspersed husers hentries
    exact Flag.servesAlike_withTargets (Flag.targetVariation?_of_marks hnone hnodup hmarks)
  · exact Flag.servesAlike_withTargets (Flag.targetVariation?_of_marks hnone hnodup hmarks)
  · exact Flag.servesAlike_withTargets (Flag.targetVariation?_withOlder hentries hmarked)

/-! ## A user and an organisation -/

/-- A flag with two older targets of these kinds, both for the key `o`. -/
def Flag.targeting (kind kind' : Kind) : Flag :=
  { Flag.requiring "f" [] with targets := [⟨kind, ["o"], 0⟩, ⟨kind', ["o"], 1⟩] }

/-- An organisation, and no user. -/
def Context.organisation : Context := .single ⟨⟨"org"⟩, "o", none, false, [], []⟩

/-- Older targets of users and a placeholder that is put in front of theirs; an older target of another kind and two
more entries; and a placeholder for one older target, so that another one is not looked at, though it lists the
context. -/
theorem target_lists_agree_organisation :
    (Flag.targeting .user .user).ServesAlike
      { Flag.targeting .user .user with
        contextTargets := [⟨.user, [], 1⟩, ⟨.user, [], 0⟩, ⟨⟨"device"⟩, ["o"], 2⟩, ⟨.user, [], 1⟩] }
      .organisation ∧
    (Flag.targeting .user ⟨"org"⟩).targetVariation? .organisation = some 1 ∧
    (Flag.targeting .user ⟨"org"⟩).ServesAlike
      { Flag.targeting .user ⟨"org"⟩ with
        contextTargets := [⟨⟨"device"⟩, ["o"], 2⟩, ⟨.user, [], 0⟩, ⟨.user, [], 0⟩, ⟨.user, [], 1⟩] }
      .organisation ∧
    ({ Flag.targeting ⟨"org"⟩ ⟨"org"⟩ with contextTargets := [⟨.user, [], 1⟩] } : Flag).ServesAlike
      { Flag.targeting .user ⟨"org"⟩ with contextTargets := [⟨.user, [], 1⟩] } .organisation := by
  refine ⟨?_, rfl, ?_, ?_⟩
  · refine (target_lists_agree (Flag.targeting .user .user) .organisation).1 rfl (by decide) (by decide) _ ?_
    exact .inserted _ rfl <| .kept _ <| .inserted _ rfl <| .kept _ .nil
  · refine (target_lists_agree (Flag.targeting .user ⟨"org"⟩) .organisation).2.1 rfl (by decide) _ ?_
    -- the second entry for users stands for a target of users
    have hinert : ∀ o ∈ (Flag.targeting .user ⟨"org"⟩).targets, o.variation = 0 →
        o.variationFor? .organisation = none := by
      decide
    exact .inserted _ rfl nofun <| .placeholder _ <| .inserted ⟨.user, [], 0⟩ rfl (fun _ => hinert) <|
      .placeholder _ .nil
  · exact (target_lists_agree { Flag.targeting ⟨"org"⟩ ⟨"org"⟩ with contextTargets := [⟨.user, [], 1⟩] }
      .organisation).2.2 (List.cons_ne_nil _ _) (Flag.targeting .user ⟨"org"⟩).targets rfl

/-- Older targets are matched whatever kind they name. So where they are not for users, a placeholder that is put in
front of the others changes the order in which they are checked. -/
theorem inserted_placeholder_reorders :
    (Flag.targeting ⟨"org"⟩ ⟨"org"⟩).contextTargets = [] ∧
    ((Flag.targeting ⟨"org"⟩ ⟨"org"⟩).targets.map (·.variation)).Nodup ∧
    Context.organisation.entity? .user = none ∧
    (Flag.targeting ⟨"org"⟩ ⟨"org"⟩).targetVariation? .organisation = some 0 ∧
    ({ Flag.targeting ⟨"org"⟩ ⟨"org"⟩ with
      contextTargets := ⟨.user, [], 1⟩ :: (Flag.targeting ⟨"org"⟩ ⟨"org"⟩).targets.map Target.placeholder } :
        Flag).targetVariation? .organisation = some 1 := by
  refine ⟨rfl, by decide, rfl, rfl, rfl⟩

end FeatureFlags
