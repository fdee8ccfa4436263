import FeatureFlags.Proofs.Evaluation.Trace

/-!
# Lists of keys

The keys that a segment lists decide before its rules, and the excluded ones before the included ones. So
more excluded keys can only take contexts out of a segment and more included keys only put them in, whatever
its rules say and even where they fail (`lists_decide_first`). In an unbounded segment lists and rules mean
nothing.

* `Segment.lists_iff`: a context is listed if the key of one of its entities is.
* `Segment.outcome_of_excluded`, `Segment.outcome_of_not_excluded`: the order in which a bounded segment
  decides.
-/

namespace FeatureFlags

/-! ## Listed contexts -/

/-- Keys of users, and of entities of any kinds. -/
structure KeyLists where
  users : List String
  targets : List SegmentTarget

namespace KeyLists

/-- The key of an entity of this kind is listed. -/
def Names (lists : KeyLists) (kind : Kind) (key : String) : Prop :=
  kind = .user ∧ key ∈ lists.users ∨ ∃ t ∈ lists.targets, t.contextKind = kind ∧ key ∈ t.values

/-- All keys that the narrower lists name are named by the wider ones. -/
def Covers (wider narrower : KeyLists) : Prop :=
  ∀ kind key, narrower.Names kind key → wider.Names kind key

/-- The key of one of the entities of a context is listed. -/
def Lists (lists : KeyLists) (context : Context) : Prop :=
  ∃ e, context.entity? e.kind = some e ∧ lists.Names e.kind e.key

lemma Covers.lists_of_lists {wider narrower : KeyLists} {context : Context}
    (h : wider.Covers narrower) (hlisted : narrower.Lists context) : wider.Lists context := by
  obtain ⟨e, he, hnamed⟩ := hlisted
  exact ⟨e, he, h e.kind e.key hnamed⟩

end KeyLists

namespace Segment

variable {segment : Segment} {setting : Setting} {s : EvaluationState}

/-! ## The lists of a segment -/

/-- The keys that a segment excludes. -/
def excludedKeys (segment : Segment) : KeyLists := ⟨segment.excluded, segment.excludedContexts⟩

/-- The keys that a segment includes. -/
def includedKeys (segment : Segment) : KeyLists := ⟨segment.included, segment.includedContexts⟩

/-- A segment with other excluded keys. -/
def withExcluded (segment : Segment) (lists : KeyLists) : Segment :=
  { segment with excluded := lists.users, excludedContexts := lists.targets }

/-- A segment with other included keys. -/
def withIncluded (segment : Segment) (lists : KeyLists) : Segment :=
  { segment with included := lists.users, includedContexts := lists.targets }

lemma listsUser_iff {keys : List String} {context : Context} :
    listsUser keys context = true ↔ ∃ e, context.entity? .user = some e ∧ e.key ∈ keys := by
  unfold listsUser
  cases context.entity? .user <;> simp

lemma listsEntity_iff {targets : List SegmentTarget} {context : Context} :
    listsEntity targets context = true ↔
      ∃ t ∈ targets, ∃ e, context.entity? t.contextKind = some e ∧ e.key ∈ t.values := by
  unfold listsEntity
  rw [List.any_eq_true]
  refine exists_congr fun t => and_congr_right fun _ => ?_
  cases context.entity? t.contextKind <;> simp

/-- The two checks of a list ask for no more than that one entity is listed under its own kind. -/
theorem lists_iff (lists : KeyLists) (context : Context) :
    (listsUser lists.users context || listsEntity lists.targets context) = true ↔
      lists.Lists context := by
  rw [Bool.or_eq_true, listsUser_iff, listsEntity_iff]
  constructor
  · rintro (⟨e, he, hkey⟩ | ⟨t, ht, e, he, hkey⟩)
    · have hkind := Context.kind_of_entity? he
      exact ⟨e, hkind.symm ▸ he, .inl ⟨hkind, hkey⟩⟩
    · have hkind := Context.kind_of_entity? he
      exact ⟨e, hkind.symm ▸ he, .inr ⟨t, ht, hkind.symm, hkey⟩⟩
  · rintro ⟨e, he, ⟨hkind, hkey⟩ | ⟨t, ht, hkind, hkey⟩⟩
    · exact .inl ⟨e, hkind ▸ he, hkey⟩
    · exact .inr ⟨t, ht, e, hkind ▸ he, hkey⟩

lemma excludes_iff {context : Context} :
    segment.excludes context = true ↔ segment.excludedKeys.Lists context :=
  lists_iff segment.excludedKeys context

lemma includes_iff {context : Context} :
    segment.includes context = true ↔ segment.includedKeys.Lists context :=
  lists_iff segment.includedKeys context

/-! ## What a segment answers -/

/-- The answer of a segment and the state it leaves. -/
def outcome (segment : Segment) (setting : Setting) (s : EvaluationState) :
    Except EvaluationError Bool × EvaluationState :=
  (segment.contains setting).run.run s

/-- What the rules of a segment say. -/
def rulesOutcome (segment : Segment) (setting : Setting) (s : EvaluationState) :
    Except EvaluationError Bool × EvaluationState :=
  (segment.checkRules (·.contains setting) setting segment.rules).run.run s

/-- An unbounded segment asks the store, whatever lists and rules it has. -/
lemma outcome_of_unbounded (h : segment.unbounded = true) :
    segment.outcome setting s = (segment.containsUnbounded setting).run.run s := by
  rw [outcome, contains_eq, containsWith, if_pos h]

/-- An excluded context is out, and nothing further is looked at. -/
theorem outcome_of_excluded (hbounded : segment.unbounded = false)
    (h : segment.excludedKeys.Lists setting.context) : segment.outcome setting s = (.ok false, s) := by
  rw [outcome, contains_eq, containsWith, if_neg (by simp [hbounded]), if_pos (excludes_iff.mpr h)]
  rfl

/-- What is not excluded is decided by the included keys, and only then by the rules. -/
theorem outcome_of_not_excluded (hbounded : segment.unbounded = false)
    (h : ¬segment.excludedKeys.Lists setting.context) :
    segment.outcome setting s =
      if segment.includes setting.context then (.ok true, s) else segment.rulesOutcome setting s := by
  rw [outcome, contains_eq, containsWith, if_neg (by simp [hbounded]),
    if_neg (fun hexcluded => h (excludes_iff.mp hexcluded))]
  split_ifs
  · rfl
  · rfl

/-- An included context that is not excluded is in, and nothing further is looked at. -/
lemma outcome_of_included (hbounded : segment.unbounded = false)
    (hexcluded : ¬segment.excludedKeys.Lists setting.context)
    (h : segment.includedKeys.Lists setting.context) : segment.outcome setting s = (.ok true, s) := by
  rw [outcome_of_not_excluded hbounded hexcluded, if_pos (includes_iff.mpr h)]

/-- A context on neither list is left to the rules. -/
lemma outcome_of_unlisted (hbounded : segment.unbounded = false)
    (hexcluded : ¬segment.excludedKeys.Lists setting.context)
    (h : ¬segment.includedKeys.Lists setting.context) :
    segment.outcome setting s = segment.rulesOutcome setting s := by
  rw [outcome_of_not_excluded hbounded hexcluded, if_neg (fun hincluded => h (includes_iff.mp hincluded))]

/-- The rules of a segment go by its key and its salt. -/
lemma checkRules_congr {other : Segment} (hkey : segment.key = other.key)
    (hsalt : segment.salt = other.salt) (nested : SegmentCheck) (rules : List SegmentRule) :
    segment.checkRules nested setting rules = other.checkRules nested setting rules := by
  induction rules with
  | nil => rfl
  | cons r rest ih => rw [checkRules, checkRules, hkey, hsalt, ih]

/-- The rules read nothing of a segment but its key and its salt. -/
lemma rulesOutcome_congr {other : Segment} (hkey : segment.key = other.key)
    (hsalt : segment.salt = other.salt) (hrules : segment.rules = other.rules) :
    segment.rulesOutcome setting s = other.rulesOutcome setting s := by
  rw [rulesOutcome, rulesOutcome, hrules, checkRules_congr hkey hsalt]

/-! ## More keys -/

/-- More excluded keys only ever take a context out of the segment. -/
lemma outcome_withExcluded (hbounded : segment.unbounded = false) {lists : KeyLists}
    (h : lists.Covers segment.excludedKeys) :
    (segment.withExcluded lists).outcome setting s = segment.outcome setting s ∨
      (segment.withExcluded lists).outcome setting s = (.ok false, s) := by
  by_cases hlisted : lists.Lists setting.context
  · right
    exact outcome_of_excluded hbounded hlisted
  · left
    have hbefore : ¬segment.excludedKeys.Lists setting.context :=
      fun hbefore => hlisted (h.lists_of_lists hbefore)
    have hrules : (segment.withExcluded lists).rulesOutcome setting s = segment.rulesOutcome setting s :=
      rulesOutcome_congr rfl rfl rfl
    rw [outcome_of_not_excluded hbounded hbefore, ← hrules]
    exact outcome_of_not_excluded hbounded hlisted

/-- More included keys only ever put a context in the segment. -/
lemma outcome_withIncluded (hbounded : segment.unbounded = false) {lists : KeyLists}
    (h : lists.Covers segment.includedKeys) :
    (segment.withIncluded lists).outcome setting s = segment.outcome setting s ∨
      (segment.withIncluded lists).outcome setting s = (.ok true, s) := by
  by_cases hexcluded : segment.excludedKeys.Lists setting.context
  · left
    rw [outcome_of_excluded hbounded hexcluded]
    exact outcome_of_excluded hbounded hexcluded
  by_cases hlisted : lists.Lists setting.context
  · right
    exact outcome_of_included hbounded hexcluded hlisted
  · left
    have hbefore : ¬segment.includedKeys.Lists setting.context :=
      fun hbefore => hlisted (h.lists_of_lists hbefore)
    have hrules : (segment.withIncluded lists).rulesOutcome setting s = segment.rulesOutcome setting s :=
      rulesOutcome_congr rfl rfl rfl
    rw [outcome_of_unlisted hbounded hexcluded hbefore, ← hrules]
    exact outcome_of_unlisted hbounded hexcluded hlisted

/-! ## Decisions by the lists -/

/-- The lists of a segment decide about a context. -/
def Decides (segment : Segment) (context : Context) : Prop :=
  segment.excludedKeys.Lists context ∨ segment.includedKeys.Lists context

/-- Where the lists decide, the answer is about the context alone, and the state stays as it was. -/
lemma outcome_of_decides (hbounded : segment.unbounded = false) {context : Context}
    (h : segment.Decides context) :
    ∃ answer, (answer = true ↔ ¬segment.excludedKeys.Lists context) ∧
      ∀ (rules : List SegmentRule) (setting : Setting) (s : EvaluationState), setting.context = context →
        { segment with rules }.outcome setting s = (.ok answer, s) := by
  by_cases hexcluded : segment.excludedKeys.Lists context
  · refine ⟨false, by simp [hexcluded], fun rules setting s hcontext => ?_⟩
    subst hcontext
    exact outcome_of_excluded hbounded hexcluded
  · refine ⟨true, by simp [hexcluded], fun rules setting s hcontext => ?_⟩
    subst hcontext
    exact outcome_of_included hbounded hexcluded (h.resolve_left hexcluded)

/-- Nothing comes after a decision by the lists. -/
lemma trace_of_decides (h : segment.Decides setting.context) :
    Moment.trace setting ⟨.segment segment, s⟩ = [⟨.segment segment, s⟩] := by
  have hnested : Moment.nested setting ⟨.segment segment, s⟩ = none := by
    refine if_neg fun hnone => ?_
    rcases h with hexcluded | hincluded
    · simp [excludes_iff.mpr hexcluded] at hnone
    · simp [includes_iff.mpr hincluded] at hnone
  rw [Moment.trace_eq, hnested]
  rfl

end Segment

/-- The lists of a bounded segment decide before its rules, and the excluded keys before the included ones.
More excluded keys leave the answer as it is or turn it into no, and more included ones into yes. A context
of which any entity is excluded is outside, whatever else is included and whatever the rules say. A decision
by the lists leads to no other segment, is the same for all rules, catalogs and stores, and leaves the state
as it was. The answer of an unbounded segment does not depend on its lists or rules. -/
theorem lists_decide_first (segment : Segment) (setting : Setting) (s : EvaluationState) :
    (segment.unbounded = false →
      (∀ lists : KeyLists, lists.Covers segment.excludedKeys →
        (segment.withExcluded lists).outcome setting s = segment.outcome setting s ∨
        (segment.withExcluded lists).outcome setting s = (.ok false, s)) ∧
      (∀ lists : KeyLists, lists.Covers segment.includedKeys →
        (segment.withIncluded lists).outcome setting s = segment.outcome setting s ∨
        (segment.withIncluded lists).outcome setting s = (.ok true, s)) ∧
      (∀ e, setting.context.entity? e.kind = some e → segment.excludedKeys.Names e.kind e.key →
        ∀ (included : KeyLists) (rules : List SegmentRule),
          ({ segment with rules }.withIncluded included).outcome setting s = (.ok false, s)) ∧
      (segment.Decides setting.context →
        Moment.trace setting ⟨.segment segment, s⟩ = [⟨.segment segment, s⟩] ∧
        ∃ answer, (answer = true ↔ ¬segment.excludedKeys.Lists setting.context) ∧
          ∀ (rules : List SegmentRule) (other : Setting) (t : EvaluationState),
            other.context = setting.context →
              { segment with rules }.outcome other t = (.ok answer, t))) ∧
    (segment.unbounded = true →
      ∀ (excluded included : KeyLists) (rules : List SegmentRule),
        (({ segment with rules }.withExcluded excluded).withIncluded included).outcome setting s =
          segment.outcome setting s) := by
  -- the lists decide before the rules and independently of them, and an unbounded segment does not read them
  refine ⟨fun hbounded => ⟨?_, ?_, ?_, ?_⟩, fun hunbounded => ?_⟩
  · intro lists hwider
    exact Segment.outcome_withExcluded hbounded hwider
  · intro lists hwider
    exact Segment.outcome_withIncluded hbounded hwider
  · intro e he hnamed included rules
    exact Segment.outcome_of_excluded hbounded ⟨e, he, hnamed⟩
  · intro hdecides
    exact ⟨Segment.trace_of_decides hdecides, Segment.outcome_of_decides hbounded hdecides⟩
  · intro excluded included rules
    rw [Segment.outcome_of_unbounded hunbounded]
    exact Segment.outcome_of_unbounded hunbounded

/-! ## An excluded device -/

/-- A segment with these keys, and with a rule for the members of another segment. -/
def Segment.staff (excluded included : KeyLists) : Segment :=
  { key := "staff", version := 1, included := included.users, excluded := excluded.users,
    includedContexts := included.targets, excludedContexts := excluded.targets,
    rules := [⟨none, [⟨none, .literal "", false, .segmentMatch, [.string "beta"]⟩], none, none, none⟩],
    salt := "", unbounded := false, unboundedContextKind := none, generation := none, deleted := false }

/-- A user with a device, where the members of `beta` were never exported. -/
def Setting.unexported : Setting :=
  { catalog := ⟨[], [("beta", { Segment.staff ⟨[], []⟩ ⟨[], []⟩ with unbounded := true })]⟩
    context := .multi [⟨.user, "anna", none, false, [], []⟩, ⟨⟨"device"⟩, "tablet", none, false, [], []⟩]
    bigSegments := none }

/-- The rule fails. The user is excluded together with the device, whether the key of the user is included
or not. -/
theorem lists_decide_first_device :
    let device : KeyLists := ⟨[], [⟨["tablet"], ⟨"device"⟩⟩]⟩
    ((Segment.staff ⟨[], []⟩ ⟨[], []⟩).outcome .unexported .initial).1 = .error .bigSegmentsUnavailable ∧
    (Segment.staff device ⟨["anna"], []⟩).outcome .unexported .initial = (.ok false, .initial) ∧
    (Segment.staff device ⟨[], []⟩).outcome .unexported .initial = (.ok false, .initial) := by
  intro device
  obtain ⟨hbounded, -⟩ := lists_decide_first (.staff device ⟨[], []⟩) .unexported .initial
  obtain ⟨-, -, hexcluded, -⟩ := hbounded rfl
  have hnamed : device.Names ⟨"device"⟩ "tablet" :=
    .inr ⟨⟨["tablet"], ⟨"device"⟩⟩, List.mem_singleton.mpr rfl, rfl, List.mem_singleton.mpr rfl⟩
  have houtcome := hexcluded ⟨⟨"device"⟩, "tablet", none, false, [], []⟩ rfl hnamed
  exact ⟨rfl, houtcome ⟨["anna"], []⟩ _, houtcome ⟨[], []⟩ _⟩

end FeatureFlags
