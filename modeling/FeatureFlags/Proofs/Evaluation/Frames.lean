import FeatureFlags.Proofs.Entries
import FeatureFlags.Proofs.Evaluation.Invariants

/-!
# What an evaluation leaves as it was

Flags and segments are entered and left around what is nested in them, and what is nested may fail or turn
out to be a cycle. However it ends, an evaluation comes back to the paths it started from, and of the big
segment store it knows what it knew and what the store has answered since (`evaluation_backAt`).

* `EvaluationInvariant`: what all primitives of an evaluation keep, failed ones included. Flags are followed
  once for all such invariants (`Flag.run_keeps`).
* `EvaluationState.StillKnows`: the invariant for what is known of the big segment store. The paths are no
  such invariant, since they differ inside of a flag; they are framed by `Flag.run_framed`.
-/

namespace FeatureFlags

variable {α : Type} {setting : Setting} {I : EvaluationState → Prop} {s t u : EvaluationState}

/-! ## Invariants of evaluations -/

/-- An invariant of checks that a failure does not end, and that evaluating flags keeps as well. -/
structure EvaluationInvariant (setting : Setting) (I : EvaluationState → Prop) : Prop
    extends CheckInvariant setting I fun _ => I where
  enterFlag : ∀ s key, I s → I (s.enterFlag key)
  leaveFlag : ∀ s key, I s → I (s.leaveFlag key)
  markCycle : ∀ s, I s → I s.markCycle
  record : ∀ s event, I s → I (s.record event)

/-- What a check keeps if it fails and if it does not, it keeps. -/
lemma Check.Keeps.run {a : Check α} (ha : Check.Keeps I (fun _ => I) a) (hs : I s) :
    I (a.run.run s).2 := by
  have h := ha s hs
  rcases houtcome : a.run.run s with ⟨_ | _, s'⟩ <;> rw [houtcome] at h <;> exact h

namespace Flag

variable {nested : Flag → Evaluation Detail}

/-- Prerequisites keep an invariant that their flags keep. -/
lemma checkPrerequisites_keeps (hI : EvaluationInvariant setting I)
    (hn : ∀ g s, I s → I ((nested g).run s).2) (f : Flag) (prerequisites : List Prerequisite) (hs : I s) :
    I ((f.checkPrerequisites nested setting prerequisites).run s).2 := by
  -- the induction is on the prerequisites, and the state is what a nested evaluation left
  induction prerequisites generalizing s with
  | nil => exact hs
  | cons p rest ih =>
    rw [run_checkPrerequisites_cons]
    cases setting.catalog.flag? p.key with
    | none => exact hs
    | some g =>
      have hnested := hn g s hs
      rcases houtcome : (nested g).run s with ⟨result, s'⟩
      rw [houtcome] at hnested
      have hrecorded := hI.record s' ⟨f.key, setting.context, g, result⟩ hnested
      dsimp only
      rw [houtcome]
      dsimp only
      split_ifs
      · exact hnested
      · exact ih hrecorded
      · exact hrecorded

/-- A flag keeps an invariant that its prerequisites keep. -/
lemma evaluateWith_keeps (hI : EvaluationInvariant setting I)
    (hn : ∀ g s, I s → I ((nested g).run s).2) (f : Flag) (hs : I s) :
    I ((f.evaluateWith nested setting).run s).2 := by
  rw [run_evaluateWith]
  -- off, in a cycle, or past the prerequisites
  split_ifs
  · exact hs
  · exact hI.markCycle s hs
  · have hchecked := f.checkPrerequisites_keeps hI hn f.prerequisites (hI.enterFlag s f.key hs)
    rw [run_insideFlag]
    rcases houtcome : (f.checkPrerequisites nested setting f.prerequisites).run (s.enterFlag f.key) with
      ⟨failure, s'⟩
    rw [houtcome] at hchecked
    have hleft := hI.leaveFlag s' f.key hchecked
    cases failure with
    | some result => exact hleft
    | none =>
      rcases f.decide_keeps hI.toCheckInvariant hleft with ⟨_, -, h⟩ | ⟨h, -⟩
      · exact h
      · exact h

/-- An invariant is kept at every depth. -/
lemma evaluateAt_keeps (hI : EvaluationInvariant setting I) (depth : Nat) (f : Flag) (hs : I s) :
    I ((evaluateAt setting depth f).run s).2 := by
  induction depth generalizing f s with
  | zero =>
    -- what is nested is given up at once
    refine f.evaluateWith_keeps hI (fun g s' h => ?_) hs
    exact h
  | succ depth ih => exact f.evaluateWith_keeps hI (fun g _ h => ih g h) hs

/-- A whole evaluation keeps an invariant. -/
theorem run_keeps (hI : EvaluationInvariant setting I) (f : Flag) (hs : I s) : I (f.run setting s).2 :=
  f.evaluateAt_keeps hI _ hs

end Flag

/-! ## What is known of the big segment store -/

/-- All that `t` knows of the big segment store is known, and whatever else is known is what the store has
answered to a query made since. -/
structure EvaluationState.StillKnows (setting : Setting) (s t : EvaluationState) : Prop where
  known : ∀ contextKey membership, Entries.get? contextKey t.memberships = some membership →
    Entries.get? contextKey s.memberships = some membership
  queries : t.queries <+: s.queries
  learned : ∀ contextKey membership, Entries.get? contextKey s.memberships = some membership →
    Entries.get? contextKey t.memberships = some membership ∨
      ∃ number ≥ t.queries.length, s.queries[number]? = some (bigSegmentHash contextKey) ∧
        setting.answerAt number contextKey = .ok membership

namespace EvaluationState.StillKnows

/-- A state still knows what it knows. -/
lemma refl (setting : Setting) (s : EvaluationState) : s.StillKnows setting s :=
  ⟨fun _ _ h => h, List.prefix_rfl, fun _ _ h => .inl h⟩

/-- One more query does not change what was learned from the ones before. -/
lemma asked (h : s.StillKnows setting t) (contextKey : String) :
    (s.asked contextKey).StillKnows setting t where
  known := h.known
  queries := h.queries.trans (List.prefix_append _ _)
  learned key membership hkey := by
    rcases h.learned key membership hkey with hknown | ⟨number, hnumber, hasked, hanswer⟩
    · exact .inl hknown
    · refine .inr ⟨number, hnumber, ?_, hanswer⟩
      have hlt : number < s.queries.length := (List.getElem?_eq_some_iff.mp hasked).1
      rw [asked_queries, List.getElem?_append_left hlt]
      exact hasked

/-- An answer of the store is remembered only for a key that nothing was known for. -/
lemma remember (h : s.StillKnows setting t) {contextKey : String} {membership : Option Membership}
    (hunknown : Entries.get? contextKey s.memberships = none)
    (hanswer : setting.answerAt s.queries.length contextKey = .ok membership) :
    ((s.asked contextKey).remember contextKey membership).StillKnows setting t := by
  have hasked := h.asked contextKey
  refine ⟨fun key other hkey => ?_, hasked.queries, fun key other hkey => ?_⟩
  · -- what was known is not overwritten, since nothing was known for the key that is asked for
    have hknown := h.known key other hkey
    have hne : contextKey ≠ key := by
      rintro rfl
      rw [hunknown] at hknown
      cases hknown
    rw [remember_memberships, Entries.get?_insert, if_neg hne]
    exact hknown
  · rw [remember_memberships, Entries.get?_insert] at hkey
    split_ifs at hkey with heq
    · -- the query that was answered is the last one
      subst heq
      cases hkey
      refine .inr ⟨s.queries.length, h.queries.length_le, ?_, hanswer⟩
      rw [remember_queries, asked_queries, List.getElem?_concat_length]
    · exact hasked.learned key other hkey

end EvaluationState.StillKnows

/-- Looking up memberships adds to what is known and takes nothing away. -/
lemma membershipOf_stillKnows (setting : Setting) (t : EvaluationState) (contextKey : String) :
    Check.Keeps (EvaluationState.StillKnows setting · t) (fun _ => (EvaluationState.StillKnows setting · t))
      (membershipOf setting contextKey) := by
  intro s hs
  rcases membershipOf_cases s setting contextKey with ⟨-, h⟩ | ⟨store, hstore, ⟨known, -, h⟩ |
    ⟨e, -, -, h⟩ | ⟨membership, status, hunknown, hquery, h⟩⟩ <;> rw [h]
  · exact ⟨hs.known, hs.queries, hs.learned⟩
  · exact hs
  · have hasked := hs.asked contextKey
    exact ⟨hasked.known, hasked.queries, hasked.learned⟩
  · have hlearned := hs.remember hunknown (Setting.answerAt_of_answered hstore hquery)
    exact ⟨hlearned.known, hlearned.queries, hlearned.learned⟩

/-- Nothing else in an evaluation touches what is known of the big segment store. -/
lemma stillKnows_evaluationInvariant (setting : Setting) (t : EvaluationState) :
    EvaluationInvariant setting (EvaluationState.StillKnows setting · t) where
  enterSegment _ _ h := ⟨h.known, h.queries, h.learned⟩
  leaveSegment _ _ h := ⟨h.known, h.queries, h.learned⟩
  leaveSegment_error _ _ _ h := ⟨h.known, h.queries, h.learned⟩
  malformed _ h := h
  notExported _ h := ⟨h.known, h.queries, h.learned⟩
  membershipOf := membershipOf_stillKnows setting t
  enterFlag _ _ h := ⟨h.known, h.queries, h.learned⟩
  leaveFlag _ _ h := ⟨h.known, h.queries, h.learned⟩
  markCycle _ h := ⟨h.known, h.queries, h.learned⟩
  record _ _ h := ⟨h.known, h.queries, h.learned⟩

/-! ## Coming back -/

/-- The state `s` is back where `t` was: on the same paths of flags and segments, with all that was known of
the big segment store. -/
structure EvaluationState.BackAt (setting : Setting) (s t : EvaluationState) : Prop where
  samePaths : s.SamePaths t
  stillKnows : s.StillKnows setting t

/-- A framed check that forgets nothing comes back to the state, up to what it has learned. -/
lemma Check.Framed.backAt {a : Check α} (ha : a.Framed) (s : EvaluationState)
    (hknows : ∀ t, Check.Keeps (EvaluationState.StillKnows setting · t)
      (fun _ => (EvaluationState.StillKnows setting · t)) a) :
    (a.run.run s).2.BackAt setting s :=
  ⟨ha.samePaths rfl, (hknows s).run (.refl setting s)⟩

/-- Flags, clauses, rules and segments are evaluated from whatever state, and however that ends, with an
answer or with an error, the state is back where it was. -/
theorem evaluation_backAt (setting : Setting) (s : EvaluationState) :
    (∀ f : Flag, (f.run setting s).2.BackAt setting s) ∧
    (∀ c : Clause, ((c.check setting).run.run s).2.BackAt setting s) ∧
    (∀ r : FlagRule, ((r.check setting).run.run s).2.BackAt setting s) ∧
    ∀ segment : Segment, ((segment.contains setting).run.run s).2.BackAt setting s := by
  have hI := stillKnows_evaluationInvariant setting
  refine ⟨fun f => ?_, fun c => ?_, fun r => ?_, fun segment => ?_⟩
  · exact ⟨f.run_framed setting s, f.run_keeps (hI s) (.refl setting s)⟩
  · refine (c.check_framed setting).backAt s fun t => ?_
    rw [c.check_eq]
    exact c.checkWith_keeps (hI t).toCheckInvariant (Segment.contains_keeps (hI t).toCheckInvariant)
  · exact (r.check_framed setting).backAt s fun t => r.check_keeps (hI t).toCheckInvariant
  · exact (segment.contains_framed setting).backAt s
      fun t => segment.contains_keeps (hI t).toCheckInvariant

end FeatureFlags
