import FeatureFlags.Proofs.Evaluation.Running

/-!
# Two runs of a check

Most of what an evaluation relies on in its checks of clauses and segments compares two runs: with more
and with less room for nested segments, from a state that others have left behind and from a fresh one.
`Check.Similar R a b` says that `a` and `b`, run from states related by `R`, answer the same, leave
related states and fail only in the two ways a check can fail.

A `CheckRelation` is a family of relations, one for every path of segments, that is kept by whatever a
check does to the state. The checks of clauses, rules and segments are followed once for all such
families (`Segment.containsAt_similar`); the facts about one run come from a family that relates equal
states only (`OneRun`).

* `Segment.contains_eq`: the check of a segment is the recursion without any bound.
* `FlagRule.check_framed`: a check leaves everything alone but what it knows of the big segment store.
-/

namespace FeatureFlags

/-- The errors with which a check can fail. -/
def EvaluationError.OfCheck (e : EvaluationError) : Prop :=
  e = .malformedFlag ∨ e = .bigSegmentsUnavailable

/-- Settings with the same flags and segments and the same context. Their big segment stores may
differ. -/
structure Setting.SameData (setting other : Setting) : Prop where
  catalog : setting.catalog = other.catalog
  context : setting.context = other.context

lemma Setting.SameData.refl (setting : Setting) : setting.SameData setting := ⟨rfl, rfl⟩

variable {α β : Type}

/-! ## Similar checks -/

/-- Two checks came out alike: the same answer, related states, and no error but those of checks. -/
structure Check.SameOutcome (R : EvaluationState → EvaluationState → Prop)
    (x y : Except EvaluationError α × EvaluationState) : Prop where
  answer : x.1 = y.1
  state : R x.2 y.2
  error : ∀ e, x.1 = .error e → e.OfCheck

/-- Two checks come out alike from all related states. -/
def Check.Similar (R : EvaluationState → EvaluationState → Prop) (a b : Check α) : Prop :=
  ∀ s t, R s t → Check.SameOutcome R (a.run.run s) (b.run.run t)

namespace Check.Similar

variable {R : EvaluationState → EvaluationState → Prop}

/-- A check that only answers changes no state, so it is similar to itself. -/
lemma ofAnswer (answer : Except EvaluationError α) (h : ∀ e, answer = .error e → e.OfCheck) :
    Check.Similar R (ExceptT.mk (Pure.pure answer)) (ExceptT.mk (Pure.pure answer)) :=
  fun _ _ hst => ⟨rfl, hst, h⟩

/-- A value that is returned is the same in both settings. -/
lemma pure (a : α) : Check.Similar R (Pure.pure a) (Pure.pure a) :=
  ofAnswer (.ok a) fun e h => by cases h

/-- Similar checks are followed by similar checks. -/
lemma bind {a b : Check α} {f g : α → Check β} (hab : Check.Similar R a b)
    (hfg : ∀ x, Check.Similar R (f x) (g x)) : Check.Similar R (a >>= f) (b >>= g) := by
  intro s t hst
  rw [Check.run_bind, Check.run_bind]
  have h := hab s t hst
  rcases ha : a.run.run s with ⟨x, s'⟩
  rcases hb : b.run.run t with ⟨y, t'⟩
  rw [ha, hb] at h
  obtain rfl : x = y := h.answer
  cases x with
  | error e =>
    refine ⟨rfl, h.state, fun e' he => ?_⟩
    cases he
    exact h.error e rfl
  | ok x => exact hfg x s' t' h.state

end Check.Similar

/-! ## Families of relations that a check keeps -/

/-- Relations between the states of two runs, one for every path of segments, that are kept by whatever a
check does. -/
structure CheckRelation (setting other : Setting)
    (R : List String → EvaluationState → EvaluationState → Prop) : Prop where
  data : setting.SameData other
  segmentPath : ∀ path s t, R path s t → s.segmentPath = path ∧ t.segmentPath = path
  enterSegment : ∀ path key s t, R path s t → R (key :: path) (s.enterSegment key) (t.enterSegment key)
  leaveSegment : ∀ path key s t, R (key :: path) s t → R path (s.leaveSegment key) (t.leaveSegment key)
  found : ∀ path status s t, R path s t → R path (s.found status) (t.found status)
  membershipOf : ∀ path contextKey,
    Check.Similar (R path) (membershipOf setting contextKey) (membershipOf other contextKey)

variable {setting other : Setting} {R : List String → EvaluationState → EvaluationState → Prop}

/-- What is similar on a longer path is similar inside of its last segment. -/
lemma Check.Similar.insideSegment (hR : CheckRelation setting other R) {path : List String}
    {key : String} {a b : Check α} (h : Check.Similar (R (key :: path)) a b) :
    Check.Similar (R path) (insideSegment key a) (insideSegment key b) := by
  intro s t hst
  rw [run_insideSegment, run_insideSegment]
  have hin := h _ _ (hR.enterSegment path key s t hst)
  exact ⟨hin.answer, hR.leaveSegment path key _ _ hin.state, hin.error⟩

/-- Both checks fail in the same way, having found the same health. -/
lemma unavailable_similar (hR : CheckRelation setting other R) (path : List String)
    (status : BigSegmentsStatus) :
    Check.Similar (R path) (unavailable status : Check α) (unavailable status) := by
  intro s t hst
  rw [run_unavailable, run_unavailable]
  refine ⟨rfl, hR.found path status s t hst, fun e he => ?_⟩
  cases he
  exact .inr rfl

/-! ## Clauses, rules and segments -/

/-- Nested segments are checked alike inside of a path. They are only asked for if they are in the
catalog, are not on the path yet and there is room for them. -/
def NestedSimilar (setting : Setting) (R : List String → EvaluationState → EvaluationState → Prop)
    (path : List String) (nested nested' : SegmentCheck) : Prop :=
  ∀ key segment, setting.catalog.segment? key = some segment → key ∉ path →
    path.length < maxSegmentDepth →
    Check.Similar (R (key :: path)) (nested segment) (nested' segment)

variable {path : List String} {nested nested' : SegmentCheck}

/-- The values of a clause name the same segments in both settings. -/
lemma Clause.matchesSegments_similar (hR : CheckRelation setting other R)
    (hn : NestedSimilar setting R path nested nested') (c : Clause) (values : List AttributeValue) :
    Check.Similar (R path) (c.matchesSegments nested setting values)
      (c.matchesSegments nested' other values) := by
  induction values with
  | nil => exact .pure _
  | cons v rest ih =>
    intro s t hst
    obtain ⟨hs, ht⟩ := hR.segmentPath path s t hst
    rw [run_matchesSegments_cons, run_matchesSegments_cons, ← hR.data.catalog, hs, ht]
    cases v.string? with
    | none => exact ih s t hst
    | some key =>
      dsimp only
      split_ifs with hskip
      · exact ih s t hst
      -- from here on the value may name a segment that is asked for
      · rw [not_or, Nat.not_le] at hskip
        cases hsegment : setting.catalog.segment? key with
        | none => exact ih s t hst
        | some segment =>
          dsimp only
          have h := (hn key segment hsegment hskip.1 hskip.2).insideSegment hR s t hst
          rcases ha : (insideSegment key (nested segment)).run.run s with ⟨x, s'⟩
          rcases hb : (insideSegment key (nested' segment)).run.run t with ⟨y, t'⟩
          rw [ha, hb] at h
          obtain rfl : x = y := h.answer
          rcases x with e | _ | _
          · exact ⟨rfl, h.state, h.error⟩
          · exact ih s' t' h.state
          · exact ⟨rfl, h.state, fun e he => by cases he⟩

/-- A clause is checked alike if the segments that it names are. -/
lemma Clause.checkWith_similar (hR : CheckRelation setting other R)
    (hn : NestedSimilar setting R path nested nested') (c : Clause) :
    Check.Similar (R path) (c.checkWith nested setting) (c.checkWith nested' other) := by
  rw [Clause.checkWith, Clause.checkWith, ← hR.data.context]
  split_ifs
  · exact matchesSegments_similar hR hn c c.values
  · exact .pure _

/-- Clauses are checked alike, one after the other. -/
lemma checkClauses_similar (hR : CheckRelation setting other R)
    (hn : NestedSimilar setting R path nested nested') (clauses : List Clause) :
    Check.Similar (R path) (checkClauses nested setting clauses)
      (checkClauses nested' other clauses) := by
  induction clauses with
  | nil => exact .pure _
  | cons c rest ih =>
    rw [checkClauses, checkClauses]
    refine (c.checkWith_similar hR hn).bind fun holds => ?_
    cases holds with
    | false => exact .pure _
    | true => exact ih

/-- Whether a rule admits a context can fail only since the flag data is malformed. -/
lemma SegmentRule.admits_error {r : SegmentRule} {key salt : String} {context : Context}
    {e : EvaluationError} (h : r.admits key salt context = .error e) : e.OfCheck := by
  rw [SegmentRule.admits] at h
  split at h
  · cases h
  · split_ifs at h
    split at h
    · cases h
    · cases h
      exact .inl rfl

/-- A rule of a segment is checked alike if its clauses are. -/
lemma SegmentRule.checkWith_similar (hR : CheckRelation setting other R)
    (hn : NestedSimilar setting R path nested nested') (r : SegmentRule) (key salt : String) :
    Check.Similar (R path) (r.checkWith nested setting key salt)
      (r.checkWith nested' other key salt) := by
  rw [SegmentRule.checkWith, SegmentRule.checkWith, ← hR.data.context]
  refine (checkClauses_similar hR hn r.clauses).bind fun hold => ?_
  cases hold with
  | false => exact .pure _
  | true => exact .ofAnswer _ fun e he => SegmentRule.admits_error he

namespace Segment

/-- The rules of a segment are checked alike, one after the other. -/
lemma checkRules_similar (hR : CheckRelation setting other R)
    (hn : NestedSimilar setting R path nested nested') (segment : Segment) (rules : List SegmentRule) :
    Check.Similar (R path) (segment.checkRules nested setting rules)
      (segment.checkRules nested' other rules) := by
  induction rules with
  | nil => exact .pure _
  | cons r rest ih =>
    rw [checkRules, checkRules]
    refine (r.checkWith_similar hR hn segment.key segment.salt).bind fun matched => ?_
    cases matched with
    | false => exact ih
    | true => exact .pure _

/-- The members of a big segment are looked up alike. -/
lemma containsUnbounded_similar (hR : CheckRelation setting other R) (segment : Segment) :
    Check.Similar (R path) (segment.containsUnbounded setting) (segment.containsUnbounded other) := by
  rw [containsUnbounded, containsUnbounded, ← hR.data.context]
  cases segment.generation with
  | none => exact unavailable_similar hR path _
  | some _ =>
    dsimp only
    cases setting.context.entity? (segment.unboundedContextKind.getD .user) with
    | none => exact .pure _
    | some e => exact (hR.membershipOf path e.key).bind fun _ => .pure _

/-- A segment is checked alike, whichever way its members are kept. -/
lemma containsWith_similar (hR : CheckRelation setting other R)
    (hn : NestedSimilar setting R path nested nested') (segment : Segment) :
    Check.Similar (R path) (segment.containsWith nested setting)
      (segment.containsWith nested' other) := by
  rw [containsWith, containsWith, ← hR.data.context]
  split_ifs
  · exact containsUnbounded_similar hR segment
  · exact .pure _
  · exact .pure _
  · exact checkRules_similar hR hn segment segment.rules

/-- Inside of a path, all numbers that are not below the room left on it stand for the same check. -/
theorem containsAt_similar (hR : CheckRelation setting other R) (depth depth' : Nat)
    (segment : Segment) (h : maxSegmentDepth - path.length ≤ depth)
    (h' : maxSegmentDepth - path.length ≤ depth') :
    Check.Similar (R path) (containsAt setting depth segment) (containsAt other depth' segment) := by
  -- a segment that is nested makes the path longer, so one less is enough for it
  induction depth generalizing depth' path segment with
  | zero =>
    have hnested : ∀ nested', NestedSimilar setting R path (fun _ => return false) nested' :=
      fun _ _ _ _ _ hroom => by omega
    cases depth' with
    | zero => exact containsWith_similar hR (hnested _) segment
    | succ depth' => exact containsWith_similar hR (hnested _) segment
  | succ depth ih =>
    cases depth' with
    | zero => exact containsWith_similar hR (fun _ _ _ _ hroom => by omega) segment
    | succ depth' =>
      refine containsWith_similar hR (fun key nestedSegment _ _ hroom => ?_) segment
      have hlength : (key :: path).length = path.length + 1 := rfl
      exact ih depth' nestedSegment (by omega) (by omega)

/-- The check of a segment is the one with any number that is not below the room left on the path. -/
lemma containsAt_similar_contains (hR : CheckRelation setting other R) (segment : Segment)
    (depth : Nat) (h : maxSegmentDepth - path.length ≤ depth) :
    Check.Similar (R path) (containsAt setting depth segment) (segment.contains other) := by
  intro s t hst
  rw [run_contains, depthLeft, (hR.segmentPath path s t hst).2]
  exact containsAt_similar hR _ _ segment h (Nat.le_refl _) s t hst

/-- A segment is checked alike at any depth. -/
lemma contains_similar (hR : CheckRelation setting other R) (segment : Segment) :
    Check.Similar (R path) (segment.contains setting) (segment.contains other) := by
  intro s t hst
  rw [run_contains, depthLeft, (hR.segmentPath path s t hst).1]
  exact containsAt_similar_contains hR segment _ (Nat.le_refl _) s t hst

end Segment

/-! ## One run -/

/-- Two states that know the same about flags. -/
structure EvaluationState.SameFlags (s t : EvaluationState) : Prop where
  flagPath : s.flagPath = t.flagPath
  cycle : s.cycle = t.cycle
  events : s.events = t.events

lemma EvaluationState.SameFlags.refl (s : EvaluationState) : s.SameFlags s := ⟨rfl, rfl, rfl⟩

/-- Two states on the same paths of flags and segments. -/
structure EvaluationState.SamePaths (s t : EvaluationState) : Prop where
  flagPath : s.flagPath = t.flagPath
  segmentPath : s.segmentPath = t.segmentPath

namespace EvaluationState.SamePaths

variable {s t u : EvaluationState} {key : String}

lemma refl (s : EvaluationState) : s.SamePaths s := ⟨rfl, rfl⟩

lemma trans (h : s.SamePaths t) (h' : t.SamePaths u) : s.SamePaths u :=
  ⟨h.flagPath.trans h'.flagPath, h.segmentPath.trans h'.segmentPath⟩

/-- Leaving a flag undoes entering it. -/
lemma leaveFlag (h : s.SamePaths (t.enterFlag key)) : (s.leaveFlag key).SamePaths t := by
  refine ⟨?_, h.segmentPath⟩
  rw [leaveFlag_flagPath, h.flagPath, enterFlag_flagPath, List.erase_cons_head]

/-- Leaving a segment undoes entering it. -/
lemma leaveSegment (h : s.SamePaths (t.enterSegment key)) : (s.leaveSegment key).SamePaths t := by
  refine ⟨h.flagPath, ?_⟩
  rw [leaveSegment_segmentPath, h.segmentPath, enterSegment_segmentPath, List.erase_cons_head]

end EvaluationState.SamePaths

/-- Equal states on a path of segments that know about flags what a first state did. -/
structure OneRun (first : EvaluationState) (path : List String) (s t : EvaluationState) : Prop where
  eq : s = t
  segmentPath : s.segmentPath = path
  flags : s.SameFlags first

/-- Looking up memberships leaves the paths and flags of a run as they are. -/
lemma membershipOf_oneRun (setting : Setting) (first : EvaluationState) (path : List String)
    (contextKey : String) :
    Check.Similar (OneRun first path) (membershipOf setting contextKey)
      (membershipOf setting contextKey) := by
  rintro s _ ⟨rfl, hpath, hflags⟩
  rcases membershipOf_cases s setting contextKey with ⟨-, h⟩ | ⟨store, -, ⟨known, -, h⟩ |
    ⟨e, -, -, h⟩ | ⟨membership, status, -, -, h⟩⟩ <;> rw [h]
  · exact ⟨rfl, ⟨rfl, hpath, hflags.flagPath, hflags.cycle, hflags.events⟩, fun e he => by
      cases he; exact .inr rfl⟩
  · exact ⟨rfl, ⟨rfl, hpath, hflags⟩, fun e he => by cases he⟩
  · exact ⟨rfl, ⟨rfl, hpath, hflags.flagPath, hflags.cycle, hflags.events⟩, fun e he => by
      cases he; exact .inr rfl⟩
  · exact ⟨rfl, ⟨rfl, hpath, hflags.flagPath, hflags.cycle, hflags.events⟩, fun e he => by cases he⟩

/-- The states of one run are related to those of the same run. -/
lemma oneRun_checkRelation (setting : Setting) (first : EvaluationState) :
    CheckRelation setting setting (OneRun first) where
  data := .refl setting
  segmentPath path s t h := ⟨h.segmentPath, h.eq ▸ h.segmentPath⟩
  enterSegment path key s t h := by
    obtain ⟨rfl, hpath, hflags⟩ := h
    exact ⟨rfl, congrArg (key :: ·) hpath, hflags.flagPath, hflags.cycle, hflags.events⟩
  leaveSegment path key s t h := by
    obtain ⟨rfl, hpath, hflags⟩ := h
    refine ⟨rfl, ?_, hflags.flagPath, hflags.cycle, hflags.events⟩
    rw [EvaluationState.leaveSegment_segmentPath, hpath, List.erase_cons_head]
  found path status s t h := by
    obtain ⟨rfl, hpath, hflags⟩ := h
    exact ⟨rfl, hpath, hflags.flagPath, hflags.cycle, hflags.events⟩
  membershipOf path contextKey := membershipOf_oneRun setting first path contextKey

/-- A check that stays where it is on the path of segments, knows afterwards about flags what it knew
before, and fails only in the ways a check can fail. -/
structure Check.Framed (a : Check α) : Prop where
  segmentPath : ∀ s, (a.run.run s).2.segmentPath = s.segmentPath
  flags : ∀ s, (a.run.run s).2.SameFlags s
  error : ∀ s e, (a.run.run s).1 = .error e → e.OfCheck

/-- A check that is similar to itself within one run changes no path. -/
lemma Check.Framed.of_similar {a : Check α}
    (h : ∀ first path, Check.Similar (OneRun first path) a a) : a.Framed where
  segmentPath s := (h s _ s s ⟨rfl, rfl, .refl s⟩).state.segmentPath
  flags s := (h s _ s s ⟨rfl, rfl, .refl s⟩).state.flags
  error s := (h s _ s s ⟨rfl, rfl, .refl s⟩).error

/-- After a framed check the paths are as before. -/
lemma Check.Framed.samePaths {a : Check α} (ha : a.Framed) {s s' : EvaluationState}
    {answer : Except EvaluationError α} (h : a.run.run s = (answer, s')) : s'.SamePaths s := by
  have hpath := ha.segmentPath s
  have hflags := ha.flags s
  rw [h] at hpath hflags
  exact ⟨hflags.flagPath, hpath⟩

/-- Checks that come out alike in one run are the same. -/
lemma Check.eq_of_similar {a b : Check α}
    (h : ∀ s, Check.Similar (OneRun s s.segmentPath) a b) : a = b := by
  refine ExceptT.ext (StateT.ext fun s => ?_)
  have hs := h s s s ⟨rfl, rfl, .refl s⟩
  exact Prod.ext hs.answer hs.state.eq

/-! ## The recursion without a bound -/

section Unbounded

variable (setting)

/-- Nested segments are checked alike by the check of segments itself. -/
lemma nestedSimilar_contains (hR : CheckRelation setting other R) :
    NestedSimilar setting R path (·.contains setting) (·.contains other) :=
  fun _ segment _ _ _ => segment.contains_similar hR

/-- A segment is checked by checking the segments nested in it in the same way. -/
theorem Segment.contains_eq (segment : Segment) :
    segment.contains setting = segment.containsWith (·.contains setting) setting := by
  refine Check.eq_of_similar fun s t u htu => ?_
  have hR := oneRun_checkRelation setting s
  rw [Segment.run_contains, Segment.depthLeft, htu.segmentPath]
  cases hdepth : maxSegmentDepth - s.segmentPath.length with
  | zero =>
    -- there is no room, so whatever is nested is not asked for
    exact Segment.containsWith_similar hR (fun _ _ _ _ hroom => by omega) segment t u htu
  | succ depth =>
    refine Segment.containsWith_similar hR (fun key nestedSegment _ _ _ => ?_) segment t u htu
    have hlength : (key :: s.segmentPath).length = s.segmentPath.length + 1 := rfl
    exact nestedSegment.containsAt_similar_contains hR depth (by omega)

/-- A clause of a rule is checked by checking the segments it names. -/
lemma Clause.check_eq (c : Clause) :
    c.check setting = c.checkWith (·.contains setting) setting := by
  refine Check.eq_of_similar fun s t u htu => ?_
  have hR := oneRun_checkRelation setting s
  rw [Clause.run_check, Segment.depthLeft, htu.segmentPath]
  refine c.checkWith_similar hR (fun key segment _ _ _ => ?_) t u htu
  have hlength : (key :: s.segmentPath).length = s.segmentPath.length + 1 := rfl
  exact segment.containsAt_similar_contains hR _ (by omega)

/-- A rule is checked by checking the segments that its clauses name. -/
lemma FlagRule.check_eq (r : FlagRule) :
    r.check setting = checkClauses (·.contains setting) setting r.clauses := by
  refine Check.eq_of_similar fun s t u htu => ?_
  have hR := oneRun_checkRelation setting s
  rw [FlagRule.run_check, Segment.depthLeft, htu.segmentPath]
  refine checkClauses_similar hR (fun key segment _ _ _ => ?_) r.clauses t u htu
  have hlength : (key :: s.segmentPath).length = s.segmentPath.length + 1 := rfl
  exact segment.containsAt_similar_contains hR _ (by omega)

/-- The check of a clause changes no path. -/
lemma Clause.check_framed (c : Clause) : (c.check setting).Framed := by
  rw [Clause.check_eq]
  exact .of_similar fun first _ =>
    let hR := oneRun_checkRelation setting first
    c.checkWith_similar hR (nestedSimilar_contains setting hR)

/-- The check of a rule of a flag changes no path. -/
theorem FlagRule.check_framed (r : FlagRule) : (r.check setting).Framed := by
  rw [FlagRule.check_eq]
  exact .of_similar fun first _ =>
    let hR := oneRun_checkRelation setting first
    checkClauses_similar hR (nestedSimilar_contains setting hR) r.clauses

/-- The check of a rule of a segment changes no path. -/
lemma SegmentRule.checkWith_framed (r : SegmentRule) (key salt : String) :
    (r.checkWith (·.contains setting) setting key salt).Framed :=
  .of_similar fun first _ =>
    let hR := oneRun_checkRelation setting first
    r.checkWith_similar hR (nestedSimilar_contains setting hR) key salt

/-- The check of a segment changes no path. -/
lemma Segment.contains_framed (segment : Segment) : (segment.contains setting).Framed :=
  .of_similar fun first _ => segment.contains_similar (oneRun_checkRelation setting first)

end Unbounded

end FeatureFlags
