import FeatureFlags.Proofs.Evaluation.Nesting
import Mathlib.Data.Prod.Lex
import Mathlib.Logic.Relation
import Mathlib.Order.WellFounded

/-!
# The moments of an evaluation

A *moment* is something an evaluation is about to do, together with the state it does it from: evaluate a
flag, check the rest of some prerequisites, rules or clauses, check a segment. `Step` leads from a moment
to the moments that it gives rise to, which are either nested in it or come after a part of it is done.
An evaluation is made of the moments that are reached from its start.

* `step_wellFounded`: no chain of moments goes on for ever, since every step lowers `Moment.rank`. Lookups
  go by the keys in the catalog and the path holds own keys, so the rank counts the own keys that are not
  on the path, for a flag that need not be in the catalog together with its own.
* `Moment.Bounded`: on every path there are only known keys, each once, and not too many segments.
-/

namespace FeatureFlags

/-- Something that an evaluation has to do. -/
inductive Task where
  /-- Evaluate a flag. -/
  | flag (f : Flag)
  /-- Check prerequisites of a flag. -/
  | prerequisites (f : Flag) (rest : List Prerequisite)
  /-- Look for a rule of a flag that matches. -/
  | rules (f : Flag) (rest : List (FlagRule × Nat))
  /-- Check clauses. -/
  | clauses (rest : List Clause)
  /-- Check the segments named by values of a clause. -/
  | values (c : Clause) (rest : List AttributeValue)
  /-- Check a segment. -/
  | segment (segment : Segment)
  /-- Look for a rule of a segment that matches. -/
  | segmentRules (segment : Segment) (rest : List SegmentRule)

/-- A task and the state it is done from. -/
structure Moment where
  task : Task
  state : EvaluationState

/-- What an evaluation goes on with at a moment: a task nested in the one at hand, or what is left of it
once a part has been done. -/
inductive Step (setting : Setting) : Moment → Moment → Prop where
  | prerequisites {f s} (on : f.on = true) (fresh : f.key ∉ s.flagPath) :
      Step setting ⟨.flag f, s⟩ ⟨.prerequisites f f.prerequisites, s.enterFlag f.key⟩
  | rules {f s s'} (on : f.on = true) (fresh : f.key ∉ s.flagPath)
      (met : f.runPrerequisites setting f.prerequisites (s.enterFlag f.key) = (none, s'))
      (untargeted : f.targetVariation? setting.context = none) :
      Step setting ⟨.flag f, s⟩ ⟨.rules f f.rules.zipIdx, s'.leaveFlag f.key⟩
  | prerequisite {f p rest g s} (found : setting.catalog.flag? p.key = some g) :
      Step setting ⟨.prerequisites f (p :: rest), s⟩ ⟨.flag g, s⟩
  | nextPrerequisite {f p rest g s s' result} (found : setting.catalog.flag? p.key = some g)
      (evaluated : g.run setting s = (result, s')) (acyclic : s'.cycle = false) (on : g.on = true)
      (served : result.variationIndex = some p.variation) :
      Step setting ⟨.prerequisites f (p :: rest), s⟩
        ⟨.prerequisites f rest, s'.record ⟨f.key, setting.context, g, result⟩⟩
  | ruleClauses {f rule index rest s} :
      Step setting ⟨.rules f ((rule, index) :: rest), s⟩ ⟨.clauses rule.clauses, s⟩
  | nextRule {f rule index rest s s'} (unmatched : (rule.check setting).run.run s = (.ok false, s')) :
      Step setting ⟨.rules f ((rule, index) :: rest), s⟩ ⟨.rules f rest, s'⟩
  | values {c rest s} (segments : c.op = .segmentMatch) :
      Step setting ⟨.clauses (c :: rest), s⟩ ⟨.values c c.values, s⟩
  | nextClause {c rest s s'} (holds : (c.check setting).run.run s = (.ok true, s')) :
      Step setting ⟨.clauses (c :: rest), s⟩ ⟨.clauses rest, s'⟩
  | segment {c v rest key inner s} (named : v.string? = some key) (fresh : key ∉ s.segmentPath)
      (room : s.segmentPath.length < maxSegmentDepth)
      (found : setting.catalog.segment? key = some inner) :
      Step setting ⟨.values c (v :: rest), s⟩ ⟨.segment inner, s.enterSegment key⟩
  | skippedValue {c v rest s}
      (skipped : ∀ key, v.string? = some key → key ∈ s.segmentPath ∨
        maxSegmentDepth ≤ s.segmentPath.length ∨ setting.catalog.segment? key = none) :
      Step setting ⟨.values c (v :: rest), s⟩ ⟨.values c rest, s⟩
  | nextValue {c v rest key inner s s'} (named : v.string? = some key) (fresh : key ∉ s.segmentPath)
      (room : s.segmentPath.length < maxSegmentDepth)
      (found : setting.catalog.segment? key = some inner)
      (outside : (inner.contains setting).run.run (s.enterSegment key) = (.ok false, s')) :
      Step setting ⟨.values c (v :: rest), s⟩ ⟨.values c rest, s'.leaveSegment key⟩
  | segmentRules {inner s} (bounded : inner.unbounded = false)
      (notExcluded : inner.excludes setting.context = false)
      (notIncluded : inner.includes setting.context = false) :
      Step setting ⟨.segment inner, s⟩ ⟨.segmentRules inner inner.rules, s⟩
  | segmentRuleClauses {inner r rest s} :
      Step setting ⟨.segmentRules inner (r :: rest), s⟩ ⟨.clauses r.clauses, s⟩
  | nextSegmentRule {inner r rest s s'}
      (unmatched : (r.checkWith (·.contains setting) setting inner.key inner.salt).run.run s =
        (.ok false, s')) :
      Step setting ⟨.segmentRules inner (r :: rest), s⟩ ⟨.segmentRules inner rest, s'⟩

/-- A moment is reached from another one in any number of steps. -/
def Reaches (setting : Setting) : Moment → Moment → Prop := Relation.ReflTransGen (Step setting)

/-- A moment is reached from another one in at least one step. -/
def LeadsTo (setting : Setting) : Moment → Moment → Prop := Relation.TransGen (Step setting)

/-- The moment at which an evaluation of a flag starts. -/
def Moment.start (f : Flag) : Moment := ⟨.flag f, .initial⟩

variable {setting : Setting}

/-! ## No chain of moments goes on for ever -/

/-- Four numbers in lexicographic order. -/
def lexRank (a b c d : ℕ) : ℕ ×ₗ ℕ ×ₗ ℕ ×ₗ ℕ := toLex (a, toLex (b, toLex (c, d)))

/-- The rank orders its four parts lexicographically. -/
lemma lexRank_lt_lexRank {a b c d a' b' c' d' : ℕ} :
    lexRank a b c d < lexRank a' b' c' d' ↔
      a < a' ∨ a = a' ∧ (b < b' ∨ b = b' ∧ (c < c' ∨ c = c' ∧ d < d')) := by
  simp only [lexRank, Prod.Lex.toLex_lt_toLex]

/-- How much there is left to do at a moment: first by the keys that flags can still take, then by the
room for segments, then by the tasks that are nested in each other, then by the length of what is left of
a list. -/
def Moment.rank (catalog : Catalog) : Moment → ℕ ×ₗ ℕ ×ₗ ℕ ×ₗ ℕ
  | ⟨.flag f, s⟩ => lexRank (f.keysLeft catalog s.flagPath) 0 0 0
  | ⟨.prerequisites _ rest, s⟩ => lexRank (catalog.keysLeft s.flagPath) 1 0 rest.length
  | ⟨.segment _, s⟩ => lexRank 0 (Segment.depthLeft s) 3 0
  | ⟨.rules _ rest, s⟩ => lexRank 0 (Segment.depthLeft s) 2 rest.length
  | ⟨.segmentRules _ rest, s⟩ => lexRank 0 (Segment.depthLeft s) 2 rest.length
  | ⟨.clauses rest, s⟩ => lexRank 0 (Segment.depthLeft s) 1 rest.length
  | ⟨.values _ rest, s⟩ => lexRank 0 (Segment.depthLeft s) 0 rest.length

/-- States on the same paths have the same room for segments. -/
lemma EvaluationState.SamePaths.depthLeft {s t : EvaluationState} (h : s.SamePaths t) :
    Segment.depthLeft s = Segment.depthLeft t := by
  rw [Segment.depthLeft, h.segmentPath, Segment.depthLeft]

/-- Every step of an evaluation lowers the rank, which is what makes the steps well founded. -/
lemma rank_lt_of_step {m m' : Moment} (h : Step setting m m') :
    m'.rank setting.catalog < m.rank setting.catalog := by
  cases h with
  | prerequisites on fresh =>
    rw [Moment.rank, Moment.rank, lexRank_lt_lexRank]
    exact .inl (Flag.keysLeft_enter_lt setting.catalog fresh)
  | rules on fresh met untargeted =>
    have hkeys := Flag.keysLeft_enter_lt setting.catalog fresh
    rw [Moment.rank, Moment.rank, lexRank_lt_lexRank]
    exact .inl (Nat.zero_lt_of_lt hkeys)
  | @prerequisite f p rest g s found =>
    -- the flag is stored, so its own key is counted already
    have hkeys := Flag.keysLeft_of_mem_ownKeys s.flagPath (Catalog.key_mem_ownKeys found)
    rw [Moment.rank, Moment.rank, lexRank_lt_lexRank]
    omega
  | @nextPrerequisite f p rest g s s' result found evaluated =>
    -- the path is what it was before, and the list is shorter
    have hpath := (g.run_framed setting s).flagPath
    rw [evaluated] at hpath
    rw [Moment.rank, Moment.rank, lexRank_lt_lexRank, EvaluationState.record_flagPath, hpath,
      List.length_cons]
    omega
  | ruleClauses =>
    rw [Moment.rank, Moment.rank, lexRank_lt_lexRank]
    omega
  | @nextRule f rule index rest s s' unmatched =>
    have hroom := ((rule.check_framed setting).samePaths unmatched).depthLeft
    rw [Moment.rank, Moment.rank, lexRank_lt_lexRank, List.length_cons]
    omega
  | values segments =>
    rw [Moment.rank, Moment.rank, lexRank_lt_lexRank]
    omega
  | @nextClause c rest s s' holds =>
    have hroom := ((c.check_framed setting).samePaths holds).depthLeft
    rw [Moment.rank, Moment.rank, lexRank_lt_lexRank, List.length_cons]
    omega
  | @segment c v rest key inner s named fresh room found =>
    have hroom : Segment.depthLeft (s.enterSegment key) = Segment.depthLeft s - 1 := rfl
    have hleft : 0 < Segment.depthLeft s := Nat.sub_pos_of_lt room
    rw [Moment.rank, Moment.rank, lexRank_lt_lexRank]
    omega
  | skippedValue =>
    rw [Moment.rank, Moment.rank, lexRank_lt_lexRank, List.length_cons]
    omega
  | @nextValue c v rest key inner s s' named fresh room found outside =>
    have hroom := ((inner.contains_framed setting).samePaths outside).leaveSegment.depthLeft
    rw [Moment.rank, Moment.rank, lexRank_lt_lexRank, List.length_cons]
    omega
  | segmentRules =>
    rw [Moment.rank, Moment.rank, lexRank_lt_lexRank]
    omega
  | segmentRuleClauses =>
    rw [Moment.rank, Moment.rank, lexRank_lt_lexRank]
    omega
  | @nextSegmentRule inner r rest s s' unmatched =>
    have hroom :=
      ((r.checkWith_framed setting inner.key inner.salt).samePaths unmatched).depthLeft
    rw [Moment.rank, Moment.rank, lexRank_lt_lexRank, List.length_cons]
    omega

/-- No chain of moments goes on for ever, whatever the catalog refers to and from whatever state. -/
theorem step_wellFounded (setting : Setting) :
    WellFounded fun later earlier => Step setting earlier later :=
  Subrelation.wf rank_lt_of_step (InvImage.wf (Moment.rank setting.catalog) wellFounded_lt)

/-! ## What is on the paths -/

/-- What holds at all moments of the evaluation of a flag: on the path of flags there are only keys that
are known to it, each once, and on the path of segments there are not too many keys. -/
structure Moment.Bounded (root : Flag) (catalog : Catalog) (m : Moment) : Prop where
  known : ∀ key ∈ m.state.flagPath, key ∈ root.knownKeys catalog
  once : m.state.flagPath.Nodup
  room : m.state.segmentPath.length ≤ maxSegmentDepth
  /-- A flag that is about to be evaluated has a known key. -/
  next : ∀ f, m.task = .flag f → f.key ∈ root.knownKeys catalog

namespace Moment.Bounded

variable {root : Flag} {catalog : Catalog} {m m' : Moment}

lemma start (f : Flag) (catalog : Catalog) : (Moment.start f).Bounded f catalog where
  known key hkey := by cases hkey
  once := .nil
  room := Nat.zero_le _
  next g hg := by
    cases hg
    exact List.mem_toFinset.mpr List.mem_cons_self

/-- Since each known key is on the path only once, there are no more flags on it than known keys. -/
lemma length_flagPath_le (h : m.Bounded root catalog) :
    m.state.flagPath.length ≤ root.keyCount catalog := by
  rw [← Flag.card_knownKeys, ← List.toFinset_card_of_nodup h.once]
  exact Finset.card_le_card fun key hkey => h.known key (List.mem_toFinset.mp hkey)

/-- The bounds stay for another task on the same paths. -/
lemma of_samePaths (h : m.Bounded root catalog) (hpaths : m'.state.SamePaths m.state)
    (hnext : ∀ f, m'.task = .flag f → f.key ∈ root.knownKeys catalog) : m'.Bounded root catalog where
  known := by
    rw [hpaths.flagPath]
    exact h.known
  once := by
    rw [hpaths.flagPath]
    exact h.once
  room := by
    rw [hpaths.segmentPath]
    exact h.room
  next := hnext

/-- A step keeps the paths within their bounds: each path grows by a key it does not hold yet. -/
lemma step (h : m.Bounded root setting.catalog) (hstep : Step setting m m') :
    m'.Bounded root setting.catalog := by
  cases hstep with
  -- the key that enters the path is new to it, and one of the flag or of the catalog
  | @prerequisites f s on fresh =>
    refine ⟨fun key hkey => ?_, ?_, h.room, fun g hg => by cases hg⟩
    · rcases List.mem_cons.mp hkey with rfl | hpath
      · exact h.next f rfl
      · exact h.known key hpath
    · exact List.nodup_cons.mpr ⟨fresh, h.once⟩
  | @rules f s s' on fresh met untargeted =>
    have hpaths := f.runPrerequisites_framed setting f.prerequisites (s.enterFlag f.key)
    rw [met] at hpaths
    exact h.of_samePaths hpaths.leaveFlag fun g hg => by cases hg
  | @prerequisite f p rest g s found =>
    refine h.of_samePaths (.refl s) fun g' hg => ?_
    cases hg
    exact List.mem_toFinset.mpr (List.mem_cons_of_mem _ (Catalog.key_mem_ownKeys found))
  | @nextPrerequisite f p rest g s s' result found evaluated =>
    have hpaths := g.run_framed setting s
    rw [evaluated] at hpaths
    exact h.of_samePaths ⟨hpaths.flagPath, hpaths.segmentPath⟩ fun g hg => by cases hg
  -- the room on the segment path is what the step asks for
  | @segment c v rest key inner s named fresh room found =>
    exact ⟨h.known, h.once, room, fun g hg => by cases hg⟩
  | @nextRule f rule index rest s s' unmatched =>
    exact h.of_samePaths ((rule.check_framed setting).samePaths unmatched) fun g hg => by cases hg
  | @nextClause c rest s s' holds =>
    exact h.of_samePaths ((c.check_framed setting).samePaths holds) fun g hg => by cases hg
  | @nextValue c v rest key inner s s' named fresh room found outside =>
    exact h.of_samePaths ((inner.contains_framed setting).samePaths outside).leaveSegment
      fun g hg => by cases hg
  | @nextSegmentRule inner r rest s s' unmatched =>
    exact h.of_samePaths
      ((r.checkWith_framed setting inner.key inner.salt).samePaths unmatched) fun g hg => by cases hg
  | ruleClauses | values | skippedValue | segmentRules | segmentRuleClauses =>
    exact h.of_samePaths (.refl _) fun g hg => by cases hg

/-- Every moment of an evaluation stays within the bounds of its flag. -/
lemma of_reaches {f : Flag} (h : Reaches setting (.start f) m) : m.Bounded f setting.catalog := by
  induction h with
  | refl => exact .start f setting.catalog
  | tail _ hstep ih => exact ih.step hstep

end Moment.Bounded

/-! ## A ring -/

/-- Two flags that require each other, by keys that are not their own. -/
def Setting.ring : Setting := .ofFlags [("p", .requiring "a" ["q"]), ("q", .requiring "b" ["p"])]

/-- The evaluation of the first flag of the ring comes back to it inside of both flags. -/
lemma Setting.ring_reaches :
    Reaches .ring (.start (.requiring "a" ["q"]))
      ⟨.flag (.requiring "a" ["q"]), (EvaluationState.initial.enterFlag "a").enterFlag "b"⟩ :=
  .tail (.tail (.tail (.tail .refl
    (.prerequisites rfl (by decide))) (.prerequisite rfl)) (.prerequisites rfl (by decide)))
    (.prerequisite rfl)

end FeatureFlags
