import FeatureFlags.Proofs.Evaluation.Composition
import FeatureFlags.Proofs.Evaluation.Queries
import FeatureFlags.Proofs.Json.Alike

/-!
# Nested segments by plain recursion

A clause with the operator `segmentMatch` has a meaning that does without any path of segments: some value
names a segment that contains the context, and the clauses of segments are read in the same way. This
recursion need not end. `readSegment` carries it out to some depth, with no answer where it is cut off, and
what a clause means (`Clause.Reads`) is the answer for all depths from some depth on.

The check of a clause has guards instead, against cycles and against too much nesting. They make no
difference where no chain of references is longer than `maxSegmentDepth` (`Clause.reads_iff`).

* `SegmentChain`: segments of which each one is named by the one before.
* `Check.ReadsAs`: on a path, a check answers what a reading does.
* `nestedReads`: what is named inside of a path is checked as it is read, since a segment of the path could
  be named only if there were longer chains than the longest one.
-/

namespace FeatureFlags

/-! ## Reading clauses -/

/-- An answer by plain recursion. There is none where the recursion is cut off. -/
abbrev Reading := ExceptT EvaluationError Option Bool

/-- An answer that needs no recursion. -/
def Reading.ofAnswer (answer : Except EvaluationError Bool) : Reading := ExceptT.mk (some answer)

/-- Whether an unbounded segment contains the context, by what the big segment store answers. A store that
always answers the same may as well be asked once. -/
def Segment.unboundedAnswer (segment : Segment) (setting : Setting) : Except EvaluationError Bool :=
  match segment.generation with
  | none => .error .bigSegmentsUnavailable
  | some _ =>
    match setting.context.entity? (segment.unboundedContextKind.getD .user) with
    | none => .ok false
    | some e => do
      let membership ← setting.answerAt 0 e.key
      return (membership.bind (·.check segment.unboundedId)).getD false

section Readings

variable (setting : Setting) (nested : Segment → Reading)

/-- Whether some value names a segment that contains the context. -/
def readValues : List AttributeValue → Reading
  | [] => return false
  | v :: rest =>
    match v.string?.bind setting.catalog.segment? with
    | none => readValues rest
    | some segment => do
      if ← nested segment then return true else readValues rest

/-- Whether a clause holds. What its values say is negated at the end. -/
def readClause (c : Clause) : Reading :=
  if c.op = .segmentMatch then do
    let found ← readValues setting nested c.values
    return c.maybeNegate found
  else return c.holds setting.context

/-- Whether all clauses hold. -/
def readClauses : List Clause → Reading
  | [] => return true
  | c :: rest => do
    if ← readClause setting nested c then readClauses rest else return false

/-- Whether a rule of a segment matches. -/
def readRule (segment : Segment) (r : SegmentRule) : Reading := do
  if ← readClauses setting nested r.clauses then
    Reading.ofAnswer (r.admits segment.key segment.salt setting.context)
  else return false

/-- Whether some rule of a segment matches. -/
def readRules (segment : Segment) : List SegmentRule → Reading
  | [] => return false
  | r :: rest => do
    if ← readRule setting nested segment r then return true else readRules segment rest

/-- Whether a segment contains the context. -/
def readSegmentWith (segment : Segment) : Reading :=
  if segment.unbounded then Reading.ofAnswer (segment.unboundedAnswer setting)
  else if segment.excludes setting.context then return false
  else if segment.includes setting.context then return true
  else readRules setting nested segment segment.rules

end Readings

/-- Whether a segment contains the context, by plain recursion that is cut off at some depth. -/
def readSegment (setting : Setting) : Nat → Segment → Reading
  | 0, _ => ExceptT.mk none
  | depth + 1, segment => readSegmentWith setting (readSegment setting depth) segment

/-- Plain recursion ends with an answer for a clause: from some depth on, it is the same for all depths. -/
def Clause.Reads (setting : Setting) (c : Clause) (answer : Except EvaluationError Bool) : Prop :=
  ∃ depth, ∀ deeper ≥ depth, (readClause setting (readSegment setting deeper) c).run = some answer

/-! ## Chains of references -/

/-- The keys of segments that a clause names. -/
def Clause.segmentKeys (c : Clause) : List String :=
  if c.op = .segmentMatch then c.values.filterMap (·.string?) else []

/-- The keys of segments that the rules of a segment name. -/
def Segment.segmentKeys (segment : Segment) : List String :=
  segment.rules.flatMap (·.clauses.flatMap Clause.segmentKeys)

/-- Keys of stored segments, of which the first one is among some keys and each other one is named by the
segment before. -/
inductive SegmentChain (catalog : Catalog) : List String → List String → Prop where
  | nil {keys} : SegmentChain catalog keys []
  | cons {keys key segment chain} (named : key ∈ keys) (found : catalog.segment? key = some segment)
      (next : SegmentChain catalog segment.segmentKeys chain) : SegmentChain catalog keys (key :: chain)

/-- A chain than which there is no longer one from the same keys. -/
structure SegmentChain.Longest (catalog : Catalog) (keys chain : List String) : Prop where
  isChain : SegmentChain catalog keys chain
  length_le : ∀ other, SegmentChain catalog keys other → other.length ≤ chain.length

variable {catalog : Catalog} {keys : List String}

/-- If chains do not become arbitrarily long, one of them is the longest. -/
lemma SegmentChain.exists_longest {n : Nat}
    (h : ∀ chain, SegmentChain catalog keys chain → chain.length ≤ n) :
    ∃ chain, SegmentChain.Longest catalog keys chain := by
  induction n with
  | zero => exact ⟨[], .nil, fun other hother => h other hother⟩
  | succ n ih =>
    by_cases hfull : ∃ chain, SegmentChain catalog keys chain ∧ chain.length = n + 1
    · obtain ⟨chain, hchain, hlength⟩ := hfull
      exact ⟨chain, hchain, fun other hother => hlength ▸ h other hother⟩
    · refine ih fun chain hchain => Nat.le_of_lt_succ (lt_of_le_of_ne (h chain hchain) ?_)
      exact fun hlength => hfull ⟨chain, hchain, hlength⟩

/-- The segments that are named have chains that are shorter by one. -/
lemma SegmentChain.Longest.length_lt {key : String} {segment : Segment} {chain next : List String}
    (h : SegmentChain.Longest catalog keys chain) (hnamed : key ∈ keys)
    (hfound : catalog.segment? key = some segment)
    (hnext : SegmentChain catalog segment.segmentKeys next) : next.length < chain.length :=
  h.length_le (key :: next) (.cons hnamed hfound hnext)

/-! ## Checks that answer what is read -/

/-- A state on a path of segments that remembers nothing wrong of the big segment store. -/
structure EvaluationState.FaithfulOn (setting : Setting) (path : List String) (s : EvaluationState) :
    Prop where
  segmentPath : s.segmentPath = path
  faithful : s.Faithful setting

/-- On a path of segments, a check answers what a reading does: the reading has an answer, and the check
gives it from whatever state on that path. -/
def Check.ReadsAs (setting : Setting) (path : List String) (a : Check Bool) (reading : Reading) : Prop :=
  ∃ answer, reading.run = some answer ∧
    ∀ s : EvaluationState, s.FaithfulOn setting path →
      (a.run.run s).1 = answer ∧ (a.run.run s).2.FaithfulOn setting path

variable {setting : Setting} {path : List String}

namespace Check.ReadsAs

lemma ofAnswer (answer : Except EvaluationError Bool) :
    Check.ReadsAs setting path (ExceptT.mk (Pure.pure answer)) (.ofAnswer answer) :=
  ⟨answer, rfl, fun _ hs => ⟨rfl, hs⟩⟩

lemma pure (b : Bool) : Check.ReadsAs setting path (Pure.pure b) (Pure.pure b) :=
  ofAnswer (.ok b)

/-- Checks in sequence read as their readings in sequence: an answer of the first leaves the segment path
where the second expects it. -/
lemma bind {a : Check Bool} {reading : Reading} {f : Bool → Check Bool} {g : Bool → Reading}
    (ha : a.ReadsAs setting path reading) (hf : ∀ b, (f b).ReadsAs setting path (g b)) :
    Check.ReadsAs setting path (a >>= f) (reading >>= g) := by
  obtain ⟨answer, hreading, ha⟩ := ha
  cases answer with
  | error e =>
    -- an error is the answer of both, whatever would have come next
    refine ⟨.error e, ?_, fun s hs => ?_⟩
    · rw [ExceptT.run_bind, hreading]
      rfl
    · obtain ⟨hanswer, hs'⟩ := ha s hs
      rw [Check.run_bind_of_error hanswer]
      exact ⟨rfl, hs'⟩
  | ok b =>
    obtain ⟨answer, hg, hf⟩ := hf b
    refine ⟨answer, ?_, fun s hs => ?_⟩
    · rw [ExceptT.run_bind, hreading]
      exact hg
    · obtain ⟨hanswer, hs'⟩ := ha s hs
      rw [Check.run_bind_of_ok hanswer]
      exact hf _ hs'

/-- Inside a segment the path is longer by its key, and on the way out it is shorter again. -/
lemma insideSegment {key : String} {a : Check Bool} {reading : Reading}
    (ha : a.ReadsAs setting (key :: path) reading) :
    Check.ReadsAs setting path (insideSegment key a) reading := by
  obtain ⟨answer, hreading, ha⟩ := ha
  refine ⟨answer, hreading, fun s hs => ?_⟩
  obtain ⟨hanswer, hs'⟩ := ha (s.enterSegment key) ⟨congrArg (key :: ·) hs.segmentPath, hs.faithful⟩
  rw [run_insideSegment]
  refine ⟨hanswer, ?_, hs'.faithful⟩
  rw [EvaluationState.leaveSegment_segmentPath, hs'.segmentPath, List.erase_cons_head]

end Check.ReadsAs

/-- All segments that are stored under some keys can be entered on a path, and inside of it they are checked
as they are read. -/
def NestedReads (setting : Setting) (path keys : List String) (nested : Segment → Reading) : Prop :=
  ∀ key ∈ keys, ∀ segment, setting.catalog.segment? key = some segment →
    key ∉ path ∧ path.length < maxSegmentDepth ∧
      (segment.contains setting).ReadsAs setting (key :: path) (nested segment)

variable {nested : Segment → Reading}

lemma NestedReads.mono {keys' : List String} (h : NestedReads setting path keys nested)
    (hsub : keys' ⊆ keys) : NestedReads setting path keys' nested :=
  fun key hkey => h key (hsub hkey)

/-! ## Clauses, rules and segments -/

/-- Checks that come out the same on a path answer what the same reading does. -/
lemma Check.ReadsAs.of_eqOn {a b : Check Bool} {reading : Reading}
    (hb : b.ReadsAs setting path reading)
    (heq : ∀ s : EvaluationState, s.segmentPath = path → a.run.run s = b.run.run s) :
    a.ReadsAs setting path reading := by
  obtain ⟨answer, hreading, hb⟩ := hb
  refine ⟨answer, hreading, fun s hs => ?_⟩
  rw [heq s hs.segmentPath]
  exact hb s hs

/-- What follows the reading of values goes on from the segment that the first one names, or from the
others. -/
lemma readValues_cons_bind {v : AttributeValue} {segment : Segment}
    (hnamed : v.string?.bind setting.catalog.segment? = some segment) (rest : List AttributeValue)
    (f : Bool → Reading) :
    readValues setting nested (v :: rest) >>= f =
      nested segment >>= fun found =>
        if found then f true else readValues setting nested rest >>= f := by
  rw [readValues, hnamed]
  dsimp only
  rw [bind_assoc]
  refine bind_congr fun found => ?_
  cases found <;> rfl

/-- A `segmentMatch` clause reads as a search through its values for one that names a segment holding the
context. -/
lemma Clause.matchesSegments_readsAs (c : Clause) (values : List AttributeValue)
    (hn : NestedReads setting path (values.filterMap (·.string?)) nested) :
    (c.matchesSegments (·.contains setting) setting values).ReadsAs setting path
      (readValues setting nested values >>= fun found => pure (c.maybeNegate found)) := by
  induction values with
  | nil =>
    rw [readValues]
    exact .pure _
  | cons v rest ih =>
    have hrest := ih (hn.mono (List.filterMap_subset _ (List.subset_cons_self v rest)))
    -- a value that is passed over by plain recursion is passed over by the check, and the other way round
    cases hnamed : v.string?.bind setting.catalog.segment? with
    | none =>
      rw [readValues, hnamed]
      refine hrest.of_eqOn fun s _ => run_matchesSegments_of_none c _ rest ?_
      refine EvaluationState.segmentFor?_eq_none_iff.mpr fun key hv => .inr (.inr ?_)
      rwa [hv] at hnamed
    | some segment =>
      obtain ⟨key, hv, hfound⟩ := Option.bind_eq_some_iff.mp hnamed
      have hkey : key ∈ (v :: rest).filterMap (·.string?) :=
        List.mem_filterMap.mpr ⟨v, List.mem_cons_self, hv⟩
      obtain ⟨hfresh, hroom, hsegment⟩ := hn key hkey segment hfound
      rw [readValues_cons_bind hnamed]
      have hboth := hsegment.insideSegment.bind
        (f := fun found => if found then pure (c.maybeNegate true)
          else c.matchesSegments (·.contains setting) setting rest)
        (g := fun found => if found then pure (c.maybeNegate true)
          else readValues setting nested rest >>= fun found => pure (c.maybeNegate found))
        fun found => by
          cases found with
          | false => exact hrest
          | true => exact .pure _
      refine hboth.of_eqOn fun s hs => ?_
      have hpassed : s.segmentFor? setting v = some (key, segment) :=
        EvaluationState.segmentFor?_eq_some_iff.mpr ⟨hv, hs ▸ hfresh, hs ▸ hroom, hfound⟩
      rw [run_matchesSegments_of_some c _ rest hpassed, Check.run_bind]
      rcases (insideSegment key (segment.contains setting)).run.run s with ⟨_ | _ | _, s'⟩ <;> rfl

/-- A clause reads as `readClause` does, given readings of the segments it names. -/
lemma Clause.checkWith_readsAs (c : Clause) (hn : NestedReads setting path c.segmentKeys nested) :
    (c.checkWith (·.contains setting) setting).ReadsAs setting path (readClause setting nested c) := by
  rw [Clause.checkWith, readClause]
  by_cases hop : c.op = .segmentMatch
  · rw [if_pos hop, if_pos hop]
    rw [Clause.segmentKeys, if_pos hop] at hn
    exact c.matchesSegments_readsAs c.values hn
  · rw [if_neg hop, if_neg hop]
    exact .pure _

/-- By induction on the clauses, each read with the part of the segment keys that it names. -/
lemma checkClauses_readsAs (clauses : List Clause)
    (hn : NestedReads setting path (clauses.flatMap Clause.segmentKeys) nested) :
    (checkClauses (·.contains setting) setting clauses).ReadsAs setting path
      (readClauses setting nested clauses) := by
  induction clauses with
  | nil =>
    rw [readClauses]
    exact .pure _
  | cons c rest ih =>
    rw [List.flatMap_cons] at hn
    rw [checkClauses, readClauses]
    refine (c.checkWith_readsAs (hn.mono (List.subset_append_left _ _))).bind fun holds => ?_
    cases holds with
    | false => exact .pure _
    | true => exact ih (hn.mono (List.subset_append_right _ _))

/-- A rule reads as its clauses followed by the bucket of its weight. -/
lemma SegmentRule.checkWith_readsAs (segment : Segment) (r : SegmentRule)
    (hn : NestedReads setting path (r.clauses.flatMap Clause.segmentKeys) nested) :
    (r.checkWith (·.contains setting) setting segment.key segment.salt).ReadsAs setting path
      (readRule setting nested segment r) := by
  rw [SegmentRule.checkWith, readRule]
  refine (checkClauses_readsAs r.clauses hn).bind fun hold => ?_
  cases hold with
  | false => exact .pure _
  | true => exact .ofAnswer _

namespace Segment

/-- By induction on the rules: a rule that does not match leaves the state for the next as it was. -/
lemma checkRules_readsAs (segment : Segment) (rules : List SegmentRule)
    (hn : NestedReads setting path (rules.flatMap (·.clauses.flatMap Clause.segmentKeys)) nested) :
    (segment.checkRules (·.contains setting) setting rules).ReadsAs setting path
      (readRules setting nested segment rules) := by
  induction rules with
  | nil =>
    rw [readRules]
    exact .pure _
  | cons r rest ih =>
    rw [List.flatMap_cons] at hn
    rw [checkRules, readRules]
    refine (r.checkWith_readsAs segment (hn.mono (List.subset_append_left _ _))).bind fun matched => ?_
    cases matched with
    | false => exact ih (hn.mono (List.subset_append_right _ _))
    | true => exact .pure _

/-- An unbounded segment reads as the store's answer, once no answer changes during the evaluation. -/
lemma containsUnbounded_readsAs (hsteady : setting.Steady) (segment : Segment) :
    (segment.containsUnbounded setting).ReadsAs setting path
      (.ofAnswer (segment.unboundedAnswer setting)) := by
  rw [containsUnbounded, unboundedAnswer]
  cases segment.generation with
  | none => exact ⟨_, rfl, fun s hs => ⟨rfl, hs.segmentPath, hs.faithful⟩⟩
  | some _ =>
    dsimp only
    cases setting.context.entity? (segment.unboundedContextKind.getD .user) with
    | none => exact .pure _
    | some e =>
      -- every state that remembers only what the store answers gives the same answer
      refine ⟨_, rfl, fun s hs => ?_⟩
      obtain ⟨hanswer, hfaithful⟩ := membershipOf_faithful hsteady hs.faithful e.key
      have hpath := (membershipOf_oneRun setting s path e.key s s
        ⟨rfl, hs.segmentPath, .refl s⟩).state.segmentPath
      dsimp only
      cases hlearned : setting.answerAt 0 e.key with
      | error failure =>
        rw [Check.run_bind_of_error (hanswer.trans hlearned)]
        exact ⟨rfl, hpath, hfaithful⟩
      | ok membership =>
        rw [Check.run_bind_of_ok (hanswer.trans hlearned)]
        exact ⟨rfl, hpath, hfaithful⟩

/-- A segment reads as `readSegmentWith` does, given readings of the segments its rules name. -/
lemma contains_readsAs (hsteady : setting.Steady) (segment : Segment)
    (hn : NestedReads setting path segment.segmentKeys nested) :
    (segment.contains setting).ReadsAs setting path (readSegmentWith setting nested segment) := by
  rw [contains_eq, containsWith, readSegmentWith]
  split_ifs
  · exact segment.containsUnbounded_readsAs hsteady
  · exact .pure _
  · exact .pure _
  · exact segment.checkRules_readsAs segment.rules hn

end Segment

/-! ## Nesting that the guards do not notice -/

/-- There is room on a path for a chain of this length, and from each segment on the path there is one. -/
structure PathAbove (catalog : Catalog) (path : List String) (length : Nat) : Prop where
  room : path.length + length ≤ maxSegmentDepth
  above : ∀ key ∈ path, ∀ segment, catalog.segment? key = some segment →
    ∃ chain, SegmentChain catalog segment.segmentKeys chain ∧ length ≤ chain.length

/-- Whatever is named inside of a path is checked as it is read, if reading goes as deep as the longest
chain. -/
theorem nestedReads (hsteady : setting.Steady) {chain : List String} {depth : Nat}
    (hchain : SegmentChain.Longest setting.catalog keys chain)
    (hpath : PathAbove setting.catalog path chain.length) (hdepth : chain.length ≤ depth) :
    NestedReads setting path keys (readSegment setting depth) := by
  induction depth generalizing keys chain path with
  | zero =>
    -- a segment that is named would make a chain of length one
    intro key hkey segment hfound
    have hlength := hchain.length_lt hkey hfound .nil
    omega
  | succ depth ih =>
    intro key hkey segment hfound
    have hshorter : ∀ next, SegmentChain setting.catalog segment.segmentKeys next →
        next.length < chain.length := fun _ => hchain.length_lt hkey hfound
    obtain ⟨next, hnext⟩ := SegmentChain.exists_longest fun next h => (hshorter next h).le
    have hless := hshorter next hnext.isChain
    -- a segment of the path has chains that are too long for what is named here
    have hfresh : key ∉ path := by
      intro hmem
      obtain ⟨longer, hlonger, hle⟩ := hpath.above key hmem segment hfound
      exact absurd (hshorter longer hlonger) (Nat.not_lt.mpr hle)
    have hroom := hpath.room
    have hinner : PathAbove setting.catalog (key :: path) next.length := by
      refine ⟨?_, fun other hother inner hinner => ?_⟩
      · rw [List.length_cons]
        omega
      · rcases List.mem_cons.mp hother with rfl | hmem
        · rw [hfound] at hinner
          cases hinner
          exact ⟨next, hnext.isChain, le_rfl⟩
        · obtain ⟨longer, hlonger, hle⟩ := hpath.above other hmem inner hinner
          exact ⟨longer, hlonger, by omega⟩
    exact ⟨hfresh, by omega, segment.contains_readsAs hsteady (ih hnext hinner (by omega))⟩

/-- From a fresh state, a clause is checked as it is read. -/
lemma Clause.read_eq_check (hsteady : setting.Steady) (c : Clause)
    (h : ∀ chain, SegmentChain setting.catalog c.segmentKeys chain → chain.length ≤ maxSegmentDepth)
    {depth : Nat} (hdepth : maxSegmentDepth ≤ depth) :
    (readClause setting (readSegment setting depth) c).run =
      some ((c.check setting).run.run .initial).1 := by
  obtain ⟨chain, hchain⟩ := SegmentChain.exists_longest h
  have hlength := h chain hchain.isChain
  have hpath : PathAbove setting.catalog [] chain.length := by
    refine ⟨?_, fun key hkey => by cases hkey⟩
    rwa [List.length_nil, Nat.zero_add]
  obtain ⟨answer, hread, hcheck⟩ :=
    c.checkWith_readsAs (nestedReads hsteady hchain hpath (hlength.trans hdepth))
  obtain ⟨hanswer, -⟩ := hcheck .initial ⟨rfl, EvaluationState.faithful_initial setting⟩
  rw [hread, Clause.check_eq, hanswer]

/-- The guards against cycles and deep nesting make no difference where they are not needed: if no chain of
references from a clause goes through more than `maxSegmentDepth` segments, and the big segment store always
answers the same, plain recursion ends with the answer that the check of the clause gives from a fresh state,
be it an error or not, and with no other. -/
theorem Clause.reads_iff (setting : Setting) (hsteady : setting.Steady) (c : Clause)
    (h : ∀ chain, SegmentChain setting.catalog c.segmentKeys chain → chain.length ≤ maxSegmentDepth)
    (answer : Except EvaluationError Bool) :
    c.Reads setting answer ↔ answer = ((c.check setting).run.run .initial).1 := by
  constructor
  · rintro ⟨depth, hread⟩
    have hdeep := hread (max depth maxSegmentDepth) (Nat.le_max_left _ _)
    rw [c.read_eq_check hsteady h (Nat.le_max_right _ _)] at hdeep
    exact (Option.some.inj hdeep).symm
  · rintro rfl
    exact ⟨maxSegmentDepth, fun deeper hdeeper => c.read_eq_check hsteady h hdeeper⟩

/-! ## A tower -/

/-- The key of a floor. -/
def floorKey (n : Nat) : String := String.ofList (List.replicate n 'x')

/-- A clause that asks for the members of a floor. -/
def Clause.naming (n : Nat) : Clause := ⟨none, .literal "", false, .segmentMatch, [.string (floorKey n)]⟩

/-- The segment on the ground includes a context, and any other floor has the members of the one below. -/
def Segment.floor : Nat → Segment
  | 0 => { Segment.exported (floorKey 0) with unbounded := false, included := ["anna"] }
  | n + 1 =>
    { Segment.exported (floorKey (n + 1)) with
      unbounded := false, rules := [⟨none, [.naming n], none, none, none⟩] }

/-- A setting whose segments are nested in each other. -/
def Setting.tower (height : Nat) : Setting :=
  { Setting.ofFlags [] with
    catalog := ⟨[], (List.range height).map fun n => (floorKey n, .floor n)⟩ }

/-- No two floors of the tower share a key. -/
lemma floorKey_injective : Function.Injective floorKey := by
  intro m n h
  simpa [floorKey] using congrArg String.length h

namespace Setting

variable {height n : Nat}

/-- Below its height the catalog of the tower holds every floor. -/
lemma tower_segment? (h : n < height) :
    (Setting.tower height).catalog.segment? (floorKey n) = some (.floor n) := by
  have hnames : Entries.names (Setting.tower height).catalog.segments = (List.range height).map floorKey :=
    List.map_map
  refine Entries.get?_of_mem ?_ (List.mem_map.mpr ⟨n, List.mem_range.mpr h, rfl⟩)
  rw [hnames]
  exact List.nodup_range.map floorKey_injective

lemma eq_floor_of_tower_segment? {segment : Segment}
    (h : (Setting.tower height).catalog.segment? (floorKey n) = some segment) : segment = .floor n := by
  obtain ⟨m, -, heq⟩ := List.mem_map.mp (Entries.mem_of_get? h)
  obtain ⟨hkey, hsegment⟩ := Prod.mk.inj heq
  rw [← hsegment, floorKey_injective hkey]

/-- From a floor, chains go down to the ground. -/
lemma tower_chain_length_le {chain : List String}
    (h : SegmentChain (Setting.tower height).catalog [floorKey n] chain) : chain.length ≤ n + 1 := by
  induction n generalizing chain with
  | zero =>
    cases h with
    | nil => exact Nat.zero_le _
    | cons named found next =>
      rw [List.mem_singleton.mp named] at found
      obtain rfl := eq_floor_of_tower_segment? found
      cases next with
      | nil => exact le_rfl
      | cons named => cases named
  | succ n ih =>
    cases h with
    | nil => exact Nat.zero_le _
    | cons named found next =>
      rw [List.mem_singleton.mp named] at found
      obtain rfl := eq_floor_of_tower_segment? found
      exact Nat.succ_le_succ (ih next)

end Setting

/-- Chains that start at a segment without rules end there. -/
lemma SegmentChain.length_le_one {catalog : Catalog} {key : String} (segment : Segment)
    (hfound : catalog.segment? key = some segment) (hnone : segment.segmentKeys = []) {chain : List String}
    (h : SegmentChain catalog [key] chain) : chain.length ≤ 1 := by
  cases h with
  | nil => exact Nat.zero_le 1
  | cons named found next =>
    obtain rfl := List.mem_singleton.mp named
    obtain rfl := Option.some.inj (hfound.symm.trans found)
    rw [hnone] at next
    cases next with
    | nil => exact le_rfl
    | cons named => cases named

/-- A tower as high as the guards allow is climbed down, and a store that is down is an error for both. -/
theorem Clause.reads_iff_tower :
    (Clause.naming 19).Reads (.tower 20) (.ok true) ∧
      Clause.Reads (.withMembers fun _ => .error ⟨"down"⟩)
        ⟨none, .literal "", false, .segmentMatch, [.string "beta"]⟩ (.error .bigSegmentsUnavailable) := by
  constructor
  · have hanswer : .ok true = (((Clause.naming 19).check (.tower 20)).run.run .initial).1 := by
      decide +kernel
    rw [Clause.reads_iff (.tower 20) (.of_none rfl) (.naming 19) fun _ => Setting.tower_chain_length_le]
    exact hanswer
  · rw [Clause.reads_iff _ (.of_unchanging rfl) _ fun chain h =>
      (h.length_le_one (.exported "beta") rfl rfl).trans (by decide)]
    rfl

/-- A clause holds of a context that is in the segment that it asks for. -/
lemma readClause_naming {setting : Setting} {nested : Segment → Reading} {n : Nat}
    (hfound : setting.catalog.segment? (floorKey n) = some (.floor n))
    (hsegment : nested (.floor n) = pure true) : readClause setting nested (.naming n) = pure true := by
  have hvalues : readValues setting nested [.string (floorKey n)] = pure true := by
    rw [readValues]
    show (match setting.catalog.segment? (floorKey n) with | none => _ | some _ => _) = _
    rw [hfound]
    dsimp only
    rw [hsegment]
    rfl
  show readValues setting nested [.string (floorKey n)] >>= _ = _
  rw [hvalues]
  rfl

/-- Plain recursion climbs down a tower of any height. -/
lemma readSegment_tower {height n depth : Nat} (hn : n < height) (hdepth : n < depth) :
    readSegment (.tower height) depth (.floor n) = pure true := by
  obtain ⟨depth, rfl⟩ : ∃ less, depth = less + 1 := Nat.exists_eq_add_one.mpr (Nat.zero_lt_of_lt hdepth)
  induction n generalizing depth with
  | zero => rfl
  | succ n ih =>
    obtain ⟨less, rfl⟩ : ∃ less, depth = less + 1 := Nat.exists_eq_add_one.mpr (by omega)
    have hbelow := readClause_naming (Setting.tower_segment? (Nat.lt_of_succ_lt hn))
      (ih (Nat.lt_of_succ_lt hn) less (by omega))
    show readRules _ _ _ [⟨none, [.naming n], none, none, none⟩] = _
    rw [readRules, readRule, readClauses, hbelow]
    rfl

/-- With one floor more than the guards allow, they make a difference. -/
theorem Clause.reads_ne_check_tower :
    (Clause.naming 20).Reads (.tower 21) (.ok true) ∧
      (((Clause.naming 20).check (.tower 21)).run.run .initial).1 = .ok false := by
  refine ⟨⟨21, fun deeper hdeeper => ?_⟩, by decide +kernel⟩
  have hroom : 20 < 21 := by decide
  rw [readClause_naming (Setting.tower_segment? hroom) (readSegment_tower hroom hdeeper)]
  rfl

end FeatureFlags
