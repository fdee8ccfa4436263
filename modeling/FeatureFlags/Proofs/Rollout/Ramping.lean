import FeatureFlags.Proofs.Rollout.Shares

/-!
# Ramping up

A weight is raised to let more contexts in, and nobody who is in may fall out by it. The share of a weight is
rounded, but rounding keeps the order (`share_le_share`), and so a bucket below the old share lies below the new
one.

* A rule of a segment with a greater weight admits all contexts that it admitted before
  (`SegmentRule.admits_of_weight_le`).
* A rollout whose first entry gets a greater weight still serves this entry to all contexts with a bucket below
  its old share (`Rollout.choose_of_lt_share`).
-/

namespace FeatureFlags

open Binary

/-! ## Shares -/

/-- A greater weight has a share that is at least as great. -/
theorem share_le_share {weight greater : Single} (h : weight.le greater = true) :
    (share weight).le (share greater) = true :=
  div_le_div_right (by decide) hasValue_fullWeight (by norm_num) h

/-! ## Rules of segments -/

namespace SegmentRule

variable {rule : SegmentRule} {weight greater : Single} {key salt : String} {context : Context}

/-- A rule with a weight that is not negative admits the contexts with a bucket below the share. -/
lemma admits_eq_true_iff (hweight : rule.weight = some weight) (hnonneg : Binary.le .zero weight = true) :
    rule.admits key salt context = .ok true ↔
      ∃ placement, context.bucket rule.bucketBy (.keyAndSalt key salt) false
          (rule.rolloutContextKind.getD .user) = .ok placement ∧
        placement.bucket.lt (share weight) = true := by
  rw [admits, hweight]
  dsimp only
  rw [if_pos hnonneg]
  cases context.bucket rule.bucketBy (.keyAndSalt key salt) false (rule.rolloutContextKind.getD .user) with
  | error e => simp
  | ok placement => simp

/-- With a greater weight a rule admits the contexts that it admitted before. -/
theorem admits_of_weight_le (hweight : rule.weight = some weight) (hnonneg : Binary.le .zero weight = true)
    (hle : weight.le greater = true) (h : rule.admits key salt context = .ok true) :
    { rule with weight := some greater }.admits key salt context = .ok true := by
  obtain ⟨placement, hplaced, hbelow⟩ := (admits_eq_true_iff hweight hnonneg).mp h
  exact (admits_eq_true_iff rfl (Binary.le_trans hnonneg hle)).mpr
    ⟨placement, hplaced, Binary.lt_of_lt_of_le hbelow (share_le_share hle)⟩

end SegmentRule

/-! ## Rollouts -/

namespace Rollout

variable {r : Rollout} {v : WeightedVariation} {rest : List WeightedVariation}

/-- The first entry takes the buckets below its share. -/
lemma pick_of_lt_share {bucket : Single} (h : bucket.lt (share v.weight) = true)
    (rest : List WeightedVariation) : pick bucket (v :: rest) = some v := by
  have hsum : bucket.lt (zero.add (share v.weight)) = true := by
    rwa [lt_zero_add (by decide) (by decide)]
  rw [pick, pickBelow, if_pos hsum]
  rfl

/-- A context with a bucket below the share of the first entry is served this entry. -/
theorem choose_of_lt_share (hvariations : r.variations = v :: rest) {key salt : String} {context : Context}
    {placement : Context.Placement}
    (hplaced : context.bucket r.bucketBy (r.hashPrefix key salt) r.experiment r.kind = .ok placement)
    (h : placement.bucket.lt (share v.weight) = true) :
    r.choose key context salt = .ok (some (v.choice (r.experiment && !placement.kindMissing))) := by
  rw [choose]
  change (context.bucket r.bucketBy (r.hashPrefix key salt) r.experiment r.kind >>= _) = _
  rw [hplaced, hvariations]
  show Except.ok ((pick placement.bucket (v :: rest)).map _) = _
  rw [pick_of_lt_share h]
  rfl

end Rollout

/-- Raising weights never drops anyone. A rule of a segment with a greater weight matches whenever it matched
with the old one, if that was not negative. A rollout whose first entry has a greater weight makes the same
choice, that of this entry, for every context with a bucket below the old share of the entry. -/
theorem raised_weight_keeps_contexts :
    (∀ (rule : SegmentRule) (weight greater : Single), rule.weight = some weight →
      Binary.le .zero weight = true → weight.le greater = true →
      ∀ (nested : SegmentCheck) (setting : Setting) (key salt : String) (s s' : EvaluationState),
        (rule.checkWith nested setting key salt).run.run s = (.ok true, s') →
        ({ rule with weight := some greater }.checkWith nested setting key salt).run.run s =
          (.ok true, s')) ∧
    (∀ (r : Rollout) (v : WeightedVariation) (rest : List WeightedVariation) (greater : Single),
      r.variations = v :: rest → v.weight.le greater = true →
      ∀ (key : String) (context : Context) (salt : String) (placement : Context.Placement),
        context.bucket r.bucketBy (r.hashPrefix key salt) r.experiment r.kind = .ok placement →
        placement.bucket.lt (share v.weight) = true →
        r.choose key context salt =
            .ok (some (v.choice (r.experiment && !placement.kindMissing))) ∧
          { r with variations := { v with weight := greater } :: rest }.choose key context salt =
            r.choose key context salt) := by
  refine ⟨?_, ?_⟩
  · intro rule weight greater hweight hnonneg hle nested setting key salt s s' h
    rw [SegmentRule.run_checkWith] at h ⊢
    dsimp only at h ⊢
    -- the clauses are the same, and a context below the weight is below the greater one
    rcases hclauses : (checkClauses nested setting rule.clauses).run.run s with ⟨e | _ | _, t⟩
    · rw [hclauses] at h
      cases h
    · rw [hclauses] at h
      cases h
    · rw [hclauses] at h
      obtain ⟨hadmits, rfl⟩ := Prod.ext_iff.mp h
      exact Prod.ext (SegmentRule.admits_of_weight_le hweight hnonneg hle hadmits) rfl
  -- the first variation takes the buckets below its share
  · intro r v rest greater hvariations hle key context salt placement hplaced hbelow
    have hgreater : placement.bucket.lt (share { v with weight := greater }.weight) = true :=
      Binary.lt_of_lt_of_le hbelow (share_le_share hle)
    have hchoice := Rollout.choose_of_lt_share hvariations hplaced hbelow
    refine ⟨hchoice, ?_⟩
    rw [hchoice]
    exact Rollout.choose_of_lt_share (r := { r with variations := { v with weight := greater } :: rest }) rfl
      hplaced hgreater

/-! ## A user who is in -/

/-- A rule for a part of all users. -/
def SegmentRule.partly (weight : Single) : SegmentRule := ⟨none, [], some weight, none, none⟩

/-- A rollout of its first variation to a part of all users. -/
def Rollout.partly (weight : Single) : Rollout :=
  ⟨false, none, none, [⟨0, weight, false⟩, ⟨1, .ofNat 80000, false⟩], none⟩

/-- A user with a bucket below one fifth. -/
lemma exists_placement_carl :
    ∃ placement, (Context.named "userKeyC" "Carl").bucket none (.keyAndSalt "hashKey" "saltyA") false .user =
        .ok placement ∧
      placement.bucket.lt (share (.ofNat 20000)) = true :=
  ⟨_, rfl, by decide +kernel⟩

/-- A user among the first fifth is also among the first three tenths. -/
theorem raised_weight_keeps_carl :
    (∀ catalog, ((SegmentRule.partly (.ofNat 30000)).checkWith (fun _ => return false)
      ⟨catalog, .named "userKeyC" "Carl", none⟩ "hashKey" "saltyA").run.run .initial =
        (.ok true, .initial)) ∧
    (Rollout.partly (.ofNat 30000)).choose "hashKey" (.named "userKeyC" "Carl") "saltyA" =
      .ok (some ⟨0, false⟩) := by
  have hle : Binary.le (.ofNat 20000) (.ofNat 30000 : Single) = true := by decide +kernel
  have hnonneg : Binary.le .zero (.ofNat 20000 : Single) = true := by decide +kernel
  obtain ⟨hrule, hrollout⟩ := raised_weight_keeps_contexts
  constructor
  · intro catalog
    refine hrule (.partly (.ofNat 20000)) _ _ rfl hnonneg hle _ _ _ _ _ _ ?_
    rw [SegmentRule.run_checkWith]
    refine Prod.ext ?_ rfl
    show (SegmentRule.partly (.ofNat 20000)).admits "hashKey" "saltyA" (.named "userKeyC" "Carl") = .ok true
    exact (SegmentRule.admits_eq_true_iff rfl hnonneg).mpr exists_placement_carl
  · obtain ⟨placement, hplaced, hbelow⟩ := exists_placement_carl
    obtain ⟨hold, hnew⟩ := hrollout (.partly (.ofNat 20000)) _ _ (.ofNat 30000) rfl hle "hashKey"
      (.named "userKeyC" "Carl") "saltyA" placement hplaced hbelow
    exact hnew.trans hold

end FeatureFlags
