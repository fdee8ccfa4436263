import FeatureFlags.Proofs.Binary.Decimals
import FeatureFlags.Proofs.Binary.Operations
import FeatureFlags.Proofs.Evaluation.Running
import FeatureFlags.Proofs.Rollout.Choices

/-!
# The range of buckets

Single precision cannot hold the greatest hash number, nor any other one close below `2 ^ 60`: the scale is
`2 ^ 60`, and the hash numbers from `leastRoundedUp` on are rounded to `2 ^ 60` as well. So a bucket is a hash
number with a significand of 24 bits, divided by `2 ^ 60` without any further loss (`exists_hasValue_bucket`),
and it lies below 1 exactly for the hash numbers below `leastRoundedUp` (`bucketOfHash_lt_one_iff`). The others,
one of 33554432, have the bucket 1. Not even the full weight is enough for them
(`full_weight_below_leastRoundedUp`).
-/

namespace FeatureFlags

open Binary Format

/-! ## Hash numbers -/

/-- Bytes read in base 256 stay below the power for their number. -/
lemma foldl_bytes_lt (bytes : List UInt8) (a : Nat) :
    bytes.foldl (fun n b => n * 256 + b.toNat) a < (a + 1) * 256 ^ bytes.length := by
  induction bytes generalizing a with
  | nil => simp
  | cons b rest ih =>
    have hb : b.toNat < 256 := b.toNat_lt
    rw [List.foldl_cons, List.length_cons, pow_succ']
    calc rest.foldl (fun n b => n * 256 + b.toNat) (a * 256 + b.toNat)
        < (a * 256 + b.toNat + 1) * 256 ^ rest.length := ih _
      _ ≤ (a + 1) * 256 * 256 ^ rest.length := Nat.mul_le_mul_right _ (by omega)
      _ = (a + 1) * (256 * 256 ^ rest.length) := Nat.mul_assoc _ _ _

/-- Fifteen hexadecimal digits are read from a digest. -/
lemma hashNumber_le (digest : List UInt8) : hashNumber digest ≤ greatestHash := by
  have hread := foldl_bytes_lt (digest.take 8) 0
  have hlength : 256 ^ (digest.take 8).length ≤ 256 ^ 8 :=
    Nat.pow_le_pow_right (by decide) (by rw [List.length_take]; omega)
  have hgreatest : greatestHash = 2 ^ 60 - 1 := rfl
  unfold hashNumber
  omega

/-- A hash number has fifteen hexadecimal digits. -/
lemma hashOf_le (hashPrefix : BucketPrefix) (identity : String) :
    hashOf hashPrefix identity ≤ greatestHash :=
  hashNumber_le _

lemma Context.hashFor_le (context : Context) (reference : Reference) (hashPrefix : BucketPrefix)
    (kind : Kind) : context.hashFor reference hashPrefix kind ≤ greatestHash := by
  unfold Context.hashFor
  cases context.identity? reference kind with
  | none => exact Nat.zero_le _
  | some identity => exact hashOf_le hashPrefix identity

lemma Rollout.hashFor_le (r : Rollout) (key : String) (context : Context) (salt : String) :
    r.hashFor key context salt ≤ greatestHash :=
  context.hashFor_le _ _ _

/-! ## Powers of two -/

/-- The value of a power of two at the bottom of its binade. -/
lemma value_powerOfTwo (f : Format) (k : Nat) :
    f.value ((k + 1) * 2 ^ f.fractionBits) = 2 ^ (f.minExponent + k + f.fractionBits) := by
  rw [add_one_mul, value_of_binade (.inr le_rfl) (Nat.le_mul_of_pos_left _ Nat.two_pos), Nat.cast_pow,
    Nat.cast_two, two_pow_mul_zpow]

/-- The number below a power of two lies in the binade before. -/
lemma value_below_powerOfTwo (f : Format) (k : Nat) :
    f.value ((k + 2) * 2 ^ f.fractionBits - 1) =
      2 ^ (f.minExponent + k + 1 + f.fractionBits) - 2 ^ (f.minExponent + k) := by
  obtain ⟨m, hm⟩ : ∃ m, 2 ^ f.fractionBits = m + 1 := Nat.exists_eq_add_one.mpr (Nat.two_pow_pos _)
  have hrank : (k + 2) * 2 ^ f.fractionBits - 1 = k * 2 ^ f.fractionBits + (2 ^ f.fractionBits + m) := by
    rw [Nat.add_mul]
    omega
  have hcast : (2 : ℚ) ^ f.fractionBits = m + 1 := by exact_mod_cast hm
  rw [hrank, value_of_binade (.inr (Nat.le_add_right _ m)) (by omega), ← two_pow_mul_zpow f.fractionBits,
    two_zpow_succ]
  push_cast
  rw [hcast]
  ring

/-- A number that is large enough can be divided by a power of two without loss. -/
lemma exists_value_div_two_pow (f : Format) {r k : Nat} (h : f.minExponent + k ≤ f.exponent r) :
    ∃ t, f.value t = f.value r / 2 ^ k := by
  have hsignificand : f.significand r ≤ 2 * 2 ^ f.fractionBits := by
    rw [← Nat.pow_succ']
    exact (f.significand_lt r).le
  obtain ⟨t, ht⟩ := f.exists_value hsignificand (show f.minExponent ≤ f.exponent r - k by omega)
  refine ⟨t, ?_⟩
  rw [ht, value, zpow_sub₀ (by norm_num), zpow_natCast, mul_div_assoc]

/-- The rank of 1. -/
def rankOfOne : Nat := 127 * 2 ^ 23

/-- The rank of `2 ^ 60`. -/
def rankOfScale : Nat := 187 * 2 ^ 23

lemma value_rankOfOne : single.value rankOfOne = 1 := by
  have h := value_powerOfTwo single 126
  rwa [show single.minExponent + (126 : Nat) + single.fractionBits = 0 by decide, zpow_zero] at h

lemma value_rankOfScale : single.value rankOfScale = 2 ^ 60 := by
  have h := value_powerOfTwo single 186
  rwa [show single.minExponent + (186 : Nat) + single.fractionBits = (60 : Nat) by decide, zpow_natCast] at h

/-- The next single below the scale is `2 ^ 36` less: hash numbers closer than half of that are rounded up to
it. -/
lemma value_below_rankOfScale : single.value (rankOfScale - 1) = 2 ^ 60 - 2 ^ 36 := by
  have h := value_below_powerOfTwo single 185
  rwa [show single.minExponent + (185 : Nat) + 1 + single.fractionBits = (60 : Nat) by decide,
    show single.minExponent + (185 : Nat) = (36 : Nat) by decide, zpow_natCast, zpow_natCast] at h

lemma hasValue_one : (ofNat 1 : Single).HasValue 1 := by
  have h : (ofNat 1 : Single) = ofRank false rankOfOne := by decide +kernel
  rw [h, ← value_rankOfOne]
  exact hasValue_ofRank (by decide) nofun

lemma hasValue_zero : (zero : Single).HasValue 0 := by
  have h := hasValue_ofRank (f := single) (s := false) (r := 0) (by decide) nofun
  rwa [value_zero] at h

/-- The greatest hash number is rounded up to the scale of all buckets. -/
lemma hasValue_greatestHash : (ofNat greatestHash : Single).HasValue (2 ^ 60) := by
  have h : (ofNat greatestHash : Single) = ofRank false rankOfScale := by decide +kernel
  rw [h, ← value_rankOfScale]
  exact hasValue_ofRank (by decide) nofun

/-! ## Buckets of hash numbers -/

/-- A bucket is a rounded hash number, as a part of `2 ^ 60`. -/
theorem exists_hasValue_bucket {n : Nat} (hn : n ≤ greatestHash) :
    ∃ r ≤ rankOfScale, single.Rounds r n ∧ (bucketOfHash n).HasValue (single.value r / 2 ^ 60) := by
  have hbits : 0 < single.fractionBits := by decide
  have hrounds : single.Rounds (single.rankOfRatio n 1) n := by
    have h := single.rounds_rankOfRatio hbits n Nat.one_pos
    rwa [Nat.cast_one, div_one] at h
  have hlarge : (n : ℚ) ≤ 2 ^ 60 := by
    exact_mod_cast hn.trans (show greatestHash ≤ 2 ^ 60 by decide)
  have hnumber : (ofNat n : Single) = ofRank false (single.rankOfRatio n 1) := rfl
  generalize single.rankOfRatio n 1 = r at *
  have hr : r ≤ rankOfScale := hrounds.mono (single.rounds_value rankOfScale) (by rwa [value_rankOfScale])
  have hfinite : r < single.infinityRank := hr.trans_lt (by decide)
  have hvalue : (ofNat n : Single).HasValue (single.value r) := by
    rw [hnumber]
    exact hasValue_ofRank hfinite nofun
  -- the division is exact, since a hash number is zero or at least 1
  obtain ⟨t, ht⟩ : ∃ t, single.value t = single.value r / 2 ^ 60 := by
    rcases Nat.eq_zero_or_pos n with rfl | hpos
    · obtain rfl : r = 0 := hrounds.unique (by simpa using single.rounds_value 0)
      exact ⟨0, by rw [value_zero, zero_div]⟩
    · have hone : rankOfOne ≤ r := by
        refine (single.rounds_value rankOfOne).mono hrounds ?_
        rw [value_rankOfOne]
        exact_mod_cast hpos
      exact exists_value_div_two_pow single ((show _ ≤ _ by decide).trans (single.exponent_mono hone))
  have hle : single.value t ≤ 1 := by
    rw [ht, div_le_one (by norm_num), ← value_rankOfScale]
    exact single.value_strictMono.monotone hr
  have hbucket := hasValue_div hbits hvalue hasValue_greatestHash (single.value_nonneg r) (by norm_num)
    (ht ▸ single.rounds_value t) ((single.rounds_value t).lt_infinityRank_single (hle.trans (by norm_num)))
  rw [ht] at hbucket
  exact ⟨r, hr, hrounds, hbucket⟩

/-- The least hash number that is rounded up to `2 ^ 60`. It is a tie. -/
def leastRoundedUp : Nat := 2 ^ 60 - 2 ^ 35

/-- The midpoint between the two largest singles up to the scale is rounded up, to the even one. -/
lemma rounds_leastRoundedUp : single.Rounds rankOfScale leastRoundedUp := by
  have hcast : (leastRoundedUp : ℚ) = 2 ^ 60 - 2 ^ 35 := by
    unfold leastRoundedUp
    norm_num
  have hbelow : ∀ s, rankOfScale = s + 1 → single.value s = 2 ^ 60 - 2 ^ 36 := by
    intro s hs
    rw [← value_below_rankOfScale, hs, Nat.add_sub_cancel]
  have habove := single.value_strictMono (Nat.lt_succ_self rankOfScale)
  have heven : ¬rankOfScale % 2 = 1 := by decide
  rw [value_rankOfScale] at habove
  refine ⟨fun s hs => ?_, fun s hs hodd => absurd hodd heven, ?_, fun hodd => absurd hodd heven⟩
  · rw [hbelow s hs, value_rankOfScale, hcast]
    norm_num
  · rw [value_rankOfScale, hcast]
    linarith

/-- The hash numbers below a certain one are not rounded up to the scale. -/
lemma Rounds.lt_rankOfScale_iff {r n : Nat} (h : single.Rounds r n) : r < rankOfScale ↔ n < leastRoundedUp := by
  constructor
  · intro hlt
    -- rounding is monotone, and the midpoint is rounded up to the scale
    by_contra hle
    have hmono := rounds_leastRoundedUp.mono h (by exact_mod_cast not_lt.mp hle)
    omega
  · intro hlt
    -- a natural number below the midpoint lies nearer to the single below the scale
    have hn : (n : ℚ) + 1 ≤ 2 ^ 60 - 2 ^ 35 := by
      have hnat : n + 1 + 2 ^ 35 ≤ 2 ^ 60 := by
        unfold leastRoundedUp at hlt
        omega
      rw [le_sub_iff_add_le]
      exact_mod_cast hnat
    by_contra hge
    have hscale := single.value_strictMono.monotone (not_lt.mp hge)
    have hpred := single.value_strictMono.monotone (show rankOfScale - 1 ≤ r - 1 by omega)
    have hpos : r = r - 1 + 1 := by
      have : 0 < rankOfScale := by decide
      omega
    rw [value_rankOfScale] at hscale
    rw [value_below_rankOfScale] at hpred
    linarith [h.below (r - 1) hpos]

/-- A bucket is not negative and at most 1. -/
lemma bucketOfHash_bounds {n : Nat} (hn : n ≤ greatestHash) :
    Binary.le .zero (bucketOfHash n) = true ∧ (bucketOfHash n).le (.ofNat 1) = true := by
  obtain ⟨r, hr, -, hvalue⟩ := exists_hasValue_bucket hn
  rw [le_iff_of_hasValue hasValue_zero hvalue, le_iff_of_hasValue hvalue hasValue_one,
    div_le_one (by norm_num), ← value_rankOfScale]
  exact ⟨div_nonneg (single.value_nonneg r) (single.value_nonneg _), single.value_strictMono.monotone hr⟩

/-- Exactly the hash numbers below the midpoint give a bucket below one. -/
theorem bucketOfHash_lt_one_iff {n : Nat} (hn : n ≤ greatestHash) :
    (bucketOfHash n).lt (.ofNat 1) = true ↔ n < leastRoundedUp := by
  obtain ⟨r, -, hrounds, hvalue⟩ := exists_hasValue_bucket hn
  rw [lt_iff_of_hasValue hvalue hasValue_one, div_lt_one (by norm_num), ← value_rankOfScale,
    single.value_strictMono.lt_iff_lt, Rounds.lt_rankOfScale_iff hrounds]

/-! ## The full weight -/

lemma share_fullWeight : share fullWeight = .ofNat 1 := by decide +kernel

lemma zero_add_one : Binary.add .zero (.ofNat 1 : Single) = .ofNat 1 := by decide +kernel

/-- A rule with the full weight admits the contexts with a bucket below 1. -/
lemma SegmentRule.admits_of_fullWeight {rule : SegmentRule} (hweight : rule.weight = some fullWeight)
    (hvalid : (Context.bucketReference rule.bucketBy false).error? = none) (key salt : String)
    (context : Context) :
    rule.admits key salt context =
      .ok (decide (context.hashFor (Context.bucketReference rule.bucketBy false) (.keyAndSalt key salt)
        (rule.rolloutContextKind.getD .user) < leastRoundedUp)) := by
  have hsign : Binary.le .zero fullWeight = true := by decide +kernel
  have hhash := context.hashFor_le (Context.bucketReference rule.bucketBy false) (.keyAndSalt key salt)
    (rule.rolloutContextKind.getD .user)
  unfold admits
  rw [hweight]
  dsimp only
  rw [if_pos hsign, Context.bucket_of_valid hvalid]
  dsimp only
  rw [share_fullWeight, Except.ok.injEq, Bool.eq_iff_iff, bucketOfHash_lt_one_iff hhash, decide_eq_true_iff]

/-- A first entry with the full weight takes the buckets below 1. -/
lemma pick_of_lt_one {bucket : Single} (hbucket : bucket.lt (.ofNat 1) = true) {v : WeightedVariation}
    (hweight : v.weight = fullWeight) (rest : List WeightedVariation) : pick bucket (v :: rest) = some v := by
  unfold pick pickBelow
  rw [hweight, share_fullWeight, zero_add_one]
  dsimp only
  rw [if_pos hbucket]
  rfl

/-- A single entry takes all buckets. -/
lemma pick_singleton (bucket : Single) (v : WeightedVariation) : pick bucket [v] = some v := by
  unfold pick pickBelow
  dsimp only
  split_ifs <;> rfl

/-- The other buckets are left to the entries after it. -/
lemma exists_pick_of_not_lt_one {bucket : Single} (hbucket : ¬bucket.lt (.ofNat 1) = true)
    {v : WeightedVariation} (hweight : v.weight = fullWeight) {rest : List WeightedVariation}
    (hrest : rest ≠ []) : ∃ u ∈ rest, pick bucket (v :: rest) = some u := by
  unfold pick pickBelow
  rw [hweight, share_fullWeight, zero_add_one]
  dsimp only
  rw [if_neg hbucket]
  cases hbelow : pickBelow bucket (.ofNat 1) rest with
  | some u => exact ⟨u, mem_of_pickBelow hbelow, rfl⟩
  | none =>
    refine ⟨rest.getLast hrest, List.getLast_mem hrest, ?_⟩
    rw [Option.none_or, List.getLast?_cons_of_ne_nil hrest, List.getLast?_eq_some_getLast hrest]

/-- The bucket of a hash number lies between 0 and 1, and it is below 1 exactly if the hash number is below
`leastRoundedUp`. Exactly then a context with this hash number is admitted by a rule with the full weight whose
clauses hold, and exactly then it is served the first entry of a rollout if this has the full weight and is not
the only one. -/
theorem full_weight_below_leastRoundedUp {n : Nat} (hn : n ≤ greatestHash) :
    Binary.le .zero (bucketOfHash n) = true ∧ (bucketOfHash n).le (.ofNat 1) = true ∧
    ((bucketOfHash n).lt (.ofNat 1) = true ↔ n < leastRoundedUp) ∧
    (∀ (rule : SegmentRule) (nested : SegmentCheck) (setting : Setting) (key salt : String)
      (s s' : EvaluationState), rule.weight = some fullWeight →
      (Context.bucketReference rule.bucketBy false).error? = none →
      setting.context.hashFor (Context.bucketReference rule.bucketBy false) (.keyAndSalt key salt)
        (rule.rolloutContextKind.getD .user) = n →
      (checkClauses nested setting rule.clauses).run.run s = (.ok true, s') →
        (rule.checkWith nested setting key salt).run.run s = (.ok (decide (n < leastRoundedUp)), s')) ∧
    (∀ (r : Rollout) (v : WeightedVariation) (rest : List WeightedVariation) (key salt : String)
      (context : Context), r.variations = v :: rest → v.weight = fullWeight → r.reference.error? = none →
      r.hashFor key context salt = n →
        (n < leastRoundedUp ∨ rest = [] →
          r.choose key context salt = .ok (some (v.choice (r.observes context)))) ∧
        (leastRoundedUp ≤ n → rest ≠ [] →
          ∃ u ∈ rest, r.choose key context salt = .ok (some (u.choice (r.observes context))))) := by
  obtain ⟨hnonneg, hle⟩ := bucketOfHash_bounds hn
  have hone := bucketOfHash_lt_one_iff hn
  refine ⟨hnonneg, hle, hone, ?_, ?_⟩
  -- the weight of a rule admits the buckets below one
  · rintro rule nested setting key salt s s' hweight hvalid rfl hclauses
    rw [SegmentRule.run_checkWith, hclauses, ← SegmentRule.admits_of_fullWeight hweight hvalid]
  · rintro r v rest key salt context hvariations hweight hvalid rfl
    -- the variation picked is the one chosen, if the reference is valid
    have hchoose : ∀ u, pick (bucketOfHash (r.hashFor key context salt)) (v :: rest) = some u →
        r.choose key context salt = .ok (some (u.choice (r.observes context))) := by
      intro u hu
      exact r.choose_of_pick hvalid (by rwa [hvariations])
    refine ⟨?_, fun hgreat hrest => ?_⟩
    · rintro (hlt | rfl)
      · exact hchoose v (pick_of_lt_one (hone.mpr hlt) hweight rest)
      · exact hchoose v (pick_singleton _ v)
    · obtain ⟨u, hu, hpick⟩ := exists_pick_of_not_lt_one (hone.not.mpr hgreat.not_gt) hweight hrest
      exact ⟨u, hu, hchoose u hpick⟩

/-! ## Two users -/

/-- A rule for everybody. -/
def SegmentRule.everybody : SegmentRule := ⟨none, [], some fullWeight, none, none⟩

/-- A rollout of its first variation to everybody. -/
def Rollout.everybody : Rollout := ⟨false, none, none, [⟨0, fullWeight, false⟩, ⟨1, .zero, false⟩], none⟩

lemma hashFor_ann_lt :
    (Context.named "user6271684" "Ann").hashFor (.ofText "key") (.keyAndSalt "beta" "salt") .user <
      leastRoundedUp := by
  decide +kernel

lemma le_hashFor_bob :
    leastRoundedUp ≤
      (Context.named "user12930065" "Bob").hashFor (.ofText "key") (.keyAndSalt "beta" "salt") .user := by
  decide +kernel

/-- One user is admitted and served the first variation, another one is not. -/
theorem full_weight_below_leastRoundedUp_users :
    (bucketOfHash leastRoundedUp).lt (.ofNat 1) = false ∧
    (∀ catalog, (SegmentRule.everybody.checkWith (fun _ => return false)
      ⟨catalog, .named "user6271684" "Ann", none⟩ "beta" "salt").run.run .initial = (.ok true, .initial)) ∧
    Rollout.everybody.choose "beta" (.named "user6271684" "Ann") "salt" = .ok (some ⟨0, false⟩) ∧
    Rollout.everybody.choose "beta" (.named "user12930065" "Bob") "salt" = .ok (some ⟨1, false⟩) := by
  obtain ⟨-, -, hbucket, -⟩ := full_weight_below_leastRoundedUp (n := leastRoundedUp) (by decide)
  obtain ⟨-, -, -, hrule, hann⟩ := full_weight_below_leastRoundedUp
    (Context.hashFor_le (.named "user6271684" "Ann") (.ofText "key") (.keyAndSalt "beta" "salt") .user)
  obtain ⟨-, -, -, -, hbob⟩ := full_weight_below_leastRoundedUp
    (Context.hashFor_le (.named "user12930065" "Bob") (.ofText "key") (.keyAndSalt "beta" "salt") .user)
  refine ⟨Bool.eq_false_iff.mpr (hbucket.not.mpr (lt_irrefl _)), fun catalog => ?_, ?_, ?_⟩
  · rw [hrule .everybody _ _ "beta" "salt" .initial .initial rfl rfl rfl rfl, decide_eq_true hashFor_ann_lt]
  · exact (hann .everybody ⟨0, fullWeight, false⟩ _ "beta" "salt" _ rfl rfl rfl rfl).1 (.inl hashFor_ann_lt)
  · obtain ⟨u, hu, hchoice⟩ :=
      (hbob .everybody _ [⟨1, .zero, false⟩] "beta" "salt" _ rfl rfl rfl rfl).2 le_hashFor_bob nofun
    rwa [List.mem_singleton.mp hu] at hchoice

/-- There is a user with the bucket 1, whom the full weight does not reach. -/
theorem full_weight_misses_user :
    ¬(∀ n ≤ greatestHash, (bucketOfHash n).lt (.ofNat 1) = true) ∧
    bucketValue (.keyAndSalt "beta" "salt") "user12930065" = .ofNat 1 ∧
    SegmentRule.everybody.admits "beta" "salt" (.named "user12930065" "Bob") = .ok false ∧
    Rollout.everybody.choose "beta" (.named "user12930065" "Bob") "salt" = .ok (some ⟨1, false⟩) := by
  have hhash := le_hashFor_bob.not_gt
  have hle := Context.hashFor_le (.named "user12930065" "Bob") (.ofText "key") (.keyAndSalt "beta" "salt") .user
  refine ⟨fun h => hhash ((bucketOfHash_lt_one_iff hle).mp (h _ hle)), ?_, ?_, ?_⟩
  · decide +kernel
  · rw [SegmentRule.admits_of_fullWeight rfl rfl, decide_eq_false]
    exact hhash
  · exact (Rollout.choose_of_valid rfl _ _ _).trans (congrArg Except.ok (by decide +kernel))

end FeatureFlags
