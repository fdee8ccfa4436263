import FeatureFlags.Proofs.Rollout.Buckets

/-!
# Entries without weight

A rollout is complete if its weights add up to 100000. The shares of its entries are rounded, and so is every
sum of them, so that the last sum may fall short of 1: by at most `2 ^ -23` for every entry with a weight
(`AddUpTo.accumulated`). An entry without weight leaves the sum as it was, and so it is never picked by its
share (`hasWeight_of_pickBelow`). It is served only if it is the last one and the sum of all shares falls short
of the bucket, and only the greatest hash numbers have such buckets (`complete_rollout_serves`).
-/

namespace FeatureFlags

open Binary Format

/-! ## Cumulated shares -/

/-- The shares of some entries, added one by one. -/
def cumulated (sum : Single) (variations : List WeightedVariation) : Single :=
  variations.foldl (fun sum v => sum.add (share v.weight)) sum

/-- An entry is picked between the shares cumulated before it and after it. -/
lemma exists_of_pickBelow {bucket sum : Single} {variations : List WeightedVariation} {v : WeightedVariation}
    (hsum : ¬bucket.lt sum = true) (h : pickBelow bucket sum variations = some v) :
    ∃ before after, variations = before ++ v :: after ∧ ¬bucket.lt (cumulated sum before) = true ∧
      bucket.lt ((cumulated sum before).add (share v.weight)) = true := by
  induction variations generalizing sum with
  | nil => cases h
  | cons u rest ih =>
    unfold pickBelow at h
    dsimp only at h
    split_ifs at h with hlt
    · obtain rfl := Option.some.inj h
      exact ⟨[], rest, rfl, hsum, hlt⟩
    · obtain ⟨before, after, rfl, hbefore, hafter⟩ := ih hlt h
      exact ⟨u :: before, after, rfl, hbefore, hafter⟩

/-- If no entry is picked, the shares of all entries fall short of the bucket. -/
lemma not_lt_of_pickBelow {bucket sum : Single} {variations : List WeightedVariation}
    (hsum : ¬bucket.lt sum = true) (h : pickBelow bucket sum variations = none) :
    ¬bucket.lt (cumulated sum variations) = true := by
  induction variations generalizing sum with
  | nil => exact hsum
  | cons u rest ih =>
    unfold pickBelow at h
    dsimp only at h
    split_ifs at h with hlt
    exact ih hlt h

/-! ## Weights and what they add up to -/

/-- The weights of the entries are natural numbers that add up to a number. -/
inductive AddUpTo : List WeightedVariation → Nat → Prop where
  | nil : AddUpTo [] 0
  | cons {v : WeightedVariation} {rest : List WeightedVariation} {w n : Nat} (hweight : v.weight.HasValue w)
      (hrest : AddUpTo rest n) : AddUpTo (v :: rest) (w + n)

/-- Whether an entry has a weight. -/
def WeightedVariation.hasWeight (v : WeightedVariation) : Bool := Binary.lt .zero v.weight

/-- A weight counts exactly when its value is positive. -/
lemma hasWeight_iff {v : WeightedVariation} {w : Nat} (h : v.weight.HasValue w) :
    v.hasWeight = true ↔ 0 < w := by
  rw [WeightedVariation.hasWeight, lt_iff_of_hasValue hasValue_zero h, Nat.cast_pos]

/-- The sum of the weights splits where the list does. -/
lemma AddUpTo.of_append {before after : List WeightedVariation} {n : Nat} (h : AddUpTo (before ++ after) n) :
    ∃ a b, AddUpTo before a ∧ AddUpTo after b ∧ a + b = n := by
  induction before generalizing n with
  | nil => exact ⟨0, n, .nil, h, Nat.zero_add n⟩
  | cons v rest ih =>
    cases h with
    | cons hweight hrest =>
      obtain ⟨a, b, ha, hb, rfl⟩ := ih hrest
      exact ⟨_, b, .cons hweight ha, hb, Nat.add_assoc _ _ _⟩

lemma hasValue_fullWeight : fullWeight.HasValue 100000 := by
  exact_mod_cast single_hasValue_ofInt (show (100000 : ℤ).natAbs ≤ 2 ^ 24 by decide)

/-! ## How far the sum of shares is off -/

/-- The sum after entries of the weight `w`, of which `k` have a weight: it is off by `2 ^ -23` for each of
these at most. -/
structure Accumulated (sum : Single) (w k : Nat) (s : ℚ) : Prop where
  value : sum.HasValue s
  nonneg : 0 ≤ s
  error : |s - w / 100000| ≤ k / 2 ^ 23
  entries : k ≤ w

lemma accumulated_zero : Accumulated .zero 0 0 0 :=
  ⟨hasValue_zero, le_rfl, by simp, le_rfl⟩

/-- A share is rounded once. -/
lemma exists_share {weight : Single} {w : Nat} (h : weight.HasValue w) (hw : w ≤ 100000) :
    ∃ t, (share weight).HasValue t ∧ 0 ≤ t ∧ |(w : ℚ) / 100000 - t| ≤ 1 / 2 ^ 25 ∧
      (w = 0 → t = 0) := by
  have hnonneg : (0 : ℚ) ≤ (w : ℚ) / 100000 := by positivity
  have hone : (w : ℚ) / 100000 ≤ 1 := by
    rw [div_le_one (by norm_num)]
    exact_mod_cast hw
  obtain ⟨r, hr⟩ := single.exists_rounds (by decide) hnonneg
  have hfinite := hr.lt_infinityRank_single (hone.trans (by norm_num))
  refine ⟨single.value r, hasValue_div (by decide) h hasValue_fullWeight w.cast_nonneg (by norm_num) hr hfinite,
    single.value_nonneg r, ?_, ?_⟩
  · exact (hr.single_error_le 0 hnonneg (by norm_num) (by simpa using hone)).trans_eq (by norm_num)
  · rintro rfl
    rw [Nat.cast_zero, zero_div, ← single.value_zero] at hr
    rw [hr.unique (single.rounds_value 0), single.value_zero]

/-- An entry without weight leaves the sum as it was. -/
lemma Accumulated.add_none {sum weight : Single} {w k : Nat} {s : ℚ} (h : Accumulated sum w k s)
    (hweight : weight.HasValue (0 : Nat)) : Accumulated (sum.add (share weight)) w k s := by
  obtain ⟨t, hshare, -, -, hzero⟩ := exists_share hweight (Nat.zero_le _)
  obtain rfl := hzero rfl
  obtain ⟨a, ha, hvalue⟩ := h.value.exists_rank
  rw [abs_of_nonneg h.nonneg] at hvalue
  subst hvalue
  have hrounds : single.Rounds a (single.value a + 0) := by
    rw [add_zero]
    exact single.rounds_value a
  exact ⟨hasValue_add (by decide) h.value hshare h.nonneg le_rfl hrounds ha, h.nonneg, h.error, h.entries⟩

/-- An entry with a weight costs one rounding of its share and one of the sum. -/
lemma Accumulated.add_some {sum weight : Single} {w k u : Nat} {s : ℚ} (h : Accumulated sum w k s)
    (hweight : weight.HasValue u) (hu : 0 < u) (htotal : w + u ≤ 100000) :
    ∃ s', Accumulated (sum.add (share weight)) (w + u) (k + 1) s' := by
  obtain ⟨t, hshare, ht, hterror, -⟩ := exists_share hweight (by omega)
  obtain ⟨r, hr⟩ := single.exists_rounds (by decide) (add_nonneg h.nonneg ht)
  -- the error of the sum is that of its parts and of one more rounding
  have hsplit : ((w + u : Nat) : ℚ) / 100000 = w / 100000 + u / 100000 := by
    rw [Nat.cast_add, add_div]
  have hbound : (k : ℚ) / 2 ^ 23 ≤ 1 / 4 := by
    have hk : (k : ℚ) ≤ 100000 := by exact_mod_cast (show k ≤ 100000 by have := h.entries; omega)
    rw [div_le_iff₀ (by norm_num)]
    linarith
  have hone : ((w + u : Nat) : ℚ) / 100000 ≤ 1 := by
    rw [div_le_one (by norm_num)]
    exact_mod_cast htotal
  have hserror := abs_le.mp h.error
  have hterror' := abs_le.mp hterror
  -- the sum stays below two, which bounds the rounding error by half a unit of that binade
  have htwo : s + t ≤ 2 ^ (1 : ℤ) := by
    norm_num
    linarith
  have hrerror := abs_le.mp (hr.single_error_le 1 (add_nonneg h.nonneg ht) (by norm_num) htwo)
  have hunit : (2 : ℚ) ^ ((1 : ℤ) - 25) = 1 / 2 ^ 24 := by norm_num
  rw [hunit] at hrerror
  refine ⟨single.value r, ?_, single.value_nonneg r, ?_, by have := h.entries; omega⟩
  · exact hasValue_add (by decide) h.value hshare h.nonneg ht hr
      (hr.lt_infinityRank_single (htwo.trans (by norm_num)))
  · rw [hsplit, Nat.cast_add, Nat.cast_one, add_div, abs_le]
    constructor <;> linarith

/-- The sum of all shares. -/
theorem AddUpTo.accumulated {variations : List WeightedVariation} {n : Nat} (h : AddUpTo variations n)
    {sum : Single} {w k : Nat} {s : ℚ} (hsum : Accumulated sum w k s) (htotal : w + n ≤ 100000) :
    ∃ s', Accumulated (cumulated sum variations) (w + n)
      (k + variations.countP WeightedVariation.hasWeight) s' := by
  induction h generalizing sum w k s with
  | nil => exact ⟨s, hsum⟩
  | @cons v rest u n hweight hrest ih =>
    rw [← Nat.add_assoc] at htotal ⊢
    show ∃ s', Accumulated (cumulated (sum.add (share v.weight)) rest) _ _ s'
    rcases Nat.eq_zero_or_pos u with rfl | hu
    · rw [List.countP_cons_of_neg ((hasWeight_iff hweight).not.mpr (lt_irrefl 0))]
      exact ih (hsum.add_none hweight) htotal
    · obtain ⟨s', hsum'⟩ := hsum.add_some hweight hu (by omega)
      rw [List.countP_cons_of_pos ((hasWeight_iff hweight).mpr hu), Nat.add_comm _ 1, ← Nat.add_assoc]
      exact ih hsum' htotal

/-! ## Picked entries -/

/-- An entry that is picked by its share has a weight. -/
theorem hasWeight_of_pickBelow {variations : List WeightedVariation} {v : WeightedVariation} {bucket : Single}
    {p : ℚ} (hbucket : bucket.HasValue p) (hp : 0 ≤ p) (h : AddUpTo variations 100000)
    (hpick : pickBelow bucket .zero variations = some v) : v.hasWeight = true := by
  have hzero : ¬bucket.lt .zero = true := (lt_iff_of_hasValue hbucket hasValue_zero).not.mpr hp.not_gt
  obtain ⟨before, after, rfl, hbefore, hafter⟩ := exists_of_pickBelow hzero hpick
  obtain ⟨a, b, ha, hb, htotal⟩ := h.of_append
  obtain ⟨s, hsum⟩ := ha.accumulated accumulated_zero (by omega)
  cases hb with
  | @cons _ _ u n hweight hrest =>
    refine (hasWeight_iff hweight).mpr (Nat.pos_of_ne_zero ?_)
    rintro rfl
    -- without weight the sum would be the same after the entry
    rw [lt_iff_of_hasValue hbucket hsum.value] at hbefore
    rw [lt_iff_of_hasValue hbucket (hsum.add_none hweight).value] at hafter
    exact hbefore hafter

/-- If no entry is picked by its share, the sum of all shares does not exceed the bucket. -/
lemma cumulated_le_of_pickBelow {variations : List WeightedVariation} {bucket : Single} {p : ℚ}
    (hbucket : bucket.HasValue p) (hp : 0 ≤ p) (h : AddUpTo variations 100000)
    (hpick : pickBelow bucket .zero variations = none) : (cumulated .zero variations).le bucket = true := by
  have hzero : ¬bucket.lt .zero = true := (lt_iff_of_hasValue hbucket hasValue_zero).not.mpr hp.not_gt
  have hnot := not_lt_of_pickBelow hzero hpick
  obtain ⟨s, hsum⟩ := h.accumulated accumulated_zero (by omega)
  rw [lt_iff_of_hasValue hbucket hsum.value, not_lt] at hnot
  rwa [le_iff_of_hasValue hsum.value hbucket]

/-- The bucket of a hash number is at most `2 ^ -25` greater than the part of `2 ^ 60` that the number is. -/
lemma exists_hasValue_bucket_le {n : Nat} (hn : n ≤ greatestHash) :
    ∃ p, (bucketOfHash n).HasValue p ∧ 0 ≤ p ∧ p * 2 ^ 60 ≤ n + 2 ^ 35 := by
  obtain ⟨r, -, hrounds, hvalue⟩ := exists_hasValue_bucket hn
  have hlarge : (n : ℚ) ≤ 2 ^ (60 : ℤ) := by
    exact_mod_cast hn.trans (show greatestHash ≤ 2 ^ 60 by decide)
  have herror := abs_le.mp (hrounds.single_error_le 60 n.cast_nonneg (by norm_num) hlarge)
  refine ⟨_, hvalue, div_nonneg (single.value_nonneg r) (by norm_num), ?_⟩
  rw [div_mul_cancel₀ _ (by norm_num)]
  norm_num at herror ⊢
  linarith

/-- If the shares of all entries fall short of a bucket, then the hash number is one of the greatest. -/
lemma le_of_cumulated_le {variations : List WeightedVariation} (h : AddUpTo variations 100000) {n : Nat}
    (hn : n ≤ greatestHash) (hle : (cumulated .zero variations).le (bucketOfHash n) = true) :
    2 ^ 60 ≤ n + variations.countP WeightedVariation.hasWeight * 2 ^ 37 + 2 ^ 35 := by
  obtain ⟨s, hsum⟩ := h.accumulated accumulated_zero (by omega)
  obtain ⟨p, hbucket, -, hp⟩ := exists_hasValue_bucket_le hn
  rw [le_iff_of_hasValue hsum.value hbucket] at hle
  have herror := abs_le.mp hsum.error
  rw [Nat.zero_add, Nat.zero_add] at herror
  generalize variations.countP WeightedVariation.hasWeight = k at *
  have hbound : (2 : ℚ) ^ 60 ≤ n + k * 2 ^ 37 + 2 ^ 35 := by
    norm_num at herror hp ⊢
    linarith
  exact_mod_cast hbound

/-- For every hash number a complete rollout serves an entry with a weight, or else the last one: if the shares
of all entries, rounded and cumulated, do not exceed the bucket. Only the greatest hash numbers are so large. -/
theorem complete_rollout_serves (r : Rollout) (h : AddUpTo r.variations 100000) {n : Nat}
    (hn : n ≤ greatestHash) :
    ∃ v ∈ r.variations, pick (bucketOfHash n) r.variations = some v ∧
      (∀ key context salt, r.reference.error? = none → r.hashFor key context salt = n →
        r.choose key context salt = .ok (some (v.choice (r.observes context)))) ∧
      (v.hasWeight = true ∨
        r.variations.getLast? = some v ∧ (cumulated .zero r.variations).le (bucketOfHash n) = true ∧
          2 ^ 60 ≤ n + r.variations.countP WeightedVariation.hasWeight * 2 ^ 37 + 2 ^ 35) := by
  obtain ⟨p, hbucket, hp, -⟩ := exists_hasValue_bucket_le hn
  have hnonempty : r.variations ≠ [] := by
    intro hnil
    rw [hnil] at h
    cases h
  obtain ⟨v, hpick⟩ := Option.ne_none_iff_exists'.mp (pick_eq_none_iff.not.mpr hnonempty)
  refine ⟨v, mem_of_pick hpick, hpick, ?_, ?_⟩
  · rintro key context salt hvalid rfl
    exact r.choose_of_pick hvalid hpick
  -- either the pick is reached by the sums, or the bucket is above all of them
  · rcases Option.or_eq_some_iff.mp hpick with hbelow | ⟨hnone, hlast⟩
    · exact .inl (hasWeight_of_pickBelow hbucket hp h hbelow)
    · have hle := cumulated_le_of_pickBelow hbucket hp h hnone
      exact .inr ⟨hlast, hle, le_of_cumulated_le h hn hle⟩

/-! ## A last entry without weight -/

/-- A complete rollout whose last entry has no weight. -/
def Rollout.split : Rollout :=
  ⟨false, none, none,
    [⟨0, .ofNat 65000, false⟩, ⟨0, .ofNat 15000, false⟩, ⟨0, .ofNat 20000, false⟩, ⟨1, .zero, false⟩], none⟩

lemma Rollout.split_addUpTo : AddUpTo Rollout.split.variations 100000 := by
  have hnumber : ∀ w : Nat, (w : ℤ).natAbs ≤ 2 ^ 24 → (Binary.ofNat w : Single).HasValue w := by
    intro w hw
    exact_mod_cast single_hasValue_ofInt hw
  refine .cons (w := 65000) (n := 35000) (hnumber _ (by decide)) ?_
  refine .cons (w := 15000) (n := 20000) (hnumber _ (by decide)) ?_
  refine .cons (w := 20000) (n := 0) (hnumber _ (by decide)) ?_
  exact .cons (w := 0) (n := 0) (by exact_mod_cast hasValue_zero) .nil

lemma Rollout.selected?_split :
    Rollout.split.selected? "beta" (.named "user6271684" "Ann") "salt" = some ⟨1, .zero, false⟩ := by
  decide +kernel

/-- The hash number 0 is served an entry with a weight. That of a certain user is not; it is one of the
greatest. -/
theorem complete_rollout_serves_user :
    (∃ v, pick (bucketOfHash 0) Rollout.split.variations = some v ∧ v.hasWeight = true) ∧
    Rollout.split.choose "beta" (.named "user6271684" "Ann") "salt" = .ok (some ⟨1, false⟩) ∧
    2 ^ 60 ≤ Rollout.split.hashFor "beta" (.named "user6271684" "Ann") "salt" + 3 * 2 ^ 37 + 2 ^ 35 := by
  have hcount : Rollout.split.variations.countP WeightedVariation.hasWeight = 3 := by decide +kernel
  constructor
  · obtain ⟨v, -, hpick, -, hweight | ⟨-, -, hgreat⟩⟩ :=
      complete_rollout_serves .split Rollout.split_addUpTo (Nat.zero_le _)
    · exact ⟨v, hpick, hweight⟩
    · rw [hcount] at hgreat
      omega
  · obtain ⟨v, -, hpick, hchoose, hserved⟩ := complete_rollout_serves .split Rollout.split_addUpTo
      (Rollout.split.hashFor_le "beta" (.named "user6271684" "Ann") "salt")
    obtain rfl : v = ⟨1, .zero, false⟩ := Option.some.inj (hpick.symm.trans Rollout.selected?_split)
    have hnone : ¬WeightedVariation.hasWeight ⟨1, .zero, false⟩ = true := by decide +kernel
    obtain ⟨-, -, hgreat⟩ := hserved.resolve_left hnone
    rw [hcount] at hgreat
    exact ⟨hchoose "beta" _ "salt" rfl rfl, hgreat⟩

/-- With a bucket below 1, a user is served an entry without weight. -/
theorem complete_rollout_serves_no_weight :
    ¬(∀ r : Rollout, AddUpTo r.variations 100000 → ∀ n ≤ greatestHash,
      ∃ v, pick (bucketOfHash n) r.variations = some v ∧ v.hasWeight = true) ∧
    (bucketOfHash (Rollout.split.hashFor "beta" (.named "user6271684" "Ann") "salt")).lt (.ofNat 1) = true ∧
    Rollout.split.choose "beta" (.named "user6271684" "Ann") "salt" = .ok (some ⟨1, false⟩) := by
  refine ⟨fun hall => ?_, ?_, ?_⟩
  · obtain ⟨v, hpick, hweight⟩ := hall .split Rollout.split_addUpTo _
      (Rollout.split.hashFor_le "beta" (.named "user6271684" "Ann") "salt")
    obtain rfl : v = ⟨1, .zero, false⟩ := Option.some.inj (hpick.symm.trans Rollout.selected?_split)
    exact absurd hweight (by decide +kernel)
  · exact (bucketOfHash_lt_one_iff (Rollout.split.hashFor_le _ _ _)).mpr hashFor_ann_lt
  · rw [Rollout.choose_of_valid rfl, Rollout.selected?_split]
    rfl

end FeatureFlags
