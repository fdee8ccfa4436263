import FeatureFlags.Proofs.Binary.RoundingTwice
import FeatureFlags.Proofs.Codec.RoundTrip
import FeatureFlags.Proofs.Json.Decimals

/-!
# Numbers that last

Doubles are written as their shortest decimals, but read by one multiplication or division with a power of ten,
which is exact enough for short decimals only. So a number *lasts*, that is, it is decoded from what it is
encoded to, if

* it is a small integer or the double nearest to a short decimal (`Json.reads_short`), or
* it is a weight that is neither tiny nor huge (`weightRestored_of_moderate`); its shortest decimal is read as a
  double first and then rounded again.

A flag or a segment whose numbers last is restored (`restored_of_durableNumbers`). Other numbers may change each
time they are written and read (`not_restored_longNumber`).
-/

namespace FeatureFlags

open Json Format

/-! ## Short decimals -/

/-- A decimal that is read as the nearest double: it has at most 15 digits and 22 places, it is below `10 ^ 22`,
and it is not written with 16 digits before the point. -/
structure Decimal.Short (d : Decimal) : Prop where
  digits : d.digits < 10 ^ 15
  places : -22 ≤ d.exponent
  range : d.value < 10 ^ 15 ∨ 10 ^ 16 ≤ d.value ∧ d.value < 10 ^ 22

lemma Decimal.Short.value_lt {d : Decimal} (h : d.Short) : d.value < 10 ^ 22 :=
  h.range.elim (fun hlt => hlt.trans (by norm_num)) And.right

/-- The number is the double nearest to a short decimal, with either sign. -/
def Binary.IsShort : Double → Prop
  | .nan => False
  | .signed _ r => r.val < double.infinityRank ∧ ∃ d : Decimal, d.Short ∧ double.Rounds r d.value

namespace Json

/-- The text of a finite number that is not zero. -/
lemma text?_of_pos {f : Format} {layout : NumeralLayout} {s : Bool} {r : Fin (f.infinityRank + 1)}
    (hpos : 0 < r.val) (hr : r.val < f.infinityRank) : (Binary.signed s r : Binary f).text? layout =
      some (if s then '-' :: (f.shortest r).text layout else (f.shortest r).text layout) := by
  rw [Binary.text?, if_neg hr.ne, if_neg hpos.ne']

/-- The double nearest to a short decimal is read as it was written. -/
theorem reads_short {x : Double} (hx : x.IsShort) :
    Reads (Document.chars (.double x)) (.number (.double x)) := by
  cases x with
  | nan => exact hx.elim
  | signed s r =>
    obtain ⟨hr, d, hd, hrounds⟩ := hx
    have hrank : (Binary.signed s r : Double) = .ofRank s r.val := (Binary.ofRank_of_lt hr).symm
    rw [Document.chars]
    -- zero is written apart, since it has no shortest decimal
    rcases Nat.eq_zero_or_pos r.val with hzero | hpos
    · rw [Binary.text?, if_neg hr.ne, if_pos hzero, Option.getD_some, hrank, hzero]
      exact reads_zero s
    · rw [text?_of_pos hpos hr, Option.getD_some, hrank]
      -- a number of few digits is the shortest decimal that rounds to the double
      obtain ⟨hvalue, hcoarse⟩ := shortest_value_of_few_digits hpos hr hrounds (hd.digits.trans (by norm_num))
        ((show (-300 : ℤ) ≤ -22 by decide).trans hd.places)
      have hdigits : 0 < (double.shortest r).digits := Decimal.digits_pos (hvalue ▸ hrounds.pos hpos)
      have hfew : (double.shortest r).digits < 10 ^ 15 :=
        (Decimal.digits_le_of_value_eq hvalue hcoarse).trans_lt hd.digits
      have hexponent := Decimal.exponent_lt hdigits (hvalue.trans_lt hd.value_lt)
      have hplaces := hd.places
      have hnearest : double.Rounds r (double.shortest r).value := by rwa [hvalue]
      -- the text stays within what the reader rounds correctly
      refine reads_decimal hdigits (by omega) (by omega) (fun h => ?_) hnearest hr s
      rw [hvalue] at h ⊢
      exact hd.range.resolve_right fun hlarge => h.not_ge hlarge.1

end Json

/-- Short decimals survive as numbers of variations. -/
lemma variationNumberRestored_short {d : Double} (hd : d.IsShort) : VariationNumberRestored (.double d) := by
  refine ⟨.double d, reads_short hd, ?_⟩
  cases d with
  | nan => exact hd.elim
  | signed s r => exact beq_self_eq_true (Binary.orderKey s r)

/-- A number that is written as a double is read as the same double. -/
lemma clauseNumberRestored_short {d : Double} (hd : d.IsShort) : ClauseNumberRestored d := by
  cases hexact : d.toExactInt? with
  | some i =>
    obtain ⟨hvalue, hi⟩ := Binary.toExactInt?_eq_some.mp hexact
    exact clauseNumberRestored_of_hasValue hi hvalue
  | none =>
    obtain ⟨n, hreads, hsame⟩ := variationNumberRestored_short hd
    cases n with
    | integer _ => cases hsame
    | double d' =>
      refine ⟨.double d', ?_, hsame⟩
      rw [Document.exactDouble, hexact]
      exact hreads

/-! ## Weights -/

/-- A weight that is zero, or neither tiny nor huge. -/
def Binary.IsModerate (w : Single) : Prop :=
  ∃ q, w.HasValue q ∧ (q = 0 ∨ 1 / 10000 ≤ |q| ∧ |q| < 2 ^ 52)

/-- The text of a weight is read as a double that rounds to the weight. -/
lemma exists_reads_single {s : Bool} {r : Fin (single.infinityRank + 1)} (hr : r.val < single.infinityRank)
    (hleast : 1 / 10000 ≤ single.value r) (hgreatest : single.value r < 2 ^ 52) :
    ∃ x : Double, Reads (Document.chars (.single (.signed s r))) (.number (.double x)) ∧
      (x.convert : Single) = .signed s r := by
  have hpos : 0 < r.val := pos_of_value_pos ((show (0 : ℚ) < 1 / 10000 by norm_num).trans_le hleast)
  obtain ⟨hnearest, -⟩ := single_shortest_spec hpos hr
  have hle := single_shortest_le hpos hr
  have hplaces := single_places hpos hr hleast
  have hdigits : 0 < (single.shortest r).digits := Decimal.digits_pos (hnearest.pos hpos)
  have hexponent := Decimal.exponent_lt hdigits (show (single.shortest r).value < 10 ^ 16 by linarith)
  obtain ⟨t, ht⟩ := double.exists_rounds (by decide) (hnearest.pos hpos).le
  have hfinite : t < double.infinityRank := ht.lt_infinityRank (by linarith)
  have hlayout : (10 : ℚ) ^ (NumeralLayout.single.greatestPositional + 1).toNat < 10 ^ 15 :=
    pow_lt_pow_right₀ (by norm_num) (by decide)
  refine ⟨.ofRank s t, ?_, ?_⟩
  · rw [Document.chars, text?_of_pos hpos hr, Option.getD_some]
    exact reads_decimal hdigits (single_digits_le hpos hr) (by omega) (fun h => h.trans hlayout) ht hfinite s
  · rw [Binary.ofRank_of_lt hfinite, Binary.convert_eq (by decide) hfinite
      (single_rounds_of_double hpos hr hleast hgreatest ht), Binary.ofRank_of_lt hr]

/-- Weights that are neither tiny nor huge survive. -/
theorem weightRestored_of_moderate {w : Single} (hw : w.IsModerate) : WeightRestored w := by
  obtain ⟨q, hvalue, hq⟩ := hw
  -- a weight is written as an integer if it is one, else as the shortest decimal of the single
  cases hexact : w.toExactInt? with
  | some i =>
    obtain ⟨hi, hsafe⟩ := Binary.toExactInt?_eq_some.mp hexact
    exact weightRestored_of_hasValue hsafe hi
  | none =>
    have hdocument : Document.exactSingle w = .single w := by rw [Document.exactSingle, hexact]
    have hne : q ≠ 0 := by
      rintro rfl
      have hzero : w.toExactInt? = some 0 :=
        Binary.toExactInt?_eq_some.mpr ⟨by rwa [Int.cast_zero], Nat.zero_le _⟩
      rw [hexact] at hzero
      cases hzero
    cases w with
    | nan => exact hvalue.elim
    | signed s r =>
      have habs : |q| = single.value r := by rw [← hvalue.2, Binary.abs_withSign s (single.value_nonneg r)]
      obtain ⟨hleast, hgreatest⟩ := hq.resolve_left hne
      rw [habs] at hleast hgreatest
      obtain ⟨x, hreads, hconvert⟩ := exists_reads_single (s := s) hvalue.1 hleast hgreatest
      refine ⟨.double x, ?_, ?_⟩
      · rw [hdocument]
        exact hreads
      · change (Binary.signed s r : Single).eq x.convert = true
        rw [hconvert]
        exact beq_self_eq_true (Binary.orderKey s r)

/-! ## Flags and segments -/

/-- A number of a variation that lasts. -/
def Json.Number.Lasts : Number → Prop
  | .integer i => -2 ^ 63 ≤ i ∧ i < 2 ^ 64
  | .double d => d.IsShort

/-- The numbers of a flag last. -/
structure Flag.DurableNumbers (f : Flag) : Prop where
  clauses : ∀ d ∈ f.clauseNumbers, (∃ i : ℤ, i.natAbs ≤ maxSafeInteger ∧ d.HasValue i) ∨ d.IsShort
  weights : ∀ w ∈ f.weights, w.IsModerate
  variations : ∀ n ∈ f.variationNumbers, n.Lasts
  signed : ∀ i, .int i ∈ f.variations → i < 2 ^ 63

/-- The numbers of a segment last. -/
structure Segment.DurableNumbers (s : Segment) : Prop where
  clauses : ∀ d ∈ s.clauseNumbers, (∃ i : ℤ, i.natAbs ≤ maxSafeInteger ∧ d.HasValue i) ∨ d.IsShort
  weights : ∀ w ∈ s.weights, w.IsModerate

/-- Small integers and short decimals survive as numbers of clauses. -/
lemma clauseNumberRestored_of_lasting {d : Double}
    (hd : (∃ i : ℤ, i.natAbs ≤ maxSafeInteger ∧ d.HasValue i) ∨ d.IsShort) : ClauseNumberRestored d := by
  rcases hd with ⟨i, hi, hvalue⟩ | hshort
  · exact clauseNumberRestored_of_hasValue hi hvalue
  · exact clauseNumberRestored_short hshort

/-- Numbers that last survive as numbers of variations. -/
lemma variationNumberRestored_of_lasts {n : Number} (hn : n.Lasts) : VariationNumberRestored n := by
  cases n with
  | integer i => exact variationNumberRestored_integer hn.1 hn.2
  | double d => exact variationNumberRestored_short hn

/-- A flag or a segment whose numbers last, once it was decoded from a text, is decoded from what it is encoded
to. -/
theorem restored_of_durableNumbers (text : String) :
    (∀ f : Flag, Flag.decode text = .ok f → f.DurableNumbers →
      ∃ f', Flag.decode f.encode = .ok f' ∧ f.same f' = true) ∧
    ∀ s : Segment, Segment.decode text = .ok s → s.DurableNumbers →
      ∃ s', Segment.decode s.encode = .ok s' ∧ s.same s' = true := by
  constructor
  · intro f h hdurable
    refine Flag.restored_of_numbers h (fun d hd => clauseNumberRestored_of_lasting (hdurable.clauses d hd))
      (fun w hw => weightRestored_of_moderate (hdurable.weights w hw)) fun v hv =>
        FlagValue.legible_of_numbers (fun n hn => ?_) ?_
    · exact variationNumberRestored_of_lasts (hdurable.variations n (List.mem_flatMap.mpr ⟨v, hv, hn⟩))
    · rintro i rfl
      have hsigned := hdurable.signed i hv
      rw [maxSigned]
      omega
  · intro s h hdurable
    exact Segment.restored_of_numbers h (fun d hd => clauseNumberRestored_of_lasting (hdurable.clauses d hd))
      fun w hw => weightRestored_of_moderate (hdurable.weights w hw)

/-- The double nearest to one tenth. -/
def tenth : Double := .ofRatio false 1 10

/-- One half. -/
def half : Double := .ofRatio false 1 2

lemma tenth_isShort : tenth.IsShort := by
  refine ⟨by decide, ⟨1, -1⟩, ⟨by decide, by decide, .inl (by norm_num [Decimal.value])⟩, ?_⟩
  have h := double.rounds_rankOfRatio (by decide) 1 (show 0 < 10 by decide)
  norm_num [Decimal.value] at h ⊢
  exact h

lemma half_isShort : half.IsShort := by
  refine ⟨by decide, ⟨5, -1⟩, ⟨by decide, by decide, .inl (by norm_num [Decimal.value])⟩, ?_⟩
  have h := double.rounds_rankOfRatio (by decide) 1 (show 0 < 2 by decide)
  norm_num [Decimal.value] at h ⊢
  exact h

lemma half_isModerate : (half.convert : Single).IsModerate := by
  obtain ⟨r, hr⟩ := single.exists_value (show 1 ≤ 2 * 2 ^ single.fractionBits by decide)
    (show single.minExponent ≤ -1 by decide)
  have hvalue : single.value r = (1 : Nat) / (2 : Nat) := by
    rw [hr]
    norm_num
  have hfinite : r < single.infinityRank := single_lt_infinityRank (by rw [hvalue]; norm_num)
  have hconvert : (half.convert : Single) = .ofRatio false 1 2 := by decide
  have hhalf := Binary.hasValue_ofRatio (by decide) false (by decide) hfinite hvalue
  rw [hconvert]
  refine ⟨_, hhalf, .inr ?_⟩
  norm_num [Binary.withSign]

/-- A flag with a number of each sort that is not an integer, as a generic value. -/
def durableFlagValue : Value :=
  .object [("key", .string "f"), ("version", .number (.integer 1)),
    ("rules", .array [.object [("clauses", .array [.object [("values", .array [.number (.double tenth)])]]),
      ("rollout", .object [("variations", .array [.object [("variation", .number (.integer 0)),
        ("weight", .number (.double half))]])])]]),
    ("variations", .array [.number (.double tenth)])]

/-- The flag of `durableFlagValue`. -/
def durableFlag : Flag :=
  { numberedFlag with
    rules := [⟨"", [⟨none, .ofAttribute "" false, false, .unknown "", [.number tenth]⟩],
      .rollout ⟨false, none, none, [⟨0, half.convert, false⟩], none⟩, false⟩]
    variations := [.float tenth] }

/-- A segment with a number of each sort that is not an integer, as a generic value. -/
def durableSegmentValue : Value :=
  .object [("key", .string "s"), ("version", .number (.integer 1)),
    ("rules", .array [.object [("clauses", .array [.object [("values", .array [.number (.double tenth)])]]),
      ("weight", .number (.double half))]])]

/-- The segment of `durableSegmentValue`. -/
def durableSegment : Segment :=
  { numberedSegment with
    rules := [⟨none, [⟨none, .ofAttribute "" false, false, .unknown "", [.number tenth]⟩],
      some half.convert, none, none⟩] }

/-- A flag and a segment with a tenth and a half are restored. -/
theorem restored_durable :
    (Flag.decode (Document.ofValue durableFlagValue).text = .ok durableFlag ∧ durableFlag.DurableNumbers ∧
      ∃ f', Flag.decode durableFlag.encode = .ok f' ∧ durableFlag.same f' = true) ∧
    (Segment.decode (Document.ofValue durableSegmentValue).text = .ok durableSegment ∧
      durableSegment.DurableNumbers ∧
      ∃ s', Segment.decode durableSegment.encode = .ok s' ∧ durableSegment.same s' = true) := by
  -- every number of the flag and the segment is read back as written
  have hnumber : ∀ n ∈ [Number.integer 0, .integer 1, .double tenth, .double half],
      Reads (Document.ofValue (.number n)).chars (.number n) := by
    simp only [List.forall_mem_cons, List.not_mem_nil, IsEmpty.forall_iff, implies_true, and_true]
    exact ⟨reads_integer (by decide) (by decide), reads_integer (by decide) (by decide),
      reads_short tenth_isShort, reads_short half_isShort⟩
  have hflag : Flag.decode (Document.ofValue durableFlagValue).text = .ok durableFlag := by
    have hsub : durableFlagValue.numbers ⊆ [.integer 0, .integer 1, .double tenth, .double half] := by decide
    exact (reads_mapNumbers (f := id) fun n hn => hnumber n (hsub hn)).run Flag.decoder
  have hsegment : Segment.decode (Document.ofValue durableSegmentValue).text = .ok durableSegment := by
    have hsub : durableSegmentValue.numbers ⊆ [.integer 0, .integer 1, .double tenth, .double half] := by decide
    exact (reads_mapNumbers (f := id) fun n hn => hnumber n (hsub hn)).run Segment.decoder
  have hclauses : ∀ d ∈ [tenth], (∃ i : ℤ, i.natAbs ≤ maxSafeInteger ∧ d.HasValue i) ∨ d.IsShort := by
    simp only [List.mem_singleton, forall_eq]
    exact .inr tenth_isShort
  have hweights : ∀ w ∈ [(half.convert : Single)], w.IsModerate := by
    simp only [List.mem_singleton, forall_eq]
    exact half_isModerate
  have hflagDurable : durableFlag.DurableNumbers := by
    refine ⟨hclauses, hweights, fun n hn => ?_, fun i hi => ?_⟩
    · obtain rfl := List.mem_singleton.mp (show n ∈ [Number.double tenth] from hn)
      exact tenth_isShort
    · cases List.mem_singleton.mp (show FlagValue.int i ∈ [FlagValue.float tenth] from hi)
  have hsegmentDurable : durableSegment.DurableNumbers := ⟨hclauses, hweights⟩
  exact ⟨⟨hflag, hflagDurable, (restored_of_durableNumbers _).1 _ hflag hflagDurable⟩,
    hsegment, hsegmentDurable, (restored_of_durableNumbers _).2 _ hsegment hsegmentDurable⟩

/-! ## A number that does not last -/

/-- A flag with one variation, a number. -/
def numberFlag (x : Double) : Flag := { numberedFlag with rules := [], variations := [.float x] }

/-- What the flag is encoded to, as a generic value. -/
def numberFlagValue (x : Double) : Value :=
  .object [("key", .string "f"), ("version", .number (.integer 1)), ("on", .bool false), ("targets", .array []),
    ("contextTargets", .array []), ("rules", .array []), ("prerequisites", .array []),
    ("fallthrough", .object []), ("variations", .array [.number (.double x)]), ("salt", .string "")]

lemma decode_numberFlag {x y : Double} (h : Reads (Document.chars (.double x)) (.number (.double y))) :
    Flag.decode (numberFlag x).encode = .ok (numberFlag y) := by
  let f : Number → Number
    | .integer i => .integer i
    | .double _ => .double y
  have hreads : Reads (Document.ofValue (numberFlagValue x)).chars
      (Tree.ofValue ((numberFlagValue x).mapNumbers f)) := by
    refine reads_mapNumbers fun n hn => ?_
    have hcases : n = .integer 1 ∨ n = .double x := by
      simpa [numberFlagValue, Value.numbers, Value.numbersOfMembers, Value.numbersOfItems] using hn
    rcases hcases with rfl | rfl
    · exact reads_integer (by decide) (by decide)
    · exact h
  exact hreads.run Flag.decoder

/-- The double nearest to `5 · 10 ^ 32`. -/
def fiveBelow : Double := .ofRank false 5096006472832567708

/-- The next double. -/
def fiveAbove : Double := .ofRank false 5096006472832567709

/-- A long number is read as a neighbour of the number that was written, and the neighbour as this number. So
the two alternate whenever a flag is encoded and decoded. -/
theorem not_restored_longNumber :
    (Document.double fiveBelow).text = "5e+32" ∧
    Flag.decode (numberFlag fiveBelow).encode = .ok (numberFlag fiveAbove) ∧
    Flag.decode (numberFlag fiveAbove).encode = .ok (numberFlag fiveBelow) ∧
    (numberFlag fiveAbove).same (numberFlag fiveBelow) = false := by
  -- `5e+32` has one digit, but the reader scales it by a power of ten that is not exact
  have hbelow : Reads (Document.chars (.double fiveBelow)) (.number (.double fiveAbove)) := by
    let n : Numeral := ⟨false, ['5'], none, some (false, ['3', '2'])⟩
    have hproper : n.Proper :=
      ⟨areDigits_of_all nofun rfl, nofun, nofun, by rintro _ _ ⟨⟩; exact areDigits_of_all nofun rfl⟩
    have hchars : Document.chars (.double fiveBelow) = n.chars := by decide
    rw [hchars]
    exact n.reads hproper (by decide)
  have habove : Reads (Document.chars (.double fiveAbove)) (.number (.double fiveBelow)) := by
    let n : Numeral := ⟨false, ['5'], some (List.replicate 15 '0' ++ ['4']), some (false, ['3', '2'])⟩
    have hproper : n.Proper :=
      ⟨areDigits_of_all nofun rfl, nofun, by rintro _ ⟨⟩; exact areDigits_of_all nofun rfl,
        by rintro _ _ ⟨⟩; exact areDigits_of_all nofun rfl⟩
    have hchars : Document.chars (.double fiveAbove) = n.chars := by decide
    rw [hchars]
    exact n.reads hproper (by decide)
  exact ⟨by decide, decode_numberFlag hbelow, decode_numberFlag habove, by decide⟩

end FeatureFlags
