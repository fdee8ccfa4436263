import FeatureFlags.Attribute.Value
import FeatureFlags.Proofs.Text.Scan

/-!
# Reading versions

What is read of a text without all of its numbers, and what build metadata does to it.

* `ofLooseText?_major`, `ofLooseText?_minor`: a text whose missing numbers are filled in by zeros, before
  whatever follows the numbers, denotes the same version as the text.
* `ofLooseText?_build`: build metadata is read and changes nothing but itself. A text with a plus sign that no
  build metadata follows denotes no version.

The last statement is proved reader by reader. None of them goes past a plus sign (`StopsAtPlus`), so a
reading that is made of them and comes to the plus sign at last only takes down what follows it (`KeepsBuild`).
-/

namespace FeatureFlags.Version

open Text WrittenVersion

/-! ## Parts of a text -/

/-- Decimal digits, maybe none. -/
def AreDigits (text : List Char) : Prop := ∀ c ∈ text, isDigit c = true

/-- What may follow the numbers of a version: nothing, or something after a hyphen or a plus sign. -/
def IsSuffix (text : List Char) : Prop := ∀ c ∈ text.head?, c = '-' ∨ c = '+'

/-- Whether a text is build metadata: fields with points between, none of them empty. -/
def isBuild (text : List Char) : Bool :=
  let fields := splitOn '.' text
  fields.all (·.all isFieldChar) && !fields.any List.isEmpty

variable {text rest major minor suffix : List Char}

lemma IsSuffix.not_isDigit (h : IsSuffix suffix) : ∀ c ∈ suffix.head?, isDigit c = false := by
  intro c hc
  rcases h c hc with rfl | rfl <;> rfl

/-- A suffix starts with `-` or `+`, so no component comes before it. -/
lemma IsSuffix.expect? (h : IsSuffix suffix) : expect? '.' suffix = none := by
  cases suffix with
  | nil => rfl
  | cons c suffix =>
    rcases h c rfl with rfl | rfl <;> rfl

lemma IsSuffix.splitComponent? (h : IsSuffix suffix) : splitComponent? suffix = none := by
  cases suffix with
  | nil => rfl
  | cons c suffix =>
    rcases h c rfl with rfl | rfl <;> rfl

/-! ## Numbers -/

lemma rest_of_readNumber? {n : Nat} (h : readNumber? text = some (n, rest)) :
    rest = text.dropWhile isDigit := by
  unfold readNumber? at h
  split at h
  · contradiction
  · contradiction
  · dsimp only at h
    split_ifs at h
    cases h
    rfl

/-- A number is read in front of any text that does not lengthen it. -/
lemma readNumber?_append (h : StopsBefore isDigit text rest) :
    readNumber? (text ++ rest) = (readNumber? text).map fun r => (r.1, r.2 ++ rest) := by
  unfold readNumber?
  rw [takeWhile_append h, dropWhile_append h]
  split
  · rfl
  · rfl
  · dsimp only
    split_ifs <;> rfl

/-- A number is read up to the end of its digits. -/
lemma readNumber?_digits (hdigits : AreDigits text) (hrest : ∀ c ∈ rest.head?, isDigit c = false) :
    readNumber? (text ++ rest) = (readNumber? text).map fun r => (r.1, rest) := by
  rw [readNumber?_append fun _ => hrest]
  cases hread : readNumber? text with
  | none => rfl
  | some r =>
    have hend : r.2 = [] := (rest_of_readNumber? hread).trans (List.dropWhile_eq_nil_iff.mpr hdigits)
    simp [hend]

lemma readNumber?_of_not_digit (h : ∀ c ∈ text.head?, isDigit c = false) : readNumber? text = none := by
  unfold readNumber?
  cases text with
  | nil => rfl
  | cons c text => simp [h c rfl]

/-! ## Missing numbers -/

/-- One number alone is no version. -/
lemma ofChars?_major (hmajor : AreDigits major) (hsuffix : IsSuffix suffix) :
    ofChars? (major ++ suffix) = none := by
  unfold ofChars?
  rw [readNumber?_digits hmajor hsuffix.not_isDigit]
  cases readNumber? major with
  | none => rfl
  | some r => simp [hsuffix.expect?]

/-- Neither are two. -/
lemma ofChars?_minor (hmajor : AreDigits major) (hminor : AreDigits minor) (hsuffix : IsSuffix suffix) :
    ofChars? (major ++ '.' :: (minor ++ suffix)) = none := by
  unfold ofChars?
  rw [readNumber?_digits hmajor (by simp [isDigit])]
  cases readNumber? major with
  | none => rfl
  | some r =>
    simp only [Option.map_some, Option.bind_eq_bind, Option.bind_some, expect?_cons_self]
    rw [readNumber?_digits hminor hsuffix.not_isDigit]
    cases readNumber? minor with
    | none => rfl
    | some r => simp [hsuffix.expect?]

/-- A dot and digits are split off as a component. -/
lemma splitComponent?_digits {digits : List Char} (hne : digits ≠ []) (hdigits : AreDigits digits)
    (hrest : ∀ c ∈ rest.head?, isDigit c = false) :
    splitComponent? ('.' :: (digits ++ rest)) = some ('.' :: digits, rest) := by
  obtain ⟨htake, hdrop⟩ := scan_of_forall hdigits hrest
  rw [splitComponent?, htake, hdrop]
  cases digits with
  | nil => contradiction
  | cons d digits => rfl

lemma splitComponent?_of_not_digit (hrest : ∀ c ∈ rest.head?, isDigit c = false) :
    splitComponent? ('.' :: rest) = none := by
  unfold splitComponent?
  cases rest with
  | nil => rfl
  | cons c rest => simp [hrest c rfl]

/-- A text is padded according to the components after its first number. -/
lemma padded?_eq (hne : major ≠ []) (hmajor : AreDigits major)
    (hrest : ∀ c ∈ rest.head?, isDigit c = false) :
    padded? (major ++ rest) =
      match splitComponent? rest with
      | none => some (major ++ '.' :: '0' :: '.' :: '0' :: rest)
      | some (minor, rest) =>
        match splitComponent? rest with
        | none => some (major ++ minor ++ '.' :: '0' :: rest)
        | some (patch, rest) => some (major ++ minor ++ patch ++ rest) := by
  obtain ⟨htake, hdrop⟩ := scan_of_forall hmajor hrest
  unfold padded?
  rw [htake, hdrop]
  cases major with
  | nil => contradiction
  | cons d major => rfl

/-- A major version alone is padded with a minor and a patch version of zero. -/
lemma padded?_major (hne : major ≠ []) (hmajor : AreDigits major) (hsuffix : IsSuffix suffix) :
    padded? (major ++ suffix) = some (major ++ '.' :: '0' :: '.' :: '0' :: suffix) := by
  rw [padded?_eq hne hmajor hsuffix.not_isDigit, hsuffix.splitComponent?]

/-- A major and minor version are padded with a patch version of zero. -/
lemma padded?_minor (hne : major ≠ []) (hmajor : AreDigits major) (hne' : minor ≠ [])
    (hminor : AreDigits minor) (hsuffix : IsSuffix suffix) :
    padded? (major ++ '.' :: (minor ++ suffix)) = some (major ++ '.' :: (minor ++ '.' :: '0' :: suffix)) := by
  rw [padded?_eq hne hmajor (by simp [isDigit]), splitComponent?_digits hne' hminor hsuffix.not_isDigit]
  simp [hsuffix.splitComponent?]

/-- Where no number is missing, nothing is filled in. -/
lemma padded?_patch {patch : List Char} (hne : major ≠ []) (hmajor : AreDigits major) (hne' : minor ≠ [])
    (hminor : AreDigits minor) (hne'' : patch ≠ []) (hpatch : AreDigits patch) (hsuffix : IsSuffix suffix) :
    padded? (major ++ '.' :: (minor ++ '.' :: (patch ++ suffix))) =
      some (major ++ '.' :: (minor ++ '.' :: (patch ++ suffix))) := by
  rw [padded?_eq hne hmajor (by simp [isDigit]), splitComponent?_digits hne' hminor (by simp [isDigit])]
  simp [splitComponent?_digits hne'' hpatch hsuffix.not_isDigit]

/-! ## Padding -/

/-- A text without a digit at its start denotes no version. -/
lemma ofLooseText?_of_not_digit {text : String} (h : ∀ c ∈ text.toList.head?, isDigit c = false) :
    ofLooseText? text = none := by
  have hstrict : ofChars? text.toList = none := by
    unfold ofChars?
    rw [readNumber?_of_not_digit h]
    rfl
  have hpadded : padded? text.toList = none := by
    unfold padded?
    cases hchars : text.toList with
    | nil => rfl
    | cons c chars => simp [h c (by rw [hchars]; rfl)]
  unfold ofLooseText?
  rw [hstrict, hpadded]
  rfl

/-- Neither does one without a digit after its first point. -/
lemma ofLooseText?_of_not_minor {text : String} (htext : text.toList = major ++ '.' :: rest)
    (hmajor : AreDigits major) (hrest : ∀ c ∈ rest.head?, isDigit c = false) : ofLooseText? text = none := by
  have hpoint : ∀ chars : List Char, ∀ c ∈ ('.' :: chars).head?, isDigit c = false := by simp [isDigit]
  by_cases hne : major = []
  · apply ofLooseText?_of_not_digit
    rw [htext, hne]
    exact hpoint rest
  have hzero : ∀ chars, (∀ c ∈ chars.head?, isDigit c = false) →
      readNumber? ('0' :: chars) = some (0, chars) := by
    intro chars hchars
    have hdigit : AreDigits ['0'] := by simp [AreDigits, isDigit]
    have hread : readNumber? (['0'] ++ chars) = some (0, chars) := readNumber?_digits hdigit hchars
    exact hread
  have hpadded : padded? text.toList = some (major ++ '.' :: '0' :: '.' :: '0' :: '.' :: rest) := by
    rw [htext, padded?_eq hne hmajor (hpoint _), splitComponent?_of_not_digit hrest]
  unfold ofLooseText?
  rw [hpadded, htext]
  unfold ofChars?
  rw [readNumber?_digits hmajor (hpoint _), Option.bind_some, readNumber?_digits hmajor (hpoint _)]
  cases readNumber? major with
  | none => rfl
  | some r =>
    -- the point that stands where a suffix belongs is left over
    simp [readNumber?_of_not_digit hrest, hzero _ (hpoint _), readPrerelease?, readBuild?]

/-- What is missing is filled in before a text is read. -/
lemma ofLooseText?_of_padded {text full : String} (hstrict : ofChars? text.toList = none)
    (hpadded : padded? text.toList = some full.toList) (hfull : padded? full.toList = some full.toList) :
    ofLooseText? text = ofLooseText? full := by
  unfold ofLooseText?
  rw [hstrict, hpadded, hfull]
  cases h : ofChars? full.toList with
  | none => rfl
  | some v => exact h

/-- Where one number stands alone, the other two are zero. -/
theorem ofLooseText?_major {major suffix : String} (hmajor : AreDigits major.toList)
    (hsuffix : IsSuffix suffix.toList) :
    ofLooseText? (major ++ suffix) = ofLooseText? (major ++ ".0.0" ++ suffix) := by
  have htext : (major ++ suffix).toList = major.toList ++ suffix.toList := String.toList_append
  have hfull : (major ++ ".0.0" ++ suffix).toList =
      major.toList ++ '.' :: (['0'] ++ '.' :: (['0'] ++ suffix.toList)) := by
    simp
  by_cases hne : major.toList = []
  · rw [ofLooseText?_of_not_digit, ofLooseText?_of_not_digit]
    · rw [hfull, hne]
      simp [isDigit]
    · rw [htext, hne]
      exact hsuffix.not_isDigit
  have hzero : AreDigits ['0'] := by simp [AreDigits, isDigit]
  apply ofLooseText?_of_padded
  · rw [htext, ofChars?_major hmajor hsuffix]
  · rw [htext, hfull, padded?_major hne hmajor hsuffix]
    rfl
  · rw [hfull, padded?_patch hne hmajor (by simp) hzero (by simp) hzero hsuffix]

/-- Where two numbers stand alone, the third one is zero. -/
theorem ofLooseText?_minor {major minor suffix : String} (hmajor : AreDigits major.toList)
    (hminor : AreDigits minor.toList) (hsuffix : IsSuffix suffix.toList) :
    ofLooseText? (major ++ "." ++ minor ++ suffix) =
      ofLooseText? (major ++ "." ++ minor ++ ".0" ++ suffix) := by
  have htext : (major ++ "." ++ minor ++ suffix).toList =
      major.toList ++ '.' :: (minor.toList ++ suffix.toList) := by
    simp
  have hfull : (major ++ "." ++ minor ++ ".0" ++ suffix).toList =
      major.toList ++ '.' :: (minor.toList ++ '.' :: (['0'] ++ suffix.toList)) := by
    simp
  -- without a major or a minor version neither text is a version
  by_cases hne : major.toList = []
  · rw [ofLooseText?_of_not_digit, ofLooseText?_of_not_digit]
    · rw [hfull, hne]
      simp [isDigit]
    · rw [htext, hne]
      simp [isDigit]
  by_cases hne' : minor.toList = []
  · rw [hne'] at htext hfull
    rw [ofLooseText?_of_not_minor htext hmajor hsuffix.not_isDigit,
      ofLooseText?_of_not_minor hfull hmajor (by simp [isDigit])]
  have hzero : AreDigits ['0'] := by simp [AreDigits, isDigit]
  apply ofLooseText?_of_padded
  · rw [htext, ofChars?_minor hmajor hminor hsuffix]
  · rw [htext, hfull, padded?_minor hne hmajor hne' hminor hsuffix]
    rfl
  · rw [hfull, padded?_patch hne hmajor hne' hminor (by simp) hzero hsuffix]

/-! ## Build metadata -/

/-- A reader does not go past a plus sign. -/
def StopsAtPlus {α : Type} (read : List Char → Option (α × List Char)) : Prop :=
  ∀ text rest, '+' ∉ text →
    read (text ++ '+' :: rest) = (read text).map (fun r => (r.1, r.2 ++ '+' :: rest)) ∧
      ∀ r ∈ read text, '+' ∉ r.2

/-- A version with this build metadata. -/
def withBuild (v : WrittenVersion) (build : List Char) : WrittenVersion :=
  { v with build := (splitOn '.' build).map String.ofList }

/-- A reading comes to build metadata after everything else, and takes it down. -/
def KeepsBuild (read : List Char → Option WrittenVersion) : Prop :=
  ∀ text build, '+' ∉ text →
    read (text ++ '+' :: build) = if isBuild build then (read text).map (withBuild · build) else none

section Readers

variable {α : Type}

/-- What takes down build metadata may come after any reader that stops in time. -/
lemma StopsAtPlus.bind {read : List Char → Option (α × List Char)}
    {next : α → List Char → Option WrittenVersion} (hread : StopsAtPlus read)
    (hnext : ∀ a, KeepsBuild (next a)) :
    KeepsBuild fun text => (read text).bind fun r => next r.1 r.2 := by
  intro text build hplus
  obtain ⟨happend, hrest⟩ := hread text build hplus
  dsimp only
  rw [happend]
  cases hr : read text with
  | none => simp
  | some r => exact hnext r.1 r.2 build (hrest r hr)

lemma KeepsBuild.expect {next : List Char → Option WrittenVersion} (hnext : KeepsBuild next) :
    KeepsBuild fun text => (expect? '.' text).bind next := by
  intro text build hplus
  cases text with
  | nil => simp [Text.expect?]
  | cons c text =>
    have htext : '+' ∉ text := fun h => hplus (List.mem_cons_of_mem c h)
    by_cases hc : c = '.'
    · subst hc
      simpa using hnext text build htext
    · simp [Text.expect?, hc]

end Readers

/-- A scan that stops at a plus sign leaves nothing of what stands before it to the rest. -/
lemma stopsBefore_plus {p : Char → Bool} (hp : p '+' = false) : StopsBefore p text ('+' :: rest) := by
  intro _ c hc
  cases hc
  exact hp

lemma notMem_dropWhile {p : Char → Bool} (h : '+' ∉ text) : '+' ∉ text.dropWhile p :=
  fun hmem => h ((List.dropWhile_sublist p).subset hmem)

lemma stopsAtPlus_readNumber? : StopsAtPlus readNumber? := by
  intro text rest hplus
  refine ⟨readNumber?_append (stopsBefore_plus rfl), fun r hr => ?_⟩
  rw [rest_of_readNumber? hr]
  exact notMem_dropWhile hplus

lemma stopsAtPlus_readFields? : StopsAtPlus readFields? := by
  intro text rest hplus
  unfold readFields?
  dsimp only
  rw [takeWhile_append (stopsBefore_plus rfl), dropWhile_append (stopsBefore_plus rfl)]
  split_ifs
  · exact ⟨rfl, nofun⟩
  · refine ⟨rfl, fun r hr => ?_⟩
    cases hr
    exact notMem_dropWhile hplus

lemma readPrerelease?_of_ne {c : Char} (hc : c ≠ '-') : readPrerelease? (c :: text) = some ([], c :: text) := by
  simp [readPrerelease?, hc]

lemma stopsAtPlus_readPrerelease? : StopsAtPlus readPrerelease? := by
  intro text rest hplus
  cases text with
  | nil => exact ⟨rfl, fun r hr => by cases hr; exact List.not_mem_nil⟩
  | cons c text =>
    by_cases hc : c = '-'
    · subst hc
      obtain ⟨happend, hrest⟩ := stopsAtPlus_readFields? text rest (fun h => hplus (List.mem_cons_of_mem _ h))
      rw [List.cons_append, readPrerelease?, readPrerelease?, happend]
      cases hread : readFields? text with
      | none => exact ⟨rfl, nofun⟩
      | some r =>
        cases hfields : r.1.mapM prereleaseField? with
        | none => simp [hfields]
        | some fields => simpa [hfields] using hrest r hread
    · rw [List.cons_append, readPrerelease?_of_ne hc, readPrerelease?_of_ne hc]
      exact ⟨rfl, fun r hr => by cases hr; exact hplus⟩

/-- Splitting a component off loses nothing. -/
lemma append_of_splitComponent? {component : List Char} (h : splitComponent? text = some (component, rest)) :
    component ++ rest = text := by
  unfold splitComponent? at h
  split at h
  · split at h
    · contradiction
    · cases h
      rw [List.cons_append, List.takeWhile_append_dropWhile]
  · contradiction

lemma stopsAtPlus_splitComponent? : StopsAtPlus splitComponent? := by
  intro text rest hplus
  refine ⟨?_, fun r hr hmem => ?_⟩
  · cases text with
    | nil => rfl
    | cons c text =>
      by_cases hc : c = '.'
      · subst hc
        rw [List.cons_append, splitComponent?, splitComponent?, takeWhile_append (stopsBefore_plus rfl),
          dropWhile_append (stopsBefore_plus rfl)]
        split
        · rfl
        · rfl
      · simp [splitComponent?, hc]
  · rw [← append_of_splitComponent? hr] at hplus
    exact hplus (List.mem_append_right _ hmem)

/-- Build metadata are the same characters as prerelease fields, without the rule against leading zeros. -/
lemma isBuild_eq : isBuild text =
    (text.all (fun c => isFieldChar c || c == '.') && !(splitOn '.' text).any List.isEmpty) := by
  unfold isBuild
  rw [← all_splitOn]

/-- After the plus sign there is build metadata, and nothing else. -/
lemma keepsBuild_end (v : Version) :
    KeepsBuild fun text =>
      (readBuild? text).bind fun r => if r.2.isEmpty then some ⟨v, r.1⟩ else none := by
  intro text build hplus
  -- the build metadata are read last, so they must be all that is left
  cases text with
  | nil =>
    show ((readFields? build).bind fun r => some (r.1.map String.ofList, r.2)).bind _ =
      if isBuild build then some (withBuild ⟨v, []⟩ build) else none
    unfold readFields?
    rw [isBuild_eq]
    dsimp only
    by_cases hall : build.all (fun c => isFieldChar c || c == '.') = true
    · have hchars := List.all_eq_true.mp hall
      rw [List.takeWhile_eq_self_iff.mpr hchars, List.dropWhile_eq_nil_iff.mpr hchars, hall]
      cases (splitOn '.' build).any List.isEmpty <;> rfl
    · -- some character is left over
      have hrest : (build.dropWhile fun c => isFieldChar c || c == '.') ≠ [] := by
        intro h
        exact hall (List.all_eq_true.mpr (List.dropWhile_eq_nil_iff.mp h))
      rw [eq_false_of_ne_true hall, Bool.false_and, if_neg Bool.false_ne_true]
      split_ifs
      · rfl
      · simp [hrest]
  | cons c text =>
    have hc : c ≠ '+' := by
      rintro rfl
      exact hplus List.mem_cons_self
    simp [readBuild?, hc]

/-- The strict reader hands the build metadata through as it stands. -/
lemma keepsBuild_ofChars? : KeepsBuild ofChars? :=
  stopsAtPlus_readNumber?.bind fun major => .expect <|
    stopsAtPlus_readNumber?.bind fun minor => .expect <|
      stopsAtPlus_readNumber?.bind fun patch =>
        stopsAtPlus_readPrerelease?.bind fun prerelease =>
          keepsBuild_end ⟨major, minor, patch, prerelease⟩

/-- Padding keeps away from build metadata. -/
lemma padded?_append_plus (hplus : '+' ∉ text) :
    padded? (text ++ '+' :: rest) = (padded? text).map (· ++ '+' :: rest) ∧
      ∀ full ∈ padded? text, '+' ∉ full := by
  have hmajor : '+' ∉ text.takeWhile isDigit := fun h => hplus ((List.takeWhile_sublist _).subset h)
  have hafter : '+' ∉ text.dropWhile isDigit := notMem_dropWhile hplus
  -- one scan after the other stops before the plus sign
  unfold padded?
  rw [takeWhile_append (stopsBefore_plus rfl), dropWhile_append (stopsBefore_plus rfl)]
  split
  · exact ⟨rfl, nofun⟩
  dsimp only
  rw [(stopsAtPlus_splitComponent? _ rest hafter).1]
  cases hminor : splitComponent? (text.dropWhile isDigit) with
  | none => simp [hmajor, hafter]
  | some r =>
    rw [← append_of_splitComponent? hminor, List.mem_append, not_or] at hafter
    dsimp only [Option.map_some]
    rw [(stopsAtPlus_splitComponent? _ rest hafter.2).1]
    cases hpatch : splitComponent? r.2 with
    | none => simp [hmajor, hafter]
    | some r' =>
      rw [← append_of_splitComponent? hpatch, List.mem_append, not_or] at hafter
      simp [hmajor, hafter]

/-- Build metadata does not change which version a text denotes. Where something else follows the plus sign,
there is no version. -/
theorem ofLooseText?_build {text build : String} (hplus : '+' ∉ text.toList) :
    ofLooseText? (text ++ "+" ++ build) =
      if isBuild build.toList then (ofLooseText? text).map (withBuild · build.toList) else none := by
  have htext : (text ++ "+" ++ build).toList = text.toList ++ '+' :: build.toList := by simp
  obtain ⟨happend, hpadded⟩ := @padded?_append_plus text.toList build.toList hplus
  have hloose : ((padded? text.toList).map (· ++ '+' :: build.toList)).bind ofChars? =
      if isBuild build.toList then
        ((padded? text.toList).bind ofChars?).map (withBuild · build.toList) else none := by
    cases hfull : padded? text.toList with
    | none => split_ifs <;> rfl
    | some full => exact keepsBuild_ofChars? _ _ (hpadded full hfull)
  unfold ofLooseText?
  rw [htext, keepsBuild_ofChars? _ _ hplus, happend, hloose]
  split_ifs
  · cases ofChars? text.toList <;> rfl
  · rfl

end FeatureFlags.Version
