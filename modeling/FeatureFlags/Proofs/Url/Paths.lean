import FeatureFlags.Proofs.Text.Scan
import FeatureFlags.Proofs.Text.Utf8
import FeatureFlags.Url.Reader
import Mathlib.Data.List.Basic
import Mathlib.Tactic.SplitIfs

/-!
# Paths of folders

A path is a folder if its last segment is empty. What follows a path, a query or a fragment, does not count
(`readPath_append_of_tail`); a slash after a path that has none at its end makes a folder of it
(`readPath_slash`); and a path with a slash at its end is one already (`getLast?_readPath`).

No segment has a slash in it, so that the text of a path shows whether it is a folder
(`withoutSlash_pathText`).
-/

namespace FeatureFlags.Url

open Text

/-! ## Folders -/

/-- A query or a fragment follows in a text. -/
def HasTail (text : List Char) : Prop := ∃ c ∈ text, endsPath c = true

/-- A text ends in a slash. -/
def EndsInSlash (special : Bool) (text : List Char) : Prop := ∃ c ∈ text.getLast?, isSlash special c = true

/-- The segments of a path, after which names can be put. -/
def asFolder (segments : List String) : List String :=
  if segments.getLast? = some "" then segments else segments ++ [""]

variable {special : Bool} {scheme : String} {text more : List Char} {path segments : List String}

lemma asFolder_concat_empty (segments : List String) : asFolder (segments ++ [""]) = segments ++ [""] := by
  simp [asFolder]

lemma asFolder_concat {name : String} (hname : name ≠ "") :
    asFolder (segments ++ [name]) = segments ++ [name] ++ [""] := by
  simp [asFolder, hname]

/-- A folder ends in an empty segment. -/
lemma getLast?_asFolder (segments : List String) : (asFolder segments).getLast? = some "" := by
  unfold asFolder
  split_ifs with h
  · exact h
  · simp

/-! ## Splitting -/

lemma splitSlashes_ne_nil (special : Bool) (text : List Char) : splitSlashes special text ≠ [] := by
  cases text with
  | nil => simp [splitSlashes]
  | cons c text =>
    rw [splitSlashes]
    split <;> simp

/-- A slash at the end adds an empty part. -/
lemma splitSlashes_slash (special : Bool) (text : List Char) :
    splitSlashes special (text ++ ['/']) = splitSlashes special text ++ [[]] := by
  induction text with
  | nil => simp [splitSlashes, isSlash]
  | cons c text ih =>
    rw [List.cons_append, splitSlashes, splitSlashes, ih]
    cases hparts : splitSlashes special text with
    | nil => exact absurd hparts (splitSlashes_ne_nil special text)
    | cons part parts => cases isSlash special c <;> simp

/-- A character that is no slash belongs to the last part. -/
lemma exists_splitSlashes_concat {c : Char} (hc : isSlash special c = false) (text : List Char) :
    ∃ parts part, splitSlashes special (text ++ [c]) = parts ++ [part ++ [c]] := by
  induction text with
  | nil => exact ⟨[], [], by simp [splitSlashes, hc]⟩
  | cons d text ih =>
    obtain ⟨parts, part, hparts⟩ := ih
    rw [List.cons_append, splitSlashes, hparts]
    cases hd : isSlash special d with
    | true => exact ⟨[] :: parts, part, by simp⟩
    | false =>
      cases parts with
      | nil => exact ⟨[], d :: part, rfl⟩
      | cons first parts => exact ⟨(d :: first) :: parts, part, rfl⟩

/-- No part holds a slash. -/
lemma slash_notMem_of_mem_splitSlashes {part : List Char} (h : part ∈ splitSlashes special text) :
    '/' ∉ part := by
  induction text generalizing part with
  | nil =>
    rw [splitSlashes, List.mem_singleton] at h
    simp [h]
  | cons c text ih =>
    -- a character goes to a new part, to the first part, or there is no part at all
    rw [splitSlashes] at h
    split at h
    · rcases List.mem_cons.mp h with rfl | hrest
      · exact List.not_mem_nil
      · exact ih hrest
    · rename_i first parts hc hparts
      rw [hparts] at ih
      rcases List.mem_cons.mp h with rfl | hrest
      · have hne : c ≠ '/' := by
          rintro rfl
          simp [isSlash] at hc
        simpa [hne.symm] using ih List.mem_cons_self
      · exact ih (List.mem_cons_of_mem _ hrest)
    · rename_i hc hparts
      exact absurd hparts (splitSlashes_ne_nil special text)

/-! ## Segments -/

/-- The segment that is written for a part. -/
def segmentOf (scheme : String) (part : List Char) : String :=
  let segment := Host.escape keepsInPath part
  String.ofList (if scheme = "file" then normalizeDrive segment else segment)

/-- One part at a time: two dots shorten the path, one dot is left out, anything else is a segment. -/
lemma addSegments_cons (scheme : String) (path : List String) (part : List Char) (rest : List (List Char)) :
    addSegments scheme path (part :: rest) =
      if decodeDots part = ['.', '.'] then
        addSegments scheme (if rest.isEmpty then shorten scheme path ++ [""] else shorten scheme path) rest
      else if decodeDots part = ['.'] then
        addSegments scheme (if rest.isEmpty then path ++ [""] else path) rest
      else addSegments scheme (path ++ [segmentOf scheme part]) rest := by
  rw [addSegments]
  rfl

lemma addSegments_nil (scheme : String) (path : List String) : addSegments scheme path [] = path := rfl

/-- Only a drive letter with a bar is rewritten, to one with a colon. -/
lemma normalizeDrive_cases (segment : List Char) : normalizeDrive segment = segment ∨
    ∃ letter, segment = [letter, '|'] ∧ normalizeDrive segment = [letter, ':'] := by
  unfold normalizeDrive
  split
  · split_ifs
    · exact .inr ⟨_, rfl, rfl⟩
    · exact .inl rfl
  · exact .inl rfl

lemma escape_append (keep : Char → Bool) (text more : List Char) :
    Host.escape keep (text ++ more) = Host.escape keep text ++ Host.escape keep more := List.flatMap_append

/-- A character is kept, or becomes escapes of its bytes. -/
lemma escape_singleton (keep : Char → Bool) (c : Char) :
    Host.escape keep [c] = [c] ∨ Host.escape keep [c] = (String.utf8EncodeChar c).flatMap Host.escaped := by
  unfold Host.escape
  rw [List.flatMap_singleton, Utf8.encode_eq_flatMap]
  split_ifs
  · exact .inl rfl
  · right
    simp

lemma slash_notMem_escaped (b : UInt8) : '/' ∉ Host.escaped b := by
  have hdigit : ∀ n < 16, '/' ≠ if n < 10 then Char.ofNat (0x30 + n) else Char.ofNat (0x37 + n) := by decide
  have hb : b.toNat < 256 := b.toNat_lt
  unfold Host.escaped
  simp only [List.mem_cons, List.not_mem_nil, or_false, not_or]
  exact ⟨by decide, hdigit _ (by omega), hdigit _ (by omega)⟩

/-- Something is written for each character. -/
lemma escape_ne_nil (keep : Char → Bool) {part : List Char} (hpart : part ≠ []) :
    Host.escape keep part ≠ [] := by
  cases part with
  | nil => contradiction
  | cons c part =>
    rw [← List.singleton_append, escape_append]
    apply List.append_ne_nil_of_left_ne_nil
    rcases escape_singleton keep c with h | h
    · simp [h]
    · rw [h, Ne, List.flatMap_eq_nil_iff]
      intro hall
      obtain ⟨b, hb⟩ := List.exists_mem_of_ne_nil _ (String.utf8EncodeChar_ne_nil (c := c))
      exact absurd (hall b hb) (List.cons_ne_nil _ _)

/-- Escaping does not make a part empty. -/
lemma segmentOf_ne_empty (scheme : String) {part : List Char} (hpart : part ≠ []) :
    segmentOf scheme part ≠ "" := by
  have hescape : Host.escape keepsInPath part ≠ [] := escape_ne_nil keepsInPath hpart
  unfold segmentOf
  rw [Ne, ← String.toList_eq_nil_iff, String.toList_ofList]
  split_ifs
  · rcases normalizeDrive_cases (Host.escape keepsInPath part) with h | ⟨letter, -, h⟩
    · rwa [h]
    · simp [h]
  · exact hescape

/-- Escaping does not bring slashes in. -/
lemma slash_notMem_segmentOf (scheme : String) {part : List Char} (hpart : '/' ∉ part) :
    '/' ∉ (segmentOf scheme part).toList := by
  -- escaping writes a percent sign and two digits, or the character itself
  have hescape : '/' ∉ Host.escape keepsInPath part := by
    induction part with
    | nil => exact List.not_mem_nil
    | cons c part ih =>
      rw [List.mem_cons, not_or] at hpart
      rw [← List.singleton_append, escape_append, List.mem_append, not_or]
      refine ⟨?_, ih hpart.2⟩
      rcases escape_singleton keepsInPath c with h | h
      · simpa [h] using hpart.1
      · simp [h, slash_notMem_escaped]
  unfold segmentOf
  rw [String.toList_ofList]
  split_ifs
  · rcases normalizeDrive_cases (Host.escape keepsInPath part) with h | ⟨letter, hdrive, h⟩
    · rwa [h]
    · rw [hdrive] at hescape
      simpa [h] using hescape
  · exact hescape

lemma addSegments_empty (scheme : String) (path : List String) :
    addSegments scheme path [[]] = path ++ [""] := by
  have hempty : segmentOf scheme [] = "" := by
    unfold segmentOf
    split_ifs <;> rfl
  rw [addSegments_cons, if_neg (by decide), if_neg (by decide), hempty, addSegments]

/-- Adding an empty part at last makes a folder. -/
lemma getLast?_addSegments (scheme : String) (path : List String) (parts : List (List Char)) :
    (addSegments scheme path (parts ++ [[]])).getLast? = some "" := by
  induction parts generalizing path with
  | nil => simp [addSegments_empty]
  | cons part parts ih =>
    rw [List.cons_append, addSegments_cons]
    split_ifs <;> exact ih _

/-- An empty part makes a folder of what the parts before it add up to. -/
lemma addSegments_folder {part : List Char} (hpart : part ≠ []) (path : List String)
    (parts : List (List Char)) :
    addSegments scheme path (parts ++ [part] ++ [[]]) = asFolder (addSegments scheme path (parts ++ [part])) := by
  induction parts generalizing path with
  | nil =>
    -- dots at the end leave a folder anyway
    rw [List.nil_append, List.singleton_append, addSegments_cons scheme path part [[]],
      addSegments_cons scheme path part []]
    simp only [List.isEmpty_cons, List.isEmpty_nil, Bool.false_eq_true, if_false, if_true, addSegments_empty,
      addSegments_nil]
    split_ifs
    · rw [asFolder_concat_empty]
    · rw [asFolder_concat_empty]
    · rw [asFolder_concat (segmentOf_ne_empty scheme hpart)]
  | cons first parts ih =>
    have hmore : (parts ++ [part] ++ [[]]).isEmpty = (parts ++ [part]).isEmpty := by
      cases parts <;> rfl
    rw [List.cons_append, List.cons_append, addSegments_cons, addSegments_cons, hmore]
    split_ifs <;> exact ih _

lemma shorten_subset (scheme : String) (path : List String) : shorten scheme path ⊆ path := by
  unfold shorten
  split
  · split_ifs
    · exact List.Subset.refl _
    · exact List.nil_subset _
  · exact List.dropLast_subset _

/-- By induction on the parts: the path gets no slash from parts that have none. -/
lemma slash_notMem_addSegments {parts : List (List Char)} (hparts : ∀ part ∈ parts, '/' ∉ part)
    (hpath : ∀ s ∈ path, '/' ∉ s.toList) : ∀ s ∈ addSegments scheme path parts, '/' ∉ s.toList := by
  -- the empty name has no slash either
  have hempty : ∀ path : List String, (∀ s ∈ path, '/' ∉ s.toList) → ∀ s ∈ path ++ [""], '/' ∉ s.toList := by
    intro path hpath s hs
    rcases List.mem_append.mp hs with hs | hs
    · exact hpath s hs
    · rw [List.mem_singleton.mp hs]
      simp
  induction parts generalizing path with
  | nil => exact hpath
  | cons part parts ih =>
    rw [List.forall_mem_cons] at hparts
    have hpath' : ∀ s ∈ shorten scheme path, '/' ∉ s.toList := fun s hs => hpath s (shorten_subset scheme path hs)
    rw [addSegments_cons]
    -- two dots and one dot, each as the last part or before it, and a name
    split_ifs
    · exact ih hparts.2 (hempty _ hpath')
    · exact ih hparts.2 hpath'
    · exact ih hparts.2 (hempty _ hpath)
    · exact ih hparts.2 hpath
    · refine ih hparts.2 fun s hs => ?_
      rcases List.mem_append.mp hs with hs | hs
      · exact hpath s hs
      · rw [List.mem_singleton.mp hs]
        exact slash_notMem_segmentOf scheme hparts.1

/-! ## Reading -/

lemma getLast?_dropEmpty (segments : List String) : (dropEmpty segments).getLast? = segments.getLast? := by
  fun_induction dropEmpty segments with
  | case1 next rest ih => rw [ih, List.getLast?_cons_cons]
  | case2 segments _ => rfl

lemma dropEmpty_subset (segments : List String) : dropEmpty segments ⊆ segments := by
  fun_induction dropEmpty segments with
  | case1 next rest ih => exact List.Subset.trans ih (List.subset_cons_self _ _)
  | case2 segments _ => exact List.Subset.refl _

lemma dropEmpty_of_ne {first : String} (hfirst : first ≠ "") (rest : List String) :
    dropEmpty (first :: rest) = first :: rest := by
  unfold dropEmpty
  split
  · rename_i h
    exact absurd (List.cons.inj h).1 hfirst
  · rfl

lemma asFolder_cons_cons (first second : String) (rest : List String) :
    asFolder (first :: second :: rest) = first :: asFolder (second :: rest) := by
  unfold asFolder
  rw [List.getLast?_cons_cons]
  split_ifs <;> rfl

lemma asFolder_ne_nil (segments : List String) : asFolder segments ≠ [] := by
  intro h
  have hlast := getLast?_asFolder segments
  rw [h] at hlast
  contradiction

/-- Making a folder and dropping empty segments at the front commute. -/
lemma dropEmpty_asFolder (segments : List String) :
    dropEmpty (asFolder segments) = asFolder (dropEmpty segments) := by
  fun_induction dropEmpty segments with
  | case1 next rest ih =>
    rw [asFolder_cons_cons]
    obtain ⟨first, others, hfolder⟩ := List.exists_cons_of_ne_nil (asFolder_ne_nil (next :: rest))
    rw [← ih, hfolder, dropEmpty]
  | case2 segments hsegments =>
    cases segments with
    | nil => rfl
    | cons first rest =>
      by_cases hfirst : first = ""
      · -- nothing can follow the empty segment
        cases rest with
        | nil =>
          rw [hfirst]
          rfl
        | cons second rest => exact absurd (by rw [hfirst]) (hsegments second rest)
      · cases rest with
        | nil =>
          have hfolder : asFolder ([] ++ [first]) = [first, ""] := asFolder_concat hfirst
          rw [List.nil_append] at hfolder
          rw [hfolder, dropEmpty_of_ne hfirst]
        | cons second rest => rw [asFolder_cons_cons, dropEmpty_of_ne hfirst]

lemma endsPath_iff {c : Char} : endsPath c = true ↔ c = '?' ∨ c = '#' := by simp [endsPath]

lemma not_hasTail_nil : ¬HasTail [] := by simp [HasTail]

lemma hasTail_append : HasTail (text ++ more) ↔ HasTail text ∨ HasTail more := by
  simp [HasTail, or_and_right, exists_or]

lemma not_hasTail_append : ¬HasTail (text ++ more) ↔ ¬HasTail text ∧ ¬HasTail more := by
  rw [hasTail_append, not_or]

lemma not_hasTail_slash (h : ¬HasTail text) : ¬HasTail (text ++ ['/']) :=
  not_hasTail_append.mpr ⟨h, by simp [HasTail, endsPath]⟩

/-- A path with a tail behind it is not continued by more text. -/
theorem HasTail.takeWhile_append (h : HasTail text) (more : List Char) :
    (text ++ more).takeWhile (!endsPath ·) = text.takeWhile (!endsPath ·) := by
  obtain ⟨c, hc, htail⟩ := h
  exact Text.takeWhile_append (StopsBefore.of_mem hc (by simp [htail]))

lemma takeWhile_of_not_hasTail (h : ¬HasTail text) : text.takeWhile (!endsPath ·) = text := by
  rw [List.takeWhile_eq_self_iff]
  intro c hc
  by_contra htail
  exact h ⟨c, hc, by simpa using htail⟩

/-- What follows a query or a fragment does not count. -/
theorem readPath_append_of_tail (h : HasTail text) (more : List Char) :
    readPath scheme (text ++ more) = readPath scheme text := by
  unfold readPath
  rw [h.takeWhile_append]

/-- Skipping the slash at the start of a text leaves its end as it is. -/
lemma exists_skipSlash_concat {c : Char} (hc : isSlash special c = false) (text : List Char) :
    ∃ rest, ∀ more, skipSlash special (text ++ [c] ++ more) = rest ++ [c] ++ more := by
  cases text with
  | nil => exact ⟨[], fun more => by simp [skipSlash, hc]⟩
  | cons d text =>
    by_cases hd : isSlash special d = true
    · exact ⟨text, fun more => by simp [skipSlash, hd]⟩
    · exact ⟨d :: text, fun more => by simp [skipSlash, hd]⟩

/-- A slash after a path makes a folder of it. -/
theorem readPath_slash (htail : ¬HasTail text) (hend : ¬EndsInSlash (isSpecialScheme scheme) text) :
    readPath scheme (text ++ ['/']) = asFolder (readPath scheme text) := by
  unfold readPath
  rw [takeWhile_of_not_hasTail (not_hasTail_slash htail), takeWhile_of_not_hasTail htail]
  rcases List.eq_nil_or_concat text with rfl | ⟨init, c, rfl⟩
  · -- a path that is missing is the root already
    have hroot : addSegments scheme [] [[]] = [""] := addSegments_empty scheme []
    simp only [List.nil_append, skipSlash, isSlash, beq_self_eq_true, Bool.true_or, if_true, splitSlashes, hroot]
    split_ifs <;> rfl
  · have hc : isSlash (isSpecialScheme scheme) c = false := by
      by_contra h
      exact hend ⟨c, by simp, by simpa using h⟩
    obtain ⟨rest, hskip⟩ := exists_skipSlash_concat hc init
    obtain ⟨parts, part, hparts⟩ := exists_splitSlashes_concat hc rest
    have hskip' : skipSlash (isSpecialScheme scheme) (init ++ [c]) = rest ++ [c] := by
      simpa using hskip []
    dsimp only
    rw [List.concat_eq_append, hskip, hskip', splitSlashes_slash, hparts, addSegments_folder (by simp)]
    split_ifs
    · exact dropEmpty_asFolder _
    · rfl

/-- What ends in a slash is a folder. -/
theorem getLast?_readPath (htail : ¬HasTail (text ++ ['/'])) :
    (readPath scheme (text ++ ['/'])).getLast? = some "" := by
  obtain ⟨parts, hparts⟩ : ∃ parts, splitSlashes (isSpecialScheme scheme)
      (skipSlash (isSpecialScheme scheme) (text ++ ['/'])) = parts ++ [[]] := by
    cases text with
    | nil => exact ⟨[], by simp [skipSlash, isSlash, splitSlashes]⟩
    | cons c text =>
      rw [List.cons_append, skipSlash]
      split_ifs
      · exact ⟨_, splitSlashes_slash _ text⟩
      · exact ⟨_, splitSlashes_slash _ (c :: text)⟩
  unfold readPath
  rw [takeWhile_of_not_hasTail htail]
  dsimp only
  rw [hparts]
  split_ifs
  · rw [getLast?_dropEmpty, getLast?_addSegments]
  · rw [getLast?_addSegments]

/-- The segments read have no slashes. -/
lemma slash_notMem_readPath {name : String} (h : name ∈ readPath scheme text) : '/' ∉ name.toList := by
  have hsegments : ∀ rest, ∀ s ∈ addSegments scheme [] (splitSlashes (isSpecialScheme scheme) rest),
      '/' ∉ s.toList :=
    fun rest => slash_notMem_addSegments (fun part hpart => slash_notMem_of_mem_splitSlashes hpart) nofun
  unfold readPath at h
  dsimp only at h
  split_ifs at h
  · exact hsegments _ name (dropEmpty_subset _ h)
  · exact hsegments _ name h

/-! ## Texts of paths -/

/-- A text without the slash that it may end in. -/
def withoutSlash (text : String) : String :=
  if text.toList.getLast? = some '/' then String.ofList text.toList.dropLast else text

/-- The segments of a path without the empty one that it may end in. -/
def withoutEmpty (segments : List String) : List String :=
  if segments.getLast? = some "" then segments.dropLast else segments

lemma pathText_concat (segments : List String) (name : String) :
    pathText (.segments (segments ++ [name])) = pathText (.segments segments) ++ "/" ++ name := by
  simp [pathText, String.join, String.append_assoc]

/-- The slash at the end is the one taken away. -/
lemma withoutSlash_concat (text : String) : withoutSlash (text ++ "/") = text := by
  simp [withoutSlash]

/-- The text of a path ends in a slash exactly if the path is a folder. -/
theorem withoutSlash_pathText (hslash : ∀ name ∈ segments, '/' ∉ name.toList) :
    withoutSlash (pathText (.segments segments)) = pathText (.segments (withoutEmpty segments)) := by
  rcases List.eq_nil_or_concat segments with rfl | ⟨init, name, rfl⟩
  · rfl
  rw [List.concat_eq_append] at hslash ⊢
  by_cases hname : name = ""
  · have hstem : withoutEmpty (init ++ [name]) = init := by simp [withoutEmpty, hname]
    rw [pathText_concat, hstem, hname, String.append_empty, withoutSlash_concat]
  · have hstem : withoutEmpty (init ++ [name]) = init ++ [name] := by simp [withoutEmpty, hname]
    rw [hstem, pathText_concat, withoutSlash, if_neg]
    intro hlast
    have hne : name.toList ≠ [] := mt String.toList_eq_nil_iff.mp hname
    rw [String.toList_append, List.getLast?_append_of_ne_nil _ hne] at hlast
    exact hslash name (by simp) (List.mem_of_getLast? hlast)

/-- Names are put beside the empty segment of a folder. -/
lemma parentSegments_asFolder (scheme : String) (segments : List String) :
    parentSegments scheme (asFolder segments) = withoutEmpty segments := by
  have hdrive : isDrive "" = false := by decide
  unfold parentSegments
  rw [getLast?_asFolder]
  simp only [hdrive, Bool.false_eq_true, and_false, if_false]
  unfold asFolder withoutEmpty
  split_ifs
  · rfl
  · simp

end FeatureFlags.Url
