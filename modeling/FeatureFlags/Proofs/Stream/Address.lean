import FeatureFlags.Proofs.Url.Origins
import FeatureFlags.Stream.Address

/-!
# Where the stream of a service is

The stream of a service has the origin of the base address, and its path is the one of the base with a name
behind it, as long as the slash that is put at the end of the base comes to its path
(`stream_behind_base_iff`). Behind a query or a fragment the slash is of no use, and the name takes the place
of the last segment of the path.
-/

namespace FeatureFlags

open Url
open Json (bind_eq_ok)

variable {special : Bool} {base name : String} {u v folder : Url} {path : UrlPath} {segments : List String}

/-! ## The text of the folder -/

/-- A slash put at the end of a base belongs to its path, or to what follows the path. This leaves out a base
with blanks or control characters at its end, behind which the slash makes them part of the path, and one that
ends in a slash already, but not in the one that is looked for. -/
def TakesSlash (special : Bool) (base : List Char) : Prop :=
  HasTail base ∨ base.getLast? = some '/' ∨
    ∃ c ∈ (base.filter counts).getLast?, isOuter c = false ∧ isSlash special c = false

/-- The slash is appended to what the reader sees of the base, or was there already. -/
lemma exists_withSlash (hslash : TakesSlash special base.toList) :
    ∃ more, relevant (withSlash base).toList = relevant base.toList ++ more ∧
      GoesOn special (relevant base.toList) more ∧
      (more = [] → (relevant base.toList).getLast? = some '/') := by
  have houter : isOuter '/' = false := rfl
  -- the base ends in a slash itself, or one is appended to it
  by_cases hend : base.toList.getLast? = some '/'
  · obtain ⟨init, hinit⟩ := List.getLast?_eq_some_iff.mp hend
    refine ⟨[], ?_, .inr (.inl rfl), fun _ => ?_⟩
    · rw [withSlash, if_pos hend, List.append_nil]
    · rw [hinit, relevant_concat houter, List.getLast?_concat]
  have hwith : relevant (withSlash base).toList = (base.toList.dropWhile isOuter).filter counts ++ ['/'] := by
    rw [withSlash, if_neg hend, String.toList_append]
    exact relevant_concat houter _
  -- what the reader drops at the end of the base must not come between it and the slash
  rcases hslash with htail | hlast | ⟨c, hlast, hc, hnot⟩
  · obtain ⟨blanks, hblanks, -⟩ := exists_blanks base.toList
    refine ⟨blanks ++ ['/'], ?_, .inl (hasTail_relevant.mpr htail), ?_⟩
    · rw [hwith, hblanks, List.append_assoc]
    · simp
  · exact absurd hlast hend
  · obtain ⟨hrelevant, hlast⟩ := relevant_of_getLast? hc hlast
    refine ⟨['/'], ?_, .inr (.inr ⟨rfl, ?_⟩), nofun⟩
    · rw [hwith, hrelevant]
    · rintro ⟨d, hd, hslash⟩
      rw [hlast] at hd
      cases hd
      rw [hnot] at hslash
      contradiction

/-! ## The folder -/

/-- The folder differs from the base by its path only. The path is the one of the base where a query or
fragment follows, and else the one of a folder. -/
lemma folder_of_base (hu : Url.ofText base = .ok u) (hf : Url.ofText (withSlash base) = .ok folder)
    (hslash : TakesSlash (isSpecialScheme u.scheme) base.toList) :
    folder = { u with path := folder.path } ∧
      (HasTail base.toList → folder.path = u.path) ∧
      (¬HasTail base.toList → folder.path = folderPath u.path ∨
        folder.path = u.path ∧ ∀ segments, u.path = .segments segments →
          segments = [] ∨ segments.getLast? = some "") := by
  obtain ⟨o, before, path, hscheme, hbase, hbefore, rfl, hread⟩ := exists_origin hu
  obtain ⟨more, hwith, hgoes, hlast⟩ := exists_withSlash hslash
  obtain rfl : folder = o.url (path ++ more) := hread more _ folder hgoes hwith hf
  have htail : HasTail base.toList ↔ HasTail path := by
    rw [← hasTail_relevant, hbase, hasTail_append, or_iff_right hbefore]
  have hurl : hasDrive (o.path (path ++ more)) = hasDrive (o.path path) →
      o.url (path ++ more) = { o.url path with path := o.path (path ++ more) } := by
    intro hdrive
    simp only [Origin.url, hdrive]
  rw [hbase] at hgoes hlast
  rw [htail]
  -- what the text goes on by stands behind the path, and its last character is that of the path
  rcases hgoes.of_append hbefore with hpath | rfl | ⟨rfl, hend⟩
  · have hsame : o.path (path ++ more) = o.path path := o.path_append_of_tail hpath more
    exact ⟨hurl (congrArg hasDrive hsame), fun _ => hsame, fun hnot => absurd hpath hnot⟩
  · rw [List.append_nil]
    refine ⟨rfl, fun _ => rfl, fun hnot => .inr ⟨rfl, fun segments => o.path_of_slash hnot fun c hc => ?_⟩⟩
    have hne : path ≠ [] := List.ne_nil_of_mem (List.mem_of_getLast? hc)
    have hend := hlast rfl
    rw [List.getLast?_append_of_ne_nil _ hne, Option.mem_def.mp hc] at hend
    exact Option.some.inj hend
  · by_cases hpath : HasTail path
    · have hsame : o.path (path ++ ['/']) = o.path path := o.path_append_of_tail hpath _
      exact ⟨hurl (congrArg hasDrive hsame), fun _ => hsame, fun hnot => absurd hpath hnot⟩
    · have hfolder : o.path (path ++ ['/']) = folderPath (o.path path) := o.path_slash hpath hend
      refine ⟨hurl ?_, fun h => absurd h hpath, fun _ => .inl hfolder⟩
      rw [hfolder, hasDrive_folderPath]

/-- No segment of a parsed path holds a slash. -/
lemma slash_notMem_path (hu : Url.ofText base = .ok u) (hpath : u.path = .segments segments) :
    ∀ name ∈ segments, '/' ∉ name.toList := by
  obtain ⟨o, before, path, -, -, -, rfl, -⟩ := exists_origin hu
  exact fun name hname => o.slash_notMem_path hpath hname

/-! ## The stream -/

/-- The stream address is the base with the last segment of its folder replaced by the name of the stream. -/
lemma exists_of_streamUrl (hv : streamUrl base = .ok v) :
    ∃ folder segments, Url.ofText (withSlash base) = .ok folder ∧ folder.path = .segments segments ∧
      v = { folder with path := .segments (parentSegments folder.scheme segments ++ [streamName]) } := by
  obtain ⟨folder, hfolder, hv⟩ := bind_eq_ok.mp hv
  unfold Url.sibling at hv
  split at hv
  · contradiction
  · rename_i segments hpath
    exact ⟨folder, segments, hfolder, hpath, (Except.ok.inj hv).symm⟩

/-- A name takes the place of the last segment: it is neither empty nor the drive of a file. -/
def LosesName (u : Url) : Prop :=
  ∃ segments name, u.path = .segments (segments ++ [name]) ∧ name ≠ "" ∧ ¬(u.scheme = "file" ∧ isDrive name)

/-- A base loses its last name if there is one and it is no drive letter. -/
lemma losesName_iff {init : List String} (hpath : u.path = .segments (init ++ [name])) :
    LosesName u ↔ name ≠ "" ∧ ¬(u.scheme = "file" ∧ isDrive name) := by
  constructor
  · rintro ⟨init', name', h, hname⟩
    rw [hpath] at h
    obtain ⟨-, rfl⟩ := List.append_singleton_inj.mp (UrlPath.segments.inj h)
    exact hname
  · exact fun hname => ⟨init, name, hpath, hname⟩

/-- Beside the empty segment of a folder, or where there are no segments, none is lost. -/
lemma parentSegments_of_folder (scheme : String) (h : segments = [] ∨ segments.getLast? = some "") :
    parentSegments scheme segments = withoutEmpty segments := by
  rcases h with rfl | h
  · rfl
  · have hfolder : asFolder segments = segments := if_pos h
    rw [← parentSegments_asFolder scheme, hfolder]

/-- Going to the parent of the folder of a path takes the slash away again. -/
lemma pathText_parentSegments_folderPath (scheme : String) (hfolder : folderPath path = .segments segments)
    (hslash : ∀ segments, path = .segments segments → ∀ name ∈ segments, '/' ∉ name.toList) :
    pathText (.segments (parentSegments scheme segments)) = withoutSlash (pathText path) := by
  cases path with
  | rootless text =>
    simp only [folderPath] at hfolder
    split_ifs at hfolder with hempty
    cases hfolder
    subst hempty
    rw [parentSegments_of_folder scheme (.inr rfl)]
    rfl
  | segments segments =>
    cases hfolder
    rw [parentSegments_asFolder, withoutSlash_pathText (hslash segments rfl)]

/-- The path that a name is put on has the text of the base exactly if the base loses no name. -/
lemma pathText_parentSegments_iff (hpath : u.path = .segments segments)
    (hslash : ∀ name ∈ segments, '/' ∉ name.toList) :
    pathText (.segments (parentSegments u.scheme segments)) = withoutSlash (pathText u.path) ↔ ¬LosesName u := by
  rw [hpath, withoutSlash_pathText hslash]
  -- the last name is empty, a drive letter or a name that is lost
  rcases List.eq_nil_or_concat segments with rfl | ⟨init, name, rfl⟩
  · have hkeeps : ¬LosesName u := by
      rintro ⟨init, name, h, -⟩
      rw [hpath] at h
      exact absurd (UrlPath.segments.inj h) (by simp)
    simp [hkeeps, parentSegments, withoutEmpty]
  rw [List.concat_eq_append] at hpath ⊢
  rw [losesName_iff hpath]
  by_cases hempty : name = ""
  · rw [parentSegments_of_folder u.scheme (.inr (by simp [hempty]))]
    simp [hempty]
  have hstem : withoutEmpty (init ++ [name]) = init ++ [name] := by simp [withoutEmpty, hempty]
  rw [hstem]
  by_cases hdrive : u.scheme = "file" ∧ isDrive name
  · simp [parentSegments, hdrive]
  · -- the name and the slash before it are missing
    have hparent : parentSegments u.scheme (init ++ [name]) = init := by simp [parentSegments, hdrive]
    have hne : pathText (.segments init) ≠ pathText (.segments (init ++ [name])) := by
      intro h
      have hlength := congrArg String.length h
      rw [pathText_concat, String.length_append, String.length_append] at hlength
      have hslash : String.length "/" = 1 := by decide
      omega
    rw [hparent]
    simp [hne, hempty, hdrive]

/-- The stream of a service has the origin of the base address. Its path is the one of the base with its name
behind it, unless a query or fragment follows on the path of the base: then the name takes the place of the
last segment. -/
theorem stream_behind_base_iff (hu : Url.ofText base = .ok u) (hv : streamUrl base = .ok v)
    (hslash : TakesSlash (isSpecialScheme u.scheme) base.toList) :
    v.scheme = u.scheme ∧ v.userinfo = u.userinfo ∧ v.host = u.host ∧ v.port = u.port ∧
      (pathText v.path = withoutSlash (pathText u.path) ++ "/" ++ streamName ↔
        ¬(HasTail base.toList ∧ LosesName u)) := by
  obtain ⟨folder, segments, hf, hpath, rfl⟩ := exists_of_streamUrl hv
  obtain ⟨hsame, htail, hfolder⟩ := folder_of_base hu hf hslash
  have hscheme : folder.scheme = u.scheme := by rw [hsame]
  refine ⟨hscheme, by rw [hsame], by rw [hsame], by rw [hsame], ?_⟩
  have hnames : ∀ segments, u.path = .segments segments → ∀ name ∈ segments, '/' ∉ name.toList :=
    fun segments => slash_notMem_path hu
  rw [hscheme, pathText_concat, String.append_left_inj, String.append_left_inj]
  -- behind a query the slash does not reach the path, so the path is the one of the base
  by_cases hbase : HasTail base.toList
  · rw [htail hbase] at hpath
    rw [pathText_parentSegments_iff hpath (hnames segments hpath)]
    simp [hbase]
  · simp only [hbase, false_and, not_false_iff, iff_true]
    rcases hfolder hbase with hfolder | ⟨hfolder, hempty⟩
    · rw [hpath] at hfolder
      exact pathText_parentSegments_folderPath u.scheme hfolder.symm hnames
    · rw [hpath] at hfolder
      rw [parentSegments_of_folder _ (hempty segments hfolder.symm), ← hfolder,
        withoutSlash_pathText (hnames segments hfolder.symm)]

theorem stream_behind_base_prefix :
    let base : Url := ⟨"http", "", some (.domain "proxy"), none, .segments ["prefix"]⟩
    let stream : Url := ⟨"http", "", some (.domain "proxy"), none, .segments ["prefix", "all"]⟩
    Url.ofText "http://proxy/prefix" = .ok base ∧ streamUrl "http://proxy/prefix" = .ok stream ∧
      TakesSlash (isSpecialScheme base.scheme) "http://proxy/prefix".toList ∧
      pathText stream.path = withoutSlash (pathText base.path) ++ "/" ++ streamName := by
  intro base stream
  have hu : Url.ofText "http://proxy/prefix" = .ok base := by decide +kernel
  have hv : streamUrl "http://proxy/prefix" = .ok stream := by decide +kernel
  have hslash : TakesSlash (isSpecialScheme base.scheme) "http://proxy/prefix".toList :=
    .inr (.inr ⟨'x', by decide, by decide, by decide⟩)
  have htail : ¬HasTail "http://proxy/prefix".toList := by simp [HasTail, endsPath]
  exact ⟨hu, hv, hslash, (stream_behind_base_iff hu hv hslash).2.2.2.2.mpr fun h => htail h.1⟩

/-- A query behind the prefix takes the slash, and the stream is found beside the prefix. -/
theorem stream_not_behind_query :
    let base : Url := ⟨"http", "", some (.domain "proxy"), none, .segments ["prefix"]⟩
    let stream : Url := ⟨"http", "", some (.domain "proxy"), none, .segments ["all"]⟩
    Url.ofText "http://proxy/prefix?x=1" = .ok base ∧ streamUrl "http://proxy/prefix?x=1" = .ok stream ∧
      pathText stream.path ≠ withoutSlash (pathText base.path) ++ "/" ++ streamName := by
  intro base stream
  exact ⟨by decide +kernel, by decide +kernel, by decide +kernel⟩

end FeatureFlags
