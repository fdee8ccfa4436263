import FeatureFlags.Proofs.Json.Values
import FeatureFlags.Proofs.Url.Paths

/-!
# Addresses that go on

An address is made of an origin, which ends before the path, and of the path (`Origin.url`). A text that goes
on behind its path keeps its origin, and what it goes on by belongs to the path
(`exists_origin`).
-/

namespace FeatureFlags.Url

open Text
open Json (bind_eq_ok)

/-! ## Origins -/

/-- What is read of an address before its path. -/
structure Origin where
  scheme : String
  userinfo : String
  host : Option Host
  port : Option Nat

/-- Whether a path has a drive among its segments. -/
def hasDrive : UrlPath → Bool
  | .rootless _ => false
  | .segments segments => segments.any isDrive

/-- The path that a text behind an origin denotes. -/
def Origin.path (o : Origin) (text : List Char) : UrlPath :=
  match o.host with
  | none =>
    if text.head? = some '/' then .segments (readPath o.scheme text)
    else .rootless (String.ofList (Host.escape Host.isPrintable (text.takeWhile (!endsPath ·))))
  | some _ =>
    .segments <|
      if !isSpecialScheme o.scheme ∧ (text.takeWhile (!endsPath ·)).isEmpty then [] else readPath o.scheme text

/-- The address of an origin and a path. A file on a drive has no host. -/
def Origin.url (o : Origin) (text : List Char) : Url :=
  { scheme := o.scheme
    userinfo := o.userinfo
    host := if o.scheme = "file" ∧ hasDrive (o.path text) then some (.domain "") else o.host
    port := o.port
    path := o.path text }

variable {special : Bool} {scheme : String} {text more rest : List Char} {segments : List String} {u : Url}

/-- The path of a folder, from the path that it has without the slash at its end. -/
def folderPath : UrlPath → UrlPath
  | .rootless text => if text = "" then .segments [""] else .rootless (text ++ "/")
  | .segments segments => .segments (asFolder segments)

lemma hasDrive_folderPath (path : UrlPath) : hasDrive (folderPath path) = hasDrive path := by
  have hempty : isDrive "" = false := by decide
  cases path with
  | rootless text =>
    simp only [folderPath]
    split_ifs <;> simp [hasDrive, hempty]
  | segments segments =>
    simp only [folderPath, hasDrive, asFolder]
    split_ifs <;> simp [hempty]

/-- Behind a query or fragment nothing belongs to the path. -/
lemma Origin.path_append_of_tail (o : Origin) (h : HasTail text) (more : List Char) :
    o.path (text ++ more) = o.path text := by
  have hhead : (text ++ more).head? = text.head? := by
    obtain ⟨c, hc, -⟩ := h
    exact List.head?_append_of_ne_nil _ (List.ne_nil_of_mem hc)
  unfold Origin.path
  rw [hhead, h.takeWhile_append, readPath_append_of_tail h]

lemma readPath_nil (scheme : String) : readPath scheme [] = [""] := by
  have hroot : addSegments scheme [] [[]] = [""] := addSegments_empty scheme []
  simp only [readPath, List.takeWhile_nil, skipSlash, splitSlashes, hroot]
  split_ifs <;> rfl

/-- A slash at the end of the text makes the path a folder, if neither a tail nor a slash stands there
already. -/
lemma Origin.path_slash (o : Origin) (htail : ¬HasTail text)
    (hend : ¬EndsInSlash (isSpecialScheme o.scheme) text) :
    o.path (text ++ ['/']) = folderPath (o.path text) := by
  have hread := readPath_slash htail hend
  unfold Origin.path
  rw [takeWhile_of_not_hasTail htail, takeWhile_of_not_hasTail (not_hasTail_slash htail), hread]
  -- the empty text is a path of its own: the slash starts it instead of ending it
  by_cases hempty : text = []
  · rw [hempty, readPath_nil]
    cases o.host <;> cases isSpecialScheme o.scheme <;> rfl
  have hhead : (text ++ ['/']).head? = text.head? := List.head?_append_of_ne_nil _ hempty
  rw [hhead]
  cases o.host with
  -- without a host the text is kept as it is unless it starts with a slash
  | none =>
    have hescape : String.ofList (Host.escape Host.isPrintable text) ≠ "" := by
      rw [Ne, ← String.toList_eq_nil_iff, String.toList_ofList]
      exact escape_ne_nil _ hempty
    have hslash : Host.escape Host.isPrintable ['/'] = ['/'] := by decide
    by_cases hroot : text.head? = some '/'
    · simp only [hroot, if_true, folderPath]
    · simp [hroot, folderPath, hescape, escape_append, hslash, String.ofList_append]
  | some host => simp [hempty, folderPath]

/-- A path with a slash at its end, and a path that is missing, can take a name. -/
lemma Origin.path_of_slash (o : Origin) (htail : ¬HasTail text) (hlast : ∀ c ∈ text.getLast?, c = '/')
    (hpath : o.path text = .segments segments) : segments = [] ∨ segments.getLast? = some "" := by
  have hread : (readPath o.scheme text).getLast? = some "" := by
    rcases List.eq_nil_or_concat text with rfl | ⟨init, c, rfl⟩
    · rw [readPath_nil]
      rfl
    · rw [List.concat_eq_append] at htail hlast ⊢
      rw [hlast c (by simp)] at htail ⊢
      exact getLast?_readPath htail
  unfold Origin.path at hpath
  split at hpath
  · split_ifs at hpath
    cases hpath
    exact .inr hread
  · cases hpath
    split_ifs
    · exact .inl rfl
    · exact .inr hread

/-- The segments of a path are what stands between the slashes. -/
lemma Origin.slash_notMem_path (o : Origin) (hpath : o.path text = .segments segments) {name : String}
    (hname : name ∈ segments) : '/' ∉ name.toList := by
  unfold Origin.path at hpath
  split at hpath
  · split_ifs at hpath
    cases hpath
    exact slash_notMem_readPath hname
  · cases hpath
    split_ifs at hname
    · contradiction
    · exact slash_notMem_readPath hname

/-! ## Authorities -/

/-- The user information of an authority. -/
def userinfoPart (authority : List Char) : String := userinfoText ((splitUserinfo authority).1.getD [])

/-- The host of an authority. -/
def hostPart (authority : List Char) : List Char := (splitHost false (splitUserinfo authority).2).1

/-- What follows the host of an authority. -/
def portPart (authority : List Char) : List Char := (splitHost false (splitUserinfo authority).2).2

/-- The port, and what is left of the text after the host. -/
def readPortPart (scheme : String) : List Char → Except UrlError (Option Nat × List Char)
  | ':' :: text => readPort scheme text
  | _ => .ok (none, [])

/-- Nothing but the authority decides on the origin, and on what is left over for the path. -/
lemma exists_of_readAuthority (hscheme : scheme ≠ "file") (h : readAuthority scheme text = .ok u) :
    let authority := text.takeWhile (!endsAuthority (isSpecialScheme scheme) ·)
    ∃ host port left,
      readHost (isSpecialScheme scheme) (hostPart authority) = .ok host ∧
      readPortPart scheme (portPart authority) = .ok (port, left) ∧
      u = (⟨scheme, userinfoPart authority, some host, port⟩ : Origin).url
        (left ++ text.dropWhile (!endsAuthority (isSpecialScheme scheme) ·)) := by
  unfold readAuthority at h
  dsimp only at h ⊢
  split at h
  · contradiction
  obtain ⟨host, hhost, h⟩ := bind_eq_ok.mp h
  split at h
  · contradiction
  split at h
  -- a port is read only where a colon follows the host
  · rename_i portText hport
    obtain ⟨⟨port, left⟩, hread, h⟩ := bind_eq_ok.mp h
    split at h
    · contradiction
    cases h
    refine ⟨host, port, left, hhost, ?_, ?_⟩
    · rw [portPart, hport]
      exact hread
    · simp [Origin.url, hscheme, Origin.path, userinfoPart]
  · rename_i hport
    split at h
    · contradiction
    cases h
    refine ⟨host, none, [], hhost, ?_, ?_⟩
    · unfold readPortPart
      split
      · rename_i portText htext
        exact absurd htext (hport portText)
      · rfl
    · simp [Origin.url, hscheme, Origin.path, userinfoPart]

lemma splitHost_append (bracketed : Bool) (text : List Char) :
    (splitHost bracketed text).1 ++ (splitHost bracketed text).2 = text := by
  induction text generalizing bracketed with
  | nil => rfl
  | cons c text ih =>
    rw [splitHost]
    split_ifs
    · rfl
    · exact congrArg (c :: ·) (ih true)
    · exact congrArg (c :: ·) (ih false)
    · exact congrArg (c :: ·) (ih bracketed)

/-- Splitting off the user information only drops from the front. -/
lemma splitUserinfo_suffix (text : List Char) : (splitUserinfo text).2 <:+ text := by
  unfold splitUserinfo
  dsimp only
  split_ifs
  · rw [← List.reverse_prefix, List.reverse_reverse]
    exact List.takeWhile_prefix _
  · exact List.suffix_refl _

/-- What is left over for the path stands at the end of the authority. -/
lemma suffix_of_readPortPart {authority left : List Char} {port : Option Nat}
    (h : readPortPart scheme (portPart authority) = .ok (port, left)) : left <:+ authority := by
  have hport : portPart authority <:+ authority :=
    List.IsSuffix.trans ⟨_, splitHost_append false _⟩ (splitUserinfo_suffix authority)
  refine List.IsSuffix.trans ?_ hport
  unfold readPortPart at h
  split at h
  · rename_i text htext
    rw [htext]
    unfold readPort at h
    dsimp only at h
    split at h
    · contradiction
    · cases h
      exact List.IsSuffix.trans (List.dropWhile_suffix _) (List.suffix_cons _ _)
  · cases h
    exact List.nil_suffix

/-! ## Going on -/

lemma isSlash_of_endsPath {c : Char} (h : endsPath c = true) : isSlash special c = false := by
  rcases endsPath_iff.mp h with rfl | rfl <;> simp [isSlash]

/-- What a text may go on by without changing its origin: anything behind a query or fragment, or a slash,
unless there is one already. -/
def GoesOn (special : Bool) (text more : List Char) : Prop :=
  HasTail text ∨ more = [] ∨ more = ['/'] ∧ ¬EndsInSlash special text

/-- Scans for the end of the authority stop before the text appended. -/
lemma GoesOn.stopsBefore {p : Char → Bool} (h : GoesOn special text more)
    (htail : ∀ c, endsPath c = true → p c = false) (hslash : p '/' = false) : StopsBefore p text more := by
  rcases h with ⟨c, hc, h⟩ | rfl | ⟨rfl, -⟩
  · exact StopsBefore.of_mem hc (htail c h)
  · exact fun _ => nofun
  · intro _ c hc
    cases hc
    exact hslash

/-- The rest of a text goes on as the text does. -/
lemma GoesOn.of_append {before : List Char} (h : GoesOn special (before ++ rest) more)
    (hbefore : ¬HasTail before) : GoesOn special rest more := by
  rcases h with htail | hmore | ⟨hmore, hend⟩
  · exact .inl ((hasTail_append.mp htail).resolve_left hbefore)
  · exact .inr (.inl hmore)
  · refine .inr (.inr ⟨hmore, ?_⟩)
    rintro ⟨c, hc, h⟩
    have hne : rest ≠ [] := List.ne_nil_of_mem (List.mem_of_getLast? hc)
    exact hend ⟨c, by rwa [List.getLast?_append_of_ne_nil _ hne], h⟩

/-- A reader makes an address of an origin and of the path behind it, whatever the text goes on by. -/
def KeepsOrigin (scheme : String) (read : List Char → Except UrlError Url) (text : List Char) : Prop :=
  ∀ u, read text = .ok u → ∃ (o : Origin) (before path : List Char), o.scheme = scheme ∧
    text = before ++ path ∧ ¬HasTail before ∧ u = o.url path ∧
    ∀ more f, GoesOn (isSpecialScheme scheme) text more → read (text ++ more) = .ok f → f = o.url (path ++ more)

/-- All of a text may belong to the path. -/
lemma KeepsOrigin.of_path {read : List Char → Except UrlError Url} {o : Origin} (hread : ∀ more,
    GoesOn (isSpecialScheme o.scheme) text more → read (text ++ more) = .ok (o.url (text ++ more))) :
    KeepsOrigin o.scheme read text := by
  intro u hu
  have hsame := hread [] (.inr (.inl rfl))
  rw [List.append_nil, hu] at hsame
  refine ⟨o, [], text, rfl, rfl, not_hasTail_nil, Except.ok.inj hsame, ?_⟩
  intro more f hgoes hf
  rw [hread more hgoes] at hf
  exact (Except.ok.inj hf).symm

/-- A reader may leave to another one what stands behind the start of a text. -/
lemma KeepsOrigin.behind {read inner : List Char → Except UrlError Url} {start : List Char}
    (h : KeepsOrigin scheme inner rest) (hstart : ¬HasTail start)
    (hread : ∀ more, GoesOn (isSpecialScheme scheme) (start ++ rest) more →
      read (start ++ rest ++ more) = inner (rest ++ more)) : KeepsOrigin scheme read (start ++ rest) := by
  intro u hu
  have hsame := hread [] (.inr (.inl rfl))
  rw [List.append_nil, List.append_nil, hu] at hsame
  obtain ⟨o, before, path, hscheme, rfl, hbefore, hpath, hmore⟩ := h u hsame.symm
  refine ⟨o, start ++ before, path, hscheme, by rw [List.append_assoc], ?_, hpath, ?_⟩
  · exact not_hasTail_append.mpr ⟨hstart, hbefore⟩
  · intro more f hgoes hf
    rw [hread more hgoes] at hf
    exact hmore more f (hgoes.of_append hstart) hf

lemma endsAuthority_of_endsPath {c : Char} (h : endsPath c = true) : endsAuthority special c = true := by
  simp [endsAuthority, h]

/-- No query or fragment is in an authority. -/
lemma not_hasTail_authority (text : List Char) : ¬HasTail (text.takeWhile (!endsAuthority special ·)) := by
  rintro ⟨c, hc, h⟩
  have hnot := List.mem_takeWhile_imp hc
  simp [endsAuthority_of_endsPath h] at hnot

/-- An appended text leaves scheme, host and port alone, in a URL with an authority. -/
lemma keepsOrigin_readAuthority (hscheme : scheme ≠ "file") (text : List Char) :
    KeepsOrigin scheme (readAuthority scheme) text := by
  intro u hu
  obtain ⟨host, port, left, hhost, hport, hu⟩ := exists_of_readAuthority hscheme hu
  obtain ⟨before, hbefore⟩ := suffix_of_readPortPart hport
  refine ⟨_, before, _, rfl, ?_, ?_, hu, ?_⟩
  · rw [← List.append_assoc, hbefore, List.takeWhile_append_dropWhile]
  · intro h
    apply not_hasTail_authority text
    rw [← hbefore, hasTail_append]
    exact .inl h
  · intro more f hgoes hf
    have hstop : StopsBefore (!endsAuthority (isSpecialScheme scheme) ·) text more :=
      hgoes.stopsBefore (fun c h => by simp [endsAuthority_of_endsPath h]) rfl
    obtain ⟨host', port', left', hhost', hport', hf⟩ := exists_of_readAuthority hscheme hf
    -- the authority is the same one, so what is read of it is the same too
    rw [takeWhile_append hstop] at hhost' hport' hf
    rw [hhost] at hhost'
    cases hhost'
    rw [hport] at hport'
    cases hport'
    rw [hf, dropWhile_append hstop, List.append_assoc]

/-- A text with something in it ends the slashes at its start before it goes on. -/
lemma GoesOn.stopsBefore_slashes (h : GoesOn special text more) (hne : text ≠ []) :
    StopsBefore (isSlash special ·) text more := by
  rcases h with ⟨c, hc, htail⟩ | rfl | ⟨rfl, hend⟩
  · exact StopsBefore.of_mem hc (isSlash_of_endsPath htail)
  · exact fun _ => nofun
  · obtain ⟨c, hlast⟩ := Option.ne_none_iff_exists'.mp (mt List.getLast?_eq_none_iff.mp hne)
    refine StopsBefore.of_mem (List.mem_of_getLast? hlast) ?_
    by_contra hslash
    exact hend ⟨c, hlast, by simpa using hslash⟩

/-- Going on announces no authority. -/
lemma GoesOn.ne_slashes (h : GoesOn special text more) (htext : ∀ rest, text ≠ '/' :: '/' :: rest) :
    ∀ rest, text ++ more ≠ '/' :: '/' :: rest := by
  intro rest heq
  -- two slashes in the joined text start in `text`, unless `more` begins with one
  match text with
  | [] =>
    rcases h with ⟨c, hc, -⟩ | rfl | ⟨rfl, -⟩
    · contradiction
    · contradiction
    · exact absurd (List.cons.inj heq).2 nofun
  | [a] =>
    obtain ⟨rfl, hmore⟩ := List.cons.inj heq
    rcases h with ⟨c, hc, htail⟩ | rfl | ⟨-, hend⟩
    · rw [List.mem_singleton.mp hc] at htail
      contradiction
    · contradiction
    · exact hend ⟨'/', rfl, by simp [isSlash]⟩
  | a :: b :: others =>
    obtain ⟨rfl, hrest⟩ := List.cons.inj heq
    obtain ⟨rfl, -⟩ := List.cons.inj hrest
    exact htext others rfl

/-! ## Files -/

/-- Whether the host of a file is named. -/
def namesHost : List Char → Bool
  | a :: b :: rest =>
    isSlash true a && isSlash true b && !isDriveText (rest.takeWhile (!endsAuthority true ·))
  | _ => false

/-- The origin of a file on a host. -/
def fileOrigin (host : Host) : Origin := ⟨"file", "", some host, none⟩

/-- A file URL drops its host in favour of a drive letter. -/
lemma url_fileOrigin (host : Host) (text : List Char) :
    (fileOrigin host).url text =
      ⟨"file", "", some (if (readPath "file" text).any isDrive then .domain "" else host), none,
        .segments (readPath "file" text)⟩ := by
  have hspecial : isSpecialScheme "file" = true := by decide
  simp only [Origin.url, Origin.path, fileOrigin, hspecial, hasDrive]
  simp
  split_ifs <;> rfl

/-- A file URL with two slashes has a host. -/
lemma readFile_of_namesHost {a b : Char} (h : namesHost (a :: b :: rest) = true) :
    readFile (a :: b :: rest) =
      (fileHost (rest.takeWhile (!endsAuthority true ·))).map fun host =>
        (fileOrigin host).url (rest.dropWhile (!endsAuthority true ·)) := by
  unfold namesHost at h
  unfold readFile
  dsimp only
  rw [if_pos h]
  cases fileHost (rest.takeWhile (!endsAuthority true ·)) with
  | error e => rfl
  | ok host => exact congrArg Except.ok (url_fileOrigin host _).symm

/-- A file URL without them has none. -/
lemma readFile_of_not_namesHost (h : namesHost text = false) :
    readFile text = .ok ((fileOrigin (.domain "")).url text) := by
  rw [url_fileOrigin]
  match text with
  | [] => rfl
  | [a] => rfl
  | a :: b :: rest =>
    unfold namesHost at h
    unfold readFile
    dsimp only
    rw [if_neg (ne_true_of_eq_false h)]
    rfl

/-- Slashes are no tail. -/
lemma not_hasTail_of_slashes (h : ∀ c ∈ text, isSlash special c = true) : ¬HasTail text := by
  rintro ⟨c, hc, htail⟩
  have hslash := h c hc
  rw [isSlash_of_endsPath htail] at hslash
  contradiction

/-- The end of the host of a file does not change where the text goes on behind it. -/
lemma takeWhile_host_append {a b : Char} (ha : isSlash true a = true) (hb : isSlash true b = true)
    (h : GoesOn true (a :: b :: rest) more) : StopsBefore (!endsAuthority true ·) rest more := by
  have hrest : GoesOn true rest more := by
    have hslashes : ∀ c ∈ [a, b], isSlash true c = true := by simp [ha, hb]
    exact GoesOn.of_append h (not_hasTail_of_slashes hslashes)
  exact hrest.stopsBefore (fun c h => by simp [endsAuthority_of_endsPath h]) rfl

/-- Whether a host is named does not change where a text goes on. -/
lemma namesHost_append (h : GoesOn true text more) : namesHost (text ++ more) = namesHost text := by
  -- `more` does not complete the two slashes that introduce a host
  match text with
  | [] =>
    rcases h with ⟨c, hc, -⟩ | rfl | ⟨rfl, -⟩
    · contradiction
    · rfl
    · rfl
  | [a] =>
    rcases h with ⟨c, hc, htail⟩ | rfl | ⟨rfl, hend⟩
    · rw [List.mem_singleton.mp hc] at htail
      cases more <;> simp [namesHost, isSlash_of_endsPath htail]
    · rfl
    · have ha : isSlash true a = false := by
        by_contra hslash
        exact hend ⟨a, rfl, by simpa using hslash⟩
      simp [namesHost, ha]
  | a :: b :: rest =>
    rw [List.cons_append, List.cons_append, namesHost, namesHost]
    by_cases hslashes : isSlash true a = true ∧ isSlash true b = true
    · rw [takeWhile_append (takeWhile_host_append hslashes.1 hslashes.2 h)]
    · rw [not_and, Bool.not_eq_true] at hslashes
      cases ha : isSlash true a with
      | false => rfl
      | true => rw [hslashes ha, Bool.and_false, Bool.false_and, Bool.false_and]

/-- An appended text leaves the host of a file URL alone. -/
lemma keepsOrigin_readFile (text : List Char) : KeepsOrigin "file" readFile text := by
  -- with two slashes the text in front of the path is the host, and without them nothing
  by_cases hnames : namesHost text = true
  · match text with
    | [] => contradiction
    | [a] => contradiction
    | a :: b :: rest =>
      have hslashes : isSlash true a = true ∧ isSlash true b = true := by
        unfold namesHost at hnames
        simp only [Bool.and_eq_true] at hnames
        exact hnames.1
      have hstart : ¬HasTail [a, b] := by
        apply @not_hasTail_of_slashes true
        simp [hslashes]
      intro u hu
      rw [readFile_of_namesHost hnames] at hu
      obtain ⟨host, hhost, hu⟩ := Json.map_eq_ok.mp hu
      refine ⟨fileOrigin host, [a, b] ++ rest.takeWhile (!endsAuthority true ·), _, rfl, ?_, ?_, hu.symm, ?_⟩
      · simp
      · exact not_hasTail_append.mpr ⟨hstart, not_hasTail_authority rest⟩
      -- the scan for the host stops where it stopped before
      · intro more f hgoes hf
        have hstop := takeWhile_host_append hslashes.1 hslashes.2 hgoes
        have hnames' := (namesHost_append hgoes).trans hnames
        rw [List.cons_append, List.cons_append] at hf hnames'
        rw [readFile_of_namesHost hnames', takeWhile_append hstop, dropWhile_append hstop, hhost] at hf
        exact (Except.ok.inj hf).symm
  · rw [Bool.not_eq_true] at hnames
    apply KeepsOrigin.of_path (o := fileOrigin (.domain ""))
    intro more hgoes
    exact readFile_of_not_namesHost ((namesHost_append hgoes).trans hnames)

/-! ## All schemes -/

lemma readAuthority_nil (hspecial : isSpecialScheme scheme = true) :
    readAuthority scheme [] = .error .emptyHost := by
  unfold readAuthority
  rw [hspecial]
  rfl

/-- Where no authority is announced, all of a text belongs to the path. -/
lemma readAfterScheme_of_path (hfile : scheme ≠ "file") (hspecial : isSpecialScheme scheme = false)
    (htext : ∀ rest, text ≠ '/' :: '/' :: rest) :
    readAfterScheme scheme text = .ok ((⟨scheme, "", none, none⟩ : Origin).url text) := by
  unfold readAfterScheme
  rw [if_neg hfile, if_neg (ne_true_of_eq_false hspecial)]
  split
  · rename_i rest
    exact absurd rfl (htext rest)
  · simp [Origin.url, Origin.path, hfile]
  · rename_i hslash
    have hhead : text.head? ≠ some '/' := by
      intro hhead
      obtain ⟨rest, hrest⟩ := List.head?_eq_some_iff.mp hhead
      exact hslash rest hrest
    simp [Origin.url, Origin.path, hfile, hhead]

/-- Any number of slashes announces the authority of a special address. -/
lemma keepsOrigin_of_special (hfile : scheme ≠ "file") (hspecial : isSpecialScheme scheme = true)
    (text : List Char) : KeepsOrigin scheme (readAfterScheme scheme) text := by
  have hread : ∀ text, readAfterScheme scheme text = readAuthority scheme (text.dropWhile (isSlash true ·)) :=
    fun text => (if_neg hfile).trans (if_pos hspecial)
  by_cases hempty : text = []
  · intro u hu
    rw [hread, hempty, List.dropWhile_nil, readAuthority_nil hspecial] at hu
    contradiction
  have hslashes : ¬HasTail (text.takeWhile (isSlash true ·)) :=
    not_hasTail_of_slashes fun c hc => List.mem_takeWhile_imp hc
  rw [← List.takeWhile_append_dropWhile (p := (isSlash true ·)) (l := text)]
  apply (keepsOrigin_readAuthority hfile _).behind hslashes
  rw [List.takeWhile_append_dropWhile]
  intro more hgoes
  -- a slash at the end would be one of those at the start if there were nothing else
  have hstop := hgoes.stopsBefore_slashes hempty
  rw [hspecial] at hstop
  rw [hread, dropWhile_append hstop]

/-- Two slashes announce the authority of another address. -/
lemma keepsOrigin_of_not_special (hfile : scheme ≠ "file") (hspecial : isSpecialScheme scheme = false)
    (text : List Char) : KeepsOrigin scheme (readAfterScheme scheme) text := by
  by_cases hauthority : ∃ rest, text = '/' :: '/' :: rest
  · obtain ⟨rest, rfl⟩ := hauthority
    have hslashes : ¬HasTail ['/', '/'] := by simp [HasTail, endsPath]
    apply (keepsOrigin_readAuthority hfile rest).behind hslashes
    intro more hgoes
    exact (if_neg hfile).trans (if_neg (ne_true_of_eq_false hspecial))
  · have htext : ∀ rest, text ≠ '/' :: '/' :: rest := fun rest h => hauthority ⟨rest, h⟩
    apply KeepsOrigin.of_path (o := ⟨scheme, "", none, none⟩)
    intro more hgoes
    exact readAfterScheme_of_path hfile hspecial (hgoes.ne_slashes htext)

/-- An appended text leaves the origin alone, whatever the scheme. -/
lemma keepsOrigin_readAfterScheme (scheme : String) (text : List Char) :
    KeepsOrigin scheme (readAfterScheme scheme) text := by
  by_cases hfile : scheme = "file"
  · subst hfile
    have hread : readAfterScheme "file" = readFile := by
      funext text
      exact if_pos rfl
    rw [hread]
    exact keepsOrigin_readFile text
  cases hspecial : isSpecialScheme scheme with
  | true => exact keepsOrigin_of_special hfile hspecial text
  | false => exact keepsOrigin_of_not_special hfile hspecial text

/-! ## Texts of addresses -/

/-- A scheme ends before its colon, and no query or fragment is in it. -/
lemma exists_of_readScheme? (h : readScheme? text = some (scheme, rest)) :
    (∃ before, text = before ++ rest ∧ ¬HasTail before) ∧
      ∀ more, readScheme? (text ++ more) = some (scheme, rest ++ more) := by
  unfold readScheme? at h
  split at h
  · contradiction
  rename_i c others
  split at h
  swap
  · contradiction
  rename_i left hcolon
  split_ifs at h with hletter
  obtain ⟨rfl, rfl⟩ := Prod.mk.inj (Option.some.inj h)
  -- the scheme ends at the first colon, so neither a query nor a fragment comes before the rest
  have hsplit := List.takeWhile_append_dropWhile (p := isSchemeChar) (l := c :: others)
  rw [hcolon] at hsplit
  constructor
  · refine ⟨(c :: others).takeWhile isSchemeChar ++ [':'], by simp [hsplit], ?_⟩
    refine not_hasTail_append.mpr ⟨?_, by simp [HasTail, endsPath]⟩
    rintro ⟨d, hd, htail⟩
    have hchar : isSchemeChar d = true := List.mem_takeWhile_imp hd
    rcases endsPath_iff.mp htail with rfl | rfl <;> exact absurd hchar (by decide)
  -- the colon is in the text itself, so what is appended is not scanned
  · intro more
    have hstop : StopsBefore isSchemeChar (c :: others) more := by
      apply StopsBefore.of_mem (c := ':') _ (by decide)
      rw [← hsplit]
      simp
    unfold readScheme?
    rw [takeWhile_append hstop, dropWhile_append hstop, hcolon]
    simp [hletter]

/-- Whether a character around an address is left out. -/
def isOuter (c : Char) : Bool := c.toNat ≤ 0x20

/-- Whether a character in an address counts. -/
def counts (c : Char) : Bool := c != '\t' && c != '\n' && c != '\r'

lemma counts_of_not_isOuter {c : Char} (hc : isOuter c = false) : counts c = true := by
  unfold counts
  simp only [Bool.and_eq_true, bne_iff_ne]
  refine ⟨⟨?_, ?_⟩, ?_⟩ <;>
    · rintro rfl
      contradiction

/-- What the reader sees of a text: blanks at both ends and tabs and line ends anywhere are left out. -/
lemma relevant_eq (text : List Char) :
    relevant text = ((text.dropWhile isOuter).reverse.dropWhile isOuter).reverse.filter counts := rfl

/-- Up to its last character a text is freed of what stands before it only. -/
lemma relevant_concat {c : Char} (hc : isOuter c = false) (text : List Char) :
    relevant (text ++ [c]) = (text.dropWhile isOuter).filter counts ++ [c] := by
  have hstart : (text ++ [c]).dropWhile isOuter = text.dropWhile isOuter ++ [c] :=
    dropWhile_append fun _ d hd => by cases hd; exact hc
  rw [relevant_eq, hstart, List.reverse_append, List.reverse_singleton, List.singleton_append,
    List.dropWhile_cons_of_neg (ne_true_of_eq_false hc), List.reverse_cons, List.reverse_reverse,
    List.filter_append, List.filter_singleton, counts_of_not_isOuter hc]
  rfl

/-- Only blanks and control characters at its end are still in a text that is freed of those before it. -/
lemma exists_blanks (text : List Char) :
    ∃ blanks, (text.dropWhile isOuter).filter counts = relevant text ++ blanks ∧
      ∀ c ∈ blanks, isOuter c = true := by
  refine ⟨((text.dropWhile isOuter).reverse.takeWhile isOuter).reverse.filter counts, ?_, ?_⟩
  · rw [relevant_eq, ← List.filter_append, ← List.reverse_append, List.takeWhile_append_dropWhile,
      List.reverse_reverse]
  · intro c hc
    exact List.mem_takeWhile_imp (List.mem_reverse.mp (List.mem_of_mem_filter hc))

/-- If the last character that counts is not blank, then no blanks are left out behind it. -/
lemma relevant_of_getLast? {c : Char} (hc : isOuter c = false)
    (hlast : (text.filter counts).getLast? = some c) :
    relevant text = (text.dropWhile isOuter).filter counts ∧ (relevant text).getLast? = some c := by
  obtain ⟨blanks, hblanks, houter⟩ := exists_blanks text
  have hnil : ∀ start tail : List Char, (start ++ tail).getLast? = some c → (∀ d ∈ tail, isOuter d = true) →
      tail = [] := by
    intro start tail hlast hall
    by_contra hne
    rw [List.getLast?_append_of_ne_nil _ hne] at hlast
    rw [hall c (List.mem_of_getLast? hlast)] at hc
    contradiction
  rw [← List.takeWhile_append_dropWhile (p := isOuter) (l := text), List.filter_append, hblanks] at hlast
  -- the last character counts, so there are no blanks behind it
  have hnone : blanks = [] := by
    rw [← List.append_assoc] at hlast
    exact hnil _ blanks hlast houter
  rw [hnone, List.append_nil] at hblanks hlast
  refine ⟨hblanks.symm, ?_⟩
  -- that last character is not among the blanks at the front either
  have hne : relevant text ≠ [] := by
    intro hempty
    rw [hempty, List.append_nil] at hlast
    have hstart := hnil [] _ hlast fun d hd => List.mem_takeWhile_imp (List.mem_of_mem_filter hd)
    rw [hstart] at hlast
    contradiction
  rwa [List.getLast?_append_of_ne_nil _ hne] at hlast

lemma mem_relevant {c : Char} (hc : isOuter c = false) : c ∈ relevant text ↔ c ∈ text := by
  have hdrop : ∀ text : List Char, c ∈ text.dropWhile isOuter ↔ c ∈ text := by
    intro text
    constructor
    · exact fun h => (List.dropWhile_sublist _).mem h
    · intro h
      rw [← List.takeWhile_append_dropWhile (p := isOuter) (l := text), List.mem_append] at h
      refine h.resolve_left fun htake => ?_
      rw [List.mem_takeWhile_imp htake] at hc
      contradiction
  simp [relevant_eq, hdrop, counts_of_not_isOuter hc]

lemma hasTail_relevant : HasTail (relevant text) ↔ HasTail text := by
  have houter : ∀ c, endsPath c = true → isOuter c = false := by
    intro c h
    rcases endsPath_iff.mp h with rfl | rfl <;> rfl
  constructor
  · rintro ⟨c, hc, h⟩
    exact ⟨c, (mem_relevant (houter c h)).mp hc, h⟩
  · rintro ⟨c, hc, h⟩
    exact ⟨c, (mem_relevant (houter c h)).mpr hc, h⟩

/-- An address is made of an origin and a path, and keeps the origin when its text goes on. -/
theorem exists_origin {base : String} (hu : ofText base = .ok u) :
    ∃ (o : Origin) (before path : List Char), o.scheme = u.scheme ∧ relevant base.toList = before ++ path ∧
      ¬HasTail before ∧ u = o.url path ∧
      ∀ more whole f, GoesOn (isSpecialScheme u.scheme) (relevant base.toList) more →
        relevant whole.toList = relevant base.toList ++ more → ofText whole = .ok f →
        f = o.url (path ++ more) := by
  unfold ofText at hu
  split at hu
  swap
  · contradiction
  rename_i scheme rest hscheme
  obtain ⟨⟨start, hstart, htail⟩, hmore⟩ := exists_of_readScheme? hscheme
  obtain ⟨o, before, path, rfl, hrest, hbefore, rfl, hgoes⟩ := keepsOrigin_readAfterScheme scheme rest u hu
  refine ⟨o, start ++ before, path, rfl, ?_, ?_, rfl, ?_⟩
  · rw [hstart, hrest, List.append_assoc]
  · exact not_hasTail_append.mpr ⟨htail, hbefore⟩
  -- the scheme is read again from the whole text, and what follows it keeps its origin
  · intro more whole f hon hwhole hf
    unfold ofText at hf
    rw [hwhole, hmore more] at hf
    rw [hstart] at hon
    exact hgoes more f (hon.of_append htail) hf

end FeatureFlags.Url
