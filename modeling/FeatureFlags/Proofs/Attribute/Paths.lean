import FeatureFlags.Attribute.Reference
import Mathlib.Data.Set.Function

/-!
# The grammar of references

A path is made of components, each after a slash, and a component is made of *items*: a character other than
a slash and a tilde, or one of the two escapes. The texts that are valid as references are the paths and the
texts that are not empty and do not start with a slash (`ofText_grammar`).

* `isItem_iff`: the items are the ways to write one character, so components are what `escape` writes.
* `unescape_escape_append`, `exists_escape_or_badEscape`: a text without slashes either is written by
  `escape` or has a tilde among its items that is not followed by what makes it an escape.
* `form_eq_path_iff`, `form_eq_invalid_iff`: what is read of a text, be it a path or not.
-/

namespace FeatureFlags.Reference

/-! ## Items, components and paths -/

/-- What a component is made of. -/
inductive IsItem : List Char → Prop
  | plain {c : Char} (notSlash : c ≠ '/') (notTilde : c ≠ '~') : IsItem [c]
  | tilde : IsItem ['~', '0']
  | slash : IsItem ['~', '1']

/-- A component of a path, as it is written: one item or more. -/
def IsComponent (part : List Char) : Prop :=
  ∃ items, items ≠ [] ∧ (∀ item ∈ items, IsItem item) ∧ part = items.flatten

/-- A path: one component or more, each after a slash. -/
def IsPath (text : List Char) : Prop :=
  ∃ parts, parts ≠ [] ∧ (∀ part ∈ parts, IsComponent part) ∧ text = parts.flatMap ('/' :: ·)

/-- After some items there is a tilde that is not followed by `0` or `1`. -/
def HasBadEscape (part : List Char) : Prop :=
  ∃ (items : List (List Char)) (rest : List Char), (∀ item ∈ items, IsItem item) ∧
    part = items.flatten ++ '~' :: rest ∧ rest.head? ≠ some '0' ∧ rest.head? ≠ some '1'

/-- What is wrong with a component. -/
inductive IsFault : List Char → ReferenceError → Prop
  | empty : IsFault [] .emptyComponent
  | badEscape {part : List Char} (bad : HasBadEscape part) : IsFault part .invalidEscape

/-- All components in front of the one with this fault are without any. -/
def LeftmostFault (text : List Char) (e : ReferenceError) : Prop :=
  ∃ (before : List (List Char)) (part after : List Char), (∀ p ∈ before, IsComponent p) ∧
    '/' ∉ part ∧ IsFault part e ∧ (after = [] ∨ after.head? = some '/') ∧
    text = before.flatMap ('/' :: ·) ++ '/' :: (part ++ after)

/-! ## Items are escaped characters -/

/-- A character that is neither a tilde nor a slash is not escaped. -/
lemma escape_cons_of_ne {c : Char} (htilde : c ≠ '~') (hslash : c ≠ '/') (rest : List Char) :
    escape (c :: rest) = c :: escape rest := by
  rw [escape] <;> assumption

lemma escape_append (front back : List Char) : escape (front ++ back) = escape front ++ escape back := by
  induction front with
  | nil => rfl
  | cons c front ih =>
    by_cases htilde : c = '~'
    · subst htilde
      simp [escape, ih]
    by_cases hslash : c = '/'
    · subst hslash
      simp [escape, ih]
    · rw [List.cons_append, escape_cons_of_ne htilde hslash, escape_cons_of_ne htilde hslash, ih,
        List.cons_append]

/-- The items of a component are the escaped characters. -/
theorem isItem_iff {item : List Char} : IsItem item ↔ ∃ c, item = escape [c] := by
  constructor
  · intro h
    cases h with
    | @plain c notSlash notTilde => exact ⟨c, (escape_cons_of_ne notTilde notSlash []).symm⟩
    | tilde => exact ⟨'~', rfl⟩
    | slash => exact ⟨'/', rfl⟩
  · rintro ⟨c, rfl⟩
    by_cases htilde : c = '~'
    · subst htilde
      exact .tilde
    by_cases hslash : c = '/'
    · subst hslash
      exact .slash
    · rw [escape_cons_of_ne htilde hslash]
      exact .plain hslash htilde

/-- The items of what is written for a text. -/
lemma flatten_items (name : List Char) : (name.map fun c => escape [c]).flatten = escape name := by
  induction name with
  | nil => rfl
  | cons c name ih => rw [List.map_cons, List.flatten_cons, ih, ← escape_append, List.singleton_append]

lemma isItem_of_mem_items {name item : List Char} (h : item ∈ name.map fun c => escape [c]) :
    IsItem item := by
  obtain ⟨c, -, rfl⟩ := List.mem_map.mp h
  exact isItem_iff.mpr ⟨c, rfl⟩

/-- Items are those of some text. -/
lemma exists_name_of_items {items : List (List Char)} (h : ∀ item ∈ items, IsItem item) :
    ∃ name : List Char, items = name.map fun c => escape [c] := by
  induction items with
  | nil => exact ⟨[], rfl⟩
  | cons item items ih =>
    rw [List.forall_mem_cons] at h
    obtain ⟨c, rfl⟩ := isItem_iff.mp h.1
    obtain ⟨name, rfl⟩ := ih h.2
    exact ⟨c :: name, rfl⟩

/-- The components are the escaped forms of names that are not empty. -/
lemma isComponent_iff {part : List Char} :
    IsComponent part ↔ ∃ name, name ≠ [] ∧ part = escape name := by
  constructor
  · rintro ⟨items, hne, hitems, rfl⟩
    obtain ⟨name, rfl⟩ := exists_name_of_items hitems
    exact ⟨name, by simpa using hne, flatten_items name⟩
  · rintro ⟨name, hne, rfl⟩
    exact ⟨_, by simpa using hne, fun _ => isItem_of_mem_items, (flatten_items name).symm⟩

/-- A part has a bad escape if, after some good items, a tilde is followed by neither digit. -/
lemma hasBadEscape_iff {part : List Char} :
    HasBadEscape part ↔ ∃ name rest, part = escape name ++ '~' :: rest ∧
      rest.head? ≠ some '0' ∧ rest.head? ≠ some '1' := by
  constructor
  · rintro ⟨items, rest, hitems, rfl, hrest⟩
    obtain ⟨name, rfl⟩ := exists_name_of_items hitems
    exact ⟨name, rest, by rw [flatten_items], hrest⟩
  · rintro ⟨name, rest, rfl, hrest⟩
    exact ⟨_, rest, fun _ => isItem_of_mem_items, by rw [flatten_items], hrest⟩

/-- Nothing is lost by escaping. -/
lemma escape_eq_nil_iff {name : List Char} : escape name = [] ↔ name = [] := by
  rw [← flatten_items]
  constructor
  · intro h
    cases name with
    | nil => rfl
    | cons c name =>
      -- no character is written as nothing
      have hitem : IsItem (escape [c]) := isItem_iff.mpr ⟨c, rfl⟩
      simp only [List.map_cons, List.flatten_cons, List.append_eq_nil_iff] at h
      rw [h.1] at hitem
      cases hitem
  · rintro rfl
    rfl

/-- Escaping leaves no slash, so that parts are told apart by slashes. -/
lemma slash_notMem_escape (name : List Char) : '/' ∉ escape name := by
  rw [← flatten_items, List.mem_flatten]
  rintro ⟨item, hitem, hslash⟩
  cases isItem_of_mem_items hitem with
  | plain notSlash notTilde => exact notSlash (List.mem_singleton.mp hslash).symm
  | tilde => simp at hslash
  | slash => simp at hslash

lemma IsComponent.slash_notMem {part : List Char} (h : IsComponent part) : '/' ∉ part := by
  obtain ⟨name, -, rfl⟩ := isComponent_iff.mp h
  exact slash_notMem_escape name

/-! ## Reading components -/

/-- All characters but tildes are read as they are. -/
lemma unescape_cons_of_ne {c : Char} (htilde : c ≠ '~') (rest : List Char) :
    unescape (c :: rest) = (unescape rest).map (c :: ·) := by
  simp [unescape, htilde]

/-- What is written for a text is read as the text, whatever follows it. -/
theorem unescape_escape_append (name rest : List Char) :
    unescape (escape name ++ rest) = (unescape rest).map (name ++ ·) := by
  induction name with
  | nil =>
    show unescape rest = (unescape rest).map id
    cases unescape rest <;> rfl
  | cons c name ih =>
    have hcons : unescape (escape (c :: name) ++ rest) =
        (unescape (escape name ++ rest)).map (c :: ·) := by
      by_cases htilde : c = '~'
      · subst htilde
        rfl
      by_cases hslash : c = '/'
      · subst hslash
        rfl
      · rw [escape_cons_of_ne htilde hslash, List.cons_append, unescape_cons_of_ne htilde]
    rw [hcons, ih]
    cases unescape rest <;> rfl

/-- What was escaped is read back. -/
lemma unescape_escape (name : List Char) : unescape (escape name) = .ok name := by
  have h := unescape_escape_append name []
  rw [List.append_nil] at h
  rw [h]
  simp [unescape, Except.map]

/-- A tilde that makes no escape is an error. -/
lemma unescape_tilde {rest : List Char} (hzero : rest.head? ≠ some '0') (hone : rest.head? ≠ some '1') :
    unescape ('~' :: rest) = .error .invalidEscape := by
  cases rest with
  | nil => rfl
  | cons c rest =>
    rw [List.head?_cons, Ne, Option.some.injEq] at hzero hone
    simp [unescape, hzero, hone]

/-- A text without slashes is made of items up to its end or up to a bad escape. -/
theorem exists_escape_or_badEscape {part : List Char} (hslash : '/' ∉ part) :
    (∃ name, part = escape name) ∨ HasBadEscape part := by
  -- each equation of `unescape` takes one item off the front
  have hitem : ∀ c rest, ((∃ name, rest = escape name) ∨ HasBadEscape rest) →
      (∃ name, escape [c] ++ rest = escape name) ∨ HasBadEscape (escape [c] ++ rest) := by
    intro c rest h
    rw [hasBadEscape_iff] at h ⊢
    rcases h with ⟨name, rfl⟩ | ⟨name, bad, rfl, hbad⟩
    · exact .inl ⟨[c] ++ name, (escape_append [c] name).symm⟩
    · exact .inr ⟨[c] ++ name, bad, by rw [escape_append, List.append_assoc], hbad⟩
  fun_induction unescape part with
  | case1 => exact .inl ⟨[], rfl⟩
  | case2 rest ih => exact hitem '~' rest (ih fun h => hslash (by simp [h]))
  | case3 rest ih => exact hitem '/' rest (ih fun h => hslash (by simp [h]))
  | case4 rest hzero hone =>
    refine .inr (hasBadEscape_iff.mpr ⟨[], rest, rfl, ?_, ?_⟩)
    · intro h
      obtain ⟨tail, rfl⟩ := List.head?_eq_some_iff.mp h
      exact hzero tail rfl rfl
    · intro h
      obtain ⟨tail, rfl⟩ := List.head?_eq_some_iff.mp h
      exact hone tail rfl rfl
  | case5 c rest hzero hone htilde ih =>
    rw [List.mem_cons, not_or] at hslash
    have h := hitem c rest (ih hslash.2)
    rwa [escape_cons_of_ne htilde (Ne.symm hslash.1)] at h

section Components

variable {part : List Char} {parts : List (List Char)} {e : ReferenceError}

/-- A component is read from its escaped form and from nothing else. -/
lemma readComponent_eq_ok_iff (hslash : '/' ∉ part) {component : String} :
    readComponent part = .ok component ↔ component ≠ "" ∧ part = escape component.toList := by
  have hempty : component ≠ "" ↔ escape component.toList ≠ [] := by
    rw [Ne, Ne, escape_eq_nil_iff, String.toList_eq_nil_iff]
  unfold readComponent
  constructor
  · intro h
    split_ifs at h with hpart
    rcases exists_escape_or_badEscape hslash with ⟨name, rfl⟩ | hbad
    · rw [unescape_escape] at h
      cases h
      rw [hempty, String.toList_ofList]
      exact ⟨by simpa using hpart, rfl⟩
    · obtain ⟨name, rest, rfl, hzero, hone⟩ := hasBadEscape_iff.mp hbad
      rw [unescape_escape_append, unescape_tilde hzero hone] at h
      cases h
  · rintro ⟨hne, rfl⟩
    rw [if_neg (by simpa using hempty.mp hne), unescape_escape]
    simp [Except.map]

/-- A part that is no component is rejected with its own fault. -/
lemma readComponent_eq_error_iff (hslash : '/' ∉ part) :
    readComponent part = .error e ↔ IsFault part e := by
  unfold readComponent
  constructor
  · intro h
    split_ifs at h with hpart
    · cases h
      rw [List.isEmpty_iff.mp hpart]
      exact .empty
    -- without a bad escape the part would be read
    rcases exists_escape_or_badEscape hslash with ⟨name, rfl⟩ | hbad
    · rw [unescape_escape] at h
      cases h
    · obtain ⟨name, rest, rfl, hzero, hone⟩ := hasBadEscape_iff.mp hbad
      rw [unescape_escape_append, unescape_tilde hzero hone] at h
      cases h
      exact .badEscape hbad
  · intro h
    cases h with
    | empty => rfl
    | badEscape bad =>
      obtain ⟨name, rest, rfl, hzero, hone⟩ := hasBadEscape_iff.mp bad
      rw [if_neg (by simp), unescape_escape_append, unescape_tilde hzero hone]
      rfl

lemma isComponent_iff_readComponent (hslash : '/' ∉ part) :
    IsComponent part ↔ ∃ component, readComponent part = .ok component := by
  rw [isComponent_iff]
  constructor
  · rintro ⟨name, hne, rfl⟩
    refine ⟨.ofList name, (readComponent_eq_ok_iff hslash).mpr ⟨?_, by rw [String.toList_ofList]⟩⟩
    rwa [Ne, ← String.toList_eq_nil_iff, String.toList_ofList]
  · rintro ⟨component, h⟩
    obtain ⟨hne, rfl⟩ := (readComponent_eq_ok_iff hslash).mp h
    exact ⟨component.toList, mt String.toList_eq_nil_iff.mp hne, rfl⟩

lemma readComponents_cons_eq_ok_iff {components : List String} :
    readComponents (part :: parts) = .ok components ↔
      ∃ component rest, readComponent part = .ok component ∧ readComponents parts = .ok rest ∧
        components = component :: rest := by
  rw [readComponents]
  cases hpart : readComponent part with
  | error e => exact iff_of_false nofun fun ⟨_, _, h, _⟩ => nomatch h
  | ok component =>
    cases hrest : readComponents parts with
    | error e => exact iff_of_false nofun fun ⟨_, _, _, h, _⟩ => nomatch h
    | ok rest =>
      show Except.ok (component :: rest) = _ ↔ _
      constructor
      · intro h
        exact ⟨component, rest, rfl, rfl, (Except.ok.inj h).symm⟩
      · rintro ⟨_, _, h, h', rfl⟩
        rw [Except.ok.inj h, Except.ok.inj h']

/-- The leftmost fault is the one that is reported. -/
lemma readComponents_cons_eq_error_iff :
    readComponents (part :: parts) = .error e ↔
      readComponent part = .error e ∨
        ∃ component, readComponent part = .ok component ∧ readComponents parts = .error e := by
  rw [readComponents]
  cases hpart : readComponent part with
  | error e' =>
    show Except.error e' = _ ↔ _
    simp
  | ok component =>
    cases hrest : readComponents parts with
    | error e' =>
      show Except.error e' = _ ↔ _
      simp
    | ok rest =>
      show Except.ok (component :: rest) = _ ↔ _
      simp

/-- Components are read if and only if they are written by `escape`. -/
lemma readComponents_eq_ok_iff (hslash : ∀ part ∈ parts, '/' ∉ part) {components : List String} :
    readComponents parts = .ok components ↔
      (∀ c ∈ components, c ≠ "") ∧ parts = components.map (escape ·.toList) := by
  induction parts generalizing components with
  -- no parts are the components of the empty path
  | nil =>
    constructor
    · intro h
      cases h
      exact ⟨nofun, rfl⟩
    · rintro ⟨-, h⟩
      rw [List.map_eq_nil_iff.mp h.symm]
      rfl
  | cons part parts ih =>
    rw [List.forall_mem_cons] at hslash
    rw [readComponents_cons_eq_ok_iff]
    constructor
    · rintro ⟨component, rest, hpart, hrest, rfl⟩
      obtain ⟨hne, rfl⟩ := (readComponent_eq_ok_iff hslash.1).mp hpart
      obtain ⟨hall, rfl⟩ := (ih hslash.2).mp hrest
      exact ⟨List.forall_mem_cons.mpr ⟨hne, hall⟩, rfl⟩
    · rintro ⟨hall, h⟩
      obtain ⟨component, rest, rfl, rfl, rfl⟩ := List.map_eq_cons_iff.mp h.symm
      rw [List.forall_mem_cons] at hall
      exact ⟨component, rest, (readComponent_eq_ok_iff hslash.1).mpr ⟨hall.1, rfl⟩,
        (ih hslash.2).mpr ⟨hall.2, rfl⟩, rfl⟩

/-- The first component with a fault decides the error. -/
lemma readComponents_eq_error_iff (hslash : ∀ part ∈ parts, '/' ∉ part) :
    readComponents parts = .error e ↔
      ∃ before part after, (∀ p ∈ before, IsComponent p) ∧ IsFault part e ∧
        parts = before ++ part :: after := by
  induction parts with
  | nil => simp [readComponents]
  | cons part parts ih =>
    rw [List.forall_mem_cons] at hslash
    rw [readComponents_cons_eq_error_iff, readComponent_eq_error_iff hslash.1, exists_and_right,
      ← isComponent_iff_readComponent hslash.1, ih hslash.2]
    constructor
    -- the fault is in the first part or in a later one
    · rintro (hfault | ⟨hcomponent, before, faulty, after, hbefore, hfault, rfl⟩)
      · exact ⟨[], part, parts, nofun, hfault, rfl⟩
      · exact ⟨part :: before, faulty, after, List.forall_mem_cons.mpr ⟨hcomponent, hbefore⟩, hfault, rfl⟩
    · rintro ⟨before, faulty, after, hbefore, hfault, h⟩
      cases before with
      | nil =>
        cases h
        exact .inl hfault
      | cons first before =>
        cases h
        rw [List.forall_mem_cons] at hbefore
        exact .inr ⟨hbefore.1, before, faulty, after, hbefore.2, hfault, rfl⟩

end Components

/-! ## The parts of a text -/

/-- The scanner splits texts as the library does. -/
lemma splitOn_eq (separator : Char) (text : List Char) :
    Text.splitOn separator text = text.splitOn separator := by
  induction text with
  | nil => rfl
  | cons c rest ih =>
    rw [Text.splitOn, List.splitOn_cons_eq_if_modifyHead, ih]
    by_cases hc : c = separator
    · simp [hc]
    · rw [if_neg hc, if_neg (by simpa using hc)]
      cases hparts : rest.splitOn separator with
      | nil => exact absurd hparts (List.splitOn_ne_nil separator rest)
      | cons part parts => rfl

/-- What starts with a slash is made of parts without slashes. -/
lemma exists_parts (rest : List Char) :
    ∃ parts, parts ≠ [] ∧ (∀ part ∈ parts, '/' ∉ part) ∧ '/' :: rest = parts.flatMap ('/' :: ·) := by
  induction rest with
  | nil => exact ⟨[[]], by simp⟩
  | cons c rest ih =>
    obtain ⟨parts, hne, hslash, hparts⟩ := ih
    by_cases hc : c = '/'
    · subst hc
      refine ⟨[] :: parts, List.cons_ne_nil _ _, List.forall_mem_cons.mpr ⟨List.not_mem_nil, hslash⟩, ?_⟩
      rw [List.flatMap_cons, ← hparts]
      rfl
    · cases parts with
      | nil => exact absurd rfl hne
      | cons part parts =>
        -- the character goes in front of the first part
        rw [List.forall_mem_cons] at hslash
        refine ⟨(c :: part) :: parts, List.cons_ne_nil _ _, List.forall_mem_cons.mpr ⟨?_, hslash.2⟩, ?_⟩
        · rw [List.mem_cons, not_or]
          exact ⟨Ne.symm hc, hslash.1⟩
        · rw [List.flatMap_cons, List.cons_append, List.cons.injEq] at hparts
          rw [List.flatMap_cons, List.cons_append, List.cons_append, ← hparts.2]

/-- The parts of a text are those in front of the leftmost faulty component, this one, and some more. -/
lemma LeftmostFault.exists_parts {text : List Char} {e : ReferenceError} (h : LeftmostFault text e) :
    ∃ before part rest, (∀ p ∈ before, IsComponent p) ∧ IsFault part e ∧
      (∀ p ∈ before ++ part :: rest, '/' ∉ p) ∧ text = (before ++ part :: rest).flatMap ('/' :: ·) := by
  obtain ⟨before, part, after, hbefore, hpart, hfault, hafter, rfl⟩ := h
  obtain ⟨rest, hrest, rfl⟩ : ∃ rest : List (List Char), (∀ p ∈ rest, '/' ∉ p) ∧
      after = rest.flatMap ('/' :: ·) := by
    rcases hafter with rfl | hafter
    · exact ⟨[], nofun, rfl⟩
    · obtain ⟨tail, rfl⟩ := List.head?_eq_some_iff.mp hafter
      obtain ⟨parts, -, hslash, hparts⟩ := Reference.exists_parts tail
      exact ⟨parts, hslash, hparts⟩
  refine ⟨before, part, rest, hbefore, hfault, ?_, ?_⟩
  · intro p hp
    rw [List.mem_append, List.mem_cons] at hp
    rcases hp with hp | rfl | hp
    · exact (hbefore p hp).slash_notMem
    · exact hpart
    · exact hrest p hp
  · rw [List.flatMap_append, List.flatMap_cons, List.cons_append]

/-- A slash before each part is a slash between the parts, after one at the start. -/
lemma flatMap_slash {parts : List (List Char)} (hne : parts ≠ []) :
    parts.flatMap ('/' :: ·) = '/' :: ['/'].intercalate parts := by
  induction parts with
  | nil => exact absurd rfl hne
  | cons part parts ih =>
    cases parts with
    | nil => simp
    | cons next parts => rw [List.flatMap_cons, ih (List.cons_ne_nil _ _)]; simp [List.intercalate_cons_cons]

section Parts

variable {parts : List (List Char)} (hne : parts ≠ []) (hlone : parts ≠ [[]])
  (hslash : ∀ part ∈ parts, '/' ∉ part)
include hne hlone hslash

/-- The form of a text that starts with a slash is that of its parts. -/
lemma formOf_parts :
    formOf (parts.flatMap ('/' :: ·)) =
      match readComponents parts with
      | .ok components => .path components
      | .error e => .invalid e := by
  -- joining the parts again and splitting gives them back, so the remaining cases of the form are excluded
  have hsplit : Text.splitOn '/' (['/'].intercalate parts) = parts := by
    rw [splitOn_eq, List.splitOn_intercalate '/' hslash hne]
  have hrest : ['/'].intercalate parts ≠ [] := by
    intro h
    rw [h] at hsplit
    exact hlone hsplit.symm
  rw [flatMap_slash hne]
  unfold formOf
  split
  · cases ‹_ = []›
  · rename_i h
    rw [List.cons.injEq] at h
    exact absurd h.2 hrest
  · rename_i rest _ h
    rw [List.cons.injEq] at h
    have hparts : Text.splitOn '/' rest = parts := by rw [← h.2, hsplit]
    cases hread : readComponents parts with
    | ok components => rw [hparts, hread]
    | error e => rw [hparts, hread]
  · rename_i hother
    exact absurd rfl (hother _)

/-- A text is a path if all of its parts are components. -/
lemma formOf_parts_eq_path_iff {components : List String} :
    formOf (parts.flatMap ('/' :: ·)) = .path components ↔ readComponents parts = .ok components := by
  rw [formOf_parts hne hlone hslash]
  cases readComponents parts <;> simp

/-- A text after a slash is invalid if one of its parts is not a component. -/
lemma formOf_parts_eq_invalid_iff {e : ReferenceError} :
    formOf (parts.flatMap ('/' :: ·)) = .invalid e ↔ readComponents parts = .error e := by
  rw [formOf_parts hne hlone hslash]
  cases readComponents parts <;> simp

end Parts

/-- What a text is: one of the two without any name, a plain name, or a slash and more. -/
lemma formOf_cases (text : List Char) :
    ((text = [] ∨ text = ['/']) ∧ formOf text = .invalid .empty) ∨
    (text ≠ [] ∧ text.head? ≠ some '/' ∧ formOf text = .name) ∨
    ∃ parts, parts ≠ [] ∧ parts ≠ [[]] ∧ (∀ part ∈ parts, '/' ∉ part) ∧
      text = parts.flatMap ('/' :: ·) := by
  cases text with
  | nil => exact .inl ⟨.inl rfl, rfl⟩
  | cons c rest =>
    by_cases hc : c = '/'
    · subst hc
      obtain ⟨parts, hne, hslash, hparts⟩ := exists_parts rest
      by_cases hlone : parts = [[]]
      · rw [hlone, List.flatMap_singleton] at hparts
        rw [hparts]
        exact .inl ⟨.inr rfl, rfl⟩
      · exact .inr (.inr ⟨parts, hne, hlone, hslash, hparts⟩)
    · refine .inr (.inl ⟨List.cons_ne_nil _ _, by simpa using hc, ?_⟩)
      unfold formOf
      split <;> simp_all

/-! ## Texts as references -/

section Texts

variable {text : String} {components : List String} {e : ReferenceError}

lemma toList_pathText (components : List String) :
    (pathText components).toList = (components.map (escape ·.toList)).flatMap ('/' :: ·) := by
  rw [pathText, String.toList_ofList, List.flatMap_map]

/-- The text of a path starts with a slash, and so is no plain name. -/
lemma head?_pathText (hne : components ≠ []) : (pathText components).toList.head? = some '/' := by
  cases components with
  | nil => exact absurd rfl hne
  | cons c components =>
    rw [toList_pathText, List.map_cons, List.flatMap_cons, List.cons_append, List.head?_cons]

/-- The paths are read as the components they are written for, and nothing else is read as a path. -/
theorem form_eq_path_iff :
    (ofText text).form = .path components ↔
      components ≠ [] ∧ (∀ c ∈ components, c ≠ "") ∧ text = pathText components := by
  constructor
  · intro h
    change formOf text.toList = _ at h
    rcases formOf_cases text.toList with ⟨-, hform⟩ | ⟨-, -, hform⟩ | ⟨parts, hne, hlone, hslash, htext⟩
    · rw [hform] at h
      cases h
    · rw [hform] at h
      cases h
    · rw [htext, formOf_parts_eq_path_iff hne hlone hslash, readComponents_eq_ok_iff hslash] at h
      obtain ⟨hall, rfl⟩ := h
      refine ⟨by simpa using hne, hall, ?_⟩
      rw [← String.toList_inj, htext, toList_pathText]
  · rintro ⟨hne, hall, rfl⟩
    have hslash : ∀ part ∈ components.map (escape ·.toList), '/' ∉ part := by
      intro part hpart
      obtain ⟨c, -, rfl⟩ := List.mem_map.mp hpart
      exact slash_notMem_escape c.toList
    -- a slash alone would be the path of an empty component
    have hlone : components.map (escape ·.toList) ≠ [[]] := by
      intro h
      obtain ⟨c, rfl, hc⟩ := List.map_eq_singleton_iff.mp h
      exact hall c List.mem_cons_self (String.toList_eq_nil_iff.mp (escape_eq_nil_iff.mp hc))
    show formOf (pathText components).toList = _
    rw [toList_pathText, formOf_parts_eq_path_iff (by simpa using hne) hlone hslash,
      readComponents_eq_ok_iff hslash]
    exact ⟨hall, rfl⟩

/-- Any other text that is not empty is a plain name. -/
lemma form_eq_name_iff :
    (ofText text).form = .name ↔ text ≠ "" ∧ text.toList.head? ≠ some '/' := by
  rw [← text.toList_eq_nil_iff.ne]
  show formOf text.toList = _ ↔ _
  rcases formOf_cases text.toList with ⟨h, hform⟩ | ⟨hne, hhead, hform⟩ | ⟨parts, hne, hlone, hslash, htext⟩
  · rw [hform]
    rcases h with h | h <;> simp [h]
  · exact iff_of_true hform ⟨hne, hhead⟩
  · refine iff_of_false ?_ fun h => h.2 ?_
    · rw [htext, formOf_parts hne hlone hslash]
      cases readComponents parts <;> nofun
    · rw [htext, flatMap_slash hne, List.head?_cons]

/-- A text that starts with a slash and is no path has a fault, and the leftmost one is its error. -/
theorem form_eq_invalid_iff (hempty : text ≠ "") (hlone : text ≠ "/") :
    (ofText text).form = .invalid e ↔ LeftmostFault text.toList e := by
  show formOf text.toList = _ ↔ _
  constructor
  -- a text of another form is no path, so its error comes from the parts
  · intro h
    rcases formOf_cases text.toList with ⟨hshort, -⟩ | ⟨-, -, hform⟩ | ⟨parts, hne, hlone, hslash, htext⟩
    · rcases hshort with hshort | hshort
      · exact absurd (String.toList_eq_nil_iff.mp hshort) hempty
      · exact absurd (String.toList_inj.mp hshort) hlone
    · rw [hform] at h
      cases h
    · rw [htext, formOf_parts_eq_invalid_iff hne hlone hslash, readComponents_eq_error_iff hslash] at h
      obtain ⟨before, part, after, hbefore, hfault, rfl⟩ := h
      refine ⟨before, part, after.flatMap ('/' :: ·), hbefore, hslash part (by simp), hfault, ?_, ?_⟩
      · cases after <;> simp
      · rw [htext]
        simp
  · intro h
    -- the part with the fault is preceded by components only, which the reader gets through
    obtain ⟨before, part, rest, hbefore, hfault, hslash, htext⟩ := h.exists_parts
    have hnotLone : before ++ part :: rest ≠ [[]] := by
      intro h
      rw [h] at htext
      exact hlone (String.toList_inj.mp htext)
    rw [htext, formOf_parts_eq_invalid_iff (by simp) hnotLone hslash, readComponents_eq_error_iff hslash]
    exact ⟨before, part, rest, hbefore, hfault, rfl⟩

/-- The paths of the grammar are the texts of lists of components that are not empty. -/
lemma isPath_iff :
    IsPath text.toList ↔
      ∃ components, components ≠ [] ∧ (∀ c ∈ components, c ≠ "") ∧ text = pathText components := by
  constructor
  · rintro ⟨parts, hne, hparts, htext⟩
    have hslash : ∀ part ∈ parts, '/' ∉ part := fun part hpart => (hparts part hpart).slash_notMem
    cases hread : readComponents parts with
    | ok components =>
      obtain ⟨hall, rfl⟩ := (readComponents_eq_ok_iff hslash).mp hread
      refine ⟨components, by simpa using hne, hall, ?_⟩
      rw [← String.toList_inj, htext, toList_pathText]
    | error e =>
      -- a component has no fault
      obtain ⟨before, part, after, -, hfault, rfl⟩ := (readComponents_eq_error_iff hslash).mp hread
      have hpart : part ∈ before ++ part :: after := by simp
      obtain ⟨component, hok⟩ := (isComponent_iff_readComponent (hslash part hpart)).mp (hparts part hpart)
      rw [(readComponent_eq_error_iff (hslash part hpart)).mpr hfault] at hok
      cases hok
  · rintro ⟨components, hne, hall, rfl⟩
    refine ⟨components.map (escape ·.toList), by simpa using hne, ?_, toList_pathText components⟩
    intro part hpart
    obtain ⟨c, hc, rfl⟩ := List.mem_map.mp hpart
    exact isComponent_iff.mpr ⟨c.toList, mt String.toList_eq_nil_iff.mp (hall c hc), rfl⟩

/-- A reference is valid if it is a plain name or a path. -/
lemma isValid_iff :
    (ofText text).isValid = true ↔
      (ofText text).form = .name ∨ ∃ components, (ofText text).form = .path components := by
  unfold isValid error?
  cases (ofText text).form <;> simp

lemma error?_eq_some_iff (r : Reference) : r.error? = some e ↔ r.form = .invalid e := by
  unfold error?
  cases r.form <;> simp

/-- The components of a path are those that it was read as. -/
lemma components_of_form_eq_path {r : Reference} (h : r.form = .path components) :
    r.components = components := by
  rw [Reference.components, h]

/-- An invalid reference has no components. -/
lemma components_of_not_isValid {r : Reference} (h : r.isValid = false) : r.components = [] := by
  unfold isValid error? at h
  unfold Reference.components
  cases hform : r.form <;> simp [hform] at h ⊢

/-- A valid text that starts with a slash is the path of its components. -/
lemma exists_eq_pathText (hvalid : (ofText text).isValid = true) (hhead : text.toList.head? = some '/') :
    ∃ components, components ≠ [] ∧ (∀ c ∈ components, c ≠ "") ∧ text = pathText components := by
  rcases isValid_iff.mp hvalid with h | ⟨components, h⟩
  · exact absurd hhead (form_eq_name_iff.mp h).2
  · exact ⟨components, form_eq_path_iff.mp h⟩

/-- Every valid path is written in exactly one way. -/
lemma pathText_bijOn :
    Set.BijOn pathText {components | components ≠ [] ∧ ∀ c ∈ components, c ≠ ""}
      {text | (ofText text).isValid = true ∧ text.toList.head? = some '/'} := by
  refine ⟨?_, ?_, ?_⟩
  · rintro components ⟨hne, hall⟩
    exact ⟨isValid_iff.mpr (.inr ⟨components, form_eq_path_iff.mpr ⟨hne, hall, rfl⟩⟩), head?_pathText hne⟩
  · rintro components ⟨hne, hall⟩ others ⟨hne', hall'⟩ h
    have hform := form_eq_path_iff.mpr ⟨hne, hall, rfl⟩
    rw [h, form_eq_path_iff.mpr ⟨hne', hall', rfl⟩] at hform
    exact (ReferenceForm.path.inj hform).symm
  · rintro text ⟨hvalid, hhead⟩
    obtain ⟨components, hne, hall, rfl⟩ := exists_eq_pathText hvalid hhead
    exact ⟨components, ⟨hne, hall⟩, rfl⟩

end Texts

/-- A text is read by exactly the grammar of references:
* the valid texts are the ones that the grammar gives;
* writing paths is a bijection from the nonempty lists of nonempty texts to the valid texts that start
  with a slash; such a path is read as its components, and what is read of such a text writes it again;
* a text that is not valid is empty, a slash alone, or has a leftmost faulty component, which is its error;
* a reference that is not valid has no components. -/
theorem ofText_grammar :
    (∀ text : String, (ofText text).isValid = true ↔
      text ≠ "" ∧ (text.toList.head? ≠ some '/' ∨ IsPath text.toList)) ∧
    Set.BijOn pathText {components | components ≠ [] ∧ ∀ c ∈ components, c ≠ ""}
      {text | (ofText text).isValid = true ∧ text.toList.head? = some '/'} ∧
    (∀ components : List String, components ≠ [] → (∀ c ∈ components, c ≠ "") →
      (ofText (pathText components)).depth = components.length ∧
      ∀ index, (ofText (pathText components)).component? index = components[index]?) ∧
    (∀ text : String, (ofText text).isValid = true → text.toList.head? = some '/' →
      pathText (ofText text).components = text) ∧
    (ofText "").error? = some .empty ∧ (ofText "/").error? = some .empty ∧
    (∀ text : String, text ≠ "" → text ≠ "/" → ∀ e,
      (ofText text).error? = some e ↔ LeftmostFault text.toList e) ∧
    ∀ r : Reference, r.isValid = false → r.depth = 0 ∧ ∀ index, r.component? index = none := by
  refine ⟨fun text => ?_, pathText_bijOn, fun components hne hall => ?_, fun text hvalid hhead => ?_, rfl, rfl,
    fun text hempty hlone e => ?_, fun r h => ?_⟩
  -- the grammar
  · rw [isValid_iff, form_eq_name_iff, isPath_iff]
    simp only [form_eq_path_iff]
    constructor
    · rintro (⟨hne, hhead⟩ | ⟨components, hne, hall, rfl⟩)
      · exact ⟨hne, .inl hhead⟩
      · refine ⟨?_, .inr ⟨components, hne, hall, rfl⟩⟩
        intro h
        have hhead := head?_pathText hne
        rw [h] at hhead
        cases hhead
    · rintro ⟨hne, hhead | hpath⟩
      · exact .inl ⟨hne, hhead⟩
      · exact .inr hpath
  -- what the components of a written path are
  · have hcomponents := components_of_form_eq_path (form_eq_path_iff.mpr ⟨hne, hall, rfl⟩)
    unfold depth component?
    rw [hcomponents]
    exact ⟨rfl, fun index => rfl⟩
  -- writing and reading again
  · obtain ⟨components, hpath⟩ := exists_eq_pathText hvalid hhead
    rw [components_of_form_eq_path (form_eq_path_iff.mpr hpath)]
    exact hpath.2.2.symm
  -- the error
  · rw [error?_eq_some_iff, form_eq_invalid_iff hempty hlone]
  -- an invalid reference has no components
  · unfold depth component?
    rw [components_of_not_isValid h]
    exact ⟨rfl, fun index => rfl⟩

/-- Slashes and tildes in the names, and a text with a bad escape in front of an empty component. -/
theorem ofText_grammar_escaped :
    pathText ["a/b", "~"] = "/a~1b/~0" ∧ (ofText "/a~1b/~0").depth = 2 ∧
    (ofText "/a~1b/~0").component? 0 = some "a/b" ∧ (ofText "/a~1b/~0").component? 1 = some "~" ∧
    pathText (ofText "/a~1b/~0").components = "/a~1b/~0" ∧
    LeftmostFault "/a/~2//".toList .invalidEscape ∧ (ofText "/a/~2//").depth = 0 := by
  obtain ⟨-, -, hread, hwrite, -, -, hfault, hnone⟩ := ofText_grammar
  have htext : pathText ["a/b", "~"] = "/a~1b/~0" := by decide
  obtain ⟨hdepth, hcomponent⟩ := hread ["a/b", "~"] (by decide) (by decide)
  rw [htext] at hdepth hcomponent
  exact ⟨htext, hdepth, hcomponent 0, hcomponent 1, hwrite _ (by decide) (by decide),
    (hfault _ (by decide) (by decide) _).mp (by decide), (hnone _ (by decide)).1⟩

end FeatureFlags.Reference
