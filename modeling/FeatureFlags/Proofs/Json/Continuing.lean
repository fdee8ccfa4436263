import FeatureFlags.Proofs.Json.Values

/-!
# Reading a text that goes on

A complete value is read in the same way if the text goes on after what was read, and with more fuel
(`goesOn`). So the text of a value can stand inside a longer text: if it is read as a complete value
and nothing but blanks follow, it is read as this value wherever it stands (`reads_of_ofText`).

The only thing that a longer text could change is a number at the very end. `Parted` rules that out.
-/

namespace FeatureFlags.Json

open Text

/-- What follows a rest does not go on a number, or the rest itself parts them. -/
def Parted (rest suffix : List Char) : Prop := rest = [] → Delimited suffix

/-! ## Numbers -/

/-- Text put behind a number that has ended does not lengthen its digits. -/
lemma digits_append {text suffix : List Char} (h : Parted (text.dropWhile isDigit) suffix) :
    (text ++ suffix).takeWhile isDigit = text.takeWhile isDigit ∧
      (text ++ suffix).dropWhile isDigit = text.dropWhile isDigit ++ suffix := by
  have hstop : StopsBefore isDigit text suffix := by
    intro hall c hc
    obtain ⟨tail, htail⟩ := List.head?_eq_some_iff.mp hc
    exact (h (List.dropWhile_eq_nil_iff.mpr hall) c tail htail).1
  exact ⟨takeWhile_append hstop, dropWhile_append hstop⟩

lemma missingDigit_ne_complete {text rest : List Char} {n : Numeral} :
    missingDigit text ≠ .complete n rest := by
  cases text <;> nofun

/-- The digits of an exponent, after its sign. -/
lemma exponentDigits_append {n m : Numeral} {negative : Bool} {text rest suffix : List Char}
    (h : (match text.takeWhile isDigit with
      | [] => missingDigit text
      | digits => .complete { n with exponent := some (negative, digits) } (text.dropWhile isDigit)) =
        NumberText.complete m rest) (hsuffix : Parted rest suffix) :
    (match (text ++ suffix).takeWhile isDigit with
      | [] => missingDigit (text ++ suffix)
      | digits => .complete { n with exponent := some (negative, digits) }
          ((text ++ suffix).dropWhile isDigit)) = NumberText.complete m (rest ++ suffix) := by
  split at h
  · exact absurd h missingDigit_ne_complete
  · cases h
    obtain ⟨htake, hdrop⟩ := digits_append hsuffix
    rw [htake, hdrop]
    split
    · contradiction
    · rfl

/-- An exponent that was read whole is read again in front of any text that does not lengthen it. -/
lemma readExponent_append {n m : Numeral} {text rest suffix : List Char}
    (h : readExponent n text = .complete m rest) (hsuffix : Parted rest suffix) :
    readExponent n (text ++ suffix) = .complete m (rest ++ suffix) := by
  rw [readExponent.eq_def] at h
  split at h
  -- `e` and `E`, with a sign or without one, all go on with the digits
  case h_1 | h_2 => exact exponentDigits_append h hsuffix
  case h_3 | h_4 => exact exponentDigits_append h hsuffix
  case h_5 text hplus hminus =>
    have hread := exponentDigits_append h hsuffix
    rcases text with _ | ⟨c, text⟩
    · cases h
    · rw [readExponent.eq_def]
      split
      case h_5 heq =>
        cases heq
        exact hread
      all_goals simp_all
  case h_6 text hplus hminus =>
    have hread := exponentDigits_append h hsuffix
    rcases text with _ | ⟨c, text⟩
    · cases h
    · rw [readExponent.eq_def]
      split
      case h_6 heq =>
        cases heq
        exact hread
      all_goals simp_all
  -- no exponent was there, and what is appended does not start one
  case h_7 hlower hupper =>
    cases h
    rcases text with _ | ⟨c, text⟩
    · exact readExponent_of_delimited n (hsuffix rfl)
    · rw [readExponent.eq_def]
      split <;> simp_all

/-- Likewise a fraction, with the exponent behind it. -/
lemma readFraction_append {n m : Numeral} {text rest suffix : List Char}
    (h : readFraction n text = .complete m rest) (hsuffix : Parted rest suffix) :
    readFraction n (text ++ suffix) = .complete m (rest ++ suffix) := by
  rw [readFraction.eq_def] at h
  split at h
  case h_1 text =>
    -- a point needs digits behind it
    split at h
    · exact absurd h missingDigit_ne_complete
    · have hparted : Parted (text.dropWhile isDigit) suffix := fun hnil => hsuffix (by
        rw [hnil] at h
        cases h
        rfl)
      obtain ⟨htake, hdrop⟩ := digits_append hparted
      rw [List.cons_append, readFraction, htake, hdrop]
      split
      · contradiction
      · exact readExponent_append h hsuffix
  -- without a point the appended text must not start with one
  case h_2 hpoint =>
    rw [readFraction.eq_def]
    split
    case h_1 heq =>
      rcases text with _ | ⟨c, text⟩
      · cases h
        exact absurd rfl (hsuffix rfl _ _ heq).2.1
      · cases heq
        exact absurd rfl (hpoint _)
    case h_2 => exact readExponent_append h hsuffix

lemma readFraction_nil {n m : Numeral} {rest : List Char} (h : readFraction n [] = .complete m rest) :
    rest = [] := by
  cases h
  rfl

/-- A number that was read whole is read again in front of any text that does not lengthen it. -/
lemma readNumber_append {negative : Bool} {m : Numeral} {text rest suffix : List Char}
    (h : readNumber negative text = .complete m rest) (hsuffix : Parted rest suffix) :
    readNumber negative (text ++ suffix) = .complete m (rest ++ suffix) := by
  rw [readNumber] at h
  split at h
  case h_1 => exact absurd h missingDigit_ne_complete
  case h_2 => cases h
  case h_3 hzero hdigits =>
    have hparted : Parted (text.dropWhile isDigit) suffix := fun hnil =>
      hsuffix (readFraction_nil (by rwa [hnil] at h))
    obtain ⟨htake, hdrop⟩ := digits_append hparted
    rw [readNumber, htake, hdrop]
    split
    case h_1 hnil => exact absurd hnil hzero
    case h_2 heq => exact absurd heq (hdigits _ _)
    case h_3 => exact readFraction_append h hsuffix

/-! ## Strings and words -/

lemma breakOff_ne_closed {paired : Bool} {fault : Fault} {value : Option String} {rest : List Char} :
    StringText.breakOff paired fault ≠ .closed value rest := nofun

/-- A string ends at its closing quote, whatever stands behind it. -/
lemma readString_append {done : List Char} {paired : Bool} {text rest suffix : List Char}
    {value : Option String} (h : readString done paired text = .closed value rest) :
    readString done paired (text ++ suffix) = .closed value (rest ++ suffix) := by
  fun_induction readString done paired text
  case case2 =>
    cases h
    rw [List.cons_append, readString]
  case case5 hunit hlead _ _ _ _ _ _ hunit' htrail ih =>
    simp only [List.cons_append]
    rw [readString]
    simp only [hunit, hlead, hunit', htrail, if_true]
    exact ih h
  case case6 hunit hlead _ _ _ _ _ _ hunit' htrail ih =>
    simp only [List.cons_append] at ih ⊢
    rw [readString]
    simp only [hunit, hlead, hunit', htrail, if_true]
    exact ih h
  case case10 hunit hlead next tail hescape hslash hshort ih =>
    simp only [List.cons_append] at ih ⊢
    rw [readString]
    simp only [hunit, hlead, if_true]
    -- a backslash is followed by something else than `u`
    rcases tail with _ | ⟨d, tail⟩ <;> split <;> simp_all
  case case11 hunit hlead htrail ih =>
    simp only [List.cons_append]
    rw [readString]
    simp only [hunit, hlead, htrail, if_true, Bool.false_eq_true, if_false]
    exact ih h
  case case12 hunit hlead htrail ih =>
    simp only [List.cons_append]
    rw [readString]
    simp only [hunit, hlead, htrail, Bool.false_eq_true, if_false]
    exact ih h
  case case15 hescape ih =>
    rw [List.cons_append, List.cons_append, readString_simple _ _ _ hescape]
    exact ih h
  case case18 c tail hquote hunicode hshort hslash hsimple hcontrol ih =>
    have hne : c ≠ '\\' := by
      rintro rfl
      rcases tail with _ | ⟨d, tail⟩
      · exact hslash rfl rfl
      · exact hsimple d tail rfl rfl
    rw [List.cons_append, readString_plain _ _ _ hquote hne hcontrol]
    exact ih h
  -- the text breaks off
  all_goals exact absurd h breakOff_ne_closed

/-- A keyword that was read whole is read again in front of any text. -/
lemma expectWord_append {word text rest suffix : List Char} (h : expectWord word text = .ok rest) :
    expectWord word (text ++ suffix) = .ok (rest ++ suffix) := by
  induction word generalizing text with
  | nil =>
    cases h
    rfl
  | cons w word ih =>
    cases text with
    | nil => cases h
    | cons c text =>
      rw [expectWord] at h
      rw [List.cons_append, expectWord]
      split_ifs at h ⊢
      exact ih h

/-! ## Values -/

/-- Skipping blanks stops where it stopped before. -/
lemma skipBlanks_append {text suffix rest : List Char} {c : Char} (h : skipBlanks text = c :: rest) :
    skipBlanks (text ++ suffix) = c :: (rest ++ suffix) := by
  induction text with
  | nil => cases h
  | cons d text ih =>
    rw [skipBlanks] at h
    rw [List.cons_append, skipBlanks]
    split_ifs at h ⊢ with hblank
    · exact ih h
    · cases h
      rfl

/-- Text that is all blank disappears in front of any other. -/
lemma skipBlanks_append_of_blank {text suffix : List Char} (h : skipBlanks text = []) :
    skipBlanks (text ++ suffix) = skipBlanks suffix := by
  induction text with
  | nil => rfl
  | cons d text ih =>
    rw [skipBlanks] at h
    rw [List.cons_append, skipBlanks]
    split_ifs at h ⊢
    exact ih h

lemma readWord_append {word text rest suffix : List Char} {value t : Tree}
    (h : readWord word value text = (t, rest)) (hwhole : t.skip = .ok ()) :
    readWord word value (text ++ suffix) = (t, rest ++ suffix) := by
  rw [readWord] at h
  split at h
  · cases h
    rw [readWord, expectWord_append ‹_›]
  · cases h
    cases hwhole

/-- A string read as a tree is read again in front of any text. -/
lemma stringTree_append {text rest suffix : List Char} {t : Tree}
    (h : (readString [] true text).toTree = (t, rest)) (hwhole : t.skip = .ok ()) :
    (readString [] true (text ++ suffix)).toTree = (t, rest ++ suffix) := by
  cases hread : readString [] true text with
  | broken read skip =>
    rw [hread] at h
    cases h
    cases hwhole
  | closed value tail =>
    rw [hread] at h
    rw [readString_append hread]
    cases value <;> cases h <;> rfl

/-- A number read as a tree is read again in front of any text that does not lengthen it. -/
lemma numberTree_append {negative : Bool} {text rest suffix : List Char} {t : Tree}
    (h : (readNumber negative text).toTree = (t, rest)) (hwhole : t.skip = .ok ())
    (hsuffix : Parted rest suffix) : (readNumber negative (text ++ suffix)).toTree = (t, rest ++ suffix) := by
  cases hread : readNumber negative text with
  | broken read skip =>
    rw [hread] at h
    cases h
    cases hwhole
  | complete n tail =>
    rw [hread, NumberText.toTree] at h
    cases hnumber : n.toNumber? with
    | none =>
      rw [hnumber] at h
      cases h
      rw [readNumber_append hread hsuffix, NumberText.toTree, hnumber]
    | some x =>
      rw [hnumber] at h
      cases h
      rw [readNumber_append hread hsuffix, NumberText.toTree, hnumber]

/-- Reading goes on in the same way, for values, items and members with some fuel. -/
structure GoesOn (fuel : Nat) : Prop where
  tree : ∀ {text t rest fuel' suffix}, readTree fuel text = (t, rest) → t.skip = .ok () → fuel ≤ fuel' →
    Parted rest suffix → readTree fuel' (text ++ suffix) = (t, rest ++ suffix)
  item : ∀ {text items rest fuel' suffix}, readItem fuel text = (items, rest) → items.skip = .ok () →
    fuel ≤ fuel' → readItem fuel' (text ++ suffix) = (items, rest ++ suffix)
  member : ∀ {text members rest fuel' suffix}, readMember fuel text = (members, rest) →
    members.skip = .ok () → fuel ≤ fuel' → readMember fuel' (text ++ suffix) = (members, rest ++ suffix)

lemma parted_of_skipBlanks {text suffix rest : List Char} {c : Char} (h : skipBlanks text = c :: rest) :
    Parted text suffix := by
  rintro rfl
  cases h

section Step

variable {fuel fuel' : Nat} {text rest suffix : List Char}

/-- Items: the tree goes on by hypothesis, then what follows its comma does. -/
lemma goesOn_item (ih : GoesOn fuel) {items : Items} (h : readItem (fuel + 1) text = (items, rest))
    (hwhole : items.skip = .ok ()) (hfuel : fuel + 1 ≤ fuel' + 1) :
    readItem (fuel' + 1) (text ++ suffix) = (items, rest ++ suffix) := by
  rw [readItem] at h
  rcases hvalue : readTree fuel text with ⟨value, tail⟩
  rw [hvalue] at h
  simp only at h
  split at h
  -- a list that is broken off cannot be skipped
  case h_1 | h_4 =>
    cases h
    obtain ⟨_, -, hrest⟩ := bind_eq_ok.mp hwhole
    cases hrest
  case h_2 heq =>
    cases h
    obtain ⟨_, hskip, -⟩ := bind_eq_ok.mp hwhole
    rw [readItem, ih.tree hvalue hskip (by omega) (parted_of_skipBlanks heq)]
    simp only [skipBlanks_append heq]
  -- behind a comma the next item goes on by the hypothesis of the induction
  case h_3 tail' heq =>
    rcases hitems : readItem fuel tail' with ⟨items', rest'⟩
    rw [hitems] at h
    cases h
    obtain ⟨_, hskip, hskip'⟩ := bind_eq_ok.mp hwhole
    rw [readItem, ih.tree hvalue hskip (by omega) (parted_of_skipBlanks heq)]
    simp only [skipBlanks_append heq, ih.item hitems hskip' (show fuel ≤ fuel' by omega)]

/-- Members: the name is a string and goes on by `readString_append`, then the tree does. -/
lemma goesOn_member (ih : GoesOn fuel) {members : Members}
    (h : readMember (fuel + 1) text = (members, rest)) (hwhole : members.skip = .ok ())
    (hfuel : fuel + 1 ≤ fuel' + 1) :
    readMember (fuel' + 1) (text ++ suffix) = (members, rest ++ suffix) := by
  rw [readMember] at h
  split at h
  -- names and colons that are missing break the object off
  case h_1 | h_3 =>
    cases h
    cases hwhole
  case h_2 tail heq =>
    split at h
    case h_1 =>
      cases h
      cases hwhole
    case h_2 name tail' hname =>
      split at h
      case h_1 | h_3 =>
        cases h
        cases hwhole
      case h_2 tail'' hcolon =>
        rcases hvalue : readTree fuel tail'' with ⟨value, after⟩
        rw [hvalue] at h
        simp only at h
        rw [readMember, skipBlanks_append heq]
        simp only [readString_append hname, skipBlanks_append hcolon]
        -- after the value comes a comma, a brace or neither
        split at h
        case h_1 | h_4 =>
          cases h
          obtain ⟨_, -, hrest⟩ := bind_eq_ok.mp hwhole
          cases hrest
        case h_2 hclose =>
          cases h
          obtain ⟨_, hskip, -⟩ := bind_eq_ok.mp hwhole
          rw [ih.tree hvalue hskip (by omega) (parted_of_skipBlanks hclose)]
          simp only [skipBlanks_append hclose]
        case h_3 next hcomma =>
          rcases hmembers : readMember fuel next with ⟨members', rest'⟩
          rw [hmembers] at h
          cases h
          obtain ⟨_, hskip, hskip'⟩ := bind_eq_ok.mp hwhole
          rw [ih.tree hvalue hskip (by omega) (parted_of_skipBlanks hcomma)]
          simp only [skipBlanks_append hcomma, ih.member hmembers hskip' (show fuel ≤ fuel' by omega)]

/-- An array ends at its bracket, so whatever stands behind it is left alone. -/
lemma goesOn_array (ih : GoesOn fuel) {t : Tree} {tail : List Char}
    (hbracket : skipBlanks text = '[' :: tail) (h : readTree (fuel + 1) text = (t, rest))
    (hwhole : t.skip = .ok ()) (hfuel : fuel + 1 ≤ fuel' + 1) :
    readTree (fuel' + 1) (text ++ suffix) = (t, rest ++ suffix) := by
  rw [readTree, hbracket] at h
  rw [readTree, skipBlanks_append hbracket]
  -- the bracket closes at once, or the first item starts with a character that stays in its place
  simp only at h ⊢
  split at h
  case h_1 =>
    cases h
    cases hwhole
  case h_2 hclose =>
    cases h
    simp only [skipBlanks_append hclose]
  case h_3 hopen hother =>
    rcases hitems : readItem fuel (skipBlanks tail) with ⟨items, rest'⟩
    rw [hitems] at h
    cases h
    obtain ⟨c, next, hnext⟩ := List.exists_cons_of_ne_nil hopen
    have hread : readItem fuel' (c :: (next ++ suffix)) = (items, rest' ++ suffix) := by
      rw [hnext] at hitems
      exact ih.item hitems hwhole (show fuel ≤ fuel' by omega)
    rw [skipBlanks_append hnext]
    split
    case h_1 heq => cases heq
    case h_2 heq =>
      cases heq
      exact absurd hnext (hother _)
    case h_3 => rw [hread]

/-- An object ends at its brace, so whatever stands behind it is left alone. -/
lemma goesOn_object (ih : GoesOn fuel) {t : Tree} {tail : List Char}
    (hbrace : skipBlanks text = '{' :: tail) (h : readTree (fuel + 1) text = (t, rest))
    (hwhole : t.skip = .ok ()) (hfuel : fuel + 1 ≤ fuel' + 1) :
    readTree (fuel' + 1) (text ++ suffix) = (t, rest ++ suffix) := by
  rw [readTree, hbrace] at h
  rw [readTree, skipBlanks_append hbrace]
  -- as for arrays: the brace closes at once or the first name stays in its place
  simp only at h ⊢
  split at h
  case h_1 =>
    cases h
    cases hwhole
  case h_2 hclose =>
    cases h
    simp only [skipBlanks_append hclose]
  case h_3 hopen hother =>
    rcases hmembers : readMember fuel (skipBlanks tail) with ⟨members, rest'⟩
    rw [hmembers] at h
    cases h
    obtain ⟨c, next, hnext⟩ := List.exists_cons_of_ne_nil hopen
    have hread : readMember fuel' (c :: (next ++ suffix)) = (members, rest' ++ suffix) := by
      rw [hnext] at hmembers
      exact ih.member hmembers hwhole (show fuel ≤ fuel' by omega)
    rw [skipBlanks_append hnext]
    split
    case h_1 heq => cases heq
    case h_2 heq =>
      cases heq
      exact absurd hnext (hother _)
    case h_3 => rw [hread]

/-- One case per first character, each the lemma for that kind of tree. -/
lemma goesOn_tree (ih : GoesOn fuel) {t : Tree} (h : readTree (fuel + 1) text = (t, rest))
    (hwhole : t.skip = .ok ()) (hfuel : fuel + 1 ≤ fuel' + 1) (hsuffix : Parted rest suffix) :
    readTree (fuel' + 1) (text ++ suffix) = (t, rest ++ suffix) := by
  -- one case for each first character
  have hread := h
  rw [readTree] at h
  split at h
  case h_1 =>
    cases h
    cases hwhole
  case h_2 heq | h_3 heq | h_4 heq =>
    rw [readTree, skipBlanks_append heq]
    exact readWord_append h hwhole
  case h_5 heq =>
    rw [readTree, skipBlanks_append heq]
    exact stringTree_append h hwhole
  case h_6 heq =>
    rw [readTree, skipBlanks_append heq]
    exact numberTree_append h hwhole hsuffix
  case h_7 hbracket => exact goesOn_array ih hbracket hread hwhole hfuel
  case h_8 hbrace => exact goesOn_object ih hbrace hread hwhole hfuel
  -- a digit starts a number, and anything else is no tree
  case h_9 c tail _ _ _ _ _ _ _ heq =>
    split_ifs at h with hdigit
    · have hnumber := numberTree_append h hwhole hsuffix
      rw [readTree, skipBlanks_append heq]
      split
      case h_9 heq' =>
        cases heq'
        rw [if_pos hdigit]
        exact hnumber
      all_goals simp_all
    · cases h
      cases hwhole

end Step

/-- By induction on the fuel: whatever was read whole is read again in front of more text. -/
theorem goesOn (fuel : Nat) : GoesOn fuel := by
  induction fuel with
  | zero =>
    refine ⟨fun h hwhole _ _ => ?_, fun h hwhole _ => ?_, fun h hwhole _ => ?_⟩
    all_goals
      cases h
      cases hwhole
  | succ fuel ih =>
    refine ⟨fun {text t rest fuel' suffix} h hwhole hfuel => ?_,
      fun {text items rest fuel' suffix} h hwhole hfuel => ?_,
      fun {text members rest fuel' suffix} h hwhole hfuel => ?_⟩
    all_goals obtain ⟨fuel', rfl⟩ : ∃ n, fuel' = n + 1 := ⟨fuel' - 1, by omega⟩
    · exact goesOn_tree ih h hwhole hfuel
    · exact goesOn_item ih h hwhole hfuel
    · exact goesOn_member ih h hwhole hfuel

/-- A text that is read as a complete value is read as this value wherever it stands. -/
theorem reads_of_ofText {text : String} {t : Tree} (h : Tree.ofText text = (t, true))
    (hwhole : t.skip = .ok ()) : Reads text.toList t := by
  rcases hread : readTree (text.toList.length + 1) text.toList with ⟨tree, rest⟩
  simp only [Tree.ofText, hread, Prod.mk.injEq, List.isEmpty_iff] at h
  obtain ⟨rfl, hblank⟩ := h
  refine ⟨hwhole, fun {fuel suffix} hfuel hsuffix => ⟨rest ++ suffix, ?_, ?_⟩⟩
  · exact (goesOn _).tree hread hwhole hfuel fun _ => hsuffix
  · exact skipBlanks_append_of_blank hblank

end FeatureFlags.Json
