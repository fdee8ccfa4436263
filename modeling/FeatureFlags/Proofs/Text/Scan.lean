import FeatureFlags.Text.Scan
import Mathlib.Data.List.TakeWhile

/-!
# Scanning a text that goes on

What is scanned off the start of a text is the same however the text goes on, as long as the scan stops
somewhere in the text or where the rest begins (`takeWhile_append`, `dropWhile_append`).
-/

namespace FeatureFlags.Text

variable {p : Char → Bool} {text rest : List Char}

/-- A scan that comes to the end of a text stops before the rest. -/
def StopsBefore (p : Char → Bool) (text rest : List Char) : Prop :=
  (∀ c ∈ text, p c = true) → ∀ c ∈ rest.head?, p c = false

/-- A text that holds a stop itself stops before whatever follows. -/
lemma StopsBefore.of_mem {c : Char} (hc : c ∈ text) (hp : p c = false) : StopsBefore p text rest := by
  intro hall
  rw [hall c hc] at hp
  contradiction

/-- A scan that stops before the rest takes nothing of it. -/
theorem takeWhile_append (h : StopsBefore p text rest) :
    (text ++ rest).takeWhile p = text.takeWhile p := by
  induction text with
  | nil =>
    cases rest with
    | nil => rfl
    | cons c rest => simp [h nofun c rfl]
  | cons c text ih =>
    by_cases hc : p c = true
    · have htext : StopsBefore p text rest := fun hall => h (List.forall_mem_cons.mpr ⟨hc, hall⟩)
      simp [hc, ih htext]
    · simp [hc]

theorem dropWhile_append (h : StopsBefore p text rest) :
    (text ++ rest).dropWhile p = text.dropWhile p ++ rest := by
  have hsplit : (text ++ rest).takeWhile p ++ (text ++ rest).dropWhile p =
      text.takeWhile p ++ (text.dropWhile p ++ rest) := by
    rw [List.takeWhile_append_dropWhile, ← List.append_assoc, List.takeWhile_append_dropWhile]
  rw [takeWhile_append h] at hsplit
  exact List.append_cancel_left hsplit

/-- A text of characters that pass is scanned up to its end, if the rest does not begin with another one. -/
lemma scan_of_forall (hall : ∀ c ∈ text, p c = true) (hrest : ∀ c ∈ rest.head?, p c = false) :
    (text ++ rest).takeWhile p = text ∧ (text ++ rest).dropWhile p = rest := by
  have hstop : StopsBefore p text rest := fun _ => hrest
  rw [takeWhile_append hstop, dropWhile_append hstop, List.takeWhile_eq_self_iff.mpr hall,
    List.dropWhile_eq_nil_iff.mpr hall]
  exact ⟨rfl, rfl⟩

@[simp]
lemma expect?_cons_self (c : Char) (text : List Char) : expect? c (c :: text) = some text := if_pos rfl

/-- All parts between separators are made of some characters exactly if the text is, separators apart. -/
lemma all_splitOn (p : Char → Bool) (separator : Char) (text : List Char) :
    (splitOn separator text).all (·.all p) = text.all fun c => p c || c == separator := by
  induction text with
  | nil => rfl
  | cons c text ih =>
    rw [splitOn]
    by_cases hc : c = separator
    · subst hc
      simp [ih]
    · have hbeq : (c == separator) = false := beq_eq_false_iff_ne.mpr hc
      rw [if_neg hc, List.all_cons, ← ih, hbeq]
      cases splitOn separator text with
      | nil => simp
      | cons part parts => simp [Bool.and_assoc]

end FeatureFlags.Text
