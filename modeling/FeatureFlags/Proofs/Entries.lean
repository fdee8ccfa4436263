import FeatureFlags.Json.Value
import Mathlib.Tactic.SplitIfs

/-!
# Entries

What is found in entries is one of them (`Entries.mem_of_get?`), and putting a value under a name changes
what is found under this name and nothing else (`Entries.get?_insert`).
-/

namespace FeatureFlags.Entries

variable {α : Type} {name key : String} {value : α} {entries : Entries α}

/-- A value that is found is one of the entries. -/
theorem mem_of_get? (h : get? key entries = some value) : (key, value) ∈ entries := by
  induction entries with
  | nil => cases h
  | cons entry rest ih =>
    obtain ⟨first, v⟩ := entry
    rw [get?] at h
    split_ifs at h with hfirst
    · subst hfirst
      cases h
      exact List.mem_cons_self
    · exact List.mem_cons_of_mem _ (ih h)

/-- What was inserted is found, and everything else as before. -/
theorem get?_insert (name key : String) (value : α) (entries : Entries α) :
    get? key (insert name value entries) = if name = key then some value else get? key entries := by
  induction entries with
  | nil => rfl
  | cons entry rest ih =>
    obtain ⟨first, v⟩ := entry
    rw [insert]
    by_cases hless : name < first
    · rw [if_pos hless, get?]
    · rw [if_neg hless]
      by_cases hgreater : first < name
      · have hfirst : name ≠ first := fun h => String.lt_irrefl name (by rwa [← h] at hgreater)
        rw [if_pos hgreater, get?, ih, get?]
        split_ifs with hkey hname
        · exact absurd (hname.trans hkey.symm) hfirst
        · rfl
        · rfl
        · rfl
      · have hfirst : first = name :=
          String.le_antisymm (String.not_lt.mp hless) (String.not_lt.mp hgreater)
        rw [if_neg hgreater, get?, get?, hfirst]
        split_ifs <;> rfl

end FeatureFlags.Entries
