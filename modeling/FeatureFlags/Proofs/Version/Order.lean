import FeatureFlags.Version
import Mathlib.Order.Lattice

/-!
# The order of versions

Comparing versions is comparing their parts one after the other, so the laws of an order come from those of
the parts. That a release is after all of its prereleases is an order on whether there are fields at all,
before any field is looked at.

* `Version.instLinearOrder`: versions are totally ordered, and only equal versions compare as equal.
-/

namespace FeatureFlags

open Std (TransCmp LawfulEqCmp)

/-! ## Prerelease fields -/

namespace PrereleaseField

instance : TransCmp PrereleaseField.compare where
  eq_swap {a b} := by
    cases a with
    | numeric m =>
      cases b with
      | numeric n => exact Std.OrientedOrd.eq_swap
      | word t => rfl
    | word s =>
      cases b with
      | numeric n => rfl
      | word t => exact Std.OrientedOrd.eq_swap
  isLE_trans {a b c} hab hbc := by
    -- no word is before a number, so a word is followed by words only
    cases a with
    | numeric m =>
      cases c with
      | word u => rfl
      | numeric k =>
        cases b with
        | numeric n => exact Std.TransOrd.isLE_trans hab hbc
        | word t => contradiction
    | word s =>
      cases b with
      | numeric n => contradiction
      | word t =>
        cases c with
        | numeric k => contradiction
        | word u => exact Std.TransOrd.isLE_trans hab hbc

instance : LawfulEqCmp PrereleaseField.compare where
  eq_of_compare {a b} h := by
    cases a with
    | numeric m =>
      cases b with
      | numeric n => exact congrArg numeric (Std.LawfulEqOrd.eq_of_compare h)
      | word t => contradiction
    | word s =>
      cases b with
      | numeric n => contradiction
      | word t => exact congrArg word (Std.LawfulEqOrd.eq_of_compare h)

end PrereleaseField

namespace Version

/-! ## Prereleases -/

/-- Lists of fields are compared lexicographically, and a prefix is smaller. -/
lemma compareFields_eq : compareFields = List.compareLex PrereleaseField.compare := by
  funext as bs
  induction as generalizing bs with
  | nil =>
    cases bs with
    | nil => rw [compareFields, List.compareLex_nil_nil]
    | cons b bs => rw [compareFields, List.compareLex_nil_cons]
  | cons a as ih =>
    cases bs with
    | nil => rw [compareFields, List.compareLex_cons_nil]
    | cons b bs => rw [compareFields, ih, List.compareLex_cons_cons]

/-- A release has no fields, and is after whatever has some. -/
lemma comparePrerelease_eq :
    comparePrerelease = compareLex (compareOn List.isEmpty) (List.compareLex PrereleaseField.compare) := by
  funext as bs
  rw [← compareFields_eq]
  cases as <;> cases bs <;> rfl

instance transCmp_comparePrerelease : TransCmp comparePrerelease := by
  rw [comparePrerelease_eq]
  infer_instance

instance : LawfulEqCmp comparePrerelease where
  eq_of_compare {as bs} h := by
    rw [comparePrerelease_eq, compareLex_eq_eq] at h
    exact LawfulEqCmp.eq_of_compare h.2

/-! ## Versions -/

instance : TransCmp (fun a b : Version => comparePrerelease a.prerelease b.prerelease) where
  eq_swap := transCmp_comparePrerelease.eq_swap
  isLE_trans := transCmp_comparePrerelease.isLE_trans

instance : TransCmp Version.compare :=
  inferInstanceAs <| TransCmp <|
    compareLex (compareOn major) <| compareLex (compareOn minor) <| compareLex (compareOn patch)
      fun a b => comparePrerelease a.prerelease b.prerelease

instance : LawfulEqCmp Version.compare where
  eq_of_compare {a b} h := by
    unfold compare at h
    simp only [Ordering.then_eq_eq, LawfulEqCmp.compare_eq_iff_eq] at h
    cases a
    cases b
    simpa using h

/-- Versions are ordered by comparing them. -/
instance instLinearOrder : LinearOrder Version where
  le a b := (a.compare b).isLE = true
  lt a b := a.compare b = .lt
  le_refl a := Std.ReflCmp.isLE_rfl
  le_trans a b c := TransCmp.isLE_trans
  le_antisymm a b hab hba := LawfulEqCmp.eq_of_compare (Std.OrientedCmp.isLE_antisymm hab hba)
  le_total a b := by
    have hswap : b.compare a = (a.compare b).swap := Std.OrientedCmp.eq_swap
    rw [hswap]
    cases a.compare b <;> simp
  lt_iff_le_not_ge a b := by
    have hswap : b.compare a = (a.compare b).swap := Std.OrientedCmp.eq_swap
    rw [hswap]
    cases a.compare b <;> simp
  toDecidableLE _ _ := inferInstanceAs (Decidable (_ = true))
  toDecidableLT _ _ := inferInstanceAs (Decidable (_ = Ordering.lt))
  toDecidableEq := inferInstance

lemma compare_eq_lt {a b : Version} : a.compare b = .lt ↔ a < b := Iff.rfl

lemma compare_eq_eq {a b : Version} : a.compare b = .eq ↔ a = b := LawfulEqCmp.compare_eq_iff_eq

lemma compare_eq_gt {a b : Version} : a.compare b = .gt ↔ b < a := Std.OrientedCmp.gt_iff_lt

end Version
end FeatureFlags
