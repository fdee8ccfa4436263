import FeatureFlags.Unicode.CaseFolding
import FeatureFlags.Unicode.Category

/-!
# Sets of characters

A set of code points is given by its membership test. It also knows about how many ranges it is made of and
whether it is known to hold ASCII only, from which the cost of matching it is estimated.
-/

namespace FeatureFlags.Unicode

/-- A set of code points. -/
structure CharSet where
  contains : Nat → Bool
  /-- About how many ranges the set is made of. -/
  pieces : Nat
  /-- Whether the set is known to hold ASCII only. -/
  ascii : Bool

/-- The greatest code point. -/
def maxCodePoint : Nat := 0x10FFFF

namespace CharSet

/-- The empty set. -/
def empty : CharSet := ⟨fun _ => false, 0, true⟩

/-- The code points from `first` to `last`. -/
def range (first last : Nat) : CharSet := ⟨fun n => first ≤ n && n ≤ last, 1, last < 0x80⟩

/-- A single code point. -/
def single (n : Nat) : CharSet := range n n

/-- The set of a table. -/
def ofRuns (t : Runs Bool) : CharSet := ⟨t.contains, t.starts.size / 2, false⟩

/-- The code points of some categories. -/
def ofCategories (cs : List Category) : CharSet :=
  { contains := fun n => cs.contains (category n)
    pieces := (Category.table.starts.filter fun (_, c) => cs.contains c).size
    ascii := false }

/-- The code points of either set. -/
def union (s t : CharSet) : CharSet :=
  ⟨fun n => s.contains n || t.contains n, s.pieces + t.pieces, s.ascii && t.ascii⟩

/-- The code points of both sets. -/
def inter (s t : CharSet) : CharSet :=
  ⟨fun n => s.contains n && t.contains n, max s.pieces t.pieces, s.ascii || t.ascii⟩

/-- The code points of the first set only. -/
def diff (s t : CharSet) : CharSet :=
  ⟨fun n => s.contains n && !t.contains n, s.pieces + t.pieces, s.ascii⟩

/-- The code points of exactly one of the sets. -/
def symmDiff (s t : CharSet) : CharSet :=
  ⟨fun n => s.contains n != t.contains n, s.pieces + t.pieces, s.ascii && t.ascii⟩

/-- All other code points. -/
def compl (s : CharSet) : CharSet := ⟨fun n => !s.contains n, s.pieces + 1, false⟩

/-- The union of some sets. -/
def unions (sets : List CharSet) : CharSet := sets.foldl union empty

/-- The code points that differ from one in the set by case only. Of the ASCII letters only `k` and `s`
have such variants beyond ASCII. -/
def foldCase (s : CharSet) : CharSet :=
  { contains := fun n => (variants n).any s.contains
    pieces := 2 * s.pieces
    ascii := s.ascii && ['k', 'K', 's', 'S'].all fun c => !s.contains c.toNat }

/-- The ASCII letter that differs from one by case only. -/
def otherAsciiCase (n : Nat) : Nat :=
  if 0x41 ≤ n ∧ n ≤ 0x5A then n + 0x20 else if 0x61 ≤ n ∧ n ≤ 0x7A then n - 0x20 else n

/-- The code points that differ from one in the set by the case of an ASCII letter only. -/
def foldAsciiCase (s : CharSet) : CharSet :=
  { s with contains := fun n => s.contains n || s.contains (otherAsciiCase n), pieces := 2 * s.pieces }

end CharSet
end FeatureFlags.Unicode
