import FeatureFlags.Flag.Basic
import FeatureFlags.Segment.Basic

/-!
# Catalogs

An evaluation finds flags and segments by the keys under which they are stored, which need not be their
own keys.
-/

namespace FeatureFlags

/-- The flags and segments that an evaluation can see, by the keys under which they are stored. -/
structure Catalog where
  flags : Entries Flag
  segments : Entries Segment
  deriving Repr

namespace Catalog

/-- Nothing at all. -/
def empty : Catalog := ⟨[], []⟩

/-- The flag stored under a key. -/
def flag? (c : Catalog) (key : String) : Option Flag := Entries.get? key c.flags

/-- The segment stored under a key. -/
def segment? (c : Catalog) (key : String) : Option Segment := Entries.get? key c.segments

/-- The own keys of the stored flags. -/
def ownKeys (c : Catalog) : List String := c.flags.map (·.2.key)

end Catalog
end FeatureFlags
