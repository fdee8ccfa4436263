import FeatureFlags.Json.Number

/-!
# JSON values

A generic JSON value. The members of an object are kept in the order of their names, each name once;
`Members.insert` keeps them so, replacing an earlier value of the same name.
-/

namespace FeatureFlags

/-! ## Sorted association lists -/

/-- Entries in ascending order of their names. -/
abbrev Entries (α : Type) := List (String × α)

namespace Entries

variable {α β : Type}

/-- Puts a value under a name, in place of an earlier value. -/
def insert (name : String) (value : α) : Entries α → Entries α
  | [] => [(name, value)]
  | (n, v) :: rest =>
    if name < n then (name, value) :: (n, v) :: rest
    else if n < name then (n, v) :: insert name value rest
    else (name, value) :: rest

/-- The value under a name. -/
def get? (name : String) : Entries α → Option α
  | [] => none
  | (n, v) :: rest => if n = name then some v else get? name rest

/-- Removes a name. -/
def erase (name : String) : Entries α → Entries α
  | [] => []
  | (n, v) :: rest => if n = name then rest else (n, v) :: erase name rest

/-- Collects entries given in any order; of several with one name the last counts. -/
def ofList (entries : List (String × α)) : Entries α :=
  entries.foldl (fun acc e => insert e.1 e.2 acc) []

/-- The names in ascending order. -/
def names (entries : Entries α) : List String := entries.map Prod.fst

end Entries

namespace Json

/-- A generic JSON value. -/
inductive Value where
  | null
  | bool (value : Bool)
  | number (value : Number)
  | string (value : String)
  | array (items : List Value)
  | object (members : List (String × Value))
  deriving Repr

namespace Value

/-- Reads a member of an object. -/
def get? (name : String) : Value → Option Value
  | object members => Entries.get? name members
  | _ => none

mutual

/-- Whether two values are the same: numbers of the same kind and numerically equal, arrays and
objects member by member. -/
def same : Value → Value → Bool
  | null, null => true
  | bool a, bool b => a == b
  | number (.integer a), number (.integer b) => a == b
  | number (.double a), number (.double b) => a.eq b
  | string a, string b => a == b
  | array as, array bs => sameItems as bs
  | object as, object bs => sameMembers as bs
  | _, _ => false

/-- `same` on the items of two arrays. -/
def sameItems : List Value → List Value → Bool
  | [], [] => true
  | a :: as, b :: bs => same a b && sameItems as bs
  | _, _ => false

/-- `same` on the members of two objects. -/
def sameMembers : List (String × Value) → List (String × Value) → Bool
  | [], [] => true
  | (n, a) :: as, (m, b) :: bs => n == m && same a b && sameMembers as bs
  | _, _ => false

end

end Value
end Json
end FeatureFlags
