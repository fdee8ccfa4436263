import FeatureFlags.Text.Scan

/-!
# Tables over code points

A property of code points is kept as the list of its *runs*: stretches of code points with one value.
`Runs.value?` finds the run of a code point by bisection.

* `Runs.ofLabels` reads a table of labelled runs such as `Cc32ZsPo3`: a label is a capital letter and the
  small letters after it, and the number behind it is the length of the run if that is not one.
* `Runs.ofRanges` reads a set in the form `9-D 20 85`: code points and ranges of them in hexadecimal.
-/

namespace FeatureFlags.Unicode

/-- The runs of a property: the first code point of each with its value, in ascending order. -/
structure Runs (α : Type) where
  starts : Array (Nat × α)

namespace Runs

variable {α : Type}

/-- The value of the last run with an index from `low` to below `high` that does not start after a code
point. -/
def search (t : Runs α) (n low high : Nat) : Option α :=
  if high ≤ low + 1 then (t.starts[low]?).map (·.2)
  else
    let mid := (low + high) / 2
    match t.starts[mid]? with
    | none => none
    | some (start, _) => if start ≤ n then t.search n mid high else t.search n low mid
termination_by high - low

/-- The value of a code point. -/
def value? (t : Runs α) (n : Nat) : Option α := t.search n 0 t.starts.size

/-! ## Reading tables -/

/-- Whether a character is a small ASCII letter. -/
def isSmallLetter (c : Char) : Bool := 'a' ≤ c && c ≤ 'z'

/-- The runs that some text describes, from a code point on. -/
def readLabels (value : String → α) (start : Nat) (text : List Char) : List (Nat × α) :=
  match text with
  | [] => []
  | c :: text =>
    let small := text.takeWhile isSmallLetter
    let rest := text.dropWhile isSmallLetter
    let digits := rest.takeWhile Text.isDigit
    let length := if digits.isEmpty then 1 else Text.naturalOfDigits digits
    (start, value (String.ofList (c :: small))) ::
      readLabels value (start + length) (rest.dropWhile Text.isDigit)
termination_by text.length
decreasing_by
  have h (p : Char → Bool) (l : List Char) : (l.dropWhile p).length ≤ l.length :=
    (List.dropWhile_suffix p).length_le
  exact Nat.lt_succ_of_le (Nat.le_trans (h _ _) (h _ _))

/-- The runs of a labelled table. -/
def ofLabels (value : String → α) (lines : List String) : Runs α :=
  ⟨(readLabels value 0 (String.join lines).toList).toArray⟩

/-- The number written in hexadecimal digits. -/
def hexNumber (digits : List Char) : Nat :=
  digits.foldl (fun n c => n * 16 + (Text.hexValue? c).getD 0) 0

/-- The two runs that begin and end a range. -/
def readRange (text : List Char) : List (Nat × Bool) :=
  match Text.splitOn '-' text with
  | [first] => [(hexNumber first, true), (hexNumber first + 1, false)]
  | first :: last :: _ => [(hexNumber first, true), (hexNumber last + 1, false)]
  | [] => []

/-- The runs of a set. -/
def ofRanges (lines : List String) : Runs Bool :=
  ⟨((0, false) :: lines.flatMap fun line => (Text.splitOn ' ' line.toList).flatMap readRange).toArray⟩

/-- Whether a code point is in a set. -/
def contains (t : Runs Bool) (n : Nat) : Bool := (t.value? n).getD false

end Runs
end FeatureFlags.Unicode
