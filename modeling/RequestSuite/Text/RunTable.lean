import RequestSuite.Text.Digit

/-! Tables over code points: runs of them that do not overlap, by growing code point, each with a
value. A code point is found by halving the table. -/
namespace RequestSuite.Text

structure Run (α : Type) where
  first : Nat
  last : Nat
  value : α
  deriving Repr

abbrev RunTable (α : Type) := Array (Run α)

namespace RunTable

variable {α : Type}

def findBetween (table : RunTable α) (n low high : Nat) : Option (Run α) :=
  if low < high then
    match table[(low + high) / 2]? with
    | none => none
    | some run =>
      if n < run.first then findBetween table n low ((low + high) / 2)
      else if run.last < n then findBetween table n ((low + high) / 2 + 1) high
      else some run
  else none
termination_by high - low
decreasing_by all_goals omega

def find? (table : RunTable α) (n : Nat) : Option (Run α) := findBetween table n 0 table.size

def has (table : RunTable α) (n : Nat) : Bool := (find? table n).isSome

def runsOfPairs : List Nat → List (Run Unit)
  | first :: last :: rest => ⟨first, last, ()⟩ :: runsOfPairs rest
  | _ => []

def runsOfTriples : List Nat → List (Run Nat)
  | first :: last :: value :: rest => ⟨first, last, value⟩ :: runsOfTriples rest
  | _ => []

def ofPairs (numbers : List Nat) : RunTable Unit := (runsOfPairs numbers).toArray

def ofTriples (numbers : List Nat) : RunTable Nat := (runsOfTriples numbers).toArray

end RunTable

def hexDigitOf (c : Char) : Nat := if isAsciiDigit c then c.toNat - 48 else c.toNat - 55

def rowNumbers (rows : List String) : List Nat :=
  rows.flatMap fun row => (row.splitOn " ").map fun number =>
    number.toList.foldl (fun value c => 16 * value + hexDigitOf c) 0

end RequestSuite.Text
