import RequestSuite.Text.RunTable

/-! Mappings of characters to texts: most become one other character and are written as runs, some
become several. -/
namespace RequestSuite.Text

structure Shift where
  step : Nat
  target : Nat
  deriving Repr

structure Mapping where
  shifts : RunTable Shift
  expansions : RunTable (List Nat)

namespace Mapping

def readShifts : List Nat → List (Run Shift)
  | first :: last :: step :: target :: rest => ⟨first, last, step, target⟩ :: readShifts rest
  | _ => []

/-- Expansions in a row of numbers; `left` numbers of the current one are still to come. -/
def readExpansions : (left : Nat) → (key : Nat) → (soFar : List Nat) → List Nat →
    List (Run (List Nat))
  | 0, _, _, key :: count :: rest => readExpansions count key [] rest
  | 0, _, _, _ => []
  | left + 1, key, soFar, target :: rest =>
    if left = 0 then ⟨key, key, (target :: soFar).reverse⟩ :: readExpansions 0 0 [] rest
    else readExpansions left key (target :: soFar) rest
  | _ + 1, _, _, [] => []

def ofRows (shiftRows expansionRows : List String) : Mapping :=
  ⟨(readShifts (rowNumbers shiftRows)).toArray,
    (readExpansions 0 0 [] (rowNumbers expansionRows)).toArray⟩

def shifted (mapping : Mapping) (n : Nat) : Nat :=
  match mapping.shifts.find? n with
  | some ⟨first, _, shift⟩ =>
    if (n - first) % shift.step = 0 then shift.target + (n - first) else n
  | none => n

def image (mapping : Mapping) (c : Char) : List Char :=
  match mapping.expansions.find? c.toNat with
  | some run => run.value.map Char.ofNat
  | none => [Char.ofNat (mapping.shifted c.toNat)]

end Mapping

end RequestSuite.Text
