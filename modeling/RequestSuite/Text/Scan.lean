/-! Reading a text from left to right for places that a finder accepts. A place taken is
never looked at again, so hits do not overlap and come in text order. -/
namespace RequestSuite.Text

/-- Looks at the text from a position on; a hit is a value and what follows it. -/
abbrev Finder (α : Type) := List Char → Option (α × List Char)

inductive Piece (α : Type) where
  | plain (c : Char)
  | hit (value : α)
  deriving DecidableEq, Repr

variable {α β : Type}

def scanFrom (find : Finder α) : Nat → List Char → List (Piece α)
  | _, [] => []
  | skip + 1, _ :: rest => scanFrom find skip rest
  | 0, c :: rest =>
    match find (c :: rest) with
    | none => .plain c :: scanFrom find 0 rest
    | some (value, after) => .hit value :: scanFrom find (rest.length - after.length) rest

def scan (find : Finder α) (text : List Char) : List (Piece α) := scanFrom find 0 text

theorem scanFromDrop (find : Finder α) (skip : Nat) (text : List Char) :
    scanFrom find skip text = scan find (text.drop skip) := by
  induction text generalizing skip with
  | nil => simp [scan, scanFrom]
  | cons c rest ih =>
    cases skip with
    | zero => rfl
    | succ skip => simp [scanFrom, ih]

@[simp] theorem scanNil (find : Finder α) : scan find [] = [] := rfl

theorem scanMiss {find : Finder α} {c : Char} {rest : List Char} (h : find (c :: rest) = none) :
    scan find (c :: rest) = .plain c :: scan find rest := by
  simp [scan, scanFrom, h]

theorem scanHit {find : Finder α} {c : Char} {rest after : List Char} {value : α}
    (h : find (c :: rest) = some (value, after)) (suffix : after <:+ rest) :
    scan find (c :: rest) = .hit value :: scan find after := by
  have cut : rest.drop (rest.length - after.length) = after :=
    (List.suffix_iff_eq_drop.1 suffix).symm
  rw [scan, scanFrom, h]
  simp only [scanFromDrop find (rest.length - after.length), cut]

namespace Piece

def render (fill : α → List Char) : Piece α → List Char
  | plain c => [c]
  | hit value => fill value

def hit? : Piece α → Option α
  | plain _ => none
  | hit value => some value

end Piece

def replaceHits (find : Finder α) (fill : α → List Char) (text : List Char) : List Char :=
  (scan find text).flatMap (Piece.render fill)

def hits (find : Finder α) (text : List Char) : List α := (scan find text).filterMap Piece.hit?

def firstHit (find : Finder α) : List Char → Option (α × List Char)
  | [] => find []
  | c :: rest =>
    match find (c :: rest) with
    | some found => some found
    | none => firstHit find rest

def literal (word : List Char) : Finder Unit := fun text =>
  (word.isPrefixOf? text).map fun after => ((), after)

def splitOnce (word : List Char) : List Char → Option (List Char × List Char)
  | [] => (word.isPrefixOf? []).map fun after => ([], after)
  | c :: rest =>
    match word.isPrefixOf? (c :: rest) with
    | some after => some ([], after)
    | none => (splitOnce word rest).map fun (before, after) => (c :: before, after)

def contains (word text : List Char) : Bool := (splitOnce word text).isSome

def countOccurrences (word text : List Char) : Nat := (hits (literal word) text).length

def replaceAll (word replacement text : List Char) : List Char :=
  replaceHits (literal word) (fun _ => replacement) text

end RequestSuite.Text
