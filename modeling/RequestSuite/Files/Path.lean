import RequestSuite.Text.Lines

/-! Paths as they are written: parts between slashes, from the root or from a current directory. An
empty part or a single dot is no name; two dots lead to the parent. -/
namespace RequestSuite.Files
open Text

structure Path where
  parts : List String
  deriving DecidableEq, Repr

namespace Path

def ofText (text : String) : Path := ⟨(splitAt '/' text.toList).map String.ofList⟩

def text (path : Path) : String := joinTexts "/" path.parts

def isName (part : String) : Bool := part ≠ "" && part ≠ "."

def names (path : Path) : List String := path.parts.filter isName

def ofLocation (names : List String) : Path := ⟨"" :: names⟩

def empty : Path := ⟨[""]⟩

def isAbsolute (path : Path) : Bool := path.parts.length > 1 && path.parts.head? = some ""

def endsInSlash (path : Path) : Bool := path.parts.length > 1 && path.parts.getLast? = some ""

def endsInDot (path : Path) : Bool := path.parts.reverse.find? (· ≠ "") = some "."

def stem (path : Path) : List String :=
  if path.parts.getLast? = some "" then path.parts.dropLast else path.parts

def join (path other : Path) : Path :=
  if other.isAbsolute then other else ⟨path.stem ++ other.parts⟩

def child (path : Path) (name : String) : Path := ⟨path.stem ++ [name]⟩

def descend (path : Path) (names : List String) : Path := names.foldl child path

def toLastName (parts : List String) : List String :=
  (parts.reverse.dropWhile fun part => !isName part).reverse

def beforeLastName? (parts : List String) : Option (List String) :=
  match toLastName parts with
  | [] => none
  | named => some (toLastName named.dropLast)

/-- The path without its last name; a dot in front counts as a name. -/
def parent? (path : Path) : Option Path :=
  match path.parts with
  | "." :: rest => some ((beforeLastName? rest).elim empty fun above => ⟨"." :: above⟩)
  | "" :: rest =>
    (beforeLastName? rest).map fun above => ⟨"" :: if above.isEmpty then [""] else above⟩
  | parts => (beforeLastName? parts).map fun above => if above.isEmpty then empty else ⟨above⟩

def parent (path : Path) : Path := path.parent?.getD empty

theorem namesStem (path : Path) : path.stem.filter isName = path.names := by
  obtain ⟨parts⟩ := path
  simp only [stem, names]
  split
  · rename_i last
    obtain ⟨before, rfl⟩ := List.getLast?_eq_some_iff.1 last
    simp [isName]
  · rfl

theorem namesChild (path : Path) {name : String} (named : isName name = true) :
    (path.child name).names = path.names ++ [name] := by
  simp [child, names, List.filter_append, named, namesStem path]

end Path

end RequestSuite.Files
