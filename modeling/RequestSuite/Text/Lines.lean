/-! Lines: a line feed separates two of them. -/
namespace RequestSuite.Text

def splitAt (separator : Char) : List Char → List (List Char)
  | [] => [[]]
  | c :: rest =>
    if c = separator then [] :: splitAt separator rest
    else match splitAt separator rest with
      | [] => [[c]]
      | part :: parts => (c :: part) :: parts

def joinWith (separator : List Char) : List (List Char) → List Char
  | [] => []
  | [part] => part
  | part :: parts => part ++ separator ++ joinWith separator parts

def joinTexts (separator : String) (parts : List String) : String :=
  String.ofList (joinWith separator.toList (parts.map String.toList))

theorem splitAtNonempty (separator : Char) (text : List Char) : splitAt separator text ≠ [] := by
  cases text with
  | nil => simp [splitAt]
  | cons c rest =>
    simp only [splitAt]
    split
    · simp
    · split <;> simp

theorem joinSplit (separator : Char) (text : List Char) :
    joinWith [separator] (splitAt separator text) = text := by
  induction text with
  | nil => rfl
  | cons c rest ih =>
    simp only [splitAt]
    split
    · rename_i same
      subst same
      cases h : splitAt c rest with
      | nil => exact absurd h (splitAtNonempty _ _)
      | cons part parts => rw [h] at ih; simp [joinWith, ih]
    · cases h : splitAt separator rest with
      | nil => exact absurd h (splitAtNonempty _ _)
      | cons part parts =>
        rw [h] at ih
        cases parts with
        | nil => simpa [joinWith] using ih
        | cons next others => simpa [joinWith] using ih

def lines (text : List Char) : List (List Char) := splitAt '\n' text

/-- The lines as a printer counts them: a last line feed opens no line, and a carriage return
before a line feed belongs to the line's end. -/
def printedLines (text : List Char) : List (List Char) :=
  let ended := (lines text).dropLast.map fun line =>
    if line.getLast? = some '\r' then line.dropLast else line
  match (lines text).getLast? with
  | some last => if last.isEmpty then ended else ended ++ [last]
  | none => ended

end RequestSuite.Text
