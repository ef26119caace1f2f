import RequestSuite.Text.Digit

/-! Tokens of a JSON text. A number or string token keeps the text between its ends as written;
what that text stands for is decided when the token is used. -/
namespace RequestSuite.Json
open Text

structure NumberText where
  negative : Bool
  whole : List Char
  fraction : Option (List Char)
  exponent : Option (Bool × List Char)
  deriving DecidableEq, Repr

inductive Token where
  | openArray
  | closeArray
  | openObject
  | closeObject
  | colon
  | comma
  | null
  | bool (b : Bool)
  | number (text : NumberText)
  | string (raw : List Char)
  deriving DecidableEq, Repr

def isSpace (c : Char) : Bool := c = ' ' || c = '\n' || c = '\t' || c = '\r'

def hexValue? (c : Char) : Option Nat :=
  if isAsciiDigit c then some (c.toNat - 48)
  else if 'a' ≤ c && c ≤ 'f' then some (c.toNat - 87)
  else if 'A' ≤ c && c ≤ 'F' then some (c.toNat - 55)
  else none

def isHex (c : Char) : Bool := (hexValue? c).isSome

def simpleEscapes : List Char := ['"', '\\', '/', 'b', 'f', 'n', 'r', 't']

def stringBody : List Char → Option (List Char × List Char)
  | [] => none
  | '"' :: rest => some ([], rest)
  | '\\' :: 'u' :: a :: b :: c :: d :: rest =>
    if isHex a && isHex b && isHex c && isHex d then
      (stringBody rest).map fun (raw, after) => ('\\' :: 'u' :: a :: b :: c :: d :: raw, after)
    else none
  | '\\' :: c :: rest =>
    if simpleEscapes.contains c then
      (stringBody rest).map fun (raw, after) => ('\\' :: c :: raw, after)
    else none
  | c :: rest =>
    if c.toNat < 0x20 || c = '\\' then none
    else (stringBody rest).map fun (raw, after) => (c :: raw, after)

def splitDigits (text : List Char) : List Char × List Char :=
  (text.takeWhile isAsciiDigit, text.dropWhile isAsciiDigit)

def fractionText : List Char → Option (Option (List Char) × List Char)
  | '.' :: rest =>
    let (digits, after) := splitDigits rest
    if digits.isEmpty then none else some (some digits, after)
  | text => some (none, text)

def splitMinus : List Char → Bool × List Char
  | '-' :: rest => (true, rest)
  | text => (false, text)

def exponentText : List Char → Option (Option (Bool × List Char) × List Char)
  | [] => some (none, [])
  | mark :: rest =>
    if mark = 'e' || mark = 'E' then
      let (negative, rest) := splitSign rest
      let (digits, after) := splitDigits rest
      if digits.isEmpty then none else some (some (negative, digits), after)
    else some (none, mark :: rest)

def numberText (text : List Char) : Option (NumberText × List Char) := do
  let (negative, rest) := splitMinus text
  let (whole, rest) := splitDigits rest
  if whole.isEmpty || (whole.head? = some '0' && whole.length ≠ 1) then none
  let (fraction, rest) ← fractionText rest
  let (exponent, rest) ← exponentText rest
  some (⟨negative, whole, fraction, exponent⟩, rest)

def token? : List Char → Option (Token × List Char)
  | '[' :: rest => some (.openArray, rest)
  | ']' :: rest => some (.closeArray, rest)
  | '{' :: rest => some (.openObject, rest)
  | '}' :: rest => some (.closeObject, rest)
  | ':' :: rest => some (.colon, rest)
  | ',' :: rest => some (.comma, rest)
  | '"' :: rest => (stringBody rest).map fun (raw, after) => (.string raw, after)
  | 'n' :: 'u' :: 'l' :: 'l' :: rest => some (.null, rest)
  | 't' :: 'r' :: 'u' :: 'e' :: rest => some (.bool true, rest)
  | 'f' :: 'a' :: 'l' :: 's' :: 'e' :: rest => some (.bool false, rest)
  | text => (numberText text).map fun (number, after) => (.number number, after)

theorem stringBodyShorter {text raw after : List Char} (h : stringBody text = some (raw, after)) :
    after.length < text.length := by
  fun_induction stringBody text generalizing raw with
  | case1 => simp at h
  | case2 rest =>
    cases h
    simp
  | case3 a b c d rest _ ih =>
    obtain ⟨⟨inner, tail⟩, found, same⟩ := Option.map_eq_some_iff.1 h
    cases same
    have := ih found
    simp only [List.length_cons]
    omega
  | case4 => simp at h
  | case5 c rest _ _ ih =>
    obtain ⟨⟨inner, tail⟩, found, same⟩ := Option.map_eq_some_iff.1 h
    cases same
    have := ih found
    simp only [List.length_cons]
    omega
  | case6 => simp at h
  | case7 => simp at h
  | case8 c rest _ _ _ _ ih =>
    obtain ⟨⟨inner, tail⟩, found, same⟩ := Option.map_eq_some_iff.1 h
    cases same
    have := ih found
    simp only [List.length_cons]
    omega

theorem splitDigitsLength (text : List Char) :
    (splitDigits text).1.length + (splitDigits text).2.length = text.length := by
  rw [← List.length_append]
  exact congrArg List.length List.takeWhile_append_dropWhile

theorem fractionTextLength {text after : List Char} {fraction : Option (List Char)}
    (h : fractionText text = some (fraction, after)) : after.length ≤ text.length := by
  unfold fractionText at h
  split at h
  · rename_i rest
    have total := splitDigitsLength rest
    dsimp only at h
    split at h
    · cases h
    · cases h
      simp only [List.length_cons]
      omega
  · cases h
    exact Nat.le_refl _

theorem splitMinusLength (text : List Char) : (splitMinus text).2.length ≤ text.length := by
  unfold splitMinus
  split <;> simp

theorem splitSignLength (text : List Char) : (splitSign text).2.length ≤ text.length := by
  unfold splitSign
  split <;> simp

theorem exponentTextLength {text after : List Char} {exponent : Option (Bool × List Char)}
    (h : exponentText text = some (exponent, after)) : after.length ≤ text.length := by
  unfold exponentText at h
  split at h
  · cases h
    exact Nat.le_refl _
  · rename_i mark rest
    have sign := splitSignLength rest
    have total := splitDigitsLength (splitSign rest).2
    dsimp only at h
    split at h
    · split at h
      · cases h
      · cases h
        simp only [List.length_cons]
        omega
    · cases h
      exact Nat.le_refl _

theorem numberTextShorter {text after : List Char} {number : NumberText}
    (h : numberText text = some (number, after)) : after.length < text.length := by
  have minus := splitMinusLength text
  have total := splitDigitsLength (splitMinus text).2
  unfold numberText at h
  dsimp only at h
  split at h
  · cases h
  · rename_i digits
    have some : 0 < (splitDigits (splitMinus text).2).1.length := by
      cases e : (splitDigits (splitMinus text).2).1 with
      | nil => simp [e] at digits
      | cons c rest => simp
    simp only [bind, Option.bind_eq_some_iff] at h
    obtain ⟨⟨fraction, rest⟩, read, ⟨exponent, left⟩, mark, last⟩ := h
    cases last
    have first : rest.length ≤ _ := fractionTextLength read
    have second : left.length ≤ rest.length := exponentTextLength mark
    change left.length < text.length
    omega

theorem tokenShorter {text after : List Char} {token : Token}
    (h : token? text = some (token, after)) : after.length < text.length := by
  unfold token? at h
  split at h
  case h_7 rest =>
    obtain ⟨⟨raw, tail⟩, found, same⟩ := Option.map_eq_some_iff.1 h
    cases same
    have := stringBodyShorter found
    simp only [List.length_cons]
    omega
  case h_11 =>
    obtain ⟨⟨number, tail⟩, found, same⟩ := Option.map_eq_some_iff.1 h
    cases same
    exact numberTextShorter found
  all_goals
    cases h
    simp only [List.length_cons]
    omega

def tokens? : List Char → Option (List Token)
  | [] => some []
  | c :: rest =>
    if isSpace c then tokens? rest
    else match _found : token? (c :: rest) with
      | none => none
      | some (token, after) => (tokens? after).map (token :: ·)
termination_by text => text.length
decreasing_by
  · simp
  · exact tokenShorter _found

end RequestSuite.Json
