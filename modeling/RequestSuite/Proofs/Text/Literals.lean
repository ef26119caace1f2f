import RequestSuite.Json.Reading
import RequestSuite.Text.Quoted

/-! Literals in single quotes, read back. The reader knows the five marks and the units of four digits
that may follow a backslash, takes every other character as itself, and ends at the first quote that
it meets outside of an escape. What was written between the quotes is the text that it gives, and
what follows the closing quote is left to be read. -/
namespace RequestSuite.Text.Quoted

def unescape? : Char → Option Char
  | '\x27' => some '\x27'
  | '\\' => some '\\'
  | 'n' => some '\n'
  | 'r' => some '\r'
  | 't' => some '\t'
  | _ => none

def isScalar (unit : Nat) : Bool := !Json.isHighHalf unit && !Json.isLowHalf unit

/- Reads on from behind the first quote: the text of the literal and what follows its last quote. A
literal ends on the line that it begins on. -/
def literal? : List Char → Option (List Char × List Char)
  | [] => none
  | '\x27' :: rest => some ([], rest)
  | '\\' :: 'u' :: a :: b :: c :: d :: rest =>
    if [a, b, c, d].all Json.isHex && isScalar (Json.hexUnit a b c d) then
      (literal? rest).map fun (text, after) => (Char.ofNat (Json.hexUnit a b c d) :: text, after)
    else none
  | '\\' :: mark :: rest =>
    match unescape? mark with
    | some c => (literal? rest).map fun (text, after) => (c :: text, after)
    | none => none
  | c :: rest =>
    if c = '\\' || c = '\n' || c = '\r' then none
    else (literal? rest).map fun (text, after) => (c :: text, after)

def holdsQuote : List Char → Bool
  | [] => false
  | '\\' :: _ :: rest => holdsQuote rest
  | c :: rest => c = '\x27' || holdsQuote rest

inductive Written (c : Char) : List Char → Prop where
  | marked (mark : Char) (known : unescape? mark = some c) : Written c ['\\', mark]
  | unit (control : isControl c = true) : Written c ('\\' :: 'u' :: hexUnit c.toNat)
  | plain (printed : isControl c = false) (unquoted : c ≠ '\x27') (unmarked : c ≠ '\\') :
    Written c [c]

theorem escapeWritten (c : Char) : Written c (escape c) := by
  unfold escape
  split
  · rename_i same
    exact .marked '\x27' (congrArg some same.symm)
  rename_i unquoted
  split
  · rename_i same
    exact .marked '\\' (congrArg some same.symm)
  rename_i unmarked
  split
  · rename_i same
    exact .marked 'n' (congrArg some same.symm)
  split
  · rename_i same
    exact .marked 'r' (congrArg some same.symm)
  split
  · rename_i same
    exact .marked 't' (congrArg some same.symm)
  split
  · rename_i control
    exact .unit control
  · rename_i printed
    exact .plain (Bool.eq_false_iff.2 printed) unquoted unmarked

theorem controlBound {c : Char} (control : isControl c = true) : c.toNat < 0xA0 := by
  simp only [isControl, Bool.or_eq_true, Bool.and_eq_true, decide_eq_true_eq] at control
  omega

theorem digitRead : ∀ d < 16, Json.hexValue? (Nat.digitChar d) = some d := by decide

theorem hexDigitRead (n : Nat) : Json.hexValue? (Digest.hexDigit n) = some (n % 16) :=
  digitRead (n % 16) (Nat.mod_lt n (by decide))

theorem unitRead {n : Nat} (small : n < 0x10000) :
    Json.hexUnit (Digest.hexDigit (n / 4096)) (Digest.hexDigit (n / 256))
      (Digest.hexDigit (n / 16)) (Digest.hexDigit n) = n := by
  simp only [Json.hexUnit, List.foldl_cons, List.foldl_nil, hexDigitRead, Option.getD_some]
  omega

theorem unitHex (n : Nat) : (hexUnit n).all Json.isHex = true := by
  simp [hexUnit, Json.isHex, hexDigitRead]

theorem unitPlain (n : Nat) :
    ∀ digit ∈ hexUnit n, digit ≠ '\\' ∧ digit ≠ '\x27' ∧ isControl digit = false := by
  have digits : ∀ d < 16, Nat.digitChar d ≠ '\\' ∧ Nat.digitChar d ≠ '\x27' ∧
      isControl (Nat.digitChar d) = false := by decide
  have digit := fun n => digits (n % 16) (Nat.mod_lt n (by decide))
  simp only [hexUnit, List.forall_mem_cons]
  exact ⟨digit _, digit _, digit _, digit _, List.forall_mem_nil _⟩

theorem controlScalar {c : Char} (control : isControl c = true) : isScalar c.toNat = true := by
  have bound := controlBound control
  simp only [isScalar, Json.isHighHalf, Json.isLowHalf, Bool.and_eq_true, Bool.not_eq_true',
    Bool.and_eq_false_iff, decide_eq_false_iff_not]
  omega

theorem markKnown {mark c : Char} (known : unescape? mark = some c) :
    mark ∈ ['\x27', '\\', 'n', 'r', 't'] := by
  unfold unescape? at known
  split at known <;> first | contradiction | simp

theorem literalStep (c : Char) (rest : List Char) :
    literal? (escape c ++ rest) = (literal? rest).map fun (text, after) => (c :: text, after) := by
  have written := escapeWritten c
  generalize escape c = chars at written
  cases written with
  | marked mark known =>
    have other : mark ≠ 'u' := by
      rintro rfl
      exact absurd (markKnown known) (by decide)
    rw [List.cons_append, List.singleton_append, literal?, known]
    exact fun _ _ _ _ _ same => absurd same other
  | unit control =>
    have digits := unitHex c.toNat
    have number := unitRead (Nat.lt_trans (controlBound control) (by decide))
    simp only [hexUnit] at digits
    simp only [hexUnit, List.cons_append, List.nil_append, literal?, number, digits,
      controlScalar control, Bool.and_self, if_true, Char.ofNat_toNat]
  | plain printed unquoted unmarked =>
    have unbroken : ¬ (c = '\\' || c = '\n' || c = '\r') = true := by
      simp only [Bool.or_eq_true, decide_eq_true_eq]
      rintro ((same | rfl) | rfl)
      · exact unmarked same
      · exact absurd printed (by decide)
      · exact absurd printed (by decide)
    rw [List.singleton_append, literal?, if_neg unbroken]
    · exact unquoted
    · exact fun _ _ _ _ _ same => absurd same unmarked
    · exact fun _ _ same => absurd same unmarked

theorem literalBack (text rest : List Char) :
    literal? (encode text ++ '\x27' :: rest) = some (text, rest) := by
  induction text with
  | nil => rfl
  | cons c text ih =>
    have split : encode (c :: text) = escape c ++ encode text := List.flatMap_cons
    rw [split, List.append_assoc, literalStep, ih, Option.map_some]

theorem quoteStep (c : Char) (rest : List Char) :
    holdsQuote (escape c ++ rest) = holdsQuote rest := by
  have written := escapeWritten c
  generalize escape c = chars at written
  cases written with
  | marked mark known => rfl
  | unit control =>
    have plain := unitPlain c.toNat
    rw [List.cons_append, List.cons_append, holdsQuote]
    generalize hexUnit c.toNat = unit at plain
    induction unit with
    | nil => rfl
    | cons digit unit ih =>
      obtain ⟨⟨unmarked, unquoted, -⟩, later⟩ := List.forall_mem_cons.1 plain
      rw [List.cons_append, holdsQuote, decide_eq_false unquoted, Bool.false_or, ih later]
      exact fun _ _ same => absurd same unmarked
  | plain printed unquoted unmarked =>
    rw [List.singleton_append, holdsQuote, decide_eq_false unquoted, Bool.false_or]
    exact fun _ _ same => absurd same unmarked

theorem quotesEscaped (text : List Char) : holdsQuote (encode text) = false := by
  induction text with
  | nil => rfl
  | cons c text ih =>
    have split : encode (c :: text) = escape c ++ encode text := List.flatMap_cons
    rw [split, quoteStep, ih]

theorem escapePrinted (c : Char) : (escape c).all (!isControl ·) = true := by
  have written := escapeWritten c
  generalize escape c = chars at written
  cases written with
  | marked mark known =>
    have marks : (['\x27', '\\', 'n', 'r', 't'].all fun mark =>
        ['\\', mark].all (!isControl ·)) = true := by decide
    exact List.all_eq_true.1 marks mark (markKnown known)
  | unit control =>
    have digits := fun digit member => (unitPlain c.toNat digit member).2.2
    simp only [List.all_eq_true, List.forall_mem_cons]
    exact ⟨rfl, rfl, fun digit member => by rw [digits digit member]; rfl⟩
  | plain printed unquoted unmarked => simp [printed]

theorem encodePrinted (text : List Char) : (encode text).all (!isControl ·) = true := by
  rw [encode, List.all_flatMap, List.all_eq_true]
  exact fun c _ => escapePrinted c

end RequestSuite.Text.Quoted
