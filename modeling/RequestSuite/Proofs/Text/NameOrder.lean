import Mathlib.Data.List.Basic
import RequestSuite.Proofs.Text.Bytes
import RequestSuite.Proofs.Text.Stem
import RequestSuite.Text.Digit

/-! Numbered names in the order of their bytes. Numbers of equally many digits are in the order of
their texts, and the underscore behind a number comes after all digits. So a number that is written
with fewer digits comes first only if it is less than what the first digits of the other one are. -/
namespace RequestSuite.Text.Stem

def bytesOf (text : String) : List UInt8 := text.toUTF8.data.toList

def ByteBefore (first second : String) : Prop := bytesOf first < bytesOf second

instance (first second : String) : Decidable (ByteBefore first second) :=
  inferInstanceAs (Decidable (bytesOf first < bytesOf second))

def width (number : Nat) : Nat := (padded number).length

def KeepsOrder (first second : Nat) : Prop := first < second / 10 ^ (width second - width first)

def encoded (text : List Char) : List UInt8 := text.flatMap String.utf8EncodeChar

theorem encodedNext {c : Char} (ascii : c.toNat < 128) (rest : List Char) :
    encoded (c :: rest) = UInt8.ofNat c.toNat :: encoded rest := by
  rw [encoded, List.flatMap_cons, singleByte ascii]
  rfl

theorem encodedLess {c d : Char} (less : c.toNat < d.toNat) (ascii : d.toNat < 128)
    (rest other : List Char) : encoded (c :: rest) < encoded (d :: other) := by
  rw [encodedNext (less.trans ascii), encodedNext ascii, List.cons_lt_cons_iff]
  left
  rw [UInt8.lt_iff_toNat_lt, UInt8.toNat_ofNat', UInt8.toNat_ofNat']
  omega

theorem encodedBehind {rest other : List Char} (later : encoded rest < encoded other)
    (front : List Char) : encoded (front ++ rest) < encoded (front ++ other) := by
  rw [encoded, encoded, List.flatMap_append, List.flatMap_append]
  exact List.append_left_lt later

theorem valueAppend (front back : List Char) :
    valueOf (front ++ back) = 10 ^ back.length * valueOf front + valueOf back := by
  rw [valueChars, Nat.ofDigitChars_append, Nat.ofDigitChars_eq_ofDigitChars_zero]
  rfl

theorem valueNext (c : Char) (digits : List Char) :
    valueOf (c :: digits) = 10 ^ digits.length * (c.toNat - 48) + valueOf digits := by
  have single : valueOf [c] = c.toNat - 48 := by simp [valueOf, digitValue]
  rw [← List.singleton_append, valueAppend, single]

theorem digitRange {c : Char} (digit : c.isDigit = true) : 48 ≤ c.toNat ∧ c.toNat ≤ 57 := by
  obtain ⟨low, high⟩ := Bool.and_eq_true_iff.1 digit
  rw [decide_eq_true_eq, ge_iff_le, UInt32.le_iff_toNat_le] at low
  rw [decide_eq_true_eq, UInt32.le_iff_toNat_le] at high
  exact ⟨low, high⟩

theorem valueBound {digits : List Char} (row : ∀ c ∈ digits, c.isDigit = true) :
    valueOf digits < 10 ^ digits.length := by
  induction digits with
  | nil => decide
  | cons c digits ih =>
    obtain ⟨first, later⟩ := List.forall_mem_cons.1 row
    have range := digitRange first
    have below := ih later
    rw [valueNext, List.length_cons, Nat.pow_succ]
    have most := Nat.mul_le_mul_left (10 ^ digits.length) (by omega : c.toNat - 48 ≤ 9)
    omega

theorem valueCut {front back : List Char} (row : ∀ c ∈ back, c.isDigit = true) :
    valueOf (front ++ back) / 10 ^ back.length = valueOf front := by
  rw [valueAppend, Nat.mul_add_div (Nat.pow_pos (by decide)), Nat.div_eq_of_lt (valueBound row),
    Nat.add_zero]

theorem valueLess {c d : Char} {first second : List Char} (size : first.length = second.length)
    (digit : c.isDigit = true) (less : c.toNat < d.toNat)
    (row : ∀ c ∈ first, c.isDigit = true) :
    valueOf (c :: first) < valueOf (d :: second) := by
  have range := digitRange digit
  have below := valueBound row
  rw [valueNext, valueNext, ← size]
  have more := Nat.mul_le_mul_left (10 ^ first.length)
    (by omega : c.toNat - 48 + 1 ≤ d.toNat - 48)
  rw [Nat.mul_add, Nat.mul_one] at more
  omega

def Precedes (first second : List Char) : Prop :=
  valueOf first < valueOf second ∧
    ∀ rest other, encoded (first ++ rest) < encoded (second ++ other)

theorem Precedes.next {first second : List Char} (before : Precedes first second)
    (size : first.length = second.length) (c : Char) : Precedes (c :: first) (c :: second) := by
  refine ⟨?_, fun rest other => encodedBehind (before.2 rest other) [c]⟩
  rw [valueNext, valueNext, size]
  exact Nat.add_lt_add_left before.1 _

theorem precedesFirst {c d : Char} {first second : List Char} (size : first.length = second.length)
    (digit : c.isDigit = true) (other : d.isDigit = true) (less : c.toNat < d.toNat)
    (row : ∀ c ∈ first, c.isDigit = true) : Precedes (c :: first) (d :: second) := by
  have range := digitRange other
  exact ⟨valueLess size digit less row, fun rest tail => encodedLess less (by omega) _ _⟩

theorem digitsCompared {first second : List Char} (size : first.length = second.length)
    (row : ∀ c ∈ first, c.isDigit = true) (other : ∀ c ∈ second, c.isDigit = true) :
    Precedes first second ∨ first = second ∨ Precedes second first := by
  induction first generalizing second with
  | nil => exact .inr (.inl (List.eq_nil_of_length_eq_zero size.symm).symm)
  | cons c first ih =>
    cases second with
    | nil => contradiction
    | cons d second =>
      obtain ⟨digit, later⟩ := List.forall_mem_cons.1 row
      obtain ⟨digit', later'⟩ := List.forall_mem_cons.1 other
      have sizes : first.length = second.length := Nat.succ.inj size
      rcases Nat.lt_trichotomy c.toNat d.toNat with less | same | more
      · exact .inl (precedesFirst sizes digit digit' less later)
      · obtain rfl := Char.toNat_inj.1 same
        rcases ih sizes later later' with before | rfl | after
        · exact .inl (before.next sizes c)
        · exact .inr (.inl rfl)
        · exact .inr (.inr (after.next sizes.symm c))
      · exact .inr (.inr (precedesFirst sizes.symm digit' digit more later'))

theorem widthMonotone {first second : Nat} (less : first < second) :
    width first ≤ width second := by
  have digits : (Nat.toDigits 10 first).length ≤ (Nat.toDigits 10 second).length := by
    have some := Nat.length_toDigits_pos (b := 10) (n := second)
    rw [Nat.length_toDigits_le_iff (by decide) some]
    exact less.trans ((Nat.length_toDigits_le_iff (by decide) some).1 le_rfl)
  simp only [width, padded, List.length_append, List.length_replicate]
  omega

theorem paddedCut {first second : Nat} (less : first < second) :
    ∃ front back, padded second = front ++ back ∧ (padded first).length = front.length ∧
      valueOf front = second / 10 ^ (width second - width first) := by
  have sizes := widthMonotone less
  have whole : padded second = _ ++ _ := (List.take_append_drop (width first) (padded second)).symm
  have behind : ((padded second).drop (width first)).length = width second - width first :=
    List.length_drop
  have row : ∀ c ∈ (padded second).drop (width first), c.isDigit = true :=
    fun c member => paddedDigits second c (List.mem_of_mem_drop member)
  refine ⟨_, _, whole, ?_, ?_⟩
  · rw [List.length_take]
    exact (Nat.min_eq_left sizes).symm
  · rw [← behind, ← valueCut row, ← whole, valueChars, paddedValue]

/- With the same first digits the longer number comes first, since its next digit stands against an
underscore. -/
theorem digitBeforeMark {back : List Char} (filled : back ≠ [])
    (row : ∀ c ∈ back, c.isDigit = true) (front rest other : List Char) :
    encoded (front ++ back ++ '_' :: other) < encoded (front ++ '_' :: rest) := by
  obtain ⟨d, behind, rfl⟩ := List.exists_cons_of_ne_nil filled
  have range := digitRange (row d List.mem_cons_self)
  have mark : '_'.toNat = 95 := rfl
  have later : encoded (d :: (behind ++ '_' :: other)) < encoded ('_' :: rest) :=
    encodedLess (by omega) (by decide) _ _
  rw [List.append_assoc, List.cons_append]
  exact encodedBehind later front

theorem numberedOrder {first second : Nat} (less : first < second) (rest other : List Char) :
    encoded (padded first ++ '_' :: rest) < encoded (padded second ++ '_' :: other) ↔
      KeepsOrder first second := by
  obtain ⟨front, back, whole, size, value⟩ := paddedCut less
  have own : valueOf (padded first) = first := paddedValue first
  have row := paddedDigits second
  rw [whole, List.forall_mem_append] at row
  rw [KeepsOrder, ← value, whole]
  rcases digitsCompared size (paddedDigits first) row.1 with before | same | after
  · have bytes := before.2 ('_' :: rest) (back ++ '_' :: other)
    rw [← List.append_assoc] at bytes
    exact iff_of_true bytes (own ▸ before.1)
  · have filled : back ≠ [] := by
      rintro rfl
      have value' : valueOf (padded second) = second := paddedValue second
      rw [whole, List.append_nil, ← same, own] at value'
      omega
    rw [same] at own ⊢
    have bytes := digitBeforeMark filled row.2 front rest other
    exact iff_of_false (List.lt_asymm bytes) (by omega)
  · have bytes := after.2 (back ++ '_' :: other) ('_' :: rest)
    rw [← List.append_assoc] at bytes
    have greater := after.1
    exact iff_of_false (List.lt_asymm bytes) (by omega)

theorem namesOrder {first second : Nat} (less : first < second) (name title ending tail : String) :
    ByteBefore (numbered first name ++ ending) (numbered second title ++ tail) ↔
      KeepsOrder first second := by
  have bytes : ∀ text : String, bytesOf text = encoded text.toList := textBytes
  rw [ByteBefore, bytes, bytes, numbered, numbered]
  simp only [String.toList_append, String.toList_ofList, List.append_assoc, List.cons_append]
  exact numberedOrder less _ _

theorem smallWidth {number : Nat} (small : number < 1000) : width number = 3 := by
  have digits := (Nat.length_toDigits_le_iff (b := 10) (k := 3) (by decide) (by decide)).2 small
  simp only [width, padded, List.length_append, List.length_replicate]
  omega

theorem widthKeepsOrder {first second : Nat} (less : first < second)
    (same : width first = width second) : KeepsOrder first second := by
  rw [KeepsOrder, same, Nat.sub_self, Nat.pow_zero, Nat.div_one]
  exact less

end RequestSuite.Text.Stem
