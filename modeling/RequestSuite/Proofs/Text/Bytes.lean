import Mathlib.Data.String.Basic

/-! The bytes of a text, which are those of its characters, and cutting a text after so many of them.
There is a cut only where a character begins or the text ends, which are the positions of the text as
a string. -/
namespace RequestSuite.Text

def bytes : List Char → Nat
  | [] => 0
  | c :: rest => c.utf8Size + bytes rest

@[simp] theorem bytesNil : bytes [] = 0 := rfl

@[simp] theorem bytesCons (c : Char) (rest : List Char) :
    bytes (c :: rest) = c.utf8Size + bytes rest := rfl

@[simp] theorem bytesAppend (before after : List Char) :
    bytes (before ++ after) = bytes before + bytes after := by
  induction before with
  | nil => rw [List.nil_append, bytesNil, Nat.zero_add]
  | cons c before ih => rw [List.cons_append, bytesCons, bytesCons, ih, Nat.add_assoc]

theorem bytesFilled {text : List Char} (filled : text ≠ []) : 0 < bytes text := by
  obtain ⟨c, rest, rfl⟩ := List.exists_cons_of_ne_nil filled
  rw [bytesCons]
  exact Nat.add_pos_left c.utf8Size_pos _

theorem bytesLength (text : List Char) : String.utf8Len text = bytes text := by
  induction text with
  | nil => rw [String.utf8Len_nil, bytesNil]
  | cons c rest ih => rw [String.utf8Len_cons, bytesCons, ih, Nat.add_comm]

theorem singleByte {c : Char} (ascii : c.toNat < 128) :
    String.utf8EncodeChar c = [UInt8.ofNat c.toNat] := by
  have below : c.val.toNat ≤ 127 := Nat.le_of_lt_succ ascii
  rw [String.utf8EncodeChar, if_pos below]
  rfl

theorem textBytes (text : String) :
    text.toByteArray.data.toList = text.toList.flatMap String.utf8EncodeChar := by
  have written : text.toByteArray.data = (text.toList.flatMap String.utf8EncodeChar).toArray := by
    rw [← String.ofList_toList (s := text), String.toByteArray_ofList, String.toList_ofList]
    exact List.data_toByteArray
  exact congrArg Array.toList written

def cutAt : Nat → List Char → Option (List Char × List Char)
  | 0, text => some ([], text)
  | _ + 1, [] => none
  | place + 1, c :: rest =>
    if c.utf8Size ≤ place + 1 then
      (cutAt (place + 1 - c.utf8Size) rest).map fun (before, after) => (c :: before, after)
    else none

theorem cutAtBytes (before after : List Char) :
    cutAt (bytes before) (before ++ after) = some (before, after) := by
  induction before with
  | nil => rw [bytesNil, List.nil_append, cutAt]
  | cons c before ih =>
    have size := c.utf8Size_pos
    obtain ⟨place, whole⟩ := Nat.exists_eq_add_of_lt (Nat.add_pos_left size (bytes before))
    rw [Nat.zero_add] at whole
    have fits : c.utf8Size ≤ place + 1 := by omega
    have later : place + 1 - c.utf8Size = bytes before := by omega
    rw [bytesCons, whole, List.cons_append, cutAt, if_pos fits, later, ih]
    rfl

theorem cutAtText {place : Nat} {text before after : List Char}
    (cut : cutAt place text = some (before, after)) :
    text = before ++ after ∧ place = bytes before := by
  induction text generalizing place before with
  | nil =>
    cases place with
    | zero =>
      obtain ⟨rfl, rfl⟩ := Prod.mk.inj (Option.some.inj cut)
      exact ⟨rfl, rfl⟩
    | succ place => contradiction
  | cons c rest ih =>
    cases place with
    | zero =>
      obtain ⟨rfl, rfl⟩ := Prod.mk.inj (Option.some.inj cut)
      exact ⟨rfl, rfl⟩
    | succ place =>
      rw [cutAt] at cut
      split at cut
      · rename_i fits
        obtain ⟨⟨front, back⟩, found, same⟩ := Option.map_eq_some_iff.1 cut
        obtain ⟨rfl, rfl⟩ := Prod.mk.inj same
        obtain ⟨rfl, length⟩ := ih found
        refine ⟨rfl, ?_⟩
        rw [bytesCons, ← length]
        omega
      · contradiction

theorem cutAtPosition (place : Nat) (text : List Char) :
    (cutAt place text).isSome = true ↔ String.Pos.Raw.IsValid (String.ofList text) ⟨place⟩ := by
  rw [String.Pos.Raw.isValid_iff_exists_append, Option.isSome_iff_exists]
  constructor
  · rintro ⟨⟨before, after⟩, cut⟩
    obtain ⟨rfl, rfl⟩ := cutAtText cut
    refine ⟨String.ofList before, String.ofList after, String.ofList_append, ?_⟩
    rw [String.rawEndPos_ofList, bytesLength]
  · rintro ⟨before, after, whole, length⟩
    have parts : text = before.toList ++ after.toList := by
      rw [← String.toList_append, ← whole, String.toList_ofList]
    have size : place = bytes before.toList := by
      rw [← bytesLength, String.utf8Len_toList]
      exact congrArg String.Pos.Raw.byteIdx length
    rw [parts, size]
    exact ⟨_, cutAtBytes before.toList after.toList⟩

end RequestSuite.Text
