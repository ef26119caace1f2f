import RequestSuite.Proofs.Text.Entities
import RequestSuite.Proofs.Text.Tags
import RequestSuite.Proofs.Text.Words

/-! Escaped data under the normalizations of a reader. Before it looks at anything else a reader turns
each end of a line into a line feed, and in the value of an attribute it takes a tab or a line feed
that stands there literally for a space; only then does it resolve references. A carriage return
comes through both, since it is written as a reference. Tabs and line feeds are written as they are
and come through in a text only, and a character that no document may have is written as it is, so
that nothing is read at all. -/
namespace RequestSuite.Text.Markup

def isAllowed (c : Char) : Bool :=
  let n := c.toNat
  n == 0x9 || n == 0xA || n == 0xD || (0x20 ≤ n && n ≤ 0xD7FF) || (0xE000 ≤ n && n ≤ 0xFFFD) ||
    (0x10000 ≤ n && n ≤ 0x10FFFF)

def normalizeEnds : List Char → List Char
  | [] => []
  | '\r' :: '\n' :: rest => '\n' :: normalizeEnds rest
  | '\r' :: rest => '\n' :: normalizeEnds rest
  | c :: rest => c :: normalizeEnds rest

def resolve? (text : List Char) : Option (List Char) := (decode text).filter (·.all isAllowed)

def readText? (text : List Char) : Option (List Char) :=
  if text.all isAllowed && !contains "]]>".toList text then resolve? (normalizeEnds text) else none

def blanked (c : Char) : Char := if c = '\t' ∨ c = '\n' ∨ c = '\r' then ' ' else c

/- What a reader makes of the value of an attribute, between quotation marks. References are
resolved last, so what they refer to is not taken for a space. -/
def readValue? (text : List Char) : Option (List Char) :=
  if text.all isAllowed && !text.contains '"' then resolve? ((normalizeEnds text).map blanked)
  else none

def specials : List Char := ['&', '<', '>', '"', '\x27', '\r']

/- The list is gone through by its own test, not by one over all characters. -/
theorem specialsEach {property : Char → Prop} [DecidablePred property]
    (each : specials.all (fun c => decide (property c)) = true) : ∀ c ∈ specials, property c :=
  fun c member => of_decide_eq_true (List.all_eq_true.1 each c member)

theorem escapePlain {c : Char} (plain : c ∉ specials) : escape c = [c] := by
  simp only [specials, List.mem_cons, List.not_mem_nil, or_false, not_or] at plain
  obtain ⟨mark, less, more, quote, single, back⟩ := plain
  rw [escape, if_neg mark, if_neg less, if_neg more, if_neg quote, if_neg single, if_neg back]

theorem encodeNext (c : Char) (text : List Char) : encode (c :: text) = escape c ++ encode text :=
  List.flatMap_cons

theorem escapeAllowed (c : Char) : (escape c).all isAllowed = isAllowed c := by
  by_cases special : c ∈ specials
  · have written : ∀ c ∈ specials, (escape c).all isAllowed = isAllowed c :=
      specialsEach (by decide)
    exact written c special
  · rw [escapePlain special, List.all_cons, List.all_nil, Bool.and_true]

theorem encodeAllowed (text : List Char) : (encode text).all isAllowed = text.all isAllowed := by
  induction text with
  | nil => rfl
  | cons c text ih => rw [encodeNext, List.all_append, escapeAllowed, ih, List.all_cons]

theorem encodeUnreturned (text : List Char) : '\r' ∉ encode text := by
  intro member
  obtain ⟨c, -, inside⟩ := List.mem_flatMap.1 member
  by_cases special : c ∈ specials
  · have written : ∀ c ∈ specials, '\r' ∉ escape c := specialsEach (by decide)
    exact written c special inside
  · rw [escapePlain special, List.mem_singleton] at inside
    exact special (inside ▸ by decide)

theorem normalizePlain {text : List Char} (absent : '\r' ∉ text) : normalizeEnds text = text := by
  induction text with
  | nil => rfl
  | cons c text ih =>
    obtain ⟨other, later⟩ := not_or.1 (List.mem_cons.not.1 absent)
    rw [normalizeEnds.eq_4, ih later]
    · exact fun _ same => absurd same.symm other
    · exact fun same => absurd same.symm other

def spaced (c : Char) : Char := if c = '\t' ∨ c = '\n' then ' ' else c

theorem escapeBlanked (c : Char) : (escape c).map blanked = escape (spaced c) := by
  by_cases special : c ∈ specials
  · have written : ∀ c ∈ specials, (escape c).map blanked = escape (spaced c) :=
      specialsEach (by decide)
    exact written c special
  · have other : c ≠ '\r' := fun same => special (same ▸ by decide)
    have alike : blanked c = spaced c := by simp only [blanked, spaced, other, or_false]
    have still : spaced c ∉ specials := by
      unfold spaced
      split
      · decide
      · exact special
    rw [escapePlain special, escapePlain still, List.map_singleton, alike]

theorem encodeBlanked (text : List Char) :
    (encode text).map blanked = encode (text.map spaced) := by
  induction text with
  | nil => rfl
  | cons c text ih =>
    rw [encodeNext, List.map_append, escapeBlanked, ih, List.map_cons, encodeNext]

theorem spacedAllowed (text : List Char) :
    (text.map spaced).all isAllowed = text.all isAllowed := by
  have one : ∀ c, isAllowed (spaced c) = isAllowed c := by
    intro c
    unfold spaced
    split
    · rename_i blank
      rcases blank with rfl | rfl <;> decide
    · rfl
  rw [List.all_map]
  exact congrArg text.all (funext one)

theorem spacedSame {text : List Char} :
    text.map spaced = text ↔ '\t' ∉ text ∧ '\n' ∉ text := by
  have one : ∀ c, spaced c = c ↔ c ≠ '\t' ∧ c ≠ '\n' := by
    intro c
    unfold spaced
    split
    · rename_i blank
      rcases blank with rfl | rfl <;> decide
    · rename_i other
      exact ⟨fun _ => not_or.1 other, fun _ => rfl⟩
  induction text with
  | nil => simp
  | cons c text ih =>
    simp only [List.map_cons, List.cons.injEq, one, ih, List.mem_cons, not_or]
    constructor
    · rintro ⟨⟨tab, feed⟩, tabs, feeds⟩
      exact ⟨⟨Ne.symm tab, tabs⟩, Ne.symm feed, feeds⟩
    · rintro ⟨⟨tab, tabs⟩, feed, feeds⟩
      exact ⟨⟨Ne.symm tab, Ne.symm feed⟩, tabs, feeds⟩

theorem resolveEncode {text : List Char} (allowed : text.all isAllowed = true) :
    resolve? (encode text) = some text := by
  rw [resolve?, decodeEncode, Option.filter_some, if_pos allowed]

theorem textRead (text : List Char) :
    readText? (encode text) = if text.all isAllowed then some text else none := by
  have closed : contains "]]>".toList (encode text) = false := by
    refine Bool.eq_false_iff.2 fun found => ?_
    exact notEncoded (by decide) text (containsSubset found (by decide : '>' ∈ "]]>".toList))
  rw [readText?, encodeAllowed, closed, normalizePlain (encodeUnreturned text)]
  cases allowed : text.all isAllowed with
  | true => exact resolveEncode allowed
  | false => rfl

theorem valueRead (text : List Char) :
    readValue? (encode text) =
      if text.all isAllowed then some (text.map spaced) else none := by
  have quoted : (encode text).contains '"' = false :=
    Bool.eq_false_iff.2 fun found => notEncoded (by decide) text (List.contains_iff_mem.1 found)
  rw [readValue?, encodeAllowed, quoted, normalizePlain (encodeUnreturned text), encodeBlanked]
  cases allowed : text.all isAllowed with
  | true => exact resolveEncode ((spacedAllowed text).trans allowed)
  | false => rfl

theorem escapedDataRead (text : String) :
    let data := text.toList
    let written := (escapeText text).toList
    let allowed := data.all isAllowed
    written.all isAllowed = allowed ∧
      (∀ c ∈ ['<', '>', '"'], c ∉ written) ∧
      readText? written = (if allowed then some data else none) ∧
      readValue? written = (if allowed then some (data.map spaced) else none) ∧
      (readText? written = some data ↔ allowed = true) ∧
      (readValue? written = some data ↔ allowed = true ∧ '\t' ∉ data ∧ '\n' ∉ data) := by
  intro data written allowed
  have shape : written = encode data := String.toList_ofList
  rw [shape, encodeAllowed, textRead, valueRead]
  refine ⟨rfl, fun c special => notEncoded special data, rfl, rfl, ?_, ?_⟩
  · simp [allowed]
  · rw [← spacedSame]
    simp [allowed]

theorem tabReadAsSpace :
    readText? (escapeText "a\tb").toList = some "a\tb".toList ∧
      readValue? (escapeText "a\tb").toList = some "a b".toList ∧
      "a b" ≠ "a\tb" ∧
      (escapeText "a\x0bb").toList.all isAllowed = false ∧
      readText? (escapeText "a\x0bb").toList = none := by
  have shape : ∀ text : String, (escapeText text).toList = encode text.toList :=
    fun text => String.toList_ofList
  rw [shape, shape, textRead, valueRead, textRead, encodeAllowed]
  decide

end RequestSuite.Text.Markup
