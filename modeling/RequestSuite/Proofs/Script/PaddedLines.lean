import RequestSuite.Proofs.Script.LineEnds
import RequestSuite.Proofs.Text.Padding

/-! White space around a line of a test. No rule for assertions looks at it, so the line has the
same check with it and without it, and a line of nothing else has none. -/
namespace RequestSuite.Script.Assertion
open Text

def Unmoved (read : List Char → Option (List Char)) : Prop :=
  ∀ text padded, Padded text padded → Option.Rel Padded (read text) (read padded)

theorem wordUnmoved {word : List Char} (solid : Solid word) : Unmoved word.isPrefixOf? :=
  fun _ _ pad => wordPadded solid pad

theorem bindUnmoved {first second : List Char → Option (List Char)} (former : Unmoved first)
    (latter : Unmoved second) : Unmoved fun text => (first text).bind second := by
  intro text padded pad
  have front := former text padded pad
  dsimp only
  generalize first text = found, first padded = found' at front
  cases front with
  | none => exact .none
  | some related => exact latter _ _ related

theorem spacedUnmoved {words : List String} (solid : ∀ word ∈ words, Solid word.toList) :
    Unmoved (spacedWords words) := by
  induction words with
  | nil => exact fun text padded pad => .some pad
  | cons word words ih =>
    obtain ⟨here, later⟩ := List.forall_mem_cons.1 solid
    have first : Unmoved fun text => word.toList.isPrefixOf? (skipBlanks text) :=
      fun text padded pad => wordPadded here (skipBlanksPadded pad)
    exact bindUnmoved first (ih later)

theorem oneOfUnmoved {words : List String} (solid : ∀ word ∈ words, Solid word.toList) :
    Unmoved (oneOf words) := by
  intro text padded pad
  unfold oneOf
  induction words with
  | nil => exact .none
  | cons word words ih =>
    obtain ⟨here, later⟩ := List.forall_mem_cons.1 solid
    have front := wordPadded here pad
    rw [List.findSome?_cons, List.findSome?_cons]
    generalize word.toList.isPrefixOf? text = found,
      word.toList.isPrefixOf? padded = found' at front
    cases front with
    | none => exact ih later
    | some related => exact .some related

theorem digitsPadded {text padded : List Char} (pad : Padded text padded) :
    (digits padded).map Prod.fst = (digits text).map Prod.fst := by
  obtain ⟨gap, blank, same⟩ := skipBlanksPadded pad
  have stops : gap.takeWhile isDecimal = [] := by
    cases gap with
    | nil => rfl
    | cons c gap =>
      have other := blankUndecimal (blank c List.mem_cons_self)
      exact List.takeWhile_cons_of_neg (Bool.eq_false_iff.1 other)
  have row : (skipBlanks padded).takeWhile isDecimal = (skipBlanks text).takeWhile isDecimal := by
    rw [same, List.takeWhile_append, stops, List.append_nil]
    split
    · rename_i whole
      exact ((List.takeWhile_prefix isDecimal).eq_of_length whole).symm
    · rfl
  unfold digits
  simp only [row]
  split <;> rfl

theorem digitsDeafTo {first : List Char → Option (List Char)} (unmoved : Unmoved first)
    {gap : List Char} (blank : Blank gap) : Deaf gap fun text => (first text).bind digits := by
  intro text
  have front := unmoved text (text ++ gap) ⟨gap, blank, rfl⟩
  dsimp only
  generalize first text = found, first (text ++ gap) = found' at front
  cases front with
  | none => rfl
  | some related => exact digitsPadded related

theorem statusPadded {gap : List Char} (blank : Blank gap) : Deaf gap statusDigits := by
  have call : Unmoved statusMethod := wordUnmoved (by decide)
  have expectation : Unmoved statusExpectation :=
    bindUnmoved (wordUnmoved (by decide))
      (bindUnmoved (spacedUnmoved (by decide)) (oneOfUnmoved (by decide)))
  exact orDeaf (digitsDeafTo call blank) (digitsDeafTo expectation blank)

theorem timePadded {gap : List Char} (blank : Blank gap) : Deaf gap timeDigits := by
  have call : Solid "pm.expect(".toList := by decide
  have subject : ∀ word ∈ ["pm.response.responseTime", ")"], Solid word.toList := by decide
  have limits : ∀ word ∈ [".to.be.below(", ".to.be.lessThan("], Solid word.toList := by decide
  have expectation := bindUnmoved (wordUnmoved call)
    (bindUnmoved (spacedUnmoved subject) (oneOfUnmoved limits))
  have deaf := digitsDeafTo expectation blank
  simp only [Option.bind_assoc] at deaf
  exact deaf

theorem blankShorter (c : Char) (rest : List Char) (blank : Blank (c :: rest)) : Blank rest :=
  (List.forall_mem_cons.1 blank).2

theorem checkPadded {gap : List Char} (blank : Blank gap) (text : List Char) :
    check? (text ++ gap) = check? text := by
  have pad : Padded text (text ++ gap) := ⟨gap, blank, rfl⟩
  have word : Solid "pm.expect".toList := by decide
  have status := firstHitDeaf blankShorter (fun _ part => statusPadded part) rfl blank
  have time := firstHitDeaf blankShorter (fun _ part => timePadded part) rfl blank
  have sameStatus : status? (text ++ gap) = status? text :=
    deafBind status (fun digits => (boundedNat? 0xFFFF digits).map Check.status) text
  have sameTime : timeBelow? (text ++ gap) = timeBelow? text :=
    deafBind time (fun digits => (boundedNat? 0xFFFFFFFFFFFFFFFF digits).map Check.timeBelow) text
  unfold check? expectation?
  rw [sameStatus, sameTime, containsPadded word pad, trimPadded pad]

theorem checkIndented {c : Char} (blank : isBlank c = true) (text : List Char) :
    check? (c :: text) = check? text := by
  have missed : ∀ word : List Char, word.head? = some 'p' →
      word.isPrefixOf? (c :: text) = none := by
    intro word first
    obtain ⟨others, rfl⟩ := List.head?_eq_some_iff.1 first
    have other : ('p' == c) = false := by
      refine beq_eq_false_iff_ne.2 ?_
      rintro rfl
      contradiction
    rw [List.isPrefixOf?, other]
    rfl
  have unstated : statusDigits (c :: text) = none := by
    unfold statusDigits statusMethod statusExpectation
    rw [missed _ rfl, missed _ rfl]
    rfl
  have untimed : timeDigits (c :: text) = none := by
    unfold timeDigits
    rw [missed _ rfl]
    rfl
  have status : status? (c :: text) = status? text := by
    rw [status?, firstHit, unstated, status?]
  have time : timeBelow? (c :: text) = timeBelow? text := by
    rw [timeBelow?, firstHit, untimed, timeBelow?]
  have word : contains "pm.expect".toList (c :: text) = contains "pm.expect".toList text := by
    rw [containsCons, missed _ rfl]
    rfl
  unfold check? expectation?
  rw [status, time, word, trimIndented blank]

theorem checkSurrounded {lead gap : List Char} (before : Blank lead) (after : Blank gap)
    (text : List Char) : check? (lead ++ text ++ gap) = check? text := by
  rw [checkPadded after]
  exact indentedFree (fun _ => checkIndented) before text

theorem checkBlank {line : List Char} (blank : allBlank line = true) : check? line = none :=
  checkPadded (List.all_eq_true.1 blank) []

end RequestSuite.Script.Assertion
