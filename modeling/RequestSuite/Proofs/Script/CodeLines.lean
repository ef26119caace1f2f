import RequestSuite.Proofs.Script.Reading

/-! The code of a test script, line by line. Names and checks are taken from single lines, so what
an event stands for has exactly the lines that the event says. -/
namespace RequestSuite.Script
open Text

theorem digitsUnbroken (n : Nat) : '\n' ∉ (toString n).toList := by
  rw [Nat.toString_eq_ofList_toDigits, String.toList_ofList]
  intro member
  have digit := Nat.isDigit_of_mem_toDigits (by decide) (by decide) member
  exact absurd digit (by decide)

theorem idiomsUnbroken {text : List Char} (unbroken : '\n' ∉ text) (row : List (String × String))
    (words : ∀ idiom ∈ row, '\n' ∉ idiom.2.toList) :
    '\n' ∉ row.foldl Assertion.applyIdiom text := by
  induction row generalizing text with
  | nil => exact unbroken
  | cons idiom rest ih =>
    obtain ⟨first, later⟩ := List.forall_mem_cons.1 words
    refine ih ?_ later
    intro member
    rcases memReplaceAll member with old | new
    · exact unbroken old
    · exact first new

theorem expectationUnbroken {line : List Char} {check : Check} (unbroken : '\n' ∉ line)
    (found : Assertion.expectation? line = some check) : '\n' ∉ check.statement.toList := by
  unfold Assertion.expectation? at found
  split at found
  · have trimmed : '\n' ∉ trim line := fun member => unbroken (trimSubset line member)
    have code := idiomsUnbroken trimmed Assertion.idioms (by decide)
    rw [← Option.some.inj found]
    unfold Check.statement
    rw [String.toList_ofList]
    exact code
  · contradiction

theorem statementUnbroken {line : List Char} {check : Check} (unbroken : '\n' ∉ line)
    (found : Assertion.check? line = some check) : '\n' ∉ check.statement.toList := by
  unfold Assertion.check? at found
  rcases Option.or_eq_some_iff.1 found with status | ⟨-, other⟩
  · obtain ⟨hit, -, same⟩ := Option.bind_eq_some_iff.1 status
    obtain ⟨code, -, rfl⟩ := Option.map_eq_some_iff.1 same
    unfold Check.statement
    simp only [String.toList_append, List.mem_append, not_or]
    exact ⟨⟨by decide, digitsUnbroken code⟩, by decide⟩
  · rcases Option.or_eq_some_iff.1 other with time | ⟨-, expectation⟩
    · obtain ⟨hit, -, same⟩ := Option.bind_eq_some_iff.1 time
      obtain ⟨milliseconds, -, rfl⟩ := Option.map_eq_some_iff.1 same
      unfold Check.statement
      simp only [String.toList_append, List.mem_append, not_or]
      exact ⟨⟨by decide, digitsUnbroken milliseconds⟩, by decide⟩
    · exact expectationUnbroken unbroken expectation

namespace TestMarker

theorem quotedSubset {text name after : List Char} (found : quoted text = some (name, after)) :
    name ⊆ text ∧ after ⊆ text := by
  unfold quoted at found
  split at found
  · contradiction
  rename_i quote rest
  split at found
  · dsimp only at found
    split at found
    · rename_i dropped tail cut
      split at found
      · contradiction
      · obtain ⟨rfl, rfl⟩ := Prod.mk.inj (Option.some.inj found)
        have later : tail ⊆ rest := by
          have all := (List.dropWhile_suffix (l := rest) (· ≠ quote)).subset
          rw [cut] at all
          exact fun c member => all (List.mem_cons_of_mem _ member)
        constructor
        · exact fun c member => List.mem_cons_of_mem _ ((List.takeWhile_prefix _).subset member)
        · exact fun c member => List.mem_cons_of_mem _ (later member)
    · contradiction
  · contradiction

theorem afterBraceParts (name : Option String) (text : List Char) :
    (afterBrace name text).name = name ∧ (afterBrace name text).body ⊆ text := by
  unfold afterBrace
  cases cut : splitOnce blockEnd text with
  | none => exact ⟨rfl, List.Subset.refl text⟩
  | some parts => exact ⟨rfl, (splitOnceSubset cut).1⟩

theorem braceBlockParts (name : Option String) (text : List Char) :
    (braceBlock name text).name = name ∧ (braceBlock name text).body ⊆ text := by
  unfold braceBlock
  cases cut : splitOnce ['{'] text with
  | none => exact ⟨rfl, List.nil_subset text⟩
  | some parts =>
    obtain ⟨same, inside⟩ := afterBraceParts name parts.2
    exact ⟨same, List.Subset.trans inside (splitOnceSubset cut).2⟩

theorem expressionBodySubset {text body : List Char} (found : expressionBody text = some body) :
    body ⊆ text := by
  unfold expressionBody at found
  split at found
  · rename_i before after cut
    split at found
    · contradiction
    · rw [← Option.some.inj found]
      exact (splitOnceSubset cut).2
  · contradiction

theorem ofCallbackParts (name : Option String) (text : List Char) :
    (ofCallback name text).name = name ∧ (ofCallback name text).body ⊆ text := by
  unfold ofCallback
  cases found : expressionBody text with
  | none => exact braceBlockParts name text
  | some body => exact ⟨rfl, expressionBodySubset found⟩

theorem ofLineParts {line : List Char} {marker : TestMarker} (found : ofLine? line = some marker) :
    (∀ name, marker.name = some name → name.toList ⊆ line) ∧ marker.body ⊆ line := by
  obtain ⟨⟨before, rest⟩, cut, same⟩ := Option.map_eq_some_iff.1 found
  have inLine := (splitOnceSubset cut).2
  dsimp only at same
  cases literal : quoted (skipBlanks rest) with
  | none =>
    rw [literal] at same
    obtain ⟨unnamed, inside⟩ := ofCallbackParts none rest
    rw [← same]
    refine ⟨?_, List.Subset.trans inside inLine⟩
    intro name other
    rw [unnamed] at other
    contradiction
  | some parts =>
    rw [literal] at same
    obtain ⟨named, inside⟩ := ofCallbackParts (some (String.ofList parts.1)) parts.2
    obtain ⟨nameIn, afterIn⟩ := quotedSubset literal
    have skipped := List.Subset.trans (skipBlanksSubset rest) inLine
    rw [← same]
    refine ⟨?_, List.Subset.trans inside (List.Subset.trans afterIn skipped)⟩
    intro name known
    rw [named] at known
    rw [← Option.some.inj known, String.toList_ofList]
    exact List.Subset.trans nameIn skipped

end TestMarker

namespace TestScript

def Event.Unbroken (event : Event) : Prop := ∀ line ∈ event.lines, '\n' ∉ line

namespace Reading

theorem inBlockUnbroken {line : List Char} (unbroken : '\n' ∉ line) :
    ∀ event ∈ (inBlock line).events, event.Unbroken := by
  unfold inBlock
  cases found : Assertion.check? line with
  | none => exact List.forall_mem_nil _
  | some check =>
    have code := statementUnbroken unbroken found
    simp only [List.forall_mem_singleton, Event.Unbroken, Event.lines, List.mem_append, not_or]
    exact ⟨by decide, code⟩

theorem ofMarkerUnbroken {marker : TestMarker} (body : '\n' ∉ marker.body)
    (names : ∀ name, marker.name = some name → '\n' ∉ name.toList) :
    ∀ event ∈ (ofMarker marker).events, event.Unbroken := by
  have first : (Event.marker marker.name).Unbroken := by
    cases known : marker.name with
    | none => exact List.forall_mem_nil _
    | some name =>
      simp only [Event.Unbroken, Event.lines, List.forall_mem_cons, List.mem_append, not_or]
      exact ⟨List.not_mem_nil, ⟨by decide, names name known⟩, List.forall_mem_nil _⟩
  have later : ∀ event ∈ (if allBlank marker.body then silent true else inBlock marker.body).events,
      event.Unbroken := by
    split
    · exact List.forall_mem_nil _
    · exact inBlockUnbroken body
  have all := List.forall_mem_cons.2 ⟨first, later⟩
  unfold ofMarker
  cases marker.closes <;> exact all

theorem ofLineUnbroken {line : List Char} (unbroken : '\n' ∉ line) (inside : Bool) :
    ∀ event ∈ (ofLine inside line).events, event.Unbroken := by
  unfold ofLine
  cases found : TestMarker.ofLine? line with
  | some marker =>
    obtain ⟨names, body⟩ := TestMarker.ofLineParts found
    exact ofMarkerUnbroken (fun member => unbroken (body member))
      (fun name known member => unbroken (names name known member))
  | none =>
    dsimp only
    split
    · exact List.forall_mem_nil _
    · split
      · exact inBlockUnbroken unbroken
      · exact List.forall_mem_nil _

theorem ofLinesUnbroken {lines : List (List Char)} (unbroken : ∀ line ∈ lines, '\n' ∉ line)
    (inside : Bool) : ∀ event ∈ (ofLines inside lines).events, event.Unbroken := by
  induction lines generalizing inside with
  | nil => exact List.forall_mem_nil _
  | cons line rest ih =>
    obtain ⟨first, later⟩ := List.forall_mem_cons.1 unbroken
    intro event member
    rcases List.mem_append.1 member with here | below
    · exact ofLineUnbroken first inside event here
    · exact ih later (ofLine inside line).inside event below

theorem ofTextUnbroken (script : String) :
    ∀ event ∈ (ofText script).events, event.Unbroken :=
  ofLinesUnbroken (fun _ member => splitAtPart member) false

end Reading

end TestScript

end RequestSuite.Script
