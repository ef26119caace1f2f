import RequestSuite.Proofs.Script.PaddedLines
import RequestSuite.Script.TestScript

/-! What becomes of each line of a test script. A line that says something, or the part of a block
on the line that opens it, gives one check or is counted as dropped; all other lines leave both as
they are. So checks and dropped lines together are as many as there is to read in the script. -/
namespace RequestSuite.Script.TestScript
open Text

def isStatement (inside : Bool) (line : List Char) : Bool :=
  !allBlank line && (TestMarker.ofLine? line).isNone && !(inside && closesTest line)

def hasBody (line : List Char) : Bool :=
  (TestMarker.ofLine? line).any fun marker => !allBlank marker.body

namespace Reader

def met (reader : Reader) : List (List Char) → List (Bool × List Char)
  | [] => []
  | line :: rest => (reader.inside, line) :: met (reader.step line) rest

def Takes (before after : Reader) (inside : Bool) (text : List Char) : Prop :=
  match if inside then Assertion.check? text else none with
  | some check =>
    after.checks = before.checks ++ [⟨after.current, check⟩] ∧ after.dropped = before.dropped
  | none => after.checks = before.checks ∧ after.dropped = before.dropped + 1

def Passes (before after : Reader) : Prop :=
  after.checks = before.checks ∧ after.dropped = before.dropped

def total (reader : Reader) : Nat := reader.dropped + reader.checks.length

theorem Takes.total {before after : Reader} {inside : Bool} {text : List Char}
    (takes : Takes before after inside text) : after.total = before.total + 1 := by
  unfold Takes at takes
  unfold Reader.total
  split at takes
  · rw [takes.1, takes.2, List.length_append, Nat.add_assoc]
    rfl
  · rw [takes.1, takes.2, Nat.add_right_comm]

theorem Passes.total {before after : Reader} (passes : Passes before after) :
    after.total = before.total := by
  rw [Reader.total, passes.1, passes.2, Reader.total]

theorem readTakes (reader : Reader) {text : List Char} (filled : allBlank text = false) :
    Takes reader (reader.read text) true text := by
  unfold Takes read
  rw [if_pos rfl, filled]
  cases Assertion.check? text <;> exact ⟨rfl, rfl⟩

theorem enterPasses (reader : Reader) (name : Option String) :
    Passes reader (reader.enter name) := by
  cases name <;> exact ⟨rfl, rfl⟩

/- The block is open before its text is read, and the end of the line may only close it again. -/
theorem markTakes (reader : Reader) {marker : TestMarker} (filled : allBlank marker.body = false) :
    Takes reader (reader.mark marker) true marker.body := by
  have takes := readTakes (reader.enter marker.name) filled
  obtain ⟨checks, dropped⟩ := enterPasses reader marker.name
  unfold Takes at takes ⊢
  rw [checks, dropped] at takes
  unfold mark
  rw [filled]
  cases marker.closes <;> exact takes

theorem markPasses (reader : Reader) {marker : TestMarker} (blank : allBlank marker.body = true) :
    Passes reader (reader.mark marker) := by
  have passes := enterPasses reader marker.name
  unfold mark
  rw [blank]
  cases marker.closes <;> exact passes

theorem stepTakes (reader : Reader) {line : List Char}
    (statement : isStatement reader.inside line = true) :
    Takes reader (reader.step line) reader.inside line := by
  simp only [isStatement, Bool.and_eq_true, Bool.not_eq_true',
    Option.isNone_iff_eq_none] at statement
  obtain ⟨⟨filled, unmarked⟩, stays⟩ := statement
  unfold step
  rw [unmarked, stays, filled]
  cases inside : reader.inside with
  | true => exact readTakes reader filled
  | false => exact ⟨rfl, rfl⟩

theorem stepPasses (reader : Reader) {line : List Char}
    (other : isStatement reader.inside line = false) (bodiless : hasBody line = false) :
    Passes reader (reader.step line) := by
  unfold step
  cases marked : TestMarker.ofLine? line with
  | some marker =>
    have blank : allBlank marker.body = true := by
      simpa only [hasBody, marked, Option.any_some, Bool.not_eq_false'] using bodiless
    exact markPasses reader blank
  | none =>
    dsimp only
    cases closes : reader.inside && closesTest line with
    | true => exact ⟨rfl, rfl⟩
    | false =>
      have blank : allBlank line = true := by simpa [isStatement, marked, closes] using other
      have unread : reader.read line = reader := by
        unfold read
        rw [Assertion.checkBlank blank, blank]
        rfl
      rw [unread, blank]
      cases reader.inside <;> exact ⟨rfl, rfl⟩

theorem bodyTakes (reader : Reader) {line : List Char} {marker : TestMarker}
    (marked : TestMarker.ofLine? line = some marker) (filled : allBlank marker.body = false) :
    Takes reader (reader.step line) true marker.body := by
  unfold step
  rw [marked]
  exact markTakes reader filled

theorem stepTotal (reader : Reader) (line : List Char) :
    (reader.step line).total = reader.total +
      (if isStatement reader.inside line then 1 else 0) + (if hasBody line then 1 else 0) := by
  cases statement : isStatement reader.inside line with
  | true =>
    have unmarked : hasBody line = false := by
      simp only [isStatement, Bool.and_eq_true, Option.isNone_iff_eq_none] at statement
      rw [hasBody, statement.1.2]
      rfl
    rw [unmarked]
    exact (stepTakes reader statement).total
  | false =>
    cases body : hasBody line with
    | false => exact (stepPasses reader statement body).total
    | true =>
      cases marked : TestMarker.ofLine? line with
      | none =>
        rw [hasBody, marked] at body
        cases body
      | some marker =>
        have filled : allBlank marker.body = false := by
          simpa only [hasBody, marked, Option.any_some, Bool.not_eq_true'] using body
        exact (bodyTakes reader marked filled).total

theorem runTotal (reader : Reader) (lines : List (List Char)) :
    (reader.run lines).total = reader.total +
      ((met reader lines).countP fun (inside, line) => isStatement inside line) +
        lines.countP hasBody := by
  induction lines generalizing reader with
  | nil => rfl
  | cons line rest ih =>
    have first : reader.run (line :: rest) = (reader.step line).run rest := rfl
    rw [first, ih, stepTotal, met, List.countP_cons, List.countP_cons]
    dsimp only
    omega

end Reader

theorem linesAccounted :
    (∀ (reader : Reader) (line : List Char),
      (isStatement reader.inside line = true →
        Reader.Takes reader (reader.step line) reader.inside line) ∧
      (∀ marker, TestMarker.ofLine? line = some marker → allBlank marker.body = false →
        Reader.Takes reader (reader.step line) true marker.body) ∧
      (isStatement reader.inside line = false → hasBody line = false →
        Reader.Passes reader (reader.step line))) ∧
    ∀ script : String, (ofText script).dropped + (ofText script).checks.length =
      ((Reader.start.met (lines script.toList)).countP fun (inside, line) =>
        isStatement inside line) + (lines script.toList).countP hasBody := by
  constructor
  · intro reader line
    exact ⟨reader.stepTakes, fun marker => reader.bodyTakes, reader.stepPasses⟩
  · intro script
    have total := Reader.runTotal .start (lines script.toList)
    rw [show Reader.start.total = 0 from rfl, Nat.zero_add] at total
    exact total

def opener : String := "pm.test(\"x\", function () \x7b pm.response.to.have.status(200);"

def mixedLines : String :=
  "a\n\n" ++ opener ++ "\nvar b;\npm.expect(b);\n\x7d);\nc"

theorem mixedLinesAccounted :
    (lines mixedLines.toList).map (fun line => (isStatement true line, hasBody line)) =
        [(true, false), (false, false), (false, true), (true, false), (true, false),
          (false, false), (true, false)] ∧
      Reader.Takes .start (Reader.start.step ['a']) false ['a'] ∧
      Reader.Takes .start (Reader.start.step opener.toList) true
        " pm.response.to.have.status(200);".toList ∧
      Reader.Passes .start (Reader.start.step []) ∧
      (ofText mixedLines).dropped = 3 ∧ (ofText mixedLines).checks.length = 2 ∧
      (ofText mixedLines).dropped + (ofText mixedLines).checks.length = 5 := by
  have first := (linesAccounted.1 .start ['a']).1 (by decide)
  have opened : TestMarker.ofLine? opener.toList =
      some ⟨some "x", " pm.response.to.have.status(200);".toList, false⟩ := by decide
  have body := (linesAccounted.1 .start opener.toList).2.1 _ opened (by decide)
  have second := (linesAccounted.1 .start []).2.2 (by decide) (by decide)
  have counted := (linesAccounted.2 mixedLines).trans (by decide : _ = 5)
  exact ⟨by decide, first, body, second, by decide, by decide, counted⟩

end RequestSuite.Script.TestScript
