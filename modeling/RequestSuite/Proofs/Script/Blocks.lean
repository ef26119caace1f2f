import RequestSuite.Proofs.Script.Reading

/-! Texts of test scripts put one after the other. Where the second one opens a block, or the first
one leaves none open, the two mean together what they mean apart: neither an open block nor its
name goes over. -/
namespace RequestSuite.Script.TestScript
open Text

namespace Reading

theorem ofLinesMarker {line : List Char} {rest : List (List Char)}
    (marker : (TestMarker.ofLine? line).isSome = true) (inside : Bool) :
    ofLines inside (line :: rest) = ofLines false (line :: rest) := by
  obtain ⟨found, same⟩ := Option.isSome_iff_exists.1 marker
  rw [ofLines, ofLines, ofLineMarker same, ofLineMarker same]

theorem ofLinesUnmarked {lines : List (List Char)}
    (unmarked : ∀ line ∈ lines, TestMarker.ofLine? line = none) :
    (ofLines false lines).events = [] := by
  induction lines with
  | nil => rfl
  | cons line rest ih =>
    obtain ⟨absent, later⟩ := List.forall_mem_cons.1 unmarked
    rw [ofLines, ofLineOutside absent]
    exact ih later

end Reading

theorem joinedLines (a b : String) :
    lines (a ++ "\n" ++ b).toList = lines a.toList ++ lines b.toList := by
  have joined : (a ++ "\n" ++ b).toList = a.toList ++ '\n' :: b.toList := by
    simp [String.toList_append]
  rw [joined, lines, splitAtAppend]
  rfl

theorem leftOpen (script : String) :
    (Reader.start.run (lines script.toList)).inside = (Reading.ofText script).inside := by
  rw [Reader.runTold]
  rfl

theorem followedByMeans {a b joined : String}
    (told : Reading.ofText joined = (Reading.ofText a).followedBy (Reading.ofText b)) :
    ∃ body, (ofText b).code = String.ofList header ++ body ∧
      (ofText joined).code = (ofText a).code ++ body ∧
      (ofText joined).tests = (ofText a).tests ++ (ofText b).tests ∧
      (ofText joined).checks = (ofText a).checks ++ (ofText b).checks ∧
      (ofText joined).dropped = (ofText a).dropped + (ofText b).dropped := by
  refine ⟨String.ofList ((Reading.ofText b).events.flatMap Event.text), ?_⟩
  simp only [ofTextReading, told, Reading.followedBy, List.flatMap_append, List.filterMap_append,
    namedAppend, String.ofList_append, String.append_assoc, true_and, and_true]
  exact congrArg _ (namedOpened (Reading.ofLinesOpened (lines b.toList)) _ "")

def beginsBlock (script : String) : Bool :=
  (lines script.toList).head?.any fun line => (TestMarker.ofLine? line).isSome

def leavesOpen (script : String) : Bool := (Reader.start.run (lines script.toList)).inside

def hasBlock (script : String) : Bool :=
  (lines script.toList).any fun line => (TestMarker.ofLine? line).isSome

/- Where a line opens a block, or none is open, a script may be cut and read in two parts. -/
theorem joinedAtBlocks :
    (∀ a b : String, beginsBlock b = true ∨ leavesOpen a = false →
      ∃ body, (ofText b).code = String.ofList header ++ body ∧
        (ofText (a ++ "\n" ++ b)).code = (ofText a).code ++ body ∧
        (ofText (a ++ "\n" ++ b)).tests = (ofText a).tests ++ (ofText b).tests ∧
        (ofText (a ++ "\n" ++ b)).checks = (ofText a).checks ++ (ofText b).checks ∧
        (ofText (a ++ "\n" ++ b)).dropped = (ofText a).dropped + (ofText b).dropped) ∧
    ∀ script : String, hasBlock script = false →
      (ofText script).code = String.ofList header ∧ (ofText script).tests = [] ∧
        (ofText script).checks = [] := by
  constructor
  · intro a b boundary
    apply followedByMeans
    rw [Reading.ofText, joinedLines, Reading.ofLinesAppend]
    rcases boundary with begins | closed
    · unfold beginsBlock at begins
      cases cut : lines b.toList with
      | nil => exact absurd cut (splitAtNonempty '\n' b.toList)
      | cons line rest =>
        rw [cut] at begins
        rw [Reading.ofLinesMarker begins, Reading.ofText, Reading.ofText, cut]
    · have outside : (Reading.ofLines false (lines a.toList)).inside = false :=
        (leftOpen a).symm.trans closed
      rw [outside]
      rfl
  · intro script unmarked
    have silent : (Reading.ofText script).events = [] := by
      apply Reading.ofLinesUnmarked
      intro line member
      have unseen := List.any_eq_false.1 unmarked line member
      simpa using unseen
    rw [ofTextReading, silent]
    simp [named]

theorem openBlockEndsAtMarker :
    leavesOpen "pm.test(\"A\", () => \x7b\n" = true ∧
      beginsBlock "pm.test(name, () => \x7b\npm.response.to.have.status(201);" = true ∧
      (ofText ("pm.test(\"A\", () => \x7b\n" ++ "\n" ++
        "pm.test(name, () => \x7b\npm.response.to.have.status(201);")).tests = ["A"] ∧
      (ofText ("pm.test(\"A\", () => \x7b\n" ++ "\n" ++
        "pm.test(name, () => \x7b\npm.response.to.have.status(201);")).checks =
          [⟨"", .status 201⟩] := by
  obtain ⟨-, -, -, tests, checks, -⟩ := joinedAtBlocks.1 "pm.test(\"A\", () => \x7b\n"
    "pm.test(name, () => \x7b\npm.response.to.have.status(201);" (.inl (by decide))
  exact ⟨by decide, by decide, tests.trans (by decide), checks.trans (by decide)⟩

end RequestSuite.Script.TestScript
