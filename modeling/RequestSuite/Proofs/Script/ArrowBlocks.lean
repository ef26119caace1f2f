import RequestSuite.Proofs.Script.Arguments
import RequestSuite.Proofs.Script.LineEnds
import RequestSuite.Proofs.Script.Markers
import RequestSuite.Proofs.Script.Reading

/-! A test whose callback is one expression, and the same test as a block of three lines. Both open
and close one block and find the same check in it. Only an expectation that no rule of its own
takes up tells them apart: on one line it keeps the parenthesis that closes the test. -/
namespace RequestSuite.Script
open Text

structure Arrow where
  name : List Char
  value : List Char
  named : name ≠ []
  unquoted : '"' ∉ name
  balanced : Balanced value
  braceless : '{' ∉ value
  unended : ';' ∉ value
  alone : contains TestMarker.call value = false

namespace Arrow

def head (arrow : Arrow) : List Char :=
  "pm.test(".toList ++ '"' :: (arrow.name ++ '"' :: ", () =>".toList)

def oneLine (arrow : Arrow) : List Char := arrow.head ++ ' ' :: (arrow.value ++ ");".toList)

def block (arrow : Arrow) : List (List Char) :=
  [arrow.head ++ " \x7b".toList, arrow.value ++ ";".toList, "\x7d);".toList]

def expects (arrow : Arrow) : Bool :=
  (Assertion.status? arrow.value).isNone && (Assertion.timeBelow? arrow.value).isNone &&
    contains "pm.expect".toList arrow.value

def code (arrow : Arrow) : List Char :=
  Assertion.idioms.foldl Assertion.applyIdiom (skipBlanks arrow.value)

def check (arrow : Arrow) (ending : String) : NamedCheck :=
  ⟨String.ofList arrow.name, .expression (String.ofList (arrow.code ++ ending.toList))⟩

theorem valueShut (arrow : Arrow) : ¬ Assertion.EndsOpen arrow.value :=
  fun opens => (balancedEnd arrow.balanced opens ('(', ')') (by decide)).1 rfl

theorem headAppend (arrow : Arrow) (callback : List Char) :
    arrow.head ++ callback =
      TestMarker.call ++ '"' :: (arrow.name ++ '"' :: (", () =>".toList ++ callback)) := by
  have parts : ∀ call rest : List Char, call ++ '"' :: (arrow.name ++ '"' :: rest) ++ callback =
      call ++ '"' :: (arrow.name ++ '"' :: (rest ++ callback)) := by simp
  exact parts _ _

theorem headMarker (arrow : Arrow) (callback : List Char) :
    TestMarker.ofLine? (arrow.head ++ callback) =
      some (TestMarker.ofCallback (some (String.ofList arrow.name))
        (", () =>".toList ++ callback)) := by
  rw [headAppend]
  exact TestMarker.namedMarker arrow.named arrow.unquoted _

theorem oneLineMarker (arrow : Arrow) :
    TestMarker.ofLine? arrow.oneLine =
      some ⟨String.ofList arrow.name, ' ' :: (arrow.value ++ ");".toList), true⟩ := by
  have cut : ∀ rest, splitOnce ['=', '>'] (", () =>".toList ++ rest) = some (", () ".toList, rest) :=
    fun _ => rfl
  have bare : '{' ∉ ' ' :: (arrow.value ++ ");".toList) := by
    intro member
    rcases List.mem_append.1 (List.mem_of_ne_of_mem (by decide) member) with inside | ending
    · exact arrow.braceless inside
    · exact absurd ending (by decide)
  have other : ¬ (skipBlanks (' ' :: (arrow.value ++ ");".toList))).head? = some '{' :=
    fun first => bare (skipBlanksSubset _ (List.mem_of_head? first))
  have plain : (", () ".toList.contains '{') = false := by decide
  have body : TestMarker.expressionBody (", () =>".toList ++ ' ' :: (arrow.value ++ ");".toList)) =
      some (' ' :: (arrow.value ++ ");".toList)) := by
    rw [TestMarker.expressionBody, cut]
    simp only [plain, other, Bool.false_or, decide_false, Bool.false_eq_true, if_false]
  rw [oneLine, headMarker, TestMarker.ofCallback, body]

theorem openingMarker (arrow : Arrow) :
    TestMarker.ofLine? (arrow.head ++ " \x7b".toList) =
      some ⟨String.ofList arrow.name, [], false⟩ := by
  rw [headMarker]
  rfl

theorem valueMarker (arrow : Arrow) : TestMarker.ofLine? (arrow.value ++ ";".toList) = none := by
  have word : Assertion.Unclosed TestMarker.call := by decide
  have closing : Assertion.Closing ";".toList := by decide
  exact TestMarker.unmarked ((Assertion.containsClosing word closing arrow.value).trans arrow.alone)

theorem valueStays (arrow : Arrow) : closesTest (arrow.value ++ ";".toList) = false := by
  have apart : Apart TestMarker.blockEnd arrow.value ";".toList := by
    rintro front back ⟨before, whole⟩ start - filled split
    obtain ⟨c, rest, rfl⟩ := List.exists_cons_of_ne_nil filled
    obtain ⟨rfl, none⟩ := List.cons_prefix_cons.1 start
    rw [List.prefix_nil.1 none] at split
    have parts : ['}', ')'] ++ [';'] = front ++ [';'] := split
    rw [← (List.append_inj' parts rfl).1, List.append_cons] at whole
    exact arrow.braceless (@balancedGroupEnd _ _ ('{', '}') ('(', ')') arrow.balanced (by decide)
      (by decide) whole.symm)
  have absent : contains TestMarker.blockEnd arrow.value = false := by
    refine Bool.eq_false_iff.2 fun found => arrow.unended ?_
    exact containsSubset found (by decide)
  rw [closesTest, containsApart (by decide) apart, absent]
  rfl

end Arrow

namespace TestScript

namespace Reading

def ofArrow (arrow : Arrow) (ending : List Char) : Reading :=
  match Assertion.closedCheck? arrow.value ending with
  | some check => ⟨[.marker (some (String.ofList arrow.name)), .check check], 0, false⟩
  | none => ⟨[.marker (some (String.ofList arrow.name))], 1, false⟩

theorem inBlockClosed {text ending : List Char} (shut : ¬ Assertion.EndsOpen text)
    (closing : Assertion.Closing ending) (filled : ending ≠ []) :
    allBlank (text ++ ending) = false ∧ inBlock (text ++ ending) =
      match Assertion.closedCheck? text ending with
      | some check => ⟨[.check check], 0, true⟩
      | none => ⟨[], 1, true⟩ := by
  have unblank : allBlank (text ++ ending) = false := by
    have last := (Assertion.closesNeither (closing _ (List.getLast_mem filled))).1
    refine List.all_eq_false.2 ⟨_, List.mem_append_right text (List.getLast_mem filled), ?_⟩
    exact Bool.eq_false_iff.1 last
  refine ⟨unblank, ?_⟩
  rw [inBlock, Assertion.checkClosing shut closing filled, nothing, unblank]
  rfl

theorem oneLineReading (arrow : Arrow) (inside : Bool) :
    ofLines inside [arrow.oneLine] = ofArrow arrow ");".toList := by
  have closing : Assertion.Closing ");".toList := by decide
  have shut : ¬ Assertion.EndsOpen (' ' :: arrow.value) := by
    intro opens
    rw [Assertion.EndsOpen, List.getLast?_cons] at opens
    cases last : arrow.value.getLast? with
    | none => simp [last] at opens
    | some c => exact arrow.valueShut (last.trans (by simpa [last] using opens))
  obtain ⟨unblank, read⟩ := inBlockClosed shut closing (by decide)
  rw [List.cons_append] at unblank read
  rw [ofLinesSingle, ofLineMarker arrow.oneLineMarker, ofMarker, ofArrow]
  simp only [unblank, read, Assertion.closedCheckSpace]
  cases Assertion.closedCheck? arrow.value ");".toList <;> rfl

theorem blockReading (arrow : Arrow) (inside : Bool) :
    ofLines inside arrow.block = ofArrow arrow ";".toList := by
  have closing : Assertion.Closing ";".toList := by decide
  have opened : ofLine inside (arrow.head ++ " \x7b".toList) =
      ⟨[.marker (some (String.ofList arrow.name))], 0, true⟩ := ofLineMarker arrow.openingMarker inside
  have value : ofLine true (arrow.value ++ ";".toList) = inBlock (arrow.value ++ ";".toList) := by
    rw [ofLine, arrow.valueMarker, arrow.valueStays]
    rfl
  have last : ofLine true "\x7d);".toList = silent false := by decide
  obtain ⟨-, read⟩ := inBlockClosed arrow.valueShut closing (List.cons_ne_nil _ _)
  simp only [Arrow.block, ofLines, opened, value, read, ofArrow]
  cases Assertion.closedCheck? arrow.value ";".toList <;> simp only [last] <;> rfl

end Reading

theorem arrowTold {script : String} {before after form : List (List Char)} {arrow : Arrow}
    {ending : List Char}
    (reads : ∀ inside, Reading.ofLines inside form = Reading.ofArrow arrow ending)
    (split : lines script.toList = before ++ form ++ after) :
    Reading.ofText script = ((Reading.ofLines false before).followedBy
      (Reading.ofArrow arrow ending)).followedBy (Reading.ofLines false after) := by
  have outside : (Reading.ofArrow arrow ending).inside = false := by
    unfold Reading.ofArrow
    cases Assertion.closedCheck? arrow.value ending <;> rfl
  have joined : ((Reading.ofLines false before).followedBy (Reading.ofArrow arrow ending)).inside =
      false := outside
  rw [Reading.ofText, split, Reading.ofLinesAppend, Reading.ofLinesAppend, reads, joined]

theorem arrowUnexpected {arrow : Arrow} (unexpected : arrow.expects = false)
    (one other : List Char) : Reading.ofArrow arrow one = Reading.ofArrow arrow other := by
  have same : Assertion.closedCheck? arrow.value one = Assertion.closedCheck? arrow.value other := by
    unfold Arrow.expects at unexpected
    unfold Assertion.closedCheck?
    cases status : Assertion.status? arrow.value with
    | some check => rw [Option.some_or, Option.some_or]
    | none =>
      cases time : Assertion.timeBelow? arrow.value with
      | some check => rw [Option.some_or, Option.some_or]
      | none =>
        simp only [status, time, Option.isNone_none, Bool.true_and] at unexpected
        simp only [unexpected, Bool.false_eq_true, if_false]
  rw [Reading.ofArrow, Reading.ofArrow, same]

theorem arrowExpected {arrow : Arrow} (expected : arrow.expects = true) (ending : List Char) :
    Reading.ofArrow arrow ending = ⟨[.marker (some (String.ofList arrow.name)),
      .check (.expression (String.ofList (arrow.code ++ ending)))], 0, false⟩ := by
  unfold Arrow.expects at expected
  simp only [Bool.and_eq_true, Option.isNone_iff_eq_none] at expected
  obtain ⟨⟨status, time⟩, word⟩ := expected
  rw [Reading.ofArrow, Assertion.closedCheck?, status, time, word]
  rfl

theorem expressionText (code : List Char) :
    (Event.check (.expression (String.ofList code))).text = "    ".toList ++ code ++ ['\n'] := by
  have statement : (Check.expression (String.ofList code)).statement.toList = code :=
    String.toList_ofList
  rw [Event.text, Event.lines, List.flatMap_singleton, statement]

/- The ending of an expectation stands in the code and in the check, and nowhere else. -/
theorem expectationTold {script : String} {before after : Reading} {arrow : Arrow}
    {ending : String} (expected : arrow.expects = true)
    (told : Reading.ofText script =
      (before.followedBy (Reading.ofArrow arrow ending.toList)).followedBy after) :
    ofText script =
      { code := String.ofList (header ++ before.events.flatMap Event.text ++
          (Event.marker (some (String.ofList arrow.name))).text ++ "    ".toList ++
          (arrow.code ++ ending.toList) ++ '\n' :: after.events.flatMap Event.text)
        tests := before.events.filterMap Event.name? ++
          String.ofList arrow.name :: after.events.filterMap Event.name?
        checks := named "" before.events ++
          arrow.check ending :: named (String.ofList arrow.name) after.events
        dropped := before.dropped + after.dropped } := by
  rw [arrowExpected expected] at told
  rw [ofTextReading, told]
  simp only [Reading.followedBy, TestScript.mk.injEq]
  refine ⟨?_, ?_, ?_, rfl⟩
  · have line := expressionText (arrow.code ++ ending.toList)
    generalize "    ".toList = gap at line ⊢
    simp only [List.flatMap_append, List.flatMap_cons, line, List.append_assoc,
      List.cons_append, List.nil_append]
  · simp [List.filterMap_cons, Event.name?]
  · simp [namedAppend, named, Arrow.check]

theorem arrowAgainstBlock (arrow : Arrow) {before after : List (List Char)} {script spread : String}
    (one : lines script.toList = before ++ [arrow.oneLine] ++ after)
    (three : lines spread.toList = before ++ arrow.block ++ after) :
    (ofText script = ofText spread ↔ arrow.expects = false) ∧
    (arrow.expects = true →
      ∃ (front back : List Char) (tests : List String) (early late : List NamedCheck) (dropped : Nat),
        ofText script = ⟨String.ofList (front ++ (arrow.code ++ ");".toList) ++ back), tests,
          early ++ arrow.check ");" :: late, dropped⟩ ∧
        ofText spread = ⟨String.ofList (front ++ (arrow.code ++ ";".toList) ++ back), tests,
          early ++ arrow.check ";" :: late, dropped⟩) := by
  have told := arrowTold (Reading.oneLineReading arrow) one
  have told' := arrowTold (Reading.blockReading arrow) three
  have differ : arrow.check ");" ≠ arrow.check ";" := by
    intro same
    have codes := Check.expression.inj (congrArg NamedCheck.check same)
    exact absurd (List.append_cancel_left (String.ofList_injective codes)) (by decide)
  constructor
  · constructor
    · intro same
      refine Bool.eq_false_iff.2 fun expected => differ ?_
      have checks := congrArg TestScript.checks same
      rw [expectationTold expected told, expectationTold expected told'] at checks
      exact (List.cons.inj (List.append_cancel_left checks)).1
    · intro unexpected
      rw [ofTextReading, ofTextReading, told, told', arrowUnexpected unexpected]
  · intro expected
    exact ⟨_, _, _, _, _, _, expectationTold expected told, expectationTold expected told'⟩

def equalArrow : Arrow where
  name := ['x']
  value := "pm.expect(a).to.equal(1)".toList
  named := by decide
  unquoted := by decide
  balanced := by
    have expected : Balanced "(1)".toList :=
      @Balanced.group '(' ')' ['1'] [] (by decide) (.plain rfl .nil) .nil
    have method : Balanced ".to.equal(1)".toList :=
      @balancedPlain ".to.equal".toList _ (List.all_eq_true.1 rfl) expected
    have argument : Balanced "(a).to.equal(1)".toList :=
      @Balanced.group '(' ')' ['a'] _ (by decide) (.plain rfl .nil) method
    exact @balancedPlain "pm.expect".toList _ (List.all_eq_true.1 rfl) argument
  braceless := by decide
  unended := by decide
  alone := by decide

theorem comparisonToldApart :
    equalArrow.expects = true ∧
      ofText "// a\npm.test(\"x\", () => pm.expect(a).to.equal(1));\n" ≠
        ofText "// a\npm.test(\"x\", () => \x7b\npm.expect(a).to.equal(1);\n\x7d);\n" := by
  have expected : equalArrow.expects = true := by decide
  have told := (@arrowAgainstBlock equalArrow ["// a".toList] [[]]
    "// a\npm.test(\"x\", () => pm.expect(a).to.equal(1));\n"
    "// a\npm.test(\"x\", () => \x7b\npm.expect(a).to.equal(1);\n\x7d);\n"
    (by decide) (by decide)).1
  refine ⟨expected, fun same => ?_⟩
  rw [told.1 same] at expected
  contradiction

theorem oneLineKeepsParenthesis :
    (ofText "pm.test(\"x\", () => pm.expect(a).to.equal(1));").checks =
        [⟨"x", .expression "expect(a).toBe(1));"⟩] ∧
      (ofText "pm.test(\"x\", () => \x7b\npm.expect(a).to.equal(1);\n\x7d);").checks =
        [⟨"x", .expression "expect(a).toBe(1);"⟩] := by
  decide +kernel

end TestScript

end RequestSuite.Script
