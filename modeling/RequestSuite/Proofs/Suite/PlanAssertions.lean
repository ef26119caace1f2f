import RequestSuite.Proofs.Script.CodeLines
import RequestSuite.Proofs.Text.Tags
import RequestSuite.Suite.LoadPlan

/-! The assertions of a printed plan, found again in its text. The reader takes every tag that
begins an assertion, wherever it stands, with the values written up to its end, so what it finds is
all that the plan asserts. -/
namespace RequestSuite.Suite.LoadPlan
open Text Script Markup

def assertionNames : List String := ["ResponseAssertion", "DurationAssertion"]

def valuesOf (tags : List Tag) : List (List Char) :=
  (tags.filter fun tag => tag.element = "stringProp").map Tag.after

def readAssertions : List Tag → List (String × List (List Char))
  | [] => []
  | tag :: rest =>
    if tag.element ∈ assertionNames then
      (tag.element, valuesOf (rest.takeWhile fun next => ¬ next.Ends tag.element)) ::
        readAssertions rest
    else readAssertions rest

def asserted : Check → Option (String × List (List Char))
  | .status code => some ("ResponseAssertion",
      [(toString code).toList, [], "Assertion.response_code".toList])
  | .timeBelow milliseconds => some ("DurationAssertion", [(toString milliseconds).toList])
  | .expression _ => none

def Holds (elements : List Markup) (found : List (String × List (List Char))) : Prop :=
  ∀ level gap rest,
    readAssertions (tagsAll level gap elements ++ rest) = found ++ readAssertions rest

theorem assertionSkips : Typical (avoids assertionNames) fun tag =>
    ∀ rest, readAssertions (tag :: rest) = readAssertions rest := by
  have typical := typicalAvoids assertionNames (by decide)
  have skips : ∀ {tag : Tag}, tag.Avoids assertionNames →
      ∀ rest, readAssertions (tag :: rest) = readAssertions rest := by
    intro tag other rest
    rw [readAssertions, if_neg other.1]
  exact ⟨fun name attributes after fits => skips (typical.start name attributes after fits),
    fun name attributes after fits => skips (typical.ending name attributes after fits),
    fun name attributes after fits => skips (typical.single name attributes after fits)⟩

theorem holdsNothing {elements : List Markup}
    (other : everyOf (avoids assertionNames) elements = true) : Holds elements [] :=
  findsNothing assertionSkips other

theorem holdsAppend {before after : List Markup} {first later : List (String × List (List Char))}
    (holdsBefore : Holds before first) (holdsAfter : Holds after later) :
    Holds (before ++ after) (first ++ later) := findsAppend holdsBefore holdsAfter

theorem holdsTree {children : List Markup} {found : List (String × List (List Char))}
    (below : Holds children found) : Holds [.branch "hashTree" [] children] found :=
  findsBranch assertionSkips rfl below

/- The values of an assertion are those of its children, since the first tag that ends an element
of its name is its own. -/
theorem holdsAssertion {name : String} {attributes : List (String × String)}
    {children : List Markup} {values : List (List Char)}
    (plain : isStart name attributes = true) (wanted : name ∈ assertionNames)
    (other : everyOf (avoids assertionNames) children = true)
    (inside : ∀ level gap, valuesOf (tagsAll level gap children) = values) :
    Holds [.branch name attributes children] [(name, values)] := by
  intro level gap rest
  have inner := tagsAllTypical (typicalAvoids assertionNames (by decide)) children (level + 1)
    (indent level) other
  have skipped := tagsAllTypical assertionSkips children (level + 1) (indent level) other
  have body : valuesOf ((tagsAll (level + 1) (indent level) children ++
      (⟨'/' :: name.toList, '\n' :: gap⟩ :: rest)).takeWhile fun next => ¬ next.Ends name) =
      values := by
    rw [takeInside fun tag member => (inner tag member).2 name wanted]
    exact inside _ _
  have later : readAssertions (⟨'/' :: name.toList, '\n' :: gap⟩ :: rest) =
      readAssertions rest := by
    rw [readAssertions, endElement, if_neg (by decide)]
  rw [tagsBranch, readAssertions, startName plain, if_pos wanted, body, readPasses skipped, later]
  rfl

theorem valuesAppend (before after : List Tag) :
    valuesOf (before ++ after) = valuesOf before ++ valuesOf after := by
  rw [valuesOf, List.filter_append, List.map_append]
  rfl

theorem valuesLeaf {name : String} {attributes : List (String × String)}
    (plain : isStart name attributes = true) (text : String) (level : Nat) (gap : List Char) :
    valuesOf ((Markup.leaf name attributes text).tags level gap) =
      if name = "stringProp" then [encode text.toList] else [] := by
  have element := startName plain (encode text.toList)
  have ending : ("" = "stringProp") = False := eq_false (by decide)
  simp only [tags, valuesOf, List.filter_cons, List.filter_nil, element, endElement, ending,
    decide_eq_true_eq, if_false]
  split <;> rfl

theorem valuesBranch {name : String} {attributes : List (String × String)}
    (plain : isStart name attributes = true) (other : name ≠ "stringProp")
    (children : List Markup) (level : Nat) (gap : List Char) :
    valuesOf ((Markup.branch name attributes children).tags level gap) =
      valuesOf (tagsAll (level + 1) (indent level) children) := by
  have element := startName plain ('\n' :: gapBefore (level + 1) (indent level) children)
  simp [tags, valuesOf, element, endElement, other]

theorem valuesTextProp (name value : String) (level : Nat) (gap : List Char) :
    valuesOf ((textProp name value).tags level gap) = [encode value.toList] :=
  (valuesLeaf rfl value level gap).trans (if_pos rfl)

theorem valuesBoolProp (name : String) (value : Bool) (level : Nat) (gap : List Char) :
    valuesOf ((boolProp name value).tags level gap) = [] :=
  (valuesLeaf rfl _ level gap).trans (if_neg (by decide))

theorem valuesNumberProp (name value : String) (level : Nat) (gap : List Char) :
    valuesOf ((numberProp name value).tags level gap) = [] :=
  (valuesLeaf rfl value level gap).trans (if_neg (by decide))

theorem encodeCode (code : Nat) : encode (codeText code).toList = (toString code).toList := by
  have digits : (codeText code).toList = (toString code).toList := by
    rw [codeText, ofNat, Nat.toString_eq_ofList_toDigits]
  rw [digits]
  apply encodeLetters
  intro c member
  rw [Nat.toString_eq_ofList_toDigits, String.toList_ofList] at member
  have digit := Nat.isDigit_of_mem_toDigits (by decide) (by decide) member
  rw [Char.isAlphanum, digit, Bool.or_true]

theorem holdsResponse (test : String) (code : Nat) :
    Holds [responseAssertion test code]
      [("ResponseAssertion", [(toString code).toList, [], "Assertion.response_code".toList])] := by
  refine holdsAssertion rfl (by decide) rfl ?_
  intro level gap
  have field : encode "Assertion.response_code".toList = "Assertion.response_code".toList := by
    decide
  have message : encode "".toList = [] := rfl
  have plain : isStart "collectionProp" [("name", "Asserion.test_strings")] = true := rfl
  simp only [tagsAll, valuesAppend, valuesBranch plain (by decide), valuesTextProp,
    valuesBoolProp, valuesNumberProp, encodeCode, field, message]
  rfl

theorem holdsDuration (test : String) (milliseconds : Nat) :
    Holds [durationAssertion test milliseconds]
      [("DurationAssertion", [(toString milliseconds).toList])] := by
  refine holdsAssertion rfl (by decide) rfl ?_
  intro level gap
  simp only [tagsAll, valuesAppend, valuesTextProp, encodeCode]
  rfl

theorem holdsAsserted (check : NamedCheck) :
    Holds (assertion check) (asserted check.check).toList := by
  have divider : Holds [emptyTree] [] := holdsNothing rfl
  obtain ⟨test, kind⟩ := check
  cases kind with
  | status code => exact holdsAppend (holdsResponse test code) divider
  | timeBelow milliseconds => exact holdsAppend (holdsDuration test milliseconds) divider
  | expression code => exact holdsNothing rfl

theorem holdsChecks (checks : List NamedCheck) :
    Holds (checks.flatMap assertion) (checks.filterMap fun check => asserted check.check) := by
  induction checks with
  | nil => exact holdsNothing rfl
  | cons check rest ih =>
    have all := holdsAppend (holdsAsserted check) ih
    rw [List.flatMap_cons, List.filterMap_cons]
    cases found : asserted check.check with
    | none => rwa [found] at all
    | some value => rwa [found] at all

theorem lacksArguments (name guiClass : String) {arguments : List Markup}
    (other : everyOf (avoids assertionNames) arguments = true) :
    (argumentsProp name guiClass arguments).every (avoids assertionNames) = true := by
  have listed :
      (collection "Arguments.arguments" arguments).every (avoids assertionNames) = true := by
    cases arguments with
    | nil => rfl
    | cons first rest => exact other
  rw [argumentsProp, every, everyOf, listed]
  rfl

theorem lacksPlan (artifacts : Artifacts) :
    (planElement artifacts).every (avoids assertionNames) = true := by
  have entries : everyOf (avoids assertionNames)
      (artifacts.runtime.entries.map variableProp) = true := everyOfMap (fun _ => rfl) _
  rw [planElement, every, everyOf, lacksArguments _ _ entries]
  rfl

theorem lacksHeaders (request : Request.Resolved) :
    everyOf (avoids assertionNames) (headerManager request) = true := by
  have headers : everyOf (avoids assertionNames) (request.headers.map headerProp) = true :=
    everyOfMap (fun _ => rfl) _
  unfold headerManager
  split
  · rfl
  · simp only [everyOf, every, headers]
    rfl

theorem lacksSampler (artifacts : Artifacts) :
    (sampler artifacts).every (avoids assertionNames) = true := by
  have fields : everyOf (avoids assertionNames)
      ((bodyArguments artifacts.request.body).map argumentProp) = true :=
    everyOfMap (fun _ => rfl) _
  have arguments := lacksArguments "HTTPsampler.Arguments" "HTTPArgumentsPanel" fields
  simp only [sampler, every, everyOf, arguments]
  rfl

theorem lacksCollector : resultCollector.every (avoids assertionNames) = true := by decide

theorem startAssertions (checks : List NamedCheck) :
    everyOf isStart (checks.flatMap assertion) = true := by
  apply everyOfFlatMap
  intro ⟨test, check⟩
  cases check <;> rfl

theorem startRoot (artifacts : Artifacts) : (root artifacts).every isStart = true := by
  have weaker : ∀ name attributes, avoids assertionNames name attributes = true →
      isStart name attributes = true :=
    fun _ _ fits => (Bool.and_eq_true_iff.1 fits).1
  have plan := everyWeaker weaker _ (lacksPlan artifacts)
  have headers := everyOfWeaker weaker _ (lacksHeaders artifacts.request)
  have sampled := everyWeaker weaker _ (lacksSampler artifacts)
  have collector := everyWeaker weaker _ lacksCollector
  simp only [root, every, everyOf, everyOfAppend, plan, headers, sampled, collector,
    startAssertions]
  rfl

theorem holdsRoot (artifacts : Artifacts) :
    Holds [root artifacts]
      (artifacts.tests.script.checks.filterMap fun check => asserted check.check) := by
  have asserts := holdsTree (holdsChecks artifacts.tests.script.checks)
  have collector : Holds [resultCollector, emptyTree] [] :=
    holdsNothing (by rw [everyOf, lacksCollector]; rfl)
  have sampled : Holds [sampler artifacts] [] :=
    holdsNothing (by rw [everyOf, lacksSampler]; rfl)
  have inner := holdsAppend (holdsNothing (lacksHeaders artifacts.request))
    (holdsAppend sampled (holdsAppend asserts collector))
  have group : Holds [planElement artifacts] [] :=
    holdsNothing (by rw [everyOf, lacksPlan]; rfl)
  have threads : Holds [threadGroup] [] := holdsNothing rfl
  have tree := holdsTree (holdsAppend group (holdsTree (holdsAppend threads (holdsTree inner))))
  have whole : Holds [root artifacts] _ := findsBranch assertionSkips rfl tree
  rwa [List.nil_append, List.nil_append, List.nil_append, List.nil_append, List.append_nil] at whole

theorem renderAsserts (artifacts : Artifacts) :
    readAssertions (readTags (render artifacts).toList) =
      artifacts.tests.script.checks.filterMap fun check => asserted check.check := by
  have whole := holdsRoot artifacts 0 [] []
  rw [tagsAll, tagsAll, List.append_nil, List.append_nil, readAssertions, List.append_nil] at whole
  rw [render, readDocument (startRoot artifacts), readAssertions, if_neg (by decide)]
  exact whole

theorem codeAndPlanAgree (script : String) :
    ∃ events : List TestScript.Event,
      (TestScript.ofText script).tests = events.filterMap TestScript.Event.name? ∧
      (TestScript.ofText script).checks.map NamedCheck.check =
        events.filterMap TestScript.Event.check? ∧
      (∀ before check after, events = before ++ .check check :: after →
        ∃ name, (before.filterMap TestScript.Event.marker?).getLast? = some name ∧
          (TestScript.ofText script).checks[
            (before.filterMap TestScript.Event.check?).length]? = some ⟨name.getD "", check⟩) ∧
      (TestScript.ofText script).code =
        String.ofList (TestScript.header ++ events.flatMap TestScript.Event.text) ∧
      (∀ event ∈ events, event.Unbroken) ∧
      ∀ artifacts : Artifacts, artifacts.tests.script = TestScript.ofText script →
        readAssertions (readTags (render artifacts).toList) =
          (events.filterMap TestScript.Event.check?).filterMap asserted := by
  have means := TestScript.ofTextReading script
  have checks : (TestScript.ofText script).checks.map NamedCheck.check =
      (TestScript.Reading.ofText script).events.filterMap TestScript.Event.check? := by
    rw [means]
    exact TestScript.namedChecks "" _
  refine ⟨(TestScript.Reading.ofText script).events, by rw [means], checks, ?_, by rw [means],
    TestScript.Reading.ofTextUnbroken script, ?_⟩
  · intro before check after cut
    have opened : TestScript.Opened (TestScript.Reading.ofText script).events :=
      TestScript.Reading.ofLinesOpened (lines script.toList)
    rw [cut] at opened
    rw [means, cut]
    exact TestScript.namedAt opened ""
  · intro artifacts same
    rw [renderAsserts, same, ← checks, List.filterMap_map]
    rfl

theorem planAssertsCreated :
    ∃ artifacts : Artifacts,
      artifacts.tests.script =
        .ofText "pm.test(\"made\", () => \x7b\n  pm.response.to.have.status(201);\n\x7d);" ∧
      readAssertions (readTags (render artifacts).toList) =
        [("ResponseAssertion",
          ["201".toList, [], "Assertion.response_code".toList])] := by
  let script := "pm.test(\"made\", () => \x7b\n  pm.response.to.have.status(201);\n\x7d);"
  obtain ⟨events, -, checks, -, -, -, plan⟩ := codeAndPlanAgree script
  refine ⟨⟨"made", ⟨"POST", "http://a/", [], none⟩, "", ⟨0, .ofText script⟩, .empty⟩, rfl, ?_⟩
  rw [plan _ rfl, ← checks]
  decide

end RequestSuite.Suite.LoadPlan
