import RequestSuite.Proofs.Script.Markers
import RequestSuite.Proofs.Script.PaddedLines
import RequestSuite.Proofs.Script.Reading

/-! A block with braces on one line, and the same block over three lines. The line that opens it is
read in two ways, up to the end of the block or up to the end of the line, and either way the same
text is looked at with nothing but white space around it. -/
namespace RequestSuite.Script
open Text

def callbacks : List (List Char) :=
  ["function ()".toList, "async function ()".toList, "() =>".toList, "async () =>".toList]

structure Braced where
  name : List Char
  callback : List Char
  body : List Char
  named : name ≠ []
  unquoted : '"' ∉ name
  known : callback ∈ callbacks
  stays : contains TestMarker.blockEnd body = false
  alone : contains TestMarker.call body = false

namespace Braced

def opening (test : Braced) : List Char :=
  "pm.test(\"".toList ++ test.name ++ "\", ".toList ++ test.callback ++ " \x7b".toList

def oneLine (test : Braced) : List Char :=
  test.opening ++ " ".toList ++ test.body ++ " \x7d);".toList

def block (test : Braced) : List (List Char) := [test.opening, test.body, "\x7d);".toList]

theorem callbackBrace (test : Braced) (name : Option String) (rest : List Char) :
    TestMarker.ofCallback name (", ".toList ++ test.callback ++ ' ' :: '{' :: rest) =
      TestMarker.afterBrace name rest := by
  have begun : '{' ∉ ", ".toList ++ test.callback ++ [' '] ∧
      TestMarker.expressionBody (", ".toList ++ test.callback ++ ' ' :: '{' :: rest) = none := by
    have known := test.known
    simp only [callbacks, List.mem_cons, List.not_mem_nil, or_false] at known
    rcases known with same | same | same | same <;> rw [same]
    · exact ⟨by decide, @TestMarker.expressionNone ", function () ".toList (by decide) rest⟩
    · exact ⟨by decide, @TestMarker.expressionNone ", async function () ".toList (by decide) rest⟩
    · exact ⟨by decide, rfl⟩
    · exact ⟨by decide, rfl⟩
  have brace := TestMarker.firstBrace begun.1 name rest
  rw [List.append_assoc, List.singleton_append] at brace
  rw [TestMarker.ofCallback, begun.2]
  exact brace

theorem openingMarker (test : Braced) (rest : List Char) :
    TestMarker.ofLine? (test.opening ++ rest) =
      some (TestMarker.afterBrace (some (String.ofList test.name)) rest) := by
  have parts : test.opening ++ rest = TestMarker.call ++
      '"' :: (test.name ++ '"' :: (", ".toList ++ test.callback ++ ' ' :: '{' :: rest)) := by
    have call : "pm.test(\"".toList = TestMarker.call ++ ['"'] := by decide
    have comma : "\", ".toList = '"' :: ", ".toList := by decide
    have brace : " \x7b".toList = [' ', '{'] := by decide
    unfold opening
    rw [call, comma, brace]
    generalize TestMarker.call = call, ", ".toList = comma
    simp
  rw [parts, TestMarker.namedMarker test.named test.unquoted, callbackBrace]

/- The block on one line ends where its last brace stands, as no other one ends it. -/
theorem bodyCut (test : Braced) :
    splitOnce TestMarker.blockEnd (' ' :: test.body ++ " \x7d);".toList) =
      some (' ' :: test.body ++ [' '], []) := by
  have spaced : ∀ text, contains TestMarker.blockEnd (text ++ [' ']) =
      contains TestMarker.blockEnd text := by
    intro text
    have absent : ' ' ∉ TestMarker.blockEnd := by decide
    have other : ∀ c ∈ [' '], c ∉ TestMarker.blockEnd := List.forall_mem_singleton.2 absent
    rw [containsApart (by decide) (apartOther other text)]
    exact Bool.or_false _
  have absent : contains TestMarker.blockEnd (' ' :: test.body ++ [' ']) = false := by
    rw [spaced, containsCons]
    exact test.stays
  have brace : '}' ∉ TestMarker.blockEnd.tail := by decide
  have cut := splitOnceApart absent (apartAt brace (' ' :: test.body ++ [' ']) [')', ';'])
  have here : splitOnce TestMarker.blockEnd ('}' :: [')', ';']) = some ([], []) := rfl
  rw [here, List.append_assoc] at cut
  simpa using cut

theorem oneLineMarker (test : Braced) :
    TestMarker.ofLine? test.oneLine =
      some ⟨String.ofList test.name, ' ' :: test.body ++ [' '], true⟩ := by
  have parts : test.oneLine = test.opening ++ (' ' :: test.body ++ " \x7d);".toList) := by
    simp [oneLine]
  rw [parts, openingMarker, TestMarker.afterBrace, bodyCut]

theorem blockMarker (test : Braced) :
    TestMarker.ofLine? test.opening = some ⟨String.ofList test.name, [], false⟩ := by
  have marker := test.openingMarker []
  rwa [List.append_nil] at marker

end Braced

namespace TestScript

namespace Reading

theorem inBlockSurrounded {lead gap : List Char} (before : Blank lead) (after : Blank gap)
    (text : List Char) : inBlock (lead ++ text ++ gap) = inBlock text := by
  have blank : allBlank (lead ++ text ++ gap) = allBlank text := by
    unfold allBlank
    rw [List.all_append, List.all_append, List.all_eq_true.2 before, List.all_eq_true.2 after,
      Bool.true_and, Bool.and_true]
  rw [inBlock, Assertion.checkSurrounded before after, nothing, blank]
  rfl

theorem inBlockBlank {text : List Char} (blank : allBlank text = true) :
    inBlock text = silent true := by
  rw [inBlock, Assertion.checkBlank blank, nothing, blank]
  rfl

theorem inBlockInside (text : List Char) : (inBlock text).inside = true := by
  unfold inBlock
  cases Assertion.check? text <;> rfl

theorem oneLineBraced (test : Braced) (inside : Bool) :
    ofLines inside [test.oneLine] =
      ⟨.marker (some (String.ofList test.name)) :: (inBlock test.body).events,
        (inBlock test.body).dropped, false⟩ := by
  have blank : Blank [' '] := List.all_eq_true.1 rfl
  have read := inBlockSurrounded blank blank test.body
  rw [List.singleton_append] at read
  have body : (if allBlank (' ' :: test.body ++ [' ']) then silent true
      else inBlock (' ' :: test.body ++ [' '])) = inBlock test.body := by
    split
    · rename_i blank
      rw [← read, inBlockBlank blank]
    · exact read
  rw [ofLinesSingle, ofLineMarker test.oneLineMarker, ofMarker]
  simp only [body, followedBy, if_true, List.singleton_append, Nat.zero_add]

theorem blockBraced (test : Braced) (inside : Bool) :
    ofLines inside test.block =
      ⟨.marker (some (String.ofList test.name)) :: (inBlock test.body).events,
        (inBlock test.body).dropped, false⟩ := by
  have opened : ofLine inside test.opening =
      ⟨[.marker (some (String.ofList test.name))], 0, true⟩ := ofLineMarker test.blockMarker inside
  have stays : closesTest test.body = false := test.stays
  have body : ofLine true test.body = inBlock test.body := by
    rw [ofLine, TestMarker.unmarked test.alone, stays]
    rfl
  have last : ofLine true "\x7d);".toList = silent false := by decide
  simp only [Braced.block, ofLines, opened, body, inBlockInside, last]
  simp [followedBy, silent]

end Reading

theorem bracedAgainstBlock (test : Braced) {before after : List (List Char)}
    {script spread : String} (one : lines script.toList = before ++ [test.oneLine] ++ after)
    (three : lines spread.toList = before ++ test.block ++ after) :
    ofText script = ofText spread :=
  ofTextExchanged (fun inside =>
    (Reading.oneLineBraced test inside).trans (Reading.blockBraced test inside).symm) one three

def innerArrow : Braced where
  name := ['b']
  callback := "() =>".toList
  body := "f = () => \x7b\x7d; pm.response.to.have.status(9);".toList
  named := by decide
  unquoted := by decide
  known := by decide
  stays := by decide
  alone := by decide

theorem innerArrowExchanged :
    ofText ("pm.test(n, () => \x7b\npm.test(\"b\", () => \x7b " ++
        "f = () => \x7b\x7d; pm.response.to.have.status(9); \x7d);\nc") =
      ofText ("pm.test(n, () => \x7b\npm.test(\"b\", () => \x7b\n" ++
        "f = () => \x7b\x7d; pm.response.to.have.status(9);\n\x7d);\nc") :=
  @bracedAgainstBlock innerArrow ["pm.test(n, () => \x7b".toList] [['c']] _ _ (by decide +kernel)
    (by decide +kernel)

end TestScript

end RequestSuite.Script
