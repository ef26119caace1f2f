import RequestSuite.Proofs.Text.Literals
import RequestSuite.Suite.SpecFile

/-! The two literals of a browser-test file that hold texts of the collection: the name of the test
and the address of the request. Whatever these texts are, a reader of the file gets them back, and
goes on with what is written behind the literal. -/
namespace RequestSuite.Suite.SpecFile
open Text Quoted

def heading (depth : Nat) : List Char :=
  "import \x7b test, expect \x7d from '@playwright/test';\n".toList ++
    "import \x7b variables \x7d from '".toList ++ rootFrom depth ++ "/variables.js';\n\n".toList ++
    "test('".toList

def prologue (artifacts : Artifacts) : List Char :=
  ", async (\x7b request \x7d) => \x7b\n".toList ++ preludeText artifacts ++
    "  const startTime = Date.now();\n\n".toList ++ "  const response = await ".toList ++
    "request.".toList ++ (callName artifacts.request.method).toList ++ "('".toList

def optionsText (request : Request.Resolved) : List Char :=
  match options request with
  | [] => [')']
  | members => ", ".toList ++ indentRest ((Json.Value.object members).prettyChars 0) ++ [')']

def epilogue (artifacts : Artifacts) : List Char :=
  optionsText artifacts.request ++ ";\n".toList ++
    "  const responseTime = Date.now() - startTime;\n".toList ++
    "  const pwResponse = await response.json().catch(() => null);\n".toList ++
    testsText artifacts.tests.script ++ "\x7d);\n".toList

theorem callLiteral (request : Request.Resolved) :
    call request = "request.".toList ++ (callName request.method).toList ++ "('".toList ++
      (encode request.url.toList ++ '\x27' :: optionsText request) := by
  unfold call optionsText
  cases options request with
  | nil => simp
  | cons member rest => simp

theorem renderLiterals (depth : Nat) (artifacts : Artifacts) :
    renderChars depth artifacts =
      heading depth ++ (encode artifacts.name.toList ++ '\x27' ::
        (prologue artifacts ++ (encode artifacts.request.url.toList ++ '\x27' ::
          epilogue artifacts))) := by
  have closing : "', async (\x7b request \x7d) => \x7b\n".toList =
      '\x27' :: ", async (\x7b request \x7d) => \x7b\n".toList := by decide
  delta renderChars heading prologue epilogue
  rw [callLiteral, closing]
  simp only [List.append_assoc, List.cons_append]

theorem literalsSurvive :
    (∀ text rest, literal? (encode text ++ '\x27' :: rest) = some (text, rest)) ∧
      (∀ text, holdsQuote (encode text) = false ∧ (encode text).all (!isControl ·) = true) ∧
      ∀ depth artifacts, ∃ named called,
        (render depth artifacts).toList = heading depth ++ named ∧
          literal? named = some (artifacts.name.toList, prologue artifacts ++ called) ∧
          literal? called = some (artifacts.request.url.toList, epilogue artifacts) := by
  refine ⟨literalBack, fun text => ⟨quotesEscaped text, encodePrinted text⟩, ?_⟩
  intro depth artifacts
  have whole : (render depth artifacts).toList = renderChars depth artifacts :=
    String.toList_ofList
  rw [whole, renderLiterals]
  exact ⟨_, _, rfl, literalBack _ _, literalBack _ _⟩

end RequestSuite.Suite.SpecFile
