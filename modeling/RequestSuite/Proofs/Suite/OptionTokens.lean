import RequestSuite.Proofs.Json.Spacing
import RequestSuite.Proofs.Suite.FormFields

/-! The tokens of the options in the call that sends a request. Moving the lines of the options in
touches no string, because no line break stands in one: a break in a header or in a body is written
as an escape, and the lines that are moved are the printer's own. -/
namespace RequestSuite.Suite
open Text Json

theorem optionsKeepTokens {request : Request.Resolved} (filled : SpecFile.options request ≠ []) :
    let object := Value.object (SpecFile.options request)
    let tokens := object.toTree.tokens
    let literal := SpecFile.indentRest (object.prettyChars 0)
    SpecFile.call request = SpecFile.opening request ++ literal ++ [')'] ∧
      (∀ artifacts : Artifacts, artifacts.request = request → ∀ depth, ∃ before after,
        (SpecFile.render depth artifacts).toList =
          before ++ (SpecFile.opening request ++ literal ++ [')']) ++ after) ∧
      tokens? literal = some tokens ∧ tokens? object.compactChars = some tokens ∧
      object.compactChars = tokens.flatMap Token.chars ∧
      Spaced (isSpace · = true) tokens literal ∧ literal.getLast? = some '}' ∧
      ∀ raw, .string raw ∈ tokens → ∃ text, Token.chars (.string raw) = quote text := by
  intro object tokens literal
  have lexical : object.IsLexical := Value.isLexical object
  have moved : literal = object.prettyChars 1 := SpecFile.indentObject lexical 0
  have called : SpecFile.call request = SpecFile.opening request ++ literal ++ [')'] := by
    rw [moved]
    exact SpecFile.callOptions filled lexical
  obtain ⟨compact, tight⟩ := object.compactTokens
  refine ⟨called, ?_, ?_, compact, tight, ?_, ?_, fun raw member => object.stringsQuoted member⟩
  · rintro artifacts rfl depth
    rw [← called]
    exact SpecFile.callWithin depth artifacts
  · rw [moved]
    exact object.prettyTokens 1
  · rw [moved]
    exact Value.objectSpaced (SpecFile.options request) 1
  · rw [moved]
    exact SpecFile.objectLast 1 (SpecFile.options request)

def brokenRequest : Request.Resolved :=
  ⟨"OPTIONS", "http://a/", [("x\n  \"id\"", "1\r\n  2")], some (.text "\x7b\r\n    \"a\": 1\n\x7d\r\n")⟩

theorem brokenKeepsTokens :
    SpecFile.options brokenRequest ≠ [] ∧
      SpecFile.call brokenRequest =
        "request.fetch('http://a/', \x7b\n    \"headers\": \x7b\n      ".toList ++
          "\"x\\n  \\\"id\\\"\": \"1\\r\\n  2\"\n    \x7d,\n    ".toList ++
          "\"data\": \"\x7b\\r\\n    \\\"a\\\": 1\\n\x7d\\r\\n\",\n    ".toList ++
          "\"method\": \"OPTIONS\"\n  \x7d)".toList ∧
      ∃ tokens, tokens? (SpecFile.indentRest
          ((Value.object (SpecFile.options brokenRequest)).prettyChars 0)) = some tokens ∧
        tokens? (Value.object (SpecFile.options brokenRequest)).compactChars = some tokens ∧
        .string "1\\r\\n  2".toList ∈ tokens := by
  have filled : SpecFile.options brokenRequest ≠ [] := by
    rw [SpecFile.options]
    exact List.append_ne_nil_of_right_ne_nil _ (by decide)
  obtain ⟨-, -, literal, compact, -⟩ := optionsKeepTokens filled
  refine ⟨filled, ?_, _, literal, compact, ?_⟩
  · decide +kernel
  · decide +kernel

end RequestSuite.Suite
