import RequestSuite.Proofs.Suite.FormFields
import RequestSuite.Proofs.Template.PlanReferences
import RequestSuite.Proofs.Template.PrintedValues
import RequestSuite.Proofs.Text.Entities

/-! JSON bodies in a load-test plan. On its way into the plan the text of a body is searched for holes
and escaped. It has no hole that its strings and keys do not have, and the references of the document
give its characters back, so that what a reader of the plan gets is the same value. -/
namespace RequestSuite.Suite
open Text Json Template

theorem rawStructured {store : Variable.Store} {raw : String} {value : Value}
    (kept : Request.rawBody store raw = some (.structured value)) :
    Value.ofText? (store.substitute raw) = some value := by
  unfold Request.rawBody at kept
  split at kept
  · contradiction
  · dsimp only at kept
    split at kept
    · rename_i read
      rw [read]
      exact congrArg some (Request.Body.structured.inj (Option.some.inj kept))
    · exact absurd (Option.some.inj kept) nofun

theorem structuredSource {store : Variable.Store} {source : Collection.Body} {value : Value}
    (kept : Request.body store source = some (.structured value)) :
    ∃ raw, source.raw = some raw ∧ Value.ofText? (store.substitute raw) = some value := by
  have read : source.raw.bind (Request.rawBody store) = some (.structured value) →
      ∃ raw, source.raw = some raw ∧ Value.ofText? (store.substitute raw) = some value := by
    intro found
    obtain ⟨raw, given, made⟩ := Option.bind_eq_some_iff.1 found
    exact ⟨raw, given, rawStructured made⟩
  unfold Request.body at kept
  split at kept
  · exact read kept
  split at kept
  · exact read kept
  split at kept
  · unfold Request.formBody at kept
    split at kept
    · contradiction
    · exact absurd (Option.some.inj kept) nofun
  · contradiction

theorem resolvedStructured {store : Variable.Store} {spec : Collection.Request}
    {request : Request.Resolved} {value : Value}
    (resolved : Request.resolve store spec = .ok request)
    (body : request.body = some (.structured value)) :
    ∃ text, Value.ofText? text = some value := by
  obtain ⟨address, -, parts⟩ := Request.resolvedParts resolved
  have known : spec.body.bind (Request.body store) = some (.structured value) := by
    rw [← body, parts]
  obtain ⟨source, -, kept⟩ := Option.bind_eq_some_iff.1 known
  obtain ⟨raw, -, read⟩ := structuredSource kept
  exact ⟨_, read⟩

theorem printedValue {value : Value} (readable : value.IsReadable Value.maxLevels) :
    Value.ofText? value.pretty = some value := by
  have back := Value.printedBack value.isLexical readable 0 (List.forall_mem_nil _)
  rwa [List.append_nil] at back

theorem unopenedStays {text : String} (absent : contains opening text.toList = false) :
    PlanReference.substitute text = text := by
  have passed := passOver PlanReference.holeOpens absent (apartNothing opening _)
    PlanReference.refer
  have nothing : replaceHits PlanReference.hole PlanReference.refer [] = [] := by
    simp [replaceHits, scanNil]
  rw [List.append_nil, nothing, List.append_nil] at passed
  rw [PlanReference.substitute, passed, String.ofList_toList]

theorem structuredArgument {store : Variable.Store} {spec : Collection.Request}
    {request : Request.Resolved} {value : Value}
    (resolved : Request.resolve store spec = .ok request)
    (body : request.body = some (.structured value))
    (fits : value.every Value.isInteger opensNone = true) :
    contains opening value.pretty.toList = false ∧
      PlanReference.substitute value.pretty = value.pretty ∧
      ∀ artifacts : Artifacts, artifacts.request = request →
        ∃ text, LoadPlan.readArguments (readTags (LoadPlan.render artifacts).toList) =
            [[[], text, ['=']]] ∧
          Markup.decode text = some value.pretty.toList ∧
          Value.ofText? value.pretty = some value := by
  have absent : contains opening value.pretty.toList = false := by
    rw [Value.pretty, String.toList_ofList]
    exact (prettyUnopened fits 0).absent
  have stays := unopenedStays absent
  refine ⟨absent, stays, ?_⟩
  rintro artifacts rfl
  obtain ⟨source, read⟩ := resolvedStructured resolved body
  have back := printedValue (Value.textReadable read fits)
  refine ⟨Markup.encode value.pretty.toList, ?_, Markup.decodeEncode _, back⟩
  have argument : LoadPlan.argumentTexts ("", value.pretty) =
      [[], Markup.encode value.pretty.toList, ['=']] := by
    rw [LoadPlan.argumentTexts, LoadPlan.refer, stays]
    rfl
  rw [LoadPlan.renderArguments, body, ← argument]
  rfl

def nestedValue : Value :=
  .object [("a", .object []),
    ("\x7b", .array [.object [("<", .string "\"&\n\x7b")], .number (.integer (-1) (by decide))])]

def nestedBody : Collection.Request where
  method := "POST"
  url := some (.text "http://a/")
  headers := []
  body := some ⟨none, some nestedValue.pretty, []⟩

def nestedRequest : Request.Resolved := ⟨"POST", "http://a/", [], some (.structured nestedValue)⟩

def nestedArtifacts : Artifacts := ⟨"made", nestedRequest, "", ⟨0, .empty⟩, .empty⟩

theorem nestedArgument :
    Request.resolve .empty nestedBody = .ok nestedRequest ∧
      nestedValue.every Value.isInteger opensNone = true ∧
      PlanReference.substitute nestedValue.pretty = nestedValue.pretty ∧
      ∃ text, LoadPlan.readArguments (readTags (LoadPlan.render nestedArtifacts).toList) =
          [[[], text, ['=']]] ∧
        Markup.decode text = some nestedValue.pretty.toList ∧
        Value.ofText? nestedValue.pretty = some nestedValue := by
  have fits : nestedValue.every Value.isInteger opensNone = true := by decide
  have filled : Variable.Store.empty.substitute nestedValue.pretty = nestedValue.pretty := by
    decide +kernel
  have printed : allBlank nestedValue.pretty.toList = false := by decide +kernel
  have readable : nestedValue.IsReadable Value.maxLevels := by
    have names : ["a", "\x7b"].Nodup := by decide
    have single : ["<"].Nodup := List.pairwise_singleton _ _
    exact ⟨names, ⟨List.nodup_nil, trivial⟩,
      ⟨⟨single, trivial, trivial⟩, Value.integerReturns rfl, trivial⟩, trivial⟩
  have kept : Request.rawBody .empty nestedValue.pretty = some (.structured nestedValue) := by
    rw [Request.rawBody, printed]
    simp only [filled, printedValue readable]
    rfl
  have resolved : Request.resolve .empty nestedBody = .ok nestedRequest := by
    have parts : Request.resolve .empty nestedBody =
        .ok ⟨"POST", "http://a/", [], Request.rawBody .empty nestedValue.pretty⟩ := by rfl
    rw [parts, kept]
    rfl
  obtain ⟨-, stays, argument⟩ := structuredArgument resolved rfl fits
  exact ⟨resolved, fits, stays, argument nestedArtifacts rfl⟩

end RequestSuite.Suite
