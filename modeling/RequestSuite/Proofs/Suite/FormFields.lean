import RequestSuite.Proofs.Json.Members
import RequestSuite.Proofs.Request.Headers
import RequestSuite.Proofs.Suite.CallOptions
import RequestSuite.Proofs.Suite.PlanArguments

/-! The fields of a form in both kinds of files. A plan has one argument for each field. A call has
an object of them, in which a name stands once: a name that is repeated keeps its first place and
its last value there, and all its other values are lost. -/
namespace RequestSuite.Suite
open Text Json Variable

theorem rawUnformed (store : Store) (raw : String) (fields : List (String × String)) :
    Request.rawBody store raw ≠ some (.form fields) := by
  unfold Request.rawBody
  split
  · exact nofun
  · dsimp only
    split <;> simp

theorem formSource {store : Store} {source : Collection.Body} {fields : List (String × String)}
    (form : Request.body store source = some (.form fields)) :
    fields = (source.urlencoded.filter Collection.Entry.isActive).map
      fun entry => (entry.key, store.substitute entry.text) := by
  have unformed : source.raw.bind (Request.rawBody store) ≠ some (.form fields) := by
    intro raw
    obtain ⟨text, -, formed⟩ := Option.bind_eq_some_iff.1 raw
    exact rawUnformed store text fields formed
  unfold Request.body at form
  split at form
  · exact absurd form unformed
  split at form
  · exact absurd form unformed
  split at form
  · unfold Request.formBody at form
    split at form
    · contradiction
    · exact (Request.Body.form.inj (Option.some.inj form)).symm
  · contradiction

namespace SpecFile

theorem textsLast (pairs : List (String × String)) :
    texts pairs = .object ((Value.lastTexts pairs).map Value.textMember) :=
  congrArg Value.object (Value.collectTexts pairs)

theorem textsBack (pairs : List (String × String)) (levels : Nat) :
    (texts pairs).IsLexical ∧ (texts pairs).IsReadable (levels + 1) := by
  obtain ⟨lexical, readable⟩ := Value.textsReadable levels (Value.lastTexts pairs)
  have distinct := Value.lastTextsNodup pairs
  rw [← Value.textMemberNames] at distinct
  rw [textsLast]
  exact ⟨lexical, distinct, readable⟩

theorem formOptions {request : Request.Resolved} {fields : List (String × String)}
    (form : request.body = some (.form fields)) :
    options request = headerOption request ++ ("form", texts fields) :: methodOption request.method := by
  rw [options, form, List.append_assoc]
  rfl

theorem formReadable {request : Request.Resolved} {fields : List (String × String)}
    (form : request.body = some (.form fields)) :
    (Value.object (options request)).IsLexical ∧
      (Value.object (options request)).IsReadable Value.maxLevels := by
  obtain ⟨lexical, readable⟩ := textsBack fields 125
  obtain ⟨lexical', readable'⟩ := textsBack request.headers 125
  rw [formOptions form]
  unfold headerOption methodOption
  split <;> split
  · have distinct : ["form"].Nodup := by decide
    exact ⟨⟨lexical, trivial⟩, distinct, readable, trivial⟩
  · have distinct : ["form", "method"].Nodup := by decide
    exact ⟨⟨lexical, trivial, trivial⟩, distinct, readable, trivial, trivial⟩
  · have distinct : ["headers", "form"].Nodup := by decide
    exact ⟨⟨lexical', lexical, trivial⟩, distinct, readable', readable, trivial⟩
  · have distinct : ["headers", "form", "method"].Nodup := by decide
    exact ⟨⟨lexical', lexical, trivial, trivial⟩, distinct, readable', readable, trivial, trivial⟩

theorem formLookup {request : Request.Resolved} {fields : List (String × String)}
    (form : request.body = some (.form fields)) :
    (options request).lookup "form" = some (texts fields) := by
  rw [formOptions form]
  unfold headerOption
  split <;> rfl

theorem callWithin (depth : Nat) (artifacts : Artifacts) :
    ∃ before after, (render depth artifacts).toList = before ++ call artifacts.request ++ after := by
  have seam : ∀ front call a b c d e : List Char, front ++ call ++ a ++ b ++ c ++ d ++ e =
      front ++ call ++ (a ++ b ++ c ++ d ++ e) := by
    intro front call a b c d e
    simp only [List.append_assoc]
  have whole : (render depth artifacts).toList = renderChars depth artifacts :=
    String.toList_ofList
  rw [whole]
  exact ⟨_, _, seam _ _ _ _ _ _ _⟩

end SpecFile

theorem formInBothFiles {store : Store} {spec : Collection.Request} {request : Request.Resolved}
    {fields : List (String × String)} (resolved : Request.resolve store spec = .ok request)
    (form : request.body = some (.form fields)) :
    (∃ source, spec.body = some source ∧
      fields = (source.urlencoded.filter Collection.Entry.isActive).map
        fun entry => (entry.key, store.substitute entry.text)) ∧
    ∀ artifacts : Artifacts, artifacts.request = request →
      LoadPlan.readArguments (readTags (LoadPlan.render artifacts).toList) =
        fields.map LoadPlan.argumentTexts ∧
      ∀ depth, ∃ before options after members,
        (SpecFile.render depth artifacts).toList =
          before ++ (SpecFile.opening request ++ options ++ [')']) ++ after ∧
        Value.ofText? (String.ofList options) = some (.object members) ∧
        members.lookup "form" = some (.object ((Value.lastTexts fields).map Value.textMember)) ∧
        (Value.lastTexts fields = fields ↔ (fields.map Prod.fst).Nodup) := by
  obtain ⟨address, -, parts⟩ := Request.resolvedParts resolved
  have known : spec.body.bind (Request.body store) = some (.form fields) := by
    rw [← form, parts]
  obtain ⟨source, given, formed⟩ := Option.bind_eq_some_iff.1 known
  refine ⟨⟨source, given, formSource formed⟩, ?_⟩
  rintro artifacts rfl
  constructor
  · rw [LoadPlan.renderArguments, form]
    rfl
  · intro depth
    obtain ⟨lexical, readable⟩ := SpecFile.formReadable form
    obtain ⟨before, after, within⟩ := SpecFile.callWithin depth artifacts
    have some : SpecFile.options artifacts.request ≠ [] := by
      rw [SpecFile.formOptions form]
      simp
    rw [SpecFile.callOptions some lexical] at within
    refine ⟨before, _, after, _, within, SpecFile.optionsBack lexical readable, ?_,
      Value.lastTextsWhole fields⟩
    rw [SpecFile.formLookup form, SpecFile.textsLast]

def repeatedForm : Collection.Request where
  method := "POST"
  url := some (.text "http://a/")
  headers := []
  body := some ⟨some "urlencoded", none,
    [⟨"a", .string "1", false, none⟩, ⟨"b", .string "x", false, none⟩, ⟨"a", .string "2", false, none⟩]⟩

def repeatedFields : List (String × String) := [("a", "1"), ("b", "x"), ("a", "2")]

def repeatedRequest : Request.Resolved := ⟨"POST", "http://a/", [], some (.form repeatedFields)⟩

def repeatedArtifacts : Artifacts := ⟨"made", repeatedRequest, "", ⟨0, .empty⟩, .empty⟩

theorem repeatedFieldLost :
    Request.resolve .empty repeatedForm = .ok repeatedRequest ∧
      LoadPlan.readArguments (readTags (LoadPlan.render repeatedArtifacts).toList) =
        [["a".toList, "1".toList, ['=']], ["b".toList, "x".toList, ['=']],
          ["a".toList, "2".toList, ['=']]] ∧
      ∃ before options after members,
        (SpecFile.render 0 repeatedArtifacts).toList =
          before ++ (SpecFile.opening repeatedRequest ++ options ++ [')']) ++ after ∧
        Value.ofText? (String.ofList options) = some (.object members) ∧
        members.lookup "form" = some (.object [("a", .string "2"), ("b", .string "x")]) := by
  have resolved : Request.resolve .empty repeatedForm = .ok repeatedRequest := by rfl
  obtain ⟨plan, call⟩ := (formInBothFiles resolved rfl).2 repeatedArtifacts rfl
  obtain ⟨before, options, after, members, within, read, found, -⟩ := call 0
  refine ⟨resolved, plan.trans (by decide), before, options, after, members, within, read, ?_⟩
  exact found.trans (by rfl)

theorem repeatedFieldCalledOnce :
    Request.resolve .empty repeatedForm = .ok repeatedRequest ∧
      LoadPlan.bodyArguments repeatedRequest.body = repeatedFields ∧
      SpecFile.call repeatedRequest =
        "request.post('http://a/', \x7b\n    \"form\": \x7b\n      \"a\": \"2\",\n      \"b\": \"x\"\n    \x7d\n  \x7d)".toList := by
  refine ⟨rfl, rfl, ?_⟩
  decide +kernel

end RequestSuite.Suite
