import RequestSuite.Proofs.Template.Segments
import RequestSuite.Request.Resolved

/-! Path parameters of requests. An undeclared one, in a URL that declares some, is the only reason for
which a request fails. -/
namespace RequestSuite.Request
open Text Template Variable

theorem resolveParameters {store : Store} {request : Collection.Request}
    {missing : MissingParameter} :
    resolve store request = .error missing ↔
      ∃ url, request.url = some url ∧
        pathStep store url.pathParameters (store.substitute url.raw) = .error missing := by
  unfold resolve url
  cases request.url with
  | none => simp [bind, Except.bind, pure, Except.pure]
  | some url =>
    cases stepped : pathStep store url.pathParameters (store.substitute url.raw) <;>
      simp [bind, Except.bind, pure, Except.pure, stepped]

theorem pathStepFails {store : Store} {declared : List (String × String)} {url : String} :
    (∃ missing, pathStep store declared url = .error missing) ↔
      declared ≠ [] ∧ ∃ segment ∈ splitAt '/' url.toList, ∃ name,
        PathParameter.Undeclared declared segment name := by
  by_cases none : declared = []
  · simp [pathStep, none]
  · have filled : pathStep store declared url =
        PathParameter.resolve
          (declared.map fun entry => (entry.1, store.substitute entry.2)) url := by
      rw [pathStep, if_neg (by simpa using none)]
    rw [filled, PathParameter.resolveFails, and_iff_right none]
    simp only [PathParameter.undeclaredKeys fun entry => store.substitute entry.2]

theorem parametersBySegment :
    (∀ declared url,
      ((∃ missing, PathParameter.resolve declared url = .error missing) ↔
        ∃ segment ∈ splitAt '/' url.toList, ∃ name,
          PathParameter.Undeclared declared segment name) ∧
      (∀ missing, PathParameter.resolve declared url = .error missing ↔
        PathParameter.FirstUndeclared declared url missing.name) ∧
      ∀ result, PathParameter.resolve declared url = .ok result ↔
        ∃ filled,
          List.Forall₂ (PathParameter.Becomes declared) (splitAt '/' url.toList) filled ∧
            result = String.ofList (joinWith ['/'] filled)) ∧
    ∀ (store : Store) (request : Collection.Request),
      (∃ missing, resolve store request = .error missing) ↔
        ∃ url, request.url = some url ∧ url.pathParameters ≠ [] ∧
          ∃ segment ∈ splitAt '/' (store.substitute url.raw).toList, ∃ name,
            PathParameter.Undeclared url.pathParameters segment name := by
  constructor
  · intro declared url
    exact ⟨PathParameter.resolveFails, fun missing => PathParameter.resolveStopped,
      fun result => PathParameter.resolveDone⟩
  · intro store request
    constructor
    · rintro ⟨missing, failed⟩
      obtain ⟨url, given, stopped⟩ := resolveParameters.1 failed
      exact ⟨url, given, pathStepFails.1 ⟨missing, stopped⟩⟩
    · rintro ⟨url, given, undeclared⟩
      obtain ⟨missing, stopped⟩ := pathStepFails.2 undeclared
      exact ⟨missing, resolveParameters.2 ⟨url, given, stopped⟩⟩

end RequestSuite.Request
