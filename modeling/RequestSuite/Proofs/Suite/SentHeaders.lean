import RequestSuite.Proofs.Json.NumberForms
import RequestSuite.Proofs.Request.Headers
import RequestSuite.Proofs.Suite.FormFields

/-! The headers of a request on their way into the file that sends it. A name stands there once,
however often and in whatever spelling the request has it. -/
namespace RequestSuite.Suite
open Text Json Variable Request

namespace SpecFile

theorem headerLookup {request : Request.Resolved} (filled : request.headers ≠ []) :
    (options request).lookup "headers" = some (texts request.headers) := by
  rw [options, headerOption, if_neg (by simpa using filled)]
  rfl

theorem distinctTexts {headers : List (String × String)} (distinct : Distinct headers) :
    texts headers = .object (headers.map Value.textMember) := by
  have names : (headers.map Prod.fst).Nodup := by
    refine List.pairwise_map.2 (distinct.imp fun {a b} other same => ?_)
    rw [same, sameNameRefl] at other
    contradiction
  rw [textsLast, (Value.lastTextsWhole headers).2 names]

end SpecFile

theorem headersSettled {store : Store} {spec : Collection.Request} {request : Request.Resolved}
    (resolved : Request.resolve store spec = .ok request) :
    let active := spec.headers.filter Collection.Entry.isActive
    (∀ name, request.headers.countP (sameName ·.1 name) =
        if active.any (sameName ·.key name) then 1 else 0) ∧
      (request.headers.map Prod.fst).Pairwise (fun a b => placeOf active a < placeOf active b) ∧
      (∀ header ∈ request.headers, ∃ first last,
        (namesakes header.1 active).head? = some first ∧
        (namesakes header.1 active).getLast? = some last ∧
        header = (first.key, store.substitute last.text)) ∧
      (∀ name, request.header? name =
        (namesakes name active).getLast?.map fun last => store.substitute last.text) ∧
      (∀ name, request.header? name = none ↔ ∀ entry ∈ active, sameName entry.key name = false) ∧
      (∀ other request', Request.resolve store other = .ok request' →
        other.headers.filter Collection.Entry.isActive = active →
          request'.headers = request.headers) ∧
      (request.headers ≠ [] → ∀ artifacts : Artifacts, artifacts.request = request →
        ∀ depth, ∃ before text after members,
          (SpecFile.render depth artifacts).toList =
            before ++ (SpecFile.opening request ++ text ++ [')']) ++ after ∧
          Tree.ofText? text = some (Value.object members).toTree ∧
          members.lookup "headers" = some (.object (request.headers.map Value.textMember))) := by
  intro active
  have source := resolvedHeaders resolved
  have gathers := headersGather store spec.headers
  rw [← source] at gathers
  refine ⟨gathers.single, gathers.ordered, ?_, gathers.lookup, ?_, ?_, ?_⟩
  · intro header member
    obtain ⟨first, starts, spelled⟩ := gathers.spelled header.1 (List.mem_map_of_mem member)
    obtain ⟨last, ends, valued⟩ := gathers.valued header member
    exact ⟨first, last, starts, ends, Prod.ext spelled.symm valued⟩
  · intro name
    rw [Resolved.header?, gathers.lookup, Option.map_eq_none_iff, List.getLast?_eq_none_iff,
      namesakesEmpty, List.any_eq_false]
    exact forall₂_congr fun _ _ => iff_of_eq (Bool.not_eq_true _)
  · intro other request' resolved' same
    rw [resolvedHeaders resolved', source, headers, headers, same]
  · rintro some artifacts rfl depth
    obtain ⟨before, after, within⟩ := SpecFile.callWithin depth artifacts
    have found := SpecFile.headerLookup some
    have filled : SpecFile.options artifacts.request ≠ [] := fun none => by
      rw [none] at found
      exact Option.some_ne_none _ found.symm
    rw [SpecFile.callOptions filled (Value.isLexical _)] at within
    refine ⟨before, _, after, _, within, Value.prettyTree _ 1, ?_⟩
    rw [found, SpecFile.distinctTexts gathers.distinct]

def mixedHeaders : Collection.Request where
  method := "get"
  url := some (.text "http://a/")
  headers := [⟨"X-Off", .string "0", true, none⟩, ⟨"Accept", .string "a", false, none⟩,
    ⟨"x-id", .string "\x7b\x7bid\x7d\x7d", false, some true⟩, ⟨"ACCEPT", .string "b", false, some false⟩,
    ⟨"accept", .string "c", false, none⟩, ⟨"x-off", .string "1", false, none⟩]
  body := none

def mixedStore : Store := Store.empty.assign "id" (.text "7")

def mixedRequest : Request.Resolved :=
  ⟨"GET", "http://a/", [("Accept", "c"), ("x-id", "7"), ("x-off", "1")], none⟩

theorem mixedHeadersSettled :
    Request.resolve mixedStore mixedHeaders = .ok mixedRequest ∧
      mixedRequest.header? "aCCEPT" = some "c" ∧ mixedRequest.header? "X-OFF" = some "1" ∧
      mixedRequest.header? "Host" = none := by
  have resolved : Request.resolve mixedStore mixedHeaders = .ok mixedRequest := by rfl
  obtain ⟨-, -, -, lookup, absent, -, -⟩ := headersSettled resolved
  exact ⟨resolved, (lookup "aCCEPT").trans (by decide), (lookup "X-OFF").trans (by decide),
    (absent "Host").2 (by decide)⟩

end RequestSuite.Suite
