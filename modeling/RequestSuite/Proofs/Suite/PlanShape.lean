import RequestSuite.Proofs.Suite.PlanAssertions
import RequestSuite.Proofs.Text.Nesting

/-! The structure of a plan. It follows from how many variables, headers and form fields there are
and of which kinds the checks are; what they say goes into values and texts alone. -/
namespace RequestSuite.Suite.LoadPlan
open Text Script Markup

inductive BodyShape where
  | missing
  | structured
  | text
  | form (fields : Nat)
  deriving DecidableEq, Repr

def BodyShape.ofBody : Option Request.Body → BodyShape
  | none => missing
  | some (.structured _) => structured
  | some (.text _) => text
  | some (.form fields) => form fields.length

inductive CheckKind where
  | status
  | timeBelow
  deriving DecidableEq, Repr

def CheckKind.ofCheck? : Check → Option CheckKind
  | .status _ => some status
  | .timeBelow _ => some timeBelow
  | .expression _ => none

structure Shape where
  runtime : Nat
  headers : Nat
  body : BodyShape
  checks : List CheckKind
  deriving DecidableEq, Repr

def Shape.ofArtifacts (artifacts : Artifacts) : Shape :=
  ⟨artifacts.runtime.entries.length, artifacts.request.headers.length,
    .ofBody artifacts.request.body,
    artifacts.tests.script.checks.filterMap fun check => CheckKind.ofCheck? check.check⟩

theorem outlineArguments {α : Type} (element : α → Markup)
    (alike : ∀ first second, (element first).outline = (element second).outline)
    {values others : List α} (same : values.length = others.length) (name guiClass : String) :
    (argumentsProp name guiClass (values.map element)).outline =
      (argumentsProp name guiClass (others.map element)).outline := by
  have rows := outlineMap element alike same
  have listed : (collection "Arguments.arguments" (values.map element)).outline =
      (collection "Arguments.arguments" (others.map element)).outline := by
    cases values with
    | nil => rw [List.eq_nil_of_length_eq_zero same.symm]
    | cons value rest =>
      cases others with
      | nil => contradiction
      | cons other others =>
        simp only [List.map_cons, collection, outline] at rows ⊢
        rw [rows]
  simp only [argumentsProp, outline, outlineAll, listed]

theorem outlinePlan {artifacts other : Artifacts}
    (same : artifacts.runtime.entries.length = other.runtime.entries.length) :
    (planElement artifacts).outline = (planElement other).outline := by
  have arguments := outlineArguments variableProp (fun _ _ => rfl) same
    "TestPlan.user_defined_variables" "ArgumentsPanel"
  simp only [planElement, component, outline, outlineAll, arguments, List.map_cons, List.map_nil]

theorem outlineHeaders {request other : Request.Resolved}
    (same : request.headers.length = other.headers.length) :
    outlineAll (headerManager request) = outlineAll (headerManager other) := by
  have rows := outlineMap headerProp (fun _ _ => rfl) same
  have none : request.headers.isEmpty = other.headers.isEmpty := by
    rw [Bool.eq_iff_iff, List.isEmpty_iff_length_eq_zero, List.isEmpty_iff_length_eq_zero, same]
  unfold headerManager
  rw [none]
  split
  · rfl
  · simp only [outlineAll, outline, rows]

def BodyShape.fields : BodyShape → Nat
  | missing => 0
  | structured => 1
  | text => 1
  | form fields => fields

theorem bodyFields (body : Option Request.Body) :
    (bodyArguments body).length = (BodyShape.ofBody body).fields := by
  cases body with
  | none => rfl
  | some body => cases body <;> rfl

theorem outlineSampler {artifacts other : Artifacts}
    (same : BodyShape.ofBody artifacts.request.body = .ofBody other.request.body) :
    (sampler artifacts).outline = (sampler other).outline := by
  have fields : (bodyArguments artifacts.request.body).length =
      (bodyArguments other.request.body).length := by
    rw [bodyFields, bodyFields, same]
  have arguments := outlineArguments argumentProp (fun _ _ => rfl) fields "HTTPsampler.Arguments" "HTTPArgumentsPanel"
  simp only [sampler, component, textProp, boolProp, outline, outlineAll, arguments, List.map_cons,
    List.map_nil]

def CheckKind.outline : CheckKind → List (List (List Char))
  | status => outlineAll [responseAssertion "" 0, emptyTree]
  | timeBelow => outlineAll [durationAssertion "" 0, emptyTree]

theorem outlineAssertion (check : NamedCheck) :
    outlineAll (assertion check) =
      (CheckKind.ofCheck? check.check).toList.flatMap CheckKind.outline := by
  obtain ⟨test, kind⟩ := check
  cases kind with
  | status code =>
    simp only [assertion, CheckKind.ofCheck?, CheckKind.outline, responseAssertion, component,
      textProp, boolProp, numberProp, outline, outlineAll, List.map_cons, List.map_nil,
      Option.toList_some, List.flatMap_cons, List.flatMap_nil, List.append_nil]
  | timeBelow milliseconds =>
    simp only [assertion, CheckKind.ofCheck?, CheckKind.outline, durationAssertion, component,
      textProp, outline, outlineAll, List.map_cons, List.map_nil, Option.toList_some,
      List.flatMap_cons, List.flatMap_nil, List.append_nil]
  | expression code => rfl

theorem outlineAssertions (checks : List NamedCheck) :
    outlineAll (checks.flatMap assertion) =
      (checks.filterMap fun check => CheckKind.ofCheck? check.check).flatMap CheckKind.outline := by
  induction checks with
  | nil => rfl
  | cons check rest ih =>
    rw [List.flatMap_cons, outlineAllAppend, outlineAssertion, ih, List.filterMap_cons]
    cases CheckKind.ofCheck? check.check <;> simp

theorem outlineRoot {artifacts other : Artifacts}
    (same : Shape.ofArtifacts artifacts = .ofArtifacts other) :
    (root artifacts).outline = (root other).outline := by
  obtain ⟨runtime, headers, body, checks⟩ := Shape.mk.inj same
  have plan := outlinePlan runtime
  have managers := outlineHeaders headers
  have sampled := outlineSampler body
  have asserted : outlineAll (artifacts.tests.script.checks.flatMap assertion) =
      outlineAll (other.tests.script.checks.flatMap assertion) := by
    rw [outlineAssertions, outlineAssertions, checks]
  simp only [root, outline, outlineAll, outlineAllAppend, plan, managers, sampled, asserted]

theorem dataKeepsStructure (artifacts : Artifacts) :
    Orderly (render artifacts).toList ∧
      ∀ other, Shape.ofArtifacts artifacts = .ofArtifacts other →
        (readTags (render artifacts).toList).map Tag.outside =
          (readTags (render other).toList).map Tag.outside := by
  refine ⟨orderly (startRoot artifacts), ?_⟩
  intro other same
  rw [render, render, documentOutline (startRoot artifacts), documentOutline (startRoot other),
    outlineRoot same]

def filledWith (data : String) : Artifacts :=
  ⟨data, ⟨data, data, [(data, data)], some (.form [(data, data)])⟩, data,
    ⟨0, ⟨data, [data], [⟨data, .status 200⟩], 0⟩⟩, .empty⟩

theorem hostileDataKeepsStructure :
    Orderly (render (filledWith "\"/></hashTree>&<a b='")).toList ∧
      (readTags (render (filledWith "\"/></hashTree>&<a b='")).toList).map Tag.outside =
        (readTags (render (filledWith "plain")).toList).map Tag.outside := by
  obtain ⟨orderly, alike⟩ := dataKeepsStructure (filledWith "\"/></hashTree>&<a b='")
  exact ⟨orderly, alike (filledWith "plain") rfl⟩

end RequestSuite.Suite.LoadPlan
