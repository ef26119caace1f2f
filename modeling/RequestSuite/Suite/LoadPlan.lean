import RequestSuite.Session
import RequestSuite.Template.PlanReference
import RequestSuite.Text.Markup
import RequestSuite.Text.Units
import RequestSuite.Url.Authority

/-! Load-test plans: one plan per request, with one thread, one sampler and the assertions that its
checks allow. -/
namespace RequestSuite.Suite.LoadPlan
open Text Script Markup

def textProp (name value : String) : Markup := .leaf "stringProp" [("name", name)] value

def boolProp (name : String) (value : Bool) : Markup :=
  .leaf "boolProp" [("name", name)] (if value then "true" else "false")

def numberProp (name value : String) : Markup := .leaf "intProp" [("name", name)] value

def emptyTree : Markup := .single "hashTree" []

def component (element guiClass testName : String) : List (String × String) :=
  [("guiclass", guiClass), ("testclass", element), ("testname", testName)]

def collection (name : String) : List Markup → Markup
  | [] => .single "collectionProp" [("name", name)]
  | first :: rest => .branch "collectionProp" [("name", name)] (first :: rest)

def refer (text : String) : String := Template.PlanReference.substitute text

def variableProp (entry : String × Variable.Value) : Markup :=
  .branch "elementProp" [("name", entry.1), ("elementType", "Argument")]
    [textProp "Argument.name" entry.1,
     textProp "Argument.value" entry.2.display,
     textProp "Argument.metadata" "="]

def argumentsProp (name guiClass : String) (arguments : List Markup) : Markup :=
  .branch "elementProp"
    [("name", name), ("elementType", "Arguments"), ("guiclass", guiClass),
     ("testclass", "Arguments"), ("testname", "User Defined Variables")]
    [collection "Arguments.arguments" arguments]

def planElement (artifacts : Artifacts) : Markup :=
  .branch "TestPlan" (component "TestPlan" "TestPlanGui" artifacts.name)
    [argumentsProp "TestPlan.user_defined_variables" "ArgumentsPanel"
      (artifacts.runtime.entries.map variableProp)]

def threadGroup : Markup :=
  .branch "ThreadGroup" (component "ThreadGroup" "ThreadGroupGui" "Thread Group")
    [numberProp "ThreadGroup.num_threads" "1",
     numberProp "ThreadGroup.ramp_time" "1",
     boolProp "ThreadGroup.same_user_on_next_iteration" true,
     textProp "ThreadGroup.on_sample_error" "continue",
     .branch "elementProp"
       [("name", "ThreadGroup.main_controller"), ("elementType", "LoopController"),
        ("guiclass", "LoopControlPanel"), ("testclass", "LoopController"),
        ("testname", "Loop Controller")]
       [textProp "LoopController.loops" "1", boolProp "LoopController.continue_forever" false]]

def headerProp (header : String × String) : Markup :=
  .branch "elementProp" [("name", ""), ("elementType", "Header")]
    [textProp "Header.name" header.1, textProp "Header.value" (refer header.2)]

def headerManager (request : Request.Resolved) : List Markup :=
  if request.headers.isEmpty then []
  else
    [.branch "HeaderManager" (component "HeaderManager" "HeaderPanel" "HTTP Header Manager")
      [.branch "collectionProp" [("name", "HeaderManager.headers")]
        (request.headers.map headerProp)],
     emptyTree]

def argumentProp (argument : String × String) : Markup :=
  .branch "elementProp" [("name", argument.1), ("elementType", "HTTPArgument")]
    [boolProp "HTTPArgument.always_encode" false,
     textProp "Argument.name" argument.1,
     textProp "Argument.value" (refer argument.2),
     textProp "Argument.metadata" "="]

/-- The fields of a form, or the whole of another body under an empty name. -/
def bodyArguments : Option Request.Body → List (String × String)
  | some (.form fields) => fields
  | some body => [("", body.raw)]
  | none => []

def isRaw : Option Request.Body → Bool
  | some (.form _) => false
  | some _ => true
  | none => false

def sampler (artifacts : Artifacts) : Markup :=
  let request := artifacts.request
  let target := Url.Target.ofUrl (refer request.url)
  .branch "HTTPSamplerProxy"
    (component "HTTPSamplerProxy" "HttpTestSampleGui" artifacts.name)
    [textProp "HTTPSampler.domain" target.host,
     textProp "HTTPSampler.port" target.port,
     textProp "HTTPSampler.protocol" target.scheme,
     textProp "HTTPSampler.path" target.path,
     boolProp "HTTPSampler.follow_redirects" true,
     textProp "HTTPSampler.method" request.method,
     boolProp "HTTPSampler.use_keepalive" true,
     boolProp "HTTPSampler.postBodyRaw" (isRaw request.body),
     argumentsProp "HTTPsampler.Arguments" "HTTPArgumentsPanel"
       ((bodyArguments request.body).map argumentProp)]

def nameOr (name fallback : String) : String := if name.isEmpty then fallback else name

def codeText (code : Nat) : String := String.ofList (ofNat code)

def responseAssertion (test : String) (code : Nat) : Markup :=
  .branch "ResponseAssertion"
    (component "ResponseAssertion" "AssertionGui" (nameOr test "Response Assertion"))
    [.branch "collectionProp" [("name", "Asserion.test_strings")]
      [textProp (String.ofList (Decimal.Number.integerText (unitHash (codeText code))))
        (codeText code)],
     textProp "Assertion.custom_message" "",
     textProp "Assertion.test_field" "Assertion.response_code",
     boolProp "Assertion.assume_success" false,
     numberProp "Assertion.test_type" "8"]

def durationAssertion (test : String) (milliseconds : Nat) : Markup :=
  .branch "DurationAssertion"
    (component "DurationAssertion" "DurationAssertionGui" (nameOr test "Duration Assertion"))
    [textProp "DurationAssertion.duration" (codeText milliseconds)]

def assertion (check : NamedCheck) : List Markup :=
  match check.check with
  | .status code => [responseAssertion check.test code, emptyTree]
  | .timeBelow milliseconds => [durationAssertion check.test milliseconds, emptyTree]
  | .expression _ => []

def savedFields : List (String × String) :=
  [("time", "true"), ("latency", "true"), ("timestamp", "true"), ("success", "true"),
   ("label", "true"), ("code", "true"), ("message", "true"), ("threadName", "true"),
   ("dataType", "true"), ("encoding", "false"), ("assertions", "true"), ("subresults", "true"),
   ("responseData", "false"), ("samplerData", "false"), ("xml", "false"), ("fieldNames", "true"),
   ("responseHeaders", "false"), ("requestHeaders", "false"), ("responseDataOnError", "false"),
   ("saveAssertionResultsFailureMessage", "true"), ("assertionsResultsToSave", "0"),
   ("bytes", "true"), ("sentBytes", "true"), ("url", "true"), ("threadCounts", "true"),
   ("idleTime", "true"), ("connectTime", "true")]

def resultCollector : Markup :=
  .branch "ResultCollector"
    (component "ResultCollector" "ViewResultsFullVisualizer" "View Results Tree")
    [boolProp "ResultCollector.error_logging" false,
     .branch "objProp" []
       [.leaf "name" [] "saveConfig",
        .branch "value" [("class", "SampleSaveConfiguration")]
          (savedFields.map fun (name, value) => .leaf name [] value)],
     textProp "filename" ""]

def root (artifacts : Artifacts) : Markup :=
  .branch "jmeterTestPlan" [("version", "1.2"), ("properties", "5.0"), ("jmeter", "5.6.3")]
    [.branch "hashTree" []
      [planElement artifacts,
       .branch "hashTree" []
        [threadGroup,
         .branch "hashTree" []
          (headerManager artifacts.request ++
           [sampler artifacts,
            .branch "hashTree" [] (artifacts.tests.script.checks.flatMap assertion),
            resultCollector,
            emptyTree])]]]

def render (artifacts : Artifacts) : String := (root artifacts).document

end RequestSuite.Suite.LoadPlan
