import RequestSuite.Proofs.Suite.PlanAssertions

/-! The arguments of a request, found again in the text of its plan. Each of them begins with a flag
of its own, and what the reader finds from the flag to the end of the element are the name and the
value that were put there. -/
namespace RequestSuite.Suite.LoadPlan
open Text Markup

def argumentFlag : List Char := startText "boolProp" [("name", "HTTPArgument.always_encode")]

def readArguments : List Tag → List (List (List Char))
  | [] => []
  | tag :: rest =>
    if tag.inside = argumentFlag then
      valuesOf (rest.takeWhile fun next => ¬ next.Ends "elementProp") :: readArguments rest
    else readArguments rest

def argumentTexts (argument : String × String) : List (List Char) :=
  [encode argument.1.toList, encode (refer argument.2).toList, ['=']]

def unflagged (name : String) (attributes : List (String × String)) : Bool :=
  isStart name attributes && (name != "boolProp" || startText name attributes != argumentFlag)

theorem unflaggedStart {name : String} {attributes : List (String × String)}
    (fits : unflagged name attributes = true) : startText name attributes ≠ argumentFlag := by
  obtain ⟨plain, other⟩ := Bool.and_eq_true_iff.1 fits
  intro same
  have flagged : Tag.element ⟨argumentFlag, []⟩ = "boolProp" := startName rfl []
  rw [← same, startName plain] at flagged
  subst flagged
  rw [same] at other
  exact absurd other (by decide)

theorem unflaggedSkips : Typical unflagged fun tag =>
    ∀ rest, readArguments (tag :: rest) = readArguments rest where
  start name attributes after fits rest := by
    rw [readArguments, if_neg (unflaggedStart fits)]
  ending name attributes after fits rest := by
    have other : '/' :: name.toList ≠ argumentFlag := fun same => nomatch (List.cons.inj same).1
    rw [readArguments, if_neg other]
  single name attributes after fits rest := by
    have other : startText name attributes ++ ['/'] ≠ argumentFlag := by
      intro same
      have last := congrArg List.getLast? same
      rw [List.getLast?_concat] at last
      exact absurd last (by decide)
    rw [readArguments, if_neg other]

def argumentProps (argument : String × String) : List Markup :=
  [textProp "Argument.name" argument.1, textProp "Argument.value" (refer argument.2),
    textProp "Argument.metadata" "="]

def argumentTags (level : Nat) (argument : String × String) : List Tag :=
  ⟨'/' :: "boolProp".toList, '\n' :: indent (level + 1)⟩ ::
    tagsAll (level + 1) (indent level) (argumentProps argument)

theorem argumentInside (argument : String × String) (level : Nat) :
    tagsAll (level + 1) (indent level)
        (boolProp "HTTPArgument.always_encode" false :: argumentProps argument) =
      ⟨argumentFlag, encode "false".toList⟩ :: argumentTags level argument := rfl

theorem argumentTagsTypical {fits : String → List (String × String) → Bool} {holds : Tag → Prop}
    (typical : Typical fits holds) (argument : String × String)
    (flag : fits "boolProp" [] = true) (texts : everyOf fits (argumentProps argument) = true)
    (level : Nat) : ∀ tag ∈ argumentTags level argument, holds tag :=
  List.forall_mem_cons.2 ⟨typical.ending _ _ _ flag, tagsAllTypical typical _ _ _ texts⟩

theorem argumentValues (argument : String × String) (level : Nat) :
    valuesOf (argumentTags level argument) = argumentTexts argument := by
  have ended : valuesOf [⟨'/' :: "boolProp".toList, '\n' :: indent (level + 1)⟩] = [] := rfl
  have sign : encode "=".toList = ['='] := by decide
  rw [argumentTags, ← List.singleton_append, valuesAppend, ended]
  simp only [argumentProps, tagsAll, valuesAppend, valuesTextProp, sign]
  rfl

/- The values are those of the argument itself, since no element of the same name is inside it. -/
theorem findsArgument (argument : String × String) :
    Finds readArguments [argumentProp argument] [argumentTexts argument] := by
  intro level gap rest
  have typical := typicalAvoids ["elementProp"] (by decide)
  have skipped := argumentTagsTypical unflaggedSkips argument rfl rfl level
  have avoided := argumentTagsTypical typical argument rfl rfl level
  have body := takeInside (fun tag member => (avoided tag member).2 _ List.mem_cons_self)
    ('\n' :: gap) rest
  have shape : argumentProp argument =
      .branch "elementProp" [("name", argument.1), ("elementType", "HTTPArgument")]
        (boolProp "HTTPArgument.always_encode" false :: argumentProps argument) := rfl
  rw [shape, tagsBranch, unflaggedSkips.start _ _ _ rfl, argumentInside, List.cons_append, readArguments,
    if_pos rfl, body, argumentValues, readPasses skipped, unflaggedSkips.ending "elementProp" [] _ rfl]
  rfl

theorem findsArguments (arguments : List (String × String)) :
    Finds readArguments (arguments.map argumentProp) (arguments.map argumentTexts) := by
  induction arguments with
  | nil => exact findsNothing unflaggedSkips rfl
  | cons argument rest ih => exact findsAppend (findsArgument argument) ih

theorem findsCollection {elements : List Markup} {found : List (List (List Char))}
    (below : Finds readArguments elements found) (name : String) :
    Finds readArguments [collection name elements] found := by
  cases elements with
  | nil =>
    have none : found = [] := by
      have empty := below 0 [] []
      simpa [tagsAll, readArguments] using empty.symm
    rw [none]
    exact findsNothing unflaggedSkips rfl
  | cons first rest => exact findsBranch unflaggedSkips rfl below

theorem findsSampler (artifacts : Artifacts) :
    Finds readArguments [sampler artifacts]
      ((bodyArguments artifacts.request.body).map argumentTexts) := by
  have arguments := findsArguments (bodyArguments artifacts.request.body)
  have listed : Finds readArguments
      [argumentsProp "HTTPsampler.Arguments" "HTTPArgumentsPanel"
        ((bodyArguments artifacts.request.body).map argumentProp)] _ :=
    findsBranch unflaggedSkips rfl (findsCollection arguments "Arguments.arguments")
  unfold sampler
  refine findsBranch unflaggedSkips rfl ?_
  exact findsAppend (@findsNothing _ _ _ unflaggedSkips [_, _, _, _, _, _, _, _] rfl) listed

theorem unflaggedPlan (artifacts : Artifacts) :
    (planElement artifacts).every unflagged = true := by
  have entries : everyOf unflagged (artifacts.runtime.entries.map variableProp) = true :=
    everyOfMap (fun _ => rfl) _
  have listed :
      (collection "Arguments.arguments" (artifacts.runtime.entries.map variableProp)).every
        unflagged = true := by
    cases rows : artifacts.runtime.entries.map variableProp with
    | nil => rfl
    | cons first rest =>
      rw [rows] at entries
      exact entries
  simp only [planElement, argumentsProp, every, everyOf, listed]
  rfl

theorem unflaggedHeaders (request : Request.Resolved) :
    everyOf unflagged (headerManager request) = true := by
  have headers : everyOf unflagged (request.headers.map headerProp) = true :=
    everyOfMap (fun _ => rfl) _
  unfold headerManager
  split
  · rfl
  · simp only [everyOf, every, headers]
    rfl

theorem unflaggedChecks (checks : List Script.NamedCheck) :
    everyOf unflagged (checks.flatMap assertion) = true := by
  apply everyOfFlatMap
  intro ⟨test, check⟩
  cases check <;> rfl

theorem findsTree {children : List Markup} {found : List (List (List Char))}
    (below : Finds readArguments children found) :
    Finds readArguments [.branch "hashTree" [] children] found :=
  findsBranch unflaggedSkips rfl below

theorem findsRoot (artifacts : Artifacts) :
    Finds readArguments [root artifacts]
      ((bodyArguments artifacts.request.body).map argumentTexts) := by
  have nothing := fun {elements : List Markup} (other : everyOf unflagged elements = true) =>
    findsNothing unflaggedSkips other
  have collector : everyOf unflagged [resultCollector, emptyTree] = true := by decide
  have checks := findsTree (nothing (unflaggedChecks artifacts.tests.script.checks))
  have inner := findsAppend (nothing (unflaggedHeaders artifacts.request))
    (findsAppend (findsSampler artifacts) (findsAppend checks (nothing collector)))
  have plan : everyOf unflagged [planElement artifacts] = true := by
    rw [everyOf, unflaggedPlan]
    rfl
  have threads : everyOf unflagged [threadGroup] = true := by decide
  have tree := findsTree (findsAppend (nothing plan)
    (findsTree (findsAppend (nothing threads) (findsTree inner))))
  have whole : Finds readArguments [root artifacts] _ := findsBranch unflaggedSkips rfl tree
  simpa only [List.nil_append, List.append_nil] using whole

theorem renderArguments (artifacts : Artifacts) :
    readArguments (readTags (render artifacts).toList) =
      (bodyArguments artifacts.request.body).map argumentTexts := by
  have whole := findsRoot artifacts 0 [] []
  rw [tagsAll, tagsAll, List.append_nil, List.append_nil, readArguments, List.append_nil] at whole
  rw [render, readDocument (startRoot artifacts), readArguments, if_neg (by decide)]
  exact whole

end RequestSuite.Suite.LoadPlan
