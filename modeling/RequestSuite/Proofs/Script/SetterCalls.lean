import Mathlib.Data.List.Basic
import RequestSuite.Proofs.Script.Arguments
import RequestSuite.Proofs.Text.Words

/-! Lines on which several calls set a variable. With balanced values and no call inside another or
between two, every call is an assignment of its own: the reader finds its name, takes its value up
to its own closing parenthesis and goes on behind it, and the count of calls is theirs. -/
namespace RequestSuite.Script.Setter
open Text

def Silent (text : List Char) : Prop := ∀ word ∈ calls, contains word text = false

structure Written where
  scope : List Char
  before : List Char
  opening : Char
  name : List Char
  closing : Char
  gap : List Char
  value : List Char
  known : scope ∈ calls
  blankBefore : ∀ c ∈ before, isBlank c = true
  opened : isQuote opening = true
  named : name ≠ []
  unquoted : ∀ c ∈ name, isQuote c = false
  closed : isQuote closing = true
  blankGap : ∀ c ∈ gap, isBlank c = true
  balanced : Balanced value
  silentName : Silent name
  silentValue : Silent value

namespace Written

def inner (call : Written) (rest : List Char) : List Char :=
  call.before ++ call.opening :: (call.name ++ call.closing :: (call.gap ++
    ',' :: (call.value ++ ')' :: rest)))

def text (call : Written) : List Char := call.scope ++ '(' :: call.inner []

def assignment (call : Written) : Assignment :=
  ⟨String.ofList call.name, String.ofList (stripQuotes (trim call.value))⟩

theorem textAppend (call : Written) (rest : List Char) :
    call.text ++ rest = call.scope ++ '(' :: call.inner rest := by
  simp [text, inner]

end Written

def lineOf (row : List (List Char × Written)) (tail : List Char) : List Char :=
  row.flatMap (fun (lead, call) => lead ++ call.text) ++ tail

theorem callStart : ∀ word ∈ calls, word.head? = some 'p' ∧ 'p' ∉ word.tail := by decide

theorem callFilled {word : List Char} (known : word ∈ calls) : word ≠ [] := by
  rintro rfl
  exact nomatch (callStart [] known).1

theorem callLetters : ∀ word ∈ calls, word.all (fun c => c.isAlpha || c == '.') = true := by decide

theorem notInCall {word : List Char} (known : word ∈ calls) {c : Char}
    (other : (c.isAlpha || c == '.') = false) : c ∉ word := by
  intro member
  have letter := List.all_eq_true.1 (callLetters word known) c member
  rw [other] at letter
  contradiction

theorem quoteUnblank {c : Char} (mark : isQuote c = true) :
    isBlank c = false ∧ (c.isAlpha || c == '.') = false := by
  simp only [isQuote, Bool.or_eq_true, decide_eq_true_eq] at mark
  rcases mark with (rfl | rfl) | rfl <;> decide

theorem silentBlanks {gap : List Char} (blank : ∀ c ∈ gap, isBlank c = true) : Silent gap := by
  intro word known
  obtain ⟨rest, rfl⟩ := List.head?_eq_some_iff.1 (callStart word known).1
  refine Bool.eq_false_iff.2 ?_
  intro found
  exact absurd (blank 'p' (containsSubset found List.mem_cons_self)) (by decide)

/- A call does not go over from the text before it: it has the letter it begins with only once. -/
theorem scopeApart {word scope : List Char} (word_ : word ∈ calls) (scope_ : scope ∈ calls)
    (lead rest : List Char) : Apart word lead (scope ++ rest) := by
  obtain ⟨first, -⟩ := callStart scope scope_
  obtain ⟨tail, rfl⟩ := List.head?_eq_some_iff.1 first
  exact apartAt (callStart word word_).2 lead (tail ++ rest)

theorem callSkipped {lead after : List Char} (silent : Silent lead)
    (apart : ∀ word ∈ calls, Apart word lead after) :
    assignmentsFrom 0 (lead ++ after) = assignmentsFrom 0 after := by
  induction lead with
  | nil => rfl
  | cons c lead ih =>
    have later : Silent lead := fun word known => (absentCons (silent word known)).2
    have uncalled : call (c :: lead ++ after) = none := by
      refine List.findSome?_eq_none_iff.2 ?_
      intro word known
      rw [literalApart (apart word known), literal, (absentCons (silent word known)).1]
      rfl
    rw [List.cons_append] at uncalled ⊢
    have headless : head (c :: (lead ++ after)) = none := by
      simp only [head, uncalled, bind, Option.bind]
    rw [assignmentsFrom, headless]
    exact ih later fun word known => (apart word known).rest

theorem scopeFound {scope : List Char} (known : scope ∈ calls) (rest : List Char) :
    call (scope ++ rest) = some ((), rest) := by
  simp only [calls, List.map_cons, List.map_nil, List.mem_cons, List.not_mem_nil, or_false] at known
  rcases known with rfl | rfl | rfl | rfl <;> rfl

theorem skipBlanksAppend {gap : List Char} (blank : ∀ c ∈ gap, isBlank c = true) {c : Char}
    (filled : isBlank c = false) (rest : List Char) :
    skipBlanks (gap ++ c :: rest) = c :: rest := by
  rw [skipBlanks, List.dropWhile_append_of_pos blank, List.dropWhile_cons_of_neg (by simp [filled])]

theorem nameFound {opening closing : Char} {name : List Char} (opened : isQuote opening = true)
    (named : name ≠ []) (unquoted : ∀ c ∈ name, isQuote c = false)
    (closed : isQuote closing = true) (rest : List Char) :
    quotedName (opening :: (name ++ closing :: rest)) = some (name, rest) := by
  have inside : ∀ c ∈ name, (!isQuote c) = true := fun c member => by rw [unquoted c member]; rfl
  have ends : (!isQuote closing) = false := by rw [closed]; rfl
  have filled : name.isEmpty = false := by simpa using named
  simp [quotedName, List.takeWhile_append_of_pos inside, List.dropWhile_append_of_pos inside,
    ends, opened, filled]

theorem headFound (call : Written) (rest : List Char) :
    head (call.scope ++ '(' :: call.inner rest) = some (call.name, call.value ++ ')' :: rest) := by
  have quoted := nameFound call.opened call.named call.unquoted call.closed
  have front := skipBlanksAppend call.blankBefore (quoteUnblank call.opened).1
  have back := skipBlanksAppend call.blankGap (c := ',') (by decide)
  simp only [head, scopeFound call.known, Written.inner, front, quoted, back, bind, Option.bind]

theorem assignmentsDrop (skip : Nat) (text : List Char) :
    assignmentsFrom skip text = assignmentsFrom 0 (text.drop skip) := by
  induction text generalizing skip with
  | nil => cases skip <;> rfl
  | cons c rest ih =>
    cases skip with
    | zero => rfl
    | succ skip => exact ih skip

theorem assignmentRead (call : Written) (rest : List Char) :
    assignmentsFrom 0 (call.text ++ rest) = call.assignment :: assignmentsFrom 0 rest := by
  have found := headFound call rest
  have closes := closingFound call.balanced rest
  rw [← call.textAppend] at found
  obtain ⟨c, others, split⟩ := List.exists_cons_of_ne_nil (l := call.text) (by simp [Written.text])
  rw [split, List.cons_append] at found ⊢
  have skipped : (others ++ rest).drop ((others ++ rest).length - rest.length) = rest := by
    simp
  simp only [assignmentsFrom, found, closes]
  rw [assignmentsDrop, skipped]
  rfl

theorem countInner {word : List Char} (known : word ∈ calls) (call : Written) (rest : List Char) :
    countOccurrences word (call.inner rest) = countOccurrences word rest := by
  have parts := fun {c : Char} (other : (c.isAlpha || c == '.') = false) =>
    countBreak (callFilled known) (notInCall known other)
  have absent := fun {text : List Char} (silent : Silent text) => countAbsent (silent word known)
  rw [Written.inner, parts (quoteUnblank call.opened).2, parts (quoteUnblank call.closed).2,
    parts (by decide), parts (by decide), absent (silentBlanks call.blankBefore),
    absent call.silentName, absent (silentBlanks call.blankGap), absent call.silentValue]
  simp only [Nat.zero_add]

theorem countScope : ∀ word ∈ calls, ∀ scope ∈ calls,
    countOccurrences word scope = if word = scope then 1 else 0 := by decide

theorem countWritten {word : List Char} (known : word ∈ calls) {lead : List Char}
    (silent : Silent lead) (call : Written) (rest : List Char) :
    countOccurrences word (lead ++ (call.text ++ rest)) =
      (if word = call.scope then 1 else 0) + countOccurrences word rest := by
  have bracket := countBreak (callFilled known) (notInCall known (c := '(') (by decide))
  rw [call.textAppend, countApart (scopeApart known call.known _ _), countAbsent (silent word known),
    bracket, countScope word known call.scope call.known, countInner known, Nat.zero_add]

def tally (count : List Char → Nat) : Nat := calls.foldr (fun word total => count word + total) 0

theorem tallyCongr {one other : List Char → Nat} (each : ∀ word ∈ calls, one word = other word) :
    tally one = tally other :=
  List.foldr_ext _ _ 0 fun word known total => congrArg (· + total) (each word known)

theorem tallyAdd (one other : List Char → Nat) :
    tally (fun word => one word + other word) = tally one + tally other := by
  unfold tally
  induction calls with
  | nil => rfl
  | cons word words ih =>
    rw [List.foldr_cons, List.foldr_cons, List.foldr_cons, ih, Nat.add_add_add_comm]

theorem countCallsTally (line : List Char) :
    countCalls line = tally fun word => countOccurrences word line := rfl

theorem oneScope : ∀ scope ∈ calls, tally (fun word => if word = scope then 1 else 0) = 1 := by
  decide

theorem countCallsWritten {lead : List Char} (silent : Silent lead) (call : Written)
    (rest : List Char) : countCalls (lead ++ (call.text ++ rest)) = 1 + countCalls rest := by
  have each : ∀ word ∈ calls, countOccurrences word (lead ++ (call.text ++ rest)) =
      (if word = call.scope then 1 else 0) + countOccurrences word rest :=
    fun word known => countWritten known silent call rest
  rw [countCallsTally, tallyCongr each, tallyAdd, oneScope call.scope call.known, countCallsTally]

theorem countCallsSilent {text : List Char} (silent : Silent text) : countCalls text = 0 := by
  have each : ∀ word ∈ calls, countOccurrences word text = 0 :=
    fun word known => countAbsent (silent word known)
  rw [countCallsTally, tallyCongr each]
  rfl

theorem lineCons (lead : List Char) (call : Written) (row : List (List Char × Written))
    (tail : List Char) :
    lineOf ((lead, call) :: row) tail = lead ++ (call.text ++ lineOf row tail) := by
  simp [lineOf]

theorem countLine {row : List (List Char × Written)} (leads : ∀ part ∈ row, Silent part.1)
    {tail : List Char} (silent : Silent tail) : countCalls (lineOf row tail) = row.length := by
  induction row with
  | nil => exact countCallsSilent silent
  | cons part row ih =>
    obtain ⟨first, later⟩ := List.forall_mem_cons.1 leads
    rw [lineCons, countCallsWritten first, ih later, List.length_cons, Nat.add_comm]

theorem assignmentsLine {row : List (List Char × Written)} (leads : ∀ part ∈ row, Silent part.1)
    {tail : List Char} (silent : Silent tail) :
    assignmentsFrom 0 (lineOf row tail) = row.map fun part => part.2.assignment := by
  induction row with
  | nil =>
    have skipped := callSkipped silent fun word _ => apartNothing word tail
    rw [List.append_nil] at skipped
    exact skipped
  | cons part row ih =>
    obtain ⟨lead, call⟩ := part
    obtain ⟨first, later⟩ := List.forall_mem_cons.1 leads
    have apart : ∀ word ∈ calls, Apart word lead (call.text ++ lineOf row tail) := by
      intro word known
      rw [call.textAppend]
      exact scopeApart known call.known lead _
    rw [lineCons, callSkipped first apart, assignmentRead, ih later, List.map_cons]

theorem writtenCallsRead :
    (∀ row : List (List Char × Written), row ≠ [] → (∀ part ∈ row, Silent part.1) →
      ∀ tail, Silent tail →
        Setters.ofLine? (lineOf row tail) = some ⟨row.map fun part => part.2.assignment, 0⟩) ∧
    ∀ value, Balanced value → ∀ rest,
      arguments (.code 0) (value ++ ')' :: rest) = some (value, rest) := by
  refine ⟨?_, fun value balanced rest => closingFound balanced rest⟩
  intro row some leads tail silent
  have count := countLine leads silent
  have found : countCalls (lineOf row tail) ≠ 0 := by
    rw [count]
    exact fun none => some (List.length_eq_zero_iff.1 none)
  unfold Setters.ofLine?
  rw [if_neg found]
  simp only [assignmentsLine leads silent, count, List.length_map, Nat.sub_self]

def nestedCall : Written where
  scope := "pm.globals.set".toList
  before := [' ']
  opening := '"'
  name := ['k']
  closing := '\x27'
  gap := []
  value := "f(\")\\\"\", [1])".toList
  known := by decide
  blankBefore := List.forall_mem_singleton.2 rfl
  opened := rfl
  named := by decide
  unquoted := List.forall_mem_singleton.2 rfl
  closed := rfl
  blankGap := nofun
  balanced := by
    have quoted : Inside '"' [')', '\\', '"'] := .plain (by decide) (by decide) (.escaped .nil)
    have item : Balanced ['[', '1', ']'] :=
      @Balanced.group '[' ']' ['1'] [] (by decide) (.plain rfl .nil) .nil
    have listed : Balanced [',', ' ', '[', '1', ']'] := .plain rfl (.plain rfl item)
    have inner : Balanced "\")\\\"\", [1]".toList := .quoted rfl quoted listed
    exact .plain rfl (@Balanced.group '(' ')' _ [] (by decide) inner .nil)
  silentName := by unfold Silent; decide
  silentValue := by unfold Silent; decide

theorem neighboursRead :
    Setters.ofLine?
        "x = pm.globals.set( \"k',f(\")\\\"\", [1]));pm.globals.set( \"k',f(\")\\\"\", [1])) // )".toList =
      some ⟨[⟨"k", "f(\")\\\"\", [1])"⟩, ⟨"k", "f(\")\\\"\", [1])"⟩], 0⟩ := by
  have leads : ∀ part ∈ [("x = ".toList, nestedCall), ([';'], nestedCall)], Silent part.1 := by
    unfold Silent
    decide
  have tail : Silent " // )".toList := by
    unfold Silent
    decide
  exact writtenCallsRead.1 _ (List.cons_ne_nil _ _) leads _ tail

end RequestSuite.Script.Setter
