import RequestSuite.Proofs.Template.QueryHoles
import RequestSuite.Request.Resolved

/-! The last step of a URL after the first one. What the first step leaves of a template are the
holes without a value, and where no value has an opening brace, nothing else in the result opens a
hole; so the last step, which knows fewer variables, has nothing left to fill in. -/
namespace RequestSuite.Template
open Text

def Unknown (value : String → Option String) (text : List Char) : Prop :=
  ∀ rest, opening ++ rest <:+ text → ∃ name after, rest = name ++ '}' :: '}' :: after ∧
    (∀ c ∈ name, c ≠ '}' ∧ c ≠ '\n') ∧ value (String.ofList (trim name)) = none

section
variable {value : String → Option String}

theorem unknownCons {c : Char} {text : List Char}
    (start : opening.isPrefixOf? (c :: text) = none) (later : Unknown value text) :
    Unknown value (c :: text) := by
  intro rest stands
  rcases List.suffix_cons_iff.1 stands with same | inside
  · rw [List.isPrefixOf?_eq_some_iff_append_eq.2 same] at start
    contradiction
  · exact later rest inside

theorem unknownNil : Unknown value [] := by
  intro rest stands
  exact absurd (List.suffix_nil.1 stands) (by simp [opening])

theorem unknownOver {before after : List Char} (unopened : contains opening before = false)
    (apart : Apart opening before after) (later : Unknown value after) :
    Unknown value (before ++ after) := by
  induction before with
  | nil => exact later
  | cons c before ih =>
    obtain ⟨start, others⟩ := absentCons unopened
    have here := startApart apart
    rw [start] at here
    exact unknownCons here (ih others apart.rest)

theorem unknownUnbraced {before after : List Char} (unbraced : '{' ∉ before)
    (later : Unknown value after) : Unknown value (before ++ after) :=
  unknownOver (unopenedOf unbraced) (apartUnbraced unbraced after) later

/- The second brace of a hole opens nothing, since a name has no brace. -/
theorem unknownHole {name after : List Char} (plain : Plain name)
    (unknown : value (String.ofList (trim name)) = none) (later : Unknown value after) :
    Unknown value (reopen name ++ after) := by
  have unbraced : '{' ∉ name ++ ['}', '}'] := by
    intro member
    rcases List.mem_append.1 member with inside | closing
    · exact (plain.2 '{' inside).1 rfl
    · exact absurd closing (by decide)
  have behind : Unknown value (name ++ '}' :: '}' :: after) := by
    simpa using unknownUnbraced unbraced later
  rw [reopenText]
  intro rest stands
  rcases List.suffix_cons_iff.1 stands with same | inside
  · obtain rfl : rest = _ := (List.cons.inj (List.cons.inj same).2).2
    exact ⟨name, after, rfl, plain.closed, unknown⟩
  · refine unknownCons ?_ behind rest inside
    obtain ⟨c, others, rfl⟩ := List.exists_cons_of_ne_nil plain.1
    have other : ('{' == c) = false := by simpa using (plain.2 c List.mem_cons_self).1.symm
    simp [opening, List.isPrefixOf?, other]

theorem unknownFilled (unbraced : ∀ name text, value name = some text → '{' ∉ text.toList)
    (slots : List Slot) {tail : List Char} (unopened : contains opening tail = false) :
    Unknown value (filled (fill value) slots tail) := by
  induction slots with
  | nil =>
    have last : Unknown value (tail ++ []) :=
      unknownOver unopened (apartNothing opening tail) unknownNil
    rwa [List.append_nil] at last
  | cons slot slots ih =>
    have split : filled (fill value) (slot :: slots) tail =
        slot.lead ++ (fill value slot.name ++ filled (fill value) slots tail) := by
      simp [filled]
    rw [split]
    refine unknownOver slot.unopened (apartOpening slot.shut _) ?_
    rw [fill]
    cases known : value (String.ofList (trim slot.name)) with
    | some text => exact unknownUnbraced (unbraced _ _ known) ih
    | none => exact unknownHole slot.plain known ih

theorem unknownQuery {other : String → Option String} {text : List Char}
    (fewer : ∀ name, value name = none → other name = none) (unknown : Unknown value text) :
    replaceHits QueryHole.entry (QueryHole.fillEntry other) text = text := by
  refine QueryHole.unknownStays other fun e member => ?_
  obtain ⟨part, after, inside, opens⟩ := QueryHole.hitOpens member
  obtain ⟨more, whole, closed⟩ := opens.held
  have stands : opening ++ more <:+ text := by
    refine List.IsSuffix.trans ⟨e.separator :: (e.key ++ ['=']), ?_⟩ inside
    rw [whole]
    simp [QueryHole.mark]
  obtain ⟨name, after', rfl, plain, none⟩ := unknown more stands
  rw [beforeCloseName plain] at closed
  obtain ⟨rfl, -⟩ := Prod.mk.inj (Option.some.inj closed)
  exact fewer _ none

end

end RequestSuite.Template

namespace RequestSuite.Request
open Template Variable

theorem runtimeFewer (store : Store) (name : String) (absent : store.text? name = none) :
    store.runtime.text? name = none := by
  have none : store.get? name = none := by simpa [Store.text?] using absent
  rw [Snapshot.text?, (Option.or_eq_none_iff.1 none).1]
  rfl

theorem queryStageSettled (store : Store) (unbraced : store.Unbraced) (slots : List Slot)
    {tail : List Char} (unopened : Text.contains opening tail = false) :
    store.runtime.fillQuery (store.substitute (String.ofList (template slots tail))) =
        store.substitute (String.ofList (template slots tail)) ∧
      ∀ (request : Collection.Request) (spec : Collection.Url), request.url = some spec →
        spec.raw = String.ofList (template slots tail) → spec.pathParameters = [] →
        spec.hasQuery = true →
          ∃ resolved, resolve store request = .ok resolved ∧
            resolved.url = store.substitute (String.ofList (template slots tail)) := by
  have settled : store.runtime.fillQuery (store.substitute (String.ofList (template slots tail))) =
      store.substitute (String.ofList (template slots tail)) := by
    have unknown := unknownFilled unbraced.text slots unopened
    rw [Store.substitute, Template.substitute, String.toList_ofList, replaceSlots _ _ unopened,
      Snapshot.fillQueryPass, QueryHole.resolve, String.toList_ofList,
      unknownQuery (runtimeFewer store) unknown]
  refine ⟨settled, fun request spec given text bare query => ?_⟩
  have whole : url store (some spec) =
      .ok (store.substitute (String.ofList (template slots tail))) := by
    simp [url, pathStep, bare, query, text, settled, bind, Except.bind, pure, Except.pure]
  rw [resolve, given, whole]
  exact ⟨_, rfl, rfl⟩

def layered : Store :=
  ((Store.empty.assign "token" (.text "a\x7d\x7d&b=")).declare "page" (.text "2")).declare "shut"
    (.text "\x7d\x7d")

def mixedSlots : List Slot :=
  [⟨"http://h/?t=".toList, " token ".toList, by decide, by decide, by decide⟩,
    ⟨"&p=".toList, "page".toList, by decide, by decide, by decide⟩,
    ⟨"&q=\x7d".toList, "shut".toList, by decide, by decide, by decide⟩,
    ⟨"&none=".toList, "absent".toList, by decide, by decide, by decide⟩]

def mixedText : String :=
  "http://h/?t=\x7b\x7b token \x7d\x7d&p=\x7b\x7bpage\x7d\x7d&q=\x7d\x7b\x7bshut\x7d\x7d" ++
    "&none=\x7b\x7babsent\x7d\x7d&last=\x7b"

def mixedRequest : Collection.Request :=
  { Collection.Request.plain with
    url := some (.parts ⟨some mixedText, none, none, none, none, [⟨"t", .null, false, none⟩], []⟩) }

theorem mixedSettled :
    layered.Unbraced ∧ Text.contains opening "&last=\x7b".toList = false ∧
      ∃ resolved, resolve layered mixedRequest = .ok resolved ∧
        resolved.url =
          "http://h/?t=a\x7d\x7d&b=&p=2&q=\x7d\x7d\x7d&none=\x7b\x7babsent\x7d\x7d&last=\x7b" := by
  have unbraced : layered.Unbraced := by decide
  have unopened : Text.contains opening "&last=\x7b".toList = false := by decide
  have same : mixedText = String.ofList (template mixedSlots "&last=\x7b".toList) := by decide
  obtain ⟨-, each⟩ := queryStageSettled layered unbraced mixedSlots unopened
  obtain ⟨resolved, done, url⟩ := each mixedRequest _ rfl same rfl rfl
  refine ⟨unbraced, unopened, resolved, done, url.trans ?_⟩
  decide

end RequestSuite.Request
