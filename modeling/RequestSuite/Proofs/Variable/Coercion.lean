import RequestSuite.Proofs.Decimal.KeptSpellings
import RequestSuite.Proofs.Script.Assigned
import RequestSuite.Proofs.Script.SetterScan
import RequestSuite.Proofs.Template.Holes
import RequestSuite.Proofs.Text.Cuts

/-! What later requests send of a value that a script has set. A text that is no number is sent as it
was set, and a number in the spelling that numbers have: of all ways to write an integer only the
plain one in the range of words is sent as it was set, and of decimals at least the standard ones. -/
namespace RequestSuite.Script
open Text Setter Variable

def IsQuotable (s : String) : Prop := ∀ c ∈ s.toList, c ≠ '"' ∧ c ≠ '\\' ∧ c ≠ '\n'

instance (s : String) : Decidable (IsQuotable s) := List.decidableBAll _ s.toList

structure IsName (name : String) : Prop where
  plain : Template.Plain name.toList
  unquoted : ∀ c ∈ name.toList, isQuote c = false
  trimmed : trim name.toList = name.toList

def setterLine (name value : String) : String :=
  "pm.environment.set(\"" ++ name ++ "\", \"" ++ value ++ "\");"

def environmentSet : List Char := "pm.environment.set".toList

theorem environmentKnown : environmentSet ∈ calls := by decide

def setterHead (name : List Char) : List Char :=
  environmentSet ++ '(' :: '"' :: (name ++ ['"', ','])

theorem openingChars : "pm.environment.set(\"".toList = environmentSet ++ ['(', '"'] := by decide

theorem middleChars : "\", \"".toList = ['"', ',', ' ', '"'] := by decide

theorem endingChars : "\");".toList = ['"', ')', ';'] := by decide

theorem setterLineChars (name value : String) :
    (setterLine name value).toList =
      setterHead name.toList ++ ((' ' :: '"' :: (value.toList ++ ['"'])) ++ ')' :: [';']) := by
  unfold setterLine setterHead
  simp only [String.toList_append, openingChars, middleChars, endingChars]
  generalize environmentSet = scope
  simp only [List.append_assoc, List.cons_append, List.nil_append]

theorem quotedInside {value : List Char} (plain : ∀ c ∈ value, c ≠ '"' ∧ c ≠ '\\' ∧ c ≠ '\n') :
    Inside '"' value := by
  induction value with
  | nil => exact .nil
  | cons c value ih =>
    obtain ⟨⟨quote, slash, -⟩, later⟩ := List.forall_mem_cons.1 plain
    exact .plain quote slash (ih later)

theorem headSetter {name : List Char} (named : name ≠ [])
    (unquoted : ∀ c ∈ name, isQuote c = false) (rest : List Char) :
    head (setterHead name ++ rest) = some (name, rest) := by
  have quoted : quotedName ('"' :: (name ++ '"' :: ',' :: rest)) = some (name, ',' :: rest) :=
    nameFound rfl named unquoted rfl (',' :: rest)
  have scope := scopeFound environmentKnown
    ('(' :: '"' :: (name ++ '"' :: ',' :: rest))
  have split : setterHead name ++ rest =
      environmentSet ++ '(' :: '"' :: (name ++ '"' :: ',' :: rest) := by
    simp only [setterHead, List.append_assoc, List.cons_append, List.nil_append]
  have front (text : List Char) : skipBlanks ('"' :: text) = '"' :: text := rfl
  have back (text : List Char) : skipBlanks (',' :: text) = ',' :: text := rfl
  simp only [head, split, scope, front, quoted, back, bind, Option.bind]

theorem stripQuoted (value : List Char) :
    stripQuotes (trim (' ' :: '"' :: (value ++ ['"']))) = value := by
  have front : skipBlanks (' ' :: '"' :: (value ++ ['"'])) = '"' :: (value ++ ['"']) := rfl
  have turned : ('"' :: (value ++ ['"'])).reverse = '"' :: (value.reverse ++ ['"']) := by simp
  have back : skipBlanks ('"' :: (value.reverse ++ ['"'])) = '"' :: (value.reverse ++ ['"']) := rfl
  rw [trim, front, turned, back, ← turned, List.reverse_reverse, stripQuotes]
  simp [Setter.isQuote]

theorem setterRead {name value : String} (named : IsName name) (quotable : IsQuotable value) :
    ∃ unparsed, Setters.ofLine? (setterLine name value).toList =
      some ⟨[⟨name, value⟩], unparsed⟩ := by
  have found : countCalls (setterLine name value).toList ≠ 0 := by
    have here : 0 ∈ callPlaces 0 (setterLine name value).toList := by
      rw [setterLineChars, setterHead, List.append_assoc]
      exact memCallPlaces.2 ⟨[], environmentSet, _, environmentKnown, rfl, rfl⟩
    rw [countPlaces 0]
    exact (List.length_pos_of_mem here).ne'
  have balanced : Balanced (' ' :: '"' :: (value.toList ++ ['"'])) :=
    .plain rfl (.quoted rfl (quotedInside quotable) .nil)
  have head := headSetter named.plain.1 named.unquoted
    ((' ' :: '"' :: (value.toList ++ ['"'])) ++ ')' :: [';'])
  have read := assignmentsAt (by simp [setterHead]) head
  rw [closingFound balanced, ← setterLineChars] at read
  dsimp only at read
  rw [stripQuoted, String.ofList_toList, String.ofList_toList] at read
  have rest : assignmentsFrom 0 [';'] = [] := by decide
  refine ⟨countCalls (setterLine name value).toList - 1, ?_⟩
  simp only [Setters.ofLine?, if_neg found, read, rest, List.length_singleton]

theorem setterStored (store : Store) {name value : String} (named : IsName name)
    (quotable : IsQuotable value) :
    (readPrelude store (setterLine name value)).1 = store.assign name (.coerce value) := by
  obtain ⟨unparsed, read⟩ := setterRead named quotable
  have single : lines (setterLine name value).toList = [(setterLine name value).toList] := by
    refine splitAtWhole ?_
    have scope : '\n' ∉ environmentSet := by decide
    have named_ : '\n' ∉ name.toList := fun member => (named.plain.2 _ member).2.2 rfl
    have value_ : '\n' ∉ value.toList := fun member => (quotable _ member).2.2 rfl
    rw [setterLineChars, setterHead]
    generalize environmentSet = front at scope
    simp [scope, named_, value_]
  rw [readPreludeStore, assignedBy, single, List.flatMap_singleton, assignedByLine, read]
  rfl

end RequestSuite.Script

namespace RequestSuite.Variable
open Decimal Literal Script Template
open Json (IsRow)

def holeOf (name : String) : String := "\x7b\x7b" ++ name ++ "\x7d\x7d"

theorem holeChars {name : String} (plain : Plain name.toList) :
    holeOf name =
      String.ofList (template [⟨[], name.toList, by decide, by decide, plain⟩] []) := by
  have front : "\x7b\x7b".toList = ['{', '{'] := by decide
  have back : "\x7d\x7d".toList = ['}', '}'] := by decide
  rw [← String.toList_inj, String.toList_ofList]
  simp [holeOf, front, back, template, Slot.text, reopen]

theorem assignedShown (store : Store) {name : String} (named : IsName name) (value : Value) :
    (store.assign name value).get? name = some value ∧
      (store.assign name value).substitute (holeOf name) = value.display := by
  have found : (store.assign name value).get? name = some value := by
    have inserted : (store.runtime.insert name value).get? name = some value := by
      rw [NameMap.getInsert store.runtime (name, value) name, if_pos rfl, Option.some_or]
    rw [Store.get?, Store.assign, inserted, Option.some_or]
  refine ⟨found, ?_⟩
  have filling :
      Template.fill (store.assign name value).text? name.toList = value.display.toList := by
    rw [Template.fill, named.trimmed, String.ofList_toList, Store.text?, found]
    rfl
  rw [Store.substitute, Template.substitute, holeChars named.plain, String.toList_ofList,
    replaceSlots _ _ (by decide), filled, List.flatMap_singleton, List.nil_append, filling,
    List.append_nil, String.ofList_toList]

namespace Value

theorem coerceText {s : String} (other : number? (Text.trim s.toList) = none) :
    coerce s = .text s := by
  rw [coerce, other]

theorem coerceNumber {s : String} {n : Number} :
    coerce s = .number n ↔ number? (Text.trim s.toList) = some n := by
  rw [coerce]
  cases number? (Text.trim s.toList) with
  | none => simp
  | some m => simp

theorem coerceUnblank {text : List Char} (filled : ∀ c ∈ text, Text.isBlank c = false) {n : Number}
    (read : number? text = some n) : coerce (String.ofList text) = .number n := by
  rw [coerceNumber, String.toList_ofList, Text.trimUnblank filled, read]

theorem coerceAgain {s : String} {n : Number} (read : number? (Text.trim s.toList) = some n) :
    coerce (display (.number n)) = .number n :=
  coerceUnblank (numberUnblank n) (numberBack read)

end Value

/- The text of a number is stored as the same number, so what is sent stays as it is from then on. -/
theorem sentAsStored (store : Store) {name : String} (named : IsName name) {s : String}
    (quotable : IsQuotable s) :
    let after := (readPrelude store (setterLine name s)).1
    let sent := after.substitute (holeOf name)
    (∀ n, number? (Text.trim s.toList) = some n ↔
      ∃ t : Numeral, t.Formed ∧ Text.trim s.toList = t.chars ∧ t.Denotes n) ∧
    (number? (Text.trim s.toList) = none → after.get? name = some (.text s) ∧ sent = s) ∧
    (∀ n, number? (Text.trim s.toList) = some n →
      after.get? name = some (.number n) ∧ sent = (Value.number n).display ∧
        Value.coerce sent = .number n) ∧
    (∀ sign digits, IsRow digits → s = String.ofList (wholeText sign digits) →
      ∀ n, after.get? name = some (.number n) →
        (sent = s ↔ InSigned (signed (sign.getD false) (Text.valueOf digits)) ∧
          IsPlainInteger sign digits)) ∧
    ∀ (negative : Bool) (x : Scientific), x.IsStandard →
      s = String.ofList (minus negative ++ x.text) → sent = s := by
  obtain ⟨found, shown⟩ := assignedShown store named (.coerce s)
  rw [setterStored store named quotable]
  dsimp only
  rw [found, shown]
  refine ⟨fun n => Numeral.numberIff, ?_, ?_, ?_, ?_⟩
  · intro other
    rw [Value.coerceText other]
    exact ⟨rfl, rfl⟩
  · intro n read
    rw [Value.coerceNumber.2 read]
    exact ⟨rfl, rfl, Value.coerceAgain read⟩
  · rintro sign digits row rfl n stored
    have number := Option.some.inj stored
    have read := Value.coerceNumber.1 number
    rw [String.toList_ofList, Text.trimUnblank (wholeUnblank sign row)] at read
    rw [number, Value.display, String.ofList_inj]
    exact wholeKept sign row read
  · rintro negative x standard rfl
    obtain ⟨n, read, same⟩ := Scientific.standardKept negative standard
    rw [Value.coerceUnblank (Scientific.textUnblank negative x) read, Value.display, same]

theorem tokenOrderAndPriceSent :
    (readPrelude .empty (setterLine "token" "tok-abc")).1.substitute (holeOf "token") =
        "tok-abc" ∧
      (readPrelude .empty (setterLine "order" "0042")).1.substitute (holeOf "order") ≠ "0042" ∧
      (readPrelude .empty (setterLine "price" "-19.99")).1.substitute (holeOf "price") =
        "-19.99" := by
  have token : IsName "token" := ⟨by decide, by simp [Setter.isQuote], by decide⟩
  have order : IsName "order" := ⟨by decide, by simp [Setter.isQuote], by decide⟩
  have price : IsName "price" := ⟨by decide, by simp [Setter.isQuote], by decide⟩
  have row : IsRow "0042".toList := ⟨by decide, by simp [Text.isAsciiDigit]⟩
  have standard : Scientific.IsStandard ⟨1999, -2⟩ := .inr (by decide)
  refine ⟨?_, ?_, ?_⟩
  · exact ((sentAsStored .empty token (by decide)).2.1 (by decide)).2
  · intro same
    have plain := ((sentAsStored .empty order (by decide)).2.2.2.1 none _ row (by decide)
      (.integer 42 (by decide)) (by decide)).1 same
    exact absurd (plain.2.2 (by decide)).2 (by decide)
  · exact (sentAsStored .empty price (by decide)).2.2.2.2 true _ standard (by decide)

theorem leadingZerosLost :
    ¬ ∀ (store : Store) (s : String), s ≠ "" →
      (∀ c ∈ s.toList, Setter.isQuote c = false ∧ c ≠ '\\' ∧ c ≠ '\n') →
      Text.trim s.toList = s.toList →
        (readPrelude store (setterLine "k" s)).1.substitute (holeOf "k") = s := by
  intro same
  have sent := same .empty "007" (by decide) (by simp [Setter.isQuote]) (by decide)
  have other : (readPrelude .empty (setterLine "k" "007")).1.substitute (holeOf "k") = "7" := by
    decide
  rw [other] at sent
  exact absurd sent (by decide)

end RequestSuite.Variable
