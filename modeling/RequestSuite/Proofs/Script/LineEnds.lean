import Mathlib.Data.List.Chain
import RequestSuite.Proofs.Text.Words
import RequestSuite.Script.Assertion

/-! What closes a call at the end of a line. The rules for a status code and for a time limit do not
look at it, and an expectation takes it over as it stands: no word that is replaced goes over the
end of an expression, unless that ends in an open parenthesis. -/
namespace RequestSuite.Script.Assertion
open Text

def closes (c : Char) : Bool := c == ')' || c == ';'

def Closing (ending : List Char) : Prop := ∀ c ∈ ending, closes c = true

-- The general instance for statements about characters would go through all of them.
instance (ending : List Char) : Decidable (Closing ending) :=
  List.decidableBAll (fun c : Char => closes c = true) ending

def Unclosed (word : List Char) : Prop := word ≠ [] ∧ ∀ c ∈ word, closes c = false

instance (word : List Char) : Decidable (Unclosed word) :=
  @instDecidableAnd _ _ inferInstance (List.decidableBAll (fun c : Char => closes c = false) word)

def Steady (ending : List Char) (read : List Char → Option (List Char)) : Prop :=
  ∀ text, read (text ++ ending) = (read text).map (· ++ ending)

def Deaf {α : Type} (ending : List Char) (find : Finder α) : Prop :=
  ∀ text, (find (text ++ ending)).map Prod.fst = (find text).map Prod.fst

section
variable {ending : List Char}

theorem closesNeither {c : Char} (close : closes c = true) :
    isBlank c = false ∧ isDecimal c = false := by
  simp only [closes, Bool.or_eq_true, beq_iff_eq] at close
  rcases close with rfl | rfl <;> decide

theorem closingApart {word : List Char} (bare : ∀ c ∈ word, closes c = false)
    (closing : Closing ending) (text : List Char) : Apart word text ending := by
  refine apartOther ?_ text
  intro c inEnding inWord
  have close := closing c inEnding
  rw [bare c inWord] at close
  contradiction

theorem wordSteady {word : List Char} (unclosed : Unclosed word) (closing : Closing ending) :
    Steady ending word.isPrefixOf? := by
  obtain ⟨filled, bare⟩ := unclosed
  intro text
  cases text with
  | cons c text => exact startApart (closingApart bare closing (c :: text))
  | nil =>
    obtain ⟨first, others, rfl⟩ := List.exists_cons_of_ne_nil filled
    cases ending with
    | nil => rfl
    | cons c rest =>
      have close := closing c List.mem_cons_self
      have other : (first == c) = false := by
        refine beq_eq_false_iff_ne.2 ?_
        rintro rfl
        rw [bare first List.mem_cons_self] at close
        contradiction
      simp [List.isPrefixOf?, other]

theorem bindSteady {first second : List Char → Option (List Char)}
    (former : Steady ending first) (latter : Steady ending second) :
    Steady ending fun text => (first text).bind second := by
  intro text
  dsimp only
  rw [former text]
  cases first text with
  | none => rfl
  | some rest => exact latter rest

theorem stopsAtClosing {stops : Char → Bool} (other : ∀ c, closes c = true → stops c = false)
    (closing : Closing ending) : ending.takeWhile stops = [] ∧ ending.dropWhile stops = ending := by
  cases ending with
  | nil => exact ⟨rfl, rfl⟩
  | cons c rest =>
    have here := Bool.eq_false_iff.1 (other c (closing c List.mem_cons_self))
    exact ⟨List.takeWhile_cons_of_neg here, List.dropWhile_cons_of_neg here⟩

theorem skipBlanksClosing (closing : Closing ending) (text : List Char) :
    skipBlanks (text ++ ending) = skipBlanks text ++ ending := by
  have stays := (stopsAtClosing (fun c close => (closesNeither close).1) closing).2
  rw [skipBlanks, List.dropWhile_append, stays]
  split
  · rename_i none
    rw [skipBlanks, List.isEmpty_iff.1 none, List.nil_append]
  · rfl

theorem blanksSteady {read : List Char → Option (List Char)} (closing : Closing ending)
    (steady : Steady ending read) : Steady ending fun text => read (skipBlanks text) := by
  intro text
  dsimp only
  rw [skipBlanksClosing closing]
  exact steady (skipBlanks text)

theorem oneOfSteady {words : List String}
    (unclosed : ∀ word ∈ words, Unclosed word.toList)
    (closing : Closing ending) : Steady ending (oneOf words) := by
  intro text
  unfold oneOf
  induction words with
  | nil => rfl
  | cons word words ih =>
    obtain ⟨here, later⟩ := List.forall_mem_cons.1 unclosed
    rw [List.findSome?_cons, List.findSome?_cons, wordSteady here closing text, ih later]
    cases word.toList.isPrefixOf? text <;> rfl

theorem parenthesisSteady {words : List String}
    (unclosed : ∀ word ∈ words, Unclosed word.toList)
    (closing : Closing ending) :
    Steady ending fun text => ([')'].isPrefixOf? text).bind (oneOf words) := by
  intro text
  cases text with
  | cons c text =>
    cases parenthesis : (')' == c) with
    | true => simpa [List.isPrefixOf?, parenthesis] using oneOfSteady unclosed closing text
    | false => simp [List.isPrefixOf?, parenthesis]
  | nil =>
    cases ending with
    | nil => rfl
    | cons c rest =>
      have nowhere : oneOf words [] = none := by
        refine List.findSome?_eq_none_iff.2 ?_
        intro word member
        obtain ⟨first, others, split⟩ := List.exists_cons_of_ne_nil (unclosed word member).1
        rw [split]
        rfl
      have absent := oneOfSteady unclosed (List.forall_mem_cons.1 closing).2 []
      rw [nowhere, List.nil_append, Option.map_none] at absent
      cases parenthesis : (')' == c) with
      | true => simpa [List.isPrefixOf?, parenthesis] using absent
      | false => simp [List.isPrefixOf?, parenthesis]

theorem digitsDeaf (closing : Closing ending) : Deaf ending digits := by
  intro text
  have stops := (stopsAtClosing (fun c close => (closesNeither close).2) closing).1
  have row : (skipBlanks (text ++ ending)).takeWhile isDecimal =
      (skipBlanks text).takeWhile isDecimal := by
    rw [skipBlanksClosing closing, List.takeWhile_append, stops, List.append_nil]
    split
    · rename_i whole
      exact ((List.takeWhile_prefix isDecimal).eq_of_length whole).symm
    · rfl
  unfold digits
  simp only [row]
  split <;> rfl

theorem bindDeaf {α : Type} {first : List Char → Option (List Char)} {find : Finder α}
    (steady : Steady ending first) (deaf : Deaf ending find) :
    Deaf ending fun text => (first text).bind find := by
  intro text
  dsimp only
  rw [steady text]
  cases first text with
  | none => rfl
  | some rest => exact deaf rest

theorem orDeaf {α : Type} {first second : Finder α} (former : Deaf ending first)
    (latter : Deaf ending second) : Deaf ending fun text => (first text).or (second text) := by
  intro text
  rw [Option.map_or, Option.map_or, former text, latter text]

/- The induction goes over the text in front; no hit begins in the ending itself, whose parts are
endings of the same kind. -/
theorem firstHitDeaf {α : Type} {find : Finder α} {Ends : List Char → Prop}
    (shorter : ∀ c rest, Ends (c :: rest) → Ends rest) (deaf : ∀ part, Ends part → Deaf part find)
    (absent : find [] = none) (ends : Ends ending) : Deaf ending (firstHit find) := by
  intro text
  induction text with
  | nil =>
    induction ending with
    | nil => rfl
    | cons c rest ih =>
      have here := deaf (c :: rest) ends []
      rw [absent, Option.map_none, Option.map_eq_none_iff, List.nil_append] at here
      have passed : firstHit find (c :: rest) = firstHit find rest := by rw [firstHit, here]
      rw [List.nil_append, passed]
      exact ih (shorter c rest ends)
  | cons c text ih =>
    have here := deaf ending ends (c :: text)
    rw [List.cons_append] at here ⊢
    rw [firstHit, firstHit]
    cases own : find (c :: text) with
    | some found =>
      rw [own, Option.map_some, Option.map_eq_some_iff] at here
      obtain ⟨other, found, same⟩ := here
      rw [found]
      exact congrArg some same
    | none =>
      rw [own, Option.map_none, Option.map_eq_none_iff] at here
      rw [here]
      exact ih

theorem closingShorter (c : Char) (rest : List Char) (closing : Closing (c :: rest)) :
    Closing rest :=
  (List.forall_mem_cons.1 closing).2

theorem comparisonSteady {word : String} {words : List String} (subject : Unclosed word.toList)
    (unclosed : ∀ word ∈ words, Unclosed word.toList) (closing : Closing ending) :
    Steady ending fun text => (spacedWords [word, ")"] text).bind (oneOf words) := by
  have parts : (fun text => (spacedWords [word, ")"] text).bind (oneOf words)) = fun text =>
      (word.toList.isPrefixOf? (skipBlanks text)).bind fun rest =>
        ([')'].isPrefixOf? (skipBlanks rest)).bind (oneOf words) := by
    funext text
    simp [spacedWords, List.foldlM, Option.bind_assoc]
  rw [parts]
  exact bindSteady (blanksSteady closing (wordSteady subject closing))
    (blanksSteady closing (parenthesisSteady unclosed closing))

theorem statusDeaf (closing : Closing ending) : Deaf ending statusDigits := by
  have call : Steady ending statusMethod := wordSteady (by decide) closing
  have expectation : Steady ending statusExpectation :=
    bindSteady (wordSteady (by decide) closing)
      (comparisonSteady (by decide) (by decide) closing)
  exact orDeaf (bindDeaf call (digitsDeaf closing)) (bindDeaf expectation (digitsDeaf closing))

theorem timeDeaf (closing : Closing ending) : Deaf ending timeDigits := by
  have call : Unclosed "pm.expect(".toList := by decide
  have subject : Unclosed "pm.response.responseTime".toList := by decide
  have limits : ∀ word ∈ [".to.be.below(", ".to.be.lessThan("], Unclosed word.toList := by decide
  have expectation := bindSteady (wordSteady call closing)
    (comparisonSteady subject limits closing)
  have deaf := bindDeaf expectation (digitsDeaf closing)
  simp only [Option.bind_assoc] at deaf
  exact deaf

theorem deafBind {α β : Type} {find : Finder α} (deaf : Deaf ending find) (use : α → Option β)
    (text : List Char) :
    (find (text ++ ending)).bind (fun (value, _) => use value) =
      (find text).bind fun (value, _) => use value := by
  have told := congrArg (·.bind use) (deaf text)
  rw [Option.bind_map, Option.bind_map] at told
  exact told

theorem statusClosing (closing : Closing ending) (text : List Char) :
    status? (text ++ ending) = status? text := by
  have deaf := firstHitDeaf closingShorter (fun _ part => statusDeaf part) rfl closing
  exact deafBind deaf (fun digits => (boundedNat? 0xFFFF digits).map Check.status) text

theorem timeBelowClosing (closing : Closing ending) (text : List Char) :
    timeBelow? (text ++ ending) = timeBelow? text := by
  have deaf := firstHitDeaf closingShorter (fun _ part => timeDeaf part) rfl closing
  exact deafBind deaf
    (fun digits => (boundedNat? 0xFFFFFFFFFFFFFFFF digits).map Check.timeBelow) text

theorem containsClosing {word : List Char} (unclosed : Unclosed word) (closing : Closing ending)
    (text : List Char) : contains word (text ++ ending) = contains word text := by
  have absent : contains word ending = false := by
    refine Bool.eq_false_iff.2 ?_
    intro found
    obtain ⟨c, rest, rfl⟩ := List.exists_cons_of_ne_nil unclosed.1
    have close := closing c (containsSubset found List.mem_cons_self)
    rw [unclosed.2 c List.mem_cons_self] at close
    contradiction
  rw [containsApart unclosed.1 (closingApart unclosed.2 closing text), absent, Bool.or_false]

theorem trimClosing (closing : Closing ending) (filled : ending ≠ []) (text : List Char) :
    trim (text ++ ending) = skipBlanks text ++ ending := by
  have last : skipBlanks (skipBlanks text ++ ending).reverse =
      (skipBlanks text ++ ending).reverse := by
    have stays := (closesNeither (closing _ (List.getLast_mem filled))).1
    rw [← List.dropLast_append_getLast filled, ← List.append_assoc, List.reverse_append,
      List.reverse_singleton]
    exact List.dropWhile_cons_of_neg (by simp [stays])
  rw [trim, skipBlanksClosing closing, last, List.reverse_reverse]

def Enclosed (word : List Char) : Prop :=
  (∀ c ∈ word.head?, closes c = false) ∧ word.IsChain fun a b => closes b = true → a = '('

instance (word : List Char) : Decidable (Enclosed word) :=
  @instDecidableAnd _ _ (Option.decidableForallMem word.head?) inferInstance

def EndsOpen (text : List Char) : Prop := text.getLast? = some '('

instance (text : List Char) : Decidable (EndsOpen text) :=
  inferInstanceAs (Decidable (text.getLast? = some '('))

theorem enclosedApart {word text : List Char} (enclosed : Enclosed word) (shut : ¬ EndsOpen text)
    (closing : Closing ending) : Apart word text ending := by
  rintro front back inside start some filled rfl
  obtain ⟨c, rest, rfl⟩ := List.exists_cons_of_ne_nil filled
  have close := closing c (start.subset List.mem_cons_self)
  have joint := (List.isChain_append.1 enclosed.2).2.2
  have last := List.getLast?_eq_some_getLast some
  have parenthesis := joint _ last c rfl close
  rw [parenthesis] at last
  obtain ⟨before, rfl⟩ := inside
  exact shut ((List.getLast?_append_of_ne_nil before some).trans last)

theorem replaceClosing {word : List Char} (filled : word ≠ []) (enclosed : Enclosed word)
    (closing : Closing ending) (replacement : List Char) :
    replaceAll word replacement ending = ending := by
  induction ending with
  | nil => rfl
  | cons c rest ih =>
    obtain ⟨close, later⟩ := List.forall_mem_cons.1 closing
    have other : word.head? ≠ some c := by
      intro same
      rw [enclosed.1 c same] at close
      contradiction
    rw [replaceAll, replaceHits, scanMiss (literalOther other filled rest)]
    exact congrArg (c :: ·) (ih later)

theorem applyClosing {text : List Char} {idiom : String × String} (word : idiom.1.toList ≠ [])
    (enclosed : Enclosed idiom.1.toList) (shut : ¬ EndsOpen text) (closing : Closing ending) :
    applyIdiom (text ++ ending) idiom = applyIdiom text idiom ++ ending := by
  unfold applyIdiom
  rw [replaceApart (enclosedApart enclosed shut closing), replaceClosing word enclosed closing]

end

structure Fits (idiom : String × String) : Prop where
  word : idiom.1.toList ≠ []
  enclosed : Enclosed idiom.1.toList
  replacement : idiom.2.toList ≠ []
  opening : EndsOpen idiom.2.toList → EndsOpen idiom.1.toList

theorem idiomsFit : ∀ idiom ∈ idioms, Fits idiom := by
  have parts : ∀ idiom ∈ idioms, (idiom.1.toList ≠ [] ∧ Enclosed idiom.1.toList) ∧
      idiom.2.toList ≠ [] ∧ (EndsOpen idiom.2.toList → EndsOpen idiom.1.toList) := by
    decide +kernel
  intro idiom member
  obtain ⟨⟨word, enclosed⟩, replacement, opening⟩ := parts idiom member
  exact ⟨word, enclosed, replacement, opening⟩

theorem idiomsClosing {text ending : List Char} (shut : ¬ EndsOpen text) (closing : Closing ending)
    {row : List (String × String)} (fits : ∀ idiom ∈ row, Fits idiom) :
    row.foldl applyIdiom (text ++ ending) = row.foldl applyIdiom text ++ ending := by
  induction row generalizing text with
  | nil => rfl
  | cons idiom row ih =>
    obtain ⟨here, later⟩ := List.forall_mem_cons.1 fits
    have stays : ¬ EndsOpen (applyIdiom text idiom) := fun opens =>
      shut (replaceLast here.word here.replacement here.opening opens)
    rw [List.foldl_cons, List.foldl_cons, applyClosing here.word here.enclosed shut closing,
      ih stays later]

def closedCheck? (text ending : List Char) : Option Check :=
  (status? text).or ((timeBelow? text).or
    (if contains "pm.expect".toList text then
      some (.expression (String.ofList (idioms.foldl applyIdiom (skipBlanks text) ++ ending)))
    else none))

theorem checkClosing {text ending : List Char} (shut : ¬ EndsOpen text) (closing : Closing ending)
    (filled : ending ≠ []) : check? (text ++ ending) = closedCheck? text ending := by
  have word : Unclosed "pm.expect".toList := by decide
  have shut' : ¬ EndsOpen (skipBlanks text) := by
    intro opens
    have parts : text.takeWhile isBlank ++ skipBlanks text = text := List.takeWhile_append_dropWhile
    refine shut ?_
    rw [EndsOpen, ← parts, List.getLast?_append, opens]
    rfl
  unfold check? closedCheck? expectation?
  rw [statusClosing closing, timeBelowClosing closing, containsClosing word closing,
    trimClosing closing filled, idiomsClosing shut' closing idiomsFit]

theorem closedCheckSpace (text ending : List Char) :
    closedCheck? (' ' :: text) ending = closedCheck? text ending := by
  have unstated : statusDigits (' ' :: text) = none := rfl
  have untimed : timeDigits (' ' :: text) = none := rfl
  have status : status? (' ' :: text) = status? text := by
    rw [status?, firstHit, unstated, status?]
  have time : timeBelow? (' ' :: text) = timeBelow? text := by
    rw [timeBelow?, firstHit, untimed, timeBelow?]
  have word : contains "pm.expect".toList (' ' :: text) = contains "pm.expect".toList text := by
    rw [containsCons]
    rfl
  have skipped : skipBlanks (' ' :: text) = skipBlanks text := rfl
  rw [closedCheck?, status, time, word, skipped, closedCheck?]

end RequestSuite.Script.Assertion
