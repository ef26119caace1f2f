import RequestSuite.Proofs.Script.SetterCalls
import RequestSuite.Proofs.Text.Bytes

/-! The scan of a line for calls that set a variable, round by round. Each round goes on behind the
call that it found, so the rounds stand in different pieces of the line, there are no more of them
than there are calls, and every call is either an assignment or counted as unparsed. -/
namespace RequestSuite.Script.Setter
open Text

def CallAt (line : List Char) (place : Nat) : Prop :=
  ∃ before scope after, scope ∈ calls ∧ line = before ++ scope ++ after ∧ place = bytes before

def callPlaces (place : Nat) : List Char → List Nat
  | [] => []
  | c :: rest =>
    let later := callPlaces (place + c.utf8Size) rest
    if (call (c :: rest)).isSome then place :: later else later

structure Head where
  place : Nat
  name : List Char
  arguments : Nat
  deriving DecidableEq, Repr

def firstHead (place : Nat) : List Char → Option Head
  | [] => none
  | c :: rest =>
    match head (c :: rest) with
    | some (name, after) => some ⟨place, name, place + (bytes (c :: rest) - bytes after)⟩
    | none => firstHead (place + c.utf8Size) rest

def closingAt (text : List Char) : Option Nat :=
  (arguments (.code 0) text).map fun (value, _) => bytes value

structure Round where
  head : Head
  value : Option (List Char)
  deriving DecidableEq, Repr

namespace Round

def assignment? (round : Round) : Option Assignment :=
  round.value.map fun value =>
    ⟨String.ofList round.head.name, String.ofList (stripQuotes (trim value))⟩

def ending (round : Round) : Nat :=
  match round.value with
  | some value => round.head.arguments + bytes value + 1
  | none => round.head.arguments

end Round

def roundsFrom (line : List Char) (limit place : Nat) : Option (List Round) := do
  let (_, text) ← cutAt place line
  match firstHead place text with
  | none => some []
  | some head =>
    match limit with
    | 0 => none
    | limit + 1 =>
      let (_, text) ← cutAt head.arguments line
      match closingAt text with
      | none => some [⟨head, none⟩]
      | some length =>
        let (value, _) ← cutAt length text
        let later ← roundsFrom line limit (head.arguments + length + 1)
        some (⟨head, some value⟩ :: later)

theorem callStarts (text : List Char) :
    (call text).isSome = true ↔ ∃ scope after, scope ∈ calls ∧ text = scope ++ after := by
  constructor
  · intro found
    obtain ⟨hit, same⟩ := Option.isSome_iff_exists.1 found
    obtain ⟨scope, known, literal⟩ := List.exists_of_findSome?_eq_some same
    exact ⟨scope, hit.2, known, literalText literal⟩
  · rintro ⟨scope, after, known, rfl⟩
    rw [scopeFound known]
    rfl

theorem memCallPlaces {place start : Nat} {text : List Char} :
    place ∈ callPlaces start text ↔
      ∃ before scope after, scope ∈ calls ∧ text = before ++ scope ++ after ∧
        place = start + bytes before := by
  induction text generalizing start with
  | nil =>
    constructor
    · exact fun member => absurd member List.not_mem_nil
    · rintro ⟨before, scope, after, known, whole, -⟩
      have empty := (List.append_eq_nil_iff.1 (List.append_eq_nil_iff.1 whole.symm).1).2
      exact absurd empty (callFilled known)
  | cons c rest ih =>
    have split : place ∈ callPlaces start (c :: rest) ↔
        (call (c :: rest)).isSome = true ∧ place = start ∨
          place ∈ callPlaces (start + c.utf8Size) rest := by
      rw [callPlaces]
      split
      · rename_i here
        simp [here]
      · rename_i elsewhere
        simp [elsewhere]
    rw [split, ih, callStarts]
    constructor
    · rintro (⟨⟨scope, after, known, whole⟩, rfl⟩ | ⟨before, scope, after, known, whole, rfl⟩)
      · exact ⟨[], scope, after, known, whole, rfl⟩
      · refine ⟨c :: before, scope, after, known, congrArg (c :: ·) whole, ?_⟩
        rw [bytesCons, Nat.add_assoc]
    · rintro ⟨before, scope, after, known, whole, rfl⟩
      cases before with
      | nil => exact .inl ⟨⟨scope, after, known, whole⟩, rfl⟩
      | cons first before =>
        obtain ⟨rfl, later⟩ := List.cons.inj whole
        refine .inr ⟨before, scope, after, known, later, ?_⟩
        rw [bytesCons, Nat.add_assoc]

theorem callPlacesOrdered (start : Nat) (text : List Char) :
    (callPlaces start text).Pairwise (· < ·) := by
  induction text generalizing start with
  | nil => exact .nil
  | cons c rest ih =>
    rw [callPlaces]
    split
    · refine .cons ?_ (ih _)
      intro place member
      obtain ⟨before, -, -, -, -, rfl⟩ := memCallPlaces.1 member
      have size := c.utf8Size_pos
      omega
    · exact ih _

theorem callPlacesLater (start : Nat) (before after : List Char) :
    callPlaces (start + bytes before) after <:+ callPlaces start (before ++ after) := by
  induction before generalizing start with
  | nil => exact List.suffix_rfl
  | cons c before ih =>
    have later := ih (start + c.utf8Size)
    rw [Nat.add_assoc, ← bytesCons] at later
    rw [List.cons_append, callPlaces]
    split
    · exact later.trans (List.suffix_cons _ _)
    · exact later

theorem prefixScope {word scope : List Char} (word_ : word ∈ calls) (scope_ : scope ∈ calls)
    (after : List Char) :
    (word.isPrefixOf? (scope ++ after)).isSome = true ↔ word = scope := by
  have kinds : ∀ a ∈ calls, ∀ b ∈ calls, a <+: b → a = b := by decide
  constructor
  · intro found
    obtain ⟨rest, same⟩ := Option.isSome_iff_exists.1 found
    have whole := List.append_eq_of_isPrefixOf?_eq_some same
    rcases List.prefix_or_prefix_of_prefix (List.prefix_append word rest)
      (whole ▸ List.prefix_append scope after) with shorter | longer
    · exact kinds word word_ scope scope_ shorter
    · exact (kinds scope scope_ word word_ longer).symm
  · rintro rfl
    rw [List.isPrefixOf?_eq_some_iff_append_eq.2 rfl]
    rfl

theorem countHere (text : List Char) :
    tally (fun word => if (word.isPrefixOf? text).isSome then 1 else 0) =
      if (call text).isSome then 1 else 0 := by
  split
  · rename_i found
    obtain ⟨scope, after, known, rfl⟩ := (callStarts text).1 found
    have each : ∀ word ∈ calls, (if (word.isPrefixOf? (scope ++ after)).isSome then 1 else 0) =
        if word = scope then 1 else 0 := by
      intro word member
      simp only [prefixScope member known after]
    rw [tallyCongr each, oneScope scope known]
  · rename_i absent
    have each : ∀ word ∈ calls, (if (word.isPrefixOf? text).isSome then 1 else 0) = 0 := by
      intro word member
      refine if_neg fun found => absent ((callStarts text).2 ?_)
      obtain ⟨rest, same⟩ := Option.isSome_iff_exists.1 found
      exact ⟨word, rest, member, (List.append_eq_of_isPrefixOf?_eq_some same).symm⟩
    rw [tallyCongr each]
    rfl

theorem countPlaces (start : Nat) (text : List Char) :
    countCalls text = (callPlaces start text).length := by
  induction text generalizing start with
  | nil => rfl
  | cons c rest ih =>
    have each : ∀ word ∈ calls, countOccurrences word (c :: rest) =
        (if (word.isPrefixOf? (c :: rest)).isSome then 1 else 0) + countOccurrences word rest :=
      fun word known => countNext (callStart word known).1 (callStart word known).2 c rest
    rw [countCallsTally, tallyCongr each, tallyAdd, countHere, ← countCallsTally,
      ih (start + c.utf8Size), callPlaces]
    split
    · rw [List.length_cons, Nat.add_comm]
    · rw [Nat.zero_add]

theorem callFront {text rest : List Char} (found : call text = some ((), rest)) :
    ∃ scope, scope ≠ [] ∧ text = scope ++ rest := by
  obtain ⟨scope, known, literal⟩ := List.exists_of_findSome?_eq_some found
  exact ⟨scope, callFilled known, literalText literal⟩

theorem quotedFront {text name after : List Char} (found : quotedName text = some (name, after)) :
    after <:+ text := by
  cases text with
  | nil => contradiction
  | cons c rest =>
    rw [quotedName] at found
    split at found
    · rename_i mark tail cut
      split at found
      · obtain ⟨-, rfl⟩ := Prod.mk.inj (Option.some.inj found)
        have dropped := List.dropWhile_suffix (l := rest) (!isQuote ·)
        rw [cut] at dropped
        exact ((List.suffix_cons mark _).trans dropped).trans (List.suffix_cons c rest)
      · contradiction
    · contradiction

theorem headFront {text name after : List Char} (found : head text = some (name, after)) :
    (call text).isSome = true ∧ ∃ front, front ≠ [] ∧ text = front ++ after := by
  unfold head at found
  obtain ⟨⟨hit, rest⟩, start, tail⟩ := Option.bind_eq_some_iff.1 found
  obtain ⟨scope, filled, rfl⟩ := callFront start
  refine ⟨by rw [start]; rfl, ?_⟩
  have later : after <:+ rest := by
    dsimp only at tail
    split at tail
    · obtain ⟨⟨word, closed⟩, quoted, comma⟩ := Option.bind_eq_some_iff.1 tail
      dsimp only at comma
      split at comma
      · rename_i behind gap
        obtain ⟨-, rfl⟩ := Prod.mk.inj (Option.some.inj comma)
        have blanks : ',' :: behind <:+ closed := gap ▸ List.dropWhile_suffix isBlank
        have inner := (quotedFront quoted).trans (List.dropWhile_suffix isBlank)
        exact (((List.suffix_cons _ _).trans blanks).trans inner).trans (List.suffix_cons _ _)
      · contradiction
    · contradiction
  obtain ⟨more, rfl⟩ := later
  exact ⟨scope ++ more, List.append_ne_nil_of_left_ne_nil filled more,
    (List.append_assoc scope more after).symm⟩

theorem argumentsText {place : Place} {text value after : List Char}
    (found : arguments place text = some (value, after)) : text = value ++ ')' :: after := by
  induction text generalizing place value with
  | nil => cases place <;> contradiction
  | cons c rest ih =>
    cases place with
    | quoted depth quote escaped =>
      obtain ⟨⟨before, behind⟩, later, same⟩ := Option.map_eq_some_iff.1 found
      obtain ⟨rfl, rfl⟩ := Prod.mk.inj same
      exact congrArg (c :: ·) (ih later)
    | code depth =>
      rw [arguments] at found
      split at found
      · rename_i closes
        obtain ⟨rfl, rfl⟩ := Prod.mk.inj (Option.some.inj found)
        simp only [Bool.and_eq_true, decide_eq_true_eq] at closes
        rw [closes.1]
        rfl
      · obtain ⟨⟨before, behind⟩, later, same⟩ := Option.map_eq_some_iff.1 found
        obtain ⟨rfl, rfl⟩ := Prod.mk.inj same
        exact congrArg (c :: ·) (ih later)

theorem headsMissing {start : Nat} {text : List Char} (none : firstHead start text = none) :
    assignmentsFrom 0 text = [] := by
  induction text generalizing start with
  | nil => rfl
  | cons c rest ih =>
    rw [firstHead] at none
    cases found : head (c :: rest) with
    | some parts => simp [found] at none
    | none =>
      rw [assignmentsFrom, found]
      simp only [found] at none
      exact ih none

/- The text up to a head and behind it, and that the reader of assignments comes to it first. -/
structure Reached (start : Nat) (text : List Char) (found : Head) (lead front after : List Char) :
    Prop where
  whole : text = lead ++ (front ++ after)
  filled : front ≠ []
  here : head (front ++ after) = some (found.name, after)
  place : found.place = start + bytes lead
  begins : found.arguments = found.place + bytes front
  first : assignmentsFrom 0 text = assignmentsFrom 0 (front ++ after)

theorem headReached {start : Nat} {text : List Char} {found : Head}
    (first : firstHead start text = some found) :
    ∃ lead front after, Reached start text found lead front after := by
  induction text generalizing start with
  | nil => contradiction
  | cons c rest ih =>
    rw [firstHead] at first
    cases here : head (c :: rest) with
    | some parts =>
      obtain ⟨name, after⟩ := parts
      simp only [here] at first
      obtain ⟨-, front, filled, whole⟩ := headFront here
      rw [← Option.some.inj first, whole, bytesAppend, Nat.add_sub_cancel]
      rw [whole] at here
      exact ⟨[], front, after, rfl, filled, here, rfl, rfl, rfl⟩
    | none =>
      simp only [here] at first
      obtain ⟨lead, front, after, later⟩ := ih first
      refine ⟨c :: lead, front, after, congrArg (c :: ·) later.whole, later.filled, later.here, ?_,
        later.begins, ?_⟩
      · rw [later.place, bytesCons, Nat.add_assoc]
      · rw [assignmentsFrom, here]
        exact later.first

theorem assignmentsAt {front name after : List Char} (filled : front ≠ [])
    (found : head (front ++ after) = some (name, after)) :
    assignmentsFrom 0 (front ++ after) =
      match arguments (.code 0) after with
      | none => []
      | some (value, rest) =>
        ⟨String.ofList name, String.ofList (stripQuotes (trim value))⟩ ::
          assignmentsFrom 0 rest := by
  obtain ⟨c, others, rfl⟩ := List.exists_cons_of_ne_nil filled
  rw [List.cons_append] at found ⊢
  cases closed : arguments (.code 0) after with
  | none => simp only [assignmentsFrom, found, closed]
  | some parts =>
    obtain ⟨value, rest⟩ := parts
    have behind : (others ++ after).drop ((others ++ after).length - rest.length) = rest := by
      have whole : others ++ after = (others ++ value ++ [')']) ++ rest := by
        rw [argumentsText closed]
        simp
      rw [whole, List.length_append, Nat.add_sub_cancel, List.drop_left]
    simp only [assignmentsFrom, found, closed]
    rw [assignmentsDrop, behind]

theorem Reached.places {start : Nat} {text : List Char} {found : Head}
    {lead front after value rest : List Char}
    (reached : Reached start text found lead front after) (split : after = value ++ rest) :
    (found.place :: callPlaces (found.arguments + bytes value) rest).Sublist
      (callPlaces start text) := by
  obtain ⟨c, others, rfl⟩ := List.exists_cons_of_ne_nil reached.filled
  have called := (headFront reached.here).1
  have here := (callPlacesLater start lead (c :: others ++ after)).sublist
  rw [← reached.whole, ← reached.place] at here
  have later := (callPlacesLater (found.place + c.utf8Size) (others ++ value) rest).sublist
  rw [bytesAppend, ← Nat.add_assoc, Nat.add_assoc _ c.utf8Size, ← bytesCons, ← reached.begins,
    List.append_assoc, ← split] at later
  refine List.Sublist.trans ?_ here
  rw [List.cons_append] at called ⊢
  rw [callPlaces, if_pos called]
  exact later.cons_cons _

namespace Round

def StandsIn (line : List Char) (round : Round) : Prop :=
  ∃ before front after, line = before ++ front ++ after ∧
    Setter.head (front ++ after) = some (round.head.name, after) ∧
    round.head.place = bytes before ∧ round.head.arguments = bytes (before ++ front) ∧
    round.value = (arguments (.code 0) after).map Prod.fst

def cuts (round : Round) : List Nat :=
  [round.head.place, round.head.arguments] ++
    match round.value with
    | some value => [round.head.arguments + bytes value, round.ending]
    | none => []

theorem cutsValid {line : List Char} {round : Round} (stands : round.StandsIn line) :
    ∀ place ∈ round.cuts, String.Pos.Raw.IsValid (String.ofList line) ⟨place⟩ := by
  have valid : ∀ front back, line = front ++ back →
      String.Pos.Raw.IsValid (String.ofList line) ⟨bytes front⟩ := by
    rintro front back rfl
    exact (cutAtPosition _ _).1 (by rw [cutAtBytes]; rfl)
  obtain ⟨before, front, after, whole, -, place, begins, read⟩ := stands
  have first := valid before (front ++ after) (whole.trans (List.append_assoc _ _ _))
  have second := valid (before ++ front) after whole
  rw [← place] at first
  rw [← begins] at second
  unfold cuts ending
  cases closed : arguments (.code 0) after with
  | none =>
    rw [read, closed]
    exact List.forall_mem_cons.2 ⟨first, List.forall_mem_singleton.2 second⟩
  | some parts =>
    obtain ⟨value, rest⟩ := parts
    have behind := argumentsText closed
    have third := valid (before ++ front ++ value) (')' :: rest) (by rw [whole, behind]; simp)
    have fourth := valid (before ++ front ++ value ++ [')']) rest (by rw [whole, behind]; simp)
    rw [bytesAppend, ← begins] at third
    rw [bytesAppend, bytesAppend, ← begins] at fourth
    rw [read, closed]
    exact List.forall_mem_cons.2 ⟨first, List.forall_mem_cons.2 ⟨second,
      List.forall_mem_cons.2 ⟨third, List.forall_mem_singleton.2 fourth⟩⟩⟩

end Round

structure Scanned (before text : List Char) (rounds : List Round) : Prop where
  read : rounds.filterMap Round.assignment? = assignmentsFrom 0 text
  called : (rounds.map fun round => round.head.place).Sublist (callPlaces (bytes before) text)
  apart : rounds.Pairwise fun former latter => former.ending ≤ latter.head.place
  behind : ∀ round ∈ rounds, bytes before ≤ round.head.place
  standing : ∀ round ∈ rounds, round.StandsIn (before ++ text)

theorem scannedNothing {before text : List Char} (none : firstHead (bytes before) text = none) :
    Scanned before text [] where
  read := (headsMissing none).symm
  called := List.nil_sublist _
  apart := .nil
  behind := List.forall_mem_nil _
  standing := List.forall_mem_nil _

theorem Reached.stands {before text : List Char} {found : Head} {lead front after : List Char}
    (reached : Reached (bytes before) text found lead front after) :
    Round.StandsIn (before ++ text) ⟨found, (arguments (.code 0) after).map Prod.fst⟩ := by
  refine ⟨before ++ lead, front, after, ?_, reached.here, ?_, ?_, rfl⟩
  · rw [reached.whole]
    simp
  · rw [reached.place, bytesAppend]
  · rw [reached.begins, reached.place, bytesAppend, bytesAppend]

theorem scannedOpen {before text : List Char} {found : Head} {lead front after : List Char}
    (reached : Reached (bytes before) text found lead front after)
    (unclosed : arguments (.code 0) after = none) : Scanned before text [⟨found, none⟩] where
  read := by
    rw [reached.first, assignmentsAt reached.filled reached.here, unclosed]
    rfl
  called := by
    have places := reached.places (List.nil_append after).symm
    exact (List.singleton_sublist.2 List.mem_cons_self).trans places
  apart := List.pairwise_singleton _ _
  behind := by
    rw [List.forall_mem_singleton, reached.place]
    exact Nat.le_add_right _ _
  standing := by
    have stands := reached.stands
    rw [unclosed] at stands
    exact List.forall_mem_singleton.2 stands

theorem bytesClosed (value : List Char) : bytes (value ++ [')']) = bytes value + 1 := by
  rw [bytesAppend]
  rfl

theorem Reached.passed {before text : List Char} {found : Head}
    {lead front after value rest : List Char}
    (reached : Reached (bytes before) text found lead front after)
    (split : after = value ++ ')' :: rest) :
    before ++ text = before ++ lead ++ front ++ (value ++ [')']) ++ rest ∧
      found.arguments + bytes value + 1 = bytes (before ++ lead ++ front ++ (value ++ [')'])) := by
  constructor
  · rw [reached.whole, split]
    simp
  · rw [reached.begins, reached.place, bytesAppend, bytesClosed, bytesAppend, bytesAppend,
      Nat.add_assoc]

theorem scannedClosed {before text : List Char} {found : Head}
    {lead front after value rest : List Char} {later : List Round}
    (reached : Reached (bytes before) text found lead front after)
    (closed : arguments (.code 0) after = some (value, rest))
    (scanned : Scanned (before ++ lead ++ front ++ (value ++ [')'])) rest later) :
    Scanned before text (⟨found, some value⟩ :: later) := by
  have split := argumentsText closed
  obtain ⟨whole, ends⟩ := reached.passed split
  refine ⟨?_, ?_, ?_, ?_, ?_⟩
  · rw [List.filterMap_cons, scanned.read, reached.first,
      assignmentsAt reached.filled reached.here, closed]
    rfl
  · have places := reached.places (split.trans (List.append_cons value ')' rest))
    rw [bytesClosed, ← Nat.add_assoc, ends] at places
    exact (scanned.called.cons_cons _).trans places
  · refine .cons ?_ scanned.apart
    intro round member
    exact ends.trans_le (scanned.behind round member)
  · refine List.forall_mem_cons.2 ⟨?_, ?_⟩
    · rw [reached.place]
      exact Nat.le_add_right _ _
    · intro round member
      refine Nat.le_trans ?_ (scanned.behind round member)
      rw [bytesAppend, bytesAppend, bytesAppend]
      omega
  · have stands := reached.stands
    have later := scanned.standing
    rw [closed] at stands
    rw [← whole] at later
    exact List.forall_mem_cons.2 ⟨stands, later⟩

theorem roundsStop {before text : List Char} (none : firstHead (bytes before) text = none)
    (limit : Nat) : roundsFrom (before ++ text) limit (bytes before) = some [] := by
  unfold roundsFrom
  simp only [cutAtBytes, none, bind, Option.bind]

theorem Reached.cut {before text : List Char} {found : Head} {lead front after : List Char}
    (reached : Reached (bytes before) text found lead front after) :
    cutAt found.arguments (before ++ text) = some (before ++ lead ++ front, after) := by
  have split : before ++ text = (before ++ lead ++ front) ++ after := by
    rw [reached.whole]
    simp
  have begins : found.arguments = bytes (before ++ lead ++ front) := by
    rw [reached.begins, reached.place, bytesAppend, bytesAppend]
  rw [begins, split, cutAtBytes]

theorem roundsOpen {before text : List Char} {found : Head} {lead front after : List Char}
    (first : firstHead (bytes before) text = some found)
    (reached : Reached (bytes before) text found lead front after)
    (unclosed : arguments (.code 0) after = none) (limit : Nat) :
    roundsFrom (before ++ text) (limit + 1) (bytes before) = some [⟨found, none⟩] := by
  unfold roundsFrom
  simp only [cutAtBytes, first, reached.cut, closingAt, unclosed, bind, Option.bind, Option.map]

theorem roundsClosed {before text : List Char} {found : Head}
    {lead front after value rest : List Char} {limit : Nat} {later : List Round}
    (first : firstHead (bytes before) text = some found)
    (reached : Reached (bytes before) text found lead front after)
    (closed : arguments (.code 0) after = some (value, rest))
    (run : roundsFrom (before ++ text) limit (found.arguments + bytes value + 1) = some later) :
    roundsFrom (before ++ text) (limit + 1) (bytes before) =
      some (⟨found, some value⟩ :: later) := by
  have inner : cutAt (bytes value) after = some (value, ')' :: rest) := by
    rw [argumentsText closed, cutAtBytes]
  unfold roundsFrom
  simp only [cutAtBytes, first, reached.cut, closingAt, closed, inner, run, bind, Option.bind,
    Option.map]

/- The induction is on the limit; the calls that are left are no more than the rounds that are. -/
theorem roundsScanned {limit : Nat} (before text : List Char)
    (enough : (callPlaces (bytes before) text).length ≤ limit) :
    ∃ rounds, roundsFrom (before ++ text) limit (bytes before) = some rounds ∧
      Scanned before text rounds := by
  induction limit generalizing before text with
  | zero =>
    have none : firstHead (bytes before) text = none := by
      refine Option.eq_none_iff_forall_ne_some.2 fun found first => ?_
      obtain ⟨lead, front, after, reached⟩ := headReached first
      have length := (reached.places (List.nil_append after).symm).length_le
      rw [List.length_cons] at length
      omega
    exact ⟨[], roundsStop none 0, scannedNothing none⟩
  | succ limit ih =>
    cases first : firstHead (bytes before) text with
    | none => exact ⟨[], roundsStop first _, scannedNothing first⟩
    | some found =>
      obtain ⟨lead, front, after, reached⟩ := headReached first
      cases closed : arguments (.code 0) after with
      | none =>
        exact ⟨[⟨found, none⟩], roundsOpen first reached closed limit, scannedOpen reached closed⟩
      | some parts =>
        obtain ⟨value, rest⟩ := parts
        have behind := argumentsText closed
        obtain ⟨whole, place⟩ := reached.passed behind
        have fewer : (callPlaces (found.arguments + bytes value + 1) rest).length ≤ limit := by
          have places := reached.places (behind.trans (List.append_cons value ')' rest))
          have length := places.length_le
          rw [bytesClosed, ← Nat.add_assoc, List.length_cons] at length
          omega
        rw [place] at fewer
        obtain ⟨later, run, scanned⟩ := ih _ rest fewer
        rw [← whole, ← place] at run
        exact ⟨⟨found, some value⟩ :: later, roundsClosed first reached closed run,
          scannedClosed reached closed scanned⟩

namespace Round

theorem forward {line : List Char} {round : Round} (stands : round.StandsIn line) :
    round.head.place < round.ending := by
  obtain ⟨before, front, after, -, here, place, begins, -⟩ := stands
  obtain ⟨-, front', filled, same⟩ := headFront here
  have size := bytesFilled filled
  rw [← List.append_cancel_right same] at size
  rw [bytesAppend] at begins
  unfold ending
  cases round.value with
  | none =>
    dsimp only
    omega
  | some value =>
    dsimp only
    omega

end Round

theorem Scanned.increasing {text : List Char} {rounds : List Round}
    (scanned : Scanned [] text rounds) : (0 :: rounds.map Round.ending).Pairwise (· < ·) := by
  have forward : ∀ round ∈ rounds, round.head.place < round.ending :=
    fun round member => Round.forward (scanned.standing round member)
  refine .cons ?_ ?_
  · intro place member
    obtain ⟨round, known, rfl⟩ := List.mem_map.1 member
    exact Nat.zero_lt_of_lt (forward round known)
  · refine List.pairwise_map.2 (scanned.apart.imp_of_mem ?_)
    intro former latter _ member apart
    exact Nat.lt_of_le_of_lt apart (forward latter member)

theorem settersRead {line : List Char} {setters : Setters}
    (found : Setters.ofLine? line = some setters) :
    setters = ⟨assignmentsFrom 0 line, countCalls line - (assignmentsFrom 0 line).length⟩ := by
  unfold Setters.ofLine? at found
  dsimp only at found
  split at found
  · contradiction
  · exact (Option.some.inj found).symm

def assignedPlaces (rounds : List Round) : List Nat :=
  (rounds.filter (·.value.isSome)).map (·.head.place)

theorem assignedLength (rounds : List Round) :
    (rounds.filterMap Round.assignment?).length = (assignedPlaces rounds).length := by
  have same : ∀ round : Round, round.assignment?.isSome = round.value.isSome :=
    fun round => Option.isSome_map
  simp only [assignedPlaces, List.length_filterMap_eq_countP, List.length_map,
    List.countP_eq_length_filter, same]

theorem settersAccounted {line : List Char} {setters : Setters}
    (found : Setters.ofLine? line = some setters) :
    setters.assignments.length + setters.unparsed = countCalls line ∧
    ∃ (rounds : List Round) (places unparsed : List Nat),
      roundsFrom line (countCalls line) 0 = some rounds ∧ rounds.length ≤ countCalls line ∧
      rounds.filterMap Round.assignment? = setters.assignments ∧
      (0 :: rounds.map Round.ending).Pairwise (· < ·) ∧
      (rounds.Pairwise fun former latter => former.ending ≤ latter.head.place) ∧
      (∀ round ∈ rounds, round.StandsIn line ∧
        ∀ place ∈ round.cuts, String.Pos.Raw.IsValid (String.ofList line) ⟨place⟩) ∧
      (places.Pairwise (· < ·) ∧ places.length = countCalls line ∧
        ∀ place, place ∈ places ↔ CallAt line place) ∧
      places.Perm (assignedPlaces rounds ++ unparsed) ∧ unparsed.length = setters.unparsed := by
  have count := countPlaces 0 line
  obtain ⟨rounds, run, scanned⟩ := roundsScanned [] line count.ge
  have assigned : (assignedPlaces rounds).Sublist (callPlaces 0 line) :=
    (List.filter_sublist.map _).trans scanned.called
  have fewer := assigned.length_le
  obtain ⟨unparsed, parts⟩ := assigned.exists_perm_append
  have whole := parts.length_eq
  rw [List.length_append, ← count] at whole
  have read := settersRead found
  rw [← scanned.read] at read
  have missing : unparsed.length = setters.unparsed := by
    rw [read, assignedLength]
    dsimp only
    omega
  have known : ∀ place, place ∈ callPlaces 0 line ↔ CallAt line place := by
    intro place
    rw [memCallPlaces]
    simp only [Nat.zero_add]
    rfl
  refine ⟨?_, rounds, callPlaces 0 line, unparsed, ?_, ?_, ?_, scanned.increasing, scanned.apart, ?_,
    ⟨callPlacesOrdered 0 line, count.symm, known⟩, parts, missing⟩
  · rw [← missing, read, assignedLength]
    exact whole.symm
  · exact run
  · rw [count, ← List.length_map]
    exact scanned.called.length_le
  · rw [read]
  · intro round member
    have stands := scanned.standing round member
    exact ⟨stands, Round.cutsValid stands⟩

def nestedLine : List Char :=
  "é pm.globals.set('a', f(pm.variables.set('b', 1))); ".toList ++
    "pm.environment.set(k, 1); pm.variables.set('c', (".toList

theorem nestedCallsCounted :
    Setters.ofLine? nestedLine = some ⟨[⟨"a", "f(pm.variables.set('b', 1))"⟩], 3⟩ ∧
      countCalls nestedLine = 4 ∧
      ∃ rounds, roundsFrom nestedLine 4 0 = some rounds ∧ rounds.length ≤ 4 ∧
        rounds.filterMap Round.assignment? = [⟨"a", "f(pm.variables.set('b', 1))"⟩] := by
  have found : Setters.ofLine? nestedLine =
      some ⟨[⟨"a", "f(pm.variables.set('b', 1))"⟩], 3⟩ := by decide +kernel
  obtain ⟨sum, rounds, -, -, run, fewer, read, -⟩ := settersAccounted found
  have count : countCalls nestedLine = 4 := sum.symm
  rw [count] at run fewer
  exact ⟨found, count, rounds, run, fewer, read⟩

end RequestSuite.Script.Setter
