import RequestSuite.Proofs.Text.Cuts
import RequestSuite.Script.TestScript

/-! A test script as a row of events: a block that opens, or a check inside of one. What a line
tells depends on the text before it only through one flag, and all that a script means is read off
its events and the number of lines that tell nothing. -/
namespace RequestSuite.Script.TestScript
open Text

inductive Event where
  | marker (name : Option String)
  | check (check : Check)
  deriving DecidableEq, Repr

namespace Event

def name? : Event → Option String
  | marker name => name
  | check _ => none

def marker? : Event → Option (Option String)
  | marker name => some name
  | check _ => none

def check? : Event → Option Check
  | marker _ => none
  | check found => some found

def lines : Event → List (List Char)
  | marker (some name) => [[], "  // ".toList ++ name.toList]
  | marker none => []
  | check found => ["    ".toList ++ found.statement.toList]

def text (event : Event) : List Char := event.lines.flatMap fun line => line ++ ['\n']

end Event

structure Reading where
  events : List Event
  dropped : Nat
  inside : Bool
  deriving DecidableEq, Repr

namespace Reading

def silent (inside : Bool) : Reading := ⟨[], 0, inside⟩

def nothing (inside : Bool) (line : List Char) : Reading :=
  ⟨[], if allBlank line then 0 else 1, inside⟩

def inBlock (line : List Char) : Reading :=
  match Assertion.check? line with
  | some check => ⟨[.check check], 0, true⟩
  | none => nothing true line

def followedBy (first later : Reading) : Reading :=
  ⟨first.events ++ later.events, first.dropped + later.dropped, later.inside⟩

def ofMarker (marker : TestMarker) : Reading :=
  let body := if allBlank marker.body then silent true else inBlock marker.body
  let block := followedBy ⟨[.marker marker.name], 0, true⟩ body
  if marker.closes then { block with inside := false } else block

def ofLine (inside : Bool) (line : List Char) : Reading :=
  match TestMarker.ofLine? line with
  | some marker => ofMarker marker
  | none =>
    if inside && closesTest line then silent false
    else if inside then inBlock line
    else nothing false line

def ofLines (inside : Bool) : List (List Char) → Reading
  | [] => silent inside
  | line :: rest => (ofLine inside line).followedBy (ofLines (ofLine inside line).inside rest)

def ofText (script : String) : Reading := ofLines false (Text.lines script.toList)

theorem followedByAssoc (a b c : Reading) :
    (a.followedBy b).followedBy c = a.followedBy (b.followedBy c) := by
  simp only [followedBy, List.append_assoc, Nat.add_assoc]

theorem silentFollowedBy (inside : Bool) (later : Reading) :
    (silent inside).followedBy later = later := by
  simp only [silent, followedBy, List.nil_append, Nat.zero_add]

theorem ofLinesSingle (inside : Bool) (line : List Char) :
    ofLines inside [line] = ofLine inside line := by
  simp only [ofLines, followedBy, silent, List.append_nil, Nat.add_zero]

theorem ofLinesAppend (inside : Bool) (before after : List (List Char)) :
    ofLines inside (before ++ after) =
      (ofLines inside before).followedBy (ofLines (ofLines inside before).inside after) := by
  induction before generalizing inside with
  | nil => exact (silentFollowedBy inside (ofLines inside after)).symm
  | cons line rest ih =>
    rw [List.cons_append, ofLines, ih, ofLines, followedByAssoc]
    rfl

end Reading

def named (current : String) : List Event → List NamedCheck
  | [] => []
  | .marker name :: rest => named (name.getD "") rest
  | .check check :: rest => ⟨current, check⟩ :: named current rest

def nameAfter (current : String) : List Event → String
  | [] => current
  | .marker name :: rest => nameAfter (name.getD "") rest
  | .check _ :: rest => nameAfter current rest

theorem namedAppend (current : String) (before after : List Event) :
    named current (before ++ after) =
      named current before ++ named (nameAfter current before) after := by
  induction before generalizing current with
  | nil => rfl
  | cons event rest ih =>
    cases event with
    | marker name => exact ih (name.getD "")
    | check check => exact congrArg (⟨current, check⟩ :: ·) (ih current)

theorem nameAfterAppend (current : String) (before after : List Event) :
    nameAfter current (before ++ after) = nameAfter (nameAfter current before) after := by
  induction before generalizing current with
  | nil => rfl
  | cons event rest ih =>
    cases event with
    | marker name => exact ih (name.getD "")
    | check check => exact ih current

def Opened (events : List Event) : Prop := ∀ check rest, events ≠ .check check :: rest

theorem namedOpened {events : List Event} (opened : Opened events) (a b : String) :
    named a events = named b events := by
  cases events with
  | nil => rfl
  | cons event rest =>
    cases event with
    | marker name => rfl
    | check check => exact absurd rfl (opened check rest)

namespace Reading

theorem ofMarkerEvents (marker : TestMarker) :
    ∃ rest, (ofMarker marker).events = .marker marker.name :: rest := by
  unfold ofMarker
  cases marker.closes <;> exact ⟨_, rfl⟩

theorem ofLineMarker {line : List Char} {marker : TestMarker}
    (found : TestMarker.ofLine? line = some marker) (inside : Bool) :
    ofLine inside line = ofMarker marker := by
  rw [ofLine, found]

theorem ofLineOutside {line : List Char} (absent : TestMarker.ofLine? line = none) :
    ofLine false line = nothing false line := by
  rw [ofLine, absent]
  rfl

theorem ofLinesOpened (lines : List (List Char)) : Opened (ofLines false lines).events := by
  induction lines with
  | nil => exact fun check rest same => nomatch same
  | cons line rest ih =>
    rw [ofLines]
    cases found : TestMarker.ofLine? line with
    | none =>
      rw [ofLineOutside found]
      exact ih
    | some marker =>
      obtain ⟨events, first⟩ := ofMarkerEvents marker
      rw [ofLineMarker found, followedBy, first]
      exact fun check rest same => nomatch same

end Reading

theorem namedChecks (current : String) (events : List Event) :
    (named current events).map NamedCheck.check = events.filterMap Event.check? := by
  induction events generalizing current with
  | nil => rfl
  | cons event rest ih =>
    cases event with
    | marker name => exact ih (name.getD "")
    | check check => exact congrArg (check :: ·) (ih current)

theorem nameAfterLast (current : String) (events : List Event) :
    nameAfter current events =
      ((events.filterMap Event.marker?).getLast?.getD (some current)).getD "" := by
  induction events generalizing current with
  | nil => rfl
  | cons event rest ih =>
    cases event with
    | marker name =>
      have markers : (Event.marker name :: rest).filterMap Event.marker? =
          name :: rest.filterMap Event.marker? := rfl
      rw [nameAfter, ih, markers, List.getLast?_cons]
      cases (rest.filterMap Event.marker?).getLast? <;> rfl
    | check check => exact ih current

theorem namedAt {before after : List Event} {check : Check}
    (opened : Opened (before ++ .check check :: after)) (current : String) :
    ∃ name, (before.filterMap Event.marker?).getLast? = some name ∧
      (named current (before ++ .check check :: after))[(before.filterMap Event.check?).length]? =
        some ⟨name.getD "", check⟩ := by
  have known : (before.filterMap Event.marker?).getLast?.isSome = true := by
    cases before with
    | nil => exact absurd rfl (opened check after)
    | cons event rest =>
      cases event with
      | marker name => exact List.getLast?_isSome.2 (List.cons_ne_nil _ _)
      | check first => exact absurd rfl (opened first _)
  obtain ⟨name, last⟩ := Option.isSome_iff_exists.1 known
  have length : (before.filterMap Event.check?).length = (named current before).length := by
    rw [← namedChecks current before, List.length_map]
  refine ⟨name, last, ?_⟩
  rw [namedAppend, named, nameAfterLast current before, last, length,
    List.getElem?_append_right (Nat.le_refl _), Nat.sub_self]
  rfl

namespace Reader

def told (reader : Reader) (reading : Reading) : Reader :=
  { code := reader.code ++ reading.events.flatMap Event.text
    tests := reader.tests ++ reading.events.filterMap Event.name?
    checks := reader.checks ++ named reader.current reading.events
    dropped := reader.dropped + reading.dropped
    inside := reading.inside
    current := nameAfter reader.current reading.events }

theorem toldFollowedBy (reader : Reader) (first later : Reading) :
    reader.told (first.followedBy later) = (reader.told first).told later := by
  simp only [told, Reading.followedBy, List.flatMap_append, List.filterMap_append, namedAppend,
    nameAfterAppend, List.append_assoc, Nat.add_assoc]

theorem toldNothing (reader : Reader) : reader.told (.silent reader.inside) = reader := by
  simp only [told, Reading.silent, List.flatMap_nil, List.filterMap_nil, named, nameAfter,
    List.append_nil, Nat.add_zero]

theorem enterTold (reader : Reader) (name : Option String) :
    reader.enter name = reader.told ⟨[.marker name], 0, true⟩ := by
  cases name with
  | none => simp [enter, told, Event.text, Event.lines, Event.name?, named, nameAfter]
  | some name => simp [enter, told, Event.text, Event.lines, Event.name?, named, nameAfter]

theorem dropTold (reader : Reader) (line : List Char) :
    (if allBlank line then reader else { reader with dropped := reader.dropped + 1 }) =
      reader.told (.nothing reader.inside line) := by
  cases blank : allBlank line <;> simp [told, Reading.nothing, blank, named, nameAfter]

theorem readTold {reader : Reader} (inside : reader.inside = true) (line : List Char) :
    reader.read line = reader.told (.inBlock line) := by
  unfold read Reading.inBlock
  cases Assertion.check? line with
  | none => exact (dropTold reader line).trans (by rw [inside])
  | some check => simp [told, Event.text, Event.lines, Event.name?, named, nameAfter, inside]

theorem markTold (reader : Reader) (marker : TestMarker) :
    reader.mark marker = reader.told (.ofMarker marker) := by
  have block : (if allBlank marker.body then reader.enter marker.name
      else (reader.enter marker.name).read marker.body) =
      reader.told (.followedBy ⟨[.marker marker.name], 0, true⟩
        (if allBlank marker.body then .silent true else .inBlock marker.body)) := by
    rw [toldFollowedBy, ← enterTold]
    have inside : (reader.enter marker.name).inside = true := by cases marker.name <;> rfl
    split
    · rw [← inside, toldNothing]
    · exact readTold inside marker.body
  unfold mark Reading.ofMarker
  dsimp only
  rw [block]
  cases marker.closes <;> rfl

theorem stepTold (reader : Reader) (line : List Char) :
    reader.step line = reader.told (.ofLine reader.inside line) := by
  unfold step Reading.ofLine
  cases TestMarker.ofLine? line with
  | some marker => exact markTold reader marker
  | none =>
    cases inside : reader.inside with
    | false =>
      have dropped := dropTold reader line
      rw [inside] at dropped
      exact dropped
    | true =>
      cases closesTest line with
      | false => exact readTold inside line
      | true => simp [told, Reading.silent, named, nameAfter]

theorem runTold (reader : Reader) (lines : List (List Char)) :
    reader.run lines = reader.told (.ofLines reader.inside lines) := by
  induction lines generalizing reader with
  | nil => exact (toldNothing reader).symm
  | cons line rest ih =>
    let first := Reading.ofLine reader.inside line
    calc reader.run (line :: rest) = (reader.step line).run rest := rfl
      _ = (reader.told first).run rest := by rw [stepTold]
      _ = (reader.told first).told (.ofLines first.inside rest) := ih (reader.told first)
      _ = reader.told (.ofLines reader.inside (line :: rest)) :=
        (toldFollowedBy reader first (.ofLines first.inside rest)).symm

end Reader

theorem ofTextReading (script : String) :
    ofText script =
      { code := String.ofList (header ++ (Reading.ofText script).events.flatMap Event.text)
        tests := (Reading.ofText script).events.filterMap Event.name?
        checks := named "" (Reading.ofText script).events
        dropped := (Reading.ofText script).dropped } := by
  unfold ofText
  rw [Reader.runTold, ofReader, Reader.told]
  simp only [Reader.start, List.nil_append, Nat.zero_add]
  rfl

/- Lines may be exchanged for others that tell the same inside of a block and outside. -/
theorem ofTextExchanged {script other : String} {before after form form' : List (List Char)}
    (same : ∀ inside, Reading.ofLines inside form = Reading.ofLines inside form')
    (split : lines script.toList = before ++ form ++ after)
    (split' : lines other.toList = before ++ form' ++ after) : ofText script = ofText other := by
  have told : Reading.ofText script = Reading.ofText other := by
    unfold Reading.ofText
    rw [split, split']
    simp only [Reading.ofLinesAppend, same]
  rw [ofTextReading, ofTextReading, told]

end RequestSuite.Script.TestScript
