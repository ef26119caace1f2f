import RequestSuite.Proofs.Json.Levels
import RequestSuite.Proofs.Json.Values
import RequestSuite.Proofs.Text.Cuts
import RequestSuite.Suite.SpecFile

/-! The options of the call that sends a request. They are printed as an object and moved in by one
step, which prints the object one level deeper, so a reader of the call gets the options back. -/
namespace RequestSuite.Suite.SpecFile
open Text Json

theorem joinMore (separator first next : List Char) (rest : List (List Char)) :
    joinWith separator (first :: next :: rest) =
      first ++ separator ++ joinWith separator (next :: rest) := rfl

theorem deepenJoined {first : List Char} {rest : List (List Char)}
    (unbroken : ∀ line ∈ first :: rest, '\n' ∉ line) :
    deepen (joinWith ['\n'] (first :: rest)) =
      joinWith ['\n'] (first :: rest.map (' ' :: ' ' :: ·)) := by
  induction rest generalizing first with
  | nil => exact deepenUnbroken (unbroken first List.mem_cons_self)
  | cons next rest ih =>
    obtain ⟨here, later⟩ := List.forall_mem_cons.1 unbroken
    have moved : joinWith ['\n'] ((' ' :: ' ' :: next) :: rest.map (' ' :: ' ' :: ·)) =
        ' ' :: ' ' :: joinWith ['\n'] (next :: rest.map (' ' :: ' ' :: ·)) := by
      cases rest <;> rfl
    have line : deepen ['\n'] = ['\n', ' ', ' '] := rfl
    rw [List.map_cons, joinMore, joinMore, moved, ← ih later, deepenAppend, deepenAppend,
      deepenUnbroken here, line, List.append_assoc, List.append_assoc]
    rfl

theorem lastLine {text : List Char} {c : Char} (last : text.getLast? = some c) (other : c ≠ '\n') :
    ∃ line, (lines text).getLast? = some line ∧ line ≠ [] := by
  induction text with
  | nil => contradiction
  | cons first rest ih =>
    cases rest with
    | nil =>
      have same : first = c := Option.some.inj last
      subst same
      rw [lines, splitAt, if_neg other]
      exact ⟨[first], rfl, List.cons_ne_nil _ _⟩
    | cons next others =>
      rw [List.getLast?_cons_cons] at last
      obtain ⟨line, found, filled⟩ := ih last
      rw [lines] at found
      rw [lines, splitAt]
      split
      · exact ⟨line, by rw [List.getLast?_cons, found]; rfl, filled⟩
      · cases cut : splitAt '\n' (next :: others) with
        | nil => exact absurd cut (splitAtNonempty _ _)
        | cons part parts =>
          rw [cut] at found
          cases parts with
          | nil => exact ⟨first :: part, rfl, List.cons_ne_nil _ _⟩
          | cons second parts => exact ⟨line, found, filled⟩

theorem printedWhole {text : List Char} {c : Char} (plain : '\r' ∉ text)
    (last : text.getLast? = some c) (other : c ≠ '\n') : printedLines text = lines text := by
  obtain ⟨line, ends, filled⟩ := lastLine last other
  have kept : (lines text).dropLast.map (fun line =>
      if line.getLast? = some '\r' then line.dropLast else line) = (lines text).dropLast := by
    refine (List.map_congr_left fun part member => if_neg ?_).trans (List.map_id _)
    intro back
    have inside := splitAtSubset ((List.dropLast_sublist _).subset member)
    exact plain (inside (List.mem_of_getLast? back))
  unfold printedLines
  dsimp only
  rw [kept, ends]
  dsimp only
  rw [if_neg (by simpa using filled)]
  exact List.dropLast_append_getLast? line ends

theorem indentRestDeepens {text deeper : List Char} (deepens : Deepens text deeper) {c : Char}
    (last : text.getLast? = some c) (other : c ≠ '\n') : indentRest text = deeper := by
  have plain : '\r' ∉ text := by
    intro member
    rcases deepens.spread '\r' member with same | printed
    · exact absurd same (by decide)
    · exact absurd printed (by decide)
  have joined : joinWith ['\n'] (lines text) = text := joinSplit '\n' text
  have unbroken : ∀ part ∈ lines text, '\n' ∉ part := fun _ => splitAtPart
  rw [indentRest, printedWhole plain last other]
  cases cut : lines text with
  | nil => exact absurd cut (splitAtNonempty _ _)
  | cons first rest =>
    rw [cut] at joined unbroken
    rw [← deepens.moved, ← joined, deepenJoined unbroken]

theorem membersLast (level : Nat) (members : List (String × Value)) :
    (Value.prettyMembers level members).getLast? = some '}' := by
  induction members with
  | nil => exact List.getLast?_concat
  | cons member rest ih => rw [Value.prettyMembers, List.getLast?_append, ih]; rfl

theorem objectLast (level : Nat) (members : List (String × Value)) :
    ((Value.object members).prettyChars level).getLast? = some '}' := by
  cases members with
  | nil => rfl
  | cons member rest => rw [Value.prettyChars, List.getLast?_append, membersLast]; rfl

theorem indentObject {members : List (String × Value)} (lexical : (Value.object members).IsLexical)
    (level : Nat) :
    indentRest ((Value.object members).prettyChars level) =
      (Value.object members).prettyChars (level + 1) :=
  indentRestDeepens (Value.prettyDeepens lexical level) (objectLast level members) (by decide)

def opening (request : Request.Resolved) : List Char :=
  "request.".toList ++ (callName request.method).toList ++ "('".toList ++
    Quoted.encode request.url.toList ++ ['\x27'] ++ ", ".toList

theorem callOptions {request : Request.Resolved} (some : options request ≠ [])
    (lexical : (Value.object (options request)).IsLexical) :
    call request = opening request ++ (Value.object (options request)).prettyChars 1 ++ [')'] := by
  have moved := indentObject lexical 0
  unfold call
  cases found : options request with
  | nil => contradiction
  | cons member rest =>
    rw [found] at moved
    dsimp only
    rw [moved]
    rfl

theorem optionsBack {request : Request.Resolved}
    (lexical : (Value.object (options request)).IsLexical)
    (readable : (Value.object (options request)).IsReadable Value.maxLevels) :
    Value.ofText? (String.ofList ((Value.object (options request)).prettyChars 1)) =
      some (.object (options request)) := by
  have back := Value.printedBack lexical readable 1 (List.forall_mem_nil _)
  rwa [List.append_nil] at back

end RequestSuite.Suite.SpecFile
