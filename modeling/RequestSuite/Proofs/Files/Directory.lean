import Mathlib.Data.List.Basic
import RequestSuite.Files.Workspace
import RequestSuite.Proofs.Files.Descent

/-! Where paths lead. A path whose names are all directories leads to the last of them, and a path
that goes down from it leads to the location below. -/
namespace RequestSuite.Files.Workspace
open Files.Path (IsPlain isName)

def origin (workspace : Workspace) (path : Path) : Location :=
  if path.isAbsolute then [] else workspace.current

def directoryAt (workspace : Workspace) (path : Path) : Except Fault Location :=
  path.names.foldlM workspace.enter (workspace.origin path)

theorem startOrigin {workspace : Workspace} {path : Path} {start : Location}
    (started : workspace.start path = .ok start) : start = workspace.origin path := by
  unfold Workspace.start at started
  split at started
  · contradiction
  split at started
  · contradiction
  split at started
  · contradiction
  exact (Except.ok.inj started).symm

theorem startFound {workspace : Workspace} {path : Path} (filled : path ≠ .empty) :
    workspace.start path ≠ .error .notFound := by
  unfold Workspace.start
  split
  · simp
  split
  · simp
  · simp

theorem enterPlain {workspace : Workspace} {here next : Location} {name : String}
    (plain : name ≠ "..") (entered : workspace.enter here name = .ok next) :
    next = here ++ [name] ∧ name.utf8ByteSize ≤ maxName ∧
      workspace.entry? (here ++ [name]) = some .directory := by
  unfold enter at entered
  rw [if_neg plain] at entered
  split at entered
  · contradiction
  rename_i short
  split at entered
  · rename_i found
    exact ⟨(Except.ok.inj entered).symm, Nat.le_of_not_lt short, found⟩
  · contradiction
  · contradiction

theorem enterDirectory {workspace : Workspace} {here : Location} {name : String}
    (plain : name ≠ "..") (short : name.utf8ByteSize ≤ maxName)
    (found : workspace.entry? (here ++ [name]) = some .directory) :
    workspace.enter here name = .ok (here ++ [name]) := by
  rw [enter, if_neg plain, if_neg (Nat.not_lt.2 short), found]

theorem enterAll {workspace : Workspace} {here last : Location} {names : List String}
    (plain : ∀ name ∈ names, name ≠ "..")
    (entered : names.foldlM workspace.enter here = .ok last) : last = here ++ names := by
  induction names generalizing here with
  | nil => exact (Except.ok.inj entered).symm.trans (List.append_nil here).symm
  | cons name rest ih =>
    rw [List.foldlM_cons] at entered
    cases first : workspace.enter here name with
    | error fault => simp [first, bind, Except.bind] at entered
    | ok next =>
      rw [first] at entered
      obtain ⟨same, -, -⟩ := enterPlain (plain name List.mem_cons_self) first
      have later := ih (fun other member => plain other (List.mem_cons_of_mem _ member)) entered
      rw [later, same, List.append_assoc]
      rfl

theorem directoryDescend (workspace : Workspace) (path : Path) {names : List String}
    (plain : ∀ name ∈ names, IsPlain name) :
    workspace.directoryAt (path.descend names) =
      (workspace.directoryAt path).bind fun here => names.foldlM workspace.enter here := by
  have named : ∀ name ∈ names, isName name = true := fun name member => (plain name member).1
  rw [directoryAt, Path.namesDescend path named, List.foldlM_append, origin,
    Path.absoluteDescend path named]
  rfl

theorem directoryParent (workspace : Workspace) (path : Path) {name : String}
    (named : isName name = true) :
    workspace.directoryAt (path.child name).parent = workspace.directoryAt path := by
  obtain ⟨names, absolute⟩ := Path.parentChild path named
  rw [directoryAt, names, origin, absolute]
  rfl

/- The last name of a path needs no entry; those before it are directories. -/
theorem locateChild (workspace : Workspace) (path : Path) {name : String} (plain : IsPlain name) :
    workspace.locate (path.child name) =
      (workspace.start (path.child name)).bind fun _ =>
        (workspace.directoryAt path).bind fun here =>
          if maxName < name.utf8ByteSize then .error .nameTooLong else .ok (here ++ [name]) := by
  unfold locate
  cases started : workspace.start (path.child name) with
  | error fault => rfl
  | ok start =>
    have begins := startOrigin started
    rw [origin, Path.absoluteChild path plain.1] at begins
    rw [Path.namesChild path plain.1, (Path.childEnds path plain.1).2]
    have last : (path.names ++ [name]).getLast? = some name := List.getLast?_concat
    have lower : (false || decide (name = "..")) = false := by simpa using plain.2
    simp only [last, lower, List.dropLast_concat, begins, bind, Except.bind, Bool.false_eq_true,
      if_false]
    rw [directoryAt, origin]
    cases path.names.foldlM workspace.enter (if path.isAbsolute then [] else workspace.current) with
    | error fault => rfl
    | ok here =>
      simp only
      split <;> rfl

theorem locateBelow {workspace : Workspace} {path : Path} {name : String} {location : Location}
    (plain : IsPlain name) (located : workspace.locate (path.child name) = .ok location) :
    ∃ here, workspace.directoryAt path = .ok here ∧ location = here ++ [name] ∧
      name.utf8ByteSize ≤ maxName := by
  rw [locateChild workspace path plain] at located
  cases started : workspace.start (path.child name) with
  | error fault => simp [started, Except.bind] at located
  | ok start =>
    cases found : workspace.directoryAt path with
    | error fault => simp [started, found, Except.bind] at located
    | ok here =>
      simp only [started, found, Except.bind] at located
      split at located
      · contradiction
      · rename_i short
        exact ⟨here, rfl, (Except.ok.inj located).symm, Nat.le_of_not_lt short⟩

theorem locateDescend {workspace : Workspace} {path : Path} {names : List String}
    {location : Location} (some : names ≠ []) (plain : ∀ name ∈ names, IsPlain name)
    (located : workspace.locate (path.descend names) = .ok location) :
    ∃ here, workspace.directoryAt path = .ok here ∧ location = here ++ names := by
  obtain ⟨above, name, rfl⟩ := (List.eq_nil_or_concat' names).resolve_left some
  obtain ⟨upper, last⟩ := List.forall_mem_append.1 plain
  rw [Path.descendLast] at located
  obtain ⟨found, leads, same, -⟩ := locateBelow (last name List.mem_cons_self) located
  rw [directoryDescend workspace path upper] at leads
  cases base : workspace.directoryAt path with
  | error fault => simp [base, Except.bind] at leads
  | ok here =>
    rw [base] at leads
    have entered := enterAll (fun other member => (upper other member).2) leads
    exact ⟨here, rfl, by rw [same, entered, List.append_assoc]⟩

theorem locateApart {workspace : Workspace} {path : Path} {names others : List String}
    {location : Location} (some : names ≠ []) (plain : ∀ name ∈ names, IsPlain name)
    (othersSome : others ≠ []) (othersPlain : ∀ name ∈ others, IsPlain name)
    (located : workspace.locate (path.descend names) = .ok location)
    (again : workspace.locate (path.descend others) = .ok location) : names = others := by
  obtain ⟨here, leads, first⟩ := locateDescend some plain located
  obtain ⟨there, leads', second⟩ := locateDescend othersSome othersPlain again
  cases leads.symm.trans leads'
  exact List.append_cancel_left (first.symm.trans second)

theorem locateDirectory {workspace : Workspace} {path : Path} {here : Location}
    (leads : workspace.directoryAt path = .ok here) :
    (∃ fault, workspace.start path = .error fault ∧ workspace.locate path = .error fault) ∨
      workspace.locate path = .ok here := by
  unfold locate
  cases started : workspace.start path with
  | error fault => exact .inl ⟨fault, rfl, rfl⟩
  | ok start =>
    right
    have begins := startOrigin started
    rw [directoryAt, ← begins] at leads
    simp only [bind, Except.bind]
    cases last : path.names.getLast? with
    | none =>
      rw [List.getLast?_eq_none_iff.1 last] at leads
      exact leads
    | some name =>
      obtain ⟨before, split⟩ := List.getLast?_eq_some_iff.1 last
      simp only
      split
      · exact leads
      · rename_i lower
        have plain : name ≠ ".." := fun same => lower (by simp [same])
        rw [split, List.foldlM_append] at leads
        rw [split, List.dropLast_concat]
        cases above : before.foldlM workspace.enter start with
        | error fault => simp [above, bind, Except.bind] at leads
        | ok upper =>
          rw [above] at leads
          have entered : [name].foldlM workspace.enter upper = .ok here := leads
          simp only [List.foldlM_cons, List.foldlM_nil, bind_pure] at entered
          obtain ⟨same, short, -⟩ := enterPlain plain entered
          simp only [if_neg (Nat.not_lt.2 short), same]
          rfl

end RequestSuite.Files.Workspace
