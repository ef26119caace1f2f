import Mathlib.Data.Finset.Card
import Mathlib.Data.List.TakeWhile
import RequestSuite.Script.Cache

/-! A cache under any row of calls. As long as no two of the scripts have one digest, it gives each
script the meaning that reading it alone would give, and the object that the first reading since the
last clearing gave; what it counts can be told from the calls. -/
namespace RequestSuite.Script.Cache

inductive Call where
  | read (script : String)
  | find (script : String)
  | fingerprint (script : String)
  | clear
  deriving DecidableEq, Repr

def Call.text? : Call → Option String
  | .read script => if script = "" then none else some script
  | _ => none

def Call.looked? : Call → Option String
  | .find script => some script
  | other => other.text?

inductive Answer where
  | issued (made : Issued)
  | found (kept : Option Issued)
  | digest (text : String)
  | cleared
  deriving DecidableEq, Repr

def call (cache : Cache) : Call → Cache × Answer
  | .read script => ((cache.read script).1, .issued (cache.read script).2)
  | .find script => (cache, .found (cache.get? script))
  | .fingerprint script => (cache, .digest (Cache.fingerprint script))
  | .clear => (cache.clear, .cleared)

def run (cache : Cache) : List Call → Cache × List (Call × Answer)
  | [] => (cache, [])
  | first :: rest =>
    let (next, answer) := cache.call first
    let (last, done) := next.run rest
    (last, (first, answer) :: done)

theorem runAppend (cache : Cache) (before after : List Call) :
    cache.run (before ++ after) =
      (((cache.run before).1.run after).1,
        (cache.run before).2 ++ ((cache.run before).1.run after).2) := by
  induction before generalizing cache with
  | nil => rfl
  | cons first rest ih => simp [run, ih]

theorem runLast (cache : Cache) (calls : List Call) (last : Call) :
    cache.run (calls ++ [last]) =
      (((cache.run calls).1.call last).1,
        (cache.run calls).2 ++ [(last, ((cache.run calls).1.call last).2)]) :=
  cache.runAppend calls [last]

theorem runCalls (cache : Cache) (calls : List Call) : (cache.run calls).2.map Prod.fst = calls := by
  induction calls generalizing cache with
  | nil => rfl
  | cons first rest ih => simp [run, ih]

theorem runAt {cache : Cache} {calls : List Call} {before after : List (Call × Answer)}
    {done : Call × Answer} (split : (cache.run calls).2 = before ++ done :: after) :
    before = (cache.run (before.map Prod.fst)).2 ∧
      done.2 = ((cache.run (before.map Prod.fst)).1.call done.1).2 := by
  have row : calls = before.map Prod.fst ++ done.1 :: after.map Prod.fst := by
    rw [← runCalls cache calls, split, List.map_append, List.map_cons]
  have size := congrArg List.length (runCalls cache (before.map Prod.fst))
  rw [List.length_map, List.length_map] at size
  rw [row, runAppend, run] at split
  obtain ⟨early, late⟩ := List.append_inj split size
  exact ⟨early.symm, congrArg Prod.snd (List.cons.inj late).1.symm⟩

def sinceClear (done : List (Call × Answer)) : List (Call × Answer) :=
  (done.reverse.takeWhile fun entry => entry.1 ≠ .clear).reverse

def told? : Call × Answer → Option (String × Issued)
  | (.read script, .issued made) => if script = "" then none else some (script, made)
  | _ => none

def told (done : List (Call × Answer)) : List (String × Issued) := (sinceClear done).filterMap told?

theorem toldCleared (done : List (Call × Answer)) (answer : Answer) :
    told (done ++ [(.clear, answer)]) = [] := by
  simp [told, sinceClear]

theorem toldLast (done : List (Call × Answer)) (last : Call) (answer : Answer)
    (other : last ≠ .clear) :
    told (done ++ [(last, answer)]) = told done ++ (told? (last, answer)).toList := by
  have kept : sinceClear (done ++ [(last, answer)]) = sinceClear done ++ [(last, answer)] := by
    simp [sinceClear, other]
  rw [told, kept, List.filterMap_append]
  cases same : told? (last, answer) <;> simp [same, told]

def Apart (scripts : List String) : Prop :=
  ∀ script ∈ scripts, ∀ other ∈ scripts, fingerprint script = fingerprint other → script = other

/- What a cache knows and counts is told by the readings since it was cleared. -/
structure Follows (scripts : List String) (cache : Cache) (told : List (String × Issued)) :
    Prop where
  scope : ∀ entry ∈ told, entry.1 ∈ scripts ∧ entry.1 ≠ ""
  kept : ∀ script ∈ scripts, cache.get? script = told.lookup script
  meant : ∀ entry ∈ told, entry.2.script = .ofText entry.1
  counted : cache.hits + cache.derivations = told.length
  derived : cache.derivations = cache.size
  distinct : cache.size = (told.map Prod.fst).toFinset.card

theorem followsEmpty (scripts : List String) (issued : Nat) :
    Follows scripts ⟨[], 0, 0, issued⟩ [] :=
  ⟨nofun, fun _ _ => rfl, nofun, rfl, rfl, rfl⟩

theorem lookupKeys {told : List (String × Issued)} {script : String} :
    (told.lookup script).isSome ↔ script ∈ told.map Prod.fst := by
  rw [List.lookup_isSome_iff, List.mem_map]
  constructor
  · rintro ⟨entry, member, same⟩
    exact ⟨entry, member, (beq_iff_eq.1 same).symm⟩
  · rintro ⟨entry, member, same⟩
    exact ⟨entry, member, beq_iff_eq.2 same.symm⟩

theorem readEmpty (cache : Cache) :
    cache.read "" = ({ cache with issued := cache.issued + 1 }, ⟨cache.issued, .empty⟩) := rfl

theorem readKept {cache : Cache} {script : String} (filled : script ≠ "") {found : Issued}
    (kept : cache.get? script = some found) :
    cache.read script = ({ cache with hits := cache.hits + 1 }, found) := by
  rw [read, if_neg (by simpa using filled), kept]

theorem readNew {cache : Cache} {script : String} (filled : script ≠ "")
    (new : cache.get? script = none) :
    cache.read script =
      (⟨(fingerprint script, ⟨cache.issued, .ofText script⟩) :: cache.entries, cache.hits,
        cache.derivations + 1, cache.issued + 1⟩, ⟨cache.issued, .ofText script⟩) := by
  rw [read, if_neg (by simpa using filled), new]
  rfl

theorem toldRead (script : String) (made : Issued) :
    told? (.read script, .issued made) = if script = "" then none else some (script, made) := rfl

theorem textsMore (told : List (String × Issued)) (script : String) (made : Issued) :
    ((told ++ [(script, made)]).map Prod.fst).toFinset =
      insert script (told.map Prod.fst).toFinset := by
  rw [List.map_append, List.toFinset_append, List.map_singleton, List.toFinset_cons,
    List.toFinset_nil, Finset.union_insert, Finset.union_empty]

theorem followsKept {scripts : List String} {cache : Cache} {told : List (String × Issued)}
    (follows : Follows scripts cache told) {script : String} (used : script ∈ scripts)
    (filled : script ≠ "") {found : Issued} (known : told.lookup script = some found) :
    Follows scripts { cache with hits := cache.hits + 1 } (told ++ [(script, found)]) := by
  have member : (script, found) ∈ told := by
    obtain ⟨before, after, rfl, -⟩ := List.lookup_eq_some_iff.1 known
    simp
  constructor
  case scope =>
    rw [List.forall_mem_append, List.forall_mem_singleton]
    exact ⟨follows.scope, used, filled⟩
  case kept =>
    intro other inside
    have before := follows.kept other inside
    have same : (told ++ [(script, found)]).lookup other = told.lookup other := by
      rw [List.lookup_append]
      by_cases own : other = script
      · rw [own, known]
        rfl
      · have different : (other == script) = false := by simpa using own
        simp [List.lookup_cons, different]
    rw [same]
    exact before
  case meant =>
    rw [List.forall_mem_append, List.forall_mem_singleton]
    exact ⟨follows.meant, follows.meant _ member⟩
  case counted =>
    rw [List.length_append, ← follows.counted]
    simp only [List.length_singleton]
    omega
  case derived => exact follows.derived
  case distinct =>
    have inside : script ∈ (told.map Prod.fst).toFinset :=
      List.mem_toFinset.2 (List.mem_map_of_mem member)
    rw [textsMore, Finset.insert_eq_of_mem inside]
    exact follows.distinct

theorem followsNew {scripts : List String} {cache : Cache} {told : List (String × Issued)}
    (apart : Apart scripts) (follows : Follows scripts cache told) {script : String}
    (used : script ∈ scripts) (filled : script ≠ "") (new : told.lookup script = none) :
    Follows scripts
      ⟨(fingerprint script, ⟨cache.issued, .ofText script⟩) :: cache.entries, cache.hits,
        cache.derivations + 1, cache.issued + 1⟩
      (told ++ [(script, ⟨cache.issued, .ofText script⟩)]) := by
  constructor
  case scope =>
    rw [List.forall_mem_append, List.forall_mem_singleton]
    exact ⟨follows.scope, used, filled⟩
  case kept =>
    intro other inside
    have before := follows.kept other inside
    rw [get?] at before ⊢
    rw [List.lookup_cons, List.lookup_append]
    by_cases own : other = script
    · rw [own, new]
      simp
    · have different : (other == script) = false := by simpa using own
      have digests : (fingerprint other == fingerprint script) = false := by
        simpa using fun same => own (apart other inside script used same)
      simp [digests, before, List.lookup_cons, different]
  case meant =>
    rw [List.forall_mem_append, List.forall_mem_singleton]
    exact ⟨follows.meant, rfl⟩
  case counted =>
    rw [List.length_append, ← follows.counted]
    rfl
  case derived => exact congrArg Nat.succ follows.derived
  case distinct =>
    have outside : script ∉ (told.map Prod.fst).toFinset := by
      rw [List.mem_toFinset, ← lookupKeys, new]
      simp
    rw [textsMore, Finset.card_insert_of_notMem outside]
    exact congrArg Nat.succ follows.distinct

theorem followsCall {scripts : List String} {cache : Cache} {done : List (Call × Answer)}
    (apart : Apart scripts) (follows : Follows scripts cache (told done)) {next : Call}
    (used : ∀ script ∈ next.looked?, script ∈ scripts) :
    Follows scripts (cache.call next).1 (told (done ++ [(next, (cache.call next).2)])) := by
  cases next with
  | read script =>
    rw [toldLast done (.read script) _ nofun, call, toldRead]
    by_cases none : script = ""
    · subst none
      rw [if_pos rfl, readEmpty, Option.toList_none, List.append_nil]
      exact ⟨follows.scope, follows.kept, follows.meant, follows.counted, follows.derived,
        follows.distinct⟩
    · rw [if_neg none, Option.toList_some]
      have inside := used script (if_neg none)
      have known := follows.kept script inside
      cases before : cache.get? script with
      | none =>
        rw [readNew none before]
        exact followsNew apart follows inside none (known.symm.trans before)
      | some found =>
        rw [readKept none before]
        exact followsKept follows inside none (known.symm.trans before)
  | find script =>
    rw [toldLast done (.find script) _ nofun]
    exact (List.append_nil (told done)).symm ▸ follows
  | fingerprint script =>
    rw [toldLast done (.fingerprint script) _ nofun]
    exact (List.append_nil (told done)).symm ▸ follows
  | clear =>
    rw [toldCleared]
    exact followsEmpty scripts cache.issued

theorem followsRun {scripts : List String} (apart : Apart scripts) (calls : List Call)
    (used : ∀ script ∈ calls.filterMap Call.looked?, script ∈ scripts) :
    Follows scripts (empty.run calls).1 (told (empty.run calls).2) := by
  induction calls using List.reverseRecOn with
  | nil => exact followsEmpty scripts 0
  | append_singleton before last ih =>
    rw [List.filterMap_append, List.forall_mem_append] at used
    rw [runLast]
    refine followsCall apart (ih used.1) ?_
    intro script named
    exact used.2 script (List.mem_filterMap.2 ⟨last, List.mem_singleton_self last, named⟩)

structure Numbered (cache : Cache) (done : List (Call × Answer)) : Prop where
  entries : ∀ entry ∈ cache.entries, entry.2.serial < cache.issued
  answers : ∀ entry ∈ done, ∀ made, entry.2 = .issued made → made.serial < cache.issued

theorem Numbered.issue {cache : Cache} {done : List (Call × Answer)}
    (numbered : Numbered cache done) (script : TestScript) :
    Numbered (cache.issue script).1 done :=
  ⟨fun entry member => Nat.lt_succ_of_lt (numbered.entries entry member),
    fun entry member made same => Nat.lt_succ_of_lt (numbered.answers entry member made same)⟩

theorem Numbered.last {cache : Cache} {done : List (Call × Answer)}
    (numbered : Numbered cache done) (last : Call) {answer : Answer}
    (below : ∀ made, answer = .issued made → made.serial < cache.issued) :
    Numbered cache (done ++ [(last, answer)]) := by
  refine ⟨numbered.entries, ?_⟩
  rw [List.forall_mem_append, List.forall_mem_singleton]
  exact ⟨numbered.answers, below⟩

theorem numberedRead {cache : Cache} {done : List (Call × Answer)}
    (numbered : Numbered cache done) (script : String) :
    Numbered (cache.read script).1 done ∧
      (cache.read script).2.serial < (cache.read script).1.issued := by
  by_cases none : script = ""
  · subst none
    exact ⟨numbered.issue .empty, Nat.lt_succ_self cache.issued⟩
  cases before : cache.get? script with
  | none =>
    rw [readNew none before]
    have issued := numbered.issue (.ofText script)
    refine ⟨⟨?_, issued.answers⟩, Nat.lt_succ_self cache.issued⟩
    rw [List.forall_mem_cons]
    exact ⟨Nat.lt_succ_self cache.issued, issued.entries⟩
  | some found =>
    rw [readKept none before]
    obtain ⟨early, late, split, -⟩ := List.lookup_eq_some_iff.1 before
    have kept : (fingerprint script, found) ∈ cache.entries := by simp [split]
    exact ⟨⟨numbered.entries, numbered.answers⟩, numbered.entries _ kept⟩

theorem numberedCall {cache : Cache} {done : List (Call × Answer)}
    (numbered : Numbered cache done) (next : Call) :
    Numbered (cache.call next).1 (done ++ [(next, (cache.call next).2)]) := by
  cases next with
  | read script =>
    obtain ⟨ready, below⟩ := numberedRead numbered script
    refine ready.last (.read script) ?_
    rintro made same
    rwa [← Answer.issued.inj same]
  | find script => exact numbered.last (.find script) nofun
  | fingerprint script => exact numbered.last (.fingerprint script) nofun
  | clear =>
    have ready : Numbered cache.clear done := ⟨List.forall_mem_nil _, numbered.answers⟩
    exact ready.last .clear nofun

theorem numberedRun (calls : List Call) : Numbered (empty.run calls).1 (empty.run calls).2 := by
  induction calls using List.reverseRecOn with
  | nil => exact ⟨nofun, nofun⟩
  | append_singleton before last ih =>
    rw [runLast]
    exact numberedCall ih last

def textsSinceClear (calls : List Call) : List String :=
  (calls.reverse.takeWhile (· ≠ .clear)).reverse.filterMap Call.text?

theorem textsLast (calls : List Call) (last : Call) (other : last ≠ .clear) :
    textsSinceClear (calls ++ [last]) = textsSinceClear calls ++ last.text?.toList := by
  simp only [textsSinceClear, List.reverse_append, List.reverse_singleton, List.singleton_append]
  rw [List.takeWhile_cons_of_pos (by simpa using other), List.reverse_cons, List.filterMap_append]
  cases text : last.text? <;> simp [text]

theorem toldTexts (cache : Cache) (calls : List Call) :
    (told (cache.run calls).2).map Prod.fst = textsSinceClear calls := by
  induction calls using List.reverseRecOn with
  | nil => rfl
  | append_singleton before last ih =>
    rw [runLast]
    cases last with
    | clear =>
      rw [toldCleared]
      simp [textsSinceClear]
    | read script =>
      rw [toldLast _ (.read script) _ nofun, textsLast _ (.read script) nofun, List.map_append,
        ih, call, toldRead, Call.text?]
      split <;> rfl
    | find script =>
      rw [toldLast _ (.find script) _ nofun, textsLast _ (.find script) nofun, List.map_append, ih]
      rfl
    | fingerprint script =>
      rw [toldLast _ (.fingerprint script) _ nofun, textsLast _ (.fingerprint script) nofun,
        List.map_append, ih]
      rfl

theorem textsUncleared {calls : List Call} (kept : .clear ∉ calls) :
    textsSinceClear calls = calls.filterMap Call.text? := by
  have all : ∀ call ∈ calls.reverse, decide (call ≠ .clear) = true := by
    intro call member
    simpa using fun same : call = .clear => kept (same ▸ List.mem_reverse.1 member)
  rw [textsSinceClear, List.takeWhile_eq_self_iff.2 all, List.reverse_reverse]

theorem readFollows {scripts : List String} {cache : Cache} {done : List (Call × Answer)}
    (follows : Follows scripts cache (told done)) {script : String}
    (used : script ≠ "" → script ∈ scripts) :
    (cache.read script).2.script = (if script = "" then .empty else .ofText script) ∧
      (∀ first, (told done).lookup script = some first → (cache.read script).2 = first) ∧
      ((told done).lookup script = none → (cache.read script).2.serial = cache.issued) := by
  by_cases none : script = ""
  · subst none
    refine ⟨rfl, ?_, fun _ => rfl⟩
    intro first there
    obtain ⟨before, after, split, -⟩ := List.lookup_eq_some_iff.1 there
    exact absurd rfl (follows.scope ("", first) (by rw [split]; simp)).2
  · rw [if_neg none]
    have known := follows.kept script (used none)
    cases before : cache.get? script with
    | none =>
      rw [readNew none before]
      rw [before] at known
      refine ⟨rfl, ?_, fun _ => rfl⟩
      intro first there
      rw [← known] at there
      contradiction
    | some found =>
      rw [readKept none before]
      rw [before] at known
      refine ⟨?_, fun first there => Option.some.inj (known.trans there), ?_⟩
      · obtain ⟨early, late, split, -⟩ := List.lookup_eq_some_iff.1 known.symm
        exact follows.meant (script, found) (by rw [split]; simp)
      · intro absent
        rw [← known] at absent
        contradiction

theorem lookedSplit {cache : Cache} {calls : List Call} {before after : List (Call × Answer)}
    {done : Call × Answer} (split : (cache.run calls).2 = before ++ done :: after) :
    calls.filterMap Call.looked? = (before.map Prod.fst).filterMap Call.looked? ++
      (done.1.looked?.toList ++ (after.map Prod.fst).filterMap Call.looked?) := by
  rw [← runCalls cache calls, split, List.map_append, List.filterMap_append, List.map_cons,
    List.filterMap_cons]
  cases done.1.looked? <;> rfl

theorem followsAt {calls : List Call} (apart : Apart (calls.filterMap Call.looked?))
    {before after : List (Call × Answer)} {done : Call × Answer}
    (split : (empty.run calls).2 = before ++ done :: after) :
    Follows (calls.filterMap Call.looked?) (empty.run (before.map Prod.fst)).1 (told before) ∧
      Numbered (empty.run (before.map Prod.fst)).1 before ∧
      done.2 = ((empty.run (before.map Prod.fst)).1.call done.1).2 := by
  obtain ⟨same, answer⟩ := runAt split
  have follows := followsRun apart (before.map Prod.fst) fun script member => by
    rw [lookedSplit split]
    exact List.mem_append_left _ member
  have numbered := numberedRun (before.map Prod.fst)
  rw [← same] at follows numbered
  exact ⟨follows, numbered, answer⟩

structure Transparent (calls : List Call) : Prop where
  reads : ∀ before script answer after,
    (empty.run calls).2 = before ++ (.read script, answer) :: after →
      ∃ made, answer = .issued made ∧
        made.script = (if script = "" then .empty else .ofText script) ∧
        (∀ first, (told before).lookup script = some first → made = first) ∧
        ((told before).lookup script = none →
          ∀ entry ∈ before, ∀ other, entry.2 = .issued other → other.serial ≠ made.serial)
  finds : ∀ before script answer after,
    (empty.run calls).2 = before ++ (.find script, answer) :: after →
      answer = .found ((told before).lookup script) ∧
        (((told before).lookup script).isSome ↔
          script ∈ textsSinceClear (before.map Prod.fst))
  counted : (empty.run calls).1.hits + (empty.run calls).1.derivations =
    (textsSinceClear calls).length
  derived : (empty.run calls).1.derivations = (empty.run calls).1.size
  distinct : (empty.run calls).1.size = (textsSinceClear calls).toFinset.card

theorem readAt {calls : List Call} (apart : Apart (calls.filterMap Call.looked?))
    {before after : List (Call × Answer)} {script : String} {answer : Answer}
    (split : (empty.run calls).2 = before ++ (.read script, answer) :: after) :
    ∃ made, answer = .issued made ∧
      made.script = (if script = "" then .empty else .ofText script) ∧
      (∀ first, (told before).lookup script = some first → made = first) ∧
      ((told before).lookup script = none →
        ∀ entry ∈ before, ∀ other, entry.2 = .issued other → other.serial ≠ made.serial) := by
  obtain ⟨follows, numbered, same⟩ := followsAt apart split
  have used : script ≠ "" → script ∈ calls.filterMap Call.looked? := by
    intro filled
    rw [lookedSplit split]
    refine List.mem_append_right _ (List.mem_append_left _ ?_)
    have own : Call.looked? (.read script) = some script := if_neg filled
    rw [own]
    exact List.mem_singleton_self script
  obtain ⟨meant, shared, fresh⟩ := readFollows follows used
  refine ⟨_, same, meant, shared, ?_⟩
  intro absent entry member other made
  rw [fresh absent]
  exact Nat.ne_of_lt (numbered.answers entry member other made)

theorem findAt {calls : List Call} (apart : Apart (calls.filterMap Call.looked?))
    {before after : List (Call × Answer)} {script : String} {answer : Answer}
    (split : (empty.run calls).2 = before ++ (.find script, answer) :: after) :
    answer = .found ((told before).lookup script) ∧
      (((told before).lookup script).isSome ↔
        script ∈ textsSinceClear (before.map Prod.fst)) := by
  obtain ⟨follows, -, same⟩ := followsAt apart split
  have inside : script ∈ calls.filterMap Call.looked? := by
    rw [lookedSplit split]
    exact List.mem_append_right _ (List.mem_append_left _ (List.mem_singleton_self script))
  refine ⟨same.trans (congrArg Answer.found (follows.kept script inside)), ?_⟩
  have texts := toldTexts empty (before.map Prod.fst)
  rw [← (runAt split).1] at texts
  rw [lookupKeys, texts]

theorem transparent {calls : List Call} (apart : Apart (calls.filterMap Call.looked?)) :
    Transparent calls := by
  have follows := followsRun apart calls fun _ member => member
  refine ⟨fun _ _ _ _ split => readAt apart split, fun _ _ _ _ split => findAt apart split, ?_,
    follows.derived, ?_⟩
  · rw [follows.counted, ← toldTexts empty calls, List.length_map]
  · rw [follows.distinct, toldTexts]

end RequestSuite.Script.Cache
