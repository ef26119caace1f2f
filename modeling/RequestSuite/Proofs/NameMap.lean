import RequestSuite.NameMap

/-! What a map gives to a name after a row of insertions, and when one map lies over another. The
last entry of a name counts, so the order of insertions is the only thing that matters. -/
namespace RequestSuite.NameMap

variable {α : Type}

def lastOf (entries : List (String × α)) (name : String) : Option α := entries.reverse.lookup name

def insertAll (map : NameMap α) (entries : List (String × α)) : NameMap α :=
  entries.foldl (fun found entry => found.insert entry.1 entry.2) map

@[simp] theorem lastOfNil (name : String) : lastOf ([] : List (String × α)) name = none := rfl

theorem lastOfCons (entry : String × α) (rest : List (String × α)) (name : String) :
    lastOf (entry :: rest) name =
      (lastOf rest name).or (if name = entry.1 then some entry.2 else none) := by
  obtain ⟨key, value⟩ := entry
  rw [lastOf, List.reverse_cons, List.lookup_append]
  by_cases same : name = key
  · subst same
    simp [lastOf]
  · have other : (name == key) = false := by simpa using same
    simp [lastOf, List.lookup_cons, other, same]

theorem lastOfAppend (before after : List (String × α)) (name : String) :
    lastOf (before ++ after) name = (lastOf after name).or (lastOf before name) := by
  simp only [lastOf, List.reverse_append, List.lookup_append]

theorem lastOfIsSome (entries : List (String × α)) (name : String) :
    (lastOf entries name).isSome ↔ ∃ entry ∈ entries, entry.1 = name := by
  induction entries with
  | nil => simp
  | cons entry rest ih =>
    rw [lastOfCons, Option.isSome_or, Bool.or_eq_true, ih]
    by_cases same : name = entry.1
    · simp [same]
    · simp [same, Ne.symm same]

theorem getInsert (map : NameMap α) (entry : String × α) (name : String) :
    (map.insert entry.1 entry.2).get? name =
      (if name = entry.1 then some entry.2 else none).or (map.get? name) := by
  by_cases same : name = entry.1
  · rw [if_pos same, same, getInsertSame]
    rfl
  · rw [if_neg same, getInsertOther map entry.2 same]
    rfl

@[simp] theorem getEmpty (name : String) : (empty : NameMap α).get? name = none := rfl

theorem getInsertAll (map : NameMap α) (entries : List (String × α)) (name : String) :
    (map.insertAll entries).get? name = (lastOf entries name).or (map.get? name) := by
  induction entries generalizing map with
  | nil => rfl
  | cons entry rest ih =>
    have later := ih (map.insert entry.1 entry.2)
    rw [getInsert] at later
    rw [lastOfCons, Option.or_assoc]
    exact later

theorem lastOfSorted {entries : List (String × α)} (sorted : entries.Pairwise Below)
    (name : String) : lastOf entries name = entries.lookup name := by
  induction entries with
  | nil => rfl
  | cons entry rest ih =>
    obtain ⟨above, tail⟩ := List.pairwise_cons.1 sorted
    obtain ⟨key, value⟩ := entry
    rw [lastOfCons, ih tail]
    by_cases same : name = key
    · subst same
      have absent : rest.lookup name = none := by
        rw [List.lookup_eq_none_iff]
        intro later member
        have less : name < later.1 := above later member
        simpa using String.ne_of_lt less
      simp [absent]
    · have other : (name == key) = false := by simpa using same
      simp [List.lookup_cons, other, same]

theorem getExtend (map other : NameMap α) (name : String) :
    (map.extend other).get? name = (other.get? name).or (map.get? name) := by
  have inserted : map.extend other = map.insertAll other.entries := rfl
  rw [inserted, getInsertAll, lastOfSorted other.sorted]
  rfl

theorem memIffGet (map : NameMap α) (entry : String × α) :
    entry ∈ map.entries ↔ map.get? entry.1 = some entry.2 := by
  rw [get?, List.lookup_eq_some_iff]
  constructor
  · intro member
    obtain ⟨before, after, split⟩ := List.append_of_mem member
    refine ⟨before, after, split, ?_⟩
    intro other earlier
    have sorted := map.sorted
    rw [split] at sorted
    have less : other.1 < entry.1 :=
      (List.pairwise_append.1 sorted).2.2 other earlier entry List.mem_cons_self
    simpa using Ne.symm (String.ne_of_lt less)
  · rintro ⟨before, after, split, -⟩
    rw [split]
    exact List.mem_append_right before List.mem_cons_self

theorem equalOfGet {map other : NameMap α} (same : ∀ name, map.get? name = other.get? name) :
    map = other := by
  have distinct : ∀ found : NameMap α, found.entries.Nodup := fun found =>
    found.sorted.imp fun less equal => String.ne_of_lt less (congrArg Prod.fst equal)
  have members : ∀ entry, entry ∈ map.entries ↔ entry ∈ other.entries := by
    intro entry
    rw [memIffGet, memIffGet, same]
  have rows : map.entries = other.entries :=
    List.Perm.eq_of_pairwise
      (fun _ _ _ _ less greater => absurd (String.lt_trans less greater) (String.lt_irrefl _))
      map.sorted other.sorted
      ((List.perm_ext_iff_of_nodup (distinct map) (distinct other)).2 members)
  cases map
  cases other
  cases rows
  rfl

theorem ofListEntries (map : NameMap α) : ofList map.entries = map := by
  refine equalOfGet fun name => ?_
  have inserted : ofList map.entries = empty.insertAll map.entries := rfl
  rw [inserted, getInsertAll, lastOfSorted map.sorted, getEmpty, Option.or_none, get?]

end RequestSuite.NameMap
