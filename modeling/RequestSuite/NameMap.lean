/-! Finite maps from names, kept in the order of names by code points. Two maps are equal as soon
as they give the same value to every name. -/
namespace RequestSuite

def Below {α : Type} (a b : String × α) : Prop := a.1 < b.1

def putSorted {α : Type} (name : String) (value : α) : List (String × α) → List (String × α)
  | [] => [(name, value)]
  | (other, old) :: rest =>
    if name < other then (name, value) :: (other, old) :: rest
    else if name = other then (name, value) :: rest
    else (other, old) :: putSorted name value rest

theorem memPutSorted {α : Type} {name : String} {value : α} {entries : List (String × α)}
    {e : String × α} (h : e ∈ putSorted name value entries) :
    e = (name, value) ∨ e ∈ entries := by
  induction entries with
  | nil => simpa [putSorted] using h
  | cons first rest ih =>
    obtain ⟨other, old⟩ := first
    simp only [putSorted] at h
    split at h
    · simpa using h
    · split at h
      · simp only [List.mem_cons] at h ⊢
        exact h.imp_right Or.inr
      · simp only [List.mem_cons] at h ⊢
        rcases h with h | h
        · exact Or.inr (Or.inl h)
        · exact (ih h).imp_right Or.inr

theorem putSortedSorted {α : Type} (name : String) (value : α) {entries : List (String × α)}
    (sorted : entries.Pairwise Below) : (putSorted name value entries).Pairwise Below := by
  induction entries with
  | nil => simp [putSorted]
  | cons first rest ih =>
    obtain ⟨other, old⟩ := first
    obtain ⟨above, tail⟩ := List.pairwise_cons.1 sorted
    simp only [putSorted]
    split
    · rename_i less
      refine List.pairwise_cons.2 ⟨?_, sorted⟩
      intro e member
      rcases List.mem_cons.1 member with same | later
      · subst same; exact less
      · exact String.lt_trans less (above e later)
    · rename_i notLess
      split
      · rename_i same
        subst same
        exact List.pairwise_cons.2 ⟨above, tail⟩
      · rename_i different
        refine List.pairwise_cons.2 ⟨?_, ih tail⟩
        intro e member
        rcases memPutSorted member with same | later
        · subst same
          have order : other ≤ name := notLess
          rcases Decidable.em (other < name) with less | notMore
          · exact less
          · exact absurd (String.le_antisymm notMore order) different
        · exact above e later

structure NameMap (α : Type) where
  entries : List (String × α)
  sorted : entries.Pairwise Below

namespace NameMap

variable {α : Type}

def empty : NameMap α := ⟨[], List.Pairwise.nil⟩

def get? (map : NameMap α) (name : String) : Option α := map.entries.lookup name

def insert (map : NameMap α) (name : String) (value : α) : NameMap α :=
  ⟨putSorted name value map.entries, putSortedSorted name value map.sorted⟩

def extend (map other : NameMap α) : NameMap α :=
  other.entries.foldl (fun found (name, value) => found.insert name value) map

/-- The last entry of a name counts. -/
def ofList (entries : List (String × α)) : NameMap α :=
  entries.foldl (fun found (name, value) => found.insert name value) empty

def size (map : NameMap α) : Nat := map.entries.length

def isEmpty (map : NameMap α) : Bool := map.entries.isEmpty

instance [DecidableEq α] : DecidableEq (NameMap α) := fun a b =>
  match a, b with
  | ⟨xs, _⟩, ⟨ys, _⟩ =>
    if h : xs = ys then .isTrue (by subst h; rfl)
    else .isFalse (by intro same; injection same; contradiction)

instance [Repr α] : Repr (NameMap α) := ⟨fun map level => reprPrec map.entries level⟩

theorem lookupPutSame (name : String) (value : α) (entries : List (String × α)) :
    (putSorted name value entries).lookup name = some value := by
  induction entries with
  | nil => simp [putSorted]
  | cons first rest ih =>
    obtain ⟨other, old⟩ := first
    simp only [putSorted]
    split
    · simp
    · split
      · simp
      · rename_i different
        have h : (name == other) = false := by simpa using different
        simp [List.lookup_cons, h, ih]

theorem lookupPutOther {name key : String} (value : α) (entries : List (String × α))
    (different : key ≠ name) :
    (putSorted name value entries).lookup key = entries.lookup key := by
  have h : (key == name) = false := by simpa using different
  induction entries with
  | nil => simp [putSorted, List.lookup_cons, h]
  | cons first rest ih =>
    obtain ⟨other, old⟩ := first
    simp only [putSorted]
    split
    · simp [List.lookup_cons, h]
    · split
      · rename_i same
        subst same
        simp [List.lookup_cons, h]
      · simp only [List.lookup_cons, ih]

@[simp] theorem getInsertSame (map : NameMap α) (name : String) (value : α) :
    (map.insert name value).get? name = some value := lookupPutSame name value map.entries

theorem getInsertOther (map : NameMap α) {name key : String} (value : α)
    (different : key ≠ name) : (map.insert name value).get? key = map.get? key :=
  lookupPutOther value map.entries different

end NameMap

end RequestSuite
