import Mathlib.Data.List.Forall2

/-! A list mapped by a function that may fail: every element has an image, or the first that has none
is the failure. -/
namespace RequestSuite

variable {α β ε : Type} {f : α → Except ε β}

theorem mapStep (x : α) (xs : List α) :
    (x :: xs).mapM f = (f x).bind fun y => (xs.mapM f).map (y :: ·) := by
  rw [List.mapM_cons]
  cases f x with
  | error e => rfl
  | ok y => cases xs.mapM f <;> rfl

theorem mapDone {xs : List α} {ys : List β} :
    xs.mapM f = .ok ys ↔ List.Forall₂ (fun x y => f x = .ok y) xs ys := by
  induction xs generalizing ys with
  | nil =>
    rw [List.forall₂_nil_left_iff]
    exact ⟨fun done => (Except.ok.inj done).symm, fun none => none ▸ rfl⟩
  | cons x xs ih =>
    rw [mapStep, List.forall₂_cons_left_iff]
    simp only [← ih]
    cases f x with
    | error e => simp [Except.bind]
    | ok y => cases xs.mapM f <;> simp [Except.bind, Except.map, eq_comm]

theorem mapSome {g : α → Option β} {xs : List α} {ys : List β} :
    xs.mapM g = some ys ↔ List.Forall₂ (fun x y => g x = some y) xs ys := by
  induction xs generalizing ys with
  | nil =>
    rw [List.forall₂_nil_left_iff]
    exact ⟨fun done => (Option.some.inj done).symm, fun none => none ▸ rfl⟩
  | cons x xs ih =>
    rw [List.mapM_cons, List.forall₂_cons_left_iff]
    simp only [← ih, bind, pure]
    cases g x with
    | none => simp
    | some y => cases xs.mapM g <;> simp [eq_comm]

theorem mapImage {g : α → Option β} {xs : List α} {ys : List β} (done : xs.mapM g = some ys)
    {x : α} (member : x ∈ xs) : ∃ y ∈ ys, g x = some y := by
  have each := mapSome.1 done
  clear done
  induction each with
  | nil => contradiction
  | cons first later ih =>
    rcases List.mem_cons.1 member with rfl | below
    · exact ⟨_, List.mem_cons_self, first⟩
    · obtain ⟨y, inside, image⟩ := ih below
      exact ⟨y, List.mem_cons_of_mem _ inside, image⟩

theorem mapSource {g : α → Option β} {xs : List α} {ys : List β} (done : xs.mapM g = some ys)
    {y : β} (member : y ∈ ys) : ∃ x ∈ xs, g x = some y := by
  have each := mapSome.1 done
  clear done
  induction each with
  | nil => contradiction
  | cons first later ih =>
    rcases List.mem_cons.1 member with rfl | below
    · exact ⟨_, List.mem_cons_self, first⟩
    · obtain ⟨x, inside, image⟩ := ih below
      exact ⟨x, List.mem_cons_of_mem _ inside, image⟩

theorem mapStopped {xs : List α} {e : ε} :
    xs.mapM f = .error e ↔ ∃ before x after, xs = before ++ x :: after ∧ f x = .error e ∧
      ∀ earlier ∈ before, ∃ y, f earlier = .ok y := by
  constructor
  · intro stopped
    induction xs with
    | nil => contradiction
    | cons x xs ih =>
      rw [mapStep] at stopped
      cases first : f x with
      | error e' =>
        rw [first] at stopped
        cases stopped
        exact ⟨[], x, xs, rfl, first, List.forall_mem_nil _⟩
      | ok y =>
        rw [first] at stopped
        cases others : xs.mapM f with
        | ok rest =>
          rw [others] at stopped
          contradiction
        | error e' =>
          rw [others] at stopped
          cases stopped
          obtain ⟨before, z, after, rfl, stops, done⟩ := ih others
          exact ⟨x :: before, z, after, rfl, stops, List.forall_mem_cons.2 ⟨⟨y, first⟩, done⟩⟩
  · rintro ⟨before, x, after, rfl, stops, done⟩
    induction before with
    | nil =>
      rw [List.nil_append, mapStep, stops]
      rfl
    | cons y before ih =>
      obtain ⟨⟨z, first⟩, later⟩ := List.forall_mem_cons.1 done
      rw [List.cons_append, mapStep, first, ih later]
      rfl

theorem mapFails {xs : List α} :
    (∃ e, xs.mapM f = .error e) ↔ ∃ x ∈ xs, ∃ e, f x = .error e := by
  constructor
  · rintro ⟨e, stopped⟩
    obtain ⟨before, x, after, rfl, stops, -⟩ := mapStopped.1 stopped
    exact ⟨x, List.mem_append_right before List.mem_cons_self, e, stops⟩
  · rintro ⟨stop, member, e, stops⟩
    induction xs with
    | nil => contradiction
    | cons x xs ih =>
      rcases List.mem_cons.1 member with rfl | later
      · exact ⟨e, by rw [mapStep, stops]; rfl⟩
      · obtain ⟨e, stopped⟩ := ih later
        cases first : f x with
        | error e' => exact ⟨e', by rw [mapStep, first]; rfl⟩
        | ok y => exact ⟨e, by rw [mapStep, first, stopped]; rfl⟩

end RequestSuite
