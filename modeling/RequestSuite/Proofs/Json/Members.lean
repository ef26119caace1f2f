import Mathlib.Data.List.Basic
import Mathlib.Data.List.Induction
import RequestSuite.Proofs.Json.Values
import RequestSuite.Proofs.NameMap

/-! The members of an object that is collected from a row with repeated keys. A key stands once, at
its first place and with its last value, so the row comes back whole exactly if no key is repeated
in it. -/
namespace RequestSuite.Json.Value

theorem putKeys (key : String) (value : Value) (members : List (String × Value)) :
    (put key value members).map Prod.fst =
      members.map Prod.fst ++ if key ∈ members.map Prod.fst then [] else [key] := by
  induction members with
  | nil => rfl
  | cons member rest ih =>
    obtain ⟨other, old⟩ := member
    rw [put]
    by_cases same : other = key
    · subst same
      rw [if_pos rfl, if_pos (by simp), List.append_nil]
      rfl
    · have absent : key ∈ ((other, old) :: rest).map Prod.fst ↔ key ∈ rest.map Prod.fst := by
        simp [Ne.symm same]
      rw [if_neg same, List.map_cons, ih]
      simp only [absent]
      rfl

theorem putLookup (key : String) (value : Value) (members : List (String × Value)) (name : String) :
    (put key value members).lookup name =
      if name = key then some value else members.lookup name := by
  induction members with
  | nil =>
    by_cases same : name = key
    · simp [put, same]
    · simp [put, List.lookup_cons, same, beq_eq_false_iff_ne.2 same]
  | cons member rest ih =>
    obtain ⟨other, old⟩ := member
    rw [put]
    by_cases same : other = key
    · subst same
      by_cases here : name = other
      · simp [here]
      · simp [List.lookup_cons, here, beq_eq_false_iff_ne.2 here]
    · rw [if_neg same, List.lookup_cons, List.lookup_cons, ih]
      by_cases here : name = other
      · simp [here, same]
      · simp [beq_eq_false_iff_ne.2 here]

theorem collectLater (members : List (String × Value)) (key : String) (value : Value) :
    collectMembers (members ++ [(key, value)]) = put key value (collectMembers members) := by
  rw [collectMembers, List.foldl_append]
  rfl

theorem collectKeys (members : List (String × Value)) :
    (collectMembers members).map Prod.fst = (members.map Prod.fst).eraseDups := by
  induction members using List.reverseRecOn with
  | nil => rfl
  | append_singleton members member ih =>
    obtain ⟨key, value⟩ := member
    have new : ([key].removeAll (members.map Prod.fst)).eraseDups =
        if key ∈ members.map Prod.fst then [] else [key] := by
      by_cases known : key ∈ members.map Prod.fst
      · simp [List.removeAll, known]
      · simp [List.removeAll, known, List.eraseDups_cons]
    rw [collectLater, putKeys, ih, List.map_append, List.eraseDups_append]
    simp only [List.mem_eraseDups]
    exact congrArg _ new.symm

theorem collectLast (members : List (String × Value)) (name : String) :
    (collectMembers members).lookup name = NameMap.lastOf members name := by
  induction members using List.reverseRecOn with
  | nil => rfl
  | append_singleton members member ih =>
    obtain ⟨key, value⟩ := member
    rw [collectLater, putLookup, ih, NameMap.lastOfAppend, NameMap.lastOfCons]
    by_cases same : name = key
    · simp [same]
    · simp [same]

theorem collectNodup (members : List (String × Value)) :
    ((collectMembers members).map Prod.fst).Nodup := by
  induction members using List.reverseRecOn with
  | nil => exact List.nodup_nil
  | append_singleton members member ih =>
    obtain ⟨key, value⟩ := member
    rw [collectLater, putKeys]
    split
    · rwa [List.append_nil]
    · rename_i new
      rw [List.nodup_append]
      refine ⟨ih, by simp, ?_⟩
      rintro name known other single rfl
      exact new (List.mem_singleton.1 single ▸ known)

theorem lookupMember {members : List (String × Value)} (distinct : (members.map Prod.fst).Nodup)
    {member : String × Value} (known : member ∈ members) :
    members.lookup member.1 = some member.2 := by
  induction members with
  | nil => contradiction
  | cons first rest ih =>
    obtain ⟨new, later⟩ := List.nodup_cons.1 distinct
    rcases List.mem_cons.1 known with rfl | below
    · exact List.lookup_cons_self
    · have other : (member.1 == first.1) = false := by
        refine beq_eq_false_iff_ne.2 fun same => new ?_
        rw [← same]
        exact List.mem_map_of_mem below
      rw [List.lookup_cons, other]
      exact ih later below

theorem collected (members : List (String × Value)) :
    collectMembers members = ((members.map Prod.fst).eraseDups).map fun name =>
      (name, (NameMap.lastOf members name).getD null) := by
  have each : ∀ member ∈ collectMembers members,
      (member.1, (NameMap.lastOf members member.1).getD null) = member := by
    intro member known
    rw [← collectLast, lookupMember (collectNodup members) known]
    rfl
  rw [← collectKeys, List.map_map]
  exact ((List.map_congr_left each).trans (List.map_id _)).symm

def textMember (pair : String × String) : String × Value := (pair.1, .string pair.2)

def lastTexts (pairs : List (String × String)) : List (String × String) :=
  ((pairs.map Prod.fst).eraseDups).map fun name => (name, (NameMap.lastOf pairs name).getD "")

theorem textMemberNames (pairs : List (String × String)) :
    (pairs.map textMember).map Prod.fst = pairs.map Prod.fst := by
  rw [List.map_map]
  rfl

theorem lastTextMember (pairs : List (String × String)) (name : String) :
    NameMap.lastOf (pairs.map textMember) name = (NameMap.lastOf pairs name).map .string := by
  induction pairs with
  | nil => rfl
  | cons pair rest ih =>
    rw [List.map_cons, NameMap.lastOfCons, NameMap.lastOfCons, ih, Option.map_or]
    by_cases same : name = pair.1
    · simp [textMember, same]
    · simp [textMember, same]

theorem collectTexts (pairs : List (String × String)) :
    collectMembers (pairs.map textMember) = (lastTexts pairs).map textMember := by
  rw [collected, textMemberNames, lastTexts, List.map_map]
  refine List.map_congr_left fun name known => ?_
  have given : (NameMap.lastOf pairs name).isSome := by
    rw [NameMap.lastOfIsSome]
    obtain ⟨pair, member, same⟩ := List.mem_map.1 (List.mem_eraseDups.1 known)
    exact ⟨pair, member, same⟩
  obtain ⟨text, found⟩ := Option.isSome_iff_exists.1 given
  rw [lastTextMember, found]
  simp only [Function.comp, found]
  rfl

theorem lastTextsNodup (pairs : List (String × String)) :
    ((lastTexts pairs).map Prod.fst).Nodup := by
  have distinct := collectNodup (pairs.map textMember)
  rwa [collectTexts, textMemberNames] at distinct

theorem lastTextsWhole (pairs : List (String × String)) :
    lastTexts pairs = pairs ↔ (pairs.map Prod.fst).Nodup := by
  constructor
  · intro whole
    have distinct := lastTextsNodup pairs
    rwa [whole] at distinct
  · intro distinct
    rw [← textMemberNames] at distinct
    have whole := collectDistinct distinct
    rw [collectTexts] at whole
    have injective : Function.Injective textMember := by
      rintro ⟨name, text⟩ ⟨other, text'⟩ same
      obtain ⟨names, texts⟩ := Prod.mk.inj same
      exact Prod.ext names (Value.string.inj texts)
    exact List.map_injective_iff.2 injective whole

theorem textsReadable (levels : Nat) (pairs : List (String × String)) :
    MembersLexical (pairs.map textMember) ∧ MembersReadable levels (pairs.map textMember) := by
  induction pairs with
  | nil => exact ⟨trivial, trivial⟩
  | cons pair rest ih =>
    have text : IsReadable levels (.string pair.2) := by cases levels <;> trivial
    exact ⟨⟨trivial, ih.1⟩, text, ih.2⟩

end RequestSuite.Json.Value
