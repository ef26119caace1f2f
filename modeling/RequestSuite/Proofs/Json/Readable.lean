import RequestSuite.Proofs.Json.Members

/-! Values that were read from a text, to be printed and read again. A reader gives every key of an
object once and keeps to the depth that it allows for, so a value that it gave is one that it can
give again, as long as the numbers in it are integers. -/
namespace RequestSuite.Json.Value
open Decimal

mutual
def every (number : Number → Bool) (word : String → Bool) : Value → Bool
  | .number n => number n
  | .string text => word text
  | .array items => everyItem number word items
  | .object members => everyMember number word members
  | _ => true

def everyItem (number : Number → Bool) (word : String → Bool) : List Value → Bool
  | [] => true
  | item :: rest => every number word item && everyItem number word rest

def everyMember (number : Number → Bool) (word : String → Bool) : List (String × Value) → Bool
  | [] => true
  | (key, value) :: rest => word key && (every number word value && everyMember number word rest)
end

def isInteger : Number → Bool
  | .integer _ _ => true
  | .binary _ => false

theorem integerReturns {n : Number} (whole : isInteger n = true) :
    (literal n).number? = some n := by
  match n, whole with
  | .integer n fits, _ => rw [(integerLexical n fits).2, integerBack n fits]

theorem membersReadable {levels : Nat} {members : List (String × Value)}
    (readable : ∀ member ∈ members, member.2.IsReadable levels) :
    MembersReadable levels members := by
  induction members with
  | nil => trivial
  | cons member members ih =>
    obtain ⟨first, later⟩ := List.forall_mem_cons.1 readable
    exact ⟨first, ih later⟩

theorem putMember {key : String} {value : Value} {members : List (String × Value)}
    {member : String × Value} (known : member ∈ put key value members) :
    member = (key, value) ∨ member ∈ members := by
  induction members with
  | nil => exact .inl (List.mem_singleton.1 known)
  | cons first rest ih =>
    obtain ⟨other, old⟩ := first
    rw [put] at known
    split at known
    · rename_i same
      rcases List.mem_cons.1 known with here | later
      · exact .inl (same ▸ here)
      · exact .inr (List.mem_cons_of_mem _ later)
    · rcases List.mem_cons.1 known with here | later
      · exact .inr (here ▸ List.mem_cons_self)
      · exact (ih later).imp_right (List.mem_cons_of_mem _)

theorem collectMember {members : List (String × Value)} {member : String × Value}
    (known : member ∈ collectMembers members) : member ∈ members := by
  induction members using List.reverseRecOn with
  | nil => exact known
  | append_singleton members last ih =>
    obtain ⟨key, value⟩ := last
    rw [collectLater] at known
    rcases putMember known with here | earlier
    · exact List.mem_append_right _ (List.mem_singleton.2 here)
    · exact List.mem_append_left _ (ih earlier)

section
variable {word : String → Bool}

theorem everyMemberValue {members : List (String × Value)} {member : String × Value}
    (every : everyMember isInteger word members = true) (known : member ∈ members) :
    member.2.every isInteger word = true := by
  induction members with
  | nil => contradiction
  | cons first rest ih =>
    obtain ⟨-, inside⟩ := Bool.and_eq_true_iff.1 every
    obtain ⟨here, later⟩ := Bool.and_eq_true_iff.1 inside
    rcases List.mem_cons.1 known with rfl | below
    · exact here
    · exact ih later below

mutual
theorem treeReadable {levels : Nat} {tree : Tree} {value : Value}
    (read : ofTree? levels tree = some value) (whole : value.every isInteger word = true) :
    value.IsReadable levels := by
  match tree, levels with
  | .null, _ => cases read; trivial
  | .bool _, _ => cases read; trivial
  | .number text, _ =>
    obtain ⟨n, -, rfl⟩ := Option.map_eq_some_iff.1 read
    exact integerReturns whole
  | .string raw, _ =>
    obtain ⟨text, -, rfl⟩ := Option.map_eq_some_iff.1 read
    trivial
  | .array items, levels + 1 =>
    obtain ⟨values, inside, rfl⟩ := Option.map_eq_some_iff.1 read
    exact itemsTreeReadable inside whole
  | .object members, levels + 1 =>
    obtain ⟨found, inside, rfl⟩ := Option.map_eq_some_iff.1 read
    refine ⟨collectNodup found, membersReadable fun member known => ?_⟩
    exact membersTreeReadable inside member (collectMember known) (everyMemberValue whole known)

theorem itemsTreeReadable {levels : Nat} {items : List Tree} {values : List Value}
    (read : ofItems? levels items = some values)
    (whole : everyItem isInteger word values = true) : ItemsReadable levels values := by
  match items with
  | [] => cases read; trivial
  | item :: items =>
    simp only [ofItems?, bind, Option.bind_eq_some_iff] at read
    obtain ⟨value, first, rest, later, last⟩ := read
    cases Option.some.inj last
    obtain ⟨here, below⟩ := Bool.and_eq_true_iff.1 whole
    exact ⟨treeReadable first here, itemsTreeReadable later below⟩

theorem membersTreeReadable {levels : Nat} {members : List (List Char × Tree)}
    {found : List (String × Value)} (read : ofMembers? levels members = some found) :
    ∀ member ∈ found, member.2.every isInteger word = true → member.2.IsReadable levels := by
  match members with
  | [] => cases read; exact List.forall_mem_nil _
  | (raw, item) :: members =>
    simp only [ofMembers?, bind, Option.bind_eq_some_iff] at read
    obtain ⟨key, -, value, first, rest, later, last⟩ := read
    cases Option.some.inj last
    exact List.forall_mem_cons.2 ⟨treeReadable first, membersTreeReadable later⟩
end

end

theorem textReadable {text : String} {value : Value} (read : ofText? text = some value)
    {word : String → Bool} (whole : value.every isInteger word = true) :
    value.IsReadable maxLevels := by
  obtain ⟨tree, -, made⟩ := Option.bind_eq_some_iff.1 read
  exact treeReadable made whole

end RequestSuite.Json.Value
