import RequestSuite.Proofs.Fallible
import RequestSuite.Proofs.Url.Authorities

/-! Domain names and opaque hosts. The written form of a name is in ASCII. For a name that was in
ASCII already it is the name in small letters, which is its own written form. -/
namespace RequestSuite.Url.Punycode
open Domain (isAscii)

theorem thresholdBounds (k bias : Nat) : 1 ≤ threshold k bias ∧ threshold k bias ≤ 26 := by
  unfold threshold
  split
  · omega
  · split <;> omega

theorem digitCharAscii {d : Nat} (small : d < 36) : (digitChar d).toNat < 128 := by
  have each : ∀ d < 36, (digitChar d).toNat < 128 := by decide
  exact each d small

theorem distanceAscii (q k bias : Nat) : ∀ c ∈ distance q k bias, c.toNat < 128 := by
  fun_induction distance q k bias with
  | case1 q k t range ih =>
    obtain ⟨-, -, most⟩ := range
    refine List.forall_mem_cons.2 ⟨digitCharAscii ?_, ih⟩
    have less := Nat.mod_lt (q - t) (Nat.sub_pos_of_lt most)
    omega
  | case2 q k t range =>
    obtain ⟨least, most⟩ := thresholdBounds k bias
    refine List.forall_mem_singleton.2 (digitCharAscii ?_)
    change ¬ (threshold k bias ≤ q ∧ 1 ≤ threshold k bias ∧ threshold k bias < 36) at range
    omega

def Encoder.IsAscii (state : Encoder) : Prop := ∀ part ∈ state.output, ∀ c ∈ part, c.toNat < 128

theorem stepAscii {state : Encoder} (ascii : state.IsAscii) (point c : Nat) :
    (encodeStep point state c).IsAscii := by
  unfold encodeStep
  split
  · exact ascii
  split
  · exact List.forall_mem_cons.2 ⟨distanceAscii _ _ _, ascii⟩
  · exact ascii

theorem passAscii {state : Encoder} (ascii : state.IsAscii) (point : Nat) (label : List Nat) :
    (label.foldl (encodeStep point) state).IsAscii := by
  induction label generalizing state with
  | nil => exact ascii
  | cons c label ih => exact ih (stepAscii ascii point c)

theorem pointsAscii {state : Encoder} (ascii : state.IsAscii) (label : List Nat) (next : Nat)
    (points : List Nat) : (encodePoints label next state points).IsAscii := by
  induction points generalizing state next with
  | nil => exact ascii
  | cons point rest ih =>
    have raised : Encoder.IsAscii
        { state with delta := state.delta + (point - next) * (state.handled + 1) } := ascii
    refine ih ?_ (point + 1)
    exact passAscii raised point label

theorem encodeAscii (label : List Char) : isAscii (encode label) = true := by
  have start : ∀ c ∈ label.filter (fun c => c.toNat < 128), c.toNat < 128 :=
    fun c member => of_decide_eq_true (List.mem_filter.1 member).2
  refine List.all_eq_true.2 fun c member => decide_eq_true ?_
  obtain ⟨part, written, inside⟩ := List.mem_flatten.1 member
  refine pointsAscii ?_ _ _ _ part (List.mem_reverse.1 written) c inside
  refine List.forall_mem_singleton.2 ?_
  split
  · exact List.forall_mem_nil _
  · intro d mem
    rcases List.mem_append.1 mem with basic | last
    · exact start d basic
    · rw [List.mem_singleton.1 last]
      decide

end RequestSuite.Url.Punycode

namespace RequestSuite.Url.Domain
open Text

theorem foldAscii {c : Char} (ascii : c.toNat < 128) :
    foldChar? c = if isForbidden c then none else some [c.toLower] := by
  rw [foldChar?, if_pos ascii]

theorem lowerAllowed {c : Char} (ascii : c.toNat < 128) (allowed : isForbidden c = false) :
    isForbidden c.toLower = false ∧ c.toLower.toNat < 128 ∧ c.toLower.toLower = c.toLower := by
  refine Authority.asciiEach (fun c => isForbidden c = false →
    isForbidden c.toLower = false ∧ c.toLower.toNat < 128 ∧ c.toLower.toLower = c.toLower)
    ?_ ascii allowed
  decide +kernel

theorem asciiMember {text : List Char} (ascii : isAscii text = true) : ∀ c ∈ text, c.toNat < 128 :=
  fun c member => of_decide_eq_true (List.all_eq_true.1 ascii c member)

theorem foldedAscii {text : List Char} (ascii : isAscii text = true)
    (allowed : ∀ c ∈ text, isForbidden c = false) : folded? text = some (text.map Char.toLower) := by
  have small := asciiMember ascii
  have mapped : text.mapM foldChar? = some (text.map fun c => [c.toLower]) := by
    refine mapSome.2 (List.forall₂_map_right_iff.2 (List.forall₂_same.2 fun c member => ?_))
    rw [foldAscii (small c member), allowed c member]
    rfl
  have flat : (text.map fun c => [c.toLower]).flatten = text.map Char.toLower := by
    rw [← List.flatMap_def]
    exact (List.map_eq_flatMap).symm
  have lower : isAscii (text.map Char.toLower) = true := by
    refine List.all_eq_true.2 fun d member => decide_eq_true ?_
    obtain ⟨c, inside, rfl⟩ := List.mem_map.1 member
    exact (lowerAllowed (small c inside) (allowed c inside)).2.1
  rw [folded?, mapped]
  simp only [bind, Option.bind, flat, lower, if_true]

theorem foldedAllowed {text folded : List Char} (read : folded? text = some folded) {c : Char}
    (member : c ∈ text) (ascii : c.toNat < 128) : isForbidden c = false := by
  obtain ⟨rows, mapped, -⟩ := Option.bind_eq_some_iff.1 read
  obtain ⟨row, -, image⟩ := mapImage mapped member
  rw [foldAscii ascii] at image
  split at image
  · contradiction
  · exact Bool.eq_false_iff.2 (by assumption)

theorem codedAscii {label code : List Char} (cut : codePrefix.isPrefixOf? label = some code)
    (ascii : isAscii code = true) : isAscii label = true := by
  rw [← List.append_eq_of_isPrefixOf?_eq_some cut, isAscii, List.all_append, Bool.and_eq_true]
  exact ⟨by decide, ascii⟩

theorem labelAscii {label : List Char} {found : Label} (read : Label.ofText? label = some found) :
    isAscii found.written = true ∧ (isAscii label = true → found.written = label) := by
  unfold Label.ofText? at read
  split at read
  · rename_i code cut
    simp only [Label.ofCode?, bind] at read
    split at read
    · contradiction
    rename_i accepted
    obtain ⟨plain, -, read⟩ := Option.bind_eq_some_iff.1 read
    split at read
    · cases Option.some.inj read
      have ascii : isAscii code = true := by
        by_contra other
        simp [other] at accepted
      exact ⟨codedAscii cut ascii, fun _ => rfl⟩
    · contradiction
  split at read
  · rename_i ascii
    cases Option.some.inj read
    exact ⟨ascii, fun _ => rfl⟩
  split at read
  · rename_i beyond valid
    cases Option.some.inj read
    refine ⟨?_, fun ascii => absurd ascii beyond⟩
    rw [isAscii, List.all_append, Bool.and_eq_true]
    exact ⟨by decide, Punycode.encodeAscii label⟩
  · contradiction

theorem ofTextParts {name domain : List Char} (read : ofText? name = some domain) :
    ∃ folded labels, folded? name = some folded ∧
      (splitAt '.' folded).mapM Label.ofText? = some labels ∧ directionsKept labels = true ∧
      domain = joinWith ['.'] (labels.map (·.written)) := by
  obtain ⟨folded, small, read⟩ := Option.bind_eq_some_iff.1 read
  obtain ⟨labels, mapped, read⟩ := Option.bind_eq_some_iff.1 read
  split at read
  · rename_i kept
    exact ⟨folded, labels, small, mapped, kept, (Option.some.inj read).symm⟩
  · contradiction

theorem ofTextAscii {name domain : List Char} (read : ofText? name = some domain) :
    isAscii domain = true := by
  obtain ⟨folded, labels, -, mapped, -, rfl⟩ := ofTextParts read
  refine List.all_eq_true.2 fun c member => decide_eq_true ?_
  rcases memJoinWith member with dot | ⟨part, known, inside⟩
  · rw [List.mem_singleton.1 dot]
    decide
  · obtain ⟨found, listed, rfl⟩ := List.mem_map.1 known
    obtain ⟨label, -, image⟩ := mapSource mapped listed
    exact asciiMember (labelAscii image).1 c inside

theorem writtenLabels {parts : List (List Char)} {labels : List Label}
    (mapped : parts.mapM Label.ofText? = some labels)
    (ascii : ∀ part ∈ parts, isAscii part = true) : labels.map (·.written) = parts := by
  have each := mapSome.1 mapped
  clear mapped
  induction each with
  | nil => rfl
  | cons first later ih =>
    obtain ⟨here, below⟩ := List.forall_mem_cons.1 ascii
    rw [List.map_cons, (labelAscii first).2 here, ih below]

theorem ofTextLower {name domain : List Char} (ascii : isAscii name = true)
    (read : ofText? name = some domain) :
    (∀ c ∈ name, isForbidden c = false) ∧ domain = name.map Char.toLower := by
  obtain ⟨folded, labels, small, mapped, -, rfl⟩ := ofTextParts read
  have allowed : ∀ c ∈ name, isForbidden c = false :=
    fun c member => foldedAllowed small member (asciiMember ascii c member)
  rw [foldedAscii ascii allowed] at small
  obtain rfl := Option.some.inj small
  refine ⟨allowed, ?_⟩
  rw [writtenLabels mapped, joinSplit]
  intro part member
  refine List.all_eq_true.2 fun d inside => decide_eq_true ?_
  obtain ⟨c, known, rfl⟩ := List.mem_map.1 (splitAtSubset member inside)
  exact (lowerAllowed (asciiMember ascii c known) (allowed c known)).2.1

theorem ofTextAgain {name domain : List Char} (ascii : isAscii name = true)
    (read : ofText? name = some domain) : ofText? domain = some domain := by
  obtain ⟨allowed, rfl⟩ := ofTextLower ascii read
  have folds := foldedAscii ascii allowed
  have lower : ∀ d ∈ name.map Char.toLower, isForbidden d = false ∧ d.toLower = d := by
    intro d member
    obtain ⟨c, known, rfl⟩ := List.mem_map.1 member
    have kept := lowerAllowed (asciiMember ascii c known) (allowed c known)
    exact ⟨kept.1, kept.2.2⟩
  have again := Authority.smallStays fun d member => (lower d member).2
  have same : folded? (name.map Char.toLower) = some (name.map Char.toLower) := by
    rw [foldedAscii (ofTextAscii read) fun d member => (lower d member).1, again]
  rw [ofText?, folds] at read
  rw [ofText?, same]
  exact read

end RequestSuite.Url.Domain
