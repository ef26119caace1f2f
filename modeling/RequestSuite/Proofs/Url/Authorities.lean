import RequestSuite.Proofs.Json.Numbers
import RequestSuite.Proofs.Text.Cuts
import RequestSuite.Url.Authority

/-! Authorities that are written out and read again. What the reader gives is a scheme in small
letters, a host without the marks of a URL in it, and a port that is not the scheme's own; put
together from these, a text is read as the same authority. -/
namespace RequestSuite.Url.Authority
open Text

theorem asciiEach (holds : Char → Prop) (each : ∀ n < 128, holds (Char.ofNat n)) {c : Char}
    (ascii : c.toNat < 128) : holds c := by
  have here := each c.toNat ascii
  rwa [Char.ofNat_toNat] at here

theorem digitAscii {c : Char} (digit : isAsciiDigit c = true) : c.toNat < 128 := by
  simp only [isAsciiDigit, Bool.and_eq_true, decide_eq_true_eq] at digit
  exact Nat.lt_of_le_of_lt digit.2 (by decide)

theorem smallStays {text : List Char} (small : ∀ c ∈ text, c.toLower = c) :
    text.map Char.toLower = text :=
  (List.map_congr_left small).trans (List.map_id _)

structure IsScheme (scheme : List Char) : Prop where
  first : ∃ c rest, scheme = c :: rest ∧ c.isAlpha = true
  parts : ∀ c ∈ scheme, isSchemePart c = true ∧ c.toLower = c

theorem schemePartAscii {c : Char} (part : isSchemePart c = true) : c.toNat < 128 := by
  delta isSchemePart Char.isAlphanum Char.isAlpha Char.isUpper Char.isLower Char.isDigit at part
  simp only [Bool.or_eq_true, Bool.and_eq_true, decide_eq_true_eq] at part
  rcases part with ((((⟨-, below⟩ | ⟨-, below⟩) | ⟨-, below⟩) | rfl) | rfl) | rfl
  · exact Nat.lt_of_le_of_lt below (by decide)
  · exact Nat.lt_of_le_of_lt below (by decide)
  · exact Nat.lt_of_le_of_lt below (by decide)
  all_goals decide

theorem schemePartLower {c : Char} (part : isSchemePart c = true) :
    isSchemePart c.toLower = true ∧ c.toLower.toLower = c.toLower := by
  refine asciiEach (fun c => isSchemePart c = true →
    isSchemePart c.toLower = true ∧ c.toLower.toLower = c.toLower) ?_ (schemePartAscii part) part
  decide +kernel

theorem alphaLower {c : Char} (alpha : c.isAlpha = true) : c.toLower.isAlpha = true := by
  have part : isSchemePart c = true := by simp [isSchemePart, Char.isAlphanum, alpha]
  refine asciiEach (fun c => c.isAlpha = true → c.toLower.isAlpha = true) ?_ (schemePartAscii part)
    alpha
  decide +kernel

theorem schemeFormed {text scheme rest : List Char} (read : scheme? text = some (scheme, rest)) :
    IsScheme scheme := by
  unfold scheme? at read
  split at read
  · dsimp only at read
    cases front : text.takeWhile isSchemePart with
    | nil =>
      rw [front] at read
      contradiction
    | cons c word =>
      rw [front, List.head?_cons] at read
      dsimp only at read
      split at read
      · rename_i alpha
        obtain ⟨rfl, -⟩ := Prod.mk.inj (Option.some.inj read)
        refine ⟨⟨c.toLower, word.map Char.toLower, rfl, alphaLower alpha⟩, fun d member => ?_⟩
        obtain ⟨e, inside, rfl⟩ := List.mem_map.1 member
        rw [← front] at inside
        exact schemePartLower (List.mem_takeWhile_imp inside)
      · contradiction
  · contradiction

theorem schemeBack {scheme : List Char} (formed : IsScheme scheme) (rest : List Char) :
    scheme? (scheme ++ ':' :: rest) = some (scheme, rest) := by
  obtain ⟨⟨c, word, rfl, alpha⟩, parts⟩ := formed
  have all : ∀ d ∈ c :: word, isSchemePart d = true := fun d member => (parts d member).1
  have ended : isSchemePart ':' = false := by decide
  have small := smallStays fun d member => (parts d member).2
  have stops : ∀ d ∈ (':' :: rest).head?, isSchemePart d = false :=
    fun d first => Option.some.inj first ▸ ended
  obtain ⟨front, back⟩ := cutRow all stops
  rw [scheme?, front, back]
  simp only [List.head?_cons, if_pos alpha, small]

theorem cleanVisible {text : List Char} (visible : ∀ c ∈ text, 0x20 < c.toNat) :
    clean text = text := by
  have kept : ∀ row : List Char, (∀ c ∈ row, 0x20 < c.toNat) →
      row.dropWhile (fun c => decide (c.toNat ≤ 0x20)) = row := by
    intro row inside
    cases row with
    | nil => rfl
    | cons c rest =>
      have first := inside c List.mem_cons_self
      exact List.dropWhile_cons_of_neg (by simpa using first)
  have unspaced : ∀ c ∈ text, (c ≠ '\t' && c ≠ '\n' && c ≠ '\r') = true := by
    intro c member
    have above := visible c member
    simp only [Bool.and_eq_true, decide_eq_true_eq]
    refine ⟨⟨?_, ?_⟩, ?_⟩ <;>
      rintro rfl <;> exact absurd above (by decide)
  rw [clean, kept text visible, kept text.reverse fun c member => visible c (List.mem_reverse.1 member),
    List.reverse_reverse, List.filter_eq_self.2 unspaced]

def isHostChar (c : Char) : Bool := 0x20 < c.toNat && !"#/:?@[\\]|".toList.contains c

def isPieceChar (c : Char) : Bool := Json.isHex c || c = ':'

inductive HostForm : List Char → Prop where
  | name (host : List Char) (filled : host ≠ []) (plain : ∀ c ∈ host, isHostChar c = true) :
    HostForm host
  | address (pieces : List Char) (plain : ∀ c ∈ pieces, isPieceChar c = true) :
    HostForm ('[' :: (pieces ++ [']']))

def isInner (c : Char) : Bool := 0x20 < c.toNat && !"#/?@\\".toList.contains c

theorem hostCharInner {c : Char} (plain : isHostChar c = true) : isInner c = true := by
  obtain ⟨visible, other⟩ := Bool.and_eq_true_iff.1 plain
  have absent : c ∉ "#/:?@[\\]|".toList := by simpa using other
  have fewer : "#/?@\\".toList ⊆ "#/:?@[\\]|".toList := by decide
  refine Bool.and_eq_true_iff.2 ⟨visible, ?_⟩
  simpa using fun member => absent (fewer member)

theorem hexAscii {c : Char} (hex : Json.isHex c = true) : c.toNat < 128 := by
  simp only [Json.isHex, Json.hexValue?, isAsciiDigit, Bool.and_eq_true, decide_eq_true_eq] at hex
  split at hex
  · rename_i digit
    exact Nat.lt_of_le_of_lt digit.2 (by decide)
  split at hex
  · rename_i small
    exact Nat.lt_of_le_of_lt small.2 (by decide)
  split at hex
  · rename_i capital
    exact Nat.lt_of_le_of_lt capital.2 (by decide)
  · contradiction

theorem pieceCharInner {c : Char} (plain : isPieceChar c = true) :
    isInner c = true ∧ c ≠ '[' ∧ c ≠ ']' := by
  rcases Bool.or_eq_true_iff.1 plain with hex | colon
  · refine asciiEach (fun c => Json.isHex c = true → isInner c = true ∧ c ≠ '[' ∧ c ≠ ']') ?_
      (hexAscii hex) hex
    decide +kernel
  · rw [of_decide_eq_true colon]
    decide

namespace HostForm

variable {host : List Char}

theorem inner (form : HostForm host) : ∀ c ∈ host, isInner c = true := by
  cases form with
  | name host filled plain => exact fun c member => hostCharInner (plain c member)
  | address pieces plain =>
    intro c member
    rcases List.mem_cons.1 member with rfl | member
    · decide
    rcases List.mem_append.1 member with inside | last
    · exact (pieceCharInner (plain c inside)).1
    · rw [List.mem_singleton.1 last]
      decide

theorem filled (form : HostForm host) : host ≠ [] := by
  cases form with
  | name host filled plain => exact filled
  | address pieces plain => exact List.cons_ne_nil _ _

end HostForm

def portText : Option Nat → List Char
  | none => []
  | some port => ':' :: ofNat port

theorem cutPort (port : Option Nat) : hostAndPort false (portText port) = ([], portText port) := by
  cases port <;> rfl

theorem cutName {host : List Char} (plain : ∀ c ∈ host, isHostChar c = true) (rest : List Char) :
    hostAndPort false (host ++ rest) =
      (host ++ (hostAndPort false rest).1, (hostAndPort false rest).2) := by
  induction host with
  | nil => rfl
  | cons c host ih =>
    obtain ⟨first, later⟩ := List.forall_mem_cons.1 plain
    have unmarked : c ≠ ':' ∧ c ≠ '[' ∧ c ≠ ']' := by
      refine ⟨?_, ?_, ?_⟩ <;>
        rintro rfl <;> exact absurd first (by decide)
    simp only [List.cons_append, hostAndPort, unmarked, ih later, decide_false, Bool.false_and,
      Bool.false_eq_true, if_false]

/- A colon between brackets does not end the host. -/
theorem cutPieces {pieces : List Char} (plain : ∀ c ∈ pieces, isPieceChar c = true)
    (rest : List Char) :
    hostAndPort true (pieces ++ ']' :: rest) =
      (pieces ++ ']' :: (hostAndPort false rest).1, (hostAndPort false rest).2) := by
  induction pieces with
  | nil => rfl
  | cons c pieces ih =>
    obtain ⟨first, later⟩ := List.forall_mem_cons.1 plain
    obtain ⟨-, opened, closed⟩ := pieceCharInner first
    simp only [List.cons_append, hostAndPort, opened, closed, ih later, Bool.not_true,
      Bool.and_false, Bool.false_eq_true, if_false]

theorem HostForm.cut {host : List Char} (form : HostForm host) (port : Option Nat) :
    hostAndPort false (host ++ portText port) = (host, portText port) := by
  cases form with
  | name host filled plain => rw [cutName plain, cutPort, List.append_nil]
  | address pieces plain =>
    have opened : hostAndPort false ('[' :: (pieces ++ ']' :: portText port)) =
        ('[' :: (hostAndPort true (pieces ++ ']' :: portText port)).1,
          (hostAndPort true (pieces ++ ']' :: portText port)).2) := rfl
    rw [List.cons_append, List.append_assoc, List.singleton_append, opened, cutPieces plain, cutPort]

theorem boundedBack {most n : Nat} (small : n ≤ most) : boundedNat? most (ofNat n) = some n := by
  have row : Json.IsRow (ofNat n) := Json.digitRow n
  have value : valueOf (ofNat n) = n := Json.digitValue n
  have accepted : ((ofNat n).isEmpty || !(ofNat n).all isAsciiDigit) = false := by
    rw [List.isEmpty_eq_false_iff.2 row.filled, List.all_eq_true.2 row.digits]
    rfl
  rw [boundedNat?, accepted, value, if_neg Bool.false_ne_true, if_pos small]

theorem boundedMost {most n : Nat} {digits : List Char} (read : boundedNat? most digits = some n) :
    n ≤ most := by
  unfold boundedNat? at read
  split at read
  · contradiction
  split at read
  · rename_i small
    rwa [Option.some.inj read] at small
  · contradiction

theorem portChars (port : Option Nat) :
    ∀ c ∈ portText port, c = ':' ∨ isAsciiDigit c = true := by
  cases port with
  | none => exact List.forall_mem_nil _
  | some n =>
    exact List.forall_mem_cons.2 ⟨.inl rfl, fun c member => .inr ((Json.digitRow n).digits c member)⟩

theorem portInner (port : Option Nat) : ∀ c ∈ portText port, isInner c = true := by
  intro c member
  rcases portChars port c member with rfl | digit
  · decide
  · refine asciiEach (fun c => isAsciiDigit c = true → isInner c = true) ?_ (digitAscii digit) digit
    decide +kernel

theorem portKept {scheme : List Char} {n : Nat} (small : n ≤ 65535)
    (other : defaultPort scheme ≠ some n) : port? scheme (portText (some n)) = some (some n) := by
  have row : Json.IsRow (ofNat n) := Json.digitRow n
  have whole : (ofNat n).takeWhile (· ≠ '\\') = ofNat n := by
    refine List.takeWhile_eq_self_iff.2 fun c member => decide_eq_true ?_
    rintro rfl
    exact absurd (row.digits _ member) (by decide)
  rw [portText, port?, whole, List.isEmpty_eq_false_iff.2 row.filled, if_neg Bool.false_ne_true,
    boundedBack small, Option.map_some, if_neg other]

theorem portBack {scheme text : List Char} {port : Option Nat} (read : port? scheme text = some port) :
    port? scheme (portText port) = some port := by
  cases port with
  | none => rfl
  | some n =>
    unfold port? at read
    split at read
    · cases read
    dsimp only at read
    split at read
    · cases read
    obtain ⟨m, bounded, given⟩ := Option.map_eq_some_iff.1 read
    split at given
    · contradiction
    · rename_i other
      cases Option.some.inj given
      exact portKept (boundedMost bounded) other

theorem innerUnended {text : List Char} (inner : ∀ c ∈ text, isInner c = true) (kind : SchemeKind) :
    ∀ c ∈ text, (!endsAuthority kind c) = true ∧ decide (c ≠ '@') = true := by
  intro c member
  have plain := inner c member
  have unended : ∀ mark ∈ "#/?@\\".toList, c ≠ mark := by
    rintro mark marked rfl
    have other := (Bool.and_eq_true_iff.1 plain).2
    rw [List.contains_iff_mem.2 marked] at other
    contradiction
  have slash := unended '/' (by decide)
  have question := unended '?' (by decide)
  have hash := unended '#' (by decide)
  have back := unended '\\' (by decide)
  have sign := unended '@' (by decide)
  simp [endsAuthority, slash, question, hash, back, sign]

theorem innerUncut {text : List Char} (inner : ∀ c ∈ text, isInner c = true) (kind : SchemeKind) :
    text.takeWhile (!endsAuthority kind ·) = text ∧ afterUser text = text := by
  have plain := innerUnended inner kind
  refine ⟨List.takeWhile_eq_self_iff.2 fun c member => (plain c member).1, ?_⟩
  have whole : text.reverse.takeWhile (· ≠ '@') = text.reverse :=
    List.takeWhile_eq_self_iff.2 fun c member => (plain c (List.mem_reverse.1 member)).2
  rw [afterUser, whole, List.reverse_reverse]

theorem hostPortInner {host : List Char} (form : HostForm host) (port : Option Nat) :
    ∀ c ∈ host ++ portText port, isInner c = true := by
  intro c member
  rcases List.mem_append.1 member with inside | behind
  · exact form.inner c inside
  · exact portInner port c behind

theorem netBack {kind : SchemeKind} {scheme host : List Char} {port : Option Nat}
    (form : HostForm host) (known : host? kind host = some host)
    (numbered : port? scheme (portText port) = some port) :
    ofNet kind scheme (host ++ portText port) =
      some ⟨String.ofList scheme, String.ofList host, port⟩ := by
  obtain ⟨whole, user⟩ := innerUncut (hostPortInner form port) kind
  simp only [ofNet, whole, user, form.cut, List.isEmpty_eq_false_iff.2 form.filled, known, numbered,
    bind, Option.bind, Bool.false_eq_true, if_false]

theorem formUndriven {host : List Char} (form : HostForm host) : isDrive host = false := by
  cases form with
  | name host filled plain =>
    unfold isDrive
    split
    · rename_i letter mark
      have last := plain mark (by simp)
      have unmarked : mark ≠ ':' ∧ mark ≠ '|' := by
        constructor <;>
          rintro rfl <;> exact absurd last (by decide)
      simp [unmarked]
    · rfl
  | address pieces plain =>
    unfold isDrive
    split
    · rename_i same
      have sign : '['.isAlpha = false := by decide
      rw [← (List.cons.inj same).1, sign, Bool.false_and]
    · rfl

theorem fileBack {scheme host : List Char} (form : HostForm host)
    (known : host? .file host = some host) (distant : String.ofList host ≠ "localhost") :
    ofFile scheme host = some ⟨String.ofList scheme, String.ofList host, none⟩ := by
  have plain := innerUnended form.inner .file
  have whole := (innerUncut form.inner .file).1
  have nothing : host.dropWhile (!endsAuthority .file ·) = [] :=
    List.dropWhile_eq_nil_iff.2 fun c member => (plain c member).1
  have start : startsAtDrive [] (splitAt '\\' []) = false := by decide
  simp only [ofFile, whole, nothing, known, formUndriven form, distant, start, List.drop_nil, bind,
    Option.bind, decide_false, Bool.or_self, Bool.false_eq_true, if_false]

def written (scheme host : List Char) (port : Option Nat) : List Char :=
  scheme ++ "://".toList ++ (host ++ portText port)

def behindSlashes (sort : SchemeKind) (rest : List Char) : List Char :=
  match sort with
  | .web => rest.dropWhile fun c => c = '/' || c = '\\'
  | _ => rest.drop 2

structure Outline where
  scheme : List Char
  inner : List Char
  deriving DecidableEq, Repr

def outline? (text : List Char) : Option Outline :=
  (scheme? (clean text)).map fun (scheme, rest) =>
    ⟨scheme, (behindSlashes (kind scheme) rest).takeWhile (!endsAuthority (kind scheme) ·)⟩

def Outline.name (outline : Outline) : List Char :=
  if kind outline.scheme = .file then outline.inner
  else (hostAndPort false (afterUser outline.inner)).1

def Outline.user (outline : Outline) : List Char × List Char :=
  if kind outline.scheme = .file then ([], [])
  else
    let user := ((outline.inner.reverse.dropWhile (· ≠ '@')).drop 1).reverse
    (user.takeWhile (· ≠ ':'), (user.dropWhile (· ≠ ':')).drop 1)

structure Parts (found : Authority) (scheme name : List Char) : Prop where
  formed : IsScheme scheme
  same : found.scheme = String.ofList scheme
  host : host? (kind scheme) name = some found.host.toList
  filled : kind scheme = .other → name ≠ []
  port : port? scheme (portText found.port) = some found.port
  file : kind scheme = .file → found.port = none ∧ found.host ≠ "localhost"

theorem netParts {sort : SchemeKind} {scheme rest : List Char} {found : Authority}
    (formed : IsScheme scheme) (same : kind scheme = sort) (distinct : sort ≠ .file)
    (read : ofNet sort scheme rest = some found) :
    Parts found scheme (Outline.name ⟨scheme, rest.takeWhile (!endsAuthority sort ·)⟩) := by
  simp only [ofNet, bind] at read
  split at read
  · contradiction
  rename_i filled
  obtain ⟨host, known, read⟩ := Option.bind_eq_some_iff.1 read
  obtain ⟨port, numbered, last⟩ := Option.bind_eq_some_iff.1 read
  cases Option.some.inj last
  rw [Outline.name, if_neg (same ▸ distinct)]
  refine ⟨formed, rfl, ?_, fun _ => by simpa using filled, portBack numbered,
    fun file => absurd (same ▸ file) distinct⟩
  rw [same, String.toList_ofList]
  exact known

theorem fileParts {scheme rest : List Char} {found : Authority} (formed : IsScheme scheme)
    (same : kind scheme = .file) (read : ofFile scheme rest = some found) :
    Parts found scheme (Outline.name ⟨scheme, rest.takeWhile (!endsAuthority .file ·)⟩) := by
  simp only [ofFile, bind, Option.bind_eq_some_iff] at read
  obtain ⟨host, known, last⟩ := read
  split at last
  · contradiction
  rename_i distant
  cases Option.some.inj last
  rw [Outline.name, if_pos same]
  refine ⟨formed, rfl, ?_, fun other => absurd (same.symm.trans other) (by decide), rfl,
    fun _ => ⟨rfl, ?_⟩⟩
  · rw [same, String.toList_ofList]
    exact known
  · intro here
    have here : String.ofList host = "localhost" := here
    simp [here] at distant

theorem readParts {text : List Char} {found : Authority} (read : ofText? text = some found) :
    ∃ outline, outline? text = some outline ∧ Parts found outline.scheme outline.name := by
  simp only [ofText?, bind, Option.bind_eq_some_iff] at read
  obtain ⟨⟨scheme, rest⟩, start, read⟩ := read
  have formed := schemeFormed start
  have cut : outline? text = some ⟨scheme,
      (behindSlashes (kind scheme) rest).takeWhile (!endsAuthority (kind scheme) ·)⟩ := by
    rw [outline?, start]
    rfl
  refine ⟨_, cut, ?_⟩
  dsimp only at read ⊢
  cases sort : kind scheme with
  | web =>
    rw [sort] at read
    exact netParts formed sort (by decide) read
  | file =>
    rw [sort] at read
    dsimp only at read
    split at read
    · split at read
      · exact fileParts formed sort read
      · contradiction
    · contradiction
  | other =>
    rw [sort] at read
    dsimp only at read
    split at read
    · exact netParts formed sort (by decide) read
    · contradiction

theorem schemeVisible {scheme : List Char} (formed : IsScheme scheme) :
    ∀ c ∈ scheme, 0x20 < c.toNat := by
  intro c member
  have part := (formed.parts c member).1
  refine asciiEach (fun c => isSchemePart c = true → 0x20 < c.toNat) ?_ (schemePartAscii part) part
  decide +kernel

section
variable {scheme rest : List Char} (inner : ∀ c ∈ rest, isInner c = true)
include inner

theorem startPlain (formed : IsScheme scheme) :
    scheme? (clean (scheme ++ "://".toList ++ rest)) = some (scheme, '/' :: '/' :: rest) := by
  have visible : ∀ c ∈ scheme ++ "://".toList ++ rest, 0x20 < c.toNat := by
    have marks : ("://".toList.all fun c => 0x20 < c.toNat) = true := by decide
    intro c member
    rcases List.mem_append.1 member with front | behind
    · rcases List.mem_append.1 front with letter | mark
      · exact schemeVisible formed c letter
      · exact of_decide_eq_true (List.all_eq_true.1 marks c mark)
    · exact of_decide_eq_true (Bool.and_eq_true_iff.1 (inner c behind)).1
  rw [cleanVisible visible, List.append_assoc]
  exact schemeBack formed _

theorem behindPlain (sort : SchemeKind) : behindSlashes sort ('/' :: '/' :: rest) = rest := by
  cases sort with
  | web =>
    cases rest with
    | nil => rfl
    | cons c rest =>
      have first := (innerUnended inner .web c List.mem_cons_self).1
      change (c :: rest).dropWhile (fun c => c = '/' || c = '\\') = c :: rest
      refine List.dropWhile_cons_of_neg fun slash => ?_
      rcases Bool.or_eq_true_iff.1 slash with same | same <;>
        rw [of_decide_eq_true same] at first <;> exact absurd first (by decide)
  | file => rfl
  | other => rfl

theorem ofTextPlain (formed : IsScheme scheme) :
    ofText? (scheme ++ "://".toList ++ rest) =
      match kind scheme with
      | .web => ofNet .web scheme rest
      | .file => ofFile scheme rest
      | .other => ofNet .other scheme rest := by
  rw [ofText?, startPlain inner formed]
  simp only [bind, Option.bind]
  cases kind scheme with
  | web => exact congrArg (ofNet .web scheme) (behindPlain inner .web)
  | file => rfl
  | other => rfl

theorem plainUser (formed : IsScheme scheme) :
    ∃ outline, outline? (scheme ++ "://".toList ++ rest) = some outline ∧
      outline.user = ([], []) := by
  have cut : outline? (scheme ++ "://".toList ++ rest) = some ⟨scheme, rest⟩ := by
    rw [outline?, startPlain inner formed, Option.map_some]
    dsimp only
    rw [behindPlain inner, (innerUncut inner _).1]
  have unsigned : rest.reverse.dropWhile (· ≠ '@') = [] :=
    List.dropWhile_eq_nil_iff.2 fun c member =>
      (innerUnended inner .web c (List.mem_reverse.1 member)).2
  refine ⟨_, cut, ?_⟩
  rw [Outline.user]
  split
  · rfl
  · rw [unsigned]
    rfl

end

theorem authorityBack {found : Authority} {scheme name : List Char} (parts : Parts found scheme name)
    (form : HostForm found.host.toList)
    (known : host? (kind scheme) found.host.toList = some found.host.toList) :
    ofText? (written scheme found.host.toList found.port) = some found := by
  obtain ⟨formed, same, -, -, numbered, file⟩ := parts
  have whole : found = ⟨String.ofList scheme, String.ofList found.host.toList, found.port⟩ := by
    rw [String.ofList_toList, ← same]
  rw [written, ofTextPlain (hostPortInner form found.port) formed]
  cases sort : kind scheme with
  | web =>
    rw [sort] at known
    exact (netBack form known numbered).trans (congrArg some whole.symm)
  | file =>
    rw [sort] at known
    obtain ⟨portless, distant⟩ := file sort
    rw [portless] at whole ⊢
    rw [← String.ofList_toList (s := found.host)] at distant
    rw [portText, List.append_nil]
    exact (fileBack form known distant).trans (congrArg some whole.symm)
  | other =>
    rw [sort] at known
    exact (netBack form known numbered).trans (congrArg some whole.symm)

end RequestSuite.Url.Authority
