import Mathlib.Data.List.Induction
import RequestSuite.Proofs.Fallible
import RequestSuite.Proofs.Url.Authorities

/-! Numeric hosts that are written out and read again. An address in brackets is written with its
longest run of zeros left out; the gap is the only place with two colons, and the pieces around it
tell how many zeros it stands for. -/
namespace RequestSuite.Url.Address
open Text

def hexOf (digits : List Char) : Nat :=
  digits.foldl (fun value c => 16 * value + (Json.hexValue? c).getD 0) 0

theorem hexDigit {d : Nat} (small : d < 16) :
    Json.isHex (Nat.digitChar d) = true ∧ (Json.hexValue? (Nat.digitChar d)).getD 0 = d := by
  have each : ∀ d < 16, Json.isHex (Nat.digitChar d) = true ∧
      (Json.hexValue? (Nat.digitChar d)).getD 0 = d := by decide
  exact each d small

theorem hexSmall (c : Char) : (Json.hexValue? c).getD 0 < 16 := by
  cases value : Json.hexValue? c with
  | none => exact Nat.zero_lt_succ 15
  | some d =>
    have hex : Json.isHex c = true := by rw [Json.isHex, value]; rfl
    rw [← value]
    refine Authority.asciiEach (fun c => (Json.hexValue? c).getD 0 < 16) ?_ (Authority.hexAscii hex)
    decide +kernel

theorem hexOfBound (digits : List Char) : hexOf digits < Nat.pow 16 digits.length := by
  induction digits using List.reverseRecOn with
  | nil => exact Nat.one_pos
  | append_singleton digits c ih =>
    have last := hexSmall c
    rw [hexOf] at ih
    have more : Nat.pow 16 (digits.length + 1) = Nat.pow 16 digits.length * 16 := rfl
    rw [hexOf, List.foldl_append, List.foldl_cons, List.foldl_nil, List.length_append,
      List.length_singleton, more]
    omega

theorem pieceDigits (n : Nat) :
    (∀ c ∈ pieceText n, Json.isHex c = true) ∧ hexOf (pieceText n) = n := by
  induction n using Nat.strongRecOn with
  | _ n ih =>
    by_cases small : n < 16
    · obtain ⟨hex, value⟩ := hexDigit small
      rw [pieceText, Nat.toDigits_of_lt_base small]
      refine ⟨List.forall_mem_singleton.2 hex, ?_⟩
      rw [hexOf, List.foldl_cons, List.foldl_nil, value]
      omega
    · obtain ⟨front, above⟩ := ih (n / 16) (by omega)
      obtain ⟨hex, value⟩ := hexDigit (Nat.mod_lt n (by decide : 0 < 16))
      rw [pieceText, Nat.toDigits_of_base_le (by decide) (by omega)]
      refine ⟨List.forall_mem_append.2 ⟨front, List.forall_mem_singleton.2 hex⟩, ?_⟩
      rw [pieceText, hexOf] at above
      rw [hexOf, List.foldl_append, above, List.foldl_cons, List.foldl_nil, value]
      omega

theorem pieceFilled (n : Nat) : pieceText n ≠ [] := Nat.toDigits_ne_nil

theorem pieceUnmarked (n : Nat) (mark : Char) (other : Json.isHex mark = false) :
    mark ∉ pieceText n := by
  intro member
  rw [(pieceDigits n).1 mark member] at other
  contradiction

theorem pieceBack {n : Nat} (small : n < 65536) : piece? (pieceText n) = some n := by
  obtain ⟨hex, value⟩ := pieceDigits n
  have short : (pieceText n).length ≤ 4 := (Nat.length_toDigits_le_iff (by decide) (by decide)).2 small
  have accepted : ((pieceText n).isEmpty || decide ((pieceText n).length > 4) ||
      !(pieceText n).all Json.isHex) = false := by
    rw [List.isEmpty_eq_false_iff.2 (pieceFilled n), List.all_eq_true.2 hex,
      decide_eq_false (Nat.not_lt.2 short)]
    rfl
  rw [piece?, accepted, if_neg Bool.false_ne_true]
  exact congrArg some value

theorem pieceBound {digits : List Char} {n : Nat} (read : piece? digits = some n) : n < 65536 := by
  rw [piece?] at read
  split at read
  · contradiction
  · rename_i accepted
    have short : digits.length ≤ 4 := by
      by_contra long
      simp [Nat.not_le.1 long] at accepted
    rw [← Option.some.inj read]
    have most : Nat.pow 16 digits.length ≤ Nat.pow 16 4 := Nat.pow_le_pow_right (by decide) short
    exact Nat.lt_of_lt_of_le (hexOfBound digits) most

theorem byteBound {digits : List Char} {n : Nat} (read : byte? digits = some n) : n < 256 := by
  rw [byte?] at read
  split at read
  · contradiction
  · exact Nat.lt_succ_of_le (Authority.boundedMost read)

theorem tailBound {text : List Char} {pieces : List Nat} (read : tail? text = some pieces) :
    ∀ n ∈ pieces, n < 65536 := by
  obtain ⟨bytes, mapped, read⟩ := Option.bind_eq_some_iff.1 read
  have small : ∀ n ∈ bytes, n < 256 := by
    intro n member
    obtain ⟨part, -, image⟩ := mapSource mapped member
    exact byteBound image
  split at read
  · rename_i a b c d
    cases Option.some.inj read
    have first := small a (by simp)
    have second := small b (by simp)
    have third := small c (by simp)
    have fourth := small d (by simp)
    refine List.forall_mem_cons.2 ⟨?_, List.forall_mem_singleton.2 ?_⟩ <;> omega
  · contradiction

theorem piecesBound {parts : List (List Char)} {pieces : List Nat}
    (read : pieces? parts = some pieces) : ∀ n ∈ pieces, n < 65536 := by
  induction parts generalizing pieces with
  | nil =>
    cases read
    exact List.forall_mem_nil _
  | cons first rest ih =>
    cases rest with
    | nil =>
      rw [pieces?] at read
      split at read
      · exact tailBound read
      · obtain ⟨n, one, rfl⟩ := Option.map_eq_some_iff.1 read
        exact List.forall_mem_singleton.2 (pieceBound one)
    | cons next others =>
      rw [pieces?] at read
      · obtain ⟨n, one, read⟩ := Option.bind_eq_some_iff.1 read
        obtain ⟨more, later, last⟩ := Option.bind_eq_some_iff.1 read
        cases Option.some.inj last
        exact List.forall_mem_cons.2 ⟨pieceBound one, ih later⟩
      · exact List.cons_ne_nil next others

theorem sideBound {text : List Char} {pieces : List Nat} (read : side? text = some pieces) :
    ∀ n ∈ pieces, n < 65536 := by
  rw [side?] at read
  split at read
  · cases read
    exact List.forall_mem_nil _
  · exact piecesBound read

structure IsEight (pieces : List Nat) : Prop where
  length : pieces.length = 8
  small : ∀ n ∈ pieces, n < 65536

theorem eightBound {text : List Char} {pieces : List Nat} (read : eight? text = some pieces) :
    IsEight pieces := by
  rw [eight?] at read
  split at read
  · simp only [bind] at read
    split at read
    · contradiction
    obtain ⟨front, one, read⟩ := Option.bind_eq_some_iff.1 read
    obtain ⟨back, other, read⟩ := Option.bind_eq_some_iff.1 read
    split at read
    · contradiction
    · rename_i fits
      cases Option.some.inj read
      refine ⟨?_, ?_⟩
      · simp only [List.length_append, List.length_replicate]
        omega
      · have zero : ∀ n ∈ List.replicate (8 - front.length - back.length) 0, n < 65536 := by
          intro n member
          rw [List.eq_of_mem_replicate member]
          decide
        exact List.forall_mem_append.2
          ⟨List.forall_mem_append.2 ⟨sideBound one, zero⟩, sideBound other⟩
  · obtain ⟨found, one, read⟩ := Option.bind_eq_some_iff.1 read
    split at read
    · rename_i eight
      cases Option.some.inj read
      exact ⟨eight, piecesBound one⟩
    · contradiction

def piecesText (pieces : List Nat) : List Char := joinWith [':'] (pieces.map pieceText)

theorem piecesTextNext (first next : Nat) (rest : List Nat) :
    piecesText (first :: next :: rest) = pieceText first ++ ':' :: piecesText (next :: rest) := by
  simp [piecesText, joinWith]

theorem piecesTextStart (first : Nat) (rest : List Nat) :
    ∃ c after, piecesText (first :: rest) = c :: after ∧ c ≠ ':' := by
  obtain ⟨c, digits, split⟩ := List.exists_cons_of_ne_nil (pieceFilled first)
  have other : c ≠ ':' := by
    rintro rfl
    exact pieceUnmarked first ':' (by decide) (split ▸ List.mem_cons_self)
  cases rest with
  | nil => exact ⟨c, digits, split, other⟩
  | cons next rest => exact ⟨c, digits ++ ':' :: piecesText (next :: rest),
      by rw [piecesTextNext, split]; rfl, other⟩

theorem piecesTextPlain (pieces : List Nat) :
    ∀ c ∈ piecesText pieces, Authority.isPieceChar c = true := by
  intro c member
  rcases memJoinWith member with colon | ⟨part, known, inside⟩
  · rw [List.mem_singleton.1 colon]
    decide
  · obtain ⟨n, -, rfl⟩ := List.mem_map.1 known
    rw [Authority.isPieceChar, (pieceDigits n).1 c inside, Bool.true_or]

theorem piecesBack {pieces : List Nat} (small : ∀ n ∈ pieces, n < 65536) :
    pieces? (pieces.map pieceText) = some pieces := by
  induction pieces with
  | nil => rfl
  | cons first rest ih =>
    obtain ⟨here, later⟩ := List.forall_mem_cons.1 small
    cases rest with
    | nil =>
      have undotted : (pieceText first).contains '.' = false := by
        simpa using pieceUnmarked first '.' (by decide)
      rw [List.map_cons, List.map_nil, pieces?, undotted, if_neg Bool.false_ne_true, pieceBack here]
      rfl
    | cons next others =>
      rw [List.map_cons, pieces?, pieceBack here, ih later]
      · rfl
      · simp

theorem piecesSplit {pieces : List Nat} (filled : pieces ≠ []) :
    splitAt ':' (piecesText pieces) = pieces.map pieceText := by
  refine splitAtJoin (by simpa using filled) fun part member => ?_
  obtain ⟨n, -, rfl⟩ := List.mem_map.1 member
  exact pieceUnmarked n ':' (by decide)

theorem sideBack {pieces : List Nat} (small : ∀ n ∈ pieces, n < 65536) :
    side? (piecesText pieces) = some pieces := by
  cases pieces with
  | nil => rfl
  | cons first rest =>
    obtain ⟨c, after, split, -⟩ := piecesTextStart first rest
    have filled : (piecesText (first :: rest)).isEmpty = false := by rw [split]; rfl
    rw [side?, filled, if_neg Bool.false_ne_true, piecesSplit (List.cons_ne_nil first rest),
      piecesBack small]

theorem gapOther {c : Char} {rest : List Char} (apart : c ≠ ':' ∨ rest.head? ≠ some ':') :
    splitGap (c :: rest) = (splitGap rest).map fun (before, after) => (c :: before, after) := by
  rw [splitGap]
  rintro after rfl rfl
  simp at apart

theorem gapDigits {digits : List Char} (uncolon : ':' ∉ digits) (rest : List Char) :
    splitGap (digits ++ rest) =
      (splitGap rest).map fun (before, after) => (digits ++ before, after) := by
  induction digits with
  | nil => exact (congrFun Option.map_id _).symm
  | cons c digits ih =>
    obtain ⟨other, later⟩ := not_or.1 (mt List.mem_cons.2 uncolon)
    rw [List.cons_append, gapOther (.inl (Ne.symm other)), ih later, Option.map_map]
    rfl

theorem gapPieces (pieces : List Nat) (rest : List Char) :
    splitGap (piecesText pieces ++ rest) =
      (splitGap rest).map fun (before, after) => (piecesText pieces ++ before, after) := by
  induction pieces with
  | nil => exact (congrFun Option.map_id _).symm
  | cons first others ih =>
    have digits := gapDigits (pieceUnmarked first ':' (by decide))
    cases others with
    | nil => exact digits rest
    | cons next others =>
      obtain ⟨c, after, split, other⟩ := piecesTextStart next others
      have apart : (piecesText (next :: others) ++ rest).head? ≠ some ':' := by
        rw [split]
        simpa using other
      rw [piecesTextNext, List.append_assoc, List.cons_append, digits, gapOther (.inr apart), ih,
        Option.map_map, Option.map_map]
      congr 1
      funext ⟨before, after⟩
      simp

def zerosFrom (pieces : List Nat) (start : Nat) : Nat :=
  ((pieces.drop start).takeWhile (· = 0)).length

theorem longestIs (pieces : List Nat) :
    (longestZeros pieces).2 = 0 ∨
      (longestZeros pieces).2 = zerosFrom pieces (longestZeros pieces).1 := by
  have kept : ∀ (places : List Nat) (best : Nat × Nat),
      best.2 = 0 ∨ best.2 = zerosFrom pieces best.1 →
      let last := places.foldl (fun (best : Nat × Nat) start =>
        let length := ((pieces.drop start).takeWhile (· = 0)).length
        if length > best.2 then (start, length) else best) best
      last.2 = 0 ∨ last.2 = zerosFrom pieces last.1 := by
    intro places
    induction places with
    | nil => exact fun best known => known
    | cons start places ih =>
      intro best known
      refine ih _ ?_
      dsimp only
      split
      · exact .inr rfl
      · exact known
  exact kept (List.range 8) (0, 0) (.inl rfl)

theorem zerosSplit (pieces : List Nat) (start : Nat) :
    pieces = pieces.take start ++ List.replicate (zerosFrom pieces start) 0 ++
      pieces.drop (start + zerosFrom pieces start) := by
  have zero : ∀ n ∈ (pieces.drop start).takeWhile (· = 0), n = 0 := by
    intro n member
    have kept := List.mem_takeWhile_imp member
    exact of_decide_eq_true kept
  have zeros : (pieces.drop start).takeWhile (· = 0) =
      List.replicate (zerosFrom pieces start) 0 := List.eq_replicate_of_mem zero
  have behind : (pieces.drop start).drop (zerosFrom pieces start) =
      (pieces.drop start).dropWhile (· = 0) := by
    conv_lhs => rw [← List.takeWhile_append_dropWhile (p := (· = 0)) (l := pieces.drop start)]
    exact List.drop_left
  rw [← List.drop_drop, behind, ← zeros, List.append_assoc, List.takeWhile_append_dropWhile,
    List.take_append_drop]

theorem wholeBack {pieces : List Nat} (eight : IsEight pieces) :
    eight? (piecesText pieces) = some pieces := by
  have filled : pieces ≠ [] := by
    rintro rfl
    exact nomatch eight.length
  have ungapped : splitGap (piecesText pieces) = none := by
    have gap := gapPieces pieces []
    rwa [List.append_nil] at gap
  rw [eight?, ungapped]
  simp only [piecesSplit filled, piecesBack eight.small, bind, Option.bind, eight.length, if_true]

/- A gap of two zeros or more is as long as the pieces around it leave room. -/
theorem gappedBack {before after : List Nat} {count : Nat}
    (eight : IsEight (before ++ List.replicate count 0 ++ after)) (long : ¬ count < 2) :
    eight? (piecesText before ++ ':' :: ':' :: piecesText after) =
      some (before ++ List.replicate count 0 ++ after) := by
  obtain ⟨length, small⟩ := eight
  have front : ∀ n ∈ before, n < 65536 := fun n member => small n (by simp [member])
  have back : ∀ n ∈ after, n < 65536 := fun n member => small n (by simp [member])
  have gap : splitGap (piecesText before ++ ':' :: ':' :: piecesText after) =
      some (piecesText before, piecesText after) := by
    have start : splitGap (':' :: ':' :: piecesText after) = some ([], piecesText after) := rfl
    rw [gapPieces, start, Option.map_some]
    dsimp only
    rw [List.append_nil]
  have undotted : (piecesText before).contains '.' = false := by
    refine Bool.eq_false_iff.2 fun dotted => ?_
    have plain := piecesTextPlain before '.' (List.contains_iff_mem.1 dotted)
    exact absurd plain (by decide)
  simp only [List.length_append, List.length_replicate] at length
  have fits : ¬ before.length + after.length > 7 := by omega
  have zeros : 8 - before.length - after.length = count := by omega
  rw [eight?, gap]
  simp only [undotted, sideBack front, sideBack back, fits, zeros, bind, Option.bind,
    Bool.false_eq_true, if_false]

theorem eightBack {pieces : List Nat} (eight : IsEight pieces) :
    eight? (eightText pieces) = some pieces := by
  have longest := longestIs pieces
  rw [eightText]
  generalize longestZeros pieces = best at longest
  obtain ⟨start, count⟩ := best
  dsimp only at longest ⊢
  split
  · exact wholeBack eight
  · rename_i long
    obtain rfl | rfl := longest
    · exact absurd (by decide) long
    have whole := zerosSplit pieces start
    have back : eight? (piecesText (pieces.take start) ++ ':' :: ':' ::
        piecesText (pieces.drop (start + zerosFrom pieces start))) = some _ :=
      gappedBack (whole ▸ eight) long
    rwa [← whole] at back

theorem eightPlain (pieces : List Nat) : ∀ c ∈ eightText pieces, Authority.isPieceChar c = true := by
  intro c member
  rw [eightText] at member
  dsimp only at member
  split at member
  · exact piecesTextPlain pieces c member
  · rcases List.mem_append.1 member with front | gap
    · exact piecesTextPlain _ c front
    · rcases List.mem_cons.1 gap with rfl | gap
      · decide
      rcases List.mem_cons.1 gap with rfl | back
      · decide
      · exact piecesTextPlain _ c back

def bytesOf (address : Nat) : List Nat := [3, 2, 1, 0].map fun i => address / Nat.pow 256 i % 256

theorem byteSmall {address n : Nat} (member : n ∈ bytesOf address) : n < 256 := by
  obtain ⟨i, -, rfl⟩ := List.mem_map.1 member
  exact Nat.mod_lt _ (by decide)

theorem byteForms : ∀ n < 256, part? (ofNat n) = some n ∧ (ofNat n).all isAsciiDigit = true := by
  decide +kernel

theorem fourTextBytes (address : Nat) :
    fourText address = joinWith ['.'] ((bytesOf address).map ofNat) := rfl

theorem byteUndotted {n : Nat} (small : n < 256) : '.' ∉ ofNat n := by
  intro member
  have digit := List.all_eq_true.1 (byteForms n small).2 '.' member
  exact absurd digit (by decide)

theorem byteFilled (n : Nat) : ofNat n ≠ [] := Nat.toDigits_ne_nil

theorem fourParts (address : Nat) : splitAt '.' (fourText address) = (bytesOf address).map ofNat := by
  rw [fourTextBytes]
  refine splitAtJoin (by simp [bytesOf]) fun part member => ?_
  obtain ⟨n, known, rfl⟩ := List.mem_map.1 member
  exact byteUndotted (byteSmall known)

theorem fourPartsKept (address : Nat) : parts (fourText address) = (bytesOf address).map ofNat := by
  have last : ((bytesOf address).map ofNat).getLast? ≠ some [] := by
    simpa [bytesOf] using byteFilled _
  have whole : (decide (((bytesOf address).map ofNat).length > 1) &&
      decide (((bytesOf address).map ofNat).getLast? = some [])) = false := by
    rw [decide_eq_false last, Bool.and_false]
  rw [parts, fourParts, whole, if_neg Bool.false_ne_true]

theorem totalBound {last : Nat} (front : List Nat) (place : Nat) (bytes : ∀ n ∈ front, n ≤ 255)
    (short : place + front.length ≤ 3) (fits : last < Nat.pow 256 (4 - (place + front.length))) :
    (front.zipIdx place).foldr (fun (n, i) total => n * Nat.pow 256 (3 - i) + total) last <
      Nat.pow 256 (4 - place) := by
  induction front generalizing place with
  | nil => exact fits
  | cons n front ih =>
    obtain ⟨byte, later⟩ := List.forall_mem_cons.1 bytes
    have moved : place + 1 + front.length = place + (n :: front).length := by
      rw [List.length_cons]
      omega
    have below := ih (place + 1) later (moved ▸ short) (moved ▸ fits)
    have next : 4 - (place + 1) = 3 - place := by omega
    have whole : 4 - place = 3 - place + 1 := by
      rw [List.length_cons] at short
      omega
    rw [next] at below
    rw [List.zipIdx_cons, List.foldr_cons, whole]
    calc n * Nat.pow 256 (3 - place) + _ < n * Nat.pow 256 (3 - place) + Nat.pow 256 (3 - place) :=
          Nat.add_lt_add_left below _
      _ = (n + 1) * Nat.pow 256 (3 - place) := (Nat.succ_mul _ _).symm
      _ ≤ 256 * Nat.pow 256 (3 - place) := Nat.mul_le_mul_right _ (Nat.succ_le_succ byte)
      _ = Nat.pow 256 (3 - place + 1) := Nat.mul_comm _ _

theorem fourBound {host : List Char} {address : Nat} (read : four? host = some address) :
    address < 4294967296 := by
  obtain ⟨numbers, -, read⟩ := Option.bind_eq_some_iff.1 read
  obtain ⟨last, -, read⟩ := Option.bind_eq_some_iff.1 read
  dsimp only at read
  generalize numbers.dropLast = front at read
  split at read
  · contradiction
  rename_i accepted
  simp only [Bool.or_eq_true, not_or, decide_eq_true_eq, List.any_eq_true, not_exists, not_and,
    Nat.not_lt, Nat.not_le] at accepted
  obtain ⟨⟨short, bytes⟩, fits⟩ := accepted
  cases Option.some.inj read
  have fits : last < Nat.pow 256 (4 - (0 + front.length)) := by rwa [Nat.zero_add]
  exact totalBound front 0 bytes (by omega) fits

theorem bytesRead (address : Nat) :
    ((bytesOf address).map ofNat).mapM part? = some (bytesOf address) :=
  mapSome.2 (List.forall₂_map_left_iff.2
    (List.forall₂_same.2 fun n member => (byteForms n (byteSmall member)).1))

theorem bytesTotal {address : Nat} (small : address < 4294967296) :
    address / Nat.pow 256 3 % 256 * Nat.pow 256 3 + (address / Nat.pow 256 2 % 256 * Nat.pow 256 2 +
      (address / Nat.pow 256 1 % 256 * Nat.pow 256 1 + address / Nat.pow 256 0 % 256)) = address := by
  simp only [Nat.pow_eq]
  omega

/- The weight is any function, so that no power is computed here. -/
theorem threeWeighed (weight : Nat → Nat) (a b c last : Nat) :
    [a, b, c].zipIdx.foldr (fun (n, i) total => n * weight (3 - i) + total) last =
      a * weight 3 + (b * weight 2 + (c * weight 1 + last)) := rfl

theorem fourTotal {host : List Char} {a b c d : Nat}
    (read : (parts host).mapM part? = some [a, b, c, d]) (bytes : ∀ n ∈ [a, b, c, d], n < 256) :
    four? host =
      some (a * Nat.pow 256 3 + (b * Nat.pow 256 2 + (c * Nat.pow 256 1 + d))) := by
  have accepted : (decide ([a, b, c].length > 3) || [a, b, c].any (255 < ·) ||
      decide (Nat.pow 256 (4 - [a, b, c].length) ≤ d)) = false := by
    have front : [a, b, c].any (255 < ·) = false := by
      refine List.any_eq_false.2 fun n member => ?_
      have small := bytes n (List.mem_append_left [d] member)
      simpa using Nat.le_of_lt_succ small
    have last : ¬ Nat.pow 256 (4 - [a, b, c].length) ≤ d := Nat.not_le.2 (bytes d (by simp))
    rw [front, decide_eq_false last]
    rfl
  rw [four?, read]
  change (if (decide ([a, b, c].length > 3) || [a, b, c].any (255 < ·) ||
    decide (Nat.pow 256 (4 - [a, b, c].length) ≤ d)) = true then none else
      some ([a, b, c].zipIdx.foldr (fun (n, i) total => n * Nat.pow 256 (3 - i) + total) d)) = _
  rw [accepted, if_neg Bool.false_ne_true]
  exact congrArg some (threeWeighed (Nat.pow 256) a b c d)

theorem fourBack {address : Nat} (small : address < 4294967296) :
    four? (fourText address) = some address := by
  have read : (parts (fourText address)).mapM part? = some (bytesOf address) := by
    rw [fourPartsKept, bytesRead]
  rw [fourTotal read fun n => byteSmall, bytesTotal small]

theorem fourEnds (address : Nat) : endsInNumber (fourText address) = true := by
  have last : ((bytesOf address).map ofNat).getLast? = some (ofNat (address / 1 % 256)) := rfl
  have digits := (byteForms _ (Nat.mod_lt (address / 1) (by decide : 0 < 256))).2
  rw [endsInNumber, fourPartsKept, last]
  simp only [digits, List.isEmpty_eq_false_iff.2 (byteFilled _), Bool.true_or, Bool.not_false,
    Bool.and_self]

end RequestSuite.Url.Address
