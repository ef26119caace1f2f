import RequestSuite.Proofs.Url.Addresses
import RequestSuite.Proofs.Url.Names

/-! Hosts that are written out and read again. A host that was read once is read as itself, whatever
its kind: addresses come back from their pieces, opaque hosts are encoded already, and names are
their own written form. -/
namespace RequestSuite.Url.Authority
open Text Address

theorem utf8Ascii {c : Char} (ascii : c.toNat < 128) :
    (String.singleton c).toUTF8.toList = String.utf8EncodeChar c := by
  refine asciiEach (fun c => (String.singleton c).toUTF8.toList = String.utf8EncodeChar c) ?_ ascii
  decide +kernel

theorem decodeOther {c : Char} (other : c ≠ '%') (rest : List Char) :
    percentDecode (c :: rest) = (String.singleton c).toUTF8.toList ++ percentDecode rest := by
  rw [percentDecode]
  rintro a b after rfl
  exact absurd rfl other

theorem decodePlain {text : List Char} (ascii : Domain.isAscii text = true) (plain : '%' ∉ text) :
    percentDecode text = text.flatMap String.utf8EncodeChar := by
  induction text with
  | nil => rw [percentDecode]; rfl
  | cons c text ih =>
    obtain ⟨first, later⟩ := Bool.and_eq_true_iff.1 ascii
    obtain ⟨other, below⟩ := not_or.1 (mt List.mem_cons.2 plain)
    rw [decodeOther (Ne.symm other), utf8Ascii (of_decide_eq_true first), ih later below]
    rfl

theorem decodedText {text : List Char} (ascii : Domain.isAscii text = true) (plain : '%' ∉ text) :
    String.fromUTF8? ⟨(percentDecode text).toArray⟩ = some (String.ofList text) := by
  have bytes : ByteArray.mk (percentDecode text).toArray = (String.ofList text).toByteArray := by
    rw [decodePlain ascii plain, String.toByteArray_ofList, List.utf8Encode]
    exact ByteArray.ext (List.data_toByteArray).symm
  rw [bytes, String.fromUTF8?, dif_pos (String.ofList text).isValidUTF8]
  rfl

theorem unbracketed (sort : SchemeKind) {host : List Char} (plain : ∀ c ∈ host, isHostChar c = true) :
    host? sort host = if sort = .other then opaque? host else domain? host := by
  have head : host.head? ≠ some '[' :=
    fun first => absurd (plain '[' (List.mem_of_head? first)) (by decide)
  rw [host?, if_neg head]

theorem allowedPlain {c : Char} (ascii : c.toNat < 128) (allowed : isForbidden c = false) :
    isHostChar c = true ∧ c ≠ '%' := by
  refine asciiEach (fun c => isForbidden c = false → isHostChar c = true ∧ c ≠ '%') ?_ ascii allowed
  decide +kernel

theorem ownName {domain : List Char} (own : Domain.ofText? domain = some domain) :
    Domain.isAscii domain = true ∧ ∀ c ∈ domain, isHostChar c = true ∧ c ≠ '%' := by
  have ascii := Domain.ofTextAscii own
  exact ⟨ascii, fun c member => allowedPlain (Domain.asciiMember ascii c member)
    ((Domain.ofTextLower ascii own).1 c member)⟩

theorem ownDomain {domain : List Char} (own : Domain.ofText? domain = some domain)
    (filled : domain ≠ []) :
    domain? domain =
      if endsInNumber domain then (four? domain).map fourText else some domain := by
  obtain ⟨ascii, plain⟩ := ownName own
  have unsigned : '%' ∉ domain := fun member => (plain '%' member).2 rfl
  simp only [domain?, decodedText ascii unsigned, String.toList_ofList, own,
    List.isEmpty_eq_false_iff.2 filled, bind, Option.bind, Bool.false_eq_true, if_false]

/- A name that stands in a URL in ASCII, or whose coded form is itself read as that form. -/
def Settled (name host : List Char) : Prop :=
  Domain.isAscii name = true ∧ '%' ∉ name ∨ Domain.ofText? host = some host

inductive Named (host : List Char) : Prop where
  | domain (own : Domain.ofText? host = some host) (filled : host ≠ [])
    (unnumbered : endsInNumber host = false)
  | four (address : Nat) (small : address < 4294967296) (same : host = fourText address)

theorem settledOwn {name text host : List Char} (settled : Settled name host)
    (decoded : String.fromUTF8? ⟨(percentDecode name).toArray⟩ = some (String.ofList text))
    (read : Domain.ofText? text = some host) : Domain.ofText? host = some host := by
  rcases settled with ⟨ascii, plain⟩ | own
  · rw [decodedText ascii plain] at decoded
    rw [← String.ofList_injective (Option.some.inj decoded)] at read
    exact Domain.ofTextAgain ascii read
  · exact own

theorem domainNamed {name host : List Char} (read : domain? name = some host)
    (settled : Settled name host) : Named host := by
  obtain ⟨text, decoded, read⟩ := Option.bind_eq_some_iff.1 read
  obtain ⟨domain, known, read⟩ := Option.bind_eq_some_iff.1 read
  split at read
  · contradiction
  rename_i filled
  split at read
  · obtain ⟨address, numbers, rfl⟩ := Option.map_eq_some_iff.1 read
    exact .four address (fourBound numbers) rfl
  · rename_i unnumbered
    cases Option.some.inj read
    rw [← String.ofList_toList (s := text)] at decoded
    exact .domain (settledOwn settled decoded known) (by simpa using filled)
      (Bool.eq_false_iff.2 unnumbered)

theorem fourPlain (address : Nat) :
    ∀ c ∈ fourText address, c = '.' ∨ isAsciiDigit c = true := by
  intro c member
  rcases memJoinWith member with dot | ⟨part, known, inside⟩
  · exact .inl (List.mem_singleton.1 dot)
  · obtain ⟨n, -, rfl⟩ := List.mem_map.1 known
    exact .inr ((Json.digitRow _).digits c inside)

theorem fourFolded (address : Nat) :
    Domain.folded? (fourText address) = some (fourText address) := by
  have each : ∀ c ∈ fourText address,
      c.toNat < 128 ∧ isForbidden c = false ∧ c.toLower = c := by
    intro c member
    rcases fourPlain address c member with rfl | digit
    · decide
    · refine asciiEach (fun c => isAsciiDigit c = true →
        c.toNat < 128 ∧ isForbidden c = false ∧ c.toLower = c) ?_ (digitAscii digit) digit
      decide +kernel
  have ascii : Domain.isAscii (fourText address) = true :=
    List.all_eq_true.2 fun c member => decide_eq_true (each c member).1
  have lower := smallStays fun c member => (each c member).2.2
  rw [Domain.foldedAscii ascii fun c member => (each c member).2.1, lower]

theorem byteLabel {n : Nat} (small : n < 256) :
    Domain.Label.ofText? (ofNat n) = some ⟨ofNat n, ofNat n⟩ ∧ Direction.turns (ofNat n) = false := by
  have each : ∀ n < 256, Domain.codePrefix.isPrefixOf? (ofNat n) = none ∧
      Domain.isAscii (ofNat n) = true ∧ Direction.turns (ofNat n) = false := by decide +kernel
  obtain ⟨uncoded, ascii, straight⟩ := each n small
  refine ⟨?_, straight⟩
  rw [Domain.Label.ofText?, uncoded]
  exact if_pos ascii

theorem fourOwn (address : Nat) :
    Domain.ofText? (fourText address) = some (fourText address) := by
  have labels : ((bytesOf address).map ofNat).mapM Domain.Label.ofText? =
      some ((bytesOf address).map fun n => ⟨ofNat n, ofNat n⟩) :=
    mapSome.2 (List.forall₂_map_left_iff.2 (List.forall₂_map_right_iff.2
      (List.forall₂_same.2 fun n member => (byteLabel (byteSmall member)).1)))
  have kept : Domain.directionsKept ((bytesOf address).map fun n => ⟨ofNat n, ofNat n⟩) = true := by
    have straight : (((bytesOf address).map fun n => (⟨ofNat n, ofNat n⟩ : Domain.Label)).any
        fun label => Direction.turns label.plain) = false := by
      rw [List.any_map]
      exact List.any_eq_false.2 fun n member =>
        Bool.not_eq_true _ ▸ (byteLabel (byteSmall member)).2
    rw [Domain.directionsKept, straight]
    rfl
  rw [Domain.ofText?, fourFolded]
  simp only [fourParts, labels, kept, bind, Option.bind, if_true, List.map_map]
  rfl

theorem fourFilled (address : Nat) : fourText address ≠ [] := by
  intro none
  have count : (splitAt '.' (fourText address)).length = 4 := by rw [fourParts]; rfl
  rw [none] at count
  contradiction

theorem namedBack {host : List Char} (named : Named host) {sort : SchemeKind}
    (distinct : sort ≠ .other) : HostForm host ∧ host? sort host = some host := by
  cases named with
  | domain own filled unnumbered =>
    have plain : ∀ c ∈ host, isHostChar c = true := fun c member => ((ownName own).2 c member).1
    refine ⟨.name host filled plain, ?_⟩
    rw [unbracketed sort plain, if_neg distinct, ownDomain own filled, unnumbered,
      if_neg Bool.false_ne_true]
  | four address small same =>
    subst same
    have own := fourOwn address
    have plain : ∀ c ∈ fourText address, isHostChar c = true :=
      fun c member => ((ownName own).2 c member).1
    refine ⟨.name _ (fourFilled address) plain, ?_⟩
    rw [unbracketed sort plain, if_neg distinct, ownDomain own (fourFilled address), fourEnds,
      if_pos rfl, fourBack small]
    rfl

def isEncoded (c : Char) : Bool :=
  0x20 < c.toNat && c.toNat < 0x7F && !" #/:<>?@[\\]^|".toList.contains c

theorem hexEncoded (n : Nat) : isEncoded (hexUpper n) = true := by
  have each : ∀ n < 16, isEncoded (Nat.digitChar n).toUpper = true := by decide
  exact each (n % 16) (Nat.mod_lt n (by decide))

theorem encodeOpaque {c : Char} (allowed : c ∉ " #/:<>?@[\\]^|".toList) :
    ∀ d ∈ percentEncode c, isEncoded d = true := by
  intro d member
  rw [percentEncode] at member
  split at member
  · rename_i printed
    obtain ⟨least, most⟩ := Bool.and_eq_true_iff.1 printed
    have least := of_decide_eq_true least
    have most := of_decide_eq_true most
    have unspaced : c.toNat ≠ 0x20 := by
      intro space
      have same : c = ' ' := Char.toNat_inj.1 space
      exact allowed (same ▸ by decide)
    have visible : 0x20 < c.toNat := by omega
    rw [List.mem_singleton.1 member]
    simpa [isEncoded, visible, most] using allowed
  · obtain ⟨byte, -, inside⟩ := List.mem_flatMap.1 member
    rcases List.mem_cons.1 inside with rfl | inside
    · decide
    rcases List.mem_cons.1 inside with rfl | inside
    · exact hexEncoded _
    · rw [List.mem_singleton.1 inside]
      exact hexEncoded _

theorem encodedPlain {c : Char} (encoded : isEncoded c = true) :
    isHostChar c = true ∧ percentEncode c = [c] ∧
      (c.toNat = 0 || " #/:<>?@[\\]^|".toList.contains c) = false := by
  have ascii : c.toNat < 128 := by
    simp only [isEncoded, Bool.and_eq_true, decide_eq_true_eq] at encoded
    omega
  have each : isEncoded c = true → isHostChar c = true ∧
      (0x20 ≤ c.toNat && c.toNat < 0x7F) = true ∧
      (c.toNat = 0 || " #/:<>?@[\\]^|".toList.contains c) = false := by
    refine asciiEach (fun c => isEncoded c = true → isHostChar c = true ∧
      (0x20 ≤ c.toNat && c.toNat < 0x7F) = true ∧
      (c.toNat = 0 || " #/:<>?@[\\]^|".toList.contains c) = false) ?_ ascii
    decide +kernel
  obtain ⟨plain, printed, allowed⟩ := each encoded
  exact ⟨plain, by rw [percentEncode, if_pos printed], allowed⟩

theorem bytesLeft (bytes : ByteArray) (place : Nat) (found : List UInt8)
    (none : ByteArray.toList.loop bytes place found = []) : found = [] ∧ bytes.size ≤ place := by
  fun_induction ByteArray.toList.loop bytes place found with
  | case1 place found inside ih => exact absurd (ih none).1 (List.cons_ne_nil _ _)
  | case2 place found outside => exact ⟨List.reverse_eq_nil_iff.1 none, Nat.not_lt.1 outside⟩

theorem bytesFilled (c : Char) : (String.singleton c).toUTF8.toList ≠ [] := by
  intro none
  have empty := (bytesLeft _ 0 [] none).2
  have size : (String.singleton c).utf8ByteSize = c.utf8Size := by simp
  have some := c.utf8Size_pos
  rw [String.toUTF8_eq_toByteArray, String.size_toByteArray, size] at empty
  omega

theorem encodeFilled (c : Char) : percentEncode c ≠ [] := by
  rw [percentEncode]
  split
  · exact List.cons_ne_nil _ _
  · obtain ⟨byte, rest, split⟩ := List.exists_cons_of_ne_nil (bytesFilled c)
    rw [split]
    exact List.cons_ne_nil _ _

theorem opaqueBack {name host : List Char} (filled : name ≠ [])
    (read : opaque? name = some host) : HostForm host ∧ host? .other host = some host := by
  rw [opaque?] at read
  split at read
  · contradiction
  rename_i accepted
  obtain rfl := Option.some.inj read
  have encoded : ∀ d ∈ name.flatMap percentEncode, isEncoded d = true := by
    intro d member
    obtain ⟨c, known, inside⟩ := List.mem_flatMap.1 member
    refine encodeOpaque (fun forbidden => accepted ?_) d inside
    refine List.any_eq_true.2 ⟨c, known, ?_⟩
    rw [List.contains_iff_mem.2 forbidden, Bool.or_true]
  have again : (name.flatMap percentEncode).flatMap percentEncode = name.flatMap percentEncode := by
    refine (List.flatMap_congr fun d member => (encodedPlain (encoded d member)).2.1).trans ?_
    exact List.flatMap_singleton' _
  have allowed : ((name.flatMap percentEncode).any fun c =>
      c.toNat = 0 || " #/:<>?@[\\]^|".toList.contains c) = false :=
    List.any_eq_false.2 fun d member => Bool.eq_false_iff.1 (encodedPlain (encoded d member)).2.2
  have plain : ∀ d ∈ name.flatMap percentEncode, isHostChar d = true :=
    fun d member => (encodedPlain (encoded d member)).1
  refine ⟨.name _ ?_ plain, ?_⟩
  · obtain ⟨c, rest, rfl⟩ := List.exists_cons_of_ne_nil filled
    simp [encodeFilled c]
  · rw [unbracketed .other plain, if_pos rfl, opaque?, allowed, again]
    rfl

theorem bracketedBack {name host : List Char} (read : bracketed name = some host)
    (sort : SchemeKind) : HostForm host ∧ host? sort host = some host := by
  rw [bracketed] at read
  split at read
  · obtain ⟨pieces, known, rfl⟩ := Option.map_eq_some_iff.1 read
    refine ⟨.address _ (eightPlain pieces), ?_⟩
    have inside : (('[' :: (eightText pieces ++ [']'])).drop 1).dropLast = eightText pieces := by
      rw [List.drop_one, List.tail_cons, List.dropLast_concat]
    have last : ('[' :: (eightText pieces ++ [']'])).getLast? = some ']' := by
      rw [← List.cons_append, List.getLast?_concat]
    rw [List.cons_append, host?, List.head?_cons, if_pos rfl, bracketed, last, if_pos rfl, inside,
      eightBack (eightBound known)]
    rfl
  · contradiction

theorem hostBack {sort : SchemeKind} {name host : List Char} (filled : sort = .other → name ≠ [])
    (read : host? sort name = some host)
    (settled : sort ≠ .other → name.head? ≠ some '[' → Settled name host) :
    HostForm host ∧ host? sort host = some host := by
  rw [host?] at read
  split at read
  · exact bracketedBack read sort
  rename_i unopened
  split at read
  · rename_i other
    subst other
    exact opaqueBack (filled rfl) read
  · rename_i distinct
    exact namedBack (domainNamed read (settled distinct unopened)) distinct

end RequestSuite.Url.Authority
