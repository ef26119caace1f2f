import RequestSuite.Proofs.Text.Bytes
import RequestSuite.Proofs.Url.Hosts

/-! Hosts that the reader leaves as they are. Bytes that stand for characters of ASCII are in the
decoded text as well, where the characters that no host may have are found; so a host that is read
as itself can stand between the slashes and a port. -/
namespace RequestSuite.Url.Authority
open Text

theorem byteAscii {c : Char} {byte : UInt8} (member : byte ∈ String.utf8EncodeChar c)
    (small : byte.toNat < 128) : byte.toNat = c.toNat := by
  have value : c.val.toNat = c.toNat := rfl
  simp only [String.utf8EncodeChar, value] at member
  split at member
  · rw [List.mem_singleton.1 member, UInt8.toNat_ofNat']
    omega
  · split_ifs at member <;>
      simp only [List.mem_cons, List.not_mem_nil, or_false] at member <;>
      rcases member with rfl | rfl | rfl | rfl <;>
      simp only [UInt8.toNat_ofNat'] at small <;> omega

theorem decodedBytes {bytes : List UInt8} {text : String}
    (decoded : String.fromUTF8? ⟨bytes.toArray⟩ = some text) :
    bytes = text.toList.flatMap String.utf8EncodeChar := by
  have same : text.toByteArray = ⟨bytes.toArray⟩ := by
    rw [String.fromUTF8?] at decoded
    split at decoded
    · rw [← Option.some.inj decoded]
      rfl
    · contradiction
  rw [← textBytes, same]

theorem decodedMember {bytes : List UInt8} {text : String}
    (decoded : String.fromUTF8? ⟨bytes.toArray⟩ = some text) {c : Char} (ascii : c.toNat < 128)
    (member : UInt8.ofNat c.toNat ∈ bytes) : c ∈ text.toList := by
  have value : (UInt8.ofNat c.toNat).toNat = c.toNat := by
    rw [UInt8.toNat_ofNat']
    omega
  rw [decodedBytes decoded] at member
  obtain ⟨d, known, inside⟩ := List.mem_flatMap.1 member
  have same := byteAscii inside (by rwa [value])
  rwa [Char.toNat_inj.1 (value.symm.trans same)]

theorem decodeKeeps {c : Char} (ascii : c.toNat < 128) (unsigned : c ≠ '%')
    (unhex : Json.hexValue? c = none) {name : List Char} (member : c ∈ name) :
    UInt8.ofNat c.toNat ∈ percentDecode name := by
  fun_induction percentDecode name with
  | case1 a b rest high low first second ih =>
    rcases List.mem_cons.1 member with rfl | member
    · contradiction
    rcases List.mem_cons.1 member with rfl | member
    · rw [unhex] at second
      contradiction
    rcases List.mem_cons.1 member with rfl | member
    · rw [unhex] at first
      contradiction
    exact List.mem_cons_of_mem _ (ih member)
  | case2 a b rest unread ih =>
    rcases List.mem_cons.1 member with rfl | member
    · contradiction
    exact List.mem_cons_of_mem _ (ih member)
  | case3 d rest other ih =>
    rcases List.mem_cons.1 member with rfl | member
    · rw [utf8Ascii ascii, singleByte ascii]
      exact List.mem_append_left _ List.mem_cons_self
    · exact List.mem_append_right _ (ih member)
  | case4 => exact absurd member List.not_mem_nil

theorem allowedHere {name host : List Char} (read : domain? name = some host) {c : Char}
    (member : c ∈ name) (ascii : c.toNat < 128) (unsigned : c ≠ '%')
    (unhex : Json.hexValue? c = none) : isForbidden c = false := by
  obtain ⟨text, decoded, read⟩ := Option.bind_eq_some_iff.1 read
  obtain ⟨domain, known, -⟩ := Option.bind_eq_some_iff.1 read
  obtain ⟨folded, -, small, -⟩ := Domain.ofTextParts known
  have inside := decodedMember decoded ascii (decodeKeeps ascii unsigned unhex member)
  exact Domain.foldedAllowed small inside ascii

theorem keptForm {host : List Char} (kept : host? .web host = some host) : HostForm host := by
  by_cases opened : host.head? = some '['
  · rw [host?, if_pos opened] at kept
    exact (bracketedBack kept .web).1
  have read : domain? host = some host := by
    rw [host?, if_neg opened, if_neg (by decide)] at kept
    exact kept
  refine .name host ?_ fun c member => ?_
  · rintro rfl
    exact absurd read (by decide +kernel)
  · by_cases ascii : c.toNat < 128
    · by_cases unsigned : c = '%'
      · rw [unsigned]
        decide
      cases value : Json.hexValue? c with
      | none => exact (allowedPlain ascii (allowedHere read member ascii unsigned value)).1
      | some n =>
        refine asciiEach (fun c => Json.hexValue? c ≠ none → isHostChar c = true) ?_ ascii
          (by rw [value]; exact Option.some_ne_none n)
        decide +kernel
    · have marks : ("#/:?@[\\]|".toList.all fun mark => mark.toNat < 128) = true := by decide
      have unmarked : "#/:?@[\\]|".toList.contains c = false := by
        refine Bool.eq_false_iff.2 fun marked => ascii ?_
        exact of_decide_eq_true (List.all_eq_true.1 marks c (List.contains_iff_mem.1 marked))
      rw [isHostChar, unmarked]
      exact Bool.and_eq_true_iff.2 ⟨decide_eq_true (by omega), rfl⟩

theorem keptBack {scheme host : List Char} {port : Option Nat} (formed : IsScheme scheme)
    (web : kind scheme = .web) (kept : host? .web host = some host)
    (numbered : port? scheme (portText port) = some port) :
    ofText? (written scheme host port) =
      some ⟨String.ofList scheme, String.ofList host, port⟩ := by
  have form := keptForm kept
  rw [written, ofTextPlain (hostPortInner form port) formed, web]
  exact netBack form kept numbered

end RequestSuite.Url.Authority
