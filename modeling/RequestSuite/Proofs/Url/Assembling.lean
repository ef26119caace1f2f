import RequestSuite.Collection.Basic
import RequestSuite.Proofs.Decimal.KeptSpellings
import RequestSuite.Proofs.Url.KeptHosts
import RequestSuite.Proofs.Url.Splitting

/-! URLs that are given in parts. The text that is put together from them is taken apart again at the
same places: the host ends where the path or the query begins, and all that follows it is the path
of the target as it was written. -/
namespace RequestSuite.Collection.UrlParts
open Text RequestSuite.Url RequestSuite.Url.Authority

structure Remainder (url : UrlParts) (path query : List Char) : Prop where
  pathless : url.path = none → path = []
  slashed : ∀ parts, url.path = some parts → path.head? = some '/' ∧
    (path = (parts.join "/").toList ∨
      (parts.join "/").toList.head? ≠ some '/' ∧ path = '/' :: (parts.join "/").toList)
  inactive : (∀ entry ∈ url.query, entry.isActive = false) → query = []
  active : (∃ entry ∈ url.query, entry.isActive = true) →
    query = '?' :: joinWith ['&'] ((url.query.filter Entry.isActive).map fun entry =>
      entry.key.toList ++ '=' :: entry.text.toList)

theorem assembledRemainder (url : UrlParts) : Remainder url url.pathText url.queryText where
  pathless none := by rw [pathText, none]
  slashed parts given := by
    rw [pathText, given]
    dsimp only
    split
    · rename_i slash
      exact ⟨slash, .inl rfl⟩
    · rename_i plain
      exact ⟨rfl, .inr ⟨plain, rfl⟩⟩
  inactive none := by
    have left : url.query.filter Entry.isActive = [] :=
      List.filter_eq_nil_iff.2 fun entry member => Bool.eq_false_iff.1 (none entry member)
    rw [queryText, left]
    rfl
  active some := by
    obtain ⟨entry, member, active⟩ := some
    have kept : entry ∈ url.query.filter Entry.isActive := List.mem_filter.2 ⟨member, active⟩
    rw [queryText]
    cases rows : url.query.filter Entry.isActive with
    | nil => exact absurd (rows ▸ kept) List.not_mem_nil
    | cons first rest => rfl

namespace Remainder
variable {url : UrlParts} {path query : List Char}

theorem pathStart (remainder : Remainder url path query) : ∀ c ∈ path.head?, c = '/' := by
  intro c first
  cases given : url.path with
  | none =>
    rw [remainder.pathless given] at first
    contradiction
  | some parts => exact (Option.some.inj ((remainder.slashed parts given).1.symm.trans first)).symm

theorem queryStart (remainder : Remainder url path query) : ∀ c ∈ query.head?, c = '?' := by
  intro c first
  by_cases some : ∃ entry ∈ url.query, entry.isActive = true
  · rw [remainder.active some] at first
    exact (Option.some.inj first).symm
  · have none : ∀ entry ∈ url.query, entry.isActive = false :=
      fun entry member => Bool.eq_false_iff.2 fun active => some ⟨entry, member, active⟩
    rw [remainder.inactive none] at first
    contradiction

theorem start (remainder : Remainder url path query) :
    ∀ c ∈ (path ++ query).head?, Target.startsPath c = true := by
  intro c first
  rw [List.head?_append, Option.mem_def, Option.or_eq_some_iff] at first
  rcases first with front | ⟨-, behind⟩
  · rw [remainder.pathStart c front]
    rfl
  · rw [remainder.queryStart c behind]
    rfl

end Remainder

structure IsPort (scheme port : String) : Prop where
  row : Json.IsRow port.toList
  unpadded : port.toList.head? = some '0' → port = "0"
  least : valueOf port.toList ≤ 65535
  other : defaultPort scheme.toList ≠ some (valueOf port.toList)

theorem IsPort.back {scheme port : String} (formed : IsPort scheme port) :
    ofNat (valueOf port.toList) = port.toList := by
  by_cases zero : port.toList.head? = some '0'
  · rw [formed.unpadded zero]
    rfl
  · exact Decimal.Literal.digitsBack formed.row zero

section
variable {url : UrlParts} {scheme : String} {host : Parts}

theorem assembleRaw (unwritten : url.raw = none) :
    (Url.parts url).raw.toList =
      url.schemeText ++ (url.hostText ++ url.portText ++ (url.pathText ++ url.queryText)) := by
  rw [Url.raw, unwritten, Option.getD_none, assemble, String.toList_ofList]
  simp only [List.append_assoc]

theorem schemeCut (given : url.scheme = some scheme) (web : scheme = "http" ∨ scheme = "https")
    (rest : List Char) :
    splitOnce "://".toList (url.schemeText ++ rest) = some (scheme.toList, rest) := by
  rw [schemeText, given]
  rcases web with rfl | rfl <;> rfl

theorem webScheme (web : scheme = "http" ∨ scheme = "https") :
    IsScheme scheme.toList ∧ kind scheme.toList = .web := by
  have parts : ["http", "https"].all (fun scheme => scheme.toList.all fun c =>
      isSchemePart c && c.toLower == c) = true := by decide
  have row := List.all_eq_true.1 (List.all_eq_true.1 parts scheme (by simpa using web))
  refine ⟨⟨?_, fun c member => by simpa using row c member⟩, ?_⟩
  · rcases web with rfl | rfl <;> exact ⟨'h', _, rfl, rfl⟩
  · rcases web with rfl | rfl <;> decide

def portNumber (url : UrlParts) : Option Nat := url.port.map fun port => valueOf port.toList

theorem portWritten (ported : ∀ port, url.port = some port → IsPort scheme port) :
    url.portText = Authority.portText url.portNumber ∧
      port? scheme.toList (Authority.portText url.portNumber) = some url.portNumber := by
  rw [UrlParts.portText, portNumber]
  cases given : url.port with
  | none => exact ⟨rfl, rfl⟩
  | some port =>
    have formed := ported port given
    refine ⟨?_, portKept formed.least formed.other⟩
    rw [Option.map_some, Authority.portText, formed.back]

theorem targetShown (ported : ∀ port, url.port = some port → IsPort scheme port) (host : String)
    (tail : List Char) :
    Target.ofAuthority ⟨scheme, host, url.portNumber⟩ tail =
      ⟨scheme, host, url.port.getD "", if tail = [] then "/" else String.ofList tail⟩ := by
  rw [Target.ofAuthority, portNumber]
  cases given : url.port with
  | none => simp only [Option.map_none, Option.getD_none, List.isEmpty_iff]
  | some port =>
    simp only [Option.map_some, Option.getD_some, List.isEmpty_iff, (ported port given).back,
      String.ofList_toList]

theorem portPlain (port : Option Nat) :
    '$' ∉ Authority.portText port ∧ '\x7b' ∉ Authority.portText port := by
  constructor <;> intro member <;>
    rcases Authority.portChars port _ member with colon | digit
  · exact absurd colon (by decide)
  · exact absurd digit (by decide)
  · exact absurd colon (by decide)
  · exact absurd digit (by decide)

theorem assembledSplit (unwritten : url.raw = none) (given : url.scheme = some scheme)
    (web : scheme = "http" ∨ scheme = "https") (named : url.host = some host)
    (kept : host? .web (host.join ".").toList = some (host.join ".").toList)
    (plain : '$' ∉ (host.join ".").toList ∧ '\x7b' ∉ (host.join ".").toList)
    (ported : ∀ port, url.port = some port → IsPort scheme port) :
    ∃ path query, Remainder url path query ∧
      Target.ofUrl (Url.parts url).raw =
        ⟨scheme, host.join ".", url.port.getD "",
          if path ++ query = [] then "/" else String.ofList (path ++ query)⟩ := by
  refine ⟨url.pathText, url.queryText, assembledRemainder url, ?_⟩
  obtain ⟨formed, sort⟩ := webScheme web
  obtain ⟨port, numbered⟩ := portWritten ported
  have form := keptForm kept
  have inside := hostPortInner form url.portNumber
  have cut : splitOnce "://".toList (Url.parts url).raw.toList = some (scheme.toList,
      (host.join ".").toList ++ Authority.portText url.portNumber ++
        (url.pathText ++ url.queryText)) := by
    rw [assembleRaw unwritten, schemeCut given web, hostText, named, port]
  obtain ⟨dollar, brace⟩ := portPlain url.portNumber
  have bare := And.intro (mt List.mem_append.1 (not_or.2 ⟨plain.1, dollar⟩))
    (mt List.mem_append.1 (not_or.2 ⟨plain.2, brace⟩))
  have accepted := Target.plainAccepted (List.append_ne_nil_of_left_ne_nil form.filled _) bare
  have read := keptBack formed sort kept numbered
  rw [written, String.ofList_toList, String.ofList_toList] at read
  have stays := fun c member => Target.innerStays (inside c member)
  rw [Target.ofUrlCut stays (assembledRemainder url).start cut, accepted,
    if_neg Bool.false_ne_true, read]
  exact targetShown ported _ _

end

def service : UrlParts where
  raw := none
  scheme := some "https"
  host := some (.many ["api", "example", "com"])
  port := some "8443"
  path := some (.many ["v1", "users"])
  query := [⟨"page", .string "2", false, none⟩, ⟨"debug", .string "1", true, none⟩,
    ⟨"back", .string "/a?b#c", false, some true⟩]
  parameters := []

theorem serviceSplit :
    Target.ofUrl (Url.parts service).raw =
        ⟨"https", "api.example.com", "8443", "/v1/users?page=2&back=/a?b#c"⟩ ∧
      ∃ path query, Remainder service path query ∧
        Target.ofUrl (Url.parts service).raw =
          ⟨"https", Parts.join "." (.many ["api", "example", "com"]), service.port.getD "",
            if path ++ query = [] then "/" else String.ofList (path ++ query)⟩ := by
  have kept : host? .web (Parts.join "." (.many ["api", "example", "com"])).toList =
      some (Parts.join "." (.many ["api", "example", "com"])).toList := by decide +kernel
  have ported : ∀ port, service.port = some port → IsPort "https" port := by
    rintro port given
    obtain rfl := Option.some.inj given
    exact ⟨⟨by decide, List.all_eq_true.1 (by decide)⟩, by decide, by decide, by decide⟩
  refine ⟨by decide +kernel, ?_⟩
  exact assembledSplit (by rfl) (by rfl) (.inr rfl) (by rfl) kept (by decide +kernel) ported

end RequestSuite.Collection.UrlParts
