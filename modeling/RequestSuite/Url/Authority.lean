import RequestSuite.Text.Scan
import RequestSuite.Url.Address
import RequestSuite.Url.Domain

/-! The authority of a URL: who answers and at which port. Schemes of the web have domain names or
addresses and a default port; other schemes have opaque hosts. -/
namespace RequestSuite.Url
open Text

inductive SchemeKind where
  | web
  | file
  | other
  deriving DecidableEq, Repr

structure Authority where
  scheme : String
  host : String
  port : Option Nat
  deriving DecidableEq, Repr

namespace Authority

def kind (scheme : List Char) : SchemeKind :=
  if ["http", "https", "ws", "wss", "ftp"].contains (String.ofList scheme) then .web
  else if String.ofList scheme = "file" then .file
  else .other

def defaultPort (scheme : List Char) : Option Nat :=
  [("http", 80), ("https", 443), ("ws", 80), ("wss", 443), ("ftp", 21)].lookup
    (String.ofList scheme)

def clean (text : List Char) : List Char :=
  let low := fun (c : Char) => decide (c.toNat ≤ 0x20)
  let cut := ((text.dropWhile low).reverse.dropWhile low).reverse
  cut.filter fun c => c ≠ '\t' && c ≠ '\n' && c ≠ '\r'

def isSchemePart (c : Char) : Bool := c.isAlphanum || c = '+' || c = '-' || c = '.'

def scheme? (text : List Char) : Option (List Char × List Char) :=
  match text.dropWhile isSchemePart with
  | ':' :: rest =>
    let scheme := text.takeWhile isSchemePart
    match scheme.head? with
    | some c => if c.isAlpha then some (scheme.map Char.toLower, rest) else none
    | none => none
  | _ => none

def endsAuthority (kind : SchemeKind) (c : Char) : Bool :=
  c = '/' || c = '?' || c = '#' || (c = '\\' && kind ≠ .other)

def afterUser (text : List Char) : List Char := (text.reverse.takeWhile (· ≠ '@')).reverse

def hostAndPort (inside : Bool) : List Char → List Char × List Char
  | [] => ([], [])
  | c :: rest =>
    if c = ':' && !inside then ([], c :: rest)
    else
      let inside := if c = '[' then true else if c = ']' then false else inside
      let (host, port) := hostAndPort inside rest
      (c :: host, port)

def port? (scheme : List Char) : List Char → Option (Option Nat)
  | [] => some none
  | _ :: digits =>
    let digits := digits.takeWhile (· ≠ '\\')
    if digits.isEmpty then some none
    else (boundedNat? 65535 digits).map fun port =>
      if defaultPort scheme = some port then none else some port

def bracketed (host : List Char) : Option (List Char) :=
  if host.getLast? = some ']' then
    (Address.eight? (host.drop 1).dropLast).map fun pieces =>
      '[' :: Address.eightText pieces ++ [']']
  else none

def percentDecode : List Char → List UInt8
  | '%' :: a :: b :: rest =>
    match Json.hexValue? a, Json.hexValue? b with
    | some high, some low => UInt8.ofNat (16 * high + low) :: percentDecode rest
    | _, _ => 37 :: percentDecode (a :: b :: rest)
  | c :: rest => (String.singleton c).toUTF8.toList ++ percentDecode rest
  | [] => []
termination_by text => text.length

def domain? (host : List Char) : Option (List Char) := do
  let text ← String.fromUTF8? ⟨(percentDecode host).toArray⟩
  let domain ← Domain.ofText? text.toList
  if domain.isEmpty then none
  else if Address.endsInNumber domain then (Address.four? domain).map Address.fourText
  else some domain

def hexUpper (n : Nat) : Char := (Nat.digitChar (n % 16)).toUpper

def percentEncode (c : Char) : List Char :=
  if 0x20 ≤ c.toNat && c.toNat < 0x7F then [c]
  else (String.singleton c).toUTF8.toList.flatMap fun byte =>
    ['%', hexUpper (byte.toNat / 16), hexUpper byte.toNat]

def opaque? (host : List Char) : Option (List Char) :=
  if host.any fun c => c.toNat = 0 || " #/:<>?@[\\]^|".toList.contains c then none
  else some (host.flatMap percentEncode)

def host? (kind : SchemeKind) (host : List Char) : Option (List Char) :=
  if host.head? = some '[' then bracketed host
  else if kind = .other then opaque? host
  else domain? host

def isDrive : List Char → Bool
  | [letter, mark] => letter.isAlpha && (mark = ':' || mark = '|')
  | _ => false

def isDot (spelling : String) : Bool := spelling = "." || spelling = "%2e" || spelling = "%2E"

def isOneDot (name : List Char) : Bool := isDot (String.ofList name)

def isTwoDots (name : List Char) : Bool :=
  [1, 3].any fun cut => isOneDot (name.take cut) && isOneDot (name.drop cut)

/-- Whether a drive comes first in a path when the dots in it are followed. The names kept so far
come with the last one first; two dots do not leave a drive. -/
def startsAtDrive : (kept : List (List Char)) → List (List Char) → Bool
  | _, [] => false
  | kept, name :: rest =>
    if isTwoDots name then
      startsAtDrive (if (kept.head?.map isDrive).getD false then kept else kept.drop 1) rest
    else if isOneDot name then startsAtDrive kept rest
    else (kept.isEmpty && isDrive name) || startsAtDrive (name :: kept) rest

def ofFile (scheme rest : List Char) : Option Authority := do
  let name := rest.takeWhile (!endsAuthority .file ·)
  let path := (rest.dropWhile (!endsAuthority .file ·)).drop 1
  let host ← host? .file name
  if isDrive name || String.ofList host = "localhost" || startsAtDrive [] (splitAt '\\' path) then
    none
  else some ⟨String.ofList scheme, String.ofList host, none⟩

def ofNet (kind : SchemeKind) (scheme rest : List Char) : Option Authority := do
  let text := rest.takeWhile (!endsAuthority kind ·)
  let (host, port) := hostAndPort false (afterUser text)
  if host.isEmpty then none
  else
    let host ← host? kind host
    let port ← port? scheme port
    some ⟨String.ofList scheme, String.ofList host, port⟩

def ofText? (text : List Char) : Option Authority := do
  let (scheme, rest) ← scheme? (clean text)
  match kind scheme with
  | .web => ofNet .web scheme (rest.dropWhile fun c => c = '/' || c = '\\')
  | .file =>
    match rest with
    | first :: second :: rest =>
      if (first = '/' || first = '\\') && (second = '/' || second = '\\') then ofFile scheme rest
      else none
    | _ => none
  | .other =>
    match rest with
    | '/' :: '/' :: rest => ofNet .other scheme rest
    | _ => none

end Authority

structure Target where
  scheme : String
  host : String
  port : String
  path : String
  deriving DecidableEq, Repr

namespace Target

def whole (url : String) : Target := ⟨"", "", "", url⟩

def ofAuthority (authority : Authority) (path : List Char) : Target :=
  ⟨authority.scheme, authority.host,
    match authority.port with
    | some port => String.ofList (ofNat port)
    | none => "",
    if path.isEmpty then "/" else String.ofList path⟩

def startsPath (c : Char) : Bool := c = '/' || c = '?' || c = '#'

/-- Splits a URL after its authority, so that references in the path are not looked at. An authority
with references, or one that is no authority, leaves the URL whole. -/
def ofUrl (url : String) : Target :=
  match splitOnce "://".toList url.toList with
  | none => whole url
  | some (scheme, rest) =>
    let authority := rest.takeWhile (!startsPath ·)
    if authority.isEmpty || authority.contains '$' || authority.contains '{' then whole url
    else match Authority.ofText? (scheme ++ "://".toList ++ authority) with
      | some found => ofAuthority found (rest.dropWhile (!startsPath ·))
      | none => whole url

end Target

end RequestSuite.Url
