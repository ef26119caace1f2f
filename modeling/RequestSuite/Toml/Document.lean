import RequestSuite.Toml.Scalar

/-! Configuration files as nested tables. A name is given once in its table, a table has one header
at most, and neither a header nor a dotted name reaches into a value. -/
namespace RequestSuite.Toml
open Text

inductive Origin where
  | implied
  | headed
  | dotted
  deriving DecidableEq, Repr

inductive Node where
  | scalar (value : Scalar)
  | array (items : List Node)
  | inlineTable (entries : List (String × Node))
  | table (origin : Origin) (entries : List (String × Node))
  | tables (latest : List (String × Node)) (earlier : List Node)
  deriving Repr, BEq

abbrev Entries := List (String × Node)

def putNode (name : String) (node : Node) : Entries → Entries
  | [] => [(name, node)]
  | (other, old) :: rest =>
    if other = name then (other, node) :: rest else (other, old) :: putNode name node rest

def within (change : Entries → Option Entries) : List String → Entries → Option Entries
  | [], entries => change entries
  | name :: path, entries =>
    match entries.lookup name with
    | none => (within change path []).map fun inner =>
        putNode name (.table .implied inner) entries
    | some (.table origin inner) => (within change path inner).map fun inner =>
        putNode name (.table origin inner) entries
    | some (.tables latest earlier) => (within change path latest).map fun latest =>
        putNode name (.tables latest earlier) entries
    | some _ => none

def openTable (name : String) (entries : Entries) : Option Entries :=
  match entries.lookup name with
  | none => some (putNode name (.table .headed []) entries)
  | some (.table .implied inner) => some (putNode name (.table .headed inner) entries)
  | some _ => none

def appendTable (name : String) (entries : Entries) : Option Entries :=
  match entries.lookup name with
  | none => some (putNode name (.tables [] []) entries)
  | some (.tables latest earlier) =>
    some (putNode name (.tables [] (.table .headed latest :: earlier)) entries)
  | some _ => none

/-- Gives a value to a dotted name. The table that the last dot leads out of must belong to dotted
names; on the way to it, tables that were implied and the latest of repeated ones may be passed. -/
def assign (value : Node) : List String → Entries → Option Entries
  | [], _ => none
  | [name], entries =>
    match entries.lookup name with
    | none => some (putNode name value entries)
    | some _ => none
  | name :: path, entries =>
    match entries.lookup name with
    | none => (assign value path []).map fun inner =>
        putNode name (.table .dotted inner) entries
    | some (.table .dotted inner) => (assign value path inner).map fun inner =>
        putNode name (.table .dotted inner) entries
    | some (.table .implied inner) =>
      if path.length = 1 then none
      else (assign value path inner).map fun inner => putNode name (.table .implied inner) entries
    | some (.tables latest earlier) =>
      if path.length = 1 then none
      else (assign value path latest).map fun latest =>
        putNode name (.tables latest earlier) entries
    | some _ => none

def skipSpaces (text : List Char) : List Char := text.dropWhile fun c => c = ' ' || c = '\t'

def endOfLine (text : List Char) : Option (List Char) :=
  let text := skipSpaces text
  let text := match text with
    | '#' :: rest => rest.dropWhile isPlain
    | _ => text
  match text with
  | [] => some []
  | _ => lineBreak text

def skipLines : (fuel : Nat) → List Char → List Char
  | 0, text => text
  | fuel + 1, text =>
    let text := skipSpaces text
    match text with
    | [] => []
    | c :: _ =>
      if c = '#' || c = '\n' || c = '\r' then
        match endOfLine text with
        | some rest => skipLines fuel rest
        | none => text
      else text

def isBareKeyPart (c : Char) : Bool := c.isAlphanum || c = '_' || c = '-'

def simpleKey (text : List Char) : Option (String × List Char) :=
  match text.head? with
  | some c =>
    if c = '"' || c = '\x27' then (shortText text).map fun (key, rest) => (String.ofList key, rest)
    else
      let key := text.takeWhile isBareKeyPart
      if key.isEmpty then none else some (String.ofList key, text.dropWhile isBareKeyPart)
  | none => none

def dottedNames : (fuel : Nat) → List Char → Option (List String × List Char)
  | 0, _ => none
  | fuel + 1, text => do
    let (key, rest) ← simpleKey (skipSpaces text)
    match skipSpaces rest with
    | '.' :: rest =>
      let (keys, rest) ← dottedNames fuel rest
      some (key :: keys, rest)
    | rest => some ([key], rest)

def mostNested : Nat := 80

def dottedKey (text : List Char) : Option (List String × List Char) :=
  dottedNames mostNested text

mutual
def value : (fuel : Nat) → (depth : Nat) → List Char → Option (Node × List Char)
  | 0, _, _ => none
  | fuel + 1, depth, '[' :: rest => do
    if mostNested ≤ depth then none
    let (items, rest) ← arrayItems fuel (depth + 1) (skipLines fuel rest)
    some (.array items, rest)
  | fuel + 1, depth, '{' :: rest => do
    if mostNested ≤ depth then none
    let (entries, rest) ← tableEntries fuel (depth + 1) [] (skipLines fuel rest)
    some (.inlineTable entries, rest)
  | _ + 1, _, text => (scalar text).map fun (found, rest) => (.scalar found, rest)

def arrayItems : (fuel : Nat) → (depth : Nat) → List Char → Option (List Node × List Char)
  | 0, _, _ => none
  | _ + 1, _, ']' :: rest => some ([], rest)
  | fuel + 1, depth, text => do
    let (item, rest) ← value fuel depth text
    match skipLines fuel rest with
    | ',' :: rest =>
      let (items, rest) ← arrayItems fuel depth (skipLines fuel rest)
      some (item :: items, rest)
    | ']' :: rest => some ([item], rest)
    | _ => none

def tableEntries : (fuel : Nat) → (depth : Nat) → Entries → List Char →
    Option (Entries × List Char)
  | 0, _, _, _ => none
  | _ + 1, _, entries, '}' :: rest => some (entries, rest)
  | fuel + 1, depth, entries, text => do
    let (key, rest) ← dottedKey text
    match skipLines fuel rest with
    | '=' :: rest =>
      let (node, rest) ← value fuel depth (skipLines fuel rest)
      let entries ← assign node key entries
      match skipLines fuel rest with
      | ',' :: rest => tableEntries fuel depth entries (skipLines fuel rest)
      | '}' :: rest => some (entries, rest)
      | _ => none
    | _ => none
end

structure Draft where
  root : Entries
  header : List String

def Draft.under (draft : Draft) (change : String → Entries → Option Entries) (key : List String) :
    Option Draft := do
  let last ← key.getLast?
  let root ← within (change last) key.dropLast draft.root
  some ⟨root, key⟩

def statement (fuel : Nat) (draft : Draft) : List Char → Option (Draft × List Char)
  | '[' :: '[' :: rest => do
    let (key, rest) ← dottedKey rest
    match rest with
    | ']' :: ']' :: rest => some (← draft.under appendTable key, ← endOfLine rest)
    | _ => none
  | '[' :: rest => do
    let (key, rest) ← dottedKey rest
    match rest with
    | ']' :: rest => some (← draft.under openTable key, ← endOfLine rest)
    | _ => none
  | text => do
    let (key, rest) ← dottedKey text
    match rest with
    | '=' :: rest =>
      let (node, rest) ← value fuel 0 (skipSpaces rest)
      let root ← within (assign node key) draft.header draft.root
      some ({ draft with root }, ← endOfLine rest)
    | _ => none

def statements (limit : Nat) : (fuel : Nat) → Draft → List Char → Option Entries
  | 0, _, _ => none
  | fuel + 1, draft, text =>
    match skipLines limit text with
    | [] => some draft.root
    | text => do
      let (draft, rest) ← statement limit draft text
      statements limit fuel draft rest

def dropMark : List Char → List Char
  | c :: rest => if c.toNat = 0xFEFF then rest else c :: rest
  | [] => []

def document? (text : String) : Option Entries :=
  let text := dropMark text.toList
  let limit := text.length + 2
  statements limit limit ⟨[], []⟩ text

end RequestSuite.Toml
