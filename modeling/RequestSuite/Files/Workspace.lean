import RequestSuite.Files.Path

/-! A tree of files as a value, with a current directory. Operations that fail leave the tree as it
is, except that making several directories keeps those already made. -/
namespace RequestSuite.Files

inductive Entry where
  | directory
  | file (content : ByteArray)

instance : DecidableEq Entry
  | .directory, .directory => .isTrue rfl
  | .directory, .file _ => .isFalse nofun
  | .file _, .directory => .isFalse nofun
  | .file ⟨a⟩, .file ⟨b⟩ =>
    if same : a = b then .isTrue (same ▸ rfl) else .isFalse (by simpa using same)

inductive Fault where
  | notFound
  | notDirectory
  | isDirectory
  | alreadyExists
  | nameTooLong
  | zeroInName
  | notText
  deriving DecidableEq, Repr

def Fault.message : Fault → String
  | notFound => "No such file or directory (os error 2)"
  | notDirectory => "Not a directory (os error 20)"
  | isDirectory => "Is a directory (os error 21)"
  | alreadyExists => "File exists (os error 17)"
  | nameTooLong => "File name too long (os error 36)"
  | zeroInName => "file name contained an unexpected NUL byte"
  | notText => "stream did not contain valid UTF-8"

abbrev Location := List String

structure Workspace where
  current : Location
  entries : List (Location × Entry)

namespace Workspace

def entry? (workspace : Workspace) : Location → Option Entry
  | [] => some .directory
  | location => workspace.entries.lookup location

def putEntry (location : Location) (entry : Entry) :
    List (Location × Entry) → List (Location × Entry)
  | [] => [(location, entry)]
  | (other, old) :: rest =>
    if other = location then (other, entry) :: rest
    else (other, old) :: putEntry location entry rest

def put (workspace : Workspace) (location : Location) (entry : Entry) : Workspace :=
  { workspace with entries := putEntry location entry workspace.entries }

theorem lookupPutSame (location : Location) (entry : Entry) (entries : List (Location × Entry)) :
    (putEntry location entry entries).lookup location = some entry := by
  induction entries with
  | nil => simp [putEntry]
  | cons first rest ih =>
    obtain ⟨other, old⟩ := first
    simp only [putEntry]
    split
    · rename_i same
      simp [same]
    · rename_i different
      have h : (location == other) = false := by simpa using Ne.symm different
      simp [List.lookup_cons, h, ih]

theorem lookupPutOther {location key : Location} (entry : Entry)
    (entries : List (Location × Entry)) (different : key ≠ location) :
    (putEntry location entry entries).lookup key = entries.lookup key := by
  have h : (key == location) = false := by simpa using different
  induction entries with
  | nil => simp [putEntry, List.lookup_cons, h]
  | cons first rest ih =>
    obtain ⟨other, old⟩ := first
    simp only [putEntry]
    split
    · rename_i same
      subst same
      simp [List.lookup_cons, h]
    · simp only [List.lookup_cons, ih]

def maxName : Nat := 255

def enter (workspace : Workspace) (here : Location) (name : String) : Except Fault Location :=
  if name = ".." then .ok here.dropLast
  else if maxName < name.utf8ByteSize then .error .nameTooLong
  else match workspace.entry? (here ++ [name]) with
    | some .directory => .ok (here ++ [name])
    | some (.file _) => .error .notDirectory
    | none => .error .notFound

def maxPath : Nat := 4095

def start (workspace : Workspace) (path : Path) : Except Fault Location :=
  if path.text.toList.contains (Char.ofNat 0) then .error .zeroInName
  else if maxPath < path.text.utf8ByteSize then .error .nameTooLong
  else if path = .empty then .error .notFound
  else .ok (if path.isAbsolute then [] else workspace.current)

/-- Where a path leads. All its names but the last are directories; the last may be missing, unless
a dot comes after it. -/
def locate (workspace : Workspace) (path : Path) : Except Fault Location := do
  let start ← workspace.start path
  match path.names.getLast? with
  | none => return start
  | some last =>
    if path.endsInDot || last = ".." then path.names.foldlM workspace.enter start
    else
      let here ← path.names.dropLast.foldlM workspace.enter start
      if maxName < last.utf8ByteSize then throw .nameTooLong
      return here ++ [last]

def way (workspace : Workspace) (path : Path) : List Location :=
  match workspace.start path with
  | .error _ => []
  | .ok start =>
    let step (found : List Location × Location) (name : String) :=
      let here := if name = ".." then found.2.dropLast else found.2 ++ [name]
      (here :: found.1, here)
    (path.names.foldl step ([], start)).1.reverse

def find? (workspace : Workspace) (path : Path) : Except Fault (Option Entry) := do
  return workspace.entry? (← workspace.locate path)

def isThere (workspace : Workspace) (path : Path) : Bool :=
  match workspace.find? path with
  | .ok (some (.file _)) => !path.endsInSlash
  | .ok (some .directory) => true
  | _ => false

def isDirectory (workspace : Workspace) (path : Path) : Bool :=
  match workspace.find? path with
  | .ok (some .directory) => true
  | _ => false

def readBytes (workspace : Workspace) (path : Path) : Except Fault ByteArray := do
  match ← workspace.find? path with
  | none => throw .notFound
  | some .directory => throw .isDirectory
  | some (.file content) => if path.endsInSlash then throw .notDirectory else return content

def readText (workspace : Workspace) (path : Path) : Except Fault String := do
  match String.fromUTF8? (← workspace.readBytes path) with
  | some text => return text
  | none => throw .notText

def writeBytes (workspace : Workspace) (path : Path) (content : ByteArray) :
    Except Fault Workspace := do
  let location ← workspace.locate path
  match workspace.entry? location with
  | some .directory => throw .isDirectory
  | some (.file _) =>
    if path.endsInSlash then throw .notDirectory else return workspace.put location (.file content)
  | none =>
    if path.endsInSlash then throw .isDirectory else return workspace.put location (.file content)

def writeText (workspace : Workspace) (path : Path) (text : String) : Except Fault Workspace :=
  workspace.writeBytes path text.toUTF8

def makeDirectory (workspace : Workspace) (path : Path) : Except Fault Workspace := do
  let location ← workspace.locate path
  match workspace.entry? location with
  | some _ => throw .alreadyExists
  | none => return workspace.put location .directory

abbrev Attempt := Workspace × Option Fault

def ensureDirectory (workspace : Workspace) (path : Path) : Attempt :=
  match workspace.makeDirectory path with
  | .ok made => (made, none)
  | .error fault => (workspace, if workspace.isDirectory path then none else some fault)

/-- Makes a directory. Those above it, at most `fuel`, are made only when it cannot be found a
place; the root and the empty path need not be made. -/
def ensureFrom (workspace : Workspace) : (fuel : Nat) → Path → Attempt
  | 0, _ => (workspace, none)
  | fuel + 1, path =>
    match path.parent? with
    | none => (workspace, none)
    | some above =>
      match workspace.makeDirectory path with
      | .ok made => (made, none)
      | .error .notFound =>
        match ensureFrom workspace fuel above with
        | (made, none) => made.ensureDirectory path
        | failed => failed
      | .error fault => (workspace, if workspace.isDirectory path then none else some fault)

def makeDirectories (workspace : Workspace) (path : Path) : Attempt :=
  ensureFrom workspace (path.parts.length + 1) path

def supplyDirectory (workspace : Workspace) (path : Path) : Attempt :=
  if workspace.isThere path then (workspace, none) else workspace.makeDirectories path

def remove (workspace : Workspace) (location : Location) : Workspace :=
  { workspace with
    entries := workspace.entries.filter fun (other, _) => !location.isPrefixOf other }

def entryText (names : Location) (entry : Entry) : String :=
  let text := Text.joinTexts "/" names
  match entry with
  | .directory => text ++ "/"
  | .file _ => text

def listing (workspace : Workspace) (location : Location) : List (String × Entry) :=
  let below := workspace.entries.filterMap fun (other, entry) =>
    match location.isPrefixOf? other with
    | some [] => none
    | some names => some (entryText names entry, entry)
    | none => none
  below.mergeSort fun a b => a.1 ≤ b.1

end Workspace

end RequestSuite.Files
