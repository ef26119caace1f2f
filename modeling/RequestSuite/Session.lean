import RequestSuite.Collection.Basic
import RequestSuite.Request.Resolved
import RequestSuite.Script.Cache
import RequestSuite.Script.Prelude

/-! One run over a collection: the variables and the scripts read so far. Requests are taken in the
order of the tree, since a script sets variables for all that follow. -/
namespace RequestSuite
open Variable Script Template

structure Sources where
  collection : List Collection.Entry
  statics : List (String × String)
  environment : Option Collection.Environment
  overrides : List (String × String)

namespace Sources

def declareEntry (store : Store) (entry : Collection.Entry) : Store :=
  if entry.isActive then store.declare entry.key (Value.ofJson entry.value) else store

def declareText (store : Store) (pair : String × String) : Store :=
  store.declare pair.1 (.text pair.2)

def keepText (store : Store) (pair : String × String) : Store := store.keep pair.1 (.text pair.2)

def environmentEntries (sources : Sources) : List Collection.Entry :=
  match sources.environment with
  | some environment => environment.values
  | none => []

/-- Later sources hide earlier ones: the collection, the configuration, the environment, what was
kept, and the overrides. -/
def store (sources : Sources) (kept : Snapshot) : Store :=
  let collection := sources.collection.foldl declareEntry (Store.load kept)
  let statics := sources.statics.foldl declareText collection
  let environment := sources.environmentEntries.foldl declareEntry statics
  sources.overrides.foldl keepText environment

end Sources

structure Session where
  store : Store
  cache : Cache
  deriving DecidableEq, Repr

structure Artifacts where
  name : String
  request : Request.Resolved
  prelude : String
  tests : Issued
  runtime : Snapshot

namespace Session

def start (sources : Sources) (kept : Snapshot) : Session := ⟨sources.store kept, .empty⟩

def readPrelude (session : Session) (script : String) : Session × String :=
  let (store, code) := Script.readPrelude session.store script
  ({ session with store }, code)

def readTests (session : Session) (script : String) : Session × Issued :=
  let (cache, tests) := session.cache.read script
  ({ session with cache }, tests)

def preludeOf (session : Session) (item : Collection.Item) : Session × String :=
  match item.preludeScript? with
  | some script => session.readPrelude script
  | none => (session, "")

def testsOf (session : Session) (item : Collection.Item) : Session × Issued :=
  session.readTests (item.testScript?.getD "")

/-- Takes one request: first the script before it, then the tests after it, then the request
itself. If the request cannot be resolved, what the scripts did stays. -/
def process (session : Session) (item : Collection.Item) (request : Collection.Request) :
    Session × Except MissingParameter Artifacts :=
  let (session, prelude) := session.preludeOf item
  let (session, tests) := session.testsOf item
  (session, (Request.resolve session.store request).map fun resolved =>
    ⟨item.name, resolved, prelude, tests, session.store.runtime⟩)

def finish (session : Session) : Snapshot := session.store.exported

end Session

end RequestSuite
