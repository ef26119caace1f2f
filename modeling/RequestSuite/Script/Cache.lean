import RequestSuite.Script.TestScript
import RequestSuite.Text.Digest

/-! Test scripts read once per run. Scripts are told apart by the digests of their texts, and every
result carries the serial number under which it was made, so that a shared result shows. -/
namespace RequestSuite.Script

structure Issued where
  serial : Nat
  script : TestScript
  deriving DecidableEq, Repr

structure Cache where
  entries : List (String × Issued)
  hits : Nat
  derivations : Nat
  issued : Nat
  deriving DecidableEq, Repr

namespace Cache

def empty : Cache := ⟨[], 0, 0, 0⟩

def fingerprint (script : String) : String := Text.Digest.ofText script

def get? (cache : Cache) (script : String) : Option Issued :=
  cache.entries.lookup (fingerprint script)

def issue (cache : Cache) (script : TestScript) : Cache × Issued :=
  ({ cache with issued := cache.issued + 1 }, ⟨cache.issued, script⟩)

/-- The meaning of a script, read only if its digest is new. An empty script has the empty meaning
and is neither kept nor counted. -/
def read (cache : Cache) (script : String) : Cache × Issued :=
  if script.isEmpty then cache.issue .empty
  else match cache.get? script with
    | some found => ({ cache with hits := cache.hits + 1 }, found)
    | none =>
      let (next, made) := cache.issue (.ofText script)
      ({ next with
          entries := (fingerprint script, made) :: next.entries
          derivations := next.derivations + 1 }, made)

def size (cache : Cache) : Nat := cache.entries.length

def isEmpty (cache : Cache) : Bool := cache.entries.isEmpty

def clear (cache : Cache) : Cache := { empty with issued := cache.issued }

end Cache

end RequestSuite.Script
