import RequestSuite.Files.Path
import RequestSuite.Proofs.Text.Cuts
import RequestSuite.Suite.SpecFile

/-! The import of the variables in a browser-test file. It is the second line of the file, and its
path climbs one level for each directory that the file is below the output directory. -/
namespace RequestSuite.Text

theorem splitJoined {separator : Char} {part : List Char} (absent : separator ∉ part)
    (count : Nat) (rest : List Char) :
    splitAt separator
        (joinWith [separator] (List.replicate (count + 1) part) ++ separator :: rest) =
      List.replicate (count + 1) part ++ splitAt separator rest := by
  induction count with
  | zero =>
    simp only [Nat.zero_add, List.replicate_one, joinWith]
    rw [splitAtAppend, splitAtWhole absent]
  | succ count ih =>
    rw [List.replicate_succ, List.replicate_succ, joinWith, ← List.replicate_succ]
    · simp only [List.append_assoc, List.cons_append, List.nil_append]
      rw [splitAtAppend, splitAtWhole absent, ih]
      rfl
    · simp

end RequestSuite.Text

namespace RequestSuite.Suite.SpecFile
open Text Files

def variablesPath (depth : Nat) : List Char := rootFrom depth ++ "/variables.js".toList

theorem pathNames (depth : Nat) :
    (Path.ofText (String.ofList (variablesPath depth))).names =
      List.replicate depth ".." ++ ["variables.js"] := by
  cases depth with
  | zero => rfl
  | succ depth =>
    have slash : variablesPath (depth + 1) =
        joinWith ['/'] (List.replicate (depth + 1) ['.', '.']) ++
          '/' :: "variables.js".toList := rfl
    have parts : (Path.ofText (String.ofList (variablesPath (depth + 1)))).parts =
        List.replicate (depth + 1) ".." ++ ["variables.js"] := by
      rw [Path.ofText, String.toList_ofList, slash, splitJoined (by decide), List.map_append,
        List.map_replicate]
      rfl
    rw [Path.names, parts, List.filter_append, List.filter_replicate]
    rfl

theorem rootLetters (depth : Nat) : '\n' ∉ rootFrom depth := by
  cases depth with
  | zero => decide
  | succ depth =>
    intro member
    rcases memJoinWith member with slash | ⟨part, inside, own⟩
    · simp at slash
    · rw [List.eq_of_mem_replicate inside] at own
      simp at own

def importLine (depth : Nat) : List Char :=
  "import \x7b variables \x7d from '".toList ++ (variablesPath depth ++ "';".toList)

theorem importUnbroken (depth : Nat) : '\n' ∉ importLine depth := by
  delta importLine variablesPath
  simp only [List.mem_append, not_or]
  exact ⟨by decide, ⟨rootLetters depth, by decide⟩, by decide⟩

theorem renderHead (depth : Nat) (artifacts : Artifacts) :
    ∃ rest, renderChars depth artifacts =
      "import \x7b test, expect \x7d from '@playwright/test';".toList ++
        '\n' :: (importLine depth ++ '\n' :: rest) := by
  have first : "import \x7b test, expect \x7d from '@playwright/test';\n" =
      "import \x7b test, expect \x7d from '@playwright/test';" ++ "\n" := by decide
  have second : "/variables.js';\n\n" = "/variables.js" ++ ("';" ++ "\n\n") := by decide
  have feed : "\n".toList = ['\n'] := rfl
  have feeds : "\n\n".toList = ['\n', '\n'] := rfl
  delta renderChars importLine variablesPath
  rw [first, second]
  simp only [String.toList_append, feed, feeds, List.append_assoc, List.cons_append,
    List.nil_append]
  exact ⟨_, rfl⟩

theorem importSecond (depth : Nat) (artifacts : Artifacts) :
    (lines (render depth artifacts).toList)[1]? = some (importLine depth) := by
  obtain ⟨rest, shape⟩ := renderHead depth artifacts
  have first : '\n' ∉ "import \x7b test, expect \x7d from '@playwright/test';".toList := by decide
  rw [render, String.toList_ofList, shape, lines, splitAtAppend, splitAtAppend,
    splitAtWhole first, splitAtWhole (importUnbroken depth)]
  rfl

end RequestSuite.Suite.SpecFile
