import RequestSuite.Proofs.Files.Saving
import RequestSuite.Proofs.Json.Values
import RequestSuite.Proofs.NameMap
import RequestSuite.Proofs.Text.Cuts
import RequestSuite.Variable.Archive

/-! Variables kept in a file and read again. What is written is an object of texts and numbers that
comes back as it was, whatever the file held before; and it can be written wherever the system
accepts the path and nothing but missing directories and a file stand along it. -/
namespace RequestSuite.Variable
open Text Decimal Files Files.Workspace

def Value.IsExact : Value → Prop
  | .text _ => True
  | .number (.integer _ _) => True
  | .number (.binary _) => False

instance : DecidablePred Value.IsExact
  | .text _ => .isTrue trivial
  | .number (.integer _ _) => .isTrue trivial
  | .number (.binary _) => .isFalse id

def Snapshot.IsExact (snapshot : Snapshot) : Prop := ∀ entry ∈ snapshot.entries, entry.2.IsExact

instance : DecidablePred Snapshot.IsExact := fun snapshot =>
  inferInstanceAs (Decidable (∀ entry ∈ snapshot.entries, entry.2.IsExact))

def membersJson (entries : List (String × Value)) : List (String × Json.Value) :=
  entries.map fun (name, value) => (name, value.toJson)

theorem exactLexical {value : Value} (exact : value.IsExact) : value.toJson.IsLexical := by
  match value, exact with
  | .text _, _ => trivial
  | .number (.integer n fits), _ => exact (Json.integerLexical n fits).1

theorem exactReadable {value : Value} (exact : value.IsExact) (levels : Nat) :
    value.toJson.IsReadable levels := by
  match value, exact with
  | .text _, _ => cases levels <;> trivial
  | .number (.integer n fits), _ =>
    have literal := (Json.integerLexical n fits).2
    have back : (Json.literal (.integer n fits)).number? = some (.integer n fits) := by
      rw [literal, Json.integerBack]
    cases levels <;> exact back

theorem entriesLexical {entries : List (String × Value)}
    (exact : ∀ entry ∈ entries, entry.2.IsExact) :
    Json.Value.MembersLexical (membersJson entries) := by
  induction entries with
  | nil => trivial
  | cons entry rest ih =>
    obtain ⟨first, later⟩ := List.forall_mem_cons.1 exact
    exact ⟨exactLexical first, ih later⟩

theorem entriesReadable {entries : List (String × Value)}
    (exact : ∀ entry ∈ entries, entry.2.IsExact) (levels : Nat) :
    Json.Value.MembersReadable levels (membersJson entries) := by
  induction entries with
  | nil => trivial
  | cons entry rest ih =>
    obtain ⟨first, later⟩ := List.forall_mem_cons.1 exact
    exact ⟨exactReadable first levels, ih later⟩

theorem namesDistinct (snapshot : Snapshot) :
    ((membersJson snapshot.entries).map Prod.fst).Nodup := by
  have names : (membersJson snapshot.entries).map Prod.fst = snapshot.entries.map Prod.fst := by
    rw [membersJson, List.map_map]
    rfl
  rw [names]
  exact List.pairwise_map.2 (snapshot.sorted.imp fun less => String.ne_of_lt less)

theorem valueBack (value : Value) : Value.ofJson value.toJson = value := by
  cases value <;> rfl

theorem membersBack (snapshot : Snapshot) :
    Snapshot.ofMembers (membersJson snapshot.entries) = snapshot := by
  refine (congrArg NameMap.ofList ?_).trans (NameMap.ofListEntries snapshot)
  rw [membersJson, List.map_map]
  refine (List.map_congr_left ?_).trans (List.map_id _)
  intro entry member
  exact Prod.ext rfl (valueBack entry.2)

theorem prettyBack {snapshot : Snapshot} (exact : snapshot.IsExact) {gap : String}
    (space : ∀ c ∈ gap.toList, Json.isSpace c = true) :
    Json.Value.ofText? (snapshot.pretty ++ gap) =
      some (.object (membersJson snapshot.entries)) := by
  have lexical : (Snapshot.toJson snapshot).IsLexical := entriesLexical exact
  have readable : (Snapshot.toJson snapshot).IsReadable Json.Value.maxLevels :=
    ⟨namesDistinct snapshot, entriesReadable exact _⟩
  exact Json.Value.textBack lexical readable space

namespace Archive

theorem ofFilled {text : String} {c : Char} (member : c ∈ text.toList)
    (filled : isBlank c = false) :
    ofText text = match Json.Value.ofText? text with
      | some (.object members) => .ok (Snapshot.ofMembers members)
      | _ => .error .json := by
  have some : trim text.toList ≠ [] := List.ne_nil_of_mem (trimKeeps member filled)
  exact if_neg (by simp [some])

/- What is written begins with a brace, so it is never taken for an empty file. -/
theorem renderFilled (snapshot : Snapshot) : '\x7b' ∈ (render snapshot).toList := by
  rw [render, String.toList_append, Snapshot.pretty, Json.Value.pretty, String.toList_ofList,
    Snapshot.toJson]
  cases snapshot.entries <;> exact List.mem_append_left _ List.mem_cons_self

theorem renderBack {snapshot : Snapshot} (exact : snapshot.IsExact) :
    ofText (render snapshot) = .ok snapshot := by
  have ending : ∀ c ∈ "\n".toList, Json.isSpace c = true := List.forall_mem_singleton.2 rfl
  rw [ofFilled (renderFilled snapshot) (by decide), render, prettyBack exact ending]
  simp only [membersBack]

theorem readSaved {workspace saved : Workspace} {path : Path} {snapshot : Snapshot}
    (exact : snapshot.IsExact) (done : workspace.makeAll (changes path snapshot) = (saved, none)) :
    saved.readBytes path = .ok (render snapshot).toUTF8 ∧ read saved path = .ok snapshot := by
  have split : workspace.makeAll ([.missing path.parent] ++ [.file path (render snapshot)]) =
      (saved, none) := done
  obtain ⟨bytes, text⟩ := savedText split
  refine ⟨bytes, ?_⟩
  rw [read, text]
  exact renderBack exact

theorem savedComesBack {snapshot : Snapshot} (exact : snapshot.IsExact) (workspace : Workspace)
    (path : Path) :
    (workspace.Savable path → ∃ saved, workspace.makeAll (changes path snapshot) = (saved, none)) ∧
      ∀ saved, workspace.makeAll (changes path snapshot) = (saved, none) →
        saved.readBytes path = .ok (render snapshot).toUTF8 ∧
          read saved path = .ok snapshot :=
  ⟨fun savable => saveDone savable (render snapshot), fun _ done => readSaved exact done⟩

def hostile : Snapshot :=
  .ofList [("", .text "\"\\\x01\n\u2028"), ("number", .text "42"), ("object", .text "\x7b\x7d"),
    ("least", .number (.integer (-0x8000000000000000) (by decide))),
    ("most", .number (.integer 0xFFFFFFFFFFFFFFFF (by decide)))]

def occupied : Workspace :=
  ⟨["home"], [(["home"], .directory), (["home", "out"], .directory),
    (["home", "out", "kept.json"], .file (String.ofList (List.replicate 500 'x')).toUTF8)]⟩

def keptPath : Path := .ofText "out/kept.json"

theorem occupiedSavable : occupied.Savable keptPath where
  start := rfl
  short := by decide
  unslashed := rfl
  undotted := rfl
  clear := by
    rintro location content ⟨names, front, rfl⟩
    have inside : names <+: [] ++ ["out"] := front
    rcases List.prefix_concat_iff.1 inside with rfl | bare
    · exact nofun
    · rw [List.prefix_nil.1 bare]
      exact nofun
  apart := occupied.apartPlain (by decide) (by decide)
  free := by decide

theorem hostileComesBack :
    hostile.IsExact ∧ ∃ saved, occupied.makeAll (changes keptPath hostile) = (saved, none) ∧
      read saved keptPath = .ok hostile := by
  have exact : hostile.IsExact := by decide
  obtain ⟨done, back⟩ := savedComesBack exact occupied keptPath
  obtain ⟨saved, ended⟩ := done occupiedSavable
  exact ⟨exact, saved, ended, (back saved ended).2⟩

end Archive

end RequestSuite.Variable
