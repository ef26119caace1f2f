import RequestSuite.Json.Token
import RequestSuite.Text.Markup

/-! The references of a document, resolved. A reader knows the five named characters and those that
are given by their number, in decimal or in hexadecimal digits, and knows nothing of which
characters were escaped; it gets the text back that was escaped. -/
namespace RequestSuite.Text.Markup

def named : List (List Char × Char) :=
  [("amp".toList, '&'), ("lt".toList, '<'), ("gt".toList, '>'), ("quot".toList, '"'),
    ("apos".toList, '\x27')]

def numbered? (base : Nat) (digits : List Char) : Option Char := do
  let values ← digits.mapM Json.hexValue?
  let number := values.foldl (fun value digit => base * value + digit) 0
  if !values.isEmpty && values.all (· < base) && number.isValidChar then some (Char.ofNat number)
  else none

def reference? : List Char → Option Char
  | '#' :: 'x' :: digits => numbered? 16 digits
  | '#' :: digits => numbered? 10 digits
  | name => named.lookup name

/- The text with its references resolved. An ampersand begins one, and the bracket of a tag is no
character of a text. -/
def decode (text : List Char) : Option (List Char) :=
  match text with
  | [] => some []
  | c :: rest =>
    if c = '<' then none
    else if c = '&' then
      match _ : rest.dropWhile (· ≠ ';') with
      | [] => none
      | _ :: after => do
        let d ← reference? (rest.takeWhile (· ≠ ';'))
        let text ← decode after
        some (d :: text)
    else (decode rest).map (c :: ·)
termination_by text.length
decreasing_by
  · rename_i ended
    have shorter := (List.dropWhile_suffix (p := (· ≠ ';')) (l := rest)).length_le
    rw [ended, List.length_cons] at shorter
    rw [List.length_cons]
    omega
  · simp

theorem decodeReference {name : List Char} {d : Char} (known : reference? name = some d)
    (unended : ';' ∉ name) (rest : List Char) :
    decode ('&' :: (name ++ ';' :: rest)) = (decode rest).map (d :: ·) := by
  have before : ∀ c ∈ name, decide (c ≠ ';') = true :=
    fun c member => decide_eq_true fun same => unended (same ▸ member)
  have front : (name ++ ';' :: rest).takeWhile (· ≠ ';') = name := by
    rw [List.takeWhile_append_of_pos before]
    simp
  have back : (name ++ ';' :: rest).dropWhile (· ≠ ';') = ';' :: rest := by
    rw [List.dropWhile_append_of_pos before]
    simp
  rw [decode, if_neg (by decide), if_pos rfl]
  split
  · rename_i none
    rw [back] at none
    contradiction
  · rename_i found
    rw [back] at found
    obtain ⟨-, rfl⟩ := List.cons.inj found
    rw [front, known]
    cases decode rest <;> rfl

inductive Referred (c : Char) : List Char → Prop where
  | reference (name : List Char) (known : reference? name = some c) (unended : ';' ∉ name) :
    Referred c ('&' :: (name ++ [';']))
  | plain (unmarked : c ≠ '&') (unopened : c ≠ '<') : Referred c [c]

theorem escapeReferred (c : Char) : Referred c (escape c) := by
  unfold escape
  split
  · rename_i same
    subst same
    exact .reference "amp".toList (by decide) (by decide)
  rename_i unmarked
  split
  · rename_i same
    subst same
    exact .reference "lt".toList (by decide) (by decide)
  rename_i unopened
  split
  · rename_i same
    subst same
    exact .reference "gt".toList (by decide) (by decide)
  split
  · rename_i same
    subst same
    exact .reference "quot".toList (by decide) (by decide)
  split
  · rename_i same
    subst same
    exact .reference "apos".toList (by decide) (by decide)
  split
  · rename_i same
    subst same
    exact .reference "#xd".toList (by decide) (by decide)
  · exact .plain unmarked unopened

theorem decodeStep (c : Char) (rest : List Char) :
    decode (escape c ++ rest) = (decode rest).map (c :: ·) := by
  have written := escapeReferred c
  generalize escape c = chars at written
  cases written with
  | reference name known unended =>
    rw [List.cons_append, List.append_assoc]
    exact decodeReference known unended rest
  | plain unmarked unopened =>
    rw [List.singleton_append, decode, if_neg unopened, if_neg unmarked]

theorem decodeEncode (text : List Char) : decode (encode text) = some text := by
  induction text with
  | nil => rw [encode, List.flatMap_nil, decode]
  | cons c text ih =>
    have split : encode (c :: text) = escape c ++ encode text := List.flatMap_cons
    rw [split, decodeStep, ih, Option.map_some]

end RequestSuite.Text.Markup
