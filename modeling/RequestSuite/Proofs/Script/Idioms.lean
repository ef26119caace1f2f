import Mathlib.Data.List.Induction
import Mathlib.Data.List.Infix
import Mathlib.Data.List.Pairwise
import RequestSuite.Proofs.Script.PaddedLines
import RequestSuite.Proofs.Text.Passes

/-! The table of idioms on lines of one expectation. A row acts on the word that it is for and on
nothing else, before and after any of the other rows, so the order of the rows has no part in what
becomes of such a line. -/
namespace RequestSuite.Script.Assertion
open Text

def heads : List (List Char) := [['p', 'm', '.'], ['.', 't', 'o', '.']]

def Foreign (text : List Char) : Prop := ∀ head ∈ heads, contains head text = false

instance (text : List Char) : Decidable (Foreign text) :=
  List.decidableBAll (fun head => contains head text = false) heads

def starts : List (List Char) := heads.flatMap fun head => head.inits.filter (· ≠ [])

theorem startsHead {front head : List Char} (member : head ∈ heads) (some : front ≠ [])
    (start : front <+: head) : front ∈ starts :=
  List.mem_flatMap.2 ⟨head, member, by simpa [some] using start⟩

def Shut (text : List Char) : Prop := ∀ start ∈ starts, ¬ start <:+ text

instance (text : List Char) : Decidable (Shut text) :=
  List.decidableBAll (fun start => ¬ start <:+ text) starts

theorem shutAt {c : Char} (other : ∀ start ∈ starts, c ∉ start) (text : List Char) :
    Shut (text ++ [c]) := by
  rintro start member ⟨before, whole⟩
  have filled : ∀ start ∈ starts, start ≠ [] := by decide
  have last := congrArg List.getLast? whole
  rw [List.getLast?_append_of_ne_nil before (filled start member), List.getLast?_concat] at last
  exact other start member (List.mem_of_getLast? last)

/- A word of the table holds no head but its own, and its replacement none at all. -/
structure Headed (idiom : String × String) : Prop where
  starts : ∃ head ∈ heads, head <+: idiom.1.toList
  alone : Foreign idiom.1.toList.tail
  replaced : Foreign idiom.2.toList
  shut : Shut idiom.1.toList ∧ Shut idiom.2.toList

theorem idiomsHeaded : ∀ idiom ∈ idioms, Headed idiom := by
  have parts : ∀ idiom ∈ idioms, (∃ head ∈ heads, head <+: idiom.1.toList) ∧
      Foreign idiom.1.toList.tail ∧ Foreign idiom.2.toList ∧
      Shut idiom.1.toList ∧ Shut idiom.2.toList := by
    decide +kernel
  intro idiom known
  obtain ⟨starts, alone, replaced, shut⟩ := parts idiom known
  exact ⟨starts, alone, replaced, shut⟩

def Unlike (a b : String × String) : Prop :=
  ¬ a.1.toList <+: b.1.toList ∧ ¬ b.1.toList <+: a.1.toList

instance : DecidableRel Unlike := fun a b =>
  inferInstanceAs (Decidable (¬ a.1.toList <+: b.1.toList ∧ ¬ b.1.toList <+: a.1.toList))

instance : Std.Symm Unlike := ⟨fun _ _ => And.symm⟩

theorem idiomsUnlike : idioms.Pairwise Unlike := by decide +kernel

theorem idiomsApart {idiom row : String × String} (known : idiom ∈ idioms) (known' : row ∈ idioms)
    (start : idiom.1.toList <+: row.1.toList) : idiom = row := by
  by_contra different
  exact (idiomsUnlike.forall known known' different).1 start

theorem headsFilled : ∀ head ∈ heads, head ≠ [] := by decide

theorem foreignWord {text : List Char} (foreign : Foreign text) {idiom : String × String}
    (known : idiom ∈ idioms) : contains idiom.1.toList text = false := by
  obtain ⟨head, member, rest, whole⟩ := (idiomsHeaded idiom known).starts
  rw [← whole, ← List.nil_append head]
  exact containsLonger (headsFilled head member) (foreign head member)

theorem foreignSuffix {text front head : List Char} (foreign : Foreign text) (suffix : front <:+ text)
    (member : head ∈ heads) : ¬ head <+: front := by
  rintro ⟨rest, rfl⟩
  obtain ⟨before, rfl⟩ := suffix
  have absent := foreign head member
  rw [containsPart (headsFilled head member)] at absent
  contradiction

theorem headBefore {text front back : List Char} (shut : Shut text) (suffix : front <:+ text)
    (some : front ≠ []) {idiom : String × String} (known : idiom ∈ idioms)
    (whole : idiom.1.toList = front ++ back) : ∃ head ∈ heads, head <+: front := by
  obtain ⟨head, member, starts⟩ := (idiomsHeaded idiom known).starts
  have begun : front <+: idiom.1.toList := ⟨back, whole.symm⟩
  rcases List.prefix_or_prefix_of_prefix starts begun with inside | shorter
  · exact ⟨head, member, inside⟩
  · exact absurd suffix (shut front (startsHead member some shorter))

theorem foreignApart {text : List Char} (foreign : Foreign text) (shut : Shut text)
    {idiom : String × String} (known : idiom ∈ idioms) (after : List Char) :
    Apart idiom.1.toList text after := by
  rintro front back suffix - some - whole
  obtain ⟨head, member, inside⟩ := headBefore shut suffix some known whole
  exact foreignSuffix foreign suffix member inside

theorem wordApart {idiom row : String × String} (known : idiom ∈ idioms) (known' : row ∈ idioms)
    (after : List Char) : Apart idiom.1.toList row.1.toList after := by
  obtain ⟨-, alone, -, shut, -⟩ := idiomsHeaded row known'
  rintro front back suffix - some filled whole
  obtain ⟨head, member, inside⟩ := headBefore shut suffix some known whole
  have all : front = row.1.toList := by
    cases text : row.1.toList with
    | nil => exact List.suffix_nil.1 (text ▸ suffix)
    | cons c rest =>
      rw [text] at suffix alone
      exact (List.suffix_cons_iff.1 suffix).resolve_right fun later =>
        foreignSuffix alone later member inside
  have same : row = idiom := idiomsApart known' known ⟨back, by rw [whole, all]⟩
  rw [← same, all] at whole
  exact filled (by simpa using whole)

theorem replaceAbsent {word text : List Char} (absent : contains word text = false)
    (replacement : List Char) : replaceAll word replacement text = text := by
  have needs (text : List Char) (start : word.isPrefixOf? text = none) :
      literal word text = none := by
    rw [literal, start]
    rfl
  have passed := passOver needs absent (apartNothing word text) fun _ => replacement
  rw [List.append_nil] at passed
  exact passed.trans (List.append_nil text)

theorem applyForeign {text : List Char} (foreign : Foreign text) {idiom : String × String}
    (known : idiom ∈ idioms) : applyIdiom text idiom = text :=
  replaceAbsent (foreignWord foreign known) _

theorem applyWord {idiom row : String × String} (known : idiom ∈ idioms) (known' : row ∈ idioms) :
    applyIdiom row.1.toList idiom = if row = idiom then row.2.toList else row.1.toList := by
  have filled (row : String × String) (known : row ∈ idioms) : row.1.toList ≠ [] := by
    obtain ⟨head, member, rest, whole⟩ := (idiomsHeaded row known).starts
    rw [← whole]
    exact List.append_ne_nil_of_left_ne_nil (headsFilled head member) rest
  by_cases same : row = idiom
  · have hit := replaceHit (filled idiom known) idiom.2.toList []
    rw [List.append_nil] at hit
    rw [if_pos same, same]
    exact hit.trans (List.append_nil _)
  · rw [if_neg same]
    refine replaceAbsent ?_ _
    have alone := (idiomsHeaded row known').alone
    cases text : row.1.toList with
    | nil => exact absurd text (filled row known')
    | cons c rest =>
      rw [text] at alone
      have apart : idiom.1.toList.isPrefixOf? (c :: rest) = none := by
        refine Option.eq_none_iff_forall_ne_some.2 fun after found => same ?_
        refine (idiomsApart known known' ⟨after, ?_⟩).symm
        rw [text]
        exact List.append_eq_of_isPrefixOf?_eq_some found
      have behind : contains idiom.1.toList rest = false := foreignWord alone known
      rw [containsCons, apart, behind]
      rfl

inductive Segment where
  | word (row : String × String)
  | text (chars : List Char)

namespace Segment

def after (rows : List (String × String)) : Segment → List Char
  | word row => (if row ∈ rows then row.2 else row.1).toList
  | text chars => chars

def Settled : Segment → Prop
  | word row => row ∈ idioms
  | text chars => Foreign chars ∧ Shut chars

theorem afterApart {rows : List (String × String)} {segment : Segment} (settled : segment.Settled)
    {idiom : String × String} (known : idiom ∈ idioms) (rest : List Char) :
    Apart idiom.1.toList (segment.after rows) rest := by
  cases segment with
  | text chars => exact foreignApart settled.1 settled.2 known rest
  | word row =>
    rw [after]
    split
    · have headed := idiomsHeaded row settled
      exact foreignApart headed.replaced headed.shut.2 known rest
    · exact wordApart known settled rest

theorem afterNext (rows : List (String × String)) {segment : Segment} (settled : segment.Settled)
    {idiom : String × String} (known : idiom ∈ idioms) :
    applyIdiom (segment.after rows) idiom = segment.after (rows ++ [idiom]) := by
  cases segment with
  | text chars => exact applyForeign settled.1 known
  | word row =>
    rw [after, after]
    by_cases old : row ∈ rows
    · rw [if_pos old, if_pos (List.mem_append_left _ old)]
      exact applyForeign (idiomsHeaded row settled).replaced known
    · have new : row ∈ rows ++ [idiom] ↔ row = idiom := by simp [old]
      rw [if_neg old, applyWord known settled]
      simp only [new]
      split <;> rfl

end Segment

def lineAfter (rows : List (String × String)) (segments : List Segment) : List Char :=
  segments.flatMap (Segment.after rows)

/- One more row goes through the parts one by one. -/
theorem lineNext (rows : List (String × String)) {segments : List Segment}
    (settled : ∀ segment ∈ segments, segment.Settled) {idiom : String × String}
    (known : idiom ∈ idioms) :
    applyIdiom (lineAfter rows segments) idiom = lineAfter (rows ++ [idiom]) segments := by
  induction segments with
  | nil => rfl
  | cons segment rest ih =>
    obtain ⟨here, later⟩ := List.forall_mem_cons.1 settled
    have apart : Apart idiom.1.toList (segment.after rows) (lineAfter rows rest) :=
      Segment.afterApart here known _
    have parts := replaceApart apart idiom.2.toList
    exact parts.trans (congrArg₂ (· ++ ·) (Segment.afterNext rows here known) (ih later))

theorem lineFolded {rows : List (String × String)} (known : ∀ row ∈ rows, row ∈ idioms)
    {segments : List Segment} (settled : ∀ segment ∈ segments, segment.Settled) :
    rows.foldl applyIdiom (lineAfter [] segments) = lineAfter rows segments := by
  induction rows using List.reverseRecOn with
  | nil => rfl
  | append_singleton rows idiom ih =>
    obtain ⟨earlier, last⟩ := List.forall_mem_append.1 known
    rw [List.foldl_append, ih earlier]
    exact lineNext rows settled (last idiom List.mem_cons_self)

def opener : String × String := ("pm.expect(", "expect(")

theorem openerKnown : opener ∈ idioms := List.mem_of_getElem? (show idioms[4]? = some opener from rfl)

def accessors : List (String × String) := idioms.take 4

def matchers : List (String × String) := idioms.drop 5

def ending (matcher : String × String) (argument : List Char) : List Char :=
  if EndsOpen matcher.1.toList then argument ++ [')', ';'] else [';']

def expectationLine (written : String × String → String) (accessor : Option (String × String))
    (text : List Char) (matcher : String × String) (argument : List Char) : List Char :=
  (written opener).toList ++ (accessor.elim [] fun row => (written row).toList) ++ text ++
    ')' :: (written matcher).toList ++ ending matcher argument

def expectationParts (accessor : Option (String × String)) (text : List Char)
    (matcher : String × String) (argument : List Char) : List Segment :=
  .word opener :: (accessor.toList.map .word ++
    [.text (text ++ [')']), .word matcher, .text (ending matcher argument)])

theorem partsAfter (rows : List (String × String)) (accessor : Option (String × String))
    (text : List Char) (matcher : String × String) (argument : List Char) :
    lineAfter rows (expectationParts accessor text matcher argument) =
      expectationLine (fun row => if row ∈ rows then row.2 else row.1) accessor text matcher
        argument := by
  cases accessor <;>
    simp [lineAfter, expectationParts, expectationLine, Segment.after]

theorem foreignClosed {text : List Char} (foreign : Foreign text) {c : Char} (close : c = ')' ∨ c = ';') :
    Foreign (text ++ [c]) ∧ Shut (text ++ [c]) := by
  have other : ∀ c, c = ')' ∨ c = ';' → (∀ head ∈ heads, c ∉ head ∧ contains head [c] = false) ∧
      ∀ start ∈ starts, c ∉ start := by
    rintro c (rfl | rfl) <;> decide
  obtain ⟨unheaded, unstarted⟩ := other c close
  refine ⟨fun head member => ?_, shutAt unstarted text⟩
  obtain ⟨outside, absent⟩ := unheaded head member
  have apart : Apart head text [c] :=
    apartOther (List.forall_mem_singleton.2 outside) text
  rw [containsApart (headsFilled head member) apart, foreign head member, absent]
  rfl

theorem endingSettled (matcher : String × String) {argument : List Char}
    (foreign : Foreign argument) : Foreign (ending matcher argument) ∧
      Shut (ending matcher argument) := by
  unfold ending
  split
  · have shut := foreignClosed (foreignClosed foreign (.inl rfl)).1 (.inr rfl)
    rwa [List.append_assoc] at shut
  · exact @foreignClosed [] (by decide) ';' (.inr rfl)

theorem partsSettled {accessor : Option (String × String)}
    (accessed : ∀ row ∈ accessor, row ∈ accessors) {matcher : String × String}
    (known : matcher ∈ matchers) {text argument : List Char} (foreign : Foreign text)
    (foreign' : Foreign argument) :
    ∀ segment ∈ expectationParts accessor text matcher argument, segment.Settled := by
  refine List.forall_mem_cons.2 ⟨openerKnown, List.forall_mem_append.2 ⟨?_, ?_⟩⟩
  · intro segment member
    obtain ⟨row, given, rfl⟩ := List.mem_map.1 member
    exact List.mem_of_mem_take (accessed row (Option.mem_toList.1 given))
  · exact List.forall_mem_cons.2 ⟨foreignClosed foreign (.inl rfl),
      List.forall_mem_cons.2 ⟨List.mem_of_mem_drop known,
        List.forall_mem_singleton.2 (endingSettled matcher foreign')⟩⟩

theorem expectationCongr {written written' : String × String → String}
    {accessor : Option (String × String)} {matcher : String × String}
    (same : ∀ row, row = opener ∨ accessor = some row ∨ row = matcher → written row = written' row)
    (text argument : List Char) :
    expectationLine written accessor text matcher argument =
      expectationLine written' accessor text matcher argument := by
  have opens := same opener (.inl rfl)
  have matches_ := same matcher (.inr (.inr rfl))
  cases accessor with
  | none => rw [expectationLine, expectationLine, opens, matches_, Option.elim_none, Option.elim_none]
  | some row =>
    have accesses := same row (.inr (.inl rfl))
    rw [expectationLine, expectationLine, opens, matches_, Option.elim_some, Option.elim_some,
      accesses]

theorem lineBounded (accessor : Option (String × String)) (text : List Char)
    (matcher : String × String) (argument : List Char) :
    ∃ middle, expectationLine Prod.fst accessor text matcher argument =
      "pm.expect".toList ++ (middle ++ [';']) := by
  have opens : (Prod.fst opener).toList = "pm.expect".toList ++ ['('] := by decide
  have ends : ∃ front, ending matcher argument = front ++ [';'] := by
    unfold ending
    split
    · exact ⟨argument ++ [')'], by simp⟩
    · exact ⟨[], rfl⟩
  obtain ⟨front, ends⟩ := ends
  rw [expectationLine, ends, opens]
  exact ⟨['('] ++ (accessor.elim [] fun row => row.1.toList) ++ text ++
    ')' :: matcher.1.toList ++ front, by simp⟩

theorem matcherFiresAlone {matcher : String × String} (known : matcher ∈ matchers)
    {accessor : Option (String × String)} (accessed : ∀ row ∈ accessor, row ∈ accessors)
    {text argument : List Char} (foreign : Foreign text) (foreign' : Foreign argument)
    {lead gap : List Char} (before : Blank lead) (after : Blank gap) :
    let line := expectationLine Prod.fst accessor text matcher argument
    let written := expectationLine Prod.snd accessor text matcher argument
    expectation? (lead ++ line ++ gap) = some (.expression (String.ofList written)) ∧
      (∀ idiom ∈ idioms, idiom ≠ opener → accessor ≠ some idiom → idiom ≠ matcher →
        applyIdiom line idiom = line) ∧
      (∀ rows : List (String × String), (∀ row ∈ rows, row ∈ idioms) →
        rows.foldl applyIdiom line =
          expectationLine (fun row => if row ∈ rows then row.2 else row.1) accessor text matcher
            argument) ∧
      ∀ rows : List (String × String), rows.Perm idioms → rows.foldl applyIdiom line = written := by
  intro line written
  have folded (rows : List (String × String)) (inside : ∀ row ∈ rows, row ∈ idioms) :
      rows.foldl applyIdiom line =
        expectationLine (fun row => if row ∈ rows then row.2 else row.1) accessor text matcher
          argument := by
    have parts := lineFolded inside (partsSettled accessed known foreign foreign')
    rw [partsAfter, partsAfter] at parts
    simpa only [List.not_mem_nil, if_false] using parts
  have whole (rows : List (String × String)) (perm : rows.Perm idioms) :
      rows.foldl applyIdiom line = written := by
    rw [folded rows fun row member => perm.subset member]
    refine expectationCongr (fun row own => if_pos (perm.symm.subset ?_)) text argument
    obtain rfl | given | rfl := own
    · exact openerKnown
    · exact List.mem_of_mem_take (accessed row given)
    · exact List.mem_of_mem_drop known
  refine ⟨?_, ?_, folded, whole⟩
  · obtain ⟨middle, bounded⟩ := lineBounded accessor text matcher argument
    have found : contains "pm.expect".toList (lead ++ line ++ gap) = true := by
      have shifted : lead ++ line ++ gap =
          lead ++ ("pm.expect".toList ++ (middle ++ [';'] ++ gap)) := by
        simp only [line, bounded, List.append_assoc]
      rw [shifted]
      exact containsPart (by decide) _ _
    have trimmed : trim (lead ++ line ++ gap) = line := by
      rw [trimSurrounded before after]
      refine trimWhole ?_ ?_
      · rintro c first
        rw [show line = _ from bounded] at first
        rw [← Option.some.inj first]
        rfl
      · rintro c last
        rw [show line = _ from bounded, ← List.append_assoc, List.getLast?_concat] at last
        rw [← Option.some.inj last]
        rfl
    rw [expectation?, if_pos found, trimmed, whole idioms (.refl _)]
  · intro idiom member notOpener notAccessor notMatcher
    have single := folded [idiom] (List.forall_mem_singleton.2 member)
    refine single.trans (expectationCongr (fun row own => if_neg fun same => ?_) text argument)
    obtain rfl := List.mem_singleton.1 same
    obtain opens | accesses | matches_ := own
    · exact notOpener opens
    · exact notAccessor accesses
    · exact notMatcher matches_

theorem memberExpected :
    expectation? "\t pm.expect(pm.response.json().a[0]).to.have.property('to.b', 7); ".toList =
        some (.expression "expect(pwResponse.a[0]).toHaveProperty('to.b', 7);") ∧
      idioms.reverse.foldl applyIdiom
          "pm.expect(pm.response.json().a[0]).to.have.property('to.b', 7);".toList =
        "expect(pwResponse.a[0]).toHaveProperty('to.b', 7);".toList := by
  have member : (".to.have.property(", ".toHaveProperty(") ∈ matchers :=
    List.mem_of_getElem? (show matchers[7]? = some _ from rfl)
  have accessed : ∀ row ∈ some ("pm.response.json()", "pwResponse"), row ∈ accessors := by
    rintro _ ⟨⟩
    exact List.mem_cons_self
  have foreign : Foreign ".a[0]".toList ∧ Foreign "'to.b', 7".toList := by decide
  have blank : Blank "\t ".toList ∧ Blank " ".toList := by decide
  obtain ⟨fires, -, -, ordered⟩ :=
    matcherFiresAlone member accessed foreign.1 foreign.2 blank.1 blank.2
  have line : expectationLine Prod.fst (some ("pm.response.json()", "pwResponse")) ".a[0]".toList
      (".to.have.property(", ".toHaveProperty(") "'to.b', 7".toList =
        "pm.expect(pm.response.json().a[0]).to.have.property('to.b', 7);".toList := by
    decide +kernel
  have padded : "\t ".toList ++
      "pm.expect(pm.response.json().a[0]).to.have.property('to.b', 7);".toList ++ " ".toList =
        "\t pm.expect(pm.response.json().a[0]).to.have.property('to.b', 7); ".toList := by
    decide +kernel
  have written : expectationLine Prod.snd (some ("pm.response.json()", "pwResponse"))
      ".a[0]".toList (".to.have.property(", ".toHaveProperty(") "'to.b', 7".toList =
        "expect(pwResponse.a[0]).toHaveProperty('to.b', 7);".toList := by
    decide +kernel
  have reversed := ordered idioms.reverse (List.reverse_perm idioms)
  rw [line, written] at reversed
  rw [line, padded, written, String.ofList_toList] at fires
  exact ⟨fires, reversed⟩

end RequestSuite.Script.Assertion
