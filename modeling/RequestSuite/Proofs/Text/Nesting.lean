import RequestSuite.Proofs.Text.Tags

/-! What a reader finds in any printed document, whatever its values and texts are: tags with their
attributes, each element closed by its own end, and ampersands only where something is escaped. What
stands outside of values and texts depends on the names alone. -/
namespace RequestSuite.Text
open Markup (replacements declarationTag)

namespace Tag

def outer {α : Type} : List α → List α
  | first :: _ :: rest => first :: outer rest
  | rest => rest

def outside (tag : Tag) : List (List Char) := outer (splitAt '"' tag.inside)

def text (tag : Tag) : List Char := '<' :: tag.piece

def isEnd (tag : Tag) : Bool := tag.inside.head? = some '/'

def isSingle (tag : Tag) : Bool := tag.inside.getLast? = some '/'

def spelled (name : String) (attributes : List (String × List Char)) : List Char :=
  name.toList ++ attributes.flatMap fun (key, value) =>
    ' ' :: key.toList ++ '=' :: '"' :: value ++ ['"']

inductive Formed : Tag → Prop where
  | ending {name after} (plain : Markup.isName name = true) : Formed ⟨'/' :: name.toList, after⟩
  | start {name attributes after} (plain : Markup.isName name = true)
      (keys : ∀ pair ∈ attributes, Markup.isName pair.1 = true)
      (values : ∀ pair ∈ attributes, ∀ c ∈ ['<', '>', '"'], c ∉ pair.2) :
      Formed ⟨spelled name attributes, after⟩
  | single {name attributes after} (plain : Markup.isName name = true)
      (keys : ∀ pair ∈ attributes, Markup.isName pair.1 = true)
      (values : ∀ pair ∈ attributes, ∀ c ∈ ['<', '>', '"'], c ∉ pair.2) :
      Formed ⟨spelled name attributes ++ ['/'], after⟩

end Tag

def nested (above : List String) : List Tag → Bool
  | [] => above.isEmpty
  | tag :: rest =>
    if tag.isEnd then
      match above with
      | [] => false
      | name :: outer => decide (tag.Ends name) && nested outer rest
    else if tag.isSingle then nested above rest
    else nested (tag.element :: above) rest

theorem nestedStart {tag : Tag} (begun : tag.isEnd = false) (left : tag.isSingle = false)
    (above : List String) (rest : List Tag) :
    nested above (tag :: rest) = nested (tag.element :: above) rest := by
  rw [nested.eq_def]
  simp [begun, left]

theorem nestedSingle {tag : Tag} (begun : tag.isEnd = false) (single : tag.isSingle = true)
    (above : List String) (rest : List Tag) :
    nested above (tag :: rest) = nested above rest := by
  rw [nested.eq_def]
  simp [begun, single]

theorem nestedEnd (name : String) (after : List Char) (above : List String) (rest : List Tag) :
    nested (name :: above) (⟨'/' :: name.toList, after⟩ :: rest) = nested above rest := by
  rw [nested.eq_def]
  simp [Tag.isEnd, Tag.Ends]

def Escaped (text : List Char) : Prop :=
  ∀ before rest, text = before ++ '&' :: rest → ∃ word ∈ replacements, word.toList <+: '&' :: rest

structure Clean (text : List Char) : Prop where
  brackets : ∀ c ∈ ['<', '>'], c ∉ text
  escaped : Escaped text

structure Orderly (document : List Char) : Prop where
  whole : document = (declarationTag :: (readTags document).drop 1).flatMap Tag.text
  formed : ∀ tag ∈ (readTags document).drop 1, tag.Formed
  clean : ∀ tag ∈ (readTags document).drop 1, Clean tag.inside ∧ Clean tag.after
  nested : nested [] ((readTags document).drop 1) = true
  escaped : Escaped document

theorem splitAtText (separator : Char) (text : List Char) :
    (splitAt separator text).flatMap (separator :: ·) = separator :: text := by
  induction text with
  | nil => rfl
  | cons c rest ih =>
    rw [splitAt]
    split
    · rename_i same
      rw [List.flatMap_cons, ih, same]
      rfl
    · cases cut : splitAt separator rest with
      | nil => exact absurd cut (splitAtNonempty separator rest)
      | cons part parts =>
        rw [cut, List.flatMap_cons] at ih
        simp only [List.flatMap_cons, List.cons_append, List.cons.injEq, true_and] at ih ⊢
        exact ih

theorem escapedAppend {before after : List Char} (first : Escaped before) (later : Escaped after) :
    Escaped (before ++ after) := by
  intro front rest split
  rcases List.append_eq_append_iff.1 split with ⟨middle, same, below⟩ | ⟨middle, same, below⟩
  · exact later middle rest below
  · cases middle with
    | nil => exact later [] rest below.symm
    | cons c middle =>
      obtain ⟨rfl, rfl⟩ := List.cons.inj below
      obtain ⟨word, member, found⟩ := first front middle same
      exact ⟨word, member, found.trans (List.prefix_append ('&' :: middle) after)⟩

theorem escapedPlain {text : List Char} (plain : '&' ∉ text) : Escaped text := by
  intro before rest split
  rw [split] at plain
  exact absurd (List.mem_append_right before List.mem_cons_self) plain

theorem cleanOf {text : List Char} (lower : '<' ∉ text) (upper : '>' ∉ text)
    (escaped : Escaped text) : Clean text := by
  refine ⟨?_, escaped⟩
  simp only [List.forall_mem_cons]
  exact ⟨lower, upper, List.forall_mem_nil _⟩

theorem cleanAppend {before after : List Char} (first : Clean before) (later : Clean after) :
    Clean (before ++ after) := by
  refine ⟨?_, escapedAppend first.escaped later.escaped⟩
  intro c bracket member
  exact (List.mem_append.1 member).elim (first.brackets c bracket) (later.brackets c bracket)

theorem escapedFlatMap {α : Type} {write : α → List Char} {values : List α}
    (all : ∀ value ∈ values, Escaped (write value)) : Escaped (values.flatMap write) := by
  induction values with
  | nil => exact escapedPlain List.not_mem_nil
  | cons value rest ih =>
    obtain ⟨first, later⟩ := List.forall_mem_cons.1 all
    exact escapedAppend first (ih later)

namespace Markup

theorem escapedWord {word : String} (member : word ∈ replacements) : Escaped word.toList := by
  have single : ∀ word ∈ replacements,
      word.toList.head? = some '&' ∧ '&' ∉ word.toList.tail := by decide
  intro before rest split
  obtain ⟨head, others⟩ := single word member
  cases before with
  | nil => exact ⟨word, member, by rw [split]; exact List.prefix_rfl⟩
  | cons c before =>
    rw [split] at others
    exact absurd (List.mem_append_right before List.mem_cons_self) others

theorem escapeCases (c : Char) :
    (escape c = [c] ∧ c ≠ '&') ∨ ∃ word ∈ replacements, escape c = word.toList := by
  unfold escape
  split
  · exact .inr ⟨"&amp;", by decide, rfl⟩
  split
  · exact .inr ⟨"&lt;", by decide, rfl⟩
  split
  · exact .inr ⟨"&gt;", by decide, rfl⟩
  split
  · exact .inr ⟨"&quot;", by decide, rfl⟩
  split
  · exact .inr ⟨"&apos;", by decide, rfl⟩
  split
  · exact .inr ⟨"&#xd;", by decide, rfl⟩
  · rename_i other _ _ _ _ _
    exact .inl ⟨rfl, other⟩

theorem escapedEncode (text : List Char) : Escaped (encode text) := by
  apply escapedFlatMap
  intro c _
  rcases escapeCases c with ⟨same, other⟩ | ⟨word, member, same⟩
  · rw [same]
    exact escapedPlain (by simpa using other.symm)
  · rw [same]
    exact escapedWord member

theorem escapedName {name : String} (plain : isName name = true) : Escaped name.toList :=
  escapedPlain (notInName plain (by decide))

theorem escapedStart {name : String} {attributes : List (String × String)}
    (plain : isStart name attributes = true) : Escaped (startText name attributes) := by
  obtain ⟨named, keys⟩ := Bool.and_eq_true_iff.1 plain
  refine escapedAppend (escapedName named) (escapedFlatMap ?_)
  intro pair member
  have key := escapedName (List.all_eq_true.1 keys pair member)
  have value := escapedEncode pair.2.toList
  have shape : attributeText pair =
      [' '] ++ (pair.1.toList ++ (['=', '"'] ++ (encode pair.2.toList ++ ['"']))) := by
    simp [attributeText]
  rw [shape]
  exact escapedAppend (escapedPlain (by decide)) (escapedAppend key (escapedAppend
    (escapedPlain (by decide)) (escapedAppend value (escapedPlain (by decide)))))

theorem cleanStart {name : String} {attributes : List (String × String)}
    (plain : isStart name attributes = true) : Clean (startText name attributes) :=
  cleanOf (notInStart plain (.inl rfl)) (notInStart plain (.inr rfl)) (escapedStart plain)

theorem cleanSlash : Clean ['/'] := cleanOf (by decide) (by decide) (escapedPlain (by decide))

theorem typicalClean : Typical isStart fun tag => Clean tag.inside where
  start _ _ _ plain := cleanStart plain
  ending name _ _ plain := by
    have named := (Bool.and_eq_true_iff.1 plain).1
    exact cleanAppend cleanSlash
      (cleanOf (notInName named (by decide)) (notInName named (by decide)) (escapedName named))
  single _ _ _ plain := cleanAppend (cleanStart plain) cleanSlash

theorem cleanText (text : List Char) : Clean (encode text) :=
  cleanOf (notEncoded (by decide) text) (notEncoded (by decide) text) (escapedEncode text)

theorem cleanGap (level : Nat) : Clean ('\n' :: indent level) := by
  have blank : ∀ c, c ≠ ' ' → c ≠ '\n' → c ∉ '\n' :: indent level := by
    intro c other ended member
    rcases List.mem_cons.1 member with same | inside
    · exact ended same
    · exact other (List.eq_of_mem_replicate inside)
  exact cleanOf (blank '<' (by decide) (by decide)) (blank '>' (by decide) (by decide))
    (escapedPlain (blank '&' (by decide) (by decide)))

theorem startSpelled (name : String) (attributes : List (String × String)) :
    startText name attributes =
      Tag.spelled name (attributes.map fun pair => (pair.1, encode pair.2.toList)) := by
  rw [startText, Tag.spelled, List.flatMap_map]
  rfl

theorem spelledParts {name : String} {attributes : List (String × String)}
    (plain : isStart name attributes = true) :
    (∀ pair ∈ attributes.map fun pair => (pair.1, encode pair.2.toList),
      isName pair.1 = true) ∧
    ∀ pair ∈ attributes.map fun pair => (pair.1, encode pair.2.toList),
      ∀ c ∈ ['<', '>', '"'], c ∉ pair.2 := by
  rw [List.forall_mem_map, List.forall_mem_map]
  exact ⟨fun pair member => List.all_eq_true.1 (Bool.and_eq_true_iff.1 plain).2 pair member,
    fun pair _ c special => notEncoded special pair.2.toList⟩

theorem typicalFormed : Typical isStart Tag.Formed where
  start _ _ _ plain := by
    rw [startSpelled]
    exact .start (Bool.and_eq_true_iff.1 plain).1 (spelledParts plain).1 (spelledParts plain).2
  ending _ _ _ plain := .ending (Bool.and_eq_true_iff.1 plain).1
  single _ _ _ plain := by
    rw [startSpelled]
    exact .single (Bool.and_eq_true_iff.1 plain).1 (spelledParts plain).1 (spelledParts plain).2

mutual
theorem tagsClean (element : Markup) (level : Nat) {gap : List Char} (last : Clean ('\n' :: gap)) :
    ∀ tag ∈ element.tags level gap, Clean tag.after := by
  match element with
  | .branch name attributes children =>
    have inner := tagsAllClean children (level + 1) (cleanGap level)
    have first : Clean ('\n' :: gapBefore (level + 1) (indent level) children) := by
      cases children with
      | nil => exact cleanGap level
      | cons child rest => exact cleanGap (level + 1)
    rw [tags, List.forall_mem_cons, List.forall_mem_append, List.forall_mem_singleton]
    exact ⟨first, inner, last⟩
  | .leaf name attributes content =>
    rw [tags, List.forall_mem_cons, List.forall_mem_singleton]
    exact ⟨cleanText content.toList, last⟩
  | .single name attributes =>
    rw [tags, List.forall_mem_singleton]
    exact last

theorem tagsAllClean (elements : List Markup) (level : Nat) {gap : List Char}
    (last : Clean ('\n' :: gap)) : ∀ tag ∈ tagsAll level gap elements, Clean tag.after := by
  match elements with
  | [] => exact List.forall_mem_nil _
  | child :: rest =>
    have next : Clean ('\n' :: gapBefore level gap rest) := by
      cases rest with
      | nil => exact last
      | cons other others => exact cleanGap level
    rw [tagsAll, List.forall_mem_append]
    exact ⟨tagsClean child level next, tagsAllClean rest level last⟩
end

theorem startRole {name : String} {attributes : List (String × String)}
    (plain : isStart name attributes = true) (after : List Char) :
    Tag.isEnd ⟨startText name attributes, after⟩ = false ∧
      Tag.isSingle ⟨startText name attributes, after⟩ = false := by
  have named := (Bool.and_eq_true_iff.1 plain).1
  have slash := notInName named (c := '/') (by decide)
  have filled : name.toList ≠ [] := by
    intro none
    simp [isName, none] at named
  constructor
  · obtain ⟨first, rest, letters⟩ := List.exists_cons_of_ne_nil filled
    rw [letters] at slash
    simpa [Tag.isEnd, startText, letters] using fun same : first = '/' =>
      slash (same ▸ List.mem_cons_self)
  · rcases List.eq_nil_or_concat attributes with rfl | ⟨before, pair, rfl⟩
    · simpa [Tag.isSingle, startText] using fun last => slash (List.mem_of_getLast? last)
    · have shape : startText name (before ++ [pair]) =
          startText name before ++ (' ' :: pair.1.toList ++ '=' :: '"' :: encode pair.2.toList) ++
            ['"'] := by
        simp [startText, attributeText]
      rw [Tag.isSingle, List.concat_eq_append, shape, List.getLast?_concat]
      decide

theorem singleRole {name : String} {attributes : List (String × String)}
    (plain : isStart name attributes = true) (after : List Char) :
    Tag.isEnd ⟨startText name attributes ++ ['/'], after⟩ = false ∧
      Tag.isSingle ⟨startText name attributes ++ ['/'], after⟩ = true := by
  have begun := (startRole plain after).1
  refine ⟨?_, by simp [Tag.isSingle]⟩
  rw [Tag.isEnd] at begun ⊢
  cases letters : startText name attributes with
  | nil =>
    have none := (List.append_eq_nil_iff.1 letters).1
    simp [isStart, isName, none] at plain
  | cons c rest =>
    rw [letters] at begun
    exact begun

/- The tags of an element close all that they open, so a reader that has passed them has the same
elements open as before. -/
mutual
theorem nestedTags (element : Markup) (level : Nat) (gap : List Char)
    (named : element.every isStart = true) (above : List String) (rest : List Tag) :
    nested above (element.tags level gap ++ rest) = nested above rest := by
  match element with
  | .branch name attributes children =>
    obtain ⟨start, below⟩ := Bool.and_eq_true_iff.1 named
    obtain ⟨notEnd, notSingle⟩ :=
      startRole start ('\n' :: gapBefore (level + 1) (indent level) children)
    rw [tags, List.cons_append, nestedStart notEnd notSingle, startName start, List.append_assoc,
      nestedAll children (level + 1) (indent level) below]
    exact nestedEnd name ('\n' :: gap) above rest
  | .leaf name attributes content =>
    obtain ⟨notEnd, notSingle⟩ := startRole named (encode content.toList)
    rw [tags, List.cons_append, nestedStart notEnd notSingle, startName named]
    exact nestedEnd name ('\n' :: gap) above rest
  | .single name attributes =>
    obtain ⟨notEnd, single⟩ := singleRole named ('\n' :: gap)
    rw [tags, List.singleton_append, nestedSingle notEnd single]

theorem nestedAll (elements : List Markup) (level : Nat) (gap : List Char)
    (named : everyOf isStart elements = true) (above : List String) (rest : List Tag) :
    nested above (tagsAll level gap elements ++ rest) = nested above rest := by
  match elements with
  | [] => rfl
  | child :: others =>
    obtain ⟨first, later⟩ := Bool.and_eq_true_iff.1 named
    rw [tagsAll, List.append_assoc, nestedTags child level (gapBefore level gap others) first,
      nestedAll others level gap later]
end

theorem tagsText {root : Markup} (named : root.every isStart = true) :
    root.document.toList = (declarationTag :: root.tags 0 []).flatMap Tag.text := by
  have cut : splitAt '<' (root.opened 0 ++ []) = (root.tags 0 []).map Tag.piece ++ [] :=
    cutOpened root 0 named rfl
  rw [List.append_nil, List.append_nil] at cut
  have whole := splitAtText '<' (root.opened 0)
  rw [cut, List.flatMap_map] at whole
  rw [document, String.toList_ofList, printCharsOpened, declarationPiece, List.flatMap_cons]
  exact congrArg (declarationTag.text ++ ·) whole.symm

theorem escapedTag {tag : Tag} (inside : Clean tag.inside) (after : Clean tag.after) :
    Escaped tag.text := by
  have shape : tag.text = ['<'] ++ (tag.inside ++ (['>'] ++ tag.after)) := rfl
  rw [shape]
  exact escapedAppend (escapedPlain (by decide)) (escapedAppend inside.escaped
    (escapedAppend (escapedPlain (by decide)) after.escaped))

theorem orderly {root : Markup} (named : root.every isStart = true) :
    Orderly root.document.toList := by
  have read : (readTags root.document.toList).drop 1 = root.tags 0 [] := by
    rw [readDocument named]
    rfl
  have whole := tagsText named
  have ending : Clean ['\n'] := cleanOf (by decide) (by decide) (escapedPlain (by decide))
  have clean : ∀ tag ∈ root.tags 0 [], Clean tag.inside ∧ Clean tag.after := fun tag member =>
    ⟨tagsTypical typicalClean root 0 [] named tag member, tagsClean root 0 ending tag member⟩
  have closed := nestedTags root 0 [] named [] []
  rw [List.append_nil] at closed
  constructor
  · rw [read]
    exact whole
  · rw [read]
    exact tagsTypical typicalFormed root 0 [] named
  · rw [read]
    exact clean
  · rw [read]
    exact closed
  · rw [whole]
    apply escapedFlatMap
    rw [List.forall_mem_cons]
    exact ⟨escapedPlain (by decide), fun tag member => escapedTag (clean tag member).1
      (clean tag member).2⟩

def between (start : List Char) : List String → List Char → List (List Char)
  | [], tail => [start ++ tail]
  | key :: rest, tail => (start ++ ' ' :: key.toList ++ ['=']) :: between [] rest tail

mutual
def outline : Markup → List (List (List Char))
  | branch name attributes children =>
    between name.toList (attributes.map Prod.fst) [] ::
      (outlineAll children ++ [['/' :: name.toList]])
  | leaf name attributes _ =>
    [between name.toList (attributes.map Prod.fst) [], ['/' :: name.toList]]
  | single name attributes => [between name.toList (attributes.map Prod.fst) ['/']]

def outlineAll : List Markup → List (List (List Char))
  | [] => []
  | child :: rest => outline child ++ outlineAll rest
end

theorem outlineAllAppend (before after : List Markup) :
    outlineAll (before ++ after) = outlineAll before ++ outlineAll after := by
  induction before with
  | nil => rfl
  | cons child rest ih => rw [List.cons_append, outlineAll, ih, outlineAll, List.append_assoc]

theorem outerStart {attributes : List (String × String)}
    (keys : attributes.all (fun (key, _) => isName key) = true) {start tail : List Char}
    (before : '"' ∉ start) (after : '"' ∉ tail) :
    Tag.outer (splitAt '"' (start ++ (attributes.flatMap attributeText ++ tail))) =
      between start (attributes.map Prod.fst) tail := by
  induction attributes generalizing start with
  | nil =>
    rw [List.flatMap_nil, List.nil_append, splitAtWhole (by simp [before, after])]
    rfl
  | cons pair rest ih =>
    obtain ⟨key, others⟩ := Bool.and_eq_true_iff.1 keys
    have named := notInName key (c := '"') (by decide)
    have later := ih others List.not_mem_nil
    have shape : start ++ ((pair :: rest).flatMap attributeText ++ tail) =
        (start ++ ' ' :: pair.1.toList ++ ['=']) ++ '"' :: (encode pair.2.toList ++
          '"' :: ([] ++ (rest.flatMap attributeText ++ tail))) := by
      simp [attributeText]
    rw [shape, splitAtAppend, splitAtAppend, splitAtWhole (by simp [before, named]),
      splitAtWhole (notEncoded (by decide) pair.2.toList)]
    exact congrArg (_ :: ·) later

theorem startOutside {name : String} {attributes : List (String × String)}
    (plain : isStart name attributes = true) {tail : List Char} (clean : '"' ∉ tail)
    (after : List Char) :
    Tag.outside ⟨startText name attributes ++ tail, after⟩ =
      between name.toList (attributes.map Prod.fst) tail := by
  obtain ⟨named, keys⟩ := Bool.and_eq_true_iff.1 plain
  rw [Tag.outside, startText, List.append_assoc]
  exact outerStart keys (notInName named (by decide)) clean

theorem endOutside {name : String} (plain : isName name = true) (after : List Char) :
    Tag.outside ⟨'/' :: name.toList, after⟩ = ['/' :: name.toList] := by
  have clean : '"' ∉ '/' :: name.toList := by simp [notInName plain (c := '"') (by decide)]
  rw [Tag.outside, splitAtWhole clean]
  rfl

mutual
theorem tagsOutline (element : Markup) (level : Nat) (gap : List Char)
    (named : element.every isStart = true) :
    (element.tags level gap).map Tag.outside = element.outline := by
  match element with
  | .branch name attributes children =>
    obtain ⟨start, below⟩ := Bool.and_eq_true_iff.1 named
    have first := startOutside start List.not_mem_nil
      ('\n' :: gapBefore (level + 1) (indent level) children)
    rw [List.append_nil] at first
    rw [tags, List.map_cons, List.map_append, List.map_singleton, first,
      tagsAllOutline children (level + 1) (indent level) below,
      endOutside (Bool.and_eq_true_iff.1 start).1]
    rfl
  | .leaf name attributes content =>
    have first := startOutside named List.not_mem_nil (encode content.toList)
    rw [List.append_nil] at first
    rw [tags, List.map_cons, List.map_singleton, first, endOutside (Bool.and_eq_true_iff.1 named).1]
    rfl
  | .single name attributes =>
    rw [tags, List.map_singleton, startOutside named (by decide)]
    rfl

theorem tagsAllOutline (elements : List Markup) (level : Nat) (gap : List Char)
    (named : everyOf isStart elements = true) :
    (tagsAll level gap elements).map Tag.outside = outlineAll elements := by
  match elements with
  | [] => rfl
  | child :: rest =>
    obtain ⟨first, later⟩ := Bool.and_eq_true_iff.1 named
    rw [tagsAll, List.map_append, tagsOutline child level (gapBefore level gap rest) first,
      tagsAllOutline rest level gap later, outlineAll]
end

theorem documentOutline {root : Markup} (named : root.every isStart = true) :
    (readTags root.document.toList).map Tag.outside = declarationTag.outside :: root.outline := by
  rw [readDocument named, List.map_cons, tagsOutline root 0 [] named]

theorem outlineMap {α : Type} (element : α → Markup)
    (alike : ∀ first second, (element first).outline = (element second).outline)
    {values others : List α} (same : values.length = others.length) :
    outlineAll (values.map element) = outlineAll (others.map element) := by
  induction values generalizing others with
  | nil => rw [List.eq_nil_of_length_eq_zero same.symm]
  | cons value rest ih =>
    cases others with
    | nil => contradiction
    | cons other others =>
      rw [List.map_cons, List.map_cons, outlineAll, outlineAll, alike value other,
        ih (Nat.succ.inj same)]

end Markup

end RequestSuite.Text
