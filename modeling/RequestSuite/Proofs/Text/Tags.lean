import RequestSuite.Proofs.Text.Cuts
import RequestSuite.Text.Markup

/-! Printed documents read back as rows of tags, each with the text up to the next one. The reader
knows nothing of the printer: it cuts at the brackets of tags. That it finds exactly the tags that
were printed rests on the names being plain and on all other text being escaped. -/
namespace RequestSuite.Text

structure Tag where
  inside : List Char
  after : List Char
  deriving DecidableEq, Repr

namespace Tag

def ofPiece (piece : List Char) : Tag :=
  ⟨piece.takeWhile (· ≠ '>'), (piece.dropWhile (· ≠ '>')).drop 1⟩

def piece (tag : Tag) : List Char := tag.inside ++ '>' :: tag.after

def element (tag : Tag) : String := String.ofList (tag.inside.takeWhile Char.isAlphanum)

def Ends (tag : Tag) (name : String) : Prop := tag.inside = '/' :: name.toList

instance (tag : Tag) (name : String) : Decidable (tag.Ends name) := by
  unfold Ends
  infer_instance

def Avoids (words : List String) (tag : Tag) : Prop :=
  tag.element ∉ words ∧ ∀ word ∈ words, ¬ tag.Ends word

theorem ofPiecePiece {tag : Tag} (closed : '>' ∉ tag.inside) : ofPiece tag.piece = tag := by
  have before : ∀ c ∈ tag.inside, decide (c ≠ '>') = true := by
    intro c member
    exact decide_eq_true fun same => closed (same ▸ member)
  rw [ofPiece, piece, List.takeWhile_append_of_pos before, List.dropWhile_append_of_pos before]
  simp

end Tag

def readTags (document : List Char) : List Tag :=
  ((splitAt '<' document).drop 1).map Tag.ofPiece

theorem splitAtPrefix {separator : Char} {before text gap : List Char} {pieces : List (List Char)}
    (absent : separator ∉ before) (cut : splitAt separator text = gap :: pieces) :
    splitAt separator (before ++ text) = (before ++ gap) :: pieces := by
  induction before with
  | nil => exact cut
  | cons c rest ih =>
    obtain ⟨other, later⟩ := not_or.1 (List.mem_cons.not.1 absent)
    rw [List.cons_append, splitAt, if_neg (Ne.symm other), ih later]
    rfl

namespace Markup

def isName (name : String) : Bool := !name.toList.isEmpty && name.toList.all Char.isAlphanum

def isStart (name : String) (attributes : List (String × String)) : Bool :=
  isName name && attributes.all fun (key, _) => isName key

mutual
def every (fits : String → List (String × String) → Bool) : Markup → Bool
  | branch name attributes children => fits name attributes && everyOf fits children
  | leaf name attributes _ => fits name attributes
  | single name attributes => fits name attributes

def everyOf (fits : String → List (String × String) → Bool) : List Markup → Bool
  | [] => true
  | child :: rest => every fits child && everyOf fits rest
end

theorem everyOfAppend (fits : String → List (String × String) → Bool)
    (before after : List Markup) :
    everyOf fits (before ++ after) = (everyOf fits before && everyOf fits after) := by
  induction before with
  | nil => rfl
  | cons child rest ih => rw [List.cons_append, everyOf, everyOf, ih, Bool.and_assoc]

theorem everyOfFlatMap {α : Type} {fits : String → List (String × String) → Bool}
    {elements : α → List Markup} (all : ∀ a, everyOf fits (elements a) = true)
    (values : List α) : everyOf fits (values.flatMap elements) = true := by
  induction values with
  | nil => rfl
  | cons value rest ih => rw [List.flatMap_cons, everyOfAppend, all, ih]; rfl

theorem everyOfMap {α : Type} {fits : String → List (String × String) → Bool}
    {element : α → Markup} (all : ∀ a, (element a).every fits = true) (values : List α) :
    everyOf fits (values.map element) = true := by
  induction values with
  | nil => rfl
  | cons value rest ih => rw [List.map_cons, everyOf, all, ih]; rfl

mutual
theorem everyWeaker {fits others : String → List (String × String) → Bool}
    (weaker : ∀ name attributes, fits name attributes = true → others name attributes = true)
    (element : Markup) (all : element.every fits = true) : element.every others = true := by
  match element with
  | .branch name attributes children =>
    obtain ⟨here, below⟩ := Bool.and_eq_true_iff.1 all
    exact Bool.and_eq_true_iff.2 ⟨weaker name attributes here, everyOfWeaker weaker children below⟩
  | .leaf name attributes _ => exact weaker name attributes all
  | .single name attributes => exact weaker name attributes all

theorem everyOfWeaker {fits others : String → List (String × String) → Bool}
    (weaker : ∀ name attributes, fits name attributes = true → others name attributes = true)
    (elements : List Markup) (all : everyOf fits elements = true) :
    everyOf others elements = true := by
  match elements with
  | [] => rfl
  | child :: rest =>
    obtain ⟨first, later⟩ := Bool.and_eq_true_iff.1 all
    exact Bool.and_eq_true_iff.2 ⟨everyWeaker weaker child first, everyOfWeaker weaker rest later⟩
end

theorem nameLetters {name : String} (plain : isName name = true) :
    ∀ c ∈ name.toList, c.isAlphanum = true :=
  List.all_eq_true.1 (Bool.and_eq_true_iff.1 plain).2

theorem notInName {name : String} (plain : isName name = true) {c : Char}
    (special : c.isAlphanum = false) : c ∉ name.toList := by
  intro member
  have letter := nameLetters plain c member
  rw [special] at letter
  contradiction

def replacements : List String := ["&amp;", "&lt;", "&gt;", "&quot;", "&apos;", "&#xd;"]

theorem notReplacement {c : Char} (special : c ∈ ['<', '>', '"']) {word : String}
    (member : word ∈ replacements) : c ∉ word.toList := by
  have clean : (replacements.all fun word =>
      word.toList.all fun d => !(['<', '>', '"'].contains d)) = true := by decide
  intro inside
  have other := List.all_eq_true.1 (List.all_eq_true.1 clean word member) c inside
  rw [List.contains_iff_mem.2 special] at other
  contradiction

theorem notEscaped {c : Char} (special : c ∈ ['<', '>', '"']) (other : Char) :
    c ∉ escape other := by
  unfold escape
  split
  · exact notReplacement special (by decide : "&amp;" ∈ replacements)
  split
  · exact notReplacement special (by decide : "&lt;" ∈ replacements)
  split
  · exact notReplacement special (by decide : "&gt;" ∈ replacements)
  split
  · exact notReplacement special (by decide : "&quot;" ∈ replacements)
  split
  · exact notReplacement special (by decide : "&apos;" ∈ replacements)
  split
  · exact notReplacement special (by decide : "&#xd;" ∈ replacements)
  · rename_i notLess notMore notQuote notSingle notReturn
    intro member
    rw [List.mem_singleton.1 member] at special
    simp [notLess, notMore, notQuote] at special

theorem notEncoded {c : Char} (special : c ∈ ['<', '>', '"']) (text : List Char) :
    c ∉ encode text := by
  intro member
  obtain ⟨other, -, inside⟩ := List.mem_flatMap.1 member
  exact notEscaped special other inside

theorem escapeLetter {c : Char} (letter : c.isAlphanum = true) : escape c = [c] := by
  have other : ∀ d : Char, d.isAlphanum = false → c ≠ d := by
    intro d special same
    rw [same, special] at letter
    contradiction
  unfold escape
  rw [if_neg (other '&' (by decide)), if_neg (other '<' (by decide)),
    if_neg (other '>' (by decide)), if_neg (other '"' (by decide)),
    if_neg (other '\x27' (by decide)), if_neg (other '\r' (by decide))]

theorem encodeLetters {text : List Char} (letters : ∀ c ∈ text, c.isAlphanum = true) :
    encode text = text := by
  have same : ∀ c ∈ text, escape c = [c] := fun c member => escapeLetter (letters c member)
  rw [encode, List.flatMap_congr same, List.flatMap_singleton']

def startText (name : String) (attributes : List (String × String)) : List Char :=
  name.toList ++ attributes.flatMap attributeText

theorem notInAttribute {pair : String × String} (plain : isName pair.1 = true) {c : Char}
    (bracket : c = '<' ∨ c = '>') : c ∉ attributeText pair := by
  have name : c ∉ pair.1.toList :=
    notInName plain (by rcases bracket with rfl | rfl <;> decide)
  have value : c ∉ encode pair.2.toList :=
    notEncoded (by rcases bracket with rfl | rfl <;> decide) pair.2.toList
  have other : c ≠ ' ' ∧ c ≠ '=' ∧ c ≠ '"' := by rcases bracket with rfl | rfl <;> decide
  simp [attributeText, name, value, other]

theorem notInStart {name : String} {attributes : List (String × String)}
    (plain : isStart name attributes = true) {c : Char} (bracket : c = '<' ∨ c = '>') :
    c ∉ startText name attributes := by
  obtain ⟨first, names⟩ := Bool.and_eq_true_iff.1 plain
  intro member
  rcases List.mem_append.1 member with inName | inAttributes
  · exact notInName first (by rcases bracket with rfl | rfl <;> decide) inName
  · obtain ⟨pair, found, inside⟩ := List.mem_flatMap.1 inAttributes
    exact notInAttribute (List.all_eq_true.1 names pair found) bracket inside

theorem notInIndent (level : Nat) : '<' ∉ indent level := by
  intro member
  exact absurd (List.eq_of_mem_replicate member) (by decide)

def opened (level : Nat) : Markup → List Char
  | branch name attributes children =>
    startText name attributes ++ '>' :: '\n' :: printAll (level + 1) children ++ indent level ++
      endTag name
  | leaf name attributes text =>
    startText name attributes ++ '>' :: encode text.toList ++ endTag name
  | single name attributes => startText name attributes ++ ['/', '>', '\n']

theorem printCharsOpened (level : Nat) (element : Markup) :
    element.printChars level = indent level ++ '<' :: element.opened level := by
  cases element <;> simp [printChars, tagText, opened, startText]

def gapBefore (level : Nat) (gap : List Char) : List Markup → List Char
  | [] => gap
  | _ :: _ => indent level

mutual
def tags (level : Nat) (gap : List Char) : Markup → List Tag
  | branch name attributes children =>
    ⟨startText name attributes, '\n' :: gapBefore (level + 1) (indent level) children⟩ ::
      (tagsAll (level + 1) (indent level) children ++ [⟨'/' :: name.toList, '\n' :: gap⟩])
  | leaf name attributes text =>
    [⟨startText name attributes, encode text.toList⟩, ⟨'/' :: name.toList, '\n' :: gap⟩]
  | single name attributes => [⟨startText name attributes ++ ['/'], '\n' :: gap⟩]

def tagsAll (level : Nat) (gap : List Char) : List Markup → List Tag
  | [] => []
  | child :: rest => tags level (gapBefore level gap rest) child ++ tagsAll level gap rest
end

theorem cutEnd {name : String} (plain : isName name = true) {text gap : List Char}
    {pieces : List (List Char)} (cut : splitAt '<' text = gap :: pieces) (before : List Char)
    (absent : '<' ∉ before) :
    splitAt '<' (before ++ endTag name ++ text) =
      before :: Tag.piece ⟨'/' :: name.toList, '\n' :: gap⟩ :: pieces := by
  have inTag : '<' ∉ '/' :: name.toList ++ ['>', '\n'] := by
    simp [notInName plain (c := '<') (by decide)]
  have after := splitAtPrefix inTag cut
  have shape : before ++ endTag name ++ text =
      before ++ '<' :: ('/' :: name.toList ++ ['>', '\n'] ++ text) := by simp [endTag]
  rw [shape, splitAtAppend, splitAtWhole absent, after]
  simp [Tag.piece]

theorem cutStart {name : String} {attributes : List (String × String)}
    (plain : isStart name attributes = true) (inside : List Char) {text gap : List Char}
    {pieces : List (List Char)} (clean : '<' ∉ inside)
    (cut : splitAt '<' text = gap :: pieces) :
    splitAt '<' (startText name attributes ++ '>' :: inside ++ text) =
      Tag.piece ⟨startText name attributes, inside ++ gap⟩ :: pieces := by
  have absent : '<' ∉ startText name attributes ++ '>' :: inside := by
    simp [notInStart plain (Or.inl rfl), clean]
  rw [splitAtPrefix absent cut]
  simp [Tag.piece]

mutual
theorem cutOpened (element : Markup) (level : Nat) (named : element.every isStart = true)
    {text gap : List Char} {pieces : List (List Char)} (cut : splitAt '<' text = gap :: pieces) :
    splitAt '<' (element.opened level ++ text) =
      (element.tags level gap).map Tag.piece ++ pieces := by
  match element with
  | .branch name attributes children =>
    obtain ⟨start, names⟩ := Bool.and_eq_true_iff.1 named
    have close := cutEnd (Bool.and_eq_true_iff.1 start).1 cut _ (notInIndent level)
    have below := cutAll children (level + 1) names close
    have whole := cutStart start ['\n'] (by decide) below
    simpa [opened, tags] using whole
  | .leaf name attributes content =>
    have close := cutEnd (Bool.and_eq_true_iff.1 named).1 cut (encode content.toList)
      (notEncoded (by decide) content.toList)
    have whole := cutStart named [] (by decide) close
    simpa [opened, tags] using whole
  | .single name attributes =>
    have absent : '<' ∉ startText name attributes ++ ['/', '>', '\n'] := by
      simp [notInStart named (Or.inl rfl)]
    have whole := splitAtPrefix absent cut
    simpa [opened, tags, Tag.piece] using whole

theorem cutAll (elements : List Markup) (level : Nat) (named : everyOf isStart elements = true)
    {text gap : List Char} {pieces : List (List Char)} (cut : splitAt '<' text = gap :: pieces) :
    splitAt '<' (printAll level elements ++ text) =
      gapBefore level gap elements :: ((tagsAll level gap elements).map Tag.piece ++ pieces) := by
  match elements with
  | [] => exact cut
  | child :: rest =>
    obtain ⟨first, names⟩ := Bool.and_eq_true_iff.1 named
    have later := cutAll rest level names cut
    have here := cutOpened child level first later
    have shape : printAll level (child :: rest) ++ text =
        indent level ++ '<' :: (child.opened level ++ (printAll level rest ++ text)) := by
      rw [printAll, printCharsOpened]
      simp
    rw [shape, splitAtAppend, splitAtWhole (notInIndent level), here]
    simp [gapBefore, tagsAll]
end

theorem tagsAllAppend (level : Nat) (gap : List Char) (before after : List Markup) :
    tagsAll level gap (before ++ after) =
      tagsAll level (gapBefore level gap after) before ++ tagsAll level gap after := by
  induction before with
  | nil => rfl
  | cons child rest ih =>
    have next : gapBefore level gap (rest ++ after) =
        gapBefore level (gapBefore level gap after) rest := by cases rest <;> rfl
    rw [List.cons_append, tagsAll, ih, next, tagsAll, List.append_assoc]

theorem tagsBranch (level : Nat) (gap : List Char) (name : String)
    (attributes : List (String × String)) (children : List Markup) (rest : List Tag) :
    tagsAll level gap [.branch name attributes children] ++ rest =
      ⟨startText name attributes, '\n' :: gapBefore (level + 1) (indent level) children⟩ ::
        (tagsAll (level + 1) (indent level) children ++
          ⟨'/' :: name.toList, '\n' :: gap⟩ :: rest) := by
  simp [tagsAll, tags, gapBefore]

structure Typical (fits : String → List (String × String) → Bool) (holds : Tag → Prop) : Prop where
  start : ∀ name attributes after, fits name attributes = true →
    holds ⟨startText name attributes, after⟩
  ending : ∀ name attributes after, fits name attributes = true →
    holds ⟨'/' :: name.toList, after⟩
  single : ∀ name attributes after, fits name attributes = true →
    holds ⟨startText name attributes ++ ['/'], after⟩

mutual
theorem tagsTypical {fits : String → List (String × String) → Bool} {holds : Tag → Prop}
    (typical : Typical fits holds) (element : Markup) (level : Nat) (gap : List Char)
    (all : element.every fits = true) : ∀ tag ∈ element.tags level gap, holds tag := by
  match element with
  | .branch name attributes children =>
    obtain ⟨here, below⟩ := Bool.and_eq_true_iff.1 all
    have inner := tagsAllTypical typical children (level + 1) (indent level) below
    rw [tags, List.forall_mem_cons, List.forall_mem_append, List.forall_mem_singleton]
    exact ⟨typical.start _ _ _ here, inner, typical.ending _ _ _ here⟩
  | .leaf name attributes content =>
    rw [tags, List.forall_mem_cons, List.forall_mem_singleton]
    exact ⟨typical.start _ _ _ all, typical.ending _ _ _ all⟩
  | .single name attributes =>
    rw [tags, List.forall_mem_singleton]
    exact typical.single _ _ _ all

theorem tagsAllTypical {fits : String → List (String × String) → Bool} {holds : Tag → Prop}
    (typical : Typical fits holds) (elements : List Markup) (level : Nat) (gap : List Char)
    (all : everyOf fits elements = true) : ∀ tag ∈ tagsAll level gap elements, holds tag := by
  match elements with
  | [] => exact List.forall_mem_nil _
  | child :: rest =>
    obtain ⟨first, later⟩ := Bool.and_eq_true_iff.1 all
    rw [tagsAll, List.forall_mem_append]
    exact ⟨tagsTypical typical child level (gapBefore level gap rest) first,
      tagsAllTypical typical rest level gap later⟩
end

theorem typicalClosed : Typical isStart fun tag => '>' ∉ tag.inside where
  start _ _ _ plain := notInStart plain (Or.inr rfl)
  ending name _ _ plain := by
    have closing := notInName (Bool.and_eq_true_iff.1 plain).1 (c := '>') (by decide)
    simp [closing]
  single _ _ _ plain := by simp [notInStart plain (Or.inr rfl)]

theorem endElement (letters after : List Char) : Tag.element ⟨'/' :: letters, after⟩ = "" := rfl

theorem startElement {name : String} {attributes : List (String × String)}
    (plain : isStart name attributes = true) (tail : List Char)
    (other : tail.takeWhile Char.isAlphanum = []) (after : List Char) :
    Tag.element ⟨startText name attributes ++ tail, after⟩ = name := by
  have letters := nameLetters (Bool.and_eq_true_iff.1 plain).1
  have rest : (attributes.flatMap attributeText ++ tail).takeWhile Char.isAlphanum = [] := by
    cases attributes with
    | nil => exact other
    | cons pair pairs => rfl
  rw [Tag.element, startText, List.append_assoc, List.takeWhile_append_of_pos letters, rest,
    List.append_nil, String.ofList_toList]

theorem startName {name : String} {attributes : List (String × String)}
    (plain : isStart name attributes = true) (after : List Char) :
    Tag.element ⟨startText name attributes, after⟩ = name := by
  have whole := startElement plain [] rfl after
  rwa [List.append_nil] at whole

theorem startNotEnds {name : String} {attributes : List (String × String)}
    (plain : isStart name attributes = true) (tail after : List Char) (word : String) :
    ¬ Tag.Ends ⟨startText name attributes ++ tail, after⟩ word := by
  have named := (Bool.and_eq_true_iff.1 plain).1
  have slash := notInName named (c := '/') (by decide)
  intro ends
  cases letters : name.toList with
  | nil => simp [isName, letters] at named
  | cons c rest =>
    rw [Tag.Ends, startText, letters] at ends
    rw [letters, (List.cons.inj ends).1] at slash
    exact slash List.mem_cons_self

def avoids (words : List String) (name : String) (attributes : List (String × String)) : Bool :=
  isStart name attributes && !words.contains name

theorem typicalAvoids (words : List String) (known : "" ∉ words) :
    Typical (avoids words) (Tag.Avoids words) := by
  have parts : ∀ {name attributes}, avoids words name attributes = true →
      isStart name attributes = true ∧ name ∉ words := by
    intro name attributes fits
    obtain ⟨plain, absent⟩ := Bool.and_eq_true_iff.1 fits
    exact ⟨plain, by simpa using absent⟩
  have begun : ∀ {name attributes} (tail after : List Char), avoids words name attributes = true →
      tail.takeWhile Char.isAlphanum = [] →
      Tag.Avoids words ⟨startText name attributes ++ tail, after⟩ := by
    intro name attributes tail after fits other
    obtain ⟨plain, absent⟩ := parts fits
    refine ⟨?_, fun word _ => startNotEnds plain tail after word⟩
    rw [startElement plain tail other]
    exact absent
  constructor
  · intro name attributes after fits
    have whole := begun [] after fits rfl
    rwa [List.append_nil] at whole
  · intro name attributes after fits
    refine ⟨known, ?_⟩
    intro word member same
    have equal : name = word := String.toList_inj.1 (List.cons.inj same).2
    exact (parts fits).2 (equal ▸ member)
  · intro name attributes after fits
    exact begun ['/'] after fits rfl

/- The tags of an element go up to the first one that ends an element of its name. -/
theorem takeInside {name : String} {tags : List Tag} (unended : ∀ tag ∈ tags, ¬ tag.Ends name)
    (after : List Char) (rest : List Tag) :
    ((tags ++ ⟨'/' :: name.toList, after⟩ :: rest).takeWhile fun next => ¬ next.Ends name) =
      tags := by
  have inside : ∀ tag ∈ tags, decide (¬ tag.Ends name) = true :=
    fun tag member => decide_eq_true (unended tag member)
  have ended : Tag.Ends ⟨'/' :: name.toList, after⟩ name := rfl
  rw [List.takeWhile_append_of_pos inside, List.takeWhile_cons_of_neg (by simp [ended]),
    List.append_nil]

section
variable {α : Type} {read : List Tag → List α} {fits : String → List (String × String) → Bool}

def Finds (read : List Tag → List α) (elements : List Markup) (found : List α) : Prop :=
  ∀ level gap rest, read (tagsAll level gap elements ++ rest) = found ++ read rest

theorem readPasses {tags : List Tag} (skips : ∀ tag ∈ tags, ∀ rest, read (tag :: rest) = read rest)
    (rest : List Tag) : read (tags ++ rest) = read rest := by
  induction tags with
  | nil => rfl
  | cons tag tags ih =>
    obtain ⟨first, later⟩ := List.forall_mem_cons.1 skips
    rw [List.cons_append, first]
    exact ih later

theorem findsNothing (skips : Typical fits fun tag => ∀ rest, read (tag :: rest) = read rest)
    {elements : List Markup} (other : everyOf fits elements = true) : Finds read elements [] :=
  fun level gap rest => readPasses (tagsAllTypical skips elements level gap other) rest

theorem findsAppend {before after : List Markup} {first later : List α}
    (findsBefore : Finds read before first) (findsAfter : Finds read after later) :
    Finds read (before ++ after) (first ++ later) := by
  intro level gap rest
  rw [tagsAllAppend, List.append_assoc, findsBefore, findsAfter, List.append_assoc]

theorem findsBranch (skips : Typical fits fun tag => ∀ rest, read (tag :: rest) = read rest)
    {name : String} {attributes : List (String × String)} {children : List Markup} {found : List α}
    (other : fits name attributes = true) (below : Finds read children found) :
    Finds read [.branch name attributes children] found := by
  intro level gap rest
  rw [tagsBranch, skips.start _ _ _ other, below, skips.ending _ _ _ other]

end

def declarationTag : Tag := ⟨"?xml version=\"1.0\" encoding=\"UTF-8\"?".toList, ['\n']⟩

theorem declarationPiece : declaration = '<' :: declarationTag.piece := by decide

theorem readDocument {root : Markup} (named : root.every isStart = true) :
    readTags root.document.toList = declarationTag :: root.tags 0 [] := by
  have cut : splitAt '<' (root.opened 0 ++ []) = (root.tags 0 []).map Tag.piece ++ [] :=
    cutOpened root 0 named rfl
  rw [List.append_nil] at cut
  have shape : root.document.toList =
      [] ++ '<' :: (declarationTag.piece ++ '<' :: root.opened 0) := by
    rw [document, String.toList_ofList, printCharsOpened, declarationPiece]
    rfl
  have first : splitAt '<' declarationTag.piece = [declarationTag.piece] :=
    splitAtWhole (by decide)
  have tagged : ∀ tag ∈ declarationTag :: root.tags 0 [], Tag.ofPiece tag.piece = tag := by
    have closed := tagsTypical typicalClosed root 0 [] named
    rw [List.forall_mem_cons]
    exact ⟨by decide, fun tag member => Tag.ofPiecePiece (closed tag member)⟩
  have pieces : (splitAt '<' root.document.toList).drop 1 =
      (declarationTag :: root.tags 0 []).map Tag.piece := by
    rw [shape, splitAtAppend, splitAtAppend, first, cut]
    exact congrArg (declarationTag.piece :: ·) (List.append_nil _)
  rw [readTags, pieces, List.map_map]
  exact (List.map_congr_left tagged).trans (List.map_id _)

end Markup

end RequestSuite.Text
