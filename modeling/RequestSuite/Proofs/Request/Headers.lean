import Mathlib.Data.List.Induction
import RequestSuite.Request.Resolved

/-! The headers of a request. Names that differ in the case of letters only are one name, which has
the place and the spelling of its first header and the value of its last. -/
namespace RequestSuite.Request
open Text Collection Variable

theorem resolvedParts {store : Store} {spec : Request} {request : Resolved}
    (resolved : resolve store spec = .ok request) :
    ∃ address, url store spec.url = .ok address ∧
      request = ⟨upperCase spec.method, address, headers store spec.headers,
        spec.body.bind (body store)⟩ := by
  unfold resolve at resolved
  cases found : url store spec.url with
  | error missing =>
    rw [found] at resolved
    contradiction
  | ok address =>
    rw [found] at resolved
    exact ⟨address, rfl, (Except.ok.inj resolved).symm⟩

theorem sameNameIff {a b : String} :
    sameName a b = true ↔ a.toList.map Char.toLower = b.toList.map Char.toLower := beq_iff_eq

theorem sameNameRefl (a : String) : sameName a a = true := sameNameIff.2 rfl

theorem sameNameSymm (a b : String) : sameName a b = sameName b a :=
  Bool.eq_iff_iff.2 (by rw [sameNameIff, sameNameIff]; exact eq_comm)

theorem sameNameCongr {a b : String} (same : sameName a b = true) (c : String) :
    sameName c a = sameName c b := by
  unfold sameName
  rw [sameNameIff.1 same]

def namesakes (name : String) (entries : List Entry) : List Entry :=
  entries.filter (sameName ·.key name)

def placeOf (entries : List Entry) (name : String) : Nat :=
  entries.findIdx (sameName ·.key name)

theorem namesakesCongr {a b : String} (same : sameName a b = true) (entries : List Entry) :
    namesakes a entries = namesakes b entries := by
  simp only [namesakes, sameNameCongr same]

theorem placeCongr {a b : String} (same : sameName a b = true) (entries : List Entry) :
    placeOf entries a = placeOf entries b := by
  simp only [placeOf, sameNameCongr same]

theorem namesakesLater (name : String) (entries : List Entry) (entry : Entry) :
    namesakes name (entries ++ [entry]) =
      namesakes name entries ++ if sameName entry.key name then [entry] else [] := by
  rw [namesakes, List.filter_append, List.filter_cons, List.filter_nil]
  rfl

theorem namesakesEmpty {name : String} {entries : List Entry} :
    namesakes name entries = [] ↔ entries.any (sameName ·.key name) = false := by
  rw [namesakes, List.filter_eq_nil_iff, List.any_eq_false]

theorem placeKnown {name : String} {entries : List Entry}
    (known : entries.any (sameName ·.key name) = true) (entry : Entry) :
    placeOf (entries ++ [entry]) name = placeOf entries name ∧
      placeOf entries name < entries.length := by
  have inside : placeOf entries name < entries.length :=
    List.findIdx_lt_length_of_exists (List.any_eq_true.1 known)
  refine ⟨?_, inside⟩
  rw [placeOf, List.findIdx_append]
  exact if_pos inside

theorem placeNew {entries : List Entry} {entry : Entry}
    (new : entries.any (sameName ·.key entry.key) = false) :
    placeOf (entries ++ [entry]) entry.key = entries.length := by
  have outside : entries.findIdx (sameName ·.key entry.key) = entries.length :=
    List.findIdx_eq_length.2 fun e member => Bool.eq_false_iff.2 (List.any_eq_false.1 new e member)
  rw [placeOf, List.findIdx_append, outside, if_neg (Nat.lt_irrefl _), List.findIdx_cons,
    sameNameRefl]
  exact Nat.zero_add _

theorem putHeaderNames (name value : String) (found : List (String × String)) :
    (putHeader name value found).map Prod.fst =
      found.map Prod.fst ++ if found.any (sameName ·.1 name) then [] else [name] := by
  induction found with
  | nil => rfl
  | cons header rest ih =>
    obtain ⟨other, old⟩ := header
    rw [putHeader, List.any_cons]
    by_cases same : sameName other name = true
    · simp [same]
    · rw [if_neg same, Bool.eq_false_iff.2 same, List.map_cons, ih, Bool.false_or]
      rfl

def Distinct (headers : List (String × String)) : Prop :=
  headers.Pairwise fun a b => sameName a.1 b.1 = false

theorem memPutHeader {name value : String} {found : List (String × String)}
    (distinct : Distinct found) {header : String × String}
    (member : header ∈ putHeader name value found) :
    (sameName header.1 name = false ∧ header ∈ found) ∨
      (sameName header.1 name = true ∧ header.2 = value) := by
  induction found with
  | nil =>
    rw [List.mem_singleton.1 member]
    exact .inr ⟨sameNameRefl name, rfl⟩
  | cons first rest ih =>
    obtain ⟨other, old⟩ := first
    obtain ⟨apart, later⟩ := List.pairwise_cons.1 distinct
    rw [putHeader] at member
    by_cases same : sameName other name = true
    · rw [if_pos same] at member
      obtain rfl | below := List.mem_cons.1 member
      · exact .inr ⟨same, rfl⟩
      · refine .inl ⟨?_, List.mem_cons_of_mem _ below⟩
        rw [← sameNameCongr same, sameNameSymm]
        exact apart header below
    · rw [if_neg same] at member
      obtain rfl | below := List.mem_cons.1 member
      · exact .inl ⟨Bool.eq_false_iff.2 same, List.mem_cons_self⟩
      · exact (ih later below).imp_left fun ⟨other, known⟩ => ⟨other, List.mem_cons_of_mem _ known⟩

/- What the headers are to the entries they are made of. Each name stands once, where its first
entry stands among the first entries and as it is spelled there, with the value of its last entry. -/
structure Gathers (value : Entry → String) (entries : List Entry)
    (headers : List (String × String)) : Prop where
  known : ∀ name, headers.any (sameName ·.1 name) = entries.any (sameName ·.key name)
  ordered : (headers.map Prod.fst).Pairwise fun a b => placeOf entries a < placeOf entries b
  spelled : ∀ name ∈ headers.map Prod.fst, ∃ first,
    (namesakes name entries).head? = some first ∧ first.key = name
  valued : ∀ header ∈ headers, ∃ last,
    (namesakes header.1 entries).getLast? = some last ∧ header.2 = value last

namespace Gathers

variable {value : Entry → String} {entries : List Entry} {headers : List (String × String)}

theorem nothing : Gathers value [] [] :=
  ⟨fun _ => rfl, .nil, nofun, nofun⟩

theorem distinct (gathers : Gathers value entries headers) : Distinct headers := by
  refine (List.pairwise_map.1 gathers.ordered).imp fun {a b} less => Bool.eq_false_iff.2 fun same => ?_
  rw [placeCongr same] at less
  exact Nat.lt_irrefl _ less

theorem knownName (gathers : Gathers value entries headers) {name : String}
    (member : name ∈ headers.map Prod.fst) : entries.any (sameName ·.key name) = true := by
  obtain ⟨header, inside, rfl⟩ := List.mem_map.1 member
  rw [← gathers.known]
  exact List.any_eq_true.2 ⟨header, inside, sameNameRefl _⟩

theorem knownNext (gathers : Gathers value entries headers) (entry : Entry) (name : String) :
    (putHeader entry.key (value entry) headers).any (sameName ·.1 name) =
      (entries ++ [entry]).any (sameName ·.key name) := by
  have onNames (found : List (String × String)) :
      found.any (sameName ·.1 name) = (found.map Prod.fst).any (sameName · name) := by
    rw [List.any_map]
    rfl
  rw [onNames, putHeaderNames, List.any_append, List.any_append, ← onNames, gathers.known,
    gathers.known]
  by_cases old : entries.any (sameName ·.key entry.key) = true
  · rw [if_pos old, List.any_nil, Bool.or_false]
    by_cases same : sameName entry.key name = true
    · simp only [sameNameCongr same] at old
      rw [old, Bool.true_or]
    · simp [same]
  · rw [if_neg old]
    rfl

theorem valuedNext (gathers : Gathers value entries headers) (entry : Entry) :
    ∀ header ∈ putHeader entry.key (value entry) headers, ∃ last,
      (namesakes header.1 (entries ++ [entry])).getLast? = some last ∧
        header.2 = value last := by
  intro header member
  obtain ⟨other, old⟩ | ⟨same, given⟩ := memPutHeader gathers.distinct member
  · obtain ⟨last, found, given⟩ := gathers.valued header old
    refine ⟨last, ?_, given⟩
    rw [namesakesLater, sameNameSymm, other, if_neg Bool.false_ne_true, List.append_nil, found]
  · refine ⟨entry, ?_, given⟩
    rw [namesakesLater, sameNameSymm, same, if_pos rfl, List.getLast?_concat]

theorem step (gathers : Gathers value entries headers) (entry : Entry) :
    Gathers value (entries ++ [entry]) (putHeader entry.key (value entry) headers) := by
  have names := putHeaderNames entry.key (value entry) headers
  rw [gathers.known] at names
  have kept {name : String} (member : name ∈ headers.map Prod.fst) :=
    placeKnown (gathers.knownName member) entry
  have ordered : (headers.map Prod.fst).Pairwise fun a b =>
      placeOf (entries ++ [entry]) a < placeOf (entries ++ [entry]) b := by
    refine gathers.ordered.imp_of_mem fun first later less => ?_
    rwa [(kept first).1, (kept later).1]
  have spelled : ∀ name ∈ headers.map Prod.fst, ∃ first,
      (namesakes name (entries ++ [entry])).head? = some first ∧ first.key = name := by
    intro name member
    obtain ⟨first, found, same⟩ := gathers.spelled name member
    refine ⟨first, ?_, same⟩
    rw [namesakesLater, List.head?_append, found]
    rfl
  by_cases old : entries.any (sameName ·.key entry.key) = true
  · rw [if_pos old, List.append_nil] at names
    rw [← names] at ordered spelled
    exact ⟨gathers.knownNext entry, ordered, spelled, gathers.valuedNext entry⟩
  · rw [if_neg old] at names
    have new := Bool.eq_false_iff.2 old
    refine ⟨gathers.knownNext entry, ?_, ?_, gathers.valuedNext entry⟩
    · rw [names]
      refine List.pairwise_append.2 ⟨ordered, List.pairwise_singleton _ _, ?_⟩
      intro name member other single
      rw [List.mem_singleton.1 single, placeNew new, (kept member).1]
      exact (kept member).2
    · rw [names]
      refine List.forall_mem_append.2 ⟨spelled, List.forall_mem_singleton.2 ⟨entry, ?_, rfl⟩⟩
      rw [namesakesLater, namesakesEmpty.2 new, sameNameRefl]
      rfl

theorem single (gathers : Gathers value entries headers) (name : String) :
    headers.countP (sameName ·.1 name) = if entries.any (sameName ·.key name) then 1 else 0 := by
  rw [← gathers.known]
  have distinct := gathers.distinct
  clear gathers
  induction headers with
  | nil => rfl
  | cons header rest ih =>
    obtain ⟨apart, later⟩ := List.pairwise_cons.1 distinct
    rw [List.countP_cons, List.any_cons, ih later]
    by_cases same : sameName header.1 name = true
    · have none : rest.any (sameName ·.1 name) = false := by
        refine List.any_eq_false.2 fun other member => Bool.eq_false_iff.1 ?_
        rw [← sameNameCongr same, sameNameSymm]
        exact apart other member
      rw [same, none]
      rfl
    · rw [Bool.eq_false_iff.2 same, Bool.false_or]
      rfl

theorem lookup (gathers : Gathers value entries headers) (name : String) :
    (headers.find? (sameName ·.1 name)).map Prod.snd =
      (namesakes name entries).getLast?.map value := by
  cases found : headers.find? (sameName ·.1 name) with
  | none =>
    have absent : headers.any (sameName ·.1 name) = false :=
      List.any_eq_false.2 (List.find?_eq_none.1 found)
    rw [gathers.known] at absent
    rw [namesakesEmpty.2 absent]
    rfl
  | some header =>
    obtain ⟨last, ends, given⟩ := gathers.valued header (List.mem_of_find?_eq_some found)
    have same := List.find?_some found
    rw [← namesakesCongr same, ends, Option.map_some, Option.map_some, given]

end Gathers

theorem headersGather (store : Store) (entries : List Entry) :
    Gathers (fun entry => store.substitute entry.text) (entries.filter Entry.isActive)
      (headers store entries) := by
  unfold headers
  induction entries.filter Entry.isActive using List.reverseRecOn with
  | nil => exact .nothing
  | append_singleton before entry ih =>
    rw [List.foldl_append]
    exact ih.step entry

theorem resolvedHeaders {store : Store} {spec : Request} {request : Resolved}
    (resolved : resolve store spec = .ok request) : request.headers = headers store spec.headers := by
  obtain ⟨address, -, parts⟩ := resolvedParts resolved
  rw [parts]

end RequestSuite.Request
