import RequestSuite.Template.Hole

/-! Holes that open the value of a query entry: a question mark or ampersand, a key, an equals sign
and the hole. These may have an empty name. -/
namespace RequestSuite.Template.QueryHole
open Text

structure Entry where
  separator : Char
  key : List Char
  inside : List Char
  deriving DecidableEq, Repr

def isKeyPart (c : Char) : Bool := c ≠ '&' && c ≠ '=' && c ≠ '#'

def entry : Finder Entry
  | c :: rest =>
    if c = '?' || c = '&' then
      let key := rest.takeWhile isKeyPart
      match rest.dropWhile isKeyPart with
      | '=' :: '{' :: '{' :: value =>
        if key.isEmpty then none
        else (beforeClose value).map fun (inside, after) => (⟨c, key, inside⟩, after)
      | _ => none
    else none
  | [] => none

def fillEntry (value : String → Option String) (e : Entry) : List Char :=
  e.separator :: e.key ++ '=' :: fill value e.inside

def resolve (value : String → Option String) (url : String) : String :=
  String.ofList (replaceHits entry (fillEntry value) url.toList)

end RequestSuite.Template.QueryHole
