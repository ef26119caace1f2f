/-! Documents of nested elements, printed one element a line with two spaces per level. Attribute
values and texts are escaped when they are printed, names are constants of the program. -/
namespace RequestSuite.Text

inductive Markup where
  | branch (name : String) (attributes : List (String × String)) (children : List Markup)
  | leaf (name : String) (attributes : List (String × String)) (text : String)
  | single (name : String) (attributes : List (String × String))
  deriving Repr, BEq

namespace Markup

def escape (c : Char) : List Char :=
  if c = '&' then "&amp;".toList
  else if c = '<' then "&lt;".toList
  else if c = '>' then "&gt;".toList
  else if c = '"' then "&quot;".toList
  else if c = '\x27' then "&apos;".toList
  else if c = '\r' then "&#xd;".toList
  else [c]

def encode (text : List Char) : List Char := text.flatMap escape

def escapeText (text : String) : String := String.ofList (encode text.toList)

def attributeText (pair : String × String) : List Char :=
  ' ' :: pair.1.toList ++ '=' :: '"' :: encode pair.2.toList ++ ['"']

def tagText (name : String) (attributes : List (String × String)) : List Char :=
  '<' :: name.toList ++ attributes.flatMap attributeText

def endTag (name : String) : List Char := '<' :: '/' :: name.toList ++ ['>', '\n']

def indent (level : Nat) : List Char := List.replicate (2 * level) ' '

mutual
def printChars (level : Nat) : Markup → List Char
  | branch name attributes children =>
    indent level ++ tagText name attributes ++ '>' :: '\n' :: printAll (level + 1) children ++
      indent level ++ endTag name
  | leaf name attributes text =>
    indent level ++ tagText name attributes ++ '>' :: encode text.toList ++ endTag name
  | single name attributes => indent level ++ tagText name attributes ++ ['/', '>', '\n']

def printAll (level : Nat) : List Markup → List Char
  | [] => []
  | child :: rest => printChars level child ++ printAll level rest
end

def declaration : List Char := "<?xml version=\"1.0\" encoding=\"UTF-8\"?>\n".toList

def document (root : Markup) : String := String.ofList (declaration ++ root.printChars 0)

end Markup

end RequestSuite.Text
