/-! File-name stems: each run of characters other than ASCII letters and digits becomes one
underscore, and letters become small. -/
namespace RequestSuite.Text.Stem

def isKept (c : Char) : Bool := c.isAlphanum

/-- `gap` says that the character before was not kept. -/
def collapse (gap : Bool) : List Char → List Char
  | [] => []
  | c :: rest =>
    if isKept c then c.toLower :: collapse false rest
    else if gap then collapse true rest
    else '_' :: collapse true rest

def ofText (text : String) : String := String.ofList (collapse false text.toList)

def padded (number : Nat) : List Char :=
  let digits := Nat.toDigits 10 number
  List.replicate (3 - digits.length) '0' ++ digits

def numbered (number : Nat) (name : String) : String :=
  String.ofList (padded number ++ '_' :: collapse false name.toList)

end RequestSuite.Text.Stem
