import RequestSuite.Text.Blank
import RequestSuite.Text.Digit
import RequestSuite.Text.Scan

/-! The assertions that are understood on a line of a test block. Three rules are tried in order:
a status code, a limit on the response time, and any other expectation. -/
namespace RequestSuite.Script
open Text

inductive Check where
  | status (code : Nat)
  | timeBelow (milliseconds : Nat)
  | expression (code : String)
  deriving DecidableEq, Repr

namespace Check

def display : Check → String
  | status code => "status == " ++ toString code
  | timeBelow milliseconds => "response.time < " ++ toString milliseconds
  | expression code => code

def statement : Check → String
  | status code => "expect(response.status()).toBe(" ++ toString code ++ ");"
  | timeBelow milliseconds => "expect(responseTime).toBeLessThan(" ++ toString milliseconds ++ ");"
  | expression code => code

end Check

namespace Assertion

def spacedWords (words : List String) (text : List Char) : Option (List Char) :=
  words.foldlM (fun rest word => word.toList.isPrefixOf? (skipBlanks rest)) text

def digits : Finder (List Char) := fun text =>
  let text := skipBlanks text
  let digits := text.takeWhile isDecimal
  if digits.isEmpty then none else some (digits, text.dropWhile isDecimal)

def oneOf (words : List String) (text : List Char) : Option (List Char) :=
  words.findSome? fun word => word.toList.isPrefixOf? text

def statusMethod (text : List Char) : Option (List Char) :=
  "pm.response.to.have.status(".toList.isPrefixOf? text

def statusExpectation (text : List Char) : Option (List Char) := do
  let rest ← "pm.expect(".toList.isPrefixOf? text
  let rest ← spacedWords ["pm.response.code", ")"] rest
  oneOf [".to.equal(", ".to.eql(", ".to.eq("] rest

def statusDigits : Finder (List Char) := fun text =>
  ((statusMethod text).bind digits).or ((statusExpectation text).bind digits)

def timeDigits : Finder (List Char) := fun text => do
  let rest ← "pm.expect(".toList.isPrefixOf? text
  let rest ← spacedWords ["pm.response.responseTime", ")"] rest
  let rest ← oneOf [".to.be.below(", ".to.be.lessThan("] rest
  digits rest

def status? (line : List Char) : Option Check :=
  (firstHit statusDigits line).bind fun (digits, _) =>
    (boundedNat? 0xFFFF digits).map .status

def timeBelow? (line : List Char) : Option Check :=
  (firstHit timeDigits line).bind fun (digits, _) =>
    (boundedNat? 0xFFFFFFFFFFFFFFFF digits).map .timeBelow

/-- Words of the script language and of the generated one, replaced one row after the other. A
negated matcher stands before the plain one. -/
def idioms : List (String × String) :=
  [("pm.response.json()", "pwResponse"),
   ("pm.response.code", "response.status()"),
   ("pm.response.responseTime", "responseTime"),
   ("pm.response.text()", "(await response.text())"),
   ("pm.expect(", "expect("),
   (".to.not.equal(", ".not.toBe("),
   (".to.not.eql(", ".not.toEqual("),
   (".to.deep.equal(", ".toEqual("),
   (".to.eql(", ".toEqual("),
   (".to.equal(", ".toBe("),
   (".to.eq(", ".toBe("),
   (".to.not.have.property(", ".not.toHaveProperty("),
   (".to.have.property(", ".toHaveProperty("),
   (".to.have.lengthOf(", ".toHaveLength("),
   (".to.not.include(", ".not.toContain("),
   (".to.include(", ".toContain("),
   (".to.contain(", ".toContain("),
   (".to.be.above(", ".toBeGreaterThan("),
   (".to.be.below(", ".toBeLessThan("),
   (".to.be.at.least(", ".toBeGreaterThanOrEqual("),
   (".to.be.at.most(", ".toBeLessThanOrEqual("),
   (".to.be.true", ".toBe(true)"),
   (".to.be.false", ".toBe(false)"),
   (".to.be.null", ".toBeNull()"),
   (".to.be.undefined", ".toBeUndefined()"),
   (".to.be.ok", ".toBeTruthy()"),
   (".to.exist", ".toBeDefined()")]

def applyIdiom (line : List Char) (idiom : String × String) : List Char :=
  replaceAll idiom.1.toList idiom.2.toList line

def expectation? (line : List Char) : Option Check :=
  if contains "pm.expect".toList line then
    some (.expression (String.ofList (idioms.foldl applyIdiom (trim line))))
  else none

def check? (line : List Char) : Option Check :=
  (status? line).or ((timeBelow? line).or (expectation? line))

end Assertion

end RequestSuite.Script
