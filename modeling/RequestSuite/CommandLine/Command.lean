import RequestSuite.CommandLine.Help

/-! What a command line asks for: a conversion, or a text to be shown. -/
namespace RequestSuite.CommandLine

inductive Command where
  | convert (arguments : Arguments)
  | tell (text : String)
  deriving DecidableEq, Repr

namespace Command

def help? : String → Option String
  | "convert" => some (convertHelp true)
  | "help" => some helpHelp
  | _ => none

def ofConvert (arguments : List String) : Except Misuse Command :=
  match Arguments.ofList arguments with
  | .ok arguments => .ok (.convert arguments)
  | .error (.help full) => .ok (.tell (convertHelp full))
  | .error (.misuse misuse) => .error misuse

def ofHelp : List String → Except Misuse Command
  | [] => .ok (.tell rootHelp)
  | name :: rest =>
    match help? name, rest with
    | none, _ => .error (.unknownCommand name)
    | some text, [] => .ok (.tell text)
    | some _, other :: _ => .error (.unknownCommand other)

def ofPlain : List String → Except Misuse Command
  | [] => .error .nothingGiven
  | name :: _ =>
    if (help? name).isSome then .error (.unexpected name) else .error (.unknownCommand name)

def ofName (name : String) (value : Option String) : Except Misuse Command :=
  match name, value with
  | "help", none => .ok (.tell rootHelp)
  | "version", none => .ok (.tell version)
  | "help", some value => .error (.unneededValue value "--help")
  | "version", some value => .error (.unneededValue value "--version")
  | name, _ => .error (.unexpected ("--" ++ name))

def ofLetter : Char → Except Misuse Command
  | 'h' => .ok (.tell rootHelp)
  | 'V' => .ok (.tell version)
  | letter => .error (.unexpected (String.ofList ['-', letter]))

def ofList : List String → Except Misuse Command
  | [] => .error .nothingGiven
  | "convert" :: rest => ofConvert rest
  | "help" :: rest => ofHelp rest
  | first :: rest =>
    match first.toList with
    | ['-', '-'] => ofPlain rest
    | '-' :: '-' :: text =>
      let (name, value) := Reading.nameAndValue text
      ofName name value
    | '-' :: letter :: _ => ofLetter letter
    | _ => .error (.unknownCommand first)

end Command

end RequestSuite.CommandLine
