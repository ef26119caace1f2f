import RequestSuite.Suite.Target
import RequestSuite.Text.Blank

/-! The arguments of a conversion: two places that must be filled, and options by name or letter.
What an argument gives is taken in when the next one comes, so an argument that fits nowhere is
reported before a bad value that precedes it. -/
namespace RequestSuite.CommandLine
open Suite

inductive Place where
  | collection
  | output
  deriving DecidableEq, Repr

def Place.display : Place → String
  | collection => "<COLLECTION>"
  | output => "<OUTPUT>"

inductive Flag where
  | target
  | environment
  | override
  | config
  | verbose
  | help
  deriving DecidableEq, Repr

namespace Flag

def all : List Flag := [target, environment, override, config, verbose, help]

def name : Flag → String
  | target => "target"
  | environment => "environment"
  | override => "var"
  | config => "config"
  | verbose => "verbose"
  | help => "help"

def letter? : Flag → Option Char
  | target => some 't'
  | environment => some 'e'
  | override => none
  | config => some 'c'
  | verbose => some 'v'
  | help => some 'h'

def value? : Flag → Option String
  | target => some "TARGET"
  | environment => some "ENVIRONMENT"
  | override => some "KEY=VALUE"
  | config => some "CONFIG"
  | verbose => none
  | help => none

def display (flag : Flag) : String :=
  match flag.value? with
  | some value => "--" ++ flag.name ++ " <" ++ value ++ ">"
  | none => "--" ++ flag.name

def ofName? (name : String) : Option Flag := all.find? (·.name == name)

def ofLetter? (letter : Char) : Option Flag := all.find? (·.letter? == some letter)

end Flag

inductive Misuse where
  | nothingGiven
  | unknownCommand (name : String)
  | unexpected (argument : String)
  | repeated (argument : String)
  | missingValue (argument : String)
  | unneededValue (value argument : String)
  | badTarget (value : String)
  | badOverride (value : String)
  | missingPlaces (places : List Place)
  deriving DecidableEq, Repr

inductive Stop where
  | help (full : Bool)
  | misuse (misuse : Misuse)
  deriving DecidableEq, Repr

structure Arguments where
  collection : String
  output : String
  target : Option Target
  environment : Option String
  overrides : List (String × String)
  config : Option String
  verbose : Bool
  deriving DecidableEq, Repr

def override? (text : String) : Option (String × String) :=
  let key := text.toList.takeWhile (· ≠ '=')
  match text.toList.dropWhile (· ≠ '=') with
  | _ :: value => some (String.ofList (Text.trim key), String.ofList (Text.trim value))
  | [] => none

def namedOverride? (text : String) : Option (String × String) :=
  (override? text).filter fun pair => pair.1 ≠ ""

inductive Pending where
  | place (place : Place) (value : String)
  | flag (flag : Flag) (value : Option String)
  deriving DecidableEq, Repr

structure Reading where
  collection : Option String
  output : Option String
  target : Option Target
  environment : Option String
  overrides : List (String × String)
  config : Option String
  verbose : Bool
  pending : Option Pending
  free : List Place
  plain : Bool
  deriving DecidableEq, Repr

namespace Reading

def start : Reading :=
  { collection := none, output := none, target := none, environment := none, overrides := []
    config := none, verbose := false, pending := none, free := [.collection, .output]
    plain := false }

def stop {α : Type} (misuse : Misuse) : Except Stop α := .error (.misuse misuse)

def path (argument value : String) : Except Stop String :=
  if value = "" then stop (.missingValue argument) else .ok value

def fill (reading : Reading) (place : Place) (value : String) : Except Stop Reading := do
  let value ← path place.display value
  match place with
  | .collection => return { reading with collection := some value }
  | .output => return { reading with output := some value }

def once {α : Type} (flag : Flag) (before : Option α) (value : Except Stop α) :
    Except Stop (Option α) :=
  if before.isSome then stop (.repeated flag.display) else value.map some

def targetOf (value : String) : Except Stop Target :=
  match Target.ofName? value with
  | some target => .ok target
  | none =>
    if value = "" then stop (.missingValue Flag.target.display) else stop (.badTarget value)

def set (reading : Reading) (flag : Flag) (value : String) : Except Stop Reading := do
  match flag with
  | .target => return { reading with target := ← once flag reading.target (targetOf value) }
  | .environment =>
    return { reading with
      environment := ← once flag reading.environment (path flag.display value) }
  | .config =>
    return { reading with config := ← once flag reading.config (path flag.display value) }
  | .override =>
    match namedOverride? value with
    | some pair => return { reading with overrides := reading.overrides ++ [pair] }
    | none => stop (.badOverride value)
  | .verbose => return reading
  | .help => return reading

def settle (reading : Reading) : Except Stop Reading :=
  let settled := { reading with pending := none }
  match reading.pending with
  | none => .ok settled
  | some (.place place value) => settled.fill place value
  | some (.flag flag none) => stop (.missingValue flag.display)
  | some (.flag flag (some value)) => settled.set flag value

def toPlace (reading : Reading) (argument : String) : Except Stop Reading :=
  match reading.free with
  | [] => stop (.unexpected argument)
  | place :: free => do
    let settled ← reading.settle
    return { settled with free, pending := some (.place place argument) }

def switch (reading : Reading) (flag : Flag) (full : Bool) : Except Stop Reading := do
  let settled ← reading.settle
  if flag = .help then .error (.help full)
  else if settled.verbose then stop (.repeated flag.display)
  else return { settled with verbose := true }

def option (reading : Reading) (flag : Flag) (value : Option String) : Except Stop Reading := do
  let settled ← reading.settle
  match value with
  | some value => settled.set flag value
  | none => return { settled with pending := some (.flag flag none) }

def named (reading : Reading) (name : String) (value : Option String) : Except Stop Reading :=
  match Flag.ofName? name with
  | none => stop (.unexpected ("--" ++ name))
  | some flag =>
    if flag.value?.isSome then reading.option flag value
    else match value with
      | some value => stop (.unneededValue value flag.display)
      | none => reading.switch flag true

/-- The value after the letter of an option; an equality sign may stand before it. -/
def attached : List Char → Option String
  | [] => none
  | '=' :: value => some (String.ofList value)
  | value => some (String.ofList value)

def letters (reading : Reading) : List Char → Except Stop Reading
  | [] => .ok reading
  | letter :: rest =>
    match Flag.ofLetter? letter with
    | none => stop (.unexpected (String.ofList ['-', letter]))
    | some flag =>
      if flag.value?.isSome then reading.option flag (attached rest)
      else do
        let next ← reading.switch flag false
        next.letters rest

def word (reading : Reading) (argument : String) : Except Stop Reading :=
  match reading.pending with
  | some (.flag flag none) =>
    .ok { reading with pending := some (.flag flag (some argument)) }
  | _ => reading.toPlace argument

def nameAndValue (text : List Char) : String × Option String :=
  (String.ofList (text.takeWhile (· ≠ '=')),
    (text.dropWhile (· ≠ '=')).tail?.map String.ofList)

def read (reading : Reading) (argument : String) : Except Stop Reading :=
  if reading.plain then reading.toPlace argument
  else match argument.toList with
    | ['-', '-'] => .ok { reading with plain := true }
    | '-' :: '-' :: text =>
      let (name, value) := nameAndValue text
      reading.named name value
    | '-' :: letter :: rest => reading.letters (letter :: rest)
    | _ => reading.word argument

def finish (reading : Reading) : Except Stop Arguments := do
  let settled ← reading.settle
  match settled.collection, settled.output with
  | some collection, some output =>
    return ⟨collection, output, settled.target, settled.environment, settled.overrides,
      settled.config, settled.verbose⟩
  | _, _ => stop (.missingPlaces settled.free)

end Reading

def Arguments.ofList (arguments : List String) : Except Stop Arguments := do
  let reading ← arguments.foldlM Reading.read .start
  reading.finish

end RequestSuite.CommandLine
