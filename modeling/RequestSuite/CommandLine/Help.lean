import RequestSuite.CommandLine.Arguments
import RequestSuite.Text.Lines
import RequestSuite.Text.Width

/-! The texts that explain the commands. In short, explanations stand in a column beside what they
explain; in full, below it. -/
namespace RequestSuite.CommandLine
open Suite

def programName : String := "pmconvert"

def version : String := programName ++ " 0.1.0\n"

def about : String := "Convert Postman collections into Playwright and JMeter tests"

def convertAbout : String := "把 Postman 集合转换为 Playwright 或 JMeter 测试"

def helpAbout : String := "Print this message or the help of the given subcommand(s)"

def Place.purpose : Place → String
  | collection => "Postman 集合文件（v2.x JSON）"
  | output => "输出目录"

def Flag.purpose : Flag → String
  | target => "输出目标，默认取配置文件中的 target"
  | environment => "Postman 环境文件"
  | override => "覆盖变量，格式 KEY=VALUE，可重复"
  | config => "配置文件路径，默认查找 pmconvert.toml"
  | verbose => "显示脚本翻译统计"
  | help => "Print help"

def targetHelp : Target → String
  | .playwright => "Playwright 测试脚本（*.spec.js）"
  | .jmeter => "JMeter 测试计划（*.jmx）"

def Flag.heading (flag : Flag) : String :=
  match flag.letter? with
  | some letter => String.ofList ['-', letter, ',', ' '] ++ flag.display
  | none => "    " ++ flag.display

def padTo (width : Nat) (text : String) : String :=
  text ++ String.ofList (List.replicate (width - Text.width text.toList) ' ')

def columns (rows : List (String × String)) : String :=
  let width := (rows.map fun row => Text.width row.1.toList).foldl max 0
  Text.joinTexts "\n" (rows.map fun row => "  " ++ padTo width row.1 ++ "  " ++ row.2)

def blocks (rows : List (String × String)) : String :=
  Text.joinTexts "\n\n" (rows.map fun row => "  " ++ row.1 ++ "\n          " ++ row.2)

def block (title body : String) : String := "\n" ++ title ++ ":\n" ++ body ++ "\n"

def usage (form : String) : String := "\nUsage: " ++ programName ++ " " ++ form ++ "\n"

def rootHelp : String :=
  about ++ "\n" ++ usage "<COMMAND>" ++
    block "Commands" (columns [("convert", convertAbout), ("help", helpAbout)]) ++
    block "Options" (columns [("-h, --help", "Print help"), ("-V, --version", "Print version")])

def helpHelp : String :=
  helpAbout ++ "\n" ++ usage "help [COMMAND]..." ++
    block "Arguments" (columns [("[COMMAND]...", "Print help for the subcommand(s)")])

def shortFlagHelp (flag : Flag) : String :=
  match flag with
  | .target =>
    flag.purpose ++ " [possible values: " ++ Text.joinTexts ", " (Target.all.map Target.name) ++ "]"
  | .help => flag.purpose ++ " (see more with \x27--help\x27)"
  | _ => flag.purpose

def targetLine (target : Target) : String :=
  let width := (Target.all.map fun other => other.name.length).foldl max 0
  "\n          - " ++ padTo (width + 2) (target.name ++ ":") ++ targetHelp target

def fullFlagHelp (flag : Flag) : String :=
  match flag with
  | .target =>
    flag.purpose ++ "\n\n          Possible values:" ++ String.join (Target.all.map targetLine)
  | .help => flag.purpose ++ " (see a summary with \x27-h\x27)"
  | _ => flag.purpose

def convertHelp (full : Bool) : String :=
  let layout := if full then blocks else columns
  let flagHelp := if full then fullFlagHelp else shortFlagHelp
  convertAbout ++ "\n" ++ usage "convert [OPTIONS] <COLLECTION> <OUTPUT>" ++
    block "Arguments"
      (layout ([Place.collection, Place.output].map fun place => (place.display, place.purpose))) ++
    block "Options" (layout (Flag.all.map fun flag => (flag.heading, flagHelp flag)))

def quoted (text : String) : String := "\x27" ++ text ++ "\x27"

def Misuse.reason : Misuse → String
  | nothingGiven => "no command"
  | unknownCommand name => "unrecognized subcommand " ++ quoted name
  | unexpected argument => "unexpected argument " ++ quoted argument ++ " found"
  | repeated argument => "the argument " ++ quoted argument ++ " cannot be used multiple times"
  | missingValue argument =>
    "a value is required for " ++ quoted argument ++ " but none was supplied"
  | unneededValue value argument =>
    "unexpected value " ++ quoted value ++ " for " ++ quoted argument ++
      " found; no more were expected"
  | badTarget value => "invalid value " ++ quoted value ++ " for " ++ quoted Flag.target.display
  | badOverride value =>
    "invalid value " ++ quoted value ++ " for " ++ quoted Flag.override.display ++
      ": invalid variable " ++ quoted value ++ ", expected KEY=VALUE"
  | missingPlaces places =>
    "the following required arguments were not provided:" ++
      String.join (places.map fun place => "\n  " ++ place.display)

def Misuse.message : Misuse → String
  | nothingGiven => rootHelp
  | misuse => "error: " ++ misuse.reason ++ "\n\nFor more information, try \x27--help\x27.\n"

end RequestSuite.CommandLine
