import Concord.CommandLine.Argument

/-!
# Messages about the command line

Help and usage errors are texts whose parts may be emphasised. With colour off they are the bare
texts.
-/

namespace Concord.CommandLine

/-- How a part of a message stands out. -/
inductive Emphasis where
  | plain
  /-- A heading. -/
  | heading
  /-- A name to be typed as it is. -/
  | literal
  /-- The word that announces an error. -/
  | alarm
  /-- What is wrong. -/
  | wrong
  /-- What would be right. -/
  | right
deriving DecidableEq, Repr

/-- The sequence that starts an emphasis on a terminal. -/
def Emphasis.opening : Emphasis → String
  | .plain => ""
  | .heading => "\x1b[1m\x1b[4m"
  | .literal => "\x1b[1m"
  | .alarm => "\x1b[1m\x1b[31m"
  | .wrong => "\x1b[33m"
  | .right => "\x1b[32m"

/-- A part of a message. -/
structure Span where
  /-- How it stands out. -/
  emphasis : Emphasis
  /-- Its text. -/
  text : String
deriving DecidableEq, Repr

/-- A message. -/
abbrev Message := List Span

/-- A part that does not stand out. -/
def plain (text : String) : Span := ⟨.plain, text⟩

/-- A name to be typed as it is. -/
def literal (text : String) : Span := ⟨.literal, text⟩

/-- What is wrong. -/
def wrong (text : String) : Span := ⟨.wrong, text⟩

/-- What would be right. -/
def right (text : String) : Span := ⟨.right, text⟩

/-- The text of a part. -/
def Span.render (color : Bool) (span : Span) : String :=
  if color && span.emphasis ≠ .plain then span.emphasis.opening ++ span.text ++ "\x1b[0m"
  else span.text

/-- The text of a message. -/
def render (color : Bool) (message : Message) : String :=
  String.join (message.map (Span.render color))

namespace Argument

/-- The argument as it is named in messages: its long name and its value. -/
def spans (argument : Argument) : Message :=
  let value := argument.valueName?.map fun name => "<" ++ name ++ ">"
  match argument.long?, value with
  | some long, some value => [literal ("--" ++ long), plain (" " ++ value)]
  | some long, none => [literal ("--" ++ long)]
  | none, value => [plain (value.getD "")]

/-- The argument as text. -/
def text (argument : Argument) : String := render false argument.spans

end Argument

/-- What a line that shows how the program is used shows. -/
inductive Usage where
  /-- How the program is used in general. -/
  | general
  /-- The use with some arguments. -/
  | using (arguments : List Argument)
  /-- The use with some options and any one of the arguments that make up a request. -/
  | anyOne (options : List Argument)
deriving DecidableEq, Repr

namespace Usage

/-- The arguments of a usage line, the input last. -/
def arguments : Usage → Message
  | .general => [plain " [OPTIONS] <INPUT>"]
  | .using arguments =>
    let options := (arguments.filter fun argument => argument ≠ .input).eraseDups
    options.flatMap (fun argument => plain " " :: argument.spans) ++ [plain " <INPUT>"]
  | .anyOne options =>
    let named (argument : Argument) :=
      if argument = .input then "INPUT" else argument.text
    let choice := "|".intercalate (Argument.requested.map named)
    options.flatMap (fun argument => plain " " :: argument.spans) ++
      [plain (" <" ++ choice ++ ">")]

/-- The usage line. -/
def spans (usage : Usage) : Message :=
  [⟨.heading, "Usage:"⟩, plain " ", literal programName] ++ usage.arguments

end Usage

/-- What an option does, in the help text. -/
def Argument.description : Argument → String
  | .input => "Combined results JSON file"
  | .output => "Output file for comparison results [default: comparison_results.json]"
  | .verbose => "Print detailed comparison information"
  | .maxDetails => "Number of divergences per suite shown with --verbose [default: 10]"
  | .config => "YAML file naming the implementations and their method prefixes"
  | .baseline => "Implementation used as the reference output [possible values: a, b]"
  | .help => "Print help"
  | .version => "Print version"

/-- The line of an option in the help text; `width` is that of the longest option. -/
def optionLine (width : Nat) (argument : Argument) : Message :=
  let letter : Message := match argument.short? with
    | some letter => [literal (String.ofList ['-', letter]), plain ", "]
    | none => [plain "    "]
  let blanks := String.ofList (List.replicate (width - argument.text.length + 2) ' ')
  plain "  " :: letter ++ argument.spans ++ [plain (blanks ++ argument.description ++ "\n")]

/-- The help text. -/
def helpText : Message :=
  let width := (Argument.options.map fun argument => argument.text.length).foldl max 0
  plain "Compare two wrapped interval implementations' recorded results\n\n" ::
    Usage.general.spans ++
    [plain "\n\n", ⟨.heading, "Arguments:"⟩,
      plain ("\n  <INPUT>  " ++ Argument.input.description ++ "\n\n"),
      ⟨.heading, "Options:"⟩, plain "\n"] ++
    Argument.options.flatMap (optionLine width)

/-- The version text. -/
def versionText : String := programName ++ " " ++ programVersion ++ "\n"

/-- What is wrong with a number. -/
inductive CountProblem where
  | empty
  | badDigit
  | tooGreat
deriving DecidableEq, Repr

/-- The wording of what is wrong with a number. -/
def CountProblem.message : CountProblem → String
  | .empty => "cannot parse integer from empty string"
  | .badDigit => "invalid digit found in string"
  | .tooGreat => "number too large to fit in target type"

/-- Why a command line is refused. -/
inductive UsageError where
  /-- An argument has no value, or an empty one. -/
  | missingValue (argument : Argument)
  /-- An argument is given twice. -/
  | repeated (argument : Argument)
  /-- A value is none of the possible ones. -/
  | impossibleValue (argument : Argument) (value : String) (suggestion : Option String)
  /-- A value is not a number. -/
  | badCount (argument : Argument) (value : String) (problem : CountProblem)
  /-- A word is not expected. -/
  | unexpected (word : String) (suggestion : Option String) (escapable : Bool) (usage : Usage)
  /-- An option that takes no value has one. -/
  | needlessValue (argument : Argument) (value : String) (usage : Usage)
  /-- The input is not given. -/
  | missingInput (usage : Usage)
deriving DecidableEq, Repr

namespace UsageError

/-- The list of possible values. -/
def possibleValues (values : List String) : Message :=
  if values.isEmpty then []
  else
    plain "\n  [possible values: " ::
      [plain ", "].intercalate (values.map fun value => [right value]) ++ [plain "]"]

/-- A tip. -/
def tip (spans : Message) : Message := [plain "\n\n  ", right "tip:", plain " "] ++ spans

/-- The tip that something similar exists. -/
def similarTip (what : String) : Option String → Message
  | some similar => tip [plain ("a similar " ++ what ++ " exists: '"), right similar, plain "'"]
  | none => []

/-- The usage line of an error. -/
def usageLine (usage : Usage) : Message := plain "\n\n" :: usage.spans

/-- What is wrong. -/
def body : UsageError → Message
  | .missingValue argument =>
    [plain "a value is required for '", wrong argument.text, plain "' but none was supplied"] ++
      possibleValues argument.possibleValues
  | .repeated argument =>
    [plain "the argument '", wrong argument.text, plain "' cannot be used multiple times"] ++
      usageLine .general
  | .impossibleValue argument value suggestion =>
    [plain "invalid value '", wrong value, plain "' for '", literal argument.text, plain "'"] ++
      possibleValues argument.possibleValues ++ similarTip "value" suggestion
  | .badCount argument value problem =>
    [plain "invalid value '", wrong value, plain "' for '", literal argument.text,
      plain ("': " ++ problem.message)]
  | .unexpected word suggestion escapable usage =>
    [plain "unexpected argument '", wrong word, plain "' found"] ++
      similarTip "argument" suggestion ++
      (if escapable then
        tip [plain "to pass '", wrong word, plain "' as a value, use '", right ("-- " ++ word),
          plain "'"]
      else []) ++
      usageLine usage
  | .needlessValue argument value usage =>
    [plain "unexpected value '", wrong value, plain "' for '", literal argument.text,
      plain "' found; no more were expected"] ++ usageLine usage
  | .missingInput usage =>
    [plain "the following required arguments were not provided:\n  ", right "<INPUT>"] ++
      usageLine usage

/-- The message of an error. -/
def message (error : UsageError) : Message :=
  [⟨.alarm, "error:"⟩, plain " "] ++ error.body ++
    [plain "\n\nFor more information, try '", literal "--help", plain "'.\n"]

end UsageError

end Concord.CommandLine
