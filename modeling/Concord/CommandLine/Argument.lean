import Concord.Implementation

/-!
# Arguments of the command line

The program takes one input file and some options. An `Argument` is one of them; a `Request` is what
a command line asks for.
-/

namespace Concord.CommandLine

/-- The name of the program. -/
def programName : String := "wi-crosscheck"

/-- The version of the program. -/
def programVersion : String := "0.1.0"

/-- What may be given on the command line. -/
inductive Argument where
  /-- The results file. -/
  | input
  /-- The report file. -/
  | output
  /-- Whether details are shown. -/
  | verbose
  /-- How many divergences of each suite the details show. -/
  | maxDetails
  /-- The configuration file. -/
  | config
  /-- The baseline. -/
  | baseline
  /-- The help text. -/
  | help
  /-- The version. -/
  | version
deriving DecidableEq, Repr

namespace Argument

/-- The long name of an option; the input has none. -/
def long? : Argument → Option String
  | .input => none
  | .output => some "output"
  | .verbose => some "verbose"
  | .maxDetails => some "max-details"
  | .config => some "config"
  | .baseline => some "baseline"
  | .help => some "help"
  | .version => some "version"

/-- The letter of an option, if it has one. -/
def short? : Argument → Option Char
  | .output => some 'o'
  | .verbose => some 'v'
  | .help => some 'h'
  | .version => some 'V'
  | _ => none

/-- The name of the value, if there is one. -/
def valueName? : Argument → Option String
  | .input => some "INPUT"
  | .output => some "OUTPUT"
  | .maxDetails => some "MAX_DETAILS"
  | .config => some "CONFIG"
  | .baseline => some "BASELINE"
  | _ => none

/-- Whether an option takes a value. -/
def takesValue (argument : Argument) : Bool := argument.valueName?.isSome

/-- The options in order. -/
def options : List Argument :=
  [.output, .verbose, .maxDetails, .config, .baseline, .help, .version]

/-- The arguments that make up a request. -/
def requested : List Argument := [.input, .output, .verbose, .maxDetails, .config, .baseline]

/-- The option with a long name. -/
def ofLong? (name : String) : Option Argument :=
  options.find? fun argument => argument.long? = some name

/-- The option with a letter. -/
def ofShort? (letter : Char) : Option Argument :=
  options.find? fun argument => argument.short? = some letter

/-- The values that may be given, if they are few. -/
def possibleValues : Argument → List String
  | .baseline => ["a", "b"]
  | _ => []

end Argument

/-- What a command line asks the program to do. -/
structure Request where
  /-- The results file. -/
  input : String
  /-- The report file. -/
  output : String
  /-- Whether details are shown and debugging events are told. -/
  verbose : Bool
  /-- How many divergences of each suite the details show. -/
  maxDetails : Nat
  /-- The configuration file, if any. -/
  config : Option String
  /-- The baseline, if it differs from the configured one. -/
  baseline : Option Side
deriving DecidableEq, Repr

end Concord.CommandLine
