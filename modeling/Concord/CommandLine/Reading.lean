import Concord.CommandLine.Message
import Concord.CommandLine.Similarity

/-!
# Reading the command line

The words of a command line are read from left to right. An option without an attached value waits
for the next word; it is *settled*, that is checked and its value read, only when the next argument
begins or the words end. The first error counts, and asking for help or the version ends the reading
at once.
-/

namespace Concord.CommandLine

/-- Why the reading of a command line ends before a request is made. -/
inductive Stop where
  /-- The help text is asked for. -/
  | help
  /-- The version is asked for. -/
  | version
  /-- The command line is refused. -/
  | refused (error : UsageError)
deriving DecidableEq, Repr

/-- The values read so far. -/
structure Values where
  input : Option String
  output : Option String
  verbose : Bool
  maxDetails : Option Nat
  config : Option String
  baseline : Option Side

/-- The state of the reading. -/
structure Progress where
  /-- The argument that is not settled yet, with its value. -/
  pending : Option (Argument × Option String)
  /-- Whether the pending argument waits for its value. -/
  waiting : Bool
  /-- The settled arguments in order. -/
  settled : List Argument
  /-- Whether any argument was ever settled. -/
  begun : Bool
  /-- Whether an input was given. -/
  inputGiven : Bool
  /-- Whether every word that follows is an input. -/
  inputsOnly : Bool
  /-- The values. -/
  values : Values

/-- The state before the first word. -/
def Progress.start : Progress :=
  ⟨none, false, [], false, false, false, ⟨none, none, false, none, none, none⟩⟩

/-- A step of the reading. What was settled before an error stays settled. -/
abbrev Read (α : Type) := EStateM Stop Progress α

namespace Read

/-- Refuses the command line. -/
def refuse {α : Type} (error : UsageError) : Read α := throw (.refused error)

/-- The greatest number of 64 bits. -/
def greatestCount : Nat := Nat.pow 2 64 - 1

/-- Continues a number with digits. -/
def countFrom (n : Nat) : List Char → Except CountProblem Nat
  | [] => .ok n
  | c :: rest =>
    if !c.isDigit then .error .badDigit
    else
      let next := 10 * n + (c.toNat - '0'.toNat)
      if greatestCount < next then .error .tooGreat else countFrom next rest

/-- The number that a word spells, with or without a plus sign. -/
def count (word : String) : Except CountProblem Nat :=
  match word.toList with
  | [] => .error .empty
  | ['+'] => .error .badDigit
  | '+' :: digits => countFrom 0 digits
  | digits => countFrom 0 digits

/-- Stores the value of an argument. -/
def store (argument : Argument) (value : String) : Read Unit := do
  let values := (← get).values
  let path : Read String := do
    if value.isEmpty then refuse (.missingValue argument)
    return value
  let values ← match argument with
    | .input => do pure { values with input := some (← path) }
    | .output => do pure { values with output := some (← path) }
    | .config => do pure { values with config := some (← path) }
    | .maxDetails =>
      match count value with
      | .ok n => pure { values with maxDetails := some n }
      | .error problem => refuse (.badCount argument value problem)
    | .baseline =>
      if value = "a" then pure { values with baseline := some .a }
      else if value = "b" then pure { values with baseline := some .b }
      else if value.isEmpty then refuse (.missingValue argument)
      else refuse (.impossibleValue argument value (suggest? value argument.possibleValues))
    | _ => pure { values with verbose := true }
  modify fun p => { p with values := values }

/-- Settles an argument: it needs its value, must not be settled already, and its value must be a
good one. -/
def settle (argument : Argument) (value : Option String) : Read Unit := do
  if argument.takesValue && value.isNone then refuse (.missingValue argument)
  if argument = .help then throw .help
  if argument = .version then throw .version
  if (← get).settled.contains argument then
    modify fun p => { p with settled := p.settled.erase argument }
    refuse (.repeated argument)
  modify fun p => { p with settled := p.settled ++ [argument], begun := true }
  store argument (value.getD "")

/-- Settles the pending argument, if there is one. -/
def settlePending : Read Unit := do
  match (← get).pending with
  | some (argument, value) =>
    modify fun p => { p with pending := none }
    settle argument value
  | none => return

/-- Settles the pending argument and passes over its errors. -/
def settlePendingQuietly : Read Unit := do
  try settlePending catch _ => return

/-- Reads an option with or without an attached value. -/
def option (argument : Argument) (attached : Option String) : Read Unit := do
  settlePending
  if argument.takesValue && attached.isNone then
    modify fun p => { p with pending := some (argument, none), waiting := true }
  else
    modify fun p => { p with waiting := false }
    settle argument attached

/-- Refuses a long name that no option has. -/
def unknownLong (name : String) : Read Unit := do
  settlePendingQuietly
  let known := Argument.options.filterMap Argument.long?
  let suggestion := suggest? name known
  let meant := (suggestion.bind Argument.ofLong?).toList
  let used := (← get).settled ++ meant
  refuse (.unexpected ("--" ++ name) (suggestion.map ("--" ++ ·)) suggestion.isNone
    (if used.isEmpty then .general else .using used))

/-- Reads a word that begins with two dashes. -/
def long (name : String) (attached : Option String) : Read Unit := do
  match Argument.ofLong? name with
  | none => unknownLong name
  | some argument =>
    match attached with
    | none => option argument none
    | some value =>
      if argument.takesValue then option argument (some value)
      else
        let usage :=
          if (← get).begun then
            Usage.anyOne ([argument].filter fun option => option ∉ Argument.requested)
          else .using [argument]
        refuse (.needlessValue argument value usage)

/-- Reads the letters after one dash. The value of an option may follow its letter, with or without
an equals sign. -/
def letters : List Char → Read Unit
  | [] => return
  | letter :: rest => do
    match Argument.ofShort? letter with
    | none =>
      settlePendingQuietly
      refuse (.unexpected (String.ofList ['-', letter]) none true .general)
    | some argument =>
      if argument.takesValue then
        match rest with
        | [] => option argument none
        | '=' :: value => option argument (some (String.ofList value))
        | value => option argument (some (String.ofList value))
      else
        option argument none
        letters rest

/-- Reads an input. -/
def input (word : String) : Read Unit := do
  if (← get).inputGiven then
    settlePendingQuietly
    refuse (.unexpected word none false .general)
  settlePending
  modify fun p =>
    { p with pending := some (.input, some word), waiting := false, inputGiven := true }

/-- Splits an attached value off a long name. -/
def splitAttached (word : List Char) : String × Option String :=
  let name := word.takeWhile (· ≠ '=')
  let value := match word.dropWhile (· ≠ '=') with
    | [] => none
    | _ :: value => some (String.ofList value)
  (String.ofList name, value)

/-- Reads a word. -/
def word (text : String) : Read Unit := do
  let progress ← get
  if progress.inputsOnly then input text
  else
    match text.toList with
    | ['-', '-'] => modify fun p => { p with inputsOnly := true }
    | '-' :: '-' :: rest =>
      let (name, attached) := splitAttached rest
      long name attached
    | '-' :: letter :: rest => letters (letter :: rest)
    | _ =>
      match progress.waiting, progress.pending with
      | true, some (argument, _) =>
        modify fun p => { p with pending := some (argument, some text), waiting := false }
      | _, _ => input text

/-- The report file unless another one is given. -/
def defaultOutput : String := "comparison_results.json"

/-- How many divergences are shown unless another number is given. -/
def defaultMaxDetails : Nat := 10

/-- The request that the words make. -/
def request (words : List String) : Read Request := do
  words.forM word
  settlePending
  let values := (← get).values
  match values.input with
  | none =>
    let settled := (← get).settled
    refuse (.missingInput (.using (settled ++ [.input])))
  | some input =>
    return {
      input := input
      output := values.output.getD defaultOutput
      verbose := values.verbose
      maxDetails := values.maxDetails.getD defaultMaxDetails
      config := values.config
      baseline := values.baseline }

end Read

/-- The request of a command line, or why it makes none. -/
def readRequest (words : List String) : Except Stop Request :=
  match (Read.request words).run .start with
  | .ok request _ => .ok request
  | .error stop _ => .error stop

end Concord.CommandLine
