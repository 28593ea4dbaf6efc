import Concord.Implementation
import Concord.Yaml.Document
import Concord.Yaml.Plain

/-!
# Configuration of the implementations

A configuration may name the two implementations, their prefixes and the baseline; what it leaves
out keeps its default. `Configuration.parse` reads one from its text and makes the set of
implementations. Errors name the setting they are about and where it stands.
-/

namespace Concord

open Yaml

/-- The way from the whole configuration to one setting. -/
inductive SettingPath where
  /-- The whole configuration. -/
  | root
  /-- The value of a key. -/
  | member (parent : SettingPath) (key : String)
  /-- The value of a key that is an alias. -/
  | unknown (parent : SettingPath)
deriving DecidableEq, Repr

namespace SettingPath

/-- The path as text; the whole configuration has none. -/
def text : SettingPath → String
  | .root => ""
  | .member .root key => key
  | .member parent key => parent.text ++ "." ++ key
  | .unknown .root => "?"
  | .unknown parent => parent.text ++ ".?"

end SettingPath

/-- What is wrong with a setting. -/
inductive SettingProblem where
  /-- A value of another kind than the expected one. -/
  | wrongKind (found expected : String)
  /-- A text that does not spell what is expected. -/
  | wrongValue (found : String) (expected : String)
  /-- A key that has no meaning where it stands. -/
  | unknownKey (key : String) (expected : List String)
  /-- A key that stands twice. -/
  | duplicateKey (key : String)
  /-- A key that is absent. -/
  | missingKey (key : String)
  /-- A choice that does not exist. -/
  | unknownChoice (choice : String) (expected : List String)
deriving DecidableEq, Repr

/-- Two or more alternatives, each between backquotes. -/
def alternatives (names : List String) : String :=
  " or ".intercalate (names.map fun name => "`" ++ name ++ "`")

/-- The wording of a problem with a setting. -/
def SettingProblem.message : SettingProblem → String
  | .wrongKind found expected => "invalid type: " ++ found ++ ", expected " ++ expected
  | .wrongValue found expected =>
    "invalid value: string " ++ Text.quote found ++ ", expected " ++ expected
  | .unknownKey key expected => "unknown field `" ++ key ++ "`, expected " ++ alternatives expected
  | .duplicateKey key => "duplicate field `" ++ key ++ "`"
  | .missingKey key => "missing field `" ++ key ++ "`"
  | .unknownChoice choice expected =>
    "unknown variant `" ++ choice ++ "`, expected " ++ alternatives expected

/-- Why a text is not a configuration. -/
inductive ConfigurationError where
  /-- A setting is wrong; its path and place are those of the innermost value that knows them. -/
  | setting (problem : SettingProblem) (place : Option (SettingPath × Mark))
  /-- The text cannot be read to the end of its document. -/
  | interrupted (interruption : Interruption)
  /-- The text holds more than one document. -/
  | severalDocuments
  /-- The tags do not make a set. -/
  | tags (error : TagError)
deriving DecidableEq, Repr

namespace ConfigurationError

/-- The wording of a configuration error. -/
def message : ConfigurationError → String
  | .setting problem none => problem.message
  | .setting problem (some (path, m)) =>
    (if path = .root then "" else path.text ++ ": ") ++ problem.message ++ m.suffix
  | .interrupted interruption => interruption.message
  | .severalDocuments =>
    "deserializing from YAML containing more than one document is not supported"
  | .tags error => error.message

end ConfigurationError

/-- The settings of a configuration; what is absent keeps its default. -/
structure Configuration where
  /-- The tag of the first implementation. -/
  a : Option Tag
  /-- The tag of the second implementation. -/
  b : Option Tag
  /-- The baseline. -/
  baseline : Option Side
deriving DecidableEq, Repr

namespace Configuration

/-- The configuration that leaves everything out. -/
def empty : Configuration := ⟨none, none, none⟩

/-- The set of implementations: settings that are absent are filled in before the tags are
checked. -/
def toSet (c : Configuration) : Except TagError ImplementationSet :=
  ImplementationSet.new (c.a.getD ImplementationSet.default.a)
    (c.b.getD ImplementationSet.default.b) (c.baseline.getD ImplementationSet.default.baseline)

/-- A result, unless the configuration is wrong. A value is read together with the position after
it. -/
abbrev Checked := Except ConfigurationError

/-- Gives a problem that has no place yet the place of a value. -/
def locate {α : Type} (path : SettingPath) (m : Mark) :
    Checked α → Checked α
  | .error (.setting problem none) => .error (.setting problem (some (path, m)))
  | result => result

/-- A problem that has no place yet. -/
def problem {α : Type} (p : SettingProblem) : Checked α :=
  .error (.setting p none)

section

variable (document : Yaml.Document)

/-- The part at a position. -/
def partAt (position : Nat) : Checked (Part × Mark) :=
  match document.parts[position]? with
  | some part => .ok part
  | none => .error (.interrupted (document.interruption.getD .endOfText))

/-- The position of the node that the part at a position stands for: an alias stands for the node of
its anchor. -/
def nodeAt (position : Nat) : Checked Nat := do
  match ← partAt document position with
  | (.alias number, _) => .ok ((document.targets.lookup number).getD position)
  | _ => .ok position

/-- The position after a part that has been read: after an alias it is the next one, however long
the node is that the alias stands for. -/
def after (position node stop : Nat) : Nat := if position = node then stop else position + 1

/-- The position after a node, whatever it is; `depth` counts the collections that are open. -/
def skipNode : (fuel : Nat) → (depth : Nat) → Nat → Checked Nat
  | 0, _, _ => .error (.interrupted .endOfText)
  | fuel + 1, depth, position => do
    let depth ← match ← partAt document position with
      | (.sequenceStart _, _) => pure (depth + 1)
      | (.mappingStart _, _) => pure (depth + 1)
      | (.sequenceEnd, _) => pure (depth - 1)
      | (.mappingEnd, _) => pure (depth - 1)
      | _ => pure depth
    if depth = 0 then .ok (position + 1) else skipNode fuel depth (position + 1)

/-- The problem with a part that is of another kind than the expected one. -/
def wrongPart (part : Part) (expected : String) : SettingProblem :=
  match part with
  | .scalar tag text style =>
    match describe tag text style with
    | .kind found => .wrongKind found expected
    | .misspelled text spelled => .wrongValue text spelled
  | .mappingStart _ => .wrongKind "map" expected
  | .nothing => .wrongKind "unit value" expected
  | _ => .wrongKind "sequence" expected

/-- Reads a text: any scalar, as it is written. -/
def readText (expected : String) (path : SettingPath) (position : Nat) :
    Checked (String × Nat) := do
  let node ← nodeAt document position
  let (part, m) ← partAt document node
  match part with
  | .scalar _ text _ => .ok (text, after position node (node + 1))
  | part => locate path m (problem (wrongPart part expected))

/-- How a mapping with known keys is read into a record. -/
structure Keys (σ : Type) where
  /-- What the record is called in error messages. -/
  kind : String
  /-- The known keys. -/
  known : List String
  /-- Whether other keys are errors; they are skipped otherwise. -/
  strict : Bool
  /-- Whether the value of a key has been read. -/
  has : σ → String → Bool
  /-- Reads the value of a key. -/
  value : σ → String → SettingPath → Nat → Checked (σ × Nat)

/-- The path of the value of a key; a key that is an alias leaves it unknown. -/
def valuePath (path : SettingPath) (position : Nat) : SettingPath :=
  match document.parts[position]? with
  | some (.scalar _ text _, _) => .member path text
  | _ => .unknown path

/-- Reads a key: a text that is known, if only known keys are allowed. -/
def readKey {σ : Type} (keys : Keys σ) (path : SettingPath) (position : Nat) :
    Checked (String × Nat) := do
  let (key, next) ← readText document "field identifier" path position
  if keys.strict && !keys.known.contains key then
    let node ← nodeAt document position
    let (_, m) ← partAt document node
    locate path m (problem (.unknownKey key keys.known))
  else
    .ok (key, next)

/-- Reads the keys of a mapping and their values up to its end. -/
def readKeys {σ : Type} (keys : Keys σ) (path : SettingPath) :
    (fuel : Nat) → σ → Nat → Checked (σ × Nat)
  | 0, _, _ => .error (.interrupted .endOfText)
  | fuel + 1, state, position => do
    match ← partAt document position with
    | (.mappingEnd, _) => .ok (state, position + 1)
    | _ =>
      let (key, next) ← readKey document keys path position
      if keys.known.contains key then
        if keys.has state key then problem (.duplicateKey key)
        let (state, next) ← keys.value state key (valuePath document path position) next
        readKeys keys path fuel state next
      else
        let next ← skipNode document document.parts.length 0 next
        readKeys keys path fuel state next

/-- Reads a mapping into a record; an empty value is a mapping without keys. `finish` makes the
record out of what was read. -/
def readRecord {σ α : Type} (keys : Keys σ) (initial : σ)
    (finish : σ → Checked α) (path : SettingPath) (position : Nat) : Checked (α × Nat) := do
  let node ← nodeAt document position
  let (part, m) ← partAt document node
  locate path m do
    match part with
    | .mappingStart _ =>
      let (state, stop) ← readKeys document keys path document.parts.length initial (node + 1)
      .ok (← finish state, after position node stop)
    | .nothing => .ok (← finish initial, after position node (node + 1))
    | .scalar _ "" .plain => .ok (← finish initial, after position node (node + 1))
    | part => problem (wrongPart part ("struct " ++ keys.kind))

/-- Reads a value that may be null. -/
def readOptional {α : Type} (read : SettingPath → Nat → Checked (α × Nat))
    (path : SettingPath) (position : Nat) : Checked (Option α × Nat) := do
  let node ← nodeAt document position
  let present ← match ← partAt document node with
    | (.scalar (some tag) text .plain, _) =>
      if tag ≠ coreTag "null" then pure true
      else if isNull text then pure false
      else problem (.wrongValue text "null")
    | (.scalar none text .plain, _) => pure (!text.isEmpty && !isNull text)
    | (.nothing, _) => pure false
    | _ => pure true
  if present then
    let (value, stop) ← read path position
    .ok (some value, stop)
  else
    .ok (none, after position node (node + 1))

/-- The choices of a baseline. -/
def sides : List (String × Side) := [("a", .a), ("b", .b)]

/-- The side that a text names. -/
def sideOf (text : String) : Checked Side :=
  match sides.lookup text with
  | some side => .ok side
  | none => problem (.unknownChoice text (sides.map Prod.fst))

/-- The choice that a tag makes: the text after its exclamation mark. -/
def choice? (tag : Option String) : Option String :=
  match tag.map String.toList with
  | some ('!' :: rest) => some (String.ofList rest)
  | _ => none

/-- Reads the content of a choice made by a tag, which must be empty or null. -/
def readEmptyContent (path : SettingPath) (part : Part) (m : Mark) :
    Checked Unit :=
  match part with
  | .scalar _ text style =>
    if style = .plain && (text.isEmpty || isNull text) then .ok ()
    else locate path m (problem (.wrongValue text "null"))
  | part => locate path m (problem (wrongPart part "unit"))

/-- Reads one of the two implementations: its letter, or a tag that names it. -/
def readSide (path : SettingPath) (position : Nat) : Checked (Side × Nat) := do
  let node ← nodeAt document position
  let (part, m) ← partAt document node
  let tag := match part with
    | .scalar tag _ _ => tag
    | .sequenceStart tag => tag
    | .mappingStart tag => tag
    | _ => none
  match choice? tag, part with
  | some choice, part =>
    let side ← sideOf choice
    readEmptyContent path part m
    .ok (side, after position node (node + 1))
  | none, .scalar _ text _ =>
    let side ← locate path m (sideOf text)
    .ok (side, after position node (node + 1))
  | none, part => locate path m (problem (wrongPart part "a YAML tag starting with '!'"))

/-- The name and the prefix read so far. -/
abbrev PartialTag := Option String × Option String

/-- The keys of a tag; others are skipped. -/
def tagKeys : Keys PartialTag where
  kind := "ImplementationTag"
  known := ["name", "prefix"]
  strict := false
  has state key := if key = "name" then state.1.isSome else state.2.isSome
  value state key path position := do
    let (text, stop) ← readText document "a string" path position
    .ok (if key = "name" then (some text, state.2) else (state.1, some text), stop)

/-- The tag whose name and prefix have been read. -/
def finishTag : PartialTag → Checked Tag
  | (none, _) => problem (.missingKey "name")
  | (some _, none) => problem (.missingKey "prefix")
  | (some name, some methodPrefix) => .ok ⟨name, methodPrefix⟩

/-- Reads the tag of an implementation. -/
def readTag (path : SettingPath) (position : Nat) : Checked (Tag × Nat) :=
  readRecord document (tagKeys document) (none, none) finishTag path position

/-- The tags read so far: whether each key was met, and its value. -/
abbrev PartialTags := Option (Option Tag) × Option (Option Tag)

/-- The keys of the section that names the implementations. -/
def sectionKeys : Keys PartialTags where
  kind := "ImplementationsSection"
  known := ["a", "b"]
  strict := true
  has state key := if key = "a" then state.1.isSome else state.2.isSome
  value state key path position := do
    let (tag, stop) ← readOptional document (readTag document) path position
    .ok (if key = "a" then (some tag, state.2) else (state.1, some tag), stop)

/-- Reads the section that names the implementations. -/
def readSection (path : SettingPath) (position : Nat) : Checked (PartialTags × Nat) :=
  readRecord document (sectionKeys document) (none, none) .ok path position

/-- The settings read so far. -/
abbrev PartialSettings := Option PartialTags × Option (Option Side)

/-- The keys of a configuration. -/
def settingKeys : Keys PartialSettings where
  kind := "ConfigFile"
  known := ["implementations", "baseline"]
  strict := true
  has state key := if key = "implementations" then state.1.isSome else state.2.isSome
  value state key path position := do
    if key = "implementations" then
      let (tags, stop) ← readSection document path position
      .ok ((some tags, state.2), stop)
    else
      let (side, stop) ← readOptional document (readSide document) path position
      .ok ((state.1, some side), stop)

/-- The configuration whose settings have been read. -/
def finishSettings (state : PartialSettings) : Configuration :=
  let tags := state.1.getD (none, none)
  ⟨tags.1.join, tags.2.join, state.2.join⟩

/-- Reads a configuration from a document. -/
def ofDocument : Checked Configuration := do
  let (configuration, _) ← readRecord document (settingKeys document) (none, none)
    (fun state => .ok (finishSettings state)) .root 0
  match document.interruption with
  | some interruption => .error (.interrupted interruption)
  | none => if document.more then .error .severalDocuments else .ok configuration

end

/-- Reads a configuration from its text. -/
def ofText (text : String) : Checked Configuration :=
  ofDocument (Yaml.Document.ofText text)

/-- The set of implementations that a text configures. -/
def parse (text : String) : Checked ImplementationSet := do
  (← ofText text).toSet.mapError .tags

end Configuration

end Concord
