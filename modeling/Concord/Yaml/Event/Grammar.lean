import Concord.Yaml.Event
import Concord.Yaml.Token.Lexer

/-!
# From tokens to events

`firstDocument` reads the events of the first document of a text. What has been read before a fault
stays, so a reader of the events meets the fault only when it needs what is missing.
-/

namespace Concord.Yaml

/-- Tokens that have been read up to a place, and the events read so far. -/
structure Production where
  /-- The tokens after the place. -/
  rest : List Token
  /-- Why there are no more tokens. -/
  failure : Option Fault
  /-- The events, the latest first. -/
  events : List (Event × Mark)
  /-- The handles of tags, with what they stand for. -/
  handles : List (String × String)

/-- A step of reading events. A fault leaves the events read before it in place. -/
abbrev Produce (α : Type) := EStateM (Option Fault) Production α

/-- Where a node stands. -/
inductive NodePlace where
  /-- In an indented block. -/
  | block
  /-- In a mapping, where a sequence needs no indentation of its own. -/
  | mappingBlock
  /-- Inside brackets or braces. -/
  | flow
deriving DecidableEq, Repr

namespace Produce

/-- The next token. -/
def peek : Produce Token := do
  let production ← get
  match production.rest with
  | token :: _ => return token
  | [] => throw production.failure

/-- Steps over the next token. -/
def skip : Produce Unit := modify fun p => { p with rest := p.rest.drop 1 }

/-- The token after the next one, which is stepped over. -/
def advance : Produce Token := do
  skip
  peek

/-- Tells an event. -/
def emit (event : Event) (m : Mark) : Produce Unit := modify fun p =>
  { p with events := (event, m) :: p.events }

/-- Tells a scalar without text. -/
def emitEmpty (m : Mark) : Produce Unit := emit (.scalar ⟨none, none⟩ "" .plain) m

/-- Stops at a place. -/
def fault {α : Type} (context : Option (Activity × Mark)) (problem : Problem) (m : Mark) :
    Produce α := throw (some ⟨problem, .mark m, context⟩)

/-- The properties in front of a node: an anchor and a tag in either order. -/
structure WrittenProperties where
  /-- The anchor. -/
  anchor : Option String
  /-- The handle and the rest of the tag, and where the tag begins. -/
  tag : Option (String × String × Mark)
  /-- Where the properties begin. -/
  start : Option Mark

/-- An anchor, if one follows. -/
def anchor? : Produce (Option (String × Mark)) := do
  let token ← peek
  match token.kind with
  | .anchor name =>
    skip
    return some (name, token.start)
  | _ => return none

/-- A tag, if one follows. -/
def tag? : Produce (Option (String × String × Mark)) := do
  let token ← peek
  match token.kind with
  | .tag handle rest =>
    skip
    return some (handle, rest, token.start)
  | _ => return none

/-- The properties in front of a node. -/
def writtenProperties : Produce WrittenProperties := do
  match ← anchor? with
  | some (name, start) => return ⟨some name, ← tag?, some start⟩
  | none =>
    match ← tag? with
    | some (handle, rest, start) =>
      return ⟨(← anchor?).map Prod.fst, some (handle, rest, start), some start⟩
    | none => return ⟨none, none, none⟩

/-- The full tag that a handle and the rest of a tag stand for. -/
def fullTag (start : Mark) : Option (String × String × Mark) → Produce (Option String)
  | none => return none
  | some (handle, rest, m) => do
    if handle.isEmpty then return some rest
    match (← get).handles.lookup handle with
    | some expansion => return some (expansion ++ rest)
    | none => fault (some (.node, start)) .undefinedTagHandle m

mutual

/-- A node with its properties. -/
def node : (fuel : Nat) → NodePlace → Produce Unit
  | 0, _ => throw none
  | fuel + 1, place => do
    let token ← peek
    match token.kind with
    | .alias name =>
      emit (.alias name) token.start
      skip
    | _ =>
      let written ← writtenProperties
      let token ← peek
      let start := written.start.getD token.start
      let properties : NodeProperties := ⟨written.anchor, ← fullTag start written.tag⟩
      match token.kind, place with
      | .blockEntry, .mappingBlock =>
        emit (.sequenceStart properties) start
        flushSequence fuel
      | .scalar text style, _ =>
        let tag := properties.tag.filter fun tag => tag ≠ "!"
        emit (.scalar { properties with tag := tag } text style) start
        skip
      | .flowSequenceStart, _ =>
        emit (.sequenceStart properties) start
        skip
        flowSequence fuel token.start true
      | .flowMappingStart, _ =>
        emit (.mappingStart properties) start
        skip
        flowMapping fuel token.start true
      | kind, place =>
        if kind = .blockSequenceStart && place ≠ .flow then
          emit (.sequenceStart properties) start
          skip
          blockSequence fuel token.start
        else if kind = .blockMappingStart && place ≠ .flow then
          emit (.mappingStart properties) start
          skip
          blockMapping fuel token.start
        else if properties.anchor.isSome || properties.tag.isSome then
          emit (.scalar properties "" .plain) start
        else
          fault (some (if place = .flow then .flowNode else .blockNode, start)) .missingContent
            token.start

/-- The entries of an indented sequence. -/
def blockSequence : (fuel : Nat) → Mark → Produce Unit
  | 0, _ => throw none
  | fuel + 1, began => do
    let token ← peek
    match token.kind with
    | .blockEntry =>
      let next ← advance
      if next.kind = .blockEntry || next.kind = .blockEnd then emitEmpty token.stop
      else node fuel .block
      blockSequence fuel began
    | .blockEnd =>
      emit .sequenceEnd token.start
      skip
    | _ => fault (some (.blockCollection, began)) .missingDash token.start

/-- The entries of a sequence that stands flush with the mapping around it. -/
def flushSequence : (fuel : Nat) → Produce Unit
  | 0 => throw none
  | fuel + 1 => do
    let token ← peek
    match token.kind with
    | .blockEntry =>
      let next ← advance
      if [.blockEntry, .key, .value, .blockEnd].contains next.kind then emitEmpty token.stop
      else node fuel .block
      flushSequence fuel
    | _ => emit .sequenceEnd token.start

/-- The keys and values of an indented mapping. -/
def blockMapping : (fuel : Nat) → Mark → Produce Unit
  | 0, _ => throw none
  | fuel + 1, began => do
    let token ← peek
    match token.kind with
    | .key =>
      let next ← advance
      if [.key, .value, .blockEnd].contains next.kind then emitEmpty token.stop
      else node fuel .mappingBlock
      blockValue fuel
      blockMapping fuel began
    | .blockEnd =>
      emit .mappingEnd token.start
      skip
    | _ => fault (some (.blockMapping, began)) .missingKey token.start

/-- The value of a key in an indented mapping. -/
def blockValue : (fuel : Nat) → Produce Unit
  | 0 => throw none
  | fuel + 1 => do
    let token ← peek
    match token.kind with
    | .value =>
      let next ← advance
      if [.key, .value, .blockEnd].contains next.kind then emitEmpty token.stop
      else node fuel .mappingBlock
    | _ => emitEmpty token.start

/-- The entries of a sequence in brackets. An entry may be a mapping of one key without braces. -/
def flowSequence : (fuel : Nat) → Mark → (first : Bool) → Produce Unit
  | 0, _, _ => throw none
  | fuel + 1, began, first => do
    let token ← peek
    let token ←
      if token.kind = .flowSequenceEnd || first then pure token
      else if token.kind = .flowEntry then advance
      else fault (some (.flowSequence, began)) .missingSequenceComma token.start
    match token.kind with
    | .flowSequenceEnd =>
      emit .sequenceEnd token.start
      skip
    | .key =>
      emit (.mappingStart ⟨none, none⟩) token.start
      let next ← advance
      if [.value, .flowEntry, .flowSequenceEnd].contains next.kind then
        skip
        emitEmpty next.stop
      else
        node fuel .flow
      flowPairValue fuel
      flowSequence fuel began false
    | _ =>
      node fuel .flow
      flowSequence fuel began false

/-- The value of a mapping of one key without braces. -/
def flowPairValue : (fuel : Nat) → Produce Unit
  | 0 => throw none
  | fuel + 1 => do
    let token ← peek
    if token.kind = .value then
      let next ← advance
      if [.flowEntry, .flowSequenceEnd].contains next.kind then emitEmpty next.start
      else node fuel .flow
    else
      emitEmpty token.start
    emit .mappingEnd (← peek).start

/-- The keys and values of a mapping in braces. A key may stand without a value. -/
def flowMapping : (fuel : Nat) → Mark → (first : Bool) → Produce Unit
  | 0, _, _ => throw none
  | fuel + 1, began, first => do
    let token ← peek
    let token ←
      if token.kind = .flowMappingEnd || first then pure token
      else if token.kind = .flowEntry then advance
      else fault (some (.flowMapping, began)) .missingMappingComma token.start
    match token.kind with
    | .flowMappingEnd =>
      emit .mappingEnd token.start
      skip
    | .key =>
      let next ← advance
      if [.value, .flowEntry, .flowMappingEnd].contains next.kind then emitEmpty next.start
      else node fuel .flow
      flowValue fuel
      flowMapping fuel began false
    | _ =>
      node fuel .flow
      emitEmpty (← peek).start
      flowMapping fuel began false

/-- The value of a key in a mapping in braces. -/
def flowValue : (fuel : Nat) → Produce Unit
  | 0 => throw none
  | fuel + 1 => do
    let token ← peek
    if token.kind = .value then
      let next ← advance
      if [.flowEntry, .flowMappingEnd].contains next.kind then emitEmpty next.start
      else node fuel .flow
    else
      emitEmpty token.start

end

/-- The handles that need no directive. -/
def defaultHandles : List (String × String) := [("!", "!"), ("!!", "tag:yaml.org,2002:")]

/-- The directives in front of a document. -/
def directives : (fuel : Nat) → (versioned : Bool) → Produce Unit
  | 0, _ => throw none
  | fuel + 1, versioned => do
    let token ← peek
    match token.kind with
    | .versionDirective major minor =>
      if versioned then fault none .duplicateVersion token.start
      if major ≠ 1 || (minor ≠ 1 && minor ≠ 2) then fault none .wrongVersion token.start
      skip
      directives fuel true
    | .tagDirective handle expansion =>
      if ((← get).handles.lookup handle).isSome then fault none .duplicateTagDirective token.start
      modify fun p => { p with handles := p.handles ++ [(handle, expansion)] }
      skip
      directives fuel versioned
    | _ => modify fun p => { p with handles := p.handles ++ defaultHandles }

/-- The content of a document, of which there may be none after its start. -/
def documentContent (fuel : Nat) : Produce Unit := do
  let token ← peek
  match token.kind with
  | .versionDirective .. => emitEmpty token.start
  | .tagDirective .. => emitEmpty token.start
  | .documentStart => emitEmpty token.start
  | .documentEnd => emitEmpty token.start
  | .streamEnd => emitEmpty token.start
  | _ => node fuel .block

/-- Whether anything but the end of the text follows a document. -/
def moreFollows : List Token → Bool
  | [] => true
  | token :: rest =>
    match token.kind with
    | .documentEnd => moreFollows rest
    | .streamEnd => false
    | _ => true

/-- The first document, and whether anything but the end of the text follows it. -/
def document (fuel : Nat) : Produce Bool := do
  let _ ← peek
  let token ← advance
  match token.kind with
  | .streamEnd => return false
  | .versionDirective .. => explicit
  | .tagDirective .. => explicit
  | .documentStart => explicit
  | _ =>
    modify fun p => { p with handles := defaultHandles }
    node fuel .block
    finish
where
  /-- A document behind its start. -/
  explicit : Produce Bool := do
    directives fuel false
    let token ← peek
    if token.kind ≠ .documentStart then fault none .missingDocumentStart token.start
    skip
    documentContent fuel
    finish
  /-- The end of a document. -/
  finish : Produce Bool := do
    if (← peek).kind = .documentEnd then skip
    return moreFollows (← get).rest

end Produce

/-- The events of the first document of a text. -/
def firstDocument (text : List Char) : DocumentEvents :=
  let cut := tokens text
  let fuel := 4 * cut.items.length + 16
  match (Produce.document fuel).run ⟨cut.items, cut.failure, [], []⟩ with
  | .ok more production => ⟨production.events.reverse, .complete more⟩
  | .error fault production => ⟨production.events.reverse, .broken fault⟩

end Concord.Yaml
