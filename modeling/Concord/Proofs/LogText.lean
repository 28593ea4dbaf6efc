import Concord.LogEvent
import Concord.Proofs.Json.NumeralText
import Concord.Proofs.Text.Lines

/-!
# Texts of logs

Before its break the line of an event has no other, unless the event names a file: numbers and
quoted texts show every character. So the text of a log splits at its breaks into its events.
Numbers and quoted texts also end where a reader finds their end. So the line of an event that is
told for debugging determines the event, and the text of a log of such events determines them all.
-/

namespace Concord

open Text

/-- Numbers in front of texts that do not go on with a digit are determined, and so are the texts
after them. -/
theorem toString_append_inj {n m : Nat} {rest others : List Char} (ends : Json.EndsDigits rest)
    (endsToo : Json.EndsDigits others)
    (same : (toString n).toList ++ rest = (toString m).toList ++ others) :
    n = m ∧ rest = others := by
  simp only [Nat.toString_eq_repr, Nat.toList_repr] at same
  obtain ⟨digits, after⟩ := Json.takeWhile_run (Json.isRun_toDigits n).all ends
  obtain ⟨digits', after'⟩ := Json.takeWhile_run (Json.isRun_toDigits m).all endsToo
  rw [same, digits'] at digits
  rw [same, after'] at after
  refine ⟨?_, after.symm⟩
  rw [← Nat.ofDigitChars_toDigits (by decide) (by decide) (n := n) (b := 10), ← digits,
    Nat.ofDigitChars_toDigits (by decide) (by decide)]

/-- The name of a suite determines it. -/
theorem Suite.key_injective : Function.Injective Suite.key := by
  intro s t same
  cases s <;> cases t <;> first | rfl | exact absurd same (by decide)

namespace LogEvent

/-- The line of the event up to its named values. -/
def front (event : LogEvent) : String := event.level.label ++ " " ++ event.message

/-- The line of the event without its break. -/
def body (event : LogEvent) : String :=
  event.front ++ String.join (event.fields.map fieldText)

/-- A line ends with its only break. -/
theorem line_eq (event : LogEvent) : event.line = event.body ++ "\n" := rfl

/-- The named values stand one after the other. -/
theorem toList_body (event : LogEvent) :
    event.body.toList =
      event.front.toList ++ event.fields.flatMap fun field => (fieldText field).toList := by
  rw [body, String.toList_append, String.toList_join, List.flatMap_map]

/-- A named value starts with a blank. -/
theorem toList_fieldText (name value : String) :
    (fieldText (name, value)).toList = ' ' :: (name.toList ++ '=' :: value.toList) := by
  simp [fieldText]

/-- The line of a dropped case starts with its level and its message. -/
theorem front_dropped (suite : Suite) (index : Nat) (operation : String) :
    (dropped suite index operation).front =
      "DEBUG dropping record without results from both implementations" := by
  show "DEBUG" ++ " " ++ "dropping record without results from both implementations" = _
  simp only [String.reduceAppend]

/-- The line of a suite that was compared starts with its level and its message. -/
theorem front_compared (suite : Suite) (records kept examined differences : Nat) :
    (compared suite records kept examined differences).front = "DEBUG suite compared" := by
  show "DEBUG" ++ " " ++ "suite compared" = _
  simp only [String.reduceAppend]

/-- The line of a dropped case ends with its operation, quoted. -/
theorem toList_body_dropped (suite : Suite) (index : Nat) (operation : String) :
    (dropped suite index operation).body.toList =
      ((dropped suite index operation).front.toList ++ (fieldText (suiteField suite)).toList ++
        (fieldText ("index", toString index)).toList ++ " operation=".toList) ++
        (quote operation).toList := by
  rw [toList_body]
  simp only [fields, List.flatMap_cons, List.flatMap_nil, List.append_nil, List.append_assoc,
    List.append_cancel_left_eq]
  rw [toList_fieldText "operation"]
  rfl

section Showing

/-- A named value shows if its name and its value do. -/
theorem shows_fieldText {name value : String} (basic : name.toList.all isBasic = true)
    (shown : Shows value.toList) : Shows (fieldText (name, value)).toList := by
  have blank : Shows [' '] := shows_of_basic (by decide)
  have sign : Shows ['='] := shows_of_basic (by decide)
  rw [toList_fieldText]
  exact blank.append ((shows_of_basic basic).append (sign.append shown))

/-- The message of an event that names no file shows: it is a text of its own with numbers. -/
theorem shows_message {event : LogEvent} (fileless : event.level ≠ .info) :
    Shows event.message.toList := by
  cases event
  case saved path => exact (fileless rfl).elim
  case mismatched suite index =>
    show Shows ("Mismatched test case at index " ++ toString index).toList
    rw [String.toList_append]
    exact Shows.append (shows_of_basic (by decide)) (shows_toString index)
  case missing suite index =>
    show Shows ("Missing output for case " ++ toString index).toList
    rw [String.toList_append]
    exact Shows.append (shows_of_basic (by decide)) (shows_toString index)
  case skipped suite unlike absent =>
    show Shows (toString (unlike + absent) ++ " aligned case(s) skipped").toList
    rw [String.toList_append]
    exact Shows.append (shows_toString (unlike + absent)) (shows_of_basic (by decide))
  case dropped =>
    show Shows "dropping record without results from both implementations".toList
    exact shows_of_basic (by decide)
  case lengthsDiffer =>
    show Shows "record collections differ in length; comparing common prefix only".toList
    exact shows_of_basic (by decide)
  case compared =>
    show Shows "suite compared".toList
    exact shows_of_basic (by decide)

/-- The named values of an event show: they are numbers and quoted texts. -/
theorem shows_fields (event : LogEvent) :
    ∀ field ∈ event.fields, Shows (fieldText field).toList := by
  intro field there
  have number (name : String) (n : Nat) (basic : name.toList.all isBasic = true) :
      Shows (fieldText (name, toString n)).toList := shows_fieldText basic (shows_toString n)
  have quoted (name text : String) (basic : name.toList.all isBasic = true) :
      Shows (fieldText (name, quote text)).toList := shows_fieldText basic (shows_quote text)
  cases event <;> simp only [fields, suiteField, List.mem_cons, List.not_mem_nil, or_false] at there
  case dropped suite index operation =>
    rcases there with rfl | rfl | rfl
    · exact quoted "suite" suite.key (by decide)
    · exact number "index" index (by decide)
    · exact quoted "operation" operation (by decide)
  all_goals
    rcases there with rfl | there
    · exact quoted "suite" _ (by decide)
  case mismatched => exact there ▸ number "index" _ (by decide)
  case missing => exact there ▸ number "index" _ (by decide)
  all_goals
    rcases there with rfl | there
    · exact number _ _ (by decide)
  case lengthsDiffer => exact there ▸ number "b" _ (by decide)
  case skipped => exact there ▸ number "missing" _ (by decide)
  rcases there with rfl | rfl | rfl
  all_goals exact number _ _ (by decide)

/-- The line of an event that names no file shows every character. -/
theorem shows_body_of_fileless {event : LogEvent} (fileless : event.level ≠ .info) :
    Shows event.body.toList := by
  have label : Shows event.level.label.toList := by
    cases event.level <;> exact shows_of_basic (by decide)
  have blank : Shows " ".toList := shows_of_basic (by decide)
  have front : Shows event.front.toList := by
    rw [LogEvent.front, String.toList_append, String.toList_append]
    exact (label.append blank).append (shows_message fileless)
  rw [toList_body]
  refine front.append fun c there => ?_
  obtain ⟨field, member, inside⟩ := List.mem_flatMap.mp there
  exact shows_fields event field member c inside

/-- The line of an event that is told for debugging shows every character. -/
theorem shows_body {event : LogEvent} (debug : event.level = .debug) :
    Shows event.body.toList :=
  shows_body_of_fileless (by simp [debug])

end Showing

section Determining

/-- Quoted values under one name that begin equal texts are the same, and equal texts follow. -/
theorem quotedField_append_inj {name s t : String} {rest others : List Char}
    (same : (fieldText (name, quote s)).toList ++ rest =
      (fieldText (name, quote t)).toList ++ others) : s = t ∧ rest = others := by
  simp only [toList_fieldText, List.cons_append, List.append_assoc, List.cons.injEq, true_and,
    List.append_cancel_left_eq] at same
  exact quote_append_inj same

/-- Numbers under one name in front of texts that do not go on with a digit are the same if equal
texts begin so, and equal texts follow. -/
theorem numberField_append_inj {name : String} {n m : Nat} {rest others : List Char}
    (ends : Json.EndsDigits rest) (endsToo : Json.EndsDigits others)
    (same : (fieldText (name, toString n)).toList ++ rest =
      (fieldText (name, toString m)).toList ++ others) : n = m ∧ rest = others := by
  simp only [toList_fieldText, List.cons_append, List.append_assoc, List.cons.injEq, true_and,
    List.append_cancel_left_eq] at same
  exact toString_append_inj ends endsToo same

/-- A number ends where a named value begins. -/
theorem endsDigits_fieldText (name value : String) (rest : List Char) :
    Json.EndsDigits ((fieldText (name, value)).toList ++ rest) := by
  rw [toList_fieldText]
  exact Json.endsDigits_cons (by decide) _

/-- The line of a dropped case determines it. -/
theorem body_dropped_inj {suite suite' : Suite} {index index' : Nat} {operation operation' : String}
    (same : (dropped suite index operation).body = (dropped suite' index' operation').body) :
    dropped suite index operation = dropped suite' index' operation' := by
  have named := congrArg String.toList same
  rw [toList_body, toList_body, front_dropped, front_dropped, List.append_cancel_left_eq] at named
  simp only [fields, suiteField, List.flatMap_cons, List.flatMap_nil] at named
  -- The named values are taken off one after the other; each ends where the next one begins.
  obtain ⟨key, indexed⟩ := quotedField_append_inj named
  obtain ⟨index, quoted⟩ := numberField_append_inj (by exact endsDigits_fieldText _ _ _)
    (by exact endsDigits_fieldText _ _ _) indexed
  obtain ⟨operation, -⟩ := quotedField_append_inj quoted
  rw [Suite.key_injective key, index, operation]

/-- The line of a suite that was compared determines its counts. -/
theorem body_compared_inj {suite suite' : Suite} {records records' kept kept' : Nat}
    {examined examined' differences differences' : Nat}
    (same : (compared suite records kept examined differences).body =
      (compared suite' records' kept' examined' differences').body) :
    compared suite records kept examined differences =
      compared suite' records' kept' examined' differences' := by
  have named := congrArg String.toList same
  rw [toList_body, toList_body, front_compared, front_compared,
    List.append_cancel_left_eq] at named
  simp only [fields, suiteField, List.flatMap_cons, List.flatMap_nil] at named
  obtain ⟨key, counted⟩ := quotedField_append_inj named
  obtain ⟨records, split⟩ := numberField_append_inj (by exact endsDigits_fieldText _ _ _)
    (by exact endsDigits_fieldText _ _ _) counted
  obtain ⟨kept, afterSplit⟩ := numberField_append_inj (by exact endsDigits_fieldText _ _ _)
    (by exact endsDigits_fieldText _ _ _) split
  obtain ⟨examined, last⟩ := numberField_append_inj (by exact endsDigits_fieldText _ _ _)
    (by exact endsDigits_fieldText _ _ _) afterSplit
  obtain ⟨differences, -⟩ := numberField_append_inj Json.endsDigits_nil Json.endsDigits_nil last
  rw [Suite.key_injective key, records, kept, examined, differences]

/-- The line of a dropped case is not that of a suite that was compared. -/
theorem body_dropped_ne_compared (suite suite' : Suite) (index : Nat) (operation : String)
    (records kept examined differences : Nat) :
    (dropped suite index operation).body ≠
      (compared suite' records kept examined differences).body := by
  intro same
  have start := congrArg (fun line => line.toList.take 7) same
  simp only [toList_body, front_dropped, front_compared] at start
  rw [List.take_append_of_le_length (by decide), List.take_append_of_le_length (by decide)] at start
  exact absurd start (by decide)

/-- The line of an event that is told for debugging determines it. -/
theorem body_inj {event other : LogEvent} (debug : event.level = .debug)
    (debugToo : other.level = .debug) (same : event.body = other.body) : event = other := by
  cases event
  case dropped =>
    cases other
    case dropped => exact body_dropped_inj same
    case compared => exact (body_dropped_ne_compared _ _ _ _ _ _ _ _ same).elim
    all_goals contradiction
  case compared =>
    cases other
    case dropped => exact (body_dropped_ne_compared _ _ _ _ _ _ _ _ same.symm).elim
    case compared => exact body_compared_inj same
    all_goals contradiction
  all_goals contradiction

end Determining

end LogEvent

/-- The text of a log puts the lines of its events one after the other. -/
theorem logText_eq (events : List LogEvent) :
    logText events = putLines (events.map LogEvent.body) "" := by
  rw [putLines, String.append_empty, List.map_map]
  rfl

/-- The text of a log of events that name no file has one line for each of them. -/
theorem splitOn_logText_of_fileless {events : List LogEvent}
    (fileless : ∀ event ∈ events, event.level ≠ .info) :
    (logText events).toList.splitOn '\n' = events.map (fun event => event.body.toList) ++ [[]] := by
  have single : ∀ line ∈ events.map LogEvent.body, OneLine line := by
    intro line there
    obtain ⟨event, told, rfl⟩ := List.mem_map.mp there
    exact (LogEvent.shows_body_of_fileless (fileless event told)).oneLine
  rw [logText_eq, splitOn_putLines single, List.map_map]
  rfl

/-- The text of a log of events that are told for debugging has one line for each of them. -/
theorem splitOn_logText {events : List LogEvent}
    (debug : ∀ event ∈ events, event.level = .debug) :
    (logText events).toList.splitOn '\n' = events.map (fun event => event.body.toList) ++ [[]] :=
  splitOn_logText_of_fileless fun event told => by simp [debug event told]

/-- The text of a log of events that are told for debugging determines them. -/
theorem logText_inj {events others : List LogEvent}
    (debug : ∀ event ∈ events, event.level = .debug)
    (debugToo : ∀ event ∈ others, event.level = .debug)
    (same : logText events = logText others) : events = others := by
  have lines : events.map (fun event => event.body.toList) =
      others.map fun event => event.body.toList := by
    rw [← List.append_left_inj [[]], ← splitOn_logText debug, ← splitOn_logText debugToo, same]
  clear same
  induction events generalizing others with
  | nil => exact (List.map_eq_nil_iff.mp lines.symm).symm
  | cons event events ih =>
    cases others with
    | nil => contradiction
    | cons other others =>
      rw [List.forall_mem_cons] at debug debugToo
      obtain ⟨first, later⟩ := List.cons.inj lines
      rw [LogEvent.body_inj debug.1 debugToo.1 (String.toList_injective first),
        ih debug.2 debugToo.2 later]

end Concord
