import Concord.Json.Agreement
import Concord.Json.Shape

/-!
# Wrapped intervals

An `Interval` is a wrapped interval as the test generator records it: two ends, whether it is the
empty interval, and any further members such as the bit width. `Interval.ofValue` reads one out of
a JSON value and `Interval.toValue` gives the value back. `displayValue` shows a value for a
reader: in brackets if it is an interval, else as JSON.
-/

namespace Concord

open Json

/-- A recorded wrapped interval. -/
structure Interval where
  /-- The end it starts from. -/
  start : Number
  /-- The end it runs to, which may lie below the start. -/
  finish : Number
  /-- Whether it is the empty interval; the ends then mean nothing. -/
  isBottom : Bool
  /-- The other members, such as the bit width. -/
  extra : Members

namespace Interval

/-- The names of the members that make an interval. -/
def keys : List String := ["start", "end", "is_bottom"]

/-- Reads an interval. A member of the wrong kind is reported before one that is absent. -/
def ofValue (value : Value) : Except ShapeError Interval := do
  let members ← value.asRecord "Interval"
  let finish ← readMember? "end" Value.asNumber members
  let isBottom ← readMember? "is_bottom" Value.asBool members
  let start ← readMember? "start" Value.asNumber members
  return {
    start := ← require "start" start
    finish := ← require "end" finish
    isBottom := ← require "is_bottom" isBottom
    extra := without keys members }

/-- The interval that a value stands for, if it has the shape of one. -/
def ofOutput? (value : Value) : Option Interval := (ofValue value).toOption

/-- The members that make the interval, in their order of declaration. -/
def ownMembers (i : Interval) : Members :=
  [("start", .number i.start), ("end", .number i.finish), ("is_bottom", .bool i.isBottom)]

/-- The interval as a record: its own members, then the others. -/
def toRecord (i : Interval) : Value := .object (i.ownMembers ++ i.extra)

/-- The interval as a value: all members in the order of their keys. -/
def toValue (i : Interval) : Value := .object (sortMembers (i.ownMembers ++ i.extra))

/-- The interval in brackets, with its bit width if it has one. -/
def display (i : Interval) : String :=
  if i.isBottom then "⊥ (bottom)"
  else
    let ends := "[" ++ String.ofList i.start.chars ++ ", " ++ String.ofList i.finish.chars ++ "]"
    match find? "bitwidth" i.extra with
    | some bits => ends ++ " (" ++ bits.compact ++ "bit)"
    | none => ends

/-- Whether two intervals have the same members, with numbers of the same kind and value. -/
def same (i j : Interval) : Bool :=
  i.start.same j.start && i.finish.same j.finish && i.isBottom == j.isBottom &&
    sameMembers i.extra j.extra

end Interval

/-- A value as it is shown: an interval in brackets, any other value as JSON. -/
def displayValue (value : Value) : String :=
  match Interval.ofOutput? value with
  | some interval => interval.display
  | none => value.compact

end Concord
