/-
This file writes log records as lines: level, date and time, the file and line that the record
comes from, and its message. Years do not appear, but a time whose year cannot be counted has no
date at all.
-/

import Bindery.Log.Level
import Bindery.Template.Fill
import Bindery.Text.Fields
import Bindery.Validation

namespace Bindery.Log

/-- Where and when a record was made, and its message with the values to fill in. -/
structure Entry where
  level : Level
  file : Datum
  line : Datum
  template : String
  values : List Datum
  /-- Seconds since the beginning of 1970. -/
  time : Datum
deriving Repr

/-- What is wrong with a time. -/
inductive TimeFault where
  | undefined
  /-- More seconds than a clock can count. -/
  | beyondClock
  /-- More years than a calendar can count. -/
  | beyondCalendar
  /-- A year that a calendar counts, but not by its own number. -/
  | beyondYears
  | notNumber (kind : String)
deriving DecidableEq, Repr

/-- The words for a time that has no date. -/
def TimeFault.message : TimeFault → String
  | .undefined => "Invalid value NaN (not a number)"
  | .beyondClock => "timestamp out of range for platform time_t"
  | .beyondCalendar => "[Errno 75] Value too large for defined data type"
  | .beyondYears => "signed integer is greater than maximum"
  | .notNumber kind => "'" ++ kind ++ "' object cannot be interpreted as an integer"

/-- What is wrong with a record. -/
inductive EntryFault where
  | template (fault : Template.Fault)
  | time (fault : TimeFault)
deriving DecidableEq, Repr

/-- A date and a time of day. -/
structure Moment where
  month : Nat
  day : Nat
  hour : Nat
  minute : Nat
  second : Nat
deriving DecidableEq, Repr

/-- The month and the day of a count of days since the beginning of 1970. Years begin in March
here, so that the day that some years lack comes last, and repeat after 400 of them. -/
def monthAndDay (days : Int) : Nat × Nat :=
  let sinceEra := days + 719468
  let dayOfEra := (sinceEra % 146097).toNat
  let yearOfEra :=
    (dayOfEra - dayOfEra / 1460 + dayOfEra / 36524 - dayOfEra / 146096) / 365
  let dayOfYear := dayOfEra - (365 * yearOfEra + yearOfEra / 4 - yearOfEra / 100)
  let shifted := (5 * dayOfYear + 2) / 153
  let day := dayOfYear - (153 * shifted + 2) / 5 + 1
  (if shifted < 10 then shifted + 3 else shifted - 9, day)

/-- The date and time of a count of seconds. -/
def Moment.ofSeconds (seconds : Int) : Moment :=
  let inDay := (seconds % 86400).toNat
  let (month, day) := monthAndDay (seconds / 86400)
  ⟨month, day, inDay / 3600, inDay / 60 % 60, inDay % 60⟩

/-- A number below a hundred with two digits. -/
def twoDigits (value : Nat) : String :=
  if value < 10 then "0" ++ toString value else toString value

/-- Month and day, then the time. -/
def Moment.text (moment : Moment) : String :=
  twoDigits moment.month ++ "-" ++ twoDigits moment.day ++ " " ++ twoDigits moment.hour ++
    ":" ++ twoDigits moment.minute ++ ":" ++ twoDigits moment.second

/-- The part of a path after its last slash. -/
def fileName (path : String) : String := (Text.cut '/' path).getLastD ""

/-- The name of the file of a record. What is not a text has no parts. -/
def Entry.fileName (entry : Entry) : String :=
  match entry.file with
  | .text path => Log.fileName path
  | other => other.literal

/-- The whole part of a count of seconds, as far as a clock counts. -/
def clockSeconds : Datum → Except TimeFault Int
  | .float value =>
    if value.isNaN then .error .undefined
    else if value.isInf then .error .beyondClock
    else
      let exact := Decimal.Binary.ofFloat value
      let down := if exact.negative && !exact.isWhole then exact.whole - 1 else exact.whole
      if down.natAbs ≤ Decimal.twoTo 63 then .ok down else .error .beyondClock
  | value =>
    match Template.count? value with
    | some count => if Datum.fitsWord count then .ok count else .error .beyondClock
    | none => .error (.notNumber value.kind)

/-- Where the years of the calendar begin and end, in seconds. Behind the first end, years are
still counted, but their numbers are too great. -/
def calendarBegin : Int := -67768040609740800
def numberedEnd : Int := 67767976233532800
def calendarEnd : Int := 67768036191676800

/-- The whole seconds of a time that has a date. -/
def wholeSeconds (time : Datum) : Except TimeFault Int := do
  let seconds ← clockSeconds time
  if seconds < calendarBegin ∨ calendarEnd ≤ seconds then .error .beyondCalendar
  else if numberedEnd ≤ seconds then .error .beyondYears
  else .ok seconds

/-- The message of a record. Without values the template is the message, percent signs
included; a single record as value gives its fields by their names. -/
def Entry.message (entry : Entry) : Except Template.Fault String :=
  match entry.values with
  | [] => .ok entry.template
  | [.record (field :: fields)] =>
    Template.fill entry.template (Template.Supply.ofRecord (field :: fields))
  | values => Template.fill entry.template (Template.Supply.ofList values)

/-- The line of a record. -/
def Entry.text (entry : Entry) : Except EntryFault String := do
  let message ← entry.message.mapError EntryFault.template
  let seconds ← (wholeSeconds entry.time).mapError EntryFault.time
  let line ← (Template.fill "%d" (.ofList [entry.line])).mapError EntryFault.template
  return entry.level.text ++ " " ++ (Moment.ofSeconds seconds).text ++ " " ++ entry.fileName ++
    ":" ++ line ++ "] " ++ message

end Bindery.Log
