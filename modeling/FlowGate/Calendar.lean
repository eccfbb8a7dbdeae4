import FlowGate.Text.Quoted
import FlowGate.Total

/-!
# Dates and moments

A date is a day of the calendar; a moment adds the time of day to the microsecond and, if it is
known, the offset from universal time in minutes. `Date.check` and `Moment.check` give the first
part that is out of range; `Moment.same` compares moments with different offsets.
-/

namespace FlowGate

structure Date where
  year : Nat
  month : Nat
  day : Nat
  deriving DecidableEq, Repr

structure Moment where
  date : Date
  hour : Nat
  minute : Nat
  second : Nat
  micro : Nat
  /-- Minutes east of universal time. -/
  offset : Option Int
  deriving DecidableEq, Repr

inductive CalendarFault where
  | year (n : Nat)
  | month
  | day
  | hour
  | minute
  | second
  | offset (minutes : Int)
  deriving DecidableEq, Repr

/-- The literal of a length of time in minutes: whole days and the seconds left over. -/
def durationLiteral (minutes : Int) : String :=
  let days := minutes / 1440
  let seconds := minutes % 1440 * 60
  let parts := (if days = 0 then [] else ["days=" ++ toString days])
    ++ (if seconds = 0 then [] else ["seconds=" ++ toString seconds])
  "datetime.timedelta(" ++ (if parts.isEmpty then "0" else ", ".intercalate parts) ++ ")"

def CalendarFault.message : CalendarFault → String
  | year n => "year " ++ toString n ++ " is out of range"
  | month => "month must be in 1..12"
  | day => "day is out of range for month"
  | hour => "hour must be in 0..23"
  | minute => "minute must be in 0..59"
  | second => "second must be in 0..59"
  | offset minutes =>
    "offset must be a timedelta strictly between -timedelta(hours=24) and timedelta(hours=24), not "
      ++ durationLiteral minutes ++ "."

namespace Date

def isLeap (year : Nat) : Bool :=
  year % 4 == 0 && (year % 100 != 0 || year % 400 == 0)

def daysIn (year month : Nat) : Nat :=
  match month with
  | 2 => if isLeap year then 29 else 28
  | 4 | 6 | 9 | 11 => 30
  | _ => 31

def dayNumber (d : Date) : Nat :=
  let past := d.year - 1
  let months := total (fun m => daysIn d.year (m + 1)) (List.range (d.month - 1))
  365 * past + past / 4 - past / 100 + past / 400 + months + d.day

/-- The date itself, if its parts are in range. -/
def check (d : Date) : Except CalendarFault Date :=
  if d.year = 0 || 9999 < d.year then .error (.year d.year)
  else if d.month = 0 || 12 < d.month then .error .month
  else if d.day = 0 || daysIn d.year d.month < d.day then .error .day
  else .ok d

/-- A number with at least `width` digits. -/
def padded (width n : Nat) : String :=
  let digits := Nat.toDigits 10 n
  String.ofList (List.replicate (width - digits.length) '0' ++ digits)

/-- Year, month and day with dashes. -/
def toText (d : Date) : String :=
  padded 4 d.year ++ "-" ++ padded 2 d.month ++ "-" ++ padded 2 d.day

end Date

namespace Moment

/-- The moment itself, if its parts are in range; an offset stays below a day. -/
def check (m : Moment) : Except CalendarFault Moment := do
  match m.offset with
  | some minutes => if 1440 ≤ minutes.natAbs then throw (.offset minutes)
  | none => pure ()
  let _ ← m.date.check
  if 23 < m.hour then throw .hour
  if 59 < m.minute then throw .minute
  if 59 < m.second then throw .second
  return m

/-- The minutes from the start of the calendar in universal time, for a moment with an offset. -/
def universalMinutes (m : Moment) (offset : Int) : Int :=
  (m.date.dayNumber : Int) * 1440 + m.hour * 60 + m.minute - offset

/-- Whether two moments are the same point in time; without offsets they are if they read the
same. -/
def same (m n : Moment) : Bool :=
  match m.offset, n.offset with
  | some o, some p =>
    m.universalMinutes o == n.universalMinutes p && m.second == n.second && m.micro == n.micro
  | _, _ => m == n

def offsetText (minutes : Int) : String :=
  let n := minutes.natAbs
  (if minutes < 0 then "-" else "+") ++ Date.padded 2 (n / 60) ++ ":" ++ Date.padded 2 (n % 60)

/-- Date and time with a separator, microseconds only where there are any, then the offset. -/
def toText (m : Moment) (separator : String) : String :=
  m.date.toText ++ separator ++ Date.padded 2 m.hour ++ ":" ++ Date.padded 2 m.minute ++ ":"
    ++ Date.padded 2 m.second
    ++ (if m.micro = 0 then "" else "." ++ Date.padded 6 m.micro)
    ++ (m.offset.map offsetText).getD ""

end Moment

end FlowGate
