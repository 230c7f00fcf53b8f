import ConfigNamespace.Number.Numeral
import ConfigNamespace.Text.Quoted
import ConfigNamespace.Text.Utf8

/-!
# Calendar dates

Dates of the proleptic Gregorian calendar in the years 1 to 9999. A date is written as year, month
and day or as year, week and day of the week, with hyphens between all parts or between none.
-/

namespace ConfigNamespace

/-- A date. -/
structure Date where
  /-- The year. -/
  year : Nat
  /-- The month, from 1 on. -/
  month : Nat
  /-- The day of the month, from 1 on. -/
  day : Nat
  deriving DecidableEq, Repr

/-- Why a text is no date or no time. -/
inductive CalendarFault
  /-- The text does not have one of the written forms. -/
  | malformed (literal : Text)
  /-- The year lies outside of the calendar. -/
  | year (year : Nat)
  /-- The month is not one of the twelve. -/
  | month
  /-- The month has no such day. -/
  | day
  /-- The day has no such hour. -/
  | hour
  /-- The hour has no such minute. -/
  | minute
  /-- The minute has no such second. -/
  | second
  /-- The offset reaches a whole day; it is given in microseconds. -/
  | offset (microseconds : Int)
  deriving DecidableEq

/-- Whether a year has 366 days. -/
def isLeapYear (year : Nat) : Bool := year % 4 == 0 && (year % 100 != 0 || year % 400 == 0)

/-- How many days a month has. -/
def daysInMonth (year month : Nat) : Nat :=
  if month = 2 then (if isLeapYear year then 29 else 28)
  else if month = 4 ∨ month = 6 ∨ month = 9 ∨ month = 11 then 30
  else 31

/-- How many days a year has. -/
def daysInYear (year : Nat) : Nat := if isLeapYear year then 366 else 365

/-- How many days lie before the first day of a year, counted from the year 1. -/
def daysBeforeYear (year : Nat) : Nat :=
  let past := year - 1
  past * 365 + past / 4 - past / 100 + past / 400

/-- How many days of a year lie before a month. -/
def daysBeforeMonth (year month : Nat) : Nat :=
  ((List.range 12).filter fun m => 1 ≤ m && m < month).foldl (fun n m => n + daysInMonth year m) 0

/-- Days from the first day of the year 1 on, which is day zero. -/
def Date.dayNumber (d : Date) : Nat :=
  daysBeforeYear d.year + daysBeforeMonth d.year d.month + (d.day - 1)

/-- The weekday of a day number, zero for Monday. -/
def weekday (dayNumber : Nat) : Nat := dayNumber % 7

/-- The month and day of the day with the given number in a year, counting months from `month`. -/
def monthAndDay (year : Nat) : (remaining month number : Nat) → Nat × Nat
  | 0, month, number => (month, number + 1)
  | remaining + 1, month, number =>
    if number < daysInMonth year month then (month, number + 1)
    else monthAndDay year remaining (month + 1) (number - daysInMonth year month)

/-- The date that lies `number` days after the first of January of a year, not in a later year than
the next one. -/
def Date.ofDayOfYear (year number : Nat) : Date :=
  let inNext := daysInYear year ≤ number
  let year' := if inNext then year + 1 else year
  let md := monthAndDay year' 11 1 (if inNext then number - daysInYear year else number)
  ⟨year', md.1, md.2⟩

/-- Whether a year of weeks has 53 of them: it starts on a Thursday, or on a Wednesday and is a
leap year. -/
def hasWeek53 (year : Nat) : Bool :=
  let first := weekday (daysBeforeYear year)
  first == 3 || (first == 2 && isLeapYear year)

/-- The date of a day in a week of a year. The first week is the one with the first Thursday. -/
def Date.ofWeek? (year week day : Nat) : Option Date :=
  if 1 ≤ year ∧ year ≤ 9999 ∧ 1 ≤ week ∧ (week < 53 ∨ week = 53 ∧ hasWeek53 year) ∧
      1 ≤ day ∧ day ≤ 7 then
    let first := weekday (daysBeforeYear year)
    let later := (week - 1) * 7 + (day - 1)
    -- The Monday of the first week lies up to three days before the year or up to three into it.
    if first ≤ 3 then
      if later < first then
        some (Date.ofDayOfYear (year - 1) (daysInYear (year - 1) + later - first))
      else some (Date.ofDayOfYear year (later - first))
    else some (Date.ofDayOfYear year (later + 7 - first))
  else none

/-- A date whose parts are in range. -/
def Date.check (d : Date) : Except CalendarFault Date :=
  if d.year < 1 ∨ 9999 < d.year then .error (.year d.year)
  else if d.month < 1 ∨ 12 < d.month then .error .month
  else if d.day < 1 ∨ daysInMonth d.year d.month < d.day then .error .day
  else .ok d

/-- Reads exactly `count` of the digits `0` to `9`. -/
def Text.fixedDigits? : (count : Nat) → Text → Option (List Nat × Text)
  | 0, s => some ([], s)
  | _ + 1, [] => none
  | count + 1, c :: s =>
    match c.asciiDigit?, fixedDigits? count s with
    | some d, some (digits, rest) => some (d :: digits, rest)
    | _, _ => none

/-- Reads a number of exactly `count` digits. -/
def Text.fixedNumber? (count : Nat) (s : Text) : Option (Nat × Text) :=
  (fixedDigits? count s).map fun (digits, rest) => (natOfDigits digits, rest)

/-- Takes a hyphen off the front where one is called for. -/
def Text.hyphen? (wanted : Bool) (s : Text) : Option Text :=
  if wanted then dropHyphen s else some s
where
  /-- What follows a hyphen. -/
  dropHyphen : Text → Option Text
    | c :: s => if c = '-' then some s else none
    | [] => none

/-- The written parts of a date. A week without a day stands for its Monday, if `size` bytes end
with the week. What follows the parts is not looked at. -/
def Date.parts? (size : Nat) (s : Text) : Option Date := do
  let (year, s) ← Text.fixedNumber? 4 s
  let hyphens : Bool := s.head? = some (CodePoint.ofChar '-')
  let s ← Text.hyphen? hyphens s
  if s.head? = some (CodePoint.ofChar 'W') then
    let (week, s) ← Text.fixedNumber? 2 s.tail
    if 7 + hyphens.toNat < size then
      let s ← Text.hyphen? hyphens s
      let (day, _) ← Text.fixedNumber? 1 s
      Date.ofWeek? year week day
    else Date.ofWeek? year week 1
  else
    let (month, s) ← Text.fixedNumber? 2 s
    let s ← Text.hyphen? hyphens s
    let (day, _) ← Text.fixedNumber? 2 s
    return ⟨year, month, day⟩

/-- Reads a date, which takes 7, 8 or 10 bytes. -/
def Date.read (s : Text) : Except CalendarFault Date :=
  let size := s.utf8.length
  if size = 7 ∨ size = 8 ∨ size = 10 then
    match Date.parts? size s with
    | some d => d.check
    | none => .error (.malformed s)
  else .error (.malformed s)

/-- A date as year, month and day with hyphens. -/
def Date.render (d : Date) : Text :=
  Text.padded 4 d.year ++ text "-" ++ Text.padded 2 d.month ++ text "-" ++ Text.padded 2 d.day

end ConfigNamespace
