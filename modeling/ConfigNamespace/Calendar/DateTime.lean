import ConfigNamespace.Calendar.Date
import ConfigNamespace.Number.Power

/-!
# Dates with a time of day

A time follows its date after a separator of one character. Hours, minutes and seconds have two
digits each, with colons between all of them or between none; a fraction may follow, and an offset
from universal time.
-/

namespace ConfigNamespace

/-- The difference between local and universal time. -/
inductive Offset
  /-- Universal time itself. -/
  | utc
  /-- A difference in microseconds, less than a day either way. -/
  | fixed (microseconds : Int)
  deriving DecidableEq, Repr

/-- The difference in microseconds. -/
def Offset.microseconds : Offset → Int
  | .utc => 0
  | .fixed microseconds => microseconds

/-- A time of day. -/
structure TimeOfDay where
  /-- The hour. -/
  hour : Nat
  /-- The minute of the hour. -/
  minute : Nat
  /-- The second of the minute. -/
  second : Nat
  /-- The microsecond of the second. -/
  microsecond : Nat
  deriving DecidableEq, Repr

/-- A date with a time of day, and with an offset if the time is tied to universal time. -/
structure DateTime where
  /-- The date. -/
  date : Date
  /-- The time of day. -/
  time : TimeOfDay
  /-- The difference from universal time. -/
  offset : Option Offset
  deriving DecidableEq, Repr

/-- How many microseconds a day has. -/
def microsecondsPerDay : Int := 86400000000

/-- A duration in microseconds, spelled out in days, seconds and microseconds of which only the days
may be negative. -/
def durationText (microseconds : Int) : Text :=
  let days := microseconds.fdiv microsecondsPerDay
  let rest := microseconds.fmod microsecondsPerDay
  let parts := [("days=", days), ("seconds=", rest / 1000000), ("microseconds=", rest % 1000000)]
  let written := (parts.filter (·.2 ≠ 0)).map fun part => text part.1 ++ Text.ofInt part.2
  let shown := if written.isEmpty then text "0" else List.intercalate (text ", ") written
  text "datetime.timedelta(" ++ shown ++ text ")"

/-- The wording of a fault. -/
def CalendarFault.message : CalendarFault → Text
  | .malformed literal => text "Invalid isoformat string: " ++ literal.quoted
  | .year n => text "year " ++ Text.ofNat n ++ text " is out of range"
  | .month => text "month must be in 1..12"
  | .day => text "day is out of range for month"
  | .hour => text "hour must be in 0..23"
  | .minute => text "minute must be in 0..59"
  | .second => text "second must be in 0..59"
  | .offset microseconds =>
    text "offset must be a timedelta strictly between -timedelta(hours=24) and " ++
    text "timedelta(hours=24), not " ++ durationText microseconds ++ text "."

/-- How many characters of a text its date takes, when the text takes `size` bytes. Which form the
date has shows in its fifth and sixth characters. After a week with hyphens, two more digits count
as a time. After a week without hyphens, an even number of digits up to the first other character
leaves one digit for the day. -/
def dateLength (size : Nat) (s : Text) : Nat :=
  if size = 7 then 7
  else if s[4]? = some (CodePoint.ofChar '-') then
    if s[5]? = some (CodePoint.ofChar 'W') then
      if s[8]? = some (CodePoint.ofChar '-') then
        if (s[10]?.bind CodePoint.asciiDigit?).isSome then 8 else 10
      else 8
    else 10
  else if s[4]? = some (CodePoint.ofChar 'W') then
    let position := 7 + ((s.drop 7).takeWhile fun c => c.asciiDigit?.isSome).length
    if position < 9 then position else if position % 2 = 0 then 7 else 8
  else 8

/-- A time of day as it is written, and whether anything follows it. -/
structure WrittenTime where
  /-- The time; its parts may be out of range. -/
  time : TimeOfDay
  /-- Whether something follows the time. -/
  followed : Bool
  deriving DecidableEq, Repr

/-- Whether a text has ended. A null character counts as its end. -/
def Text.hasEnded : Text → Bool
  | [] => true
  | c :: _ => c.val = 0

/-- Reads the fraction of a second from the first `length` characters: up to six digits count, and
more are passed over. -/
def readFraction? (length : Nat) (s : Text) : Option (Nat × Bool) :=
  let count := min length 6
  if count = 0 then none
  else
    match Text.fixedNumber? count s with
    | some (n, rest) =>
      some (n * powerOfTen (6 - count),
        !Text.hasEnded (rest.dropWhile fun c => c.asciiDigit?.isSome))
    | none => none

/-- Reads the parts of a time from the first `length` characters of a text. `parts` holds what was
read before, `colons` tells whether colons stand between parts, and `remaining` how many parts may
follow. A single character after the last part is passed over, though it counts as following. -/
def readTimeParts? : (remaining length : Nat) → (colons : Option Bool) → (parts : List Nat) →
    Text → Option WrittenTime
  | 0, length, _, parts, s =>
    (readFraction? length s).map fun (micro, followed) => ⟨ofParts parts micro, followed⟩
  | remaining + 1, length, colons, parts, s => do
    let (part, rest) ← Text.fixedNumber? 2 s
    let parts := parts ++ [part]
    let next := rest.head?
    let colon := next = some (CodePoint.ofChar ':')
    let colons := colons.getD colon
    if length ≤ 3 then
      return ⟨ofParts parts 0, !Text.hasEnded rest⟩
    else if colons && colon then
      readTimeParts? remaining (length - 3) (some colons) parts rest.tail
    else if next = some (CodePoint.ofChar '.') ∨ next = some (CodePoint.ofChar ',') then
      (readFraction? (length - 3) rest.tail).map fun (micro, followed) =>
        ⟨ofParts parts micro, followed⟩
    else if colons then none
    else readTimeParts? remaining (length - 2) (some colons) parts rest
where
  /-- The time whose parts are given, as far as they are. -/
  ofParts (parts : List Nat) (micro : Nat) : TimeOfDay :=
    ⟨parts.getD 0 0, parts.getD 1 0, parts.getD 2 0, micro⟩

/-- Whether a character begins an offset. -/
def beginsOffset (c : CodePoint) : Bool := c = '+' || c = '-' || c = 'Z'

/-- Reads a time of day with an optional offset. -/
def readTime? (s : Text) : Option (TimeOfDay × Option Int) := do
  let length := (s.takeWhile fun c => !beginsOffset c).length
  let written ← readTimeParts? 3 length none [] s
  match s.drop length with
  | [] => if written.followed then none else return (written.time, none)
  | sign :: rest =>
    if sign = 'Z' then
      if Text.hasEnded rest then return (written.time, some 0) else none
    else
      let zone ← readTimeParts? 3 rest.length none [] rest
      if zone.followed then none
      else
        let seconds : Int := zone.time.hour * 3600 + zone.time.minute * 60 + zone.time.second
        -- A difference of no full second counts as universal time.
        let size := if seconds = 0 then 0 else seconds * 1000000 + zone.time.microsecond
        return (written.time, some (if sign = '-' then -size else size))

/-- A time whose parts are in range. -/
def TimeOfDay.check (t : TimeOfDay) : Except CalendarFault TimeOfDay :=
  if 23 < t.hour then .error .hour
  else if 59 < t.minute then .error .minute
  else if 59 < t.second then .error .second
  else .ok t

/-- An offset of less than a day. -/
def Offset.check (microseconds : Int) : Except CalendarFault Offset :=
  if microseconds ≤ -microsecondsPerDay ∨ microsecondsPerDay ≤ microseconds then
    .error (.offset microseconds)
  else .ok (if microseconds = 0 then .utc else .fixed microseconds)

/-- Reads a date with a time of day. A date alone stands for its midnight. -/
def DateTime.read (s : Text) : Except CalendarFault DateTime :=
  let size := s.utf8.length
  let length := dateLength size s
  let written : Option (Date × TimeOfDay × Option Int) :=
    if s.length < 7 then none
    else
      match Date.parts? length s with
      | none => none
      | some date =>
        if size ≤ length then some (date, ⟨0, 0, 0, 0⟩, none)
        else (readTime? (s.drop (length + 1))).map fun (time, offset) => (date, time, offset)
  match written with
  | none => .error (.malformed s)
  | some (date, time, offset) => do
    let offset ← match offset with
      | some microseconds => (Offset.check microseconds).map some
      | none => .ok none
    let date ← date.check
    let time ← time.check
    return ⟨date, time, offset⟩

/-- A time of day, with a fraction where there is one. -/
def TimeOfDay.render (t : TimeOfDay) : Text :=
  Text.padded 2 t.hour ++ text ":" ++ Text.padded 2 t.minute ++ text ":" ++
  Text.padded 2 t.second ++
  (if t.microsecond = 0 then [] else text "." ++ Text.padded 6 t.microsecond)

/-- An offset in hours and minutes, with seconds and a fraction where there are any. -/
def Offset.render (o : Offset) : Text :=
  let micro := o.microseconds.natAbs
  let seconds := micro / 1000000
  text (if o.microseconds < 0 then "-" else "+") ++ Text.padded 2 (seconds / 3600) ++ text ":" ++
  Text.padded 2 (seconds / 60 % 60) ++
  (if seconds % 60 = 0 ∧ micro % 1000000 = 0 then []
  else text ":" ++ Text.padded 2 (seconds % 60)) ++
  (if micro % 1000000 = 0 then [] else text "." ++ Text.padded 6 (micro % 1000000))

/-- A date and a time of day with the given separator between them. -/
def DateTime.render (separator : Char) (t : DateTime) : Text :=
  t.date.render ++ CodePoint.ofChar separator :: t.time.render ++
  (match t.offset with
  | some offset => offset.render
  | none => [])

/-- Microseconds from the first day of the year 1 on, in universal time where the offset is known. -/
def DateTime.instant (t : DateTime) : Int :=
  ((t.date.dayNumber * 86400 + t.time.hour * 3600 + t.time.minute * 60 + t.time.second : Nat) :
    Int) * 1000000 + t.time.microsecond - (t.offset.map Offset.microseconds).getD 0

end ConfigNamespace
