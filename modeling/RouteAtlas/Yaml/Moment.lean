import RouteAtlas.Json.Parser
import RouteAtlas.Yaml.Implicit
import RouteAtlas.Yaml.Token

/-!
# Points in time

A point in time is a date, or a date with a time and an optional zone. It must exist in the calendar:
months, days, hours, minutes and seconds are bounded, and a zone is less than a day away.
-/

set_option autoImplicit false

namespace RouteAtlas.Yaml

open Text

/-- A time of day, down to the millionth of a second, with the distance of its zone in minutes. -/
structure Clock where
  hour : Nat
  minute : Nat
  second : Nat
  micro : Nat
  zone : Option Int
  deriving DecidableEq, Repr, Inhabited

/-- A date with an optional time. -/
structure Moment where
  year : Nat
  month : Nat
  day : Nat
  clock : Option Clock
  deriving DecidableEq, Repr, Inhabited

/-- A number of some allowed lengths. -/
def digits? (lengths : List Nat) (text : Text) : Option Nat :=
  if isDigits lengths text then some (Json.ofDigits text) else none

/-- The distance of a zone, if one is given. -/
def zone? (text : Text) : Option (Option Int) :=
  if !isZone text then none
  else
    match text.dropWhile fun c => c == ' ' || c == '\t' with
    | sign :: rest =>
        if sign = 'Z' then some (some 0)
        else
          match partsBy ':' rest with
          | hours :: minutes =>
              let total : Int := Json.ofDigits hours * 60 + Json.ofDigits minutes.flatten
              some (some (if sign = '-' then -total else total))
          | [] => none
    | [] => some none

/-- The millionths of a second that the digits of a fraction denote. -/
def microOf (digits : Text) : Nat :=
  let shown := digits.take 6
  Json.ofDigits (shown ++ List.replicate (6 - shown.length) '0')

/-- A time with an optional fraction and zone. -/
def clock? (text : Text) : Option Clock := do
  let (hours, rest) ← cut? [':'] text
  let (minutes, rest) ← cut? [':'] rest
  let (fraction, behind) := match rest.drop 2 with
    | '.' :: fraction => (fraction.takeWhile Char.isDigit, fraction.dropWhile Char.isDigit)
    | rest => ([], rest)
  let hour ← digits? [1, 2] hours
  let minute ← digits? [2] minutes
  let second ← digits? [2] (rest.take 2)
  let zone ← zone? behind
  pure
    { hour := hour
      minute := minute
      second := second
      micro := microOf fraction
      zone := zone }

/-- What stands behind the date of a point in time. -/
def clockPart? (text : Text) : Option (Option Clock) :=
  match text with
  | [] => some none
  | mark :: rest =>
      if mark = 'T' || mark = 't' then some <$> clock? rest
      else if mark = ' ' || mark = '\t' then
        some <$> clock? (rest.dropWhile fun c => c == ' ' || c == '\t')
      else none

/-- The point in time that a text denotes. A newline at its end does not count. -/
def moment? (text : Text) : Option Moment := do
  let text := if text.getLast? = some '\n' then text.dropLast else text
  let (years, rest) ← cut? ['-'] text
  let (months, rest) ← cut? ['-'] rest
  let year ← digits? [4] years
  let month ← digits? [1, 2] months
  let day ← digits? [1, 2] (rest.takeWhile Char.isDigit)
  let clock ← clockPart? (rest.dropWhile Char.isDigit)
  pure { year := year, month := month, day := day, clock := clock }

/-- A year has a leap day. -/
def isLeapYear (year : Nat) : Bool :=
  year % 4 == 0 && (year % 100 != 0 || year % 400 == 0)

/-- The number of days of a month. -/
def daysIn (year month : Nat) : Nat :=
  if month = 2 then if isLeapYear year then 29 else 28
  else if month = 4 || month = 6 || month = 9 || month = 11 then 30
  else 31

/-- The days from the first of January of the year zero to a date. -/
def dayNumber (year month day : Nat) : Nat :=
  let before := year - 1
  365 * year + before / 4 - before / 100 + before / 400
    + ((List.range (month - 1)).map fun m => daysIn year (m + 1)).foldl (· + ·) 0 + day

/-- The minutes from the start of the calendar to a date and a time in a zone. -/
def Moment.minutes (moment : Moment) (clock : Clock) (zone : Int) : Int :=
  ((dayNumber moment.year moment.month moment.day * 24 + clock.hour) * 60 + clock.minute : Nat) - zone

/-- Two points in time are the same: two dates, two times without a zone, or two times that their zones
make the same. -/
def Moment.same (first second : Moment) : Bool :=
  match first.clock, second.clock with
  | some a, some b =>
      match a.zone, b.zone with
      | some zone, some other =>
          first.minutes a zone == second.minutes b other && a.second == b.second
            && a.micro == b.micro
      | _, _ => first = second
  | _, _ => first = second

/-- A span of time in minutes, as days and seconds that are not negative. -/
def showSpan (minutes : Int) : String :=
  let seconds := minutes * 60
  let days := Int.fdiv seconds 86400
  let rest := Int.fmod seconds 86400
  let parts := (if days = 0 then [] else ["days=" ++ toString days])
    ++ (if rest = 0 then [] else ["seconds=" ++ toString rest])
  "datetime.timedelta(" ++ (if parts.isEmpty then "0" else ", ".intercalate parts) ++ ")"

/-- Fails with a message unless a condition holds. -/
def demand (condition : Bool) (message : String) : Except Fault Unit :=
  if condition then .ok () else .error (.outOfRange message)

/-- The zone of a time is less than a day away. -/
def checkZone (zone : Int) : Except Fault Unit :=
  demand (zone.natAbs < 24 * 60)
    ("offset must be a timedelta strictly between -timedelta(hours=24) and timedelta(hours=24), not "
      ++ showSpan zone ++ ".")

/-- A point in time exists. -/
def Moment.check (moment : Moment) : Except Fault Unit := do
  if let some zone := moment.clock.bind Clock.zone then checkZone zone
  demand (0 < moment.year) ("year " ++ toString moment.year ++ " is out of range")
  demand (0 < moment.month && moment.month ≤ 12) "month must be in 1..12"
  demand (0 < moment.day && moment.day ≤ daysIn moment.year moment.month)
    "day is out of range for month"
  if let some clock := moment.clock then
    demand (clock.hour < 24) "hour must be in 0..23"
    demand (clock.minute < 60) "minute must be in 0..59"
    demand (clock.second < 60) "second must be in 0..59"

/-- Reads a point in time, which must exist. -/
def momentValue (text : Text) : Except Fault Moment :=
  match moment? text with
  | none => .error .notMoment
  | some moment => do
      moment.check
      pure moment

end RouteAtlas.Yaml
