import PerpetualCurve.Text.Reader

/-!
# Dates and times

A date, a time of day, or both with an optional offset from universal time. They are written
within a document or as a text of their own.
-/

namespace PerpetualCurve.Toml

open Text

/-- A day of the calendar. -/
structure Date where
  year : Nat
  month : Nat
  day : Nat
  deriving DecidableEq

/-- A time of day. -/
structure Time where
  hour : Nat
  minute : Nat
  second : Nat
  nanosecond : Nat
  deriving DecidableEq

/-- A distance from universal time; `zulu` is written as a letter. -/
inductive Offset where
  | zulu
  | minutes (count : Int)
  deriving DecidableEq

/-- A date, a time of day, or both. -/
inductive Datetime where
  | date (day : Date)
  | time (clock : Time)
  | moment (day : Date) (clock : Time) (offset : Option Offset)
  deriving DecidableEq

/-! ## Reading -/

/-- The number of days in a month. -/
def daysIn (year month : Nat) : Nat :=
  if month = 2 then
    if year % 4 = 0 ∧ (year % 100 ≠ 0 ∨ year % 400 = 0) then 29 else 28
  else if month = 4 ∨ month = 6 ∨ month = 9 ∨ month = 11 then 30
  else 31

/-- A date of the calendar. -/
def Date.read : Reader Date := do
  let year ← .decimal 4
  .exactly '-'
  let month ← .decimal 2
  guard (1 ≤ month ∧ month ≤ 12)
  .exactly '-'
  let day ← .decimal 2
  guard (1 ≤ day ∧ day ≤ daysIn year month)
  return { year, month, day }

/-- The nanoseconds in a fraction of a second; digits from the tenth on are dropped. -/
def nanoseconds (fraction : List Char) : Nat :=
  Nat.ofDigitChars 10 ((fraction ++ List.replicate 9 '0').take 9) 0

/-- The digits behind the point of a second. -/
def fractionOfSecond : Reader (List Char) := do
  .exactly '.'
  .run Char.isDigit

/-- A time of day; the second may be a leap second. -/
def Time.read : Reader Time := do
  let hour ← .decimal 2
  guard (hour < 24)
  .exactly ':'
  let minute ← .decimal 2
  guard (minute < 60)
  .exactly ':'
  let second ← .decimal 2
  guard (second ≤ 60)
  let fraction ← .maybe fractionOfSecond
  return { hour, minute, second, nanosecond := nanoseconds (fraction.getD []) }

/-- An offset. -/
def Offset.read : Reader Offset := do
  let c ← .satisfying fun c => c == 'Z' || c == 'z' || c == '+' || c == '-'
  if c = 'Z' ∨ c = 'z' then
    return .zulu
  let hour ← .decimal 2
  guard (hour < 24)
  .exactly ':'
  let minute ← .decimal 2
  guard (minute < 60)
  let count : Int := hour * 60 + minute
  return .minutes (if c = '-' then -count else count)

/-- A time behind a date. -/
def timeOfDate : Reader (Time × Option Offset) := do
  discard (.satisfying fun c => c == 'T' || c == 't' || c == ' ')
  let time ← Time.read
  return (time, ← .maybe Offset.read)

/-- A date, a time, or both. -/
def Datetime.read : Reader Datetime := do
  match (← .maybe Date.read) with
  | some day =>
    match (← .maybe timeOfDate) with
    | some (clock, offset) => return .moment day clock offset
    | none => return .date day
  | none => return .time (← Time.read)

/-- The date, the time, or both that a whole text spells. -/
def Datetime.ofText? (text : String) : Option Datetime :=
  ((Datetime.read <* .atEnd) text.toList).map Prod.fst

/-! ## Writing -/

/-- A number with at least `width` digits. -/
def padded (width n : Nat) : String :=
  let digits := Nat.toDigits 10 n
  String.ofList (List.replicate (width - digits.length) '0' ++ digits)

/-- A date as it is written, year first. -/
def Date.text (date : Date) : String :=
  padded 4 date.year ++ "-" ++ padded 2 date.month ++ "-" ++ padded 2 date.day

/-- A time of day as it is written, without trailing zeros in the fraction of the second. -/
def Time.text (time : Time) : String :=
  let fraction := ((padded 9 time.nanosecond).toList.reverse.dropWhile (· == '0')).reverse
  padded 2 time.hour ++ ":" ++ padded 2 time.minute ++ ":" ++ padded 2 time.second ++
    String.ofList (if fraction.isEmpty then [] else '.' :: fraction)

/-- An offset as it is written. -/
def Offset.text : Offset → String
  | zulu => "Z"
  | minutes count =>
    (if count < 0 then "-" else "+") ++ padded 2 (count.natAbs / 60) ++ ":" ++
      padded 2 (count.natAbs % 60)

/-- A date, a time of day or both as they are written. -/
def Datetime.text : Datetime → String
  | date day => day.text
  | time clock => clock.text
  | moment day clock offset =>
    day.text ++ "T" ++ clock.text ++ (offset.map Offset.text).getD ""

end PerpetualCurve.Toml
