/-!
# Timestamps

A moment of universal time, and its text: date and time of day with fixed numbers of digits,
a fraction of six digits unless it is zero, and the offset `+00:00`.
-/

namespace RecordMarking

/-- A moment of universal time, to the microsecond. -/
structure Timestamp where
  year : Nat
  month : Nat
  day : Nat
  hour : Nat
  minute : Nat
  second : Nat
  microsecond : Nat
deriving DecidableEq, Repr

namespace Timestamp

/-- A number with leading zeros up to a width. -/
def padded (width number : Nat) : String :=
  let digits := toString number
  .ofList (List.replicate (width - digits.length) '0') ++ digits

/-- The fraction of a second, left out when it is zero. -/
def fraction (microsecond : Nat) : String :=
  if microsecond = 0 then "" else "." ++ padded 6 microsecond

/-- The text of a moment. -/
def text (moment : Timestamp) : String :=
  padded 4 moment.year ++ "-" ++ padded 2 moment.month ++ "-" ++ padded 2 moment.day ++ "T" ++
    padded 2 moment.hour ++ ":" ++ padded 2 moment.minute ++ ":" ++ padded 2 moment.second ++
    fraction moment.microsecond ++ "+00:00"

/-- The date that is so many days after the beginning of 1970. Years are counted from March, so
that a leap day is the last day of its year, and within an era of 400 years, after which the
calendar repeats. -/
def dateAfter (days : Nat) : Nat × Nat × Nat :=
  let shifted := days + 719468
  let era := shifted / 146097
  let dayOfEra := shifted % 146097
  let yearOfEra := (dayOfEra - dayOfEra / 1460 + dayOfEra / 36524 - dayOfEra / 146096) / 365
  let dayOfYear := dayOfEra - (365 * yearOfEra + yearOfEra / 4 - yearOfEra / 100)
  let monthFromMarch := (5 * dayOfYear + 2) / 153
  let day := dayOfYear - (153 * monthFromMarch + 2) / 5 + 1
  let month := if monthFromMarch < 10 then monthFromMarch + 3 else monthFromMarch - 9
  (era * 400 + yearOfEra + if month ≤ 2 then 1 else 0, month, day)

/-- The moment that is so many seconds and microseconds after the beginning of 1970. -/
def after (seconds microsecond : Nat) : Timestamp :=
  let (year, month, day) := dateAfter (seconds / 86400)
  let ofDay := seconds % 86400
  ⟨year, month, day, ofDay / 3600, ofDay / 60 % 60, ofDay % 60, microsecond⟩

end Timestamp

/-- The readings of a clock, of which there is at least one. After the last one the clock
stands still. -/
structure Clock where
  first : Timestamp
  later : List Timestamp
deriving DecidableEq, Repr

/-- The reading that follows so many others. -/
def Clock.reading (clock : Clock) : Nat → Timestamp
  | 0 => clock.first
  | index + 1 =>
    match clock.later with
    | [] => clock.first
    | next :: rest => Clock.reading ⟨next, rest⟩ index

end RecordMarking
