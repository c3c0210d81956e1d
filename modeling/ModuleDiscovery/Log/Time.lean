/-!
# Times in a log

A time is a number of microseconds since the beginning of 1970, and is written with
its date in the calendar that is in use today:

    2001-09-09T01:46:40.000000Z
-/

namespace ModuleDiscovery

namespace LogTime

/-- A number with zeros in front, at least `width` digits wide. -/
def padded (width n : Nat) : String :=
  let digits := Nat.toDigits 10 n
  String.ofList (List.replicate (width - digits.length) '0' ++ digits)

/-- Year, month and day of the day with the given number.  Years are counted from the
first of March, so that a leap day is the last of its year, and days from the year 0. -/
def date (day : Nat) : Nat × Nat × Nat :=
  let day := day + 719468
  let era := day / 146097
  let dayOfEra := day % 146097
  let yearOfEra := (dayOfEra - dayOfEra / 1460 + dayOfEra / 36524 - dayOfEra / 146096) / 365
  let dayOfYear := dayOfEra - (365 * yearOfEra + yearOfEra / 4 - yearOfEra / 100)
  let march := (5 * dayOfYear + 2) / 153
  let month := if march < 10 then march + 3 else march - 9
  let year := era * 400 + yearOfEra + (if month ≤ 2 then 1 else 0)
  (year, month, dayOfYear - (153 * march + 2) / 5 + 1)

/-- A time with its date. -/
def render (microseconds : Nat) : String :=
  let second := microseconds / 1000000
  let (year, month, day) := date (second / 86400)
  padded 4 year ++ "-" ++ padded 2 month ++ "-" ++ padded 2 day ++ "T" ++
    padded 2 (second / 3600 % 24) ++ ":" ++ padded 2 (second / 60 % 60) ++ ":" ++
    padded 2 (second % 60) ++ "." ++ padded 6 (microseconds % 1000000) ++ "Z"

end LogTime

end ModuleDiscovery
