/-!
# Timestamps

A moment, counted in milliseconds since the start of 1970, as a date and a time of day in the
calendar of the West. The date is found by counting in periods of 400 years, which all have the same
number of days; within a period a year starts in March, so that the leap day is its last.
-/

namespace Passcode.Text

/-- The days of a period of 400 years. -/
def daysPerPeriod : Nat := 146097

/-- The days from the first of March of the year 0 to the start of 1970. -/
def daysBefore1970 : Nat := 719468

/-- The year, month and day of a number of days since the start of 1970. -/
def dateOfDays (days : Nat) : Nat × Nat × Nat :=
  let days := days + daysBefore1970
  let inPeriod := days % daysPerPeriod
  let year := (inPeriod - inPeriod / 1460 + inPeriod / 36524 - inPeriod / 146096) / 365
  let inYear := inPeriod - (365 * year + year / 4 - year / 100)
  let month := (5 * inYear + 2) / 153
  let day := inYear - (153 * month + 2) / 5 + 1
  let year := year + days / daysPerPeriod * 400
  if month < 10 then (year, month + 3, day) else (year + 1, month - 9, day)

/-- A number with at least `count` digits. -/
def padded (count n : Nat) : String :=
  let ds := Nat.toDigits 10 n
  String.ofList (List.replicate (count - ds.length) '0' ++ ds)

/-- A moment as a text; a fraction of a second is written if there is one. -/
def timestamp (millis : Nat) : String :=
  let seconds := millis / 1000
  let (year, month, day) := dateOfDays (seconds / 86400)
  let time := seconds % 86400
  let fraction := if millis % 1000 = 0 then "" else "." ++ padded 3 (millis % 1000)
  padded 4 year ++ "-" ++ padded 2 month ++ "-" ++ padded 2 day ++ "T" ++ padded 2 (time / 3600)
    ++ ":" ++ padded 2 (time / 60 % 60) ++ ":" ++ padded 2 (time % 60) ++ fraction ++ "+00:00"

end Passcode.Text
