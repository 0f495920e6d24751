/-!
# Times of log lines

Times are given in UTC and to the millisecond.
-/

namespace CallLight.Log

/-- A number with leading zeros. -/
def padded (width n : Nat) : String :=
  let s := toString n
  String.ofList (List.replicate (width - s.length) '0') ++ s

/-- Year, month and day by the number of days since the beginning of 1970. Years are counted from
March, so that the leap day comes last, in eras of 400 years, which all have the same number of
days. -/
def date (days : Nat) : Nat × Nat × Nat :=
  let n := days + 719468
  let era := n / 146097
  let dayOfEra := n % 146097
  let yearOfEra := (dayOfEra - dayOfEra / 1460 + dayOfEra / 36524 - dayOfEra / 146096) / 365
  let dayOfYear := dayOfEra - (365 * yearOfEra + yearOfEra / 4 - yearOfEra / 100)
  let month := (5 * dayOfYear + 2) / 153
  let day := dayOfYear - (153 * month + 2) / 5 + 1
  let year := yearOfEra + era * 400
  if month < 10 then (year, month + 3, day) else (year + 1, month - 9, day)

/-- The time of day by the milliseconds since the beginning of 1970. -/
def timeOfDay (ms : Nat) : String :=
  let s := ms / 1000
  padded 2 (s / 3600 % 24) ++ ":" ++ padded 2 (s / 60 % 60) ++ ":" ++ padded 2 (s % 60) ++ "." ++
    padded 3 (ms % 1000)

/-- Date and time by the milliseconds since the beginning of 1970. -/
def timestamp (ms : Nat) : String :=
  let (year, month, day) := date (ms / 86400000)
  padded 4 year ++ "-" ++ padded 2 month ++ "-" ++ padded 2 day ++ "T" ++ timeOfDay ms ++ "Z"

end CallLight.Log
