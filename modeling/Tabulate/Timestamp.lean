/-!
# Points in time

A point in time is kept in microseconds from the start of the year 2024, coordinated universal time.
Its text names the second that it lies in.
-/

namespace Tabulate

/-- A point in time, in microseconds from the start of 2024. -/
structure Timestamp where
  micros : Int
  deriving DecidableEq, Inhabited

namespace Timestamp

/-- The days from the first of March of the year 0 to the start of 2024. -/
def epochDay : Int := 739191

/-- Year, month and day of the day that lies `days` after the first of March of the year 0. Years
run from March here, so that a leap day is the last of its year. -/
def civil (days : Int) : Int × Nat × Nat :=
  let era := days / 146097
  let dayOfEra := (days % 146097).toNat
  let yearOfEra := (dayOfEra - dayOfEra / 1460 + dayOfEra / 36524 - dayOfEra / 146096) / 365
  let dayOfYear := dayOfEra - (365 * yearOfEra + yearOfEra / 4 - yearOfEra / 100)
  let month := (5 * dayOfYear + 2) / 153
  let day := dayOfYear - (153 * month + 2) / 5 + 1
  let year := era * 400 + yearOfEra
  if month < 10 then (year, month + 3, day) else (year + 1, month - 9, day)

/-- A number with zeros in front, up to the given width. -/
def padded (width n : Nat) : String :=
  let digits := n.repr
  String.ofList (List.replicate (width - digits.length) '0') ++ digits

/-- Date and time of the second that a point in time lies in. -/
def text (t : Timestamp) : String :=
  let seconds := t.micros / 1000000
  let (year, month, day) := civil (epochDay + seconds / 86400)
  let second := (seconds % 86400).toNat
  padded 4 year.toNat ++ "-" ++ padded 2 month ++ "-" ++ padded 2 day ++ "T" ++
    padded 2 (second / 3600) ++ ":" ++ padded 2 (second / 60 % 60) ++ ":" ++
    padded 2 (second % 60) ++ "+00:00"

example : (⟨0⟩ : Timestamp).text = "2024-01-01T00:00:00+00:00" := by decide +kernel

example : (⟨-1⟩ : Timestamp).text = "2023-12-31T23:59:59+00:00" := by decide +kernel

example : (⟨59 * 86400000000⟩ : Timestamp).text = "2024-02-29T00:00:00+00:00" := by decide +kernel

end Timestamp

end Tabulate
