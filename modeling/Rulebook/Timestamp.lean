/-!
# Timestamps

Moments are counted in seconds from the start of the year 2024, and written as date and time. The
date is found in the calendar of four-hundred-year cycles that start in March, where the leap day is
the last day of a year and the months have a regular pattern of lengths.
-/

set_option autoImplicit false

namespace Rulebook

/-- A moment, in seconds from the start of the year 2024. -/
structure Timestamp where
  seconds : Int
deriving DecidableEq

namespace Timestamp

/-- Days from the first of March of the year zero to the start of the year 2024. -/
def epochDay : Int := 739191

/-- The year, month and day of a day counted from the first of March of the year zero. -/
def civil (day : Int) : Int × Nat × Nat :=
  let cycle := day.fdiv 146097
  let dayOfCycle := (day - cycle * 146097).toNat
  let yearOfCycle :=
    (dayOfCycle - dayOfCycle / 1460 + dayOfCycle / 36524 - dayOfCycle / 146096) / 365
  let dayOfYear :=
    dayOfCycle - (365 * yearOfCycle + yearOfCycle / 4 - yearOfCycle / 100)
  let march := (5 * dayOfYear + 2) / 153
  let dayOfMonth := dayOfYear - (153 * march + 2) / 5 + 1
  let month := if march < 10 then march + 3 else march - 9
  let year := (yearOfCycle : Int) + cycle * 400 + (if month ≤ 2 then 1 else 0)
  (year, month, dayOfMonth)

/-- A number with zeros in front, up to a least width. -/
def padded (width n : Nat) : String :=
  let ds := toString n
  String.ofList (List.replicate (width - ds.length) '0') ++ ds

/-- A moment as date and time. -/
def text (t : Timestamp) : String :=
  let day := t.seconds.fdiv 86400
  let second := (t.seconds - day * 86400).toNat
  let (year, month, dayOfMonth) := civil (epochDay + day)
  padded 4 year.toNat ++ "-" ++ padded 2 month ++ "-" ++ padded 2 dayOfMonth ++ "T" ++
    padded 2 (second / 3600) ++ ":" ++ padded 2 (second / 60 % 60) ++ ":" ++ padded 2 (second % 60)

end Timestamp

end Rulebook
