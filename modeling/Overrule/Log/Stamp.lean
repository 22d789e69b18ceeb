import Overrule.Text.Basic

namespace Overrule.Stamp

structure Date where
  year : Nat
  month : Nat
  day : Nat
  deriving DecidableEq, Repr

/-- The days from the first of March of the year 0 to the first of January 1970. -/
def daysBeforeEpoch : Nat := 719468

/-- The days in the four hundred years after which the calendar repeats itself. -/
def daysInCycle : Nat := 146097

/-- The date of a day, counted from the first of January 1970.

Years are taken to begin in March, so that a leap day is the last day of its year. Months then have 31
and 30 days in a pattern that repeats after five of them, which have 153 days. -/
def date (days : Nat) : Date :=
  let cycle := (days + daysBeforeEpoch) / daysInCycle
  let dayOfCycle := (days + daysBeforeEpoch) % daysInCycle
  let yearOfCycle :=
    (dayOfCycle - dayOfCycle / 1460 + dayOfCycle / 36524 - dayOfCycle / 146096) / 365
  let dayOfYear := dayOfCycle - (365 * yearOfCycle + yearOfCycle / 4 - yearOfCycle / 100)
  let monthOfYear := (5 * dayOfYear + 2) / 153
  let year := cycle * 400 + yearOfCycle
  let day := dayOfYear - (153 * monthOfYear + 2) / 5 + 1
  if monthOfYear < 10 then ⟨year, monthOfYear + 3, day⟩ else ⟨year + 1, monthOfYear - 9, day⟩

def digits (width n : Nat) : Text :=
  let shown := Text.decimal n
  List.replicate (width - shown.length) '0' ++ shown

/-- The text of a time, given in microseconds since the beginning of 1970. -/
def render (microseconds : Nat) : Text :=
  let seconds := microseconds / 1000000
  let date := date (seconds / 86400)
  digits 4 date.year ++ ['-'] ++ digits 2 date.month ++ ['-'] ++ digits 2 date.day ++ ['T'] ++
    digits 2 (seconds / 3600 % 24) ++ [':'] ++ digits 2 (seconds / 60 % 60) ++ [':'] ++
    digits 2 (seconds % 60) ++ ['.'] ++ digits 6 (microseconds % 1000000) ++ ['Z']

example : date 0 = ⟨1970, 1, 1⟩ := rfl
example : date 11016 = ⟨2000, 2, 29⟩ := rfl
example : date 11017 = ⟨2000, 3, 1⟩ := rfl
example : render 1709251199000001 = "2024-02-29T23:59:59.000001Z".toList := by decide

end Overrule.Stamp
