import BoundSql.Text.Digits

/-!
# Calendar dates

Dates of the proleptic Gregorian calendar. Only days that exist can be built, in
the years that fit the calendar's range; the year before 1 is 0. A date is
written year first. Years of four digits have no sign; all others have one and
at least four digits.
-/

namespace BoundSql.Calendar

/-- Whether a year has a 29th of February. The rule is extended to all years, before the
calendar was introduced and below zero. -/
def isLeapYear (year : Int) : Bool :=
  year % 4 == 0 && (year % 100 != 0 || year % 400 == 0)

/-- The length of a month; a month that does not exist has no days. -/
def daysInMonth (year : Int) (month : Nat) : Nat :=
  match month with
  | 1 | 3 | 5 | 7 | 8 | 10 | 12 => 31
  | 4 | 6 | 9 | 11 => 30
  | 2 => if isLeapYear year then 29 else 28
  | _ => 0

/-- A day of the calendar. The proofs it carries exclude days that do not exist, so that nothing
made from a date has to check it again. -/
structure Date where
  year : Int
  month : Nat
  day : Nat
  year_inRange : -262143 ≤ year ∧ year ≤ 262142
  month_inRange : 1 ≤ month ∧ month ≤ 12
  day_inRange : 1 ≤ day ∧ day ≤ daysInMonth year month
deriving DecidableEq

namespace Date

/-- The day with the given numbers, if the calendar has it. Nothing is carried over: a 30th of
February is refused and is no day of March. -/
def ofNumbers? (year : Int) (month day : Nat) : Option Date :=
  if valid : (-262143 ≤ year ∧ year ≤ 262142) ∧ (1 ≤ month ∧ month ≤ 12) ∧
      (1 ≤ day ∧ day ≤ daysInMonth year month) then
    some ⟨year, month, day, valid.1, valid.2.1, valid.2.2⟩
  else
    none

/-- The numeral of a year: four digits from 0 to 9999, a sign and at least four digits elsewhere. -/
def yearText (year : Int) : String :=
  if 0 ≤ year ∧ year ≤ 9999 then
    Text.decimal 4 year.toNat
  else
    (if year < 0 then "-" else "+") ++ Text.decimal 4 year.natAbs

/-- The date as year, month and day between hyphens. Month and day always have two digits, so
that the texts of two days differ. -/
def text (date : Date) : String :=
  yearText date.year ++ "-" ++ Text.decimal 2 date.month ++ "-" ++ Text.decimal 2 date.day

end Date

end BoundSql.Calendar
