import BoundSql.Calendar.Date

/-!
# Dates with a time of day

Times have nanoseconds and no zone. A leap second is an addition to second 59 of
its minute: it is held as nanoseconds of a billion and more and written as
second 60. Fractions are written with no, three, six or nine digits, the fewest
that lose nothing.
-/

namespace BoundSql.Calendar

/-- A day and a time of that day. A leap second may be held in any minute; whether the day
really had one is not asked. -/
structure DateTime where
  date : Date
  hour : Nat
  minute : Nat
  /-- The second of the minute, 59 also during a leap second. -/
  second : Nat
  /-- Nanoseconds since the start of `second`; a billion and more during a leap second. -/
  nanosecond : Nat
  hour_inRange : hour < 24
  minute_inRange : minute < 60
  second_inRange : second < 60
  nanosecond_inRange : nanosecond < 2000000000 ∧ (1000000000 ≤ nanosecond → second = 59)
deriving DecidableEq

namespace DateTime

/-- The time with the given numbers on a day, if the clock shows it. A second of 60 is refused:
a leap second is asked for by its nanoseconds. -/
def ofNumbers? (date : Date) (hour minute second nanosecond : Nat) : Option DateTime :=
  if valid : hour < 24 ∧ minute < 60 ∧ second < 60 ∧
      (nanosecond < 2000000000 ∧ (1000000000 ≤ nanosecond → second = 59)) then
    some ⟨date, hour, minute, second, nanosecond, valid.1, valid.2.1, valid.2.2.1, valid.2.2.2⟩
  else
    none

/-- Hour, minute and second between colons, each with at least two digits. The numbers are not
checked here. -/
def clock (hour minute second : Nat) : String :=
  Text.decimal 2 hour ++ ":" ++ Text.decimal 2 minute ++ ":" ++ Text.decimal 2 second

/-- The second as a clock shows it, 60 during a leap second. -/
def shownSecond (time : DateTime) : Nat :=
  time.second + time.nanosecond / 1000000000

/-- The digits behind the second, with their point, and nothing for a whole second. The
nanoseconds of a leap second count from its own start. -/
def fractionText (time : DateTime) : String :=
  let nanosecond := time.nanosecond % 1000000000
  if nanosecond = 0 then ""
  else if nanosecond % 1000000 = 0 then "." ++ Text.decimal 3 (nanosecond / 1000000)
  else if nanosecond % 1000 = 0 then "." ++ Text.decimal 6 (nanosecond / 1000)
  else "." ++ Text.decimal 9 nanosecond

/-- Hour, minute and second as a clock shows them, without the fraction; a leap second is shown
as second 60. -/
def clockText (time : DateTime) : String :=
  clock time.hour time.minute time.shownSecond

/-- The complete text: the date, a `T` and the time with its fraction. Nothing is lost. -/
def text (time : DateTime) : String :=
  time.date.text ++ "T" ++ time.clockText ++ time.fractionText

/-- The text in the database's own form: a blank after the date, whole seconds only. Times
within one second have the same text. -/
def databaseText (time : DateTime) : String :=
  time.date.text ++ " " ++ time.clockText

end DateTime

end BoundSql.Calendar
