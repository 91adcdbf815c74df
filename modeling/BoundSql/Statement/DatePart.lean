import BoundSql.Statement.Error
import BoundSql.Text.Blank
import BoundSql.Text.Digits

/-!
# Comparing parts of dates

A part is taken from the column by a function of the database, so the value must
be what that function returns: text of the form year, month, day for dates and
hour, minute, second for times, and a plain integer for the others. Values are
brought to that form; equal meanings become equal values, and a value that does
not name such a part exactly is refused.
-/

namespace BoundSql.DatePart

/-- The part of a column, as it is rendered. The column is rendered before and may be any
expression. -/
def extraction (part : DatePart) (column : String) : String :=
  match part with
  | .date => "toDate(" ++ column ++ ")"
  | .time => "formatDateTime(" ++ column ++ ", '%H:%i:%s')"
  | .day => "toDayOfMonth(" ++ column ++ ")"
  | .month => "toMonth(" ++ column ++ ")"
  | .year => "toYear(" ++ column ++ ")"

/-- The number that a part of a date is. The whole date and the time have none: they are
compared as texts. -/
def ofDate (part : DatePart) (date : Calendar.Date) : Option Int :=
  match part with
  | .day => some date.day
  | .month => some date.month
  | .year => some date.year
  | .date | .time => none

/-- The number that a value gives for a part, if it gives a whole one that fits a word. Whether
the calendar has such a day or month is not asked. -/
def component? (part : DatePart) : Value → Option Int64
  | .date given => (part.ofDate given).map Int64.ofInt
  | .dateTime given => (part.ofDate given.date).map Int64.ofInt
  | .int number => some number
  | .uint number => Text.int64OfInt? number.toNat
  | .float number =>
    (number.toInt?.filter fun whole => decide (whole.natAbs < 0x8000000000000000)).map Int64.ofInt
  | .string text => Text.int64? (Text.trimChars text.toList)
  | .null | .bool _ | .array _ => none

/-- The form of a value in which it is compared with a part, if it has one. Texts for dates and
times are taken as they are, without being read. -/
def normalize? (part : DatePart) (value : Value) : Option Value :=
  match part with
  | .date =>
    match value with
    | .date given => some (.string given.text)
    | .dateTime given => some (.string given.date.text)
    | .string text => some (.string text)
    | _ => none
  | .time =>
    match value with
    -- The database's function knows no leap second: its clock stays at 59.
    | .dateTime given =>
      some (.string (Calendar.DateTime.clock given.hour given.minute given.second))
    | .string text => some (.string text)
    | _ => none
  | .day | .month | .year => (part.component? value).map .int

/-- The form of a value in which it is compared with a part, or the error that it has none. The
error shows the value as it was given. -/
def normalize (part : DatePart) (value : Value) : Except CompileError Value :=
  match part.normalize? value with
  | some normal => .ok normal
  | none => .error (.unusableValue part value)

end BoundSql.DatePart
