import BoundSql.Query.Basic
import BoundSql.Value.Describe
import BoundSql.Value.Json

/-!
# Why a statement cannot be compiled

Each error is a cause; its text names the offending part as the caller wrote it.
-/

namespace BoundSql

/-- The name of a date part in messages, with a capital and unlike its stored name. -/
def DatePart.describe : DatePart → String
  | .date => "Date"
  | .time => "Time"
  | .day => "Day"
  | .month => "Month"
  | .year => "Year"

/-- A cause for which nothing is compiled. Only the first cause that is met is reported. -/
inductive CompileError
  /-- An operator that the statement language does not have. -/
  | illegalOperator (operator : String)
  /-- A value that a part of a date cannot be compared with. -/
  | unusableValue (part : DatePart) (value : Value)
  /-- An update that changes nothing. -/
  | noAssignments
  /-- A record whose columns differ from those of the first one. -/
  | otherColumns (record : Nat) (found expected : List String)
  /-- A payload that holds something else than values under names. -/
  | payload (error : ValueError)

/-- The text of an error. Every one is reported as an invalid argument, since only what the
caller gave can be at fault. -/
def CompileError.message : CompileError → String
  | .illegalOperator operator => "Invalid argument: Illegal operator: " ++ operator
  | .unusableValue part value =>
    "Invalid argument: cannot compare " ++ part.describe ++ " part against " ++ value.kindName ++
      " value " ++ value.describe
  | .noAssignments => "Invalid argument: update requires at least one column"
  | .otherColumns record found expected =>
    "Invalid argument: insert record " ++ toString record ++ " has columns " ++
      Text.quotedList found ++ ", expected " ++ Text.quotedList expected
  | .payload error => error.message

end BoundSql
