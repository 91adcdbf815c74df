import BoundSql.Mapping
import BoundSql.Value.Basic

/-!
# Records

A row as the caller gives it: values under column names, in the caller's order.
Setting a column that is already there replaces its value in place. The sorted
form has the columns in ascending order, which for text is the order of its
bytes.
-/

namespace BoundSql

/-- A row, as its columns in order. The type does not exclude that a name occurs twice: stored
rows may repeat one, and what a caller builds by setting columns never does. -/
structure Record where
  fields : List (String × Value)

namespace Record

/-- The row without columns, which inserts nothing. -/
def empty : Record := ⟨[]⟩

/-- The row with a column set, replacing an earlier value of that name at its place; a new
column goes to the end. -/
def insert (record : Record) (column : String) (value : Value) : Record :=
  ⟨Mapping.assign column value record.fields⟩

/-- The row of the given columns, a repeated name set again: it has the last value given for it,
at the place of the first. -/
def ofList (fields : List (String × Value)) : Record :=
  fields.foldl (fun record (column, value) => record.insert column value) empty

/-- The value of a column; of a repeated name, the first. -/
def get? (record : Record) (column : String) : Option Value :=
  record.fields.lookup column

/-- The names in order, as often as they occur. -/
def columns (record : Record) : List String :=
  record.fields.map (·.1)

/-- The values in order, each at the position of its column's name. -/
def values (record : Record) : List Value :=
  record.fields.map (·.2)

/-- The number of columns, a repeated name counted as often as it occurs. -/
def size (record : Record) : Nat :=
  record.fields.length

/-- Whether there are no columns. A row whose values are all null is not empty. -/
def isEmpty (record : Record) : Bool :=
  record.fields.isEmpty

/-- The row with its columns in ascending order; repeated names keep their order, so that a
look-up finds the same value as before. -/
def sorted (record : Record) : Record :=
  ⟨record.fields.mergeSort fun first second => decide (first.1 ≤ second.1)⟩

/-- Equality: the same columns in the same order, with equal values. A row with a NaN in it
therefore differs from itself. -/
def equals (first second : Record) : Bool :=
  first.columns == second.columns && Value.equalItems first.values second.values

end Record

end BoundSql
