import BoundSql.Payload.Json
import BoundSql.Statement.Error

/-!
# Inserting rows

An insert has one list of columns, in ascending order, and rows of values in
that order. All records that have columns must have the same ones.
-/

namespace BoundSql

/-- Rows of values under shared columns. Literals stay values here; an insert has no
placeholders. -/
structure Insert where
  table : String
  columns : List String
  rows : List (List Value)

namespace Insert

/-- The rows of sorted records, counted from `index`, all with the given columns. The first
record that differs is reported with its number among the records that have columns. -/
def rowsUnder (columns : List String) (index : Nat) :
    List Record → Except CompileError (List (List Value))
  | [] => .ok []
  | record :: rest =>
    if record.columns = columns then do
      let rows ← rowsUnder columns (index + 1) rest
      pure (record.values :: rows)
    else
      .error (.otherColumns index record.columns columns)

/-- The insert of a payload; nothing if no record has columns. The columns are those of the
first record that has any. -/
def compile (table : String) (payload : Payload) : Except CompileError (Option Insert) :=
  match payload.rows.map Record.sorted with
  | [] => .ok none
  | first :: rest => do
    let rows ← rowsUnder first.columns 1 rest
    pure (some ⟨table, first.columns, first.values :: rows⟩)

/-- The insert of a JSON object or an array of objects. What is wrong with the tree is reported
before what is wrong with the columns. -/
def compileJson (table : String) (json : Json) : Except CompileError (Option Insert) :=
  match Payload.ofJson json with
  | .error error => .error (.payload error)
  | .ok payload => compile table payload

/-- The stored form of an insert, with an array of values for each row. -/
def encode (insert : Insert) : Json :=
  .object [
    ("table", .string insert.table),
    ("columns", .array (insert.columns.map .string)),
    ("rows", .array (insert.rows.map fun row => .array (row.map Value.encode)))]

end Insert

end BoundSql
