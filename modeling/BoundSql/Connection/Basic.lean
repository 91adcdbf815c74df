import BoundSql.Connection.Session
import BoundSql.Json.Printer
import BoundSql.Query.Builder
import BoundSql.Settings.Basic

/-!
# Connections

A connection compiles descriptions and hands the statements to a driver. An
operation that cannot be compiled never reaches the driver, and an insert with
nothing to insert succeeds without it. The database reports no row counts for
changes, so a change that succeeded counts as one.
-/

namespace BoundSql

/-- A connection; its driver is in the world it works on. It keeps no state of its own, so two
connections with the same settings are one. -/
structure Connection where
  settings : ConnectionSettings := {}

namespace Connection

variable {δ : Type} [Driver δ]

/-- The name of the connection. -/
def name (connection : Connection) : String :=
  connection.settings.name

/-- Run the text of a select with the given values. Text and values are handed on as they are;
that they belong together is up to the caller. The event is entered only if the driver succeeds. -/
def selectRaw (connection : Connection) (sql : String) (parameters : Parameters) :
    Session δ (List Row) := do
  let rows ← Session.call (Driver.select sql parameters)
  Session.log [.selected connection.name rows.length]
  pure rows

/-- The statement that counts the rows of a query. It is compiled on a new registry and not run. -/
def countStatement (query : Query) : Session δ Statement :=
  Session.compiled "count" query.table query.compileCount

/-- The rows of a query, compiled on a new registry. If it cannot be compiled the driver is not
called. -/
def select (connection : Connection) (query : Query) : Session δ (List Row) := do
  let statement ← Session.compiled "select" query.table query.compileSelect
  connection.selectRaw statement.sql statement.parameters

/-- The first row of a query, asked for with a limit of one. A limit that the query has already
is replaced, and rows beyond the first are ignored should the driver hand out more. -/
def selectOne (connection : Connection) (query : Query) : Session δ (Option Row) := do
  let rows ← connection.select (query.limitTo 1)
  pure rows.head?

/-- The natural number that a count is: as a number, or as the text of one, since the database
quotes large integers. Numbers with a fraction or an exponent are refused, and so are negative
ones. -/
def countOf? : Json → Option Nat
  | .number (.integer value _) => if 0 ≤ value then some value.toNat else none
  | .string text => Text.unsignedBelow? UInt64.size text
  | _ => none

/-- The number of rows of a query. No row back, or a row without columns, counts as none. Only
the first column of the first row is looked at, whatever its name. -/
def count (connection : Connection) (query : Query) : Session δ Nat := do
  let statement ← countStatement query
  let rows ← connection.selectRaw statement.sql statement.parameters
  match rows with
  | ((_, value) :: _) :: _ =>
    match countOf? value with
    | some number => pure number
    | none => throw (.unexpectedCount value.text)
  | _ => pure 0

/-- Insert the rows of a payload. A payload without any counts as inserted, and the driver is
not called for it. -/
def insert (table : String) (payload : Payload) : Session δ Bool := do
  match Insert.compile table payload with
  | .error error => throw (.compile error)
  | .ok none =>
    Session.log [.emptyInsert table]
    pure true
  | .ok (some rows) =>
    Session.log [.compiledInsert rows.table rows.columns rows.rows.length]
    Session.call (Driver.insert rows)

/-- Insert a JSON object or an array of objects. A tree that is neither is refused as a payload,
before anything is compiled. -/
def insertJson (table : String) (json : Json) : Session δ Bool := do
  match Payload.ofJson json with
  | .error error => throw (.payload error)
  | .ok payload => insert table payload

/-- Run a statement that returns no rows, with the given values. The result is what the driver
reports; nothing is compiled or checked here. -/
def statement (sql : String) (parameters : Parameters) : Session δ Bool :=
  Session.call (Driver.execute sql parameters)

/-- Run a statement that returns no rows. -/
def unprepared (sql : String) : Session δ Bool :=
  statement sql Parameters.empty

/-- Run a change: one if it succeeded and none if not. The database reports no number of rows,
so this is not one. -/
def affected (change : Statement) : Session δ Nat := do
  let succeeded ← statement change.sql change.parameters
  pure succeeded.toNat

/-- Set columns in the rows of a query. Without anything to set it cannot be compiled, and the
driver is not called. -/
def update (query : Query) (assignments : Record) : Session δ Nat := do
  let change ← Session.compiled "update" query.table (query.compileUpdate assignments)
  affected change

/-- Delete the rows of a query. A query whose conditions say nothing deletes every row of its
table. -/
def delete (query : Query) : Session δ Nat := do
  let change ← Session.compiled "delete" query.table query.compileDelete
  affected change

/-- Refuse an operation that the database does not have. The driver is not called, and the
refusal is entered into the journal. -/
def unsupported (operation : String) : Session δ Unit := do
  Session.log [.unsupported operation]
  throw (.unsupported operation)

/-- Refuse an operation on transactions, of which the database has none. The driver is not
called. -/
def refuseTransaction (operation : String) : Session δ Unit := do
  Session.log [.noTransactions operation]
  throw .noTransactions

end Connection

end BoundSql
