import BoundSql.Record.Basic

/-!
# Insert payloads

What an insert is given: one record or a batch of them. Records without columns
have nothing to insert, so they count for nothing in either shape.
-/

namespace BoundSql

/-- The rows handed to an insert. A single record and a batch of one are different payloads,
though they insert the same. -/
inductive Payload
  | single (record : Record)
  | batch (records : List Record)

namespace Payload

/-- The records as they were given, those without columns included. -/
def records : Payload → List Record
  | .single record => [record]
  | .batch records => records

/-- Whether no record has a column, so that there is nothing to insert. A batch without records
is empty too. -/
def isEmpty (payload : Payload) : Bool :=
  payload.records.all Record.isEmpty

/-- The records that have columns, in order. The columns of different rows need not agree; that
is checked when the insert is compiled. -/
def rows (payload : Payload) : List Record :=
  payload.records.filter (!·.isEmpty)

end Payload

end BoundSql
