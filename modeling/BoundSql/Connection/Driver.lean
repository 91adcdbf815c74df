import BoundSql.Binding.Parameters
import BoundSql.Statement.Insert

/-!
# Drivers

A driver is the only part that talks to a database: it runs selects, inserts and
other statements, and may fail with a text. The recording driver talks to
nobody. It keeps every call, hands out queued rows, one set to each select, and
can be told to fail; a failing call is kept too, but takes no rows.
-/

namespace BoundSql

/-- One row of a result: values under names, in the order of the result. A result may repeat a
name. -/
abbrev Row := List (String × Json)

/-- What a connection needs of a database. Nothing is assumed of an instance: it may change its
state when it fails, and it may hand out rows that fit no query. -/
class Driver (δ : Type) where
  /-- Run a select and return its rows. -/
  select : String → Parameters → StateM δ (Except String (List Row))
  /-- Insert rows. -/
  insert : Insert → StateM δ (Except String Bool)
  /-- Run a statement that returns no rows. -/
  execute : String → Parameters → StateM δ (Except String Bool)

/-- A call that reached a driver, with all it was given. What the driver answered is not part of
it. -/
inductive Call
  | select (sql : String) (parameters : Parameters)
  | insert (insert : Insert)
  | execute (sql : String) (parameters : Parameters)

/-- A driver without a database. Its answers depend on nothing but its four fields, never on the
text of a statement. -/
structure Recorder where
  /-- The calls so far, in order. -/
  calls : List Call := []
  /-- The row sets for the next selects. -/
  queue : List (List Row) := []
  /-- What inserts and other statements report. -/
  reports : Bool := true
  /-- With which text every call fails, if it does. -/
  failure : Option String := none

namespace Recorder

/-- The recorder with one more row set at the end of the queue. -/
def enqueue (recorder : Recorder) (rows : List Row) : Recorder :=
  { recorder with queue := recorder.queue ++ [rows] }

/-- The recorder with one more call. Calls are kept whether they succeed or fail. -/
def noting (recorder : Recorder) (call : Call) : Recorder :=
  { recorder with calls := recorder.calls ++ [call] }

/-- Record a select and hand out the next row set, or no rows if none is queued. A select that
fails is recorded too, and the queue stays as it was. -/
def select (sql : String) (parameters : Parameters) (recorder : Recorder) :
    Except String (List Row) × Recorder :=
  let noted := recorder.noting (.select sql parameters)
  match recorder.failure with
  | some message => (.error message, noted)
  | none => (.ok (recorder.queue.headD []), { noted with queue := recorder.queue.tail })

/-- Record a call that returns no rows. The queue of row sets is not touched. -/
def report (call : Call) (recorder : Recorder) : Except String Bool × Recorder :=
  let noted := recorder.noting call
  match recorder.failure with
  | some message => (.error message, noted)
  | none => (.ok recorder.reports, noted)

end Recorder

instance : Driver Recorder where
  select sql parameters := fun recorder => recorder.select sql parameters
  insert rows := fun recorder => recorder.report (.insert rows)
  execute sql parameters := fun recorder => recorder.report (.execute sql parameters)

end BoundSql
