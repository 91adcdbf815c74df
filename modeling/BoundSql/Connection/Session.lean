import BoundSql.Connection.Driver
import BoundSql.Log.Event
import BoundSql.Statement.Mutation

/-!
# Sessions

What operations on a connection work on: the driver and the journal of what has
happened. An operation may stop at an error; calls and events up to there stay.
-/

namespace BoundSql

/-- Why an operation on a connection has no result. Errors of the statement and of the payload
are kept whole, those of the driver only as their text. -/
inductive ConnectionError
  /-- The statement cannot be compiled. -/
  | compile (error : CompileError)
  /-- A payload holds something else than values under names. -/
  | payload (error : ValueError)
  /-- The database has no such operation. -/
  | unsupported (operation : String)
  /-- The database has no transactions. -/
  | noTransactions
  /-- The driver failed. -/
  | driver (message : String)
  /-- A count came back as something else than a natural number. -/
  | unexpectedCount (value : String)

/-- The text of an error. The first two are the texts of the errors inside, without anything in
front. -/
def ConnectionError.message : ConnectionError → String
  | .compile error => error.message
  | .payload error => error.message
  | .unsupported operation => operation ++ " is not supported by the ClickHouse connection"
  | .noTransactions => "Clickhouse does not currently support transactions"
  | .driver message => "Driver error: " ++ message
  | .unexpectedCount value => "Unexpected result: count() returned " ++ value

/-- A driver and what has happened so far. The journal is the events in their order; it is only
ever added to. -/
structure World (δ : Type) where
  driver : δ
  journal : List Log.Event := []

/-- An operation on a driver and a journal, which may stop at an error. -/
abbrev Session (δ : Type) := ExceptT ConnectionError (StateM (World δ))

namespace Session

variable {δ α : Type}

/-- The result of an operation and the world afterwards. The world is there also if the
operation stops at an error, with all that came before it. -/
def runOn (action : Session δ α) (world : World δ) : Except ConnectionError α × World δ :=
  action.run world

/-- Enter events into the journal, in their order. Which of them a reader gets to see is for the
filter of the log to decide. -/
def log (events : List Log.Event) : Session δ Unit :=
  modify fun world => { world with journal := world.journal ++ events }

/-- Call the driver. If it fails its text becomes the error, and what it has done to its state
stays. -/
def call (action : StateM δ (Except String α)) : Session δ α := do
  let result ← modifyGet fun world =>
    let (result, driver) := action world.driver
    (result, { world with driver })
  match result with
  | .ok value => pure value
  | .error message => throw (.driver message)

/-- The events of the tokens of a registry that was new. Every value is in it once, so a value
that is met again is no further event. -/
def assignments (registry : Registry) : List Log.Event :=
  registry.values.map fun (token, value) => .assigned token value.kindName

/-- The parameters of caller-supplied values: equal ones share a token. The tokens come in the
order of the first occurrences. -/
def parameters (values : List Value) : Session δ Parameters := do
  let (_, registry) := Registry.empty.assignAll values
  log (assignments registry)
  pure registry.parameters

/-- A statement compiled on a new registry. The tokens given out are entered into the journal
even if the compilation fails on the way; the statement itself only if it does not. -/
def compiled (kind table : String) (action : Compile Statement) : Session δ Statement := do
  let (result, registry) := action.runOn Registry.empty
  log (assignments registry)
  match result with
  | .ok statement =>
    log [.compiled kind table statement.sql statement.parameters.size]
    pure statement
  | .error error => throw (.compile error)

end Session

end BoundSql
