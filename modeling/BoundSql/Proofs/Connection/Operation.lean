import BoundSql.Proofs.Connection.Session

/-!
# What an operation asks of a recorder

Every operation on a connection either is refused, or has nothing to do, or
makes one call. Which of these it is, and with which call, does not depend on
the driver: it is said by a table of requests. What the recorder then does is
said by a relation with one case for each thing that can happen, and every
operation is shown to run by it.

The table takes the compiled statements as they come from an empty registry.
What these statements mean is the matter of other modules.
-/

namespace BoundSql.Connection

/-- What can be asked of a connection. Operations that the database does not have are among
them, since a caller can ask for them too. -/
inductive Operation
  /-- The rows of a query. -/
  | select (query : Query)
  /-- The first row of a query. -/
  | selectOne (query : Query)
  /-- The rows of a text with given values. -/
  | selectRaw (sql : String) (parameters : Parameters)
  /-- The number of rows of a query. -/
  | count (query : Query)
  /-- That a payload is inserted. -/
  | insert (table : String) (payload : Payload)
  /-- That a JSON object or an array of objects is inserted. -/
  | insertJson (table : String) (json : Json)
  /-- That columns are set in the rows of a query. -/
  | update (query : Query) (assignments : Record)
  /-- That the rows of a query are deleted. -/
  | delete (query : Query)
  /-- A statement that returns no rows, with given values. -/
  | statement (sql : String) (parameters : Parameters)
  /-- A statement that returns no rows. -/
  | unprepared (sql : String)
  /-- An operation that the database does not have: a cursor, the number of rows a statement
  affects, bindings prepared apart, or statements that are only collected. -/
  | unsupported (name : String)
  /-- An operation on transactions: a whole one, its start, either end or its depth. -/
  | transaction (name : String)

/-- What an operation answers. Which form it has depends on the operation alone. -/
inductive Answer
  | rows (rows : List Row)
  | row (row : Option Row)
  | number (number : Nat)
  | done (succeeded : Bool)
  | nothing

namespace Operation

/-- An operation on a connection, with its answer. -/
def run {δ : Type} [Driver δ] (connection : Connection) : Operation → Session δ Answer
  | select query => do
    let rows ← connection.select query
    pure (.rows rows)
  | selectOne query => do
    let row ← connection.selectOne query
    pure (.row row)
  | selectRaw sql parameters => do
    let rows ← connection.selectRaw sql parameters
    pure (.rows rows)
  | count query => do
    let number ← connection.count query
    pure (.number number)
  | insert table payload => do
    let succeeded ← Connection.insert table payload
    pure (.done succeeded)
  | insertJson table json => do
    let succeeded ← Connection.insertJson table json
    pure (.done succeeded)
  | update query assignments => do
    let number ← Connection.update query assignments
    pure (.number number)
  | delete query => do
    let number ← Connection.delete query
    pure (.number number)
  | statement sql parameters => do
    let succeeded ← Connection.statement sql parameters
    pure (.done succeeded)
  | unprepared sql => do
    let succeeded ← Connection.unprepared sql
    pure (.done succeeded)
  | unsupported name => do
    Connection.unsupported name
    pure .nothing
  | transaction name => do
    Connection.refuseTransaction name
    pure .nothing

/-! ## Requests -/

/-- The call with a statement and its values, if the statement can be compiled. Every operation
compiles on a registry of its own, which is empty. -/
def sending (call : String → Parameters → Call) (action : Compile Statement) :
    Except ConnectionError (Option Call) :=
  match (action.runOn Registry.empty).1 with
  | .ok compiled => .ok (some (call compiled.sql compiled.parameters))
  | .error error => .error (.compile error)

/-- The call with the rows of a payload, if there are any. Rows without columns make no call,
and that is no error. -/
def inserting (table : String) (payload : Payload) : Except ConnectionError (Option Call) :=
  match Insert.compile table payload with
  | .ok rows => .ok (rows.map Call.insert)
  | .error error => .error (.compile error)

/-- What an operation asks of the driver: a call, nothing, or not even that because it is
refused. -/
def request : Operation → Except ConnectionError (Option Call)
  | select query => sending .select query.compileSelect
  | selectOne query => sending .select { query with limit := some 1 }.compileSelect
  | selectRaw sql parameters => .ok (some (.select sql parameters))
  | count query => sending .select query.compileCount
  | insert table payload => inserting table payload
  | insertJson table json =>
    match Payload.ofJson json with
    | .ok payload => inserting table payload
    | .error error => .error (.payload error)
  | update query assignments => sending .execute (query.compileUpdate assignments)
  | delete query => sending .execute query.compileDelete
  | statement sql parameters => .ok (some (.execute sql parameters))
  | unprepared sql => .ok (some (.execute sql .empty))
  | unsupported name => .error (.unsupported name)
  | transaction _ => .error .noTransactions

/-- The calls of an operation: one or none. An operation that is refused makes none. -/
def calls (operation : Operation) : List Call :=
  match operation.request with
  | .ok call => call.toList
  | .error _ => []

/-! ## Answers -/

/-- The number in the first column of the first row, if there is one. Without a row the number
is zero, and a value that is no number is an error. -/
def counted : List Row → Except ConnectionError Nat
  | ((_, value) :: _) :: _ =>
    match countOf? value with
    | some number => .ok number
    | none => .error (.unexpectedCount value.text)
  | _ => .ok 0

/-- What an operation answers when it was handed rows. -/
def reading : Operation → List Row → Except ConnectionError Answer
  | selectOne _, rows => .ok (.row rows.head?)
  | count _, rows => do
    let number ← counted rows
    pure (.number number)
  | _, rows => .ok (.rows rows)

/-- What an operation answers when its call was only acknowledged: a change has no better
number of rows than whether it succeeded. -/
def reporting : Operation → Bool → Answer
  | update _ _, succeeded => .number succeeded.toNat
  | delete _, succeeded => .number succeeded.toNat
  | _, succeeded => .done succeeded

/-- What happens when a recorder is to serve an operation: the answer, and the recorder
afterwards. -/
inductive Serves (operation : Operation) (recorder : Recorder) :
    Except ConnectionError Answer → Recorder → Prop where
  /-- A refused operation leaves everything as it is. -/
  | refused {error : ConnectionError} (request : operation.request = .error error) :
      Serves operation recorder (.error error) recorder
  /-- So does one that has nothing to do, and it succeeds. -/
  | idle (request : operation.request = .ok none) :
      Serves operation recorder (.ok (.done true)) recorder
  /-- A recorder that fails keeps the call, and its row sets. -/
  | failed {call : Call} {message : String} (request : operation.request = .ok (some call))
      (fails : recorder.failure = some message) :
      Serves operation recorder (.error (.driver message))
        { recorder with calls := recorder.calls ++ [call] }
  /-- A select is handed the next row set, or no rows, and this set is gone from the queue. -/
  | handed {sql : String} {parameters : Parameters}
      (request : operation.request = .ok (some (.select sql parameters)))
      (works : recorder.failure = none) :
      Serves operation recorder (operation.reading (recorder.queue.headD []))
        { recorder with
          calls := recorder.calls ++ [.select sql parameters]
          queue := recorder.queue.tail }
  /-- Any other call is acknowledged, and the queue stays as it is. -/
  | acknowledged {call : Call} (request : operation.request = .ok (some call))
      (other : ∀ sql parameters, call ≠ .select sql parameters)
      (works : recorder.failure = none) :
      Serves operation recorder (.ok (operation.reporting recorder.reports))
        { recorder with calls := recorder.calls ++ [call] }

/-! ## Every operation runs as it is served -/

/-- From a recorder, an operation runs in one of the ways in which it can be served. The journal
is left out, since no answer depends on it. -/
def RunsAsServed (connection : Connection) (operation : Operation) (recorder : Recorder) : Prop :=
  ∃ result after, (operation.run connection).Yields recorder result after ∧
    operation.Serves recorder result after

variable {connection : Connection} {operation : Operation} {recorder : Recorder}

/-- A select leaves the recorder as its driver leaves it. -/
theorem yields_selectRaw (connection : Connection) (recorder : Recorder) (sql : String)
    (parameters : Parameters) :
    (connection.selectRaw sql parameters).Yields recorder
      ((recorder.select sql parameters).1.mapError .driver)
      (recorder.select sql parameters).2 := by
  have called := Session.Yields.call (Driver.select sql parameters) recorder
  have noted : (connection.selectRaw sql parameters).Yields recorder
      ((recorder.select sql parameters).1.mapError .driver >>= pure)
      (recorder.select sql parameters).2 :=
    called.reading fun rows => (Session.Yields.log _ _).bind (.pure rows _)
  rwa [bind_pure] at noted

/-- An operation that ends in a select, and reads its answer off the rows, is
handed a row set or told that the recorder failed. -/
theorem runsAsServed_of_fetching {sql : String} {parameters : Parameters}
    (request : operation.request = .ok (some (.select sql parameters)))
    (fetching : ∀ {result after},
      (connection.selectRaw sql parameters).Yields recorder result after →
        (operation.run connection).Yields recorder (result >>= operation.reading) after) :
    RunsAsServed connection operation recorder := by
  have selected := yields_selectRaw connection recorder sql parameters
  cases failure : recorder.failure with
  | some message =>
    rw [Recorder.select, failure] at selected
    exact ⟨_, _, fetching selected, .failed request failure⟩
  | none =>
    rw [Recorder.select, failure] at selected
    exact ⟨_, _, fetching selected, .handed request failure⟩

/-- An operation that ends in another call, and answers with its report, is
acknowledged or told that the recorder failed. -/
theorem runsAsServed_of_reporting {call : Call}
    (request : operation.request = .ok (some call))
    (other : ∀ sql parameters, call ≠ .select sql parameters)
    (reporting : ∀ {result after},
      (Session.call fun recorder : Recorder => recorder.report call).Yields recorder result after →
        (operation.run connection).Yields recorder (result.map operation.reporting) after) :
    RunsAsServed connection operation recorder := by
  have called := Session.Yields.call (fun recorder : Recorder => recorder.report call) recorder
  cases failure : recorder.failure with
  | some message =>
    rw [Recorder.report, failure] at called
    exact ⟨_, _, reporting called, .failed request failure⟩
  | none =>
    rw [Recorder.report, failure] at called
    exact ⟨_, _, reporting called, .acknowledged request other failure⟩

/-- An operation that first compiles a statement is refused if that fails, and
otherwise it is a matter of what it does with the statement. -/
theorem runsAsServed_of_compiling (kind table : String) {call : String → Parameters → Call}
    {action : Compile Statement} (request : operation.request = sending call action)
    (stopping : ∀ {error},
      (Session.compiled kind table action).Yields recorder (.error error) recorder →
        (operation.run connection).Yields recorder (.error error) recorder)
    (going : ∀ statement : Statement,
      operation.request = .ok (some (call statement.sql statement.parameters)) →
        (Session.compiled kind table action).Yields recorder (.ok statement) recorder →
        RunsAsServed connection operation recorder) :
    RunsAsServed connection operation recorder := by
  have compiled := Session.Yields.compiled kind table action recorder
  unfold sending at request
  cases done : (action.runOn Registry.empty).1 with
  | error error =>
    rw [done] at compiled request
    exact ⟨_, _, stopping compiled, .refused request⟩
  | ok statement =>
    rw [done] at compiled request
    exact going statement request compiled

/-- A select answers with the rows, as many as it was handed. -/
theorem runsAsServed_select (connection : Connection) (recorder : Recorder) (query : Query) :
    RunsAsServed connection (.select query) recorder := by
  refine runsAsServed_of_compiling "select" query.table rfl
    (fun stopped => stopped.stop.stop) fun statement request compiled => ?_
  refine runsAsServed_of_fetching request fun fetched => ?_
  exact (compiled.bind fetched).reading fun rows => Session.Yields.pure (Answer.rows rows) _

/-- A select of one row answers with the first one. That it also asks for one row only is said
by the table of requests. -/
theorem runsAsServed_selectOne (connection : Connection) (recorder : Recorder) (query : Query) :
    RunsAsServed connection (.selectOne query) recorder := by
  refine runsAsServed_of_compiling "select" query.table rfl
    (fun stopped => stopped.stop.stop.stop) fun statement request compiled => ?_
  refine runsAsServed_of_fetching request fun {result after} fetched => ?_
  have selected : (connection.select (query.limitTo 1)).Yields recorder result after :=
    compiled.bind fetched
  have answered := (selected.map List.head?).map Answer.row
  -- Making the row and then the answer is reading the answer, with an error as with rows.
  cases result <;> exact answered

/-- A count answers with the number in the first row. -/
theorem runsAsServed_count (connection : Connection) (recorder : Recorder) (query : Query) :
    RunsAsServed connection (.count query) recorder := by
  refine runsAsServed_of_compiling "count" query.table rfl
    (fun stopped => stopped.stop.stop) fun statement request compiled => ?_
  refine runsAsServed_of_fetching request fun {result after} fetched => ?_
  have counting : (connection.count query).Yields recorder (result >>= counted) after := by
    refine compiled.bind (fetched.reading fun rows => ?_)
    match rows with
    | [] => exact .pure 0 after
    | [] :: _ => exact .pure 0 after
    | ((_, value) :: _) :: _ =>
      rw [counted]
      dsimp only
      cases countOf? value with
      | some number => exact .pure number after
      | none => exact .throw (.unexpectedCount value.text) after
  have answered := counting.reading fun number =>
    Session.Yields.pure (Answer.number number) after
  cases result <;> exact answered

/-- A payload is inserted, or there is nothing to insert, or it is refused. -/
theorem runsAsServed_of_inserting {table : String} {payload : Payload}
    (request : operation.request = inserting table payload)
    (report : operation.reporting = Answer.done)
    (inserts : ∀ {result after},
      (Connection.insert table payload).Yields recorder result after →
        (operation.run connection).Yields recorder (result.map Answer.done) after) :
    RunsAsServed connection operation recorder := by
  unfold Connection.insert at inserts
  unfold inserting at request
  cases done : Insert.compile table payload with
  | error error =>
    rw [done] at inserts request
    exact ⟨_, _, inserts (.throw (.compile error) recorder), .refused request⟩
  | ok rows =>
    rw [done] at inserts request
    cases rows with
    | none =>
      have answered := inserts ((Session.Yields.log _ recorder).bind (.pure true recorder))
      exact ⟨_, _, answered, .idle request⟩
    | some rows =>
      refine runsAsServed_of_reporting request (by simp) fun called => ?_
      rw [report]
      exact inserts ((Session.Yields.log _ recorder).bind called)

/-- A change that can be compiled is run, and answers with whether it succeeded as a number. -/
theorem runsAsServed_of_changing (kind table : String) {action : Compile Statement}
    (request : operation.request = sending .execute action)
    (report : operation.reporting = fun succeeded => .number succeeded.toNat)
    (changes : operation.run connection = (do
      let number ← (do
        let change ← Session.compiled kind table action
        affected change : Session Recorder Nat)
      pure (.number number))) :
    RunsAsServed connection operation recorder := by
  refine runsAsServed_of_compiling kind table request (fun stopped => ?_)
    fun change request compiled => ?_
  · rw [changes]
    exact stopped.stop.stop
  · refine runsAsServed_of_reporting request (by simp) fun {result after} called => ?_
    have counted : (affected change : Session Recorder Nat).Yields recorder
        (result.map Bool.toNat) after := called.map Bool.toNat
    have answered := (compiled.bind counted).map Answer.number
    rw [changes, report]
    cases result <;> exact answered

/-- Every operation runs in one of the ways in which it can be served. The cases are the
operations, each by the lemma for its kind. -/
theorem runsAsServed (connection : Connection) (operation : Operation) (recorder : Recorder) :
    RunsAsServed connection operation recorder := by
  cases operation with
  | select query => exact runsAsServed_select connection recorder query
  | selectOne query => exact runsAsServed_selectOne connection recorder query
  | count query => exact runsAsServed_count connection recorder query
  | selectRaw sql parameters =>
    exact runsAsServed_of_fetching rfl fun fetched =>
      fetched.reading fun rows => Session.Yields.pure (Answer.rows rows) _
  | insert table payload =>
    exact runsAsServed_of_inserting rfl rfl fun inserted => inserted.map Answer.done
  | insertJson table json =>
    cases read : Payload.ofJson json with
    | error error =>
      have refused : (Connection.insertJson table json).Yields recorder
          (.error (.payload error)) recorder := by
        rw [Connection.insertJson, read]
        exact .throw (.payload error) recorder
      exact ⟨_, _, refused.stop, .refused (by rw [request, read])⟩
    | ok payload =>
      refine runsAsServed_of_inserting (by rw [request, read]) rfl fun inserted => ?_
      rw [run, Connection.insertJson, read]
      exact inserted.map Answer.done
  | update query assignments => exact runsAsServed_of_changing "update" query.table rfl rfl rfl
  | delete query => exact runsAsServed_of_changing "delete" query.table rfl rfl rfl
  | statement sql parameters =>
    exact runsAsServed_of_reporting rfl (by simp) fun called => called.map Answer.done
  | unprepared sql =>
    exact runsAsServed_of_reporting rfl (by simp) fun called => called.map Answer.done
  | unsupported name =>
    have refused : (Connection.unsupported name : Session Recorder Unit).Yields recorder
        (.error (.unsupported name)) recorder :=
      (Session.Yields.log _ recorder).bind (.throw _ recorder)
    exact ⟨_, _, refused.stop, .refused rfl⟩
  | transaction name =>
    have refused : (Connection.refuseTransaction name : Session Recorder Unit).Yields recorder
        (.error .noTransactions) recorder :=
      (Session.Yields.log _ recorder).bind (.throw _ recorder)
    exact ⟨_, _, refused.stop, .refused rfl⟩

/-- Whatever a world holds, an operation is served by its recorder. -/
theorem serves_run (connection : Connection) (operation : Operation) (world : World Recorder) :
    let outcome := (operation.run connection).runOn world
    operation.Serves world.driver outcome.1 outcome.2.driver := by
  obtain ⟨result, after, runs, served⟩ := runsAsServed connection operation world.driver
  obtain ⟨written, ran⟩ := runs world.journal
  have ran : (operation.run connection).runOn world = (result, ⟨after, written⟩) := ran
  rw [ran]
  exact served

end Operation

end BoundSql.Connection
