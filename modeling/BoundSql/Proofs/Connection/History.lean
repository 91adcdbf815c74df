import BoundSql.Proofs.Connection.Operation
import BoundSql.Proofs.Statement.Insertion

/-!
# Connections through whole histories

A recorder is filled with row sets and asked by a connection, in any order and
any number of times. Calls are only appended, each operation appends what its
request says, and the row sets pass through the recorder like through a queue:
those there at the start and those put in since are, in order, those handed out
and those still there.

The row sets handed out are counted by the selects that do not fail while
something is queued. A select on an empty queue is handed no rows, and what is
queued later is not kept for it.
-/

namespace BoundSql.Connection

/-- What can happen to a recorder under a connection. Nothing sets its failure or its report in
between: these belong to the world at the start. -/
inductive Move
  /-- A row set is put at the end of the queue. -/
  | enqueue (rows : List Row)
  /-- The connection is asked for an operation. -/
  | ask (operation : Operation)

/-- The row set that an operation takes from a recorder, if it takes one. A recorder that fails
keeps its row sets, and so does an operation that makes another call. -/
def Operation.takes (operation : Operation) (recorder : Recorder) : List (List Row) :=
  match operation.request, recorder.failure with
  | .ok (some (.select ..)), none => recorder.queue.take 1
  | _, _ => []

namespace Move

/-- The world after a move, whatever the move answers; an operation that fails leaves a world
too. -/
def apply (connection : Connection) : Move → World Recorder → World Recorder
  | enqueue rows, world => { world with driver := world.driver.enqueue rows }
  | ask operation, world => ((operation.run connection).runOn world).2

/-- The calls a move makes. They depend on the operation alone and on nothing that happened
before. -/
def calls : Move → List Call
  | enqueue _ => []
  | ask operation => operation.calls

/-- The row sets a move puts into the queue. -/
def puts : Move → List (List Row)
  | enqueue rows => [rows]
  | ask _ => []

/-- The row sets a move takes from the queue. -/
def takes : Move → Recorder → List (List Row)
  | enqueue _, _ => []
  | ask operation, recorder => operation.takes recorder

end Move

/-- The world after a history, one move after the other. -/
def run (connection : Connection) (moves : List Move) (world : World Recorder) : World Recorder :=
  moves.foldl (fun before move => move.apply connection before) world

/-- The row sets handed out in a history, in order. Which they are depends on the queue at each
move, so the world is carried along. -/
def handedOut (connection : Connection) : List Move → World Recorder → List (List Row)
  | [], _ => []
  | move :: rest, world =>
    move.takes world.driver ++ handedOut connection rest (move.apply connection world)

/-! ## One move -/

section

variable {operation : Operation} {recorder after : Recorder}
  {result : Except ConnectionError Answer}

namespace Operation.Serves

/-- The calls of an operation stand behind those before. None is taken back, not even if the
recorder then fails. -/
theorem calls_eq (served : operation.Serves recorder result after) :
    after.calls = recorder.calls ++ operation.calls := by
  cases served <;> simp [calls, *]

/-- What is in the queue was taken by the operation or is still there; what is taken was in
front. -/
theorem queue_eq (served : operation.Serves recorder result after) :
    recorder.queue = operation.takes recorder ++ after.queue := by
  cases served with
  | refused request => simp [takes, request]
  | idle request => simp [takes, request]
  | failed request fails => simp [takes, request, fails]
  | handed request works =>
    simpa [takes, request, works] using (List.take_append_drop 1 recorder.queue).symm
  | acknowledged request other works =>
    rename_i call
    cases call with
    | select sql parameters => exact absurd rfl (other sql parameters)
    | insert rows => simp [takes, request]
    | execute sql parameters => simp [takes, request]

/-- Whether a recorder fails, and what it reports, stays. -/
theorem settings_eq (served : operation.Serves recorder result after) :
    after.failure = recorder.failure ∧ after.reports = recorder.reports := by
  cases served <;> exact ⟨rfl, rfl⟩

end Operation.Serves

end

namespace Move

variable (connection : Connection) (move : Move) (world : World Recorder)

/-- The calls of a move stand behind those before. -/
theorem calls_apply :
    (move.apply connection world).driver.calls = world.driver.calls ++ move.calls := by
  cases move with
  | enqueue rows => simp [apply, calls, Recorder.enqueue]
  | ask operation => exact (operation.serves_run connection world).calls_eq

/-- What was in the queue and what a move puts there, it takes or leaves there, in order. A
single move does at most one of the two. -/
theorem queue_apply :
    world.driver.queue ++ move.puts =
      move.takes world.driver ++ (move.apply connection world).driver.queue := by
  cases move with
  | enqueue rows => rfl
  | ask operation =>
    rw [puts, List.append_nil]
    exact (operation.serves_run connection world).queue_eq

/-- Whether a recorder fails, and what it reports, stays. -/
theorem settings_apply :
    (move.apply connection world).driver.failure = world.driver.failure ∧
      (move.apply connection world).driver.reports = world.driver.reports := by
  cases move with
  | enqueue rows => exact ⟨rfl, rfl⟩
  | ask operation => exact (operation.serves_run connection world).settings_eq

end Move

/-! ## Calls that insert -/

namespace Operation

/-- An operation makes a call exactly if it requests it. -/
theorem mem_calls_iff {operation : Operation} {call : Call} :
    call ∈ operation.calls ↔ operation.request = .ok (some call) := by
  unfold calls
  cases operation.request with
  | error error => simp
  | ok requested => simp [Option.mem_toList]

/-- A statement is sent by the call that was chosen for it, so the kind of a call says what was
compiled. -/
theorem call_of_sending {send : String → Parameters → Call} {action : Compile Statement}
    {call : Call} (requested : sending send action = .ok (some call)) :
    ∃ sql parameters, call = send sql parameters := by
  unfold sending at requested
  split at requested
  · cases requested
    exact ⟨_, _, rfl⟩
  · cases requested

/-- What is inserted was compiled from the payload. -/
theorem compiled_of_inserting {table : String} {payload : Payload} {insert : Insert}
    (requested : inserting table payload = .ok (some (.insert insert))) :
    Insert.compile table payload = .ok (some insert) := by
  unfold inserting at requested
  cases done : Insert.compile table payload with
  | error error => simp [done] at requested
  | ok rows => simpa [done] using requested

/-- An insert that is requested was compiled from a payload. -/
theorem compiled_of_request {operation : Operation} {insert : Insert}
    (requested : operation.request = .ok (some (.insert insert))) :
    ∃ table payload, Insert.compile table payload = .ok (some insert) := by
  cases operation with
  | select query | selectOne query | count query | update query assignments | delete query =>
    obtain ⟨sql, parameters, sent⟩ := call_of_sending requested
    cases sent
  | selectRaw sql parameters | statement sql parameters => cases requested
  | unprepared sql | unsupported name | transaction name => cases requested
  | insert table payload => exact ⟨table, payload, compiled_of_inserting requested⟩
  | insertJson table json =>
    rw [request] at requested
    cases read : Payload.ofJson json with
    | error error => simp [read] at requested
    | ok payload =>
      rw [read] at requested
      exact ⟨table, payload, compiled_of_inserting requested⟩

end Operation

/-! ## Whole histories -/

section

variable (connection : Connection) (moves : List Move) (world : World Recorder)

/-- The calls of a history stand behind those before, in the order of its moves. Induct over the
history, with the world left arbitrary. -/
theorem calls_run :
    (run connection moves world).driver.calls =
      world.driver.calls ++ moves.flatMap Move.calls := by
  induction moves generalizing world with
  | nil => simp [run]
  | cons move rest inductionHypothesis =>
    have first := move.calls_apply connection world
    have others := inductionHypothesis (move.apply connection world)
    rw [run, List.foldl_cons, ← run, others, first, List.flatMap_cons, List.append_assoc]

/-- What was in the queue and what a history puts there, it hands out or leaves there, in order.
Induct over the history: what one move leaves is what the next one finds. -/
theorem queue_run :
    world.driver.queue ++ moves.flatMap Move.puts =
      handedOut connection moves world ++ (run connection moves world).driver.queue := by
  induction moves generalizing world with
  | nil => simp [run, handedOut]
  | cons move rest inductionHypothesis =>
    have first := move.queue_apply connection world
    have others := inductionHypothesis (move.apply connection world)
    rw [run, List.foldl_cons, ← run, handedOut, List.append_assoc, ← others,
      ← List.append_assoc, ← first, List.flatMap_cons, List.append_assoc]

/-- Of three selects the first two are handed what was put in, in order; the
statement between them takes nothing. -/
example :
    let first : List Row := [[("n", .string "1")]]
    let second : List Row := [[("n", .string "2")]]
    let ask : Move := .ask (.selectRaw "select n" .empty)
    handedOut {} [.enqueue first, .enqueue second, ask, .ask (.unprepared "system flush logs"),
      ask, ask] ⟨{}, []⟩ = [first, second] := rfl

/-- Whether a recorder fails, and what it reports, stays through a history. -/
theorem settings_run :
    (run connection moves world).driver.failure = world.driver.failure ∧
      (run connection moves world).driver.reports = world.driver.reports := by
  induction moves generalizing world with
  | nil => exact ⟨rfl, rfl⟩
  | cons move rest inductionHypothesis =>
    have first := move.settings_apply connection world
    have others := inductionHypothesis (move.apply connection world)
    exact ⟨others.1.trans first.1, others.2.trans first.2⟩

end

/-- A recorder keeps the books of its connection, whether it fails or not and
through any history of row sets put in and operations asked for. Each operation
makes at most one call, the calls stand in the order of the history behind those
before, and what is inserted has rows as long as its columns. The row sets that
were there at the start and those put in are, in order, those handed out and
those still there: none is lost, and none comes twice.

The next operation, after any history, is served in one of the ways there are.
If it is refused or has nothing to do, the recorder does not hear of it. If it
makes a call, this is recorded; then a recorder that fails is its answer and
keeps its row sets, a select reads its answer off the next row set, and any
other call is answered by the report.

Proof: by induction over the history, from what is true of one move. A move
either puts a row set in, or is an operation that is served. -/
theorem histories_are_recorded (connection : Connection) (moves : List Move)
    (world : World Recorder) :
    let final := run connection moves world
    (∀ operation : Operation, operation.calls.length ≤ 1) ∧
      final.driver.calls = world.driver.calls ++ moves.flatMap Move.calls ∧
      (∀ insert, Call.insert insert ∈ moves.flatMap Move.calls →
        ∀ row ∈ insert.rows, row.length = insert.columns.length) ∧
      world.driver.queue ++ moves.flatMap Move.puts =
        handedOut connection moves world ++ final.driver.queue ∧
      final.driver.failure = world.driver.failure ∧
      final.driver.reports = world.driver.reports ∧
      ∀ operation : Operation,
        let outcome := (operation.run connection).runOn final
        operation.Serves final.driver outcome.1 outcome.2.driver := by
  intro final
  have atMostOne : ∀ operation : Operation, operation.calls.length ≤ 1 := by
    intro operation
    unfold Operation.calls
    cases operation.request with
    | error error => exact Nat.zero_le 1
    | ok call => exact Option.length_toList_le
  have fitting : ∀ insert, Call.insert insert ∈ moves.flatMap Move.calls →
      ∀ row ∈ insert.rows, row.length = insert.columns.length := by
    intro insert called
    obtain ⟨move, -, made⟩ := List.mem_flatMap.mp called
    cases move with
    | enqueue rows => cases made
    | ask operation =>
      obtain ⟨table, payload, compiled⟩ :=
        Operation.compiled_of_request (Operation.mem_calls_iff.mp made)
      exact Insert.length_row_of_compiled compiled
  obtain ⟨failure, reports⟩ := settings_run connection moves world
  exact ⟨atMostOne, calls_run connection moves world, fitting,
    queue_run connection moves world, failure, reports,
    fun operation => operation.serves_run connection final⟩

end BoundSql.Connection
