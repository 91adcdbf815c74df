import BoundSql.Connection.Basic

/-!
# What a session does to its driver

The journal is written and never read, so what an operation answers and how it
leaves the driver rest on the driver alone. This is said once, together with the
ways in which operations are put together.
-/

namespace BoundSql.Session

variable {δ α β : Type}

/-- From this driver, and whatever the journal holds, the action has that result
and leaves that other driver. -/
def Yields (action : Session δ α) (driver : δ) (result : Except ConnectionError α)
    (after : δ) : Prop :=
  ∀ journal, ∃ written, action.runOn ⟨driver, journal⟩ = (result, ⟨after, written⟩)

/-- What follows an action starts from its result and from the world it leaves;
an error is final. -/
theorem runOn_bind (action : Session δ α) (next : α → Session δ β) (world : World δ) :
    (action >>= next).runOn world =
      match action.runOn world with
      | (.ok value, after) => (next value).runOn after
      | (.error error, after) => (.error error, after) := by
  change (match action.run world with
    | (result, after) => ExceptT.bindCont next result after) = _
  unfold runOn
  cases action.run world with
  | mk result after => cases result <;> rfl

namespace Yields

/-- What is there at once leaves the driver alone, and nothing is written. -/
theorem pure (value : α) (driver : δ) :
    Yields (Pure.pure value) driver (.ok value) driver :=
  fun journal => ⟨journal, rfl⟩

/-- An error leaves the driver alone. -/
theorem throw (error : ConnectionError) (driver : δ) :
    Yields (MonadExcept.throw error : Session δ α) driver (.error error) driver :=
  fun journal => ⟨journal, rfl⟩

/-- Events leave the driver alone. -/
theorem log (events : List Log.Event) (driver : δ) :
    Yields (Session.log events) driver (.ok ()) driver :=
  fun journal => ⟨journal ++ events, rfl⟩

/-- An action goes on from the value of another and from the driver it left. What both have
written stands in the journal one behind the other. -/
theorem bind {action : Session δ α} {next : α → Session δ β} {before between after : δ}
    {value : α} {result : Except ConnectionError β}
    (first : Yields action before (.ok value) between)
    (second : Yields (next value) between result after) :
    Yields (action >>= next) before result after := by
  intro journal
  obtain ⟨written, ran⟩ := first journal
  obtain ⟨more, continued⟩ := second written
  exact ⟨more, by rw [runOn_bind, ran]; exact continued⟩

/-- An error ends an action, whatever would have followed. -/
theorem stop {action : Session δ α} {next : α → Session δ β} {before after : δ}
    {error : ConnectionError} (first : Yields action before (.error error) after) :
    Yields (action >>= next) before (.error error) after := by
  intro journal
  obtain ⟨written, ran⟩ := first journal
  exact ⟨written, by rw [runOn_bind, ran]⟩

/-- What is only read off a result leaves the driver as the action left it. It may still fail,
as reading a number off a row may. -/
theorem reading {action : Session δ α} {next : α → Session δ β} {before after : δ}
    {result : Except ConnectionError α} {read : α → Except ConnectionError β}
    (first : Yields action before result after)
    (reads : ∀ value, Yields (next value) after (read value) after) :
    Yields (action >>= next) before (result >>= read) after := by
  cases result with
  | error error => exact first.stop
  | ok value => exact first.bind (reads value)

/-- What is made of the value of an action does not touch the driver. -/
theorem map {action : Session δ α} {before after : δ} {result : Except ConnectionError α}
    (first : Yields action before result after) (make : α → β) :
    Yields (action >>= fun value => Pure.pure (make value)) before (result.map make) after := by
  have made := first.reading fun value => pure (make value) after
  cases result <;> exact made

/-- A call has the result of the driver; if the driver failed, its text is wrapped. -/
theorem call (action : StateM δ (Except String α)) (driver : δ) :
    Yields (Session.call action) driver ((action driver).1.mapError .driver) (action driver).2 := by
  have called : Yields (modifyGet fun world : World δ =>
      ((action world.driver).1, { world with driver := (action world.driver).2 })) driver
      (.ok (action driver).1) (action driver).2 := fun journal => ⟨journal, rfl⟩
  refine called.bind ?_
  cases (action driver).1 with
  | error message => exact .throw (.driver message) _
  | ok value => exact .pure value _

/-- Compiling leaves the driver alone. What is written about it goes to the journal, whether it
succeeds or not. -/
theorem compiled (kind table : String) (action : Compile Statement) (driver : δ) :
    Yields (Session.compiled kind table action) driver
      ((action.runOn Registry.empty).1.mapError .compile) driver := by
  unfold Session.compiled
  cases action.runOn Registry.empty with
  | mk result registry =>
    refine (Yields.log (assignments registry) driver).bind ?_
    cases result with
    | error error => exact .throw (.compile error) driver
    | ok statement => exact (Yields.log _ driver).bind (.pure statement driver)

end Yields

end BoundSql.Session
