import BoundSql.Record.Basic
import BoundSql.Statement.Select

/-!
# Changing and deleting rows

The database changes rows by altering the table, and asks for a where clause
even where every row is meant. The values of the filter are bound before those
of the assignments. An update carries only the values it needs; a delete carries
all that are bound.
-/

namespace BoundSql

/-- The where clause that every row meets, for changes without a condition of their own. -/
def matchAll : String := "where 1 = 1"

namespace Query

/-- The where clause of a change; it is never empty. Only the conditions of the query count, and
not its joins or its paging. -/
def mutationFilter (query : Query) : Compile String := do
  let filter ← renderWhere query.conditions
  pure (if filter.isEmpty then matchAll else filter)

/-- One assignment: its token and its text. The value is bound for no clause, so the token is
what says later that it is needed. -/
def renderAssignment (assignment : String × Value) : Compile (Token × String) := do
  let (column, value) := assignment
  let token ← Compile.assign value
  pure (token, Identifier.wrapName column ++ " = " ++ token.standIn value)

/-- The update of the rows of a query, with the given columns set. Without a column it stops
before anything is bound. -/
def compileUpdate (query : Query) (assignments : Record) : Compile Statement := do
  if assignments.isEmpty then
    throw .noAssignments
  let filter ← query.mutationFilter
  let rendered ← assignments.fields.mapM renderAssignment
  let registry ← get
  let sql := "alter table " ++ Identifier.wrapName query.table ++ " update " ++
    ", ".intercalate (rendered.map (·.2)) ++ " " ++ filter
  pure ⟨sql, registry.parametersForUpdate (rendered.map (·.1))⟩

/-- The text of a delete, which takes from the query the table and the conditions. -/
def deleteText (query : Query) : Compile String := do
  let filter ← query.mutationFilter
  pure ("alter table " ++ Identifier.wrapName query.table ++ " delete " ++ filter)

/-- The deletion of the rows of a query. Without a condition it deletes all of them. -/
def compileDelete (query : Query) : Compile Statement :=
  withParameters query.deleteText

end Query

end BoundSql
