import BoundSql.Json.Shape
import BoundSql.Json.Structure

/-!
# Binding groups

The clauses of a statement that values are bound for. A value may be bound for
several clauses, or for none.
-/

namespace BoundSql

/-- A clause of a statement. There is no group for the assignments of an update; their values
are bound for no clause. -/
inductive Group
  | select
  | fromClause
  | join
  | whereClause
  | groupBy
  | having
  | order
  | union
  | unionOrder
deriving DecidableEq

namespace Group

/-- All groups, in the order of a statement's clauses. -/
def all : List Group :=
  [.select, .fromClause, .join, .whereClause, .groupBy, .having, .order, .union, .unionOrder]

/-- The name of a group, as callers give it and as it is stored. Names of two words have their
second capital, as in `groupBy`. -/
def name : Group → String
  | .select => "select"
  | .fromClause => "from"
  | .join => "join"
  | .whereClause => "where"
  | .groupBy => "groupBy"
  | .having => "having"
  | .order => "order"
  | .union => "union"
  | .unionOrder => "unionOrder"

/-- The group with a name, if there is one. Names are compared as they are, with their capitals
and blanks. -/
def ofName? (name : String) : Option Group :=
  all.find? (·.name == name)

/-- Whether an update has no such clause, so that what is bound only for it is left out. -/
def excludedFromUpdate : Group → Bool
  | .select | .join => true
  | _ => false

/-- Every group is found under its name. -/
theorem ofName?_name (group : Group) : ofName? group.name = some group := by
  cases group <;> decide

/-- The stored form of a group, which is its name alone. -/
def encode (group : Group) : Json :=
  .string group.name

/-- A group from its stored form. Besides the name alone, an object with the name as its only
key and null under it is accepted. -/
def decode? : Json → Option Group :=
  Json.case? false (all.map fun group => (group.name, group))

/-- A group from the text of its stored form; the text must be well-formed JSON as a whole. -/
def ofText? (text : String) : Option Group :=
  (Json.Shape.whole.read? text).bind decode?

end Group

end BoundSql
