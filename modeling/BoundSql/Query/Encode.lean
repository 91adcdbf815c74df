import BoundSql.Json.Basic
import BoundSql.Query.Basic
import BoundSql.Value.Json

/-!
# The stored form of queries

A query is stored as an object of its clauses, in a fixed order; clauses that
are not there are left out. Columns and operands say which kind they are beside
their content, and predicates say it among their fields.
-/

namespace BoundSql

/-- The stored form of a column: the kind and the text, whatever the kind. -/
def Column.encode : Column → Json
  | .name text => .object [("type", .string "Name"), ("sql", .string text)]
  | .raw sql => .object [("type", .string "Raw"), ("sql", .string sql)]

/-- The stored form of an operand. A literal is stored as a value, so what it loses is what
values lose. -/
def Operand.encode : Operand → Json
  | .bound value => .object [("type", .string "Bound"), ("value", value.encode)]
  | .raw sql => .object [("type", .string "Raw"), ("value", .string sql)]

/-- The stored name of a connector, which is also the word for it in a statement. -/
def Connector.name : Connector → String
  | .and => "and"
  | .or => "or"

/-- The stored name of a part of a date. -/
def DatePart.name : DatePart → String
  | .date => "date"
  | .time => "time"
  | .day => "day"
  | .month => "month"
  | .year => "year"

/-- The stored name of a kind of join. -/
def JoinKind.name : JoinKind → String
  | .inner => "Inner"
  | .left => "Left"
  | .right => "Right"
  | .full => "Full"
  | .cross => "Cross"

/-- The stored name of a direction. -/
def Direction.name : Direction → String
  | .asc => "asc"
  | .desc => "desc"

/-- The stored form of a predicate, from the name of its kind and its fields; the kind comes
first. -/
def taggedObject (kind : String) (fields : List (String × Json)) : Json :=
  .object (("kind", .string kind) :: fields)

mutual

/-- The stored form of a predicate. Every field is written, also a negation that is not there. -/
def Predicate.encode : Predicate → Json
  | .raw sql => taggedObject "raw" [("sql", .string sql)]
  | .basic column operator value =>
    taggedObject "basic"
      [("column", column.encode), ("operator", .string operator), ("value", value.encode)]
  | .columns first operator second =>
    taggedObject "column"
      [("first", first.encode), ("operator", .string operator), ("second", second.encode)]
  | .inList column values negated =>
    taggedObject "in"
      [("column", column.encode), ("values", .array (values.map Operand.encode)),
        ("negated", .bool negated)]
  | .inIntegers column values negated =>
    taggedObject "in_raw"
      [("column", column.encode), ("values", .array (values.map Json.ofInt64)),
        ("negated", .bool negated)]
  | .null column negated =>
    taggedObject "null" [("column", column.encode), ("negated", .bool negated)]
  | .between column low high negated =>
    taggedObject "between"
      [("column", column.encode), ("low", low.encode), ("high", high.encode),
        ("negated", .bool negated)]
  | .betweenColumns column low high negated =>
    taggedObject "between_columns"
      [("column", column.encode), ("low", low.encode), ("high", high.encode),
        ("negated", .bool negated)]
  | .datePart column part operator value =>
    taggedObject "date_part"
      [("column", column.encode), ("part", .string part.name), ("operator", .string operator),
        ("value", value.encode)]
  | .nested conditions =>
    taggedObject "nested" [("conditions", .array (Condition.encodeList conditions))]

/-- The stored form of a condition, with the connector even where it will not be rendered. -/
def Condition.encode : Condition → Json
  | ⟨connector, predicate⟩ =>
    .object [("connector", .string connector.name), ("predicate", predicate.encode)]

/-- The stored forms of conditions, in order. -/
def Condition.encodeList : List Condition → List Json
  | [] => []
  | condition :: rest => condition.encode :: Condition.encodeList rest

end

/-- The stored form of the condition of a join, its operator as the caller wrote it. -/
def JoinOn.encode (on : JoinOn) : Json :=
  .object
    [("left", on.left.encode), ("operator", .string on.operator), ("right", on.right.encode)]

/-- The stored form of a join; a condition that is not there is left out. -/
def Join.encode (join : Join) : Json :=
  .object ([("kind", .string join.kind.name), ("table", .string join.table)] ++
    join.on.toList.map fun on => ("on", on.encode))

/-- The stored form of an ordering key. -/
def OrderKey.encode (key : OrderKey) : Json :=
  .object [("column", key.column.encode), ("direction", .string key.direction.name)]

/-- A clause of a stored query, which is there only if it has items. Reading takes a missing
clause for an empty one, so nothing is lost. -/
def listMember {α : Type} (name : String) (encode : α → Json) (items : List α) :
    List (String × Json) :=
  if items.isEmpty then [] else [(name, .array (items.map encode))]

/-- The stored form of a query. The table and whether rows must differ are always written; every
other clause only if there is something to say. -/
def Query.encode (query : Query) : Json :=
  .object (
    [("table", .string query.table), ("distinct", .bool query.distinct)] ++
    listMember "columns" Column.encode query.columns ++
    listMember "joins" Join.encode query.joins ++
    listMember "conditions" Condition.encode query.conditions ++
    listMember "groups" Column.encode query.groups ++
    listMember "orderings" OrderKey.encode query.orderings ++
    query.limit.toList.map (fun limit => ("limit", .ofUInt64 limit)) ++
    query.offset.toList.map (fun offset => ("offset", .ofUInt64 offset)))

end BoundSql
