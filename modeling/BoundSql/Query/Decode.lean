import BoundSql.Json.Shape
import BoundSql.Json.Structure
import BoundSql.Query.Encode

/-!
# Queries from their stored form

Reading undoes `encode` and accepts a little more: fields in any order, unknown
fields beside them, structures as arrays of their fields, and defaults for what
may be left out. A predicate is read as a whole before its kind is known, and
what stands inside it is read from that whole; there an enumeration's case may
hold an empty object, and a kind may be given by its number.
-/

namespace BoundSql

/-- The content of a kind that is named beside it. Both must be given; other members are passed
over. -/
def taggedContent? (content : String) (json : Json) : Option (Json × Json) := do
  let given ← Json.fields? ["type", content] json
  match given.values with
  | [some tag, some value] => some (tag, value)
  | _ => none

/-- The two kinds of columns and operands: what is wrapped or bound, and what is rendered as it
is. -/
inductive Marking
  | plain
  | raw

/-- A column. `buffered` says whether it stands inside a predicate, where the name of its kind
may have an empty object under it. -/
def Column.decode? (buffered : Bool) (json : Json) : Option Column := do
  let (tag, content) ← taggedContent? "sql" json
  match ← Json.case? buffered [("Name", Marking.plain), ("Raw", Marking.raw)] tag with
  | .plain => (Json.string? content).map .name
  | .raw => (Json.string? content).map .raw

/-- An operand, inside a predicate. A bound one holds any value that can be read, a raw one only
a text. -/
def Operand.decode? (json : Json) : Option Operand := do
  let (tag, content) ← taggedContent? "value" json
  match ← Json.case? true [("Bound", Marking.plain), ("Raw", Marking.raw)] tag with
  | .plain => (Value.decode? content).map .bound
  | .raw => (Json.string? content).map .raw

/-- A connector, by its stored name; there is no default for it. -/
def Connector.decode? (buffered : Bool) : Json → Option Connector :=
  Json.case? buffered ([.and, .or].map fun connector => (Connector.name connector, connector))

/-- A part of a date, by its stored name. It occurs inside predicates only, which are read as a
whole before. -/
def DatePart.decode? : Json → Option DatePart :=
  Json.case? true
    ([.date, .time, .day, .month, .year].map fun part => (DatePart.name part, part))

/-- A kind of join, by its stored name with its capital. -/
def JoinKind.decode? : Json → Option JoinKind :=
  Json.case? false
    ([.inner, .left, .right, .full, .cross].map fun kind => (JoinKind.name kind, kind))

/-- A direction. -/
def Direction.decode? : Json → Option Direction :=
  Json.case? false ([.asc, .desc].map fun direction => (Direction.name direction, direction))

/-- The kinds of predicates, by the names under which they are stored. -/
inductive PredicateKind
  | raw
  | basic
  | columns
  | inList
  | inIntegers
  | null
  | between
  | betweenColumns
  | datePart
  | nested

namespace PredicateKind

/-- The kinds under their stored names, in the order of their numbers. -/
def all : List (String × PredicateKind) :=
  [("raw", .raw), ("basic", .basic), ("column", .columns), ("in", .inList),
    ("in_raw", .inIntegers), ("null", .null), ("between", .between),
    ("between_columns", .betweenColumns), ("date_part", .datePart), ("nested", .nested)]

/-- A kind, by its name; inside another predicate also by its number. A number without a kind is
refused. -/
def decode? (buffered : Bool) : Json → Option PredicateKind
  | .string name => all.lookup name
  | .number (.integer index _) =>
    if buffered ∧ 0 ≤ index then all[index.toNat]?.map (·.2) else none
  | _ => none

end PredicateKind

/-- A tree with the kind among its fields: the kind, and the tree without it. In an array the kind
comes first. -/
def kindAndFields? : Json → Option (Json × Json)
  | .object members =>
    match Mapping.unique? members "kind" with
    | some (some kind) => some (kind, .object (members.filter (·.1 != "kind")))
    | _ => none
  | .array (kind :: rest) => some (kind, .array rest)
  | _ => none

/-- Whether a test is negated; it is not if nothing is said. -/
def negated? : Option Json → Option Bool :=
  Json.defaulted false Json.bool?

/-- A predicate of a kind without conditions in it, from its fields. Everything but the negation
must be given, and a member that the kind does not have is passed over. -/
def simplePredicate? (kind : PredicateKind) (fields : Json) : Option Predicate := do
  let column := Json.required (Column.decode? true)
  let operator := Json.required Json.string?
  let operand := Json.required Operand.decode?
  match kind with
  | .raw =>
    let given ← Json.fields? ["sql"] fields
    match given.values with
    | [sql] => (Json.required Json.string? sql).map .raw
    | _ => none
  | .basic =>
    let given ← Json.fields? ["column", "operator", "value"] fields
    match given.values with
    | [c, o, v] => pure (.basic (← column c) (← operator o) (← operand v))
    | _ => none
  | .columns =>
    let given ← Json.fields? ["first", "operator", "second"] fields
    match given.values with
    | [f, o, s] => pure (.columns (← column f) (← operator o) (← column s))
    | _ => none
  | .inList =>
    let given ← Json.fields? ["column", "values", "negated"] fields
    match given.values with
    | [c, vs, n] =>
      let values ← Json.required (Json.list? Operand.decode?) vs
      pure (.inList (← column c) values (← negated? n))
    | _ => none
  | .inIntegers =>
    let given ← Json.fields? ["column", "values", "negated"] fields
    match given.values with
    | [c, vs, n] =>
      let values ← Json.required (Json.list? Json.int64?) vs
      pure (.inIntegers (← column c) values (← negated? n))
    | _ => none
  | .null =>
    let given ← Json.fields? ["column", "negated"] fields
    match given.values with
    | [c, n] => pure (.null (← column c) (← negated? n))
    | _ => none
  | .between =>
    let given ← Json.fields? ["column", "low", "high", "negated"] fields
    match given.values with
    | [c, l, h, n] => pure (.between (← column c) (← operand l) (← operand h) (← negated? n))
    | _ => none
  | .betweenColumns =>
    let given ← Json.fields? ["column", "low", "high", "negated"] fields
    match given.values with
    | [c, l, h, n] => pure (.betweenColumns (← column c) (← column l) (← column h) (← negated? n))
    | _ => none
  | .datePart =>
    let given ← Json.fields? ["column", "part", "operator", "value"] fields
    match given.values with
    | [c, p, o, v] =>
      let part ← Json.required DatePart.decode? p
      pure (.datePart (← column c) part (← operator o) (← operand v))
    | _ => none
  | .nested => none

/-- A condition, from a way to read its predicate. -/
def conditionWith? (buffered : Bool) (predicate? : Json → Option Predicate) (json : Json) :
    Option Condition := do
  let given ← Json.fields? ["connector", "predicate"] json
  match given.values with
  | [connector, predicate] =>
    let connector ← Json.required (Connector.decode? buffered) connector
    let predicate ← Json.required predicate? predicate
    pure ⟨connector, predicate⟩
  | _ => none

/-- A predicate with conditions nested in it at most `levels` deep. `buffered` says whether it
stands inside another predicate. -/
def predicateWithin? : Nat → Bool → Json → Option Predicate
  | 0, _, _ => none
  | levels + 1, buffered, json => do
    let (kind, fields) ← kindAndFields? json
    match ← PredicateKind.decode? buffered kind with
    | .nested =>
      let given ← Json.fields? ["conditions"] fields
      match given.values with
      | [conditions] =>
        let condition? := conditionWith? true (predicateWithin? levels true)
        (Json.required (Json.list? condition?) conditions).map .nested
      | _ => none
    | kind => simplePredicate? kind fields

/-- A predicate. Nested ones lie deeper in the tree, so its depth bounds the levels and the
bound never makes the reading fail. -/
def Predicate.decode? (json : Json) : Option Predicate :=
  predicateWithin? (json.depth + 1) false json

/-- A condition that stands in a query itself, and not inside another predicate. -/
def Condition.decode? : Json → Option Condition :=
  conditionWith? false Predicate.decode?

/-- The condition of a join. All three of its parts must be given. -/
def JoinOn.decode? (json : Json) : Option JoinOn := do
  let given ← Json.fields? ["left", "operator", "right"] json
  match given.values with
  | [left, operator, right] =>
    let left ← Json.required (Column.decode? false) left
    let operator ← Json.required Json.string? operator
    let right ← Json.required (Column.decode? false) right
    pure ⟨left, operator, right⟩
  | _ => none

/-- A join. Its condition may be null or left out, but not if the join is given as an array. -/
def Join.decode? (json : Json) : Option Join := do
  let given ← Json.fields? ["kind", "table", "on"] json
  match given.values with
  | [kind, table, on] =>
    let kind ← Json.required JoinKind.decode? kind
    let table ← Json.required Json.string? table
    let on ← Json.optional given.positional JoinOn.decode? on
    pure ⟨kind, table, on⟩
  | _ => none

/-- An ordering key; it ascends if nothing is said. -/
def OrderKey.decode? (json : Json) : Option OrderKey := do
  let given ← Json.fields? ["column", "direction"] json
  match given.values with
  | [column, direction] =>
    let column ← Json.required (Column.decode? false) column
    let direction ← Json.defaulted .asc Direction.decode? direction
    pure ⟨column, direction⟩
  | _ => none

/-- A clause with items; it has none if it is missing. Null is no list. -/
def listField? {α : Type} (decode? : Json → Option α) : Option Json → Option (List α) :=
  Json.defaulted [] (Json.list? decode?)

namespace Query

/-- The names of the clauses of a query, in their order. -/
def fieldNames : List String :=
  ["table", "distinct", "columns", "joins", "conditions", "groups", "orderings", "limit", "offset"]

/-- A query. Only the table must be given; limit and offset may also be null, unless the query
is given as an array that ends before them. -/
def decode? (json : Json) : Option Query := do
  let given ← Json.fields? fieldNames json
  match given.values with
  | [table, distinct, columns, joins, conditions, groups, orderings, limit, offset] =>
    let table ← Json.required Json.string? table
    let distinct ← Json.defaulted false Json.bool? distinct
    let columns ← listField? (Column.decode? false) columns
    let joins ← listField? Join.decode? joins
    let conditions ← listField? Condition.decode? conditions
    let groups ← listField? (Column.decode? false) groups
    let orderings ← listField? OrderKey.decode? orderings
    let limit ← Json.optional given.positional Json.uint64? limit
    let offset ← Json.optional given.positional Json.uint64? offset
    pure ⟨table, distinct, columns, joins, conditions, groups, orderings, limit, offset⟩
  | _ => none

/-- What is read of a stored column. -/
def columnShape : Json.Shape :=
  .fields [("type", .whole), ("sql", .whole)]

/-- What is read of a stored join. -/
def joinShape : Json.Shape :=
  .fields [
    ("kind", .whole),
    ("table", .whole),
    ("on", .fields [("left", columnShape), ("operator", .whole), ("right", columnShape)])]

/-- What is read of a stored query. Predicates are read as a whole, because their kind may stand
behind their other fields. -/
def shape : Json.Shape :=
  .fields [
    ("table", .whole),
    ("distinct", .whole),
    ("columns", .each columnShape),
    ("joins", .each joinShape),
    ("conditions", .each (.fields [("connector", .whole), ("predicate", .whole)])),
    ("groups", .each columnShape),
    ("orderings", .each (.fields [("column", columnShape), ("direction", .whole)])),
    ("limit", .whole),
    ("offset", .whole)]

/-- A query from the text of its stored form. Members that no structure knows may hold anything
that is well formed. -/
def ofText? (text : String) : Option Query :=
  (shape.read? text).bind decode?

end Query

end BoundSql
