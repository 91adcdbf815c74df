import BoundSql.Value.Basic

/-!
# Query descriptions

What is asked of one table, apart from how it is written: columns, joins,
conditions, grouping, ordering and paging. Descriptions are plain data. Text
marked raw goes into a statement as it is; everything else is rendered by the
rules of the statement language, and literals never enter it.
-/

namespace BoundSql

/-- A column, join key or ordering key. Nothing is known about the table, so a name is not
checked against it. -/
inductive Column
  /-- An identifier, possibly qualified, with an alias or with a path into a JSON field. -/
  | name (text : String)
  /-- An expression that is rendered as it is. -/
  | raw (sql : String)
deriving DecidableEq

/-- The right-hand side of a comparison. A literal never enters the text of a statement; an
expression does and binds nothing. -/
inductive Operand
  /-- A literal, to be bound. -/
  | bound (value : Value)
  /-- An expression that is rendered as it is. -/
  | raw (sql : String)

/-- How a condition is connected to the one before it. The first condition has one too, which is
not rendered. -/
inductive Connector
  | and
  | or
deriving DecidableEq

/-- A part of a date or time that can be compared on its own. -/
inductive DatePart
  | date
  | time
  | day
  | month
  | year
deriving DecidableEq

/-- Which rows without a partner a join keeps. A cross join compares nothing, so that every row
has every partner. -/
inductive JoinKind
  | inner
  | left
  | right
  | full
  | cross
deriving DecidableEq

/-- The direction of an ordering. -/
inductive Direction
  | asc
  | desc
deriving DecidableEq

mutual

/-- A test of a row. Operators are kept as the caller wrote them, and whether they exist is
asked when the test is rendered. -/
inductive Predicate
  /-- A test that is rendered as it is. -/
  | raw (sql : String)
  /-- A column compared with an operand. -/
  | basic (column : Column) (operator : String) (value : Operand)
  /-- Two columns compared. -/
  | columns (first : Column) (operator : String) (second : Column)
  /-- Membership in a list of operands. -/
  | inList (column : Column) (values : List Operand) (negated : Bool)
  /-- Membership in a list of integers that are written out. -/
  | inIntegers (column : Column) (values : List Int64) (negated : Bool)
  /-- A test for null. -/
  | null (column : Column) (negated : Bool)
  /-- A column between two operands. -/
  | between (column : Column) (low high : Operand) (negated : Bool)
  /-- A column between two columns. -/
  | betweenColumns (column low high : Column) (negated : Bool)
  /-- A part of a date compared with an operand. -/
  | datePart (column : Column) (part : DatePart) (operator : String) (value : Operand)
  /-- Conditions in parentheses. -/
  | nested (conditions : List Condition)

/-- A predicate with its connector to the condition before it. -/
structure Condition where
  connector : Connector
  predicate : Predicate

end

/-- The condition of a join: two columns compared. Literals have no place in it, so that a join
binds nothing. -/
structure JoinOn where
  left : Column
  operator : String
  right : Column
deriving DecidableEq

/-- A joined table. The type allows a join of any kind without a condition, and a cross join
with one, which is then not rendered. -/
structure Join where
  kind : JoinKind
  table : String
  on : Option JoinOn
deriving DecidableEq

/-- An ordering key. Where nulls go is not said and left to the database. -/
structure OrderKey where
  column : Column
  direction : Direction
deriving DecidableEq

/-- A query on one table. The same description serves a select, a count, an update and a delete,
each of which renders the clauses it has. -/
structure Query where
  table : String
  distinct : Bool
  columns : List Column
  joins : List Join
  conditions : List Condition
  groups : List Column
  orderings : List OrderKey
  limit : Option UInt64
  offset : Option UInt64

/-- Things that stand for an operand in a query: values are bound, and only operands themselves
can be raw. -/
class ToOperand (α : Type) where
  toOperand : α → Operand

export ToOperand (toOperand)

instance : ToOperand Operand := ⟨id⟩
instance {α : Type} [ToValue α] : ToOperand α := ⟨fun thing => .bound (toValue thing)⟩

/-- The value of an operand that binds one. -/
def Operand.value? : Operand → Option Value
  | .bound value => some value
  | .raw _ => none

/-- Equality of operands, values compared as values. An operand that binds a NaN therefore
differs from itself. -/
def Operand.equals : Operand → Operand → Bool
  | .bound x, .bound y => x.equals y
  | .raw x, .raw y => x == y
  | _, _ => false

/-- Equality of lists of operands, item by item; lists of different lengths differ. -/
def Operand.equalLists : List Operand → List Operand → Bool
  | [], [] => true
  | x :: xs, y :: ys => x.equals y && equalLists xs ys
  | _, _ => false

mutual

/-- Equality of predicates, values compared as values and texts character by character:
operators that render alike may still differ. -/
def Predicate.equals : Predicate → Predicate → Bool
  | .raw x, .raw y => x == y
  | .basic c o v, .basic c' o' v' => c == c' && o == o' && v.equals v'
  | .columns f o s, .columns f' o' s' => f == f' && o == o' && s == s'
  | .inList c vs n, .inList c' vs' n' => c == c' && Operand.equalLists vs vs' && n == n'
  | .inIntegers c vs n, .inIntegers c' vs' n' => c == c' && vs == vs' && n == n'
  | .null c n, .null c' n' => c == c' && n == n'
  | .between c l h n, .between c' l' h' n' => c == c' && l.equals l' && h.equals h' && n == n'
  | .betweenColumns c l h n, .betweenColumns c' l' h' n' => c == c' && l == l' && h == h' && n == n'
  | .datePart c p o v, .datePart c' p' o' v' => c == c' && p == p' && o == o' && v.equals v'
  | .nested cs, .nested cs' => Condition.equalLists cs cs'
  | _, _ => false

/-- Equality of conditions. Connectors count even where they are not rendered. -/
def Condition.equals : Condition → Condition → Bool
  | ⟨connector, predicate⟩, ⟨connector', predicate'⟩ =>
    connector == connector' && predicate.equals predicate'

/-- Equality of lists of conditions, one by one; the order counts. -/
def Condition.equalLists : List Condition → List Condition → Bool
  | [], [] => true
  | x :: xs, y :: ys => x.equals y && Condition.equalLists xs ys
  | _, _ => false

end

/-- Equality of queries, values compared as values. Queries that differ may still be rendered to
the same text. -/
def Query.equals (x y : Query) : Bool :=
  x.table == y.table && x.distinct == y.distinct && x.columns == y.columns && x.joins == y.joins &&
    Condition.equalLists x.conditions y.conditions && x.groups == y.groups &&
    x.orderings == y.orderings && x.limit == y.limit && x.offset == y.offset

end BoundSql
