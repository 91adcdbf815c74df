import BoundSql.Query.Basic

/-!
# Building queries

A query starts at its table and grows by one clause at a time. Conditions are
kept in the order in which they are added. Comparing a column with a null value
by `=`, `!=` or `<>` never holds in the database, so these three, written exactly
like that, become tests for null.
-/

namespace BoundSql.Query

/-- The query for all of a table: every column, every row, in no particular order. -/
def ofTable (name : String) : Query :=
  ⟨name, false, [], [], [], [], [], none, none⟩

/-- The query with other columns. Those selected before are given up; without any, all columns
are meant. -/
def select (query : Query) (columns : List Column) : Query :=
  { query with columns }

/-- The query with one more column, behind the ones it has. If it had none, the new one is the
only one. -/
def addSelect (query : Query) (column : Column) : Query :=
  { query with columns := query.columns ++ [column] }

/-- The query with one more column, an expression that is rendered as it is. -/
def selectRaw (query : Query) (sql : String) : Query :=
  query.addSelect (.raw sql)

/-- The query for rows that differ. There is no way back to one that repeats them. -/
def distinctRows (query : Query) : Query :=
  { query with distinct := true }

/-- The query with one more condition, behind the ones it has. Nothing is combined or left out,
even if the condition is there already. -/
def push (query : Query) (connector : Connector) (predicate : Predicate) : Query :=
  { query with conditions := query.conditions ++ [⟨connector, predicate⟩] }

/-- The query with one more condition, connected by `and`. -/
def andWhere (query : Query) (predicate : Predicate) : Query :=
  query.push .and predicate

/-- The query with one more condition, connected by `or`. -/
def orWhere (query : Query) (predicate : Predicate) : Query :=
  query.push .or predicate

/-- A comparison, or a test for null where that is meant. The operator is compared as it is
given: with a blank beside it the comparison stays, and null is bound. -/
def comparison (column : Column) (operator : String) (value : Operand) : Predicate :=
  match value with
  | .bound .null =>
    if operator == "=" then .null column false
    else if operator == "!=" || operator == "<>" then .null column true
    else .basic column operator value
  | _ => .basic column operator value

/-- The query with a comparison, connected by `and`; a comparison with null may become a test
for it. -/
def filter (query : Query) (column : Column) (operator : String) (value : Operand) : Query :=
  query.andWhere (comparison column operator value)

/-- The query with a comparison, connected by `or`; a comparison with null may become a test for
it. -/
def orFilter (query : Query) (column : Column) (operator : String) (value : Operand) : Query :=
  query.orWhere (comparison column operator value)

/-- The query with a condition that is rendered as it is. The text is not looked at, so it may
be empty or hold placeholders of its own. -/
def whereRaw (query : Query) (sql : String) : Query :=
  query.andWhere (.raw sql)

/-- The query with a condition that is rendered as it is, connected by `or`. -/
def orWhereRaw (query : Query) (sql : String) : Query :=
  query.orWhere (.raw sql)

/-- The query with two columns compared. -/
def whereColumn (query : Query) (first : Column) (operator : String) (second : Column) : Query :=
  query.andWhere (.columns first operator second)

/-- The query with a column in a list. The list may be empty and then holds for no row. -/
def whereIn (query : Query) (column : Column) (values : List Operand) : Query :=
  query.andWhere (.inList column values false)

/-- The query with a column in a list, connected by `or`. -/
def orWhereIn (query : Query) (column : Column) (values : List Operand) : Query :=
  query.orWhere (.inList column values false)

/-- The query with a column not in a list. The list may be empty and then excludes no row. -/
def whereNotIn (query : Query) (column : Column) (values : List Operand) : Query :=
  query.andWhere (.inList column values true)

/-- The query with a column in a list of integers that are written out. Their digits enter the
text of the statement, and nothing is bound for them. -/
def whereIntegerIn (query : Query) (column : Column) (values : List Int64) : Query :=
  query.andWhere (.inIntegers column values false)

/-- The query with a column not in a list of integers that are written out. -/
def whereIntegerNotIn (query : Query) (column : Column) (values : List Int64) : Query :=
  query.andWhere (.inIntegers column values true)

/-- The query with a test for null. -/
def whereNull (query : Query) (column : Column) : Query :=
  query.andWhere (.null column false)

/-- The query with a test for null, connected by `or`. -/
def orWhereNull (query : Query) (column : Column) : Query :=
  query.orWhere (.null column false)

/-- The query with a test for a value that is not null. -/
def whereNotNull (query : Query) (column : Column) : Query :=
  query.andWhere (.null column true)

/-- The query with a column between two operands, bounds included. Which of them is the greater
one is not asked. -/
def whereBetween (query : Query) (column : Column) (low high : Operand) : Query :=
  query.andWhere (.between column low high false)

/-- The query with a column outside two operands. -/
def whereNotBetween (query : Query) (column : Column) (low high : Operand) : Query :=
  query.andWhere (.between column low high true)

/-- The query with a column between two columns. -/
def whereBetweenColumns (query : Query) (column low high : Column) : Query :=
  query.andWhere (.betweenColumns column low high false)

/-- The query with a part of a date compared. Whether the value can be compared with that part
is asked when the query is compiled. -/
def whereDatePart (query : Query) (column : Column) (part : DatePart) (operator : String)
    (value : Operand) : Query :=
  query.andWhere (.datePart column part operator value)

/-- The query with a part of a date equal to an operand. -/
def wherePart (query : Query) (part : DatePart) (column : Column) (value : Operand) : Query :=
  query.whereDatePart column part "=" value

/-- The query with a group of conditions, built on an empty query of the same table. Only the
conditions of what is built count; its other clauses are given up. -/
def whereNested (query : Query) (build : Query → Query) : Query :=
  query.andWhere (.nested (build (ofTable query.table)).conditions)

/-- The query with a group of conditions, connected by `or`. Only the conditions of what is
built count. -/
def orWhereNested (query : Query) (build : Query → Query) : Query :=
  query.orWhere (.nested (build (ofTable query.table)).conditions)

/-- The query with one more joined table. -/
def addJoin (query : Query) (join : Join) : Query :=
  { query with joins := query.joins ++ [join] }

/-- The query with a table joined on a comparison of columns. The kind may be any, a cross join
included, which then drops the comparison. -/
def joinOn (query : Query) (kind : JoinKind) (table : String) (left : Column) (operator : String)
    (right : Column) : Query :=
  query.addJoin ⟨kind, table, some ⟨left, operator, right⟩⟩

/-- The query with every row of another table beside every row. -/
def crossJoin (query : Query) (table : String) : Query :=
  query.addJoin ⟨.cross, table, none⟩

/-- The query with one more grouping key, behind the ones it has. -/
def groupBy (query : Query) (column : Column) : Query :=
  { query with groups := query.groups ++ [column] }

/-- The query with one more ordering key, which decides only between rows that the earlier ones
leave equal. -/
def orderBy (query : Query) (column : Column) (direction : Direction) : Query :=
  { query with orderings := query.orderings ++ [⟨column, direction⟩] }

/-- The query for at most so many rows, in place of an earlier limit. -/
def limitTo (query : Query) (limit : UInt64) : Query :=
  { query with limit := some limit }

/-- The query without so many rows at the start, in place of an earlier offset. -/
def startAt (query : Query) (offset : UInt64) : Query :=
  { query with offset := some offset }

end BoundSql.Query
