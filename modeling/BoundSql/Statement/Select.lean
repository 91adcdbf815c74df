import BoundSql.Statement.Conditions

/-!
# Selecting and counting

A select renders every clause of a query, joins before conditions. A count keeps
the table, the joins and the conditions, and nothing else matters to it.
-/

namespace BoundSql

/-- The words of a join. -/
def JoinKind.keyword : JoinKind → String
  | .inner => "inner join"
  | .left => "left join"
  | .right => "right join"
  | .full => "full join"
  | .cross => "cross join"

/-- The word of a direction. -/
def Direction.keyword : Direction → String
  | .asc => "asc"
  | .desc => "desc"

/-- A joined table. A cross join has no condition, whatever the description says, and then its
operator is not checked either. -/
def Join.render (join : Join) : Except CompileError String := do
  let head := join.kind.keyword ++ " " ++ Identifier.wrapName join.table
  match join.on, join.kind with
  | _, .cross | none, _ => pure head
  | some on, _ =>
    let operator ← Operator.render on.operator
    pure (head ++ " on " ++ Identifier.wrap on.left ++ " " ++ operator ++ " " ++
      Identifier.wrap on.right)

/-- Columns behind each other; a column that is there twice is rendered twice. -/
def renderColumns (columns : List Column) : String :=
  ", ".intercalate (columns.map Identifier.wrap)

/-- An ordering key with its direction. -/
def OrderKey.render (key : OrderKey) : String :=
  Identifier.wrap key.column ++ " " ++ key.direction.keyword

/-- A clause that stands in the text only if there is something for it. -/
def clause (present : Bool) (text : String) : List String :=
  if present then [text] else []

namespace Query

/-- The head of a select. Without columns it asks for all of them by a star. -/
def selectHead (query : Query) : String :=
  (if query.distinct then "select distinct " else "select ") ++
    if query.columns.isEmpty then "*" else renderColumns query.columns

/-- The clauses behind the conditions, in the order the database wants them. None of them binds
a value. -/
def tail (query : Query) : List String :=
  clause (!query.groups.isEmpty) ("group by " ++ renderColumns query.groups) ++
    clause (!query.orderings.isEmpty)
      ("order by " ++ ", ".intercalate (query.orderings.map OrderKey.render)) ++
    query.limit.toList.map (fun limit => "limit " ++ toString limit.toNat) ++
    query.offset.toList.map (fun offset => "offset " ++ toString offset.toNat)

/-- The text of a select. Joins are rendered before the conditions, so an illegal operator in a
join stops before anything is bound. -/
def selectText (query : Query) : Compile String := do
  let joins ← Compile.ofExcept (query.joins.mapM Join.render)
  let filter ← renderWhere query.conditions
  let source := "from " ++ Identifier.wrapName query.table
  pure (" ".intercalate
    (query.selectHead :: source :: joins ++ clause (!filter.isEmpty) filter ++ query.tail))

/-- The text of a count. Grouping and paging are left out, so all rows that meet the conditions
count. -/
def countText (query : Query) : Compile String := do
  let joins ← Compile.ofExcept (query.joins.mapM Join.render)
  let filter ← renderWhere query.conditions
  let head := "select count() from " ++ Identifier.wrapName query.table
  pure (" ".intercalate (head :: joins ++ clause (!filter.isEmpty) filter))

/-- A text with all values that are bound when it is complete, those of earlier statements on
the same registry included. -/
def withParameters (text : Compile String) : Compile Statement := do
  let sql ← text
  let registry ← get
  pure ⟨sql, registry.parameters⟩

/-- The select of a query. On a registry that is not new it may carry more values than it has
placeholders for. -/
def compileSelect (query : Query) : Compile Statement :=
  withParameters query.selectText

/-- The count of the rows of a query. On the same registry it carries the same values as the
select. -/
def compileCount (query : Query) : Compile Statement :=
  withParameters query.countText

end Query

end BoundSql
