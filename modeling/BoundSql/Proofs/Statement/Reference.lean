import BoundSql.Proofs.Statement.Template
import BoundSql.Statement.Mutation

/-!
# The statements that are meant

What a query says, without a registry: every bound operand is a hole that holds
its value, in the form in which it is compared, and every assignment of an
update is a hole too. Nothing here gives, looks up or remembers a token, so the
order in which values are met can only be the order in which they are read.
-/

namespace BoundSql

/-- An operand with a hole for a literal, or the text of an expression. -/
def Operand.template : Operand → Template
  | .raw sql => [.text sql]
  | .bound value => [.hole value]

/-- The value of a comparison with a part of a date: the hole holds the normal
form of the literal. -/
def partTemplate (part : DatePart) : Operand → Except CompileError Template
  | .raw sql => pure [.text sql]
  | .bound value => do
    let normal ← part.normalize value
    pure [.hole normal]

/-- A column in a list of operands, which may be empty. -/
def listTemplate (column : Column) (negated : Bool) (items : List Template) : Template :=
  if items.isEmpty then
    [.text (emptyList negated)]
  else
    .text (Identifier.wrap column ++ " " ++ inKeyword negated ++ " (") ::
      (Template.join ", " items ++ [.text ")"])

/-- A column between two operands. -/
def betweenTemplate (column : Column) (negated : Bool) (low high : Template) : Template :=
  .text (Identifier.wrap column ++ " " ++ betweenKeyword negated ++ " ") ::
    (low ++ .text " and " :: high)

/-- A text and the next fragment with its connector; a blank text is dropped
with the connector behind it. -/
def Template.followedBy (text : Template) (fragment : Connector × Template) : Template :=
  if text.isBlank then
    fragment.2
  else
    text ++ .text (" " ++ fragment.1.keyword ++ " ") :: fragment.2

/-- Fragments behind each other with their connectors; the first connector is dropped. Whether
it is the first is decided on what is blank, since no naming is known here. -/
def joinTemplates (fragments : List (Connector × Template)) : Template :=
  fragments.foldl Template.followedBy []

/-- Conditions in parentheses; blank ones are nothing, without parentheses too. -/
def nestedTemplate (fragments : List (Connector × Template)) : Option Template :=
  if (joinTemplates fragments).isBlank then
    none
  else
    some (.text "(" :: (joinTemplates fragments ++ [.text ")"]))

mutual

/-- The fragment of a predicate; a group that says nothing has none. An operator that does not
exist and a value without a form leave the predicate without any meaning. -/
def Predicate.template : Predicate → Except CompileError (Option Template)
  | .raw sql => pure (some [.text sql])
  | .basic column operator value => do
    let operator ← Operator.render operator
    pure (some (.text (Identifier.wrap column ++ " " ++ operator ++ " ") :: value.template))
  | .columns first operator second => do
    let operator ← Operator.render operator
    pure (some [.text (Identifier.wrap first ++ " " ++ operator ++ " " ++ Identifier.wrap second)])
  | .inList column values negated =>
    pure (some (listTemplate column negated (values.map Operand.template)))
  | .inIntegers column values negated =>
    pure (some (listTemplate column negated
      (values.map fun value => [.text (toString value.toInt)])))
  | .null column negated =>
    pure (some [.text (nullFunction negated ++ "(" ++ Identifier.wrap column ++ ")")])
  | .between column low high negated =>
    pure (some (betweenTemplate column negated low.template high.template))
  | .betweenColumns column low high negated =>
    pure (some (betweenTemplate column negated [.text (Identifier.wrap low)]
      [.text (Identifier.wrap high)]))
  | .datePart column part operator value => do
    let operator ← Operator.render operator
    let value ← partTemplate part value
    pure (some (.text (part.extraction (Identifier.wrap column) ++ " " ++ operator ++ " ") ::
      value))
  | .nested conditions => do
    let fragments ← fragmentTemplates conditions
    pure (nestedTemplate fragments)

/-- The fragment of a condition, with its connector. -/
def Condition.template : Condition → Except CompileError (Option (Connector × Template))
  | ⟨connector, predicate⟩ => do
    let fragment ← predicate.template
    pure (fragment.map (connector, ·))

/-- The fragments of a list of conditions, in order. -/
def fragmentTemplates : List Condition → Except CompileError (List (Connector × Template))
  | [] => pure []
  | condition :: rest => do
    let fragment ← condition.template
    let fragments ← fragmentTemplates rest
    pure (fragment.toList ++ fragments)

end

/-- The text of a list of conditions; blank if they say nothing. -/
def conditionsTemplate (conditions : List Condition) : Except CompileError Template := do
  let fragments ← fragmentTemplates conditions
  pure (joinTemplates fragments)

/-- The where clause of a list of conditions; blank if they say nothing. -/
def whereTemplate (conditions : List Condition) : Except CompileError Template := do
  let text ← conditionsTemplate conditions
  pure (if text.isBlank then [] else .text "where " :: text)

/-- A clause that stands in the text only if it says something. -/
def clauseTemplate (text : Template) : List Template :=
  if text.isBlank then [] else [text]

/-- Clauses without holes. -/
def holeless (clauses : List String) : List Template :=
  clauses.map fun written => [.text written]

/-- A filter between clauses without holes. -/
def clausesTemplate (front : List String) (filter : Template) (back : List String) : Template :=
  Template.join " " (holeless front ++ clauseTemplate filter ++ holeless back)

/-- One assignment, with a hole for its value. -/
def assignmentTemplate (assignment : String × Value) : Template :=
  [.text (Identifier.wrapName assignment.1 ++ " = "), .hole assignment.2]

namespace Query

/-- The select of a query. -/
def selectTemplate (query : Query) : Except CompileError Template := do
  let joins ← query.joins.mapM Join.render
  let filter ← whereTemplate query.conditions
  pure (clausesTemplate (query.selectHead :: ("from " ++ Identifier.wrapName query.table) :: joins)
    filter query.tail)

/-- The count of the rows of a query. -/
def countTemplate (query : Query) : Except CompileError Template := do
  let joins ← query.joins.mapM Join.render
  let filter ← whereTemplate query.conditions
  pure (clausesTemplate (("select count() from " ++ Identifier.wrapName query.table) :: joins)
    filter [])

/-- The where clause of a change; it is never blank, so a change always says which rows it
means. -/
def filterTemplate (query : Query) : Except CompileError Template := do
  let filter ← whereTemplate query.conditions
  pure (if filter.isBlank then [.text matchAll] else filter)

/-- The update of the rows of a query. In reading order the assignments come before the filter,
although the filter is bound first. -/
def updateTemplate (query : Query) (assignments : Record) : Except CompileError Template :=
  if assignments.isEmpty then
    throw .noAssignments
  else do
    let filter ← query.filterTemplate
    pure (.text ("alter table " ++ Identifier.wrapName query.table ++ " update ") ::
      (Template.join ", " (assignments.fields.map assignmentTemplate) ++ .text " " :: filter))

/-- The deletion of the rows of a query. -/
def deleteTemplate (query : Query) : Except CompileError Template := do
  let filter ← query.filterTemplate
  pure (.text ("alter table " ++ Identifier.wrapName query.table ++ " delete ") :: filter)

end Query

/-- What a registry can be asked to compile. Inserts are left out: they have no placeholders and
need no registry. -/
inductive Command
  | select (query : Query)
  | count (query : Query)
  | update (query : Query) (assignments : Record)
  | delete (query : Query)

namespace Command

/-- The statement of a command, compiled with a registry. -/
def compile : Command → Compile Statement
  | .select query => query.compileSelect
  | .count query => query.compileCount
  | .update query assignments => query.compileUpdate assignments
  | .delete query => query.compileDelete

/-- The values that a command assigns to columns. -/
def assigned : Command → List Value
  | .update _ assignments => assignments.values
  | .select _ | .count _ | .delete _ => []

/-- The statement that a command means, if it means one. -/
def template : Command → Except CompileError Template
  | .select query => query.selectTemplate
  | .count query => query.countTemplate
  | .update query assignments => query.updateTemplate assignments
  | .delete query => query.deleteTemplate

end Command

end BoundSql
