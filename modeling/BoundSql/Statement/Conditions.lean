import BoundSql.Query.Basic
import BoundSql.Statement.Compile
import BoundSql.Statement.DatePart
import BoundSql.Statement.Identifier
import BoundSql.Statement.Operator

/-!
# Conditions

Each predicate becomes a fragment of text, its values bound for the where clause
in reading order. A group of conditions that renders to nothing is skipped with
its connector; the connector of the first fragment that is not empty is dropped.
-/

namespace BoundSql

/-- The word of a connector. Neither binds by position: which of them is stronger is left to the
database. -/
def Connector.keyword : Connector → String
  | .and => "and"
  | .or => "or"

/-- What an empty list means: nothing is in it and everything is outside of it. -/
def emptyList (negated : Bool) : String :=
  if negated then "1 = 1" else "0 = 1"

/-- The words for being in a list. -/
def inKeyword (negated : Bool) : String :=
  if negated then "not in" else "in"

/-- The words for being in a range. -/
def betweenKeyword (negated : Bool) : String :=
  if negated then "not between" else "between"

/-- The function that tests for null. -/
def nullFunction (negated : Bool) : String :=
  if negated then "isNotNull" else "isNull"

/-- A value bound for the where clause, as it stands in the text. Conditions bind for no other
clause, whatever statement they belong to. -/
def bound (value : Value) : Compile String := do
  let token ← Compile.bind .whereClause value
  pure (token.standIn value)

/-- An operand as it stands in the text. An expression binds nothing and may be any text. -/
def Operand.render : Operand → Compile String
  | .raw sql => pure sql
  | .bound value => BoundSql.bound value

/-- A column in a list of texts. An empty list becomes a constant condition, in which the column
does not appear. -/
def renderList (column : Column) (negated : Bool) (items : List String) : String :=
  if items.isEmpty then
    emptyList negated
  else
    Identifier.wrap column ++ " " ++ inKeyword negated ++ " (" ++ ", ".intercalate items ++ ")"

/-- A column between two texts. -/
def renderBetween (column : Column) (negated : Bool) (low high : String) : String :=
  Identifier.wrap column ++ " " ++ betweenKeyword negated ++ " " ++ low ++ " and " ++ high

/-- The value of a comparison with a part of a date, as it stands in the text. What is bound is
the value's form for that part, not the value itself. -/
def renderPartValue (part : DatePart) : Operand → Compile String
  | .raw sql => pure sql
  | .bound value => do
    let normal ← Compile.ofExcept (part.normalize value)
    BoundSql.bound normal

/-- Fragments behind each other with their connectors. A connector is dropped as long as the
text is empty, so an empty fragment at the start takes the next connector with it, and one
further on leaves its own. -/
def joinFragments (fragments : List (Connector × String)) : String :=
  fragments.foldl
    (fun text (connector, fragment) =>
      if text.isEmpty then fragment else text ++ " " ++ connector.keyword ++ " " ++ fragment)
    ""

mutual

/-- The fragment of a predicate; a group that renders to nothing has none. The operator is
checked before the values are bound, so a refused comparison binds nothing of its own. -/
def Predicate.render : Predicate → Compile (Option String)
  | .raw sql => pure (some sql)
  | .basic column operator value => do
    let operator ← Compile.ofExcept (Operator.render operator)
    let value ← value.render
    pure (some (Identifier.wrap column ++ " " ++ operator ++ " " ++ value))
  | .columns first operator second => do
    let operator ← Compile.ofExcept (Operator.render operator)
    pure (some (Identifier.wrap first ++ " " ++ operator ++ " " ++ Identifier.wrap second))
  | .inList column values negated => do
    let items ← values.mapM Operand.render
    pure (some (renderList column negated items))
  | .inIntegers column values negated =>
    pure (some (renderList column negated (values.map fun value => toString value.toInt)))
  | .null column negated =>
    pure (some (nullFunction negated ++ "(" ++ Identifier.wrap column ++ ")"))
  | .between column low high negated => do
    let low ← low.render
    let high ← high.render
    pure (some (renderBetween column negated low high))
  | .betweenColumns column low high negated =>
    pure (some (renderBetween column negated (Identifier.wrap low) (Identifier.wrap high)))
  | .datePart column part operator value => do
    let operator ← Compile.ofExcept (Operator.render operator)
    let value ← renderPartValue part value
    pure (some (part.extraction (Identifier.wrap column) ++ " " ++ operator ++ " " ++ value))
  | .nested conditions => do
    let fragments ← renderFragments conditions
    let inner := joinFragments fragments
    pure (if inner.isEmpty then none else some ("(" ++ inner ++ ")"))

/-- The fragment of a condition, with its connector; without a fragment the connector is given
up too. -/
def Condition.render : Condition → Compile (Option (Connector × String))
  | ⟨connector, predicate⟩ => do
    let fragment ← predicate.render
    pure (fragment.map (connector, ·))

/-- The fragments of a list of conditions, in order. It stops at the first condition that is
refused, with everything before it bound. -/
def renderFragments : List Condition → Compile (List (Connector × String))
  | [] => pure []
  | condition :: rest => do
    let fragment ← condition.render
    let fragments ← renderFragments rest
    pure (fragment.toList ++ fragments)

end

/-- The text of a list of conditions; empty if nothing was rendered. -/
def renderConditions (conditions : List Condition) : Compile String := do
  let fragments ← renderFragments conditions
  pure (joinFragments fragments)

/-- The where clause of a list of conditions. It is empty if nothing was rendered, and then the
word is left out too. -/
def renderWhere (conditions : List Condition) : Compile String := do
  let text ← renderConditions conditions
  pure (if text.isEmpty then "" else "where " ++ text)

end BoundSql
