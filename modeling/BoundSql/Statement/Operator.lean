import BoundSql.Statement.Error
import BoundSql.Text.Blank
import BoundSql.Text.Split

/-!
# Comparison operators

The statement language has twelve comparison operators. They are recognised with
blanks around them and in small or capital letters, and always rendered in the
same way. Anything else is refused, so no operator text of the caller reaches a
statement.
-/

namespace BoundSql.Operator

/-- The operators, as they are rendered. Two ways to write that something differs are both kept. -/
def all : List String :=
  ["=", "<", ">", "<=", ">=", "<>", "!=", "<=>", "like", "not like", "ilike", "not ilike"]

/-- A text without blanks at its ends and in small letters. Blanks inside of it are kept, so an
operator of two words has exactly one between them. -/
def normalized (operator : String) : String :=
  String.ofList ((Text.trimChars operator.toList).map Text.lowerAscii)

/-- An operator as it is rendered, or the error that there is no such operator. The error shows
it as the caller wrote it. -/
def render (operator : String) : Except CompileError String :=
  if all.contains (normalized operator) then
    .ok (normalized operator)
  else
    .error (.illegalOperator operator)

end BoundSql.Operator
