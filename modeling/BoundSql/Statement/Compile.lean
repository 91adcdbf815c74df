import BoundSql.Binding.Registry
import BoundSql.Statement.Error

/-!
# Compiling with a registry

A compilation reads and extends a registry and either yields a result or stops
at an error. What was bound before an error stays bound.
-/

namespace BoundSql

/-- A computation on a registry that may stop; the registry outlives the stop, so that nothing
bound before it is taken back. -/
abbrev Compile := ExceptT CompileError (StateM Registry)

namespace Compile

/-- The result and the registry afterwards, from a registry. There is a registry afterwards even
if there is no result. -/
def runOn {α : Type} (action : Compile α) (registry : Registry) :
    Except CompileError α × Registry :=
  action.run registry

/-- The token of a value, bound for no clause. It cannot stop. -/
def assign (value : Value) : Compile Token :=
  modifyGet (Registry.assign value)

/-- The token of a value that is bound for a clause. It cannot stop, since the clause is known. -/
def bind (group : Group) (value : Value) : Compile Token :=
  modifyGet (Registry.bind group value)

/-- A result that does not depend on the registry and leaves it as it is, whether it is one or
an error. -/
def ofExcept {α : Type} : Except CompileError α → Compile α
  | .ok result => pure result
  | .error error => throw error

end Compile

/-- A statement and the values that its placeholders stand for. The type does not keep the two
in step; that the compiler does is a theorem about it. -/
structure Statement where
  sql : String
  parameters : Parameters

/-- A token as it stands for a value in a statement: textual values are quoted around it.
Whoever puts the value in must escape it, for nothing is escaped here. -/
def Token.standIn (token : Token) (value : Value) : String :=
  if value.isTextual then "'" ++ token.placeholder ++ "'" else token.placeholder

end BoundSql
