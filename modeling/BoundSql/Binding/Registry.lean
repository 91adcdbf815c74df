import BoundSql.Binding.Group
import BoundSql.Binding.Parameters
import BoundSql.Value.Fingerprint

/-!
# The binding registry

A registry serves one statement, or several that share their values. It gives
every new value the next token and an equal value, told by its fingerprint, the
token it already has. Beside the values it remembers for which clauses each token
was bound; nothing is ever taken back except by a reset.
-/

namespace BoundSql

/-- What has been bound so far. Nothing in the type keeps the three lists in step; the
operations do, starting from the empty registry. -/
structure Registry where
  /-- The token of every fingerprint that has occurred. -/
  known : List (String × Token)
  /-- The values under their tokens, in the order of assignment. -/
  values : List (Token × Value)
  /-- For which clauses tokens were bound, each pair once, in the order of binding. -/
  bindings : List (Group × Token)

/-- A group name that does not exist, kept as it was given so that the message can show it. -/
inductive GroupError
  | unknownGroup (name : String)
deriving DecidableEq

/-- The text of an error. -/
def GroupError.message : GroupError → String
  | .unknownGroup name => "Invalid binding type: " ++ name ++ "."

namespace Registry

/-- The registry in which nothing has been bound; a reset returns to it, so that tokens start
again from the first. -/
def empty : Registry := ⟨[], [], []⟩

/-- The number of values, which is also the number of the next new token. Binding a known value
again does not change it. -/
def size (registry : Registry) : Nat :=
  registry.values.length

/-- Whether nothing has been bound. Values count and not clauses: a value that was only assigned
is there. -/
def isEmpty (registry : Registry) : Bool :=
  registry.values.isEmpty

/-- The token of a value, a new one if the value is new. What makes a value known is its
fingerprint, so two values share a token exactly as far as their digests agree. No clause is
recorded. -/
def assign (value : Value) (registry : Registry) : Token × Registry :=
  let fingerprint := value.fingerprint
  match registry.known.lookup fingerprint with
  | some token => (token, registry)
  | none =>
    let token := Token.nth registry.size
    (token, { registry with
      known := registry.known ++ [(fingerprint, token)]
      values := registry.values ++ [(token, value)] })

/-- The registry with a token recorded for a clause. A pair that is already there is not
repeated and keeps its place; whether the token stands for a value is not checked. -/
def record (group : Group) (token : Token) (registry : Registry) : Registry :=
  if (group, token) ∈ registry.bindings then
    registry
  else
    { registry with bindings := registry.bindings ++ [(group, token)] }

/-- The token of a value that is bound for a clause. The clause is recorded for a known value as
well as for a new one. -/
def bind (group : Group) (value : Value) (registry : Registry) : Token × Registry :=
  let (token, after) := registry.assign value
  (token, after.record group token)

/-- The tokens of several values that are bound for a clause, in order. Equal values among them
get one token, which then occurs several times. -/
def bindAll (group : Group) (values : List Value) (registry : Registry) :
    List Token × Registry :=
  match values with
  | [] => ([], registry)
  | value :: rest =>
    let (token, after) := registry.bind group value
    let (tokens, final) := after.bindAll group rest
    (token :: tokens, final)

/-- The tokens of several values, bound for no clause. An update binds its assignments this way,
since no clause of it holds them. -/
def assignAll (values : List Value) (registry : Registry) : List Token × Registry :=
  match values with
  | [] => ([], registry)
  | value :: rest =>
    let (token, after) := registry.assign value
    let (tokens, final) := after.assignAll rest
    (token :: tokens, final)

/-- The group with a name, or the error that there is none. Names are compared as they are, with
their capitals and blanks. -/
def groupNamed (name : String) : Except GroupError Group :=
  match Group.ofName? name with
  | some group => .ok group
  | none => .error (.unknownGroup name)

/-- The token of a value that is bound for a clause given by its name. The name is looked up
first, so an unknown one binds nothing and takes no token. -/
def addBinding (value : Value) (name : String) (registry : Registry) :
    Except GroupError Token × Registry :=
  match groupNamed name with
  | .error error => (.error error, registry)
  | .ok group =>
    let (token, after) := registry.bind group value
    (.ok token, after)

/-- The tokens of several values that are bound for a clause given by its name. An unknown name
binds none of them, and is a fault even if there are no values. -/
def addBindings (values : List Value) (name : String) (registry : Registry) :
    Except GroupError (List Token) × Registry :=
  match groupNamed name with
  | .error error => (.error error, registry)
  | .ok group =>
    let (tokens, after) := registry.bindAll group values
    (.ok tokens, after)

/-- The tokens bound for a clause, in the order in which they were first bound for it. A token
may be in several clauses or in none. -/
def group (registry : Registry) (group : Group) : List Token :=
  (registry.bindings.filter (·.1 == group)).map (·.2)

/-- All values under their tokens, in the order of assignment, whatever they were bound for. -/
def parameters (registry : Registry) : Parameters :=
  ⟨registry.values⟩

/-- Whether a token was bound for a clause that an update has. It may have been bound for other
clauses besides. -/
def boundForUpdate (registry : Registry) (token : Token) : Bool :=
  registry.bindings.any fun (group, bound) => bound == token && !group.excludedFromUpdate

/-- The values an update needs: those of its assignments, and those bound for any clause that it
has. They keep the order of their assignment and are not repeated. -/
def parametersForUpdate (registry : Registry) (assignments : List Token) : Parameters :=
  ⟨registry.values.filter fun (token, _) =>
    assignments.contains token || registry.boundForUpdate token⟩

end Registry

end BoundSql
