import BoundSql.Json.Shape
import BoundSql.Record.Basic
import BoundSql.Value.Json

/-!
# Records and JSON

A JSON object is a record with its members as columns. A stored record is
another thing: a structure with one field, the list of its columns as pairs, so
that their order and even repeated names survive.
-/

namespace BoundSql.Record

/-- A member of an object as a column. An object under the key is refused, since a column holds
a single value. -/
def columnOfMember (member : String × Json) : Except ValueError (String × Value) :=
  (Value.ofJson member.2).map fun value => (member.1, value)

/-- The record of an object's members, in their order. The first value that cannot be a column's
is the error of the whole. -/
def ofMembers (members : List (String × Json)) : Except ValueError Record :=
  (members.mapM columnOfMember).map ofList

/-- The stored form of a record. The columns are pairs in a list, and not members of an object,
so that order and repetition are kept. -/
def encode (record : Record) : Json :=
  let pair (field : String × Value) : Json := .array [.string field.1, field.2.encode]
  .object [("fields", .array (record.fields.map pair))]

/-- A column in a stored record: an array of a name and a value, with nothing behind them. -/
def field? : Json → Option (String × Value)
  | .array [name, value] => do
    let name ← Json.string? name
    let value ← Value.decode? value
    pure (name, value)
  | _ => none

/-- A record from its stored form. The columns are taken as they stand: a name that occurs twice
is kept twice and not set again. -/
def decode? (json : Json) : Option Record := do
  let given ← Json.fields? ["fields"] json
  match given.values with
  | [fields] => (Json.required (Json.list? field?) fields).map Record.mk
  | _ => none

/-- What is read of a stored record: its one field, as a whole. Other members need only be well
formed. -/
def shape : Json.Shape :=
  .fields [("fields", .whole)]

/-- A record from the text of its stored form. Members other than the columns may hold anything
that is well formed. -/
def ofText? (text : String) : Option Record :=
  (shape.read? text).bind decode?

end BoundSql.Record
