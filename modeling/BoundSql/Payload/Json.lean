import BoundSql.Payload.Basic
import BoundSql.Record.Json

/-!
# Insert payloads and JSON

An object is one record and an array of objects is a batch; rows without names
are refused, because nothing says which column a value belongs to. The stored
form does not say which shape it is: it is a single record if it can be read as
one, and a batch otherwise.
-/

namespace BoundSql.Payload

/-- The record of an item of a batch. Anything but an object is refused, since its values would
have no columns. -/
def recordOfJson : Json → Except ValueError Record
  | .object members => Record.ofMembers members
  | _ => .error .unnamedColumns

/-- The payload a tree is. One item that is no record is enough to refuse a batch, and the error
is that of the first such item. -/
def ofJson : Json → Except ValueError Payload
  | .object members => (Record.ofMembers members).map .single
  | .array items => (items.mapM recordOfJson).map .batch
  | _ => .error .unnamedColumns

/-- The stored form of a payload: of a single record the record itself, of a batch the list of
its records. -/
def encode : Payload → Json
  | .single record => record.encode
  | .batch records => .array (records.map Record.encode)

/-- A payload from its stored form. Since a stored record may also be given as an array, an
array is tried as a record before it is taken for a batch. -/
def decode? (json : Json) : Option Payload :=
  (Record.decode? json).map .single <|> (Json.list? Record.decode? json).map .batch

/-- A payload from the text of its stored form. Both shapes are tried on the same tree, so the
whole of it must be readable. -/
def ofText? (text : String) : Option Payload :=
  (Json.Shape.whole.read? text).bind decode?

end BoundSql.Payload
