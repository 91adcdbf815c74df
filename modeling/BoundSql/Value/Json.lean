import BoundSql.Json.Structure
import BoundSql.Value.Basic

/-!
# Values and JSON

Two ways lead out of a value. `toJson` is what a driver is handed: times in the
form the database reads. `encode` is what a stored query holds: times with their
fraction. NaN and the infinities become null on both ways.

Two ways lead back. `ofJson` looks at the tree and says what it is. `decode?`
tries the kinds of values in their order and takes the first that can read the
tree. An object is no value for either of them.
-/

namespace BoundSql

/-- What is wrong with a tree that should hold values. Neither error says where in the tree the
fault is. -/
inductive ValueError
  /-- An object where a single value belongs. -/
  | nestedObject
  /-- Rows without column names. -/
  | unnamedColumns
deriving DecidableEq

/-- The text of an error. -/
def ValueError.message : ValueError → String
  | .nestedObject => "Invalid argument: nested objects are not valid column values"
  | .unnamedColumns =>
    "Invalid argument: Keys must be strings, i.e. \x7b\"name\": \"John\", \"user_id\": 321\x7d"

namespace Value

mutual

/-- The tree that drivers are handed. The fraction of a time is lost in it, and with NaN and the
infinities the kind of the value. -/
def toJson : Value → Json
  | .null => .null
  | .bool value => .bool value
  | .int value => .ofInt64 value
  | .uint value => .ofUInt64 value
  | .float value => .ofBinary64 value
  | .string value => .string value
  | .date value => .string value.text
  | .dateTime value => .string value.databaseText
  | .array items => .array (itemsToJson items)

/-- The trees of the items of an array for drivers, one for each item. -/
def itemsToJson : List Value → List Json
  | [] => []
  | item :: rest => toJson item :: itemsToJson rest

end

mutual

/-- The tree that stored queries, records and parameters hold. Dates and times become texts and
will be read back as such. -/
def encode : Value → Json
  | .null => .null
  | .bool value => .bool value
  | .int value => .ofInt64 value
  | .uint value => .ofUInt64 value
  | .float value => .ofBinary64 value
  | .string value => .string value
  | .date value => .string value.text
  | .dateTime value => .string value.text
  | .array items => .array (encodeItems items)

/-- The trees of the items of an array for storage, one for each item. -/
def encodeItems : List Value → List Json
  | [] => []
  | item :: rest => encode item :: encodeItems rest

end

/-- The value of a number: a signed integer if it fits, an unsigned one if not, or a double. An
unsigned value that would also fit a signed one therefore changes its kind. -/
def ofNumber : Json.Number → Value
  | .integer value _ =>
    if value < 0x8000000000000000 then
      .int (Int64.ofInt value)
    else
      .uint (UInt64.ofNat value.toNat)
  | .float value _ => .float value

mutual

/-- The value a tree is. Every text is a string, also one that looks like a date, and an object
is refused wherever it stands. -/
def ofJson : Json → Except ValueError Value
  | .null => .ok .null
  | .bool value => .ok (.bool value)
  | .number value => .ok (ofNumber value)
  | .string value => .ok (.string value)
  | .array items => (itemsOfJson items).map .array
  | .object _ => .error .nestedObject

/-- The values the items of an array are; the first fault among them is the fault of the whole. -/
def itemsOfJson : List Json → Except ValueError (List Value)
  | [] => .ok []
  | item :: rest => do
    let value ← ofJson item
    let values ← itemsOfJson rest
    pure (value :: values)

end

/-- The null value from a tree; no other tree stands for it. -/
def null? : Json → Option Value
  | .null => some .null
  | _ => none

/-- A double from a tree. Integers are not taken for one here, since another kind has read them
before. -/
def float? : Json → Option Binary64
  | .number (.float value _) => some value
  | _ => none

/-- The kinds of values that hold no other values, in the order in which they are tried. Dates
and times come behind strings and are never reached. -/
def scalar? (json : Json) : Option Value :=
  null? json <|> (Json.bool? json).map .bool <|> (Json.int64? json).map .int <|>
    (Json.uint64? json).map .uint <|> (float? json).map .float <|>
    (Json.string? json).map .string

mutual

/-- The first kind of value that can read a tree. An object is read by none of them, and neither
is an array with an object anywhere in it. -/
def decode? (json : Json) : Option Value :=
  scalar? json <|>
    match json with
    | .array items => (decodeItems? items).map .array
    | _ => none

/-- The items of an array, each by the first kind that can read it; one item that none can read
is enough to refuse the array. -/
def decodeItems? : List Json → Option (List Value)
  | [] => some []
  | item :: rest => do
    let value ← decode? item
    let values ← decodeItems? rest
    pure (value :: values)

end

end Value

end BoundSql
