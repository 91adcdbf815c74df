import BoundSql.Binary64.Rounding
import BoundSql.Calendar.DateTime

/-!
# Values

The literals of a query: what travels beside the statement and never in it.
Integers keep their signedness and doubles their bits, so a value is bound as
exactly what the caller gave. Dates and times come from the caller only; text
that looks like a date is text.
-/

namespace BoundSql

open Calendar (Date DateTime)

/-- A literal of a query. Equality as propositions compares doubles by their bits; equality as
the caller means it is `equals`. -/
inductive Value
  | null
  | bool (value : Bool)
  | int (value : Int64)
  | uint (value : UInt64)
  | float (value : Binary64)
  | string (value : String)
  | date (value : Date)
  | dateTime (value : DateTime)
  | array (items : List Value)

namespace Value

/-- The name of a value's kind, as it stands in the log. The kinds of the items of an array do
not show in it. -/
def kindName : Value → String
  | .null => "null"
  | .bool _ => "bool"
  | .int _ => "int"
  | .uint _ => "uint"
  | .float _ => "float"
  | .string _ => "string"
  | .date _ => "date"
  | .dateTime _ => "datetime"
  | .array _ => "array"

/-- Whether a value is the null value. An array that holds nothing but nulls is not. -/
def isNull : Value → Bool
  | .null => true
  | _ => false

/-- Whether the database compares a value as text. Dates and times do because they reach it as
text. -/
def isTextual : Value → Bool
  | .string _ | .date _ | .dateTime _ => true
  | _ => false

mutual

/-- Equality of values as the caller means it: doubles compare as numbers, so a value with a NaN
in it differs from itself. Values of different kinds differ. -/
def equals : Value → Value → Bool
  | .null, .null => true
  | .bool x, .bool y => x == y
  | .int x, .int y => x == y
  | .uint x, .uint y => x == y
  | .float x, .float y => x.equals y
  | .string x, .string y => x == y
  | .date x, .date y => x == y
  | .dateTime x, .dateTime y => x == y
  | .array xs, .array ys => equalItems xs ys
  | _, _ => false

/-- Equality of arrays, item by item; arrays of different lengths differ. -/
def equalItems : List Value → List Value → Bool
  | [], [] => true
  | x :: xs, y :: ys => equals x y && equalItems xs ys
  | _, _ => false

end

end Value

/-- Things that stand for a value when they are put into a query. Numbers keep their signedness
and widen to 64 bits. -/
class ToValue (α : Type) where
  toValue : α → Value

export ToValue (toValue)

instance : ToValue Value := ⟨id⟩
instance : ToValue Bool := ⟨.bool⟩
instance : ToValue Int8 := ⟨fun value => .int value.toInt64⟩
instance : ToValue Int16 := ⟨fun value => .int value.toInt64⟩
instance : ToValue Int32 := ⟨fun value => .int value.toInt64⟩
instance : ToValue Int64 := ⟨.int⟩
instance : ToValue UInt8 := ⟨fun value => .uint value.toUInt64⟩
instance : ToValue UInt16 := ⟨fun value => .uint value.toUInt64⟩
instance : ToValue UInt32 := ⟨fun value => .uint value.toUInt64⟩
instance : ToValue UInt64 := ⟨.uint⟩
instance : ToValue Binary32 := ⟨fun value => .float (Binary64.ofSingle value)⟩
instance : ToValue Binary64 := ⟨.float⟩
instance : ToValue String := ⟨.string⟩
instance : ToValue Date := ⟨.date⟩
instance : ToValue DateTime := ⟨.dateTime⟩

/-- A list is an array of what its items stand for. -/
instance {α : Type} [ToValue α] : ToValue (List α) := ⟨fun items => .array (items.map toValue)⟩

/-- A missing thing is null. -/
instance {α : Type} [ToValue α] : ToValue (Option α) := ⟨fun item => item.elim .null toValue⟩

end BoundSql
