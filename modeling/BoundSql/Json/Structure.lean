import BoundSql.Json.Basic
import BoundSql.Mapping

/-!
# Reading structures and enumerations from trees

A structure is an object with its fields as members, in any order and among
others, or an array with all fields in their order. A field that occurs twice,
an item too many and a missing field without a default are faults. An
enumeration is the name of a case, or an object with that name as its only key
and nothing under it.
-/

namespace BoundSql.Json

/-- The fields of a structure as a tree gives them, in the order of the structure. A field that
was not given has no value; whether that is a fault is for its reader to say. -/
structure Fields where
  /-- Whether they were given as an array. -/
  positional : Bool
  values : List (Option Json)

/-- The items of an array for as many fields, the missing ones at the end. An array with more
items than fields is refused. -/
def fieldRow? (names : List String) (items : List Json) : Option Fields :=
  if names.length < items.length then
    none
  else
    some ⟨true, items.map some ++ List.replicate (names.length - items.length) none⟩

/-- The fields with the given names, from an object or an array. Members with other names are
passed over, and a known name that occurs twice is a fault. -/
def fields? (names : List String) : Json → Option Fields
  | .object members => (names.mapM (Mapping.unique? members)).map (Fields.mk false)
  | .array items => fieldRow? names items
  | _ => none

/-- A field that must be there; null is given to its reader like any other value. -/
def required {α : Type} (decode? : Json → Option α) (field : Option Json) : Option α :=
  field.bind decode?

/-- A field with a default for when it is missing. The default does not stand in for a value
that cannot be read. -/
def defaulted {α : Type} (default : α) (decode? : Json → Option α) : Option Json → Option α
  | none => some default
  | some value => decode? value

/-- A field that null stands for too. In an object it may be missing, in an array it may not. -/
def optional {α : Type} (positional : Bool) (decode? : Json → Option α) :
    Option Json → Option (Option α)
  | none => if positional then none else some none
  | some .null => some none
  | some value => (decode? value).map some

/-- A truth value; numbers and texts are not taken for one. -/
def bool? : Json → Option Bool
  | .bool value => some value
  | _ => none

/-- A text; numbers are not turned into one. -/
def string? : Json → Option String
  | .string value => some value
  | _ => none

/-- An integer that fits a signed 64-bit word. A double is refused even if it is whole. -/
def int64? : Json → Option Int64
  | .number (.integer value _) =>
    if value < 0x8000000000000000 then some (Int64.ofInt value) else none
  | _ => none

/-- An integer that fits an unsigned 64-bit word. A double is refused even if it is whole. -/
def uint64? : Json → Option UInt64
  | .number (.integer value _) =>
    if 0 ≤ value then some (UInt64.ofNat value.toNat) else none
  | _ => none

/-- A list of things that are read alike, in their order. One that cannot be read is enough to
refuse the list. -/
def list? {α : Type} (decode? : Json → Option α) : Json → Option (List α)
  | .array items => items.mapM decode?
  | _ => none

/-- What may stand under the name of an enumeration's case: null, and in trees that are read as a
whole before their parts, an empty object too. -/
def isVoid (buffered : Bool) : Json → Bool
  | .null => true
  | .object [] => buffered
  | _ => false

/-- A case of an enumeration, by its name. An object with a second key is refused, and so is a
name that no case has. -/
def case? {α : Type} (buffered : Bool) (cases : List (String × α)) : Json → Option α
  | .string name => cases.lookup name
  | .object [(name, content)] => if isVoid buffered content then cases.lookup name else none
  | _ => none

end BoundSql.Json
