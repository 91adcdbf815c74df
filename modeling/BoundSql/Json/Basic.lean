import BoundSql.Binary64.Basic
import BoundSql.Mapping

/-!
# JSON trees

A tree holds what a JSON text says once its numerals and escapes have been read.
Numbers are integers of at most 64 bits, signed or unsigned, or finite doubles;
the two kinds stay apart, so that `1` and `1.0` are different trees. An object
is the list of its members in the order of the text. A tree may repeat a key:
`distinct` is the reading of it as a mapping, in which the last value wins at
the place of the first.
-/

namespace BoundSql

/-- A JSON number. Whether it is an integer or a double is decided by how it was written, not by
its value: 1 and 1.0 are different numbers. -/
inductive Json.Number
  | integer (value : Int) (inRange : -0x8000000000000000 ≤ value ∧ value < 0x10000000000000000)
  | float (value : Binary64) (finite : value.isFinite = true)
deriving DecidableEq

/-- A JSON tree. Nothing forbids an object with a repeated key, since what happens to the second
entry depends on who reads the tree. -/
inductive Json
  | null
  | bool (value : Bool)
  | number (value : Json.Number)
  | string (value : String)
  | array (items : List Json)
  | object (members : List (String × Json))

namespace Json

/-- The integer of a signed 64-bit word. It is in range because the range of the numbers
includes all signed and all unsigned words. -/
def ofInt64 (value : Int64) : Json :=
  .number (.integer value.toInt (by
    have := Int64.le_toInt value
    have := Int64.toInt_lt value
    omega))

/-- The integer of an unsigned 64-bit word. -/
def ofUInt64 (value : UInt64) : Json :=
  .number (.integer value.toNat ⟨by omega, by have := value.toNat_lt; omega⟩)

/-- The number of a double; JSON has no word for NaN and the infinities, which become null. -/
def ofBinary64 (value : Binary64) : Json :=
  if finite : value.isFinite = true then .number (.float value finite) else .null

mutual

/-- How many arrays and objects stand inside each other. A container counts itself, so that a
scalar has depth zero and an empty array depth one. -/
def depth : Json → Nat
  | .array items => itemsDepth items + 1
  | .object members => membersDepth members + 1
  | _ => 0

/-- The greatest depth of the items of an array, and zero if there are none; the array around
them is not counted. -/
def itemsDepth : List Json → Nat
  | [] => 0
  | item :: rest => max (depth item) (itemsDepth rest)

/-- The greatest depth of the values of an object, and zero if there are none; keys have no
depth. -/
def membersDepth : List (String × Json) → Nat
  | [] => 0
  | (_, value) :: rest => max (depth value) (membersDepth rest)

end

mutual

/-- The tree with every object read as a mapping, at every depth: of two members with one key
the last value wins and stands at the place of the first. -/
def distinct : Json → Json
  | .array items => .array (distinctItems items)
  | .object members => .object (Mapping.ofPairs (distinctMembers members))
  | .null => .null
  | .bool value => .bool value
  | .number value => .number value
  | .string value => .string value

/-- The items of an array, each with its objects read as mappings. -/
def distinctItems : List Json → List Json
  | [] => []
  | item :: rest => distinct item :: distinctItems rest

/-- The members of an object, each value with its objects read as mappings. Repeated keys stay
here; the object around them is what makes a mapping of them. -/
def distinctMembers : List (String × Json) → List (String × Json)
  | [] => []
  | (key, value) :: rest => (key, distinct value) :: distinctMembers rest

end

end Json

end BoundSql
