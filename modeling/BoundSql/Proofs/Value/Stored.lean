import BoundSql.Value.Json

/-!
# Values that were stored

A stored value does not say of which kind it was. What is read back is the first
kind that can read its tree: an unsigned integer that fits a signed word comes
back as a signed one, a time as the text that it was written as, and a double
without a numeral as null. All else comes back as it was. What came back is
stored as before, so it comes back for good.
-/

namespace BoundSql.Value

mutual

/-- The value that comes back when a value was stored. It is said by cases here and not through
reading, so that reading can be compared with it. -/
def restored : Value → Value
  | .null => .null
  | .bool value => .bool value
  | .int value => .int value
  | .uint value => if value.toNat < 0x8000000000000000 then .int (Int64.ofInt value.toNat) else .uint value
  | .float value => if value.isFinite then .float value else .null
  | .string value => .string value
  | .date value => .string value.text
  | .dateTime value => .string value.text
  | .array items => .array (restoredItems items)

/-- The items that come back when those of an array were stored. -/
def restoredItems : List Value → List Value
  | [] => []
  | item :: rest => restored item :: restoredItems rest

end

/-! ## Reading what was stored -/

/-- A tree that is no array is read as a scalar. -/
theorem decode?_eq_scalar? {json : Json} (noArray : ∀ items, json ≠ .array items) :
    decode? json = scalar? json := by
  rw [decode?]
  · cases scalar? json <;> rfl
  · exact noArray

/-- An integer is read as a signed word if it fits, and as an unsigned one if not. One of the
two always fits, since a tree has no larger integers. -/
theorem decode?_integer {value : Int}
    (inRange : -0x8000000000000000 ≤ value ∧ value < 0x10000000000000000) :
    decode? (.number (.integer value inRange)) =
      some (if value < 0x8000000000000000 then .int (Int64.ofInt value)
        else .uint (UInt64.ofNat value.toNat)) := by
  rw [decode?_eq_scalar? (fun items => Json.noConfusion), scalar?]
  by_cases small : value < 0x8000000000000000
  · have signed : Json.int64? (.number (.integer value inRange)) = some (Int64.ofInt value) := by
      rw [Json.int64?, if_pos small]
    rw [signed, if_pos small]
    rfl
  · have unfit : Json.int64? (.number (.integer value inRange)) = none := by
      rw [Json.int64?, if_neg small]
    have unsigned : Json.uint64? (.number (.integer value inRange)) =
        some (UInt64.ofNat value.toNat) := by
      rw [Json.uint64?, if_pos (by omega)]
    rw [unfit, unsigned, if_neg small]
    rfl

/-- A signed word is read as itself. -/
theorem decode?_ofInt64 (value : Int64) : decode? (.ofInt64 value) = some (.int value) := by
  have small : value.toInt < 0x8000000000000000 := value.toInt_lt
  rw [Json.ofInt64, decode?_integer, if_pos small, Int64.ofInt_toInt]

/-- An unsigned word is read as a signed one if it fits. The number stays, and its kind is lost. -/
theorem decode?_ofUInt64 (value : UInt64) :
    decode? (.ofUInt64 value) = some (restored (.uint value)) := by
  rw [Json.ofUInt64, decode?_integer, Int.toNat_natCast, UInt64.ofNat_toNat, restored]
  by_cases fits : value.toNat < 0x8000000000000000
  · rw [if_pos fits, if_pos (by omega)]
  · rw [if_neg fits, if_neg (by omega)]

/-- A double is read as itself if it has a numeral, and as null if not. The bits come back as
they were, a negative zero included. -/
theorem decode?_ofBinary64 (value : Binary64) :
    decode? (.ofBinary64 value) = some (restored (.float value)) := by
  unfold Json.ofBinary64
  rw [restored]
  by_cases finite : value.isFinite = true
  · rw [dif_pos finite, if_pos finite]
    rfl
  · rw [dif_neg finite, if_neg finite]
    rfl

mutual

/-- What is read of a stored value is what comes back of it. Reading a stored value never fails. -/
@[simp]
theorem decode?_encode : (value : Value) → decode? value.encode = some value.restored
  | .null => rfl
  | .bool value => rfl
  | .int value => decode?_ofInt64 value
  | .uint value => decode?_ofUInt64 value
  | .float value => decode?_ofBinary64 value
  | .string value => rfl
  | .date value => rfl
  | .dateTime value => rfl
  | .array items => by
    have read : decode? (.array (encodeItems items)) =
        (decodeItems? (encodeItems items)).map .array := rfl
    rw [encode, read, decodeItems?_encodeItems items, restored]
    rfl

/-- What is read of stored items is what comes back of each. -/
theorem decodeItems?_encodeItems : (items : List Value) →
    decodeItems? (encodeItems items) = some (restoredItems items)
  | [] => rfl
  | item :: rest => by
    rw [encodeItems, decodeItems?, decode?_encode item, decodeItems?_encodeItems rest]
    rfl

end

/-! ## Storing what came back -/

mutual

/-- What comes back is stored as the value itself was. Storing it again therefore changes
nothing more. -/
@[simp]
theorem encode_restored : (value : Value) → value.restored.encode = value.encode
  | .null => rfl
  | .bool value => rfl
  | .int value => rfl
  | .uint value => by
    rw [restored]
    split
    · rename_i fits
      have number : (Int64.ofInt value.toNat).toInt = value.toNat :=
        Int64.toInt_ofInt_of_le (by omega) (by omega)
      simp [encode, Json.ofInt64, Json.ofUInt64, number]
    · rfl
  | .float value => by
    rw [restored]
    split
    · rfl
    · rename_i strange
      rw [encode, encode, Json.ofBinary64, dif_neg strange]
  | .string value => rfl
  | .date value => rfl
  | .dateTime value => rfl
  | .array items => by
    rw [restored, encode, encode, encodeItems_restoredItems items]

/-- The items that come back are stored as the items themselves were. -/
theorem encodeItems_restoredItems : (items : List Value) →
    encodeItems (restoredItems items) = encodeItems items
  | [] => rfl
  | item :: rest => by
    rw [restoredItems, encodeItems, encodeItems, encode_restored item,
      encodeItems_restoredItems rest]

end

end BoundSql.Value
