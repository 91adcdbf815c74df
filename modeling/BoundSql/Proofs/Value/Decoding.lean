import BoundSql.Proofs.Value.Stored

/-!
# Trees that are values

A tree is looked at, or the kinds of values are tried on it in their order. Both
ways lead to the same value, and both ways out of the value lead back to the tree
bit for bit, unless an object stands somewhere in it: then it is no value. Some
kinds are never reached: every date is a text before it is a date. What a driver is
handed of a value is a tree without objects, so it is read, and what is read is
handed out as before.
-/

namespace BoundSql

open Calendar (Date DateTime)

mutual

/-- Whether no object stands in a tree, at any depth. -/
def Json.isObjectFree : Json → Bool
  | .object _ => false
  | .array items => areObjectFree items
  | .null | .bool _ | .number _ | .string _ => true

/-- Whether no object stands in any of the items of an array. -/
def Json.areObjectFree : List Json → Bool
  | [] => true
  | item :: rest => item.isObjectFree && areObjectFree rest

end

namespace Value

/-- A tree and a value are each other's form, on both ways in and both ways out. Not every value
has such a tree: a date comes back as a text. -/
structure Mirrors (value : Value) (json : Json) : Prop where
  taken : ofJson json = .ok value
  decoded : decode? json = some value
  handed : value.toJson = json
  stored : value.encode = json

/-- The same of the items of arrays, which are read and written one by one. -/
structure MirrorAll (values : List Value) (items : List Json) : Prop where
  taken : itemsOfJson items = .ok values
  decoded : decodeItems? items = some values
  handed : itemsToJson values = items
  stored : encodeItems values = items

/-! ## All kinds in their order -/

/-- What kinds of values would make of a tree that an earlier kind takes: doubles of
whole numbers, dates and times of texts. -/
structure LateKinds where
  double : Int → Binary64
  date? : String → Option Date
  dateTime? : String → Option DateTime

/-- A double from any number. Integers are included, as a reader of doubles alone would include
them. -/
def LateKinds.double? (late : LateKinds) : Json → Option Binary64
  | .number (.integer value _) => some (late.double value)
  | .number (.float value _) => some value
  | _ => none

mutual

/-- The first of all nine kinds of values that can read a tree. What the late kinds make of a
tree is left open, so the definition holds for any way of reading them. -/
def attempt? (late : LateKinds) (json : Json) : Option Value :=
  null? json <|> (Json.bool? json).map .bool <|> (Json.int64? json).map .int <|>
    (Json.uint64? json).map .uint <|> (late.double? json).map .float <|>
    (Json.string? json).map .string <|> ((Json.string? json).bind late.date?).map .date <|>
    ((Json.string? json).bind late.dateTime?).map .dateTime <|>
    match json with
    | .array items => (attemptItems? late items).map .array
    | _ => none

/-- The items of an array, each by the first of all kinds that can read it. -/
def attemptItems? (late : LateKinds) : List Json → Option (List Value)
  | [] => some []
  | item :: rest => do
    let value ← attempt? late item
    let values ← attemptItems? late rest
    pure (value :: values)

end

/-- Every integer of a tree is a signed or an unsigned word, so that no later kind is
tried on it. -/
theorem words_read_integer {value : Int}
    (inRange : -0x8000000000000000 ≤ value ∧ value < 0x10000000000000000) (others : Option Value) :
    ((Json.int64? (.number (.integer value inRange))).map Value.int <|>
      (Json.uint64? (.number (.integer value inRange))).map Value.uint <|> others) =
        some (ofNumber (.integer value inRange)) := by
  rw [Json.int64?, Json.uint64?, ofNumber]
  by_cases small : value < 0x8000000000000000
  · rw [if_pos small, if_pos small]
    rfl
  · rw [if_neg small, if_neg small, if_pos (by omega)]
    rfl

mutual

/-- The kinds that come late take nothing. Every number is a word or a double before, and every
text is a text. -/
theorem attempt?_eq (late : LateKinds) : (json : Json) → attempt? late json = decode? json
  | .null | .bool _ | .string _ | .object _ | .number (.float _ _) => rfl
  | .number (.integer value inRange) => by
    refine Eq.trans (words_read_integer inRange _) (Eq.symm ?_)
    exact decode?_integer inRange
  | .array items => by
    have read : attempt? late (.array items) = (attemptItems? late items).map .array := rfl
    rw [read, attemptItems?_eq late items]
    rfl

/-- Nor do they in the items of an array. -/
theorem attemptItems?_eq (late : LateKinds) :
    (items : List Json) → attemptItems? late items = decodeItems? items
  | [] => rfl
  | item :: rest => by
    rw [attemptItems?, decodeItems?, attempt?_eq late item, attemptItems?_eq late rest]

end

/-! ## Trees without objects -/

/-- A number is the value that its range says, and written out again it is the number it was. -/
theorem mirrors_number (number : Json.Number) : (ofNumber number).Mirrors (.number number) := by
  cases number with
  | float value finite =>
    have shown : Json.ofBinary64 value = .number (.float value finite) := dif_pos finite
    exact ⟨rfl, rfl, shown, shown⟩
  | integer value inRange =>
    by_cases small : value < 0x8000000000000000
    · have form : ofNumber (.integer value inRange) = .int (Int64.ofInt value) := if_pos small
      have number : (Int64.ofInt value).toInt = value :=
        Int64.toInt_ofInt_of_le inRange.1 small
      have shown : Json.ofInt64 (Int64.ofInt value) = .number (.integer value inRange) := by
        simp only [Json.ofInt64, number]
      refine ⟨rfl, ?_, ?_, ?_⟩
      · rw [decode?_integer, if_pos small, form]
      · rw [form, toJson, shown]
      · rw [form, encode, shown]
    · have form : ofNumber (.integer value inRange) = .uint (UInt64.ofNat value.toNat) :=
        if_neg small
      have fits : value.toNat < 2 ^ 64 := by omega
      have number : ((UInt64.ofNat value.toNat).toNat : Int) = value := by
        rw [UInt64.toNat_ofNat_of_lt' fits]
        omega
      have shown : Json.ofUInt64 (UInt64.ofNat value.toNat) =
          .number (.integer value inRange) := by
        simp only [Json.ofUInt64, number]
      refine ⟨rfl, ?_, ?_, ?_⟩
      · rw [decode?_integer, if_neg small, form]
      · rw [form, toJson, shown]
      · rw [form, encode, shown]

/-- Items that are values make an array that is one. -/
theorem MirrorAll.array {values : List Value} {items : List Json}
    (each : MirrorAll values items) : (Value.array values).Mirrors (.array items) where
  taken := by
    rw [ofJson, each.taken]
    rfl
  decoded := by
    have read : decode? (.array items) = (decodeItems? items).map .array := rfl
    rw [read, each.decoded]
    rfl
  handed := congrArg Json.array each.handed
  stored := congrArg Json.array each.stored

/-- One more item that is a value. -/
theorem Mirrors.cons {value : Value} {values : List Value} {item : Json} {items : List Json}
    (here : value.Mirrors item) (others : MirrorAll values items) :
    MirrorAll (value :: values) (item :: items) where
  taken := by
    rw [itemsOfJson, here.taken, others.taken]
    rfl
  decoded := by
    rw [decodeItems?, here.decoded, others.decoded]
    rfl
  handed := by rw [itemsToJson, here.handed, others.handed]
  stored := by rw [encodeItems, here.stored, others.stored]

mutual

/-- A tree without objects is a value. Recursion follows the tree, together with the statement
about the items of arrays. -/
theorem exists_mirrors : (json : Json) → json.isObjectFree = true →
    ∃ value : Value, value.Mirrors json
  | .null, _ => ⟨.null, rfl, rfl, rfl, rfl⟩
  | .bool value, _ => ⟨.bool value, rfl, rfl, rfl, rfl⟩
  | .number number, _ => ⟨_, mirrors_number number⟩
  | .string value, _ => ⟨.string value, rfl, rfl, rfl, rfl⟩
  | .array items, free =>
    have ⟨values, each⟩ := exists_mirrorAll items free
    ⟨.array values, each.array⟩
  | .object _, free => Bool.noConfusion free

/-- Trees without objects are values. -/
theorem exists_mirrorAll : (items : List Json) → Json.areObjectFree items = true →
    ∃ values, MirrorAll values items
  | [], _ => ⟨[], rfl, rfl, rfl, rfl⟩
  | item :: rest, free => by
    rw [Json.areObjectFree, Bool.and_eq_true] at free
    obtain ⟨value, here⟩ := exists_mirrors item free.1
    obtain ⟨values, others⟩ := exists_mirrorAll rest free.2
    exact ⟨value :: values, here.cons others⟩

end

/-! ## Trees with objects -/

mutual

/-- A tree with an object in it is refused on both ways, however deep the object stands and
whatever stands in front of it. -/
theorem refused_of_object : (json : Json) → json.isObjectFree = false →
    ofJson json = .error .nestedObject ∧ decode? json = none
  | .object _, _ => ⟨rfl, rfl⟩
  | .array items, found => by
    obtain ⟨taken, decoded⟩ := refused_of_objects items found
    have read : decode? (.array items) = (decodeItems? items).map .array := rfl
    rw [ofJson, taken, read, decoded]
    exact ⟨rfl, rfl⟩
  | .null, found | .bool _, found | .number _, found | .string _, found => Bool.noConfusion found

/-- Items with an object in one of them are refused: the first such item is met
behind items that are values. -/
theorem refused_of_objects : (items : List Json) → Json.areObjectFree items = false →
    itemsOfJson items = .error .nestedObject ∧ decodeItems? items = none
  | [], found => Bool.noConfusion found
  | item :: rest, found => by
    rw [itemsOfJson, decodeItems?]
    cases free : item.isObjectFree with
    | false =>
      obtain ⟨taken, decoded⟩ := refused_of_object item free
      rw [taken, decoded]
      exact ⟨rfl, rfl⟩
    | true =>
      rw [Json.areObjectFree, free, Bool.true_and] at found
      obtain ⟨value, here⟩ := exists_mirrors item free
      obtain ⟨taken, decoded⟩ := refused_of_objects rest found
      rw [here.taken, here.decoded, taken, decoded]
      exact ⟨rfl, rfl⟩

end

/-- What a tree is taken for is its value, and no object stands in the tree. -/
theorem mirrors_of_taken {json : Json} {value : Value} (taken : ofJson json = .ok value) :
    json.isObjectFree = true ∧ value.Mirrors json := by
  cases free : json.isObjectFree with
  | false =>
    rw [(refused_of_object json free).1] at taken
    cases taken
  | true =>
    obtain ⟨other, same⟩ := exists_mirrors json free
    obtain rfl : other = value := Except.ok.inj (same.taken.symm.trans taken)
    exact ⟨rfl, same⟩

/-- A tree that is refused has an object in it; there is no other reason. -/
theorem object_of_refused {json : Json} {error : ValueError} (refused : ofJson json = .error error) :
    json.isObjectFree = false := by
  refine eq_false_of_ne_true fun free => ?_
  obtain ⟨value, same⟩ := exists_mirrors json free
  rw [same.taken] at refused
  cases refused

/-! ## What drivers are handed -/

/-- A double is a number or null. -/
theorem isObjectFree_ofBinary64 (value : Binary64) :
    (Json.ofBinary64 value).isObjectFree = true := by
  unfold Json.ofBinary64
  split <;> rfl

mutual

/-- No object stands in what a driver is handed of a value, so it can always be read again. -/
theorem isObjectFree_toJson : (value : Value) → value.toJson.isObjectFree = true
  | .null | .bool _ | .int _ | .uint _ | .string _ | .date _ | .dateTime _ => rfl
  | .float value => isObjectFree_ofBinary64 value
  | .array items => areObjectFree_itemsToJson items

/-- Nor in what it is handed of the items of an array. -/
theorem areObjectFree_itemsToJson : (items : List Value) →
    Json.areObjectFree (itemsToJson items) = true
  | [] => rfl
  | item :: rest => by
    rw [itemsToJson, Json.areObjectFree, isObjectFree_toJson item, areObjectFree_itemsToJson rest]
    rfl

end

/-- A tree is read on both ways exactly if no object stands in it, and then as one
value, of which both the driver's form and the stored form are the tree itself. It
does not matter that whole numbers could be doubles and texts could be dates. What
a driver is handed of any value is read in this manner, so reading it once settles
what every further reading gives. -/
theorem readings_agree :
    (∀ (late : LateKinds) (json : Json), attempt? late json = decode? json) ∧
      (∀ json : Json,
        if json.isObjectFree then
          ∃ value, ofJson json = .ok value ∧ decode? json = some value ∧
            value.toJson = json ∧ value.encode = json
        else
          ofJson json = .error .nestedObject ∧ decode? json = none) ∧
      ∀ value : Value, ∃ again, ofJson value.toJson = .ok again ∧
        again.toJson = value.toJson ∧ ofJson again.toJson = .ok again := by
  refine ⟨attempt?_eq, ?_, ?_⟩
  · intro json
    split
    · rename_i free
      obtain ⟨value, same⟩ := exists_mirrors json free
      exact ⟨value, same.taken, same.decoded, same.handed, same.stored⟩
    · rename_i found
      exact refused_of_object json (eq_false_of_ne_true found)
  · intro value
    obtain ⟨again, same⟩ := exists_mirrors value.toJson (isObjectFree_toJson value)
    refine ⟨again, same.taken, same.handed, ?_⟩
    rw [same.handed]
    exact same.taken

end Value

end BoundSql
