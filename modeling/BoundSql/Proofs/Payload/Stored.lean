import BoundSql.Proofs.Query.Stored
import BoundSql.Statement.Insert

/-!
# Payloads that were stored

A stored payload does not say whether it is one record or a batch. It is read as
one record first, and a record may also be given as a list of its fields, of which
it has one. A batch is a list too, but it is never taken for a record: a list of
no record has no field, and in a list of records the first field is a record,
where the list of columns should be. So a payload comes back as what it was, and
what is inserted of it is the same up to what comes back of each value.
-/

namespace BoundSql

namespace Record

/-- The record that comes back when a record was stored: the same columns, repeated
ones too, each with what comes back of its value. -/
def restored (record : Record) : Record :=
  ⟨record.fields.map fun field => (field.1, field.2.restored)⟩

/-- A record comes back with its columns, since names are texts and come back as they are. -/
@[simp]
theorem columns_restored (record : Record) : record.restored.columns = record.columns := by
  simp [restored, columns, Function.comp_def]

/-- Every value comes back at its place. -/
@[simp]
theorem values_restored (record : Record) :
    record.restored.values = record.values.map Value.restored := by
  simp [restored, values, Function.comp_def]

/-- A record without columns comes back without columns. -/
@[simp]
theorem isEmpty_restored (record : Record) : record.restored.isEmpty = record.isEmpty := by
  simp [restored, isEmpty]

/-- It does not matter whether a record is sorted before it is stored or after it has
come back: only its columns are looked at. -/
theorem sorted_restored (record : Record) : record.restored.sorted = record.sorted.restored := by
  have moved := List.map_mergeSort
    (r := fun first second : String × Value => decide (first.1 ≤ second.1))
    (s := fun first second => decide (first.1 ≤ second.1))
    (f := fun field => (field.1, field.2.restored)) (l := record.fields) fun _ _ _ _ => rfl
  exact congrArg Record.mk moved.symm

/-- A stored record is read, up to what comes back of its values. It need not be one that was
made by setting columns. -/
theorem decode?_encode (record : Record) : decode? record.encode = some record.restored := by
  have columns : Json.list? field? (.array (record.fields.map fun field =>
      .array [.string field.1, field.2.encode])) =
        some (record.fields.map fun field => (field.1, field.2.restored)) := by
    refine Json.list?_map fun field _ => ?_
    rw [field?, Value.decode?_encode]
    rfl
  rw [decode?, encode, Json.fields?_object (by simp)]
  exact congrArg (Option.map Record.mk) columns

/-- A list of stored records is no stored record: its first item would have to be the list of
columns, and that is no object. -/
theorem decode?_batch (records : List Record) :
    decode? (.array (records.map encode)) = none := by
  match records with
  | [] => rfl
  | [_] => rfl
  | _ :: _ :: _ => simp [decode?, Json.fields?, Json.fieldRow?]

end Record

namespace Insert

/-- The insert of what comes back: the same table and columns, and of each cell what
comes back of its value. -/
def restored (insert : Insert) : Insert :=
  ⟨insert.table, insert.columns, insert.rows.map (List.map Value.restored)⟩

/-- Rows are made of records that came back as they were of the records, and the same record is
at fault if one is. -/
theorem rowsUnder_restored (columns : List String) (index : Nat) (records : List Record) :
    rowsUnder columns index (records.map Record.restored) =
      (rowsUnder columns index records).map (List.map (List.map Value.restored)) := by
  induction records generalizing index with
  | nil => rfl
  | cons record rest inductionHypothesis =>
    rw [List.map_cons, rowsUnder, rowsUnder, Record.columns_restored, inductionHypothesis,
      Record.values_restored]
    split
    · cases rowsUnder columns (index + 1) rest <;> rfl
    · rfl

end Insert

namespace Payload

/-- Payloads that are both one record, or both a batch. What is in them is not compared. -/
def SameShape : Payload → Payload → Prop
  | .single _, .single _ | .batch _, .batch _ => True
  | .single _, .batch _ | .batch _, .single _ => False

/-- The payload that comes back when a payload was stored, of the same shape and with what comes
back of each record. -/
def restored : Payload → Payload
  | .single record => .single record.restored
  | .batch records => .batch (records.map Record.restored)

/-- The records come back one by one. -/
@[simp]
theorem records_restored (payload : Payload) :
    payload.restored.records = payload.records.map Record.restored := by
  cases payload <;> rfl

/-- The records that have columns are those that come back with columns. -/
theorem rows_restored (payload : Payload) :
    payload.restored.rows = payload.rows.map Record.restored := by
  simp [rows, List.filter_map, Function.comp_def]

/-- A stored payload is read, and its shape is not mistaken. The case to rule out is a batch
that could be read as one record. -/
theorem decode?_encode (payload : Payload) : decode? payload.encode = some payload.restored := by
  cases payload with
  | single record =>
    rw [decode?, encode, Record.decode?_encode]
    rfl
  | batch records =>
    have each : Json.list? Record.decode? (.array (records.map Record.encode)) =
        some (records.map Record.restored) := Json.list?_map fun record _ => record.decode?_encode
    rw [decode?, encode, Record.decode?_batch, each]
    rfl

/-- What is inserted of a payload that came back is what comes back of the insert,
and an error is the same error. -/
theorem compile_restored (table : String) (payload : Payload) :
    Insert.compile table payload.restored =
      (Insert.compile table payload).map (Option.map Insert.restored) := by
  have sorted : payload.restored.rows.map Record.sorted =
      (payload.rows.map Record.sorted).map Record.restored := by
    rw [rows_restored, List.map_map, List.map_map]
    exact List.map_congr_left fun record _ => record.sorted_restored
  unfold Insert.compile
  rw [sorted]
  cases payload.rows.map Record.sorted with
  | nil => rfl
  | cons first rest =>
    simp only [List.map_cons, Record.columns_restored, Record.values_restored,
      Insert.rowsUnder_restored]
    cases Insert.rowsUnder first.columns 1 rest <;> rfl

/-- A payload that was stored can be read, and it comes back as one record exactly
if it was one. It has the same records in the same order, each with the same columns
in the same order, repeated ones too, and at each place what comes back of the value
there. To insert it is to insert what comes back of each cell: there is nothing to
insert exactly if there was nothing, an error is the same error, and an insert has
the same table, the same columns and rows of the same lengths. -/
theorem payload_comes_back (payload : Payload) :
    ∃ again, decode? payload.encode = some again ∧ payload.SameShape again ∧
      again.records.map Record.columns = payload.records.map Record.columns ∧
      again.records.map Record.values =
        payload.records.map (fun record => record.values.map Value.restored) ∧
      ∀ table, Insert.compile table again =
        (Insert.compile table payload).map (Option.map Insert.restored) := by
  refine ⟨payload.restored, payload.decode?_encode, ?_, ?_, ?_,
    fun table => compile_restored table payload⟩
  · cases payload <;> trivial
  · simp [Function.comp_def]
  · simp [Function.comp_def]

/-- A batch of one record that has one column does not come back as that record. -/
example :
    decode? (encode (.batch [⟨[("at", .uint 5)]⟩])) = some (.batch [⟨[("at", .int 5)]⟩]) := by
  rfl

end Payload

end BoundSql
