import BoundSql.Proofs.Record.Repetition

/-!
# Records as ordered maps

A record that is made by setting columns is a map that remembers an order. What it
has for a column is what was set last, and the columns stand where each was set
first. Sorting forgets the order and nothing else: sorted records are the same
exactly if they have the same values.

Records that were read from a stored form are outside. They may repeat a column,
and then the first place is found and not the last.
-/

namespace BoundSql.Record

/-- Columns are set as pairs are gathered. -/
theorem fields_ofList (fields : List (String × Value)) :
    (ofList fields).fields = Mapping.ofPairs fields := by
  induction fields using List.reverseRecOn with
  | nil => rfl
  | append_singleton earlier last inductionHypothesis =>
    rw [Mapping.ofPairs_concat, ← inductionHypothesis, ofList, List.foldl_append]
    rfl

/-- The value of a column is the one that was set last. A column that was never set has none. -/
theorem get?_ofList (fields : List (String × Value)) (column : String) :
    (ofList fields).get? column = fields.reverse.lookup column := by
  rw [get?, fields_ofList, Mapping.lookup_ofPairs]

/-- The columns stand where each was set first. -/
theorem columns_ofList (fields : List (String × Value)) :
    (ofList fields).columns = (fields.map (·.1)).eraseDups := by
  rw [columns, fields_ofList, Mapping.map_fst_ofPairs]

/-- The values of distinct columns are what is found under them, in their order. Of a repeated
column only the first value would be found. -/
theorem map_some_values {record : Record} (distinct : record.columns.Nodup) :
    record.values.map some = record.columns.map record.get? := by
  rw [values, columns, List.map_map, List.map_map]
  refine List.map_congr_left fun field member => ?_
  exact ((Mapping.lookup_eq_some_iff_mem distinct).mpr member).symm

/-- A record made by any number of calls that set a column is an ordered map of
them, and it makes no difference whether they come one by one or as a list of
pairs. Under each column is the value of the last call for it, and nothing under a
column without a call. The columns are those of the calls, each once, in the order
of their first calls, and the values are what is under them in this order.

Sorting changes what is found under no column. The columns then ascend strictly in
the order of their bytes, another sorting changes nothing, and the sorted form is
that of another record exactly if the two have the same value, or none, under
every column.

Proof: a call keeps the names that are there, and puts a new one behind them. The
rest follows from the names being distinct: what is found under one is then what
stands beside it, wherever the pair stands. -/
theorem calls_make_ordered_map (calls : List (String × Value)) :
    let record := run (calls.map fun call => .insert call.1 call.2) empty
    ofList calls = record ∧
      (∀ column, record.get? column = calls.reverse.lookup column) ∧
      record.columns = (calls.map (·.1)).eraseDups ∧ record.columns.Nodup ∧
      record.values.map some = record.columns.map record.get? ∧
      (∀ column, record.sorted.get? column = record.get? column) ∧
      (record.sorted.columns.Pairwise fun first second =>
        Text.bytes first < Text.bytes second) ∧
      record.sorted.sorted = record.sorted ∧
      ∀ others : List (String × Value),
        record.sorted = (ofList others).sorted ↔
          ∀ column, record.get? column = (ofList others).get? column := by
  intro record
  have made : ofList calls = record := ofList_eq_run calls
  have distinct : record.columns.Nodup := made ▸ nodup_columns_ofList calls
  refine ⟨made, ?_, ?_, distinct, map_some_values distinct, get?_sorted distinct,
    columns_sorted_ascending distinct, record.sorted_sorted, ?_⟩
  · exact made ▸ get?_ofList calls
  · exact made ▸ columns_ofList calls
  · exact fun others => sorted_eq_iff distinct (nodup_columns_ofList others)

/-- A column that is set again keeps its place and takes the new value. -/
example :
    ofList [("b", .int 1), ("a", .null), ("b", .bool true)] =
      ⟨[("b", .bool true), ("a", .null)]⟩ := by
  rfl

end BoundSql.Record
