import BoundSql.Record.Basic
import BoundSql.Proofs.Mapping
import BoundSql.Proofs.Text.ByteOrder
import Mathlib.Data.List.Nodup

/-!
# Sorted records

Sorting a record moves its columns and changes nothing else. If no column is
repeated, the sorted columns ascend strictly in the order of their bytes, every
column keeps its value, and the order in which the columns were given leaves no
trace: what is sorted depends on the set of the columns with their values only.
-/

namespace BoundSql.Record

/-- Sorting only moves columns: none is lost, none is added, and repeated ones stay repeated. -/
theorem sorted_perm (record : Record) : record.sorted.fields.Perm record.fields :=
  List.mergeSort_perm _ _

/-- The sorted record has the same names. -/
theorem columns_sorted_perm (record : Record) : record.sorted.columns.Perm record.columns :=
  record.sorted_perm.map Prod.fst

/-- A record has a column exactly if it has it sorted. -/
theorem mem_columns_sorted {record : Record} {column : String} :
    column ∈ record.sorted.columns ↔ column ∈ record.columns :=
  record.columns_sorted_perm.mem_iff

/-- There are as many values as names. -/
theorem length_values (record : Record) : record.values.length = record.columns.length := by
  simp [values, columns]

/-- The sorted names ascend; equal ones may stand beside each other. -/
theorem columns_sorted_pairwise (record : Record) :
    record.sorted.columns.Pairwise (· ≤ ·) := by
  have ordered : record.sorted.fields.Pairwise
      fun first second => decide (first.1 ≤ second.1) = true :=
    List.pairwise_mergeSort
      (fun first second third => by simpa using fun here => String.le_trans here)
      (fun first second => by simpa using String.le_total first.1 second.1) record.fields
  exact List.pairwise_map.mpr (ordered.imp fun before => of_decide_eq_true before)

/-- Distinct names ascend strictly when they are sorted. The order is that of their bytes, which
is the order of the texts. -/
theorem columns_sorted_ascending {record : Record} (distinct : record.columns.Nodup) :
    record.sorted.columns.Pairwise fun first second => Text.bytes first < Text.bytes second := by
  have apart : record.sorted.columns.Nodup := record.columns_sorted_perm.nodup_iff.mpr distinct
  refine (record.columns_sorted_pairwise.and apart).imp ?_
  rintro first second ⟨ordered, different⟩
  exact Text.lt_iff_bytes_lt.mp (Std.lt_of_le_of_ne ordered different)

/-- Every column keeps its value when distinct names are sorted, because what is found does not
depend on the order then. -/
theorem get?_sorted {record : Record} (distinct : record.columns.Nodup) (column : String) :
    record.sorted.get? column = record.get? column :=
  (Mapping.lookup_eq_of_perm distinct record.sorted_perm.symm column).symm

/-- Ascending names are determined by which they are. Two ascending rows of the same names are
one row. -/
theorem columns_sorted_eq_iff {first second : Record} (distinct : first.columns.Nodup)
    (alsoDistinct : second.columns.Nodup) :
    first.sorted.columns = second.sorted.columns ↔
      ∀ column, column ∈ first.columns ↔ column ∈ second.columns := by
  constructor
  · intro same column
    rw [← mem_columns_sorted, same, mem_columns_sorted]
  · intro alike
    have perm : first.columns.Perm second.columns :=
      (List.perm_ext_iff_of_nodup distinct alsoDistinct).mpr alike
    have sortedPerm : first.sorted.columns.Perm second.sorted.columns :=
      first.columns_sorted_perm.trans (perm.trans second.columns_sorted_perm.symm)
    exact sortedPerm.eq_of_pairwise (fun _ _ _ _ => String.le_antisymm)
      first.columns_sorted_pairwise second.columns_sorted_pairwise

/-- Records with the same columns in another order are the same when they are
sorted. -/
theorem sorted_eq_of_perm {first second : Record} (distinct : first.columns.Nodup)
    (same : first.fields.Perm second.fields) : first.sorted = second.sorted := by
  have moved : first.sorted.fields.Perm second.sorted.fields :=
    first.sorted_perm.trans (same.trans second.sorted_perm.symm)
  have apart : (first.sorted.fields.map (·.1)).Nodup :=
    first.columns_sorted_perm.nodup_iff.mpr distinct
  -- Two columns that are not in order either way have one name, so they are one column.
  have settled : ∀ pair ∈ first.sorted.fields, ∀ other ∈ second.sorted.fields,
      pair.1 ≤ other.1 → other.1 ≤ pair.1 → pair = other := by
    intro pair member other position before behind
    have position : other ∈ first.sorted.fields := moved.mem_iff.mpr position
    exact List.inj_on_of_nodup_map apart member position (String.le_antisymm before behind)
  have ascending : first.sorted.fields.Pairwise fun pair other => pair.1 ≤ other.1 :=
    List.pairwise_map.mp first.columns_sorted_pairwise
  have fields : first.sorted.fields = second.sorted.fields :=
    moved.eq_of_pairwise (fun pair other member position => settled pair member other position)
      ascending (List.pairwise_map.mp second.columns_sorted_pairwise)
  exact congrArg Record.mk fields

/-- What is sorted stays as it is, repeated names included. -/
theorem sorted_sorted (record : Record) : record.sorted.sorted = record.sorted := by
  have ascending : record.sorted.fields.Pairwise
      fun first second => decide (first.1 ≤ second.1) = true :=
    (List.pairwise_map.mp record.columns_sorted_pairwise).imp fun before => decide_eq_true before
  exact congrArg Record.mk (List.mergeSort_of_pairwise ascending)

/-- Records are the same when they are sorted exactly if every column has the
same value in both. -/
theorem sorted_eq_iff {first second : Record} (distinct : first.columns.Nodup)
    (alsoDistinct : second.columns.Nodup) :
    first.sorted = second.sorted ↔ ∀ column, first.get? column = second.get? column := by
  constructor
  · intro same column
    rw [← get?_sorted distinct, same, get?_sorted alsoDistinct]
  · intro alike
    have members : ∀ field, field ∈ first.fields ↔ field ∈ second.fields := by
      rintro ⟨column, value⟩
      rw [← Mapping.lookup_eq_some_iff_mem distinct, ← Mapping.lookup_eq_some_iff_mem alsoDistinct]
      exact Eq.congr_left (alike column)
    exact sorted_eq_of_perm distinct
      ((List.perm_ext_iff_of_nodup (.of_map _ distinct) (.of_map _ alsoDistinct)).mpr members)

/-- The values of distinct columns stand in the order of their names. -/
theorem values_getElem? {record : Record} (distinct : record.columns.Nodup) {place : Nat}
    {column : String} (named : record.columns[place]? = some column) :
    record.values[place]? = record.get? column := by
  rw [columns, List.getElem?_map] at named
  obtain ⟨⟨name, value⟩, listed, rfl⟩ := Option.map_eq_some_iff.mp named
  have paired : (name, value) ∈ record.fields := List.mem_of_getElem? listed
  rw [get?, (Mapping.lookup_eq_some_iff_mem distinct).mpr paired, values, List.getElem?_map, listed,
    Option.map_some]

end BoundSql.Record
