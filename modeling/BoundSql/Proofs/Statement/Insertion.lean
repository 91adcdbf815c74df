import BoundSql.Proofs.Record.Sorted
import BoundSql.Statement.Insert
import Mathlib.Data.List.Forall2
import Mathlib.Data.List.Permutation

/-!
# What an insert holds

An insert takes the names off its rows, so it rests on their order that every
value is still under its column. The main statement says so for all payloads
whose records repeat no column: no record is lost, added or moved, no cell
stands under another column, and there is no insert exactly if nothing is given
or two records differ in their columns. How a record orders its columns, and
records that have none, make no difference.

A record that repeats a column is outside: it can be read from its stored form,
but neither place is then the column's own.
-/

namespace BoundSql

namespace Record

/-- Records that have the same columns, in whatever order and however often. -/
def SameColumns (first second : Record) : Prop :=
  ∀ column, column ∈ first.columns ↔ column ∈ second.columns

/-- A row that holds a record's values under given columns: it is as long as
they are, and at the place of each column is the value the record has for it. -/
def LiesUnder (columns : List String) (record : Record) (row : List Value) : Prop :=
  row.length = columns.length ∧
    ∀ (place : Nat) (column : String), columns[place]? = some column →
      row[place]? = record.get? column

/-- The values of a sorted record lie under its sorted columns. With a repeated column they
would not: only the first of its values is found. -/
theorem liesUnder_sorted {record : Record} (distinct : record.columns.Nodup) :
    record.LiesUnder record.sorted.columns record.sorted.values := by
  have apart : record.sorted.columns.Nodup := record.columns_sorted_perm.nodup_iff.mpr distinct
  refine ⟨record.sorted.length_values, ?_⟩
  intro place column named
  rw [values_getElem? apart named, get?_sorted distinct]

end Record

namespace Insert

/-- An insert into a table that holds exactly these records: their columns once
for all, in ascending order of their bytes, and for each record, in order, the
row of its values. -/
structure Arranges (insert : Insert) (table : String) (records : List Record) : Prop where
  /-- It is for that table. -/
  table_eq : insert.table = table
  /-- The columns ascend strictly. -/
  ascending : insert.columns.Pairwise fun first second => Text.bytes first < Text.bytes second
  /-- They are the columns of every record. -/
  shared : ∀ record ∈ records, ∀ column, column ∈ insert.columns ↔ column ∈ record.columns
  /-- The rows are the records, one by one. -/
  rows : List.Forall₂ (Record.LiesUnder insert.columns) records insert.rows

/-! ## Rows under given columns -/

/-- Records that all have the given columns are rows. -/
theorem rowsUnder_of_shared {columns : List String} {index : Nat} {records : List Record}
    (shared : ∀ record ∈ records, record.columns = columns) :
    rowsUnder columns index records = .ok (records.map Record.values) := by
  induction records generalizing index with
  | nil => rfl
  | cons record rest inductionHypothesis =>
    obtain ⟨here, later⟩ := List.forall_mem_cons.mp shared
    rw [rowsUnder, if_pos here, inductionHypothesis later]
    rfl

/-- One record with other columns is an error, wherever it stands. Which record is reported is
left open. -/
theorem rowsUnder_of_other {columns : List String} {index : Nat} {records : List Record}
    (other : ∃ record ∈ records, record.columns ≠ columns) :
    ∃ place found,
      rowsUnder columns index records = .error (.otherColumns place found columns) := by
  induction records generalizing index with
  | nil => simp at other
  | cons record rest inductionHypothesis =>
    by_cases here : record.columns = columns
    · obtain ⟨strange, member, different⟩ := other
      have later : strange ∈ rest := by
        rcases List.mem_cons.mp member with rfl | later
        · exact absurd here different
        · exact later
      obtain ⟨place, found, refused⟩ := @inductionHypothesis (index + 1)
        ⟨strange, later, different⟩
      refine ⟨place, found, ?_⟩
      rw [rowsUnder, if_pos here, refused]
      rfl
    · exact ⟨index, record.columns, by rw [rowsUnder, if_neg here]⟩

/-! ## Compiling by the rows of a payload -/

/-- A payload without rows is nothing to insert. -/
theorem compile_of_nothing {table : String} {payload : Payload} (nothing : payload.rows = []) :
    compile table payload = .ok none := by
  simp [compile, nothing]

/-- What is compiled depends on the sorted rows only, and not on records without columns or on
the shape of the payload. -/
theorem compile_congr {table : String} {payload other : Payload}
    (same : payload.rows.map Record.sorted = other.rows.map Record.sorted) :
    compile table payload = compile table other := by
  unfold compile
  rw [same]

/-- Rows that have the same columns are inserted. -/
theorem compile_of_alike {table : String} {payload : Payload} {first : Record}
    {rest : List Record} (rows : payload.rows = first :: rest)
    (alike : ∀ record ∈ rest, record.sorted.columns = first.sorted.columns) :
    compile table payload = .ok (some ⟨table, first.sorted.columns,
      (first :: rest).map fun record => record.sorted.values⟩) := by
  have shared : ∀ record ∈ rest.map Record.sorted, record.columns = first.sorted.columns := by
    simpa using alike
  unfold compile
  rw [rows, List.map_cons]
  simp only [rowsUnder_of_shared shared]
  simp [Function.comp_def, pure, Except.pure, bind, Except.bind]

/-- A row with other columns than the first one is an error. The first row is the measure, so
every difference between two rows shows as one from it. -/
theorem compile_of_unlike {table : String} {payload : Payload} {first : Record}
    {rest : List Record} (rows : payload.rows = first :: rest)
    (unlike : ∃ record ∈ rest, record.sorted.columns ≠ first.sorted.columns) :
    ∃ place found expected,
      compile table payload = .error (.otherColumns place found expected) := by
  have other : ∃ record ∈ rest.map Record.sorted, record.columns ≠ first.sorted.columns := by
    simpa using unlike
  obtain ⟨place, found, refused⟩ := @rowsUnder_of_other _ 1 _ other
  refine ⟨place, found, first.sorted.columns, ?_⟩
  unfold compile
  rw [rows, List.map_cons]
  simp only [refused]
  rfl

/-- An insert is made of rows that have the same columns when they are sorted. -/
theorem rows_of_compiled {table : String} {payload : Payload} {insert : Insert}
    (compiled : compile table payload = .ok (some insert)) :
    insert.rows = payload.rows.map (fun record => record.sorted.values) ∧
      ∀ record ∈ payload.rows, record.sorted.columns = insert.columns := by
  cases rows : payload.rows with
  | nil =>
    rw [compile_of_nothing rows] at compiled
    cases compiled
  | cons first rest =>
    by_cases alike : ∀ record ∈ rest, record.sorted.columns = first.sorted.columns
    · rw [compile_of_alike rows alike] at compiled
      cases compiled
      exact ⟨rfl, List.forall_mem_cons.mpr ⟨rfl, alike⟩⟩
    · have unlike : ∃ record ∈ rest, record.sorted.columns ≠ first.sorted.columns := by
        simpa using alike
      obtain ⟨place, found, expected, refused⟩ := @compile_of_unlike table _ _ _ rows unlike
      rw [refused] at compiled
      cases compiled

/-- Every row of an insert is as long as its columns, even if a record repeats one. Nothing is
assumed of the records. -/
theorem length_row_of_compiled {table : String} {payload : Payload} {insert : Insert}
    (compiled : compile table payload = .ok (some insert)) :
    ∀ row ∈ insert.rows, row.length = insert.columns.length := by
  obtain ⟨rows, alike⟩ := rows_of_compiled compiled
  rw [rows]
  intro row listed
  obtain ⟨record, member, rfl⟩ := List.mem_map.mp listed
  rw [Record.length_values, alike record member]

/-- An insert repeats a column exactly if its records do. -/
theorem nodup_columns_of_compiled {table : String} {payload : Payload} {insert : Insert}
    (compiled : compile table payload = .ok (some insert)) :
    ∀ record ∈ payload.rows, (insert.columns.Nodup ↔ record.columns.Nodup) := by
  intro record member
  rw [← (rows_of_compiled compiled).2 record member]
  exact record.columns_sorted_perm.nodup_iff

/-- The rows of records whose columns only stand in another order are the same
when they are sorted. -/
theorem map_sorted_rows {records others : List Record}
    (distinct : ∀ record ∈ records, record.columns.Nodup)
    (moved : List.Forall₂ (fun record other => record.fields.Perm other.fields) records others) :
    (records.filter (!·.isEmpty)).map Record.sorted =
      (others.filter (!·.isEmpty)).map Record.sorted := by
  induction moved with
  | nil => rfl
  | @cons record other rest remaining here _ inductionHypothesis =>
    obtain ⟨apart, later⟩ := List.forall_mem_cons.mp distinct
    have sorted : record.sorted = other.sorted := Record.sorted_eq_of_perm apart here
    have empty : record.isEmpty = other.isEmpty := here.isEmpty_eq
    rw [List.filter_cons, List.filter_cons, empty]
    split
    · rw [List.map_cons, List.map_cons, sorted, inductionHypothesis later]
    · exact inductionHypothesis later

/-- The insert of rows with the same columns holds exactly these rows. -/
theorem arranges_of_alike {table : String} {first : Record} {rest : List Record}
    (distinct : ∀ record ∈ first :: rest, record.columns.Nodup)
    (alike : ∀ record ∈ first :: rest, record.sorted.columns = first.sorted.columns) :
    Arranges ⟨table, first.sorted.columns,
      (first :: rest).map fun record => record.sorted.values⟩ table (first :: rest) where
  table_eq := rfl
  ascending := Record.columns_sorted_ascending (distinct first List.mem_cons_self)
  shared record member column := by
    rw [← alike record member]
    exact Record.mem_columns_sorted
  rows := by
    rw [List.forall₂_map_right_iff, List.forall₂_same]
    intro record member
    have under := Record.liesUnder_sorted (distinct record member)
    rwa [alike record member] at under

/-- There are three outcomes: nothing to insert, an insert that holds the rows,
or an error for two rows that differ in their columns. -/
theorem compile_outcome (table : String) {payload : Payload}
    (distinct : ∀ record ∈ payload.rows, record.columns.Nodup) :
    (payload.rows = [] ∧ compile table payload = .ok none) ∨
      (payload.rows ≠ [] ∧
        (∀ first ∈ payload.rows, ∀ second ∈ payload.rows, first.SameColumns second) ∧
        ∃ insert, compile table payload = .ok (some insert) ∧
          insert.Arranges table payload.rows) ∨
      (∃ first ∈ payload.rows, ∃ second ∈ payload.rows, ¬first.SameColumns second) ∧
        ∃ place found expected,
          compile table payload = .error (.otherColumns place found expected) := by
  cases rows : payload.rows with
  | nil => exact Or.inl ⟨rfl, compile_of_nothing rows⟩
  | cons first rest =>
    rw [rows] at distinct
    have sameIff : ∀ record ∈ first :: rest, ∀ other ∈ first :: rest,
        (record.SameColumns other ↔ record.sorted.columns = other.sorted.columns) :=
      fun record member other position =>
        (Record.columns_sorted_eq_iff (distinct record member) (distinct other position)).symm
    by_cases alike : ∀ record ∈ rest, record.sorted.columns = first.sorted.columns
    · have all : ∀ record ∈ first :: rest, record.sorted.columns = first.sorted.columns :=
        List.forall_mem_cons.mpr ⟨rfl, alike⟩
      refine Or.inr (Or.inl ⟨List.cons_ne_nil _ _, ?_, _, compile_of_alike rows alike,
        arranges_of_alike distinct all⟩)
      intro record member other position
      rw [sameIff record member other position, all record member, all other position]
    · have unlike : ∃ record ∈ rest, record.sorted.columns ≠ first.sorted.columns := by
        simpa using alike
      refine Or.inr (Or.inr ⟨?_, compile_of_unlike rows unlike⟩)
      obtain ⟨record, later, different⟩ := unlike
      have member : record ∈ first :: rest := List.mem_cons_of_mem first later
      refine ⟨record, member, first, List.mem_cons_self, ?_⟩
      rwa [sameIff record member first List.mem_cons_self]

/-- An insert neither loses nor moves a value. Of a payload whose records repeat
no column, only the records that have columns count. Without any there is
nothing to insert; if two of them have different columns there is an error; and
otherwise there is an insert, which holds them one by one under their columns.

The order of columns in a record makes no difference to this, nor do records
without columns wherever they stand, nor whether a single record comes alone or
as a batch.

Proof: the first row gives the columns. Either all others have the same ones
when they are sorted, or one of them has not. Sorted names are equal exactly if
the sets of names are, and the same columns in another order are sorted alike. -/
theorem compile_arranges (table : String) (payload : Payload)
    (distinct : ∀ record ∈ payload.records, record.columns.Nodup) :
    let given := payload.records.filter (!·.isEmpty)
    (compile table payload = .ok none ↔ given = []) ∧
      ((∃ place found expected,
          compile table payload = .error (.otherColumns place found expected)) ↔
        ∃ first ∈ given, ∃ second ∈ given, ¬first.SameColumns second) ∧
      ((∃ insert, compile table payload = .ok (some insert) ∧ insert.Arranges table given) ↔
        given ≠ [] ∧ ∀ first ∈ given, ∀ second ∈ given, first.SameColumns second) ∧
      (∀ other : Payload,
        List.Forall₂ (fun record moved => record.fields.Perm moved.fields)
          payload.records other.records →
        compile table other = compile table payload) ∧
      (∀ front back, payload.records = front ++ back →
        compile table (.batch (front ++ Record.empty :: back)) = compile table payload) ∧
      ∀ record, compile table (.single record) = compile table (.batch [record]) := by
  intro given
  have apart : ∀ record ∈ given, record.columns.Nodup :=
    fun record member => distinct record (List.mem_of_mem_filter member)
  have rearranged : ∀ other : Payload,
      List.Forall₂ (fun record moved => record.fields.Perm moved.fields)
          payload.records other.records →
        compile table other = compile table payload := fun other moved =>
    compile_congr (map_sorted_rows distinct moved).symm
  have padded : ∀ front back, payload.records = front ++ back →
      compile table (.batch (front ++ Record.empty :: back)) = compile table payload := by
    intro front back parts
    have rows : (Payload.batch (front ++ Record.empty :: back)).rows = payload.rows := by
      rw [Payload.rows, Payload.rows, parts]
      simp [Payload.records, Record.empty, Record.isEmpty]
    exact compile_congr (by rw [rows])
  have single : ∀ record, compile table (.single record) = compile table (.batch [record]) :=
    fun record => rfl
  obtain ⟨nothing, done⟩ | ⟨some, alike, insert, done, arranged⟩ |
    ⟨⟨first, member, second, position, unlike⟩, place, found, expected, refused⟩ :=
      compile_outcome table apart
  · have empty : given = [] := nothing
    refine ⟨?_, ?_, ?_, rearranged, padded, single⟩
    · exact iff_of_true done nothing
    · simp [empty, done]
    · simp [empty, done]
  · refine ⟨?_, ?_, ?_, rearranged, padded, single⟩
    · exact iff_of_false (by simp [done]) some
    · refine iff_of_false (by simp [done]) ?_
      rintro ⟨first, member, second, position, unlike⟩
      exact unlike (alike first member second position)
    · exact iff_of_true ⟨insert, done, arranged⟩ ⟨some, alike⟩
  · refine ⟨?_, ?_, ?_, rearranged, padded, single⟩
    · exact iff_of_false (by simp [refused]) (List.ne_nil_of_mem member)
    · exact iff_of_true ⟨place, found, expected, refused⟩ ⟨first, member, second, position, unlike⟩
    · refine iff_of_false ?_ fun all => unlike (all.2 first member second position)
      rintro ⟨insert, done, -⟩
      rw [refused] at done
      cases done

/-- Two records that order their columns differently, with one without columns
between them, make two rows. With another column in the last one there is an
error. -/
theorem compile_arranges_of_batch :
    let visit : Record := ⟨[("user", .string "ann"), ("at", .int 3)]⟩
    let turned : Record := ⟨[("at", .int 5), ("user", .null)]⟩
    let other : Record := ⟨[("at", .int 7), ("guest", .null)]⟩
    let insert : Insert :=
      ⟨"visits", ["at", "user"], [[.int 3, .string "ann"], [.int 5, .null]]⟩
    (∀ record ∈ (Payload.batch [visit, .empty, turned]).records, record.columns.Nodup) ∧
      compile "visits" (.batch [visit, .empty, turned]) = .ok (some insert) ∧
      insert.Arranges "visits" [visit, turned] ∧
      (∀ record ∈ (Payload.batch [visit, .empty, other]).records, record.columns.Nodup) ∧
      ∃ place found expected, compile "visits" (.batch [visit, .empty, other]) =
        .error (.otherColumns place found expected) := by
  intro visit turned other insert
  have distinct : ∀ record ∈ (Payload.batch [visit, .empty, turned]).records,
      record.columns.Nodup := by decide
  have alsoDistinct : ∀ record ∈ (Payload.batch [visit, .empty, other]).records,
      record.columns.Nodup := by decide
  have computed : compile "visits" (.batch [visit, .empty, turned]) = .ok (some insert) := by cbv
  have alike : ∀ record ∈ [visit, turned], ∀ moved ∈ [visit, turned], record.SameColumns moved := by
    simp [Record.SameColumns, Record.columns, visit, turned, exists_or, or_comm]
  obtain ⟨made, done, arranged⟩ :=
    (compile_arranges "visits" _ distinct).2.2.1.mpr ⟨List.cons_ne_nil visit [turned], alike⟩
  obtain rfl : insert = made := Option.some.inj (Except.ok.inj (computed.symm.trans done))
  refine ⟨distinct, computed, arranged, alsoDistinct, ?_⟩
  refine (compile_arranges "visits" _ alsoDistinct).2.1.mpr ?_
  refine ⟨visit, List.mem_cons_self, other, List.mem_cons_of_mem visit List.mem_cons_self, ?_⟩
  intro same
  simpa [Record.columns, visit, other] using same "guest"

end Insert

end BoundSql
