import BoundSql.Proofs.Record.Gathered
import BoundSql.Proofs.Value.Decoding

/-!
# Inserting objects

An object is inserted as one row and an array of objects as one row for each. The
trees pass three gates on the way: they must be objects, nothing under their keys
may hold another object, and those that have keys must have the same ones. All
objects pass the first two gates before the third is looked at for any. The main
statement says which trees stop where, and that of the others every member arrives
as it is, in the row of its object and under its key.

An object with a repeated key counts with the last member of that key, as it does
wherever an object is read as a mapping.
-/

namespace BoundSql

namespace Json

/-- A tree gives objects as rows: it is the only one of them, or an array of them. -/
inductive GivesRows : Json → List (List (String × Json)) → Prop
  | single (members : List (String × Json)) : GivesRows (.object members) [members]
  | batch (objects : List (List (String × Json))) :
      GivesRows (.array (objects.map .object)) objects

/-- Members that can be columns: in none of them stands an object, at any depth. -/
def AreFlat (members : List (String × Json)) : Prop :=
  ∀ member ∈ members, member.2.isObjectFree = true

/-- Objects that have the same keys, in whatever order and however often. -/
def SameKeys (first second : List (String × Json)) : Prop :=
  ∀ key, key ∈ first.map (·.1) ↔ key ∈ second.map (·.1)

/-- A tree gives its rows in one way only. A single object and an array are never the same tree. -/
theorem GivesRows.unique {json : Json} {objects others : List (List (String × Json))}
    (given : json.GivesRows objects) (also : json.GivesRows others) : objects = others := by
  cases given with
  | single members =>
    cases also
    rfl
  | batch objects =>
    generalize same : Json.array (objects.map .object) = json at also
    cases also with
    | single members => cases same
    | batch others =>
      have injective : Function.Injective Json.object := fun _ _ => Json.object.inj
      exact List.map_injective_iff.mpr injective (Json.array.inj same)

end Json

namespace Record

/-! ## Objects as records -/

/-- A record is made of an object: its columns were set in the order of the members, each to a
value of which drivers are handed the member itself. -/
def MadeOf (record : Record) (members : List (String × Json)) : Prop :=
  ∃ fields, record = ofList fields ∧ members = fields.map fun field => (field.1, field.2.toJson)

/-- A member that is a column is flat, and it is what drivers are handed of the
column's value. -/
theorem flat_of_columnOfMember {member : String × Json} {field : String × Value}
    (read : columnOfMember member = .ok field) :
    member.2.isObjectFree = true ∧ member = (field.1, field.2.toJson) := by
  obtain ⟨value, taken, rfl⟩ := exists_of_map_eq_ok read
  obtain ⟨free, same⟩ := Value.mirrors_of_taken taken
  exact ⟨free, congrArg (Prod.mk member.1) same.handed.symm⟩

/-- An object that is a record is flat, and the record is made of it. -/
theorem madeOf_of_ofMembers {members : List (String × Json)} {record : Record}
    (made : ofMembers members = .ok record) : Json.AreFlat members ∧ record.MadeOf members := by
  obtain ⟨fields, read, rfl⟩ := exists_of_map_eq_ok made
  have each := forall₂_of_mapM_eq_ok read
  suffices flat : Json.AreFlat members ∧
      members = fields.map fun field => (field.1, field.2.toJson) from
    ⟨flat.1, fields, rfl, flat.2⟩
  clear read made
  induction each with
  | nil => exact ⟨fun _ impossible => absurd impossible List.not_mem_nil, rfl⟩
  | cons here _ inductionHypothesis =>
    obtain ⟨free, same⟩ := flat_of_columnOfMember here
    obtain ⟨others, rest⟩ := inductionHypothesis
    refine ⟨List.forall_mem_cons.mpr ⟨free, others⟩, ?_⟩
    rw [List.map_cons, ← same, ← rest]

/-- An object that is no record is not flat: the value that was refused has an object in it. -/
theorem not_flat_of_ofMembers {members : List (String × Json)} {error : ValueError}
    (refused : ofMembers members = .error error) : ¬ Json.AreFlat members := by
  intro flat
  cases read : members.mapM columnOfMember with
  | ok fields =>
    rw [ofMembers, read] at refused
    cases refused
  | error other =>
    obtain ⟨member, position, found⟩ := exists_mem_of_mapM_eq_error read
    cases taken : Value.ofJson member.2 with
    | ok value =>
      rw [columnOfMember, taken] at found
      cases found
    | error strange =>
      exact Bool.false_ne_true ((Value.object_of_refused taken).symm.trans (flat member position))

namespace MadeOf

variable {record : Record} {members : List (String × Json)}

/-- No column is repeated, even if a key is. -/
theorem nodup_columns (made : record.MadeOf members) : record.columns.Nodup := by
  obtain ⟨fields, rfl, -⟩ := made
  exact nodup_columns_ofList fields

/-- The columns are the keys, each of them once. -/
theorem mem_columns (made : record.MadeOf members) (column : String) :
    column ∈ record.columns ↔ column ∈ members.map (·.1) := by
  obtain ⟨fields, rfl, rfl⟩ := made
  rw [columns_ofList, List.mem_eraseDups, List.map_map]
  rfl

/-- There are columns exactly if there are members. -/
theorem isEmpty_eq (made : record.MadeOf members) : record.isEmpty = members.isEmpty := by
  rw [Bool.eq_iff_iff, isEmpty, List.isEmpty_iff, List.isEmpty_iff]
  have columns : record.columns = [] ↔ members.map (·.1) = [] := by
    rw [List.eq_nil_iff_forall_not_mem, List.eq_nil_iff_forall_not_mem]
    exact forall_congr' fun column => not_congr (made.mem_columns column)
  simpa [Record.columns] using columns

/-- What drivers are handed of a column's value is the last member under its name. Earlier
members of that name leave no trace. -/
theorem map_toJson_get? (made : record.MadeOf members) (column : String) :
    (record.get? column).map Value.toJson = members.reverse.lookup column := by
  obtain ⟨fields, rfl, rfl⟩ := made
  rw [get?_ofList, ← List.map_reverse]
  induction fields.reverse with
  | nil => rfl
  | cons field rest inductionHypothesis =>
    rw [List.map_cons, List.lookup_cons, List.lookup_cons]
    cases column == field.1 with
    | true => rfl
    | false => exact inductionHypothesis

/-- Records have the same columns exactly if they are made of objects with the same keys. -/
theorem sameColumns_iff {other : Record} {others : List (String × Json)}
    (made : record.MadeOf members) (also : other.MadeOf others) :
    record.SameColumns other ↔ Json.SameKeys members others :=
  forall_congr' fun column => by rw [made.mem_columns, also.mem_columns]

end MadeOf

end Record

/-! ## Trees as payloads -/

namespace Payload

/-- A tree that is a payload gives flat objects as rows, and the records are made of them. -/
theorem madeOf_of_ofJson {json : Json} {payload : Payload} (made : ofJson json = .ok payload) :
    ∃ objects, json.GivesRows objects ∧ (∀ members ∈ objects, Json.AreFlat members) ∧
      List.Forall₂ Record.MadeOf payload.records objects := by
  unfold ofJson at made
  split at made
  · rename_i members
    obtain ⟨record, single, rfl⟩ := exists_of_map_eq_ok made
    obtain ⟨flat, madeOf⟩ := Record.madeOf_of_ofMembers single
    exact ⟨[members], .single members, List.forall_mem_singleton.mpr flat, .cons madeOf .nil⟩
  · rename_i items
    obtain ⟨records, batch, rfl⟩ := exists_of_map_eq_ok made
    have each := forall₂_of_mapM_eq_ok batch
    suffices objects : ∃ objects, items = objects.map Json.object ∧
        (∀ members ∈ objects, Json.AreFlat members) ∧
          List.Forall₂ Record.MadeOf records objects by
      obtain ⟨objects, rfl, flat, madeOf⟩ := objects
      exact ⟨objects, .batch objects, flat, madeOf⟩
    clear batch made
    induction each with
    | nil => exact ⟨[], rfl, fun _ impossible => absurd impossible List.not_mem_nil, .nil⟩
    | cons here _ inductionHypothesis =>
      obtain ⟨objects, rfl, flat, madeOf⟩ := inductionHypothesis
      unfold recordOfJson at here
      split at here
      · rename_i members
        obtain ⟨flatHere, madeHere⟩ := Record.madeOf_of_ofMembers here
        exact ⟨members :: objects, rfl, List.forall_mem_cons.mpr ⟨flatHere, flat⟩,
          .cons madeHere madeOf⟩
      · cases here
  · cases made

/-- Of a tree that is no payload, one of the rows that it gives is not flat. -/
theorem not_flat_of_ofJson {json : Json} {error : ValueError} (refused : ofJson json = .error error)
    {objects : List (List (String × Json))} (given : json.GivesRows objects) :
    ∃ members ∈ objects, ¬ Json.AreFlat members := by
  cases given with
  | single members =>
    cases single : Record.ofMembers members with
    | ok record =>
      rw [ofJson, single] at refused
      cases refused
    | error other =>
      exact ⟨members, List.mem_singleton_self members, Record.not_flat_of_ofMembers single⟩
  | batch objects =>
    cases batch : (objects.map Json.object).mapM recordOfJson with
    | ok records =>
      rw [ofJson, batch] at refused
      cases refused
    | error other =>
      obtain ⟨item, position, found⟩ := exists_mem_of_mapM_eq_error batch
      obtain ⟨members, member, rfl⟩ := List.mem_map.mp position
      exact ⟨members, member, Record.not_flat_of_ofMembers found⟩

end Payload

namespace Insert

/-- A row that shows an object's members under given columns: it is as long as they are, and what
drivers are handed of the cell in a column's place is the object's member of that name. -/
def ShowsMembers (columns : List String) (members : List (String × Json)) (row : List Value) :
    Prop :=
  row.length = columns.length ∧
    ∀ (place : Nat) (column : String), columns[place]? = some column →
      ∃ value, row[place]? = some value ∧ members.reverse.lookup column = some value.toJson

/-- An insert into a table that shows exactly these objects: their keys once for all, in ascending
order of their bytes, and for each object, in order, the row of its members. -/
structure ShowsObjects (insert : Insert) (table : String) (objects : List (List (String × Json))) :
    Prop where
  /-- It is for that table. -/
  table_eq : insert.table = table
  /-- The columns ascend strictly. -/
  ascending : insert.columns.Pairwise fun first second => Text.bytes first < Text.bytes second
  /-- They are the keys of every object. -/
  shared : ∀ members ∈ objects, ∀ column, column ∈ insert.columns ↔ column ∈ members.map (·.1)
  /-- The rows are the objects, one by one. -/
  rows : List.Forall₂ (ShowsMembers insert.columns) objects insert.rows

/-- A row that holds a record's values shows the object of which the record is made. -/
theorem showsMembers_of_liesUnder {columns : List String} {record : Record} {row : List Value}
    {members : List (String × Json)} (made : record.MadeOf members)
    (lies : record.LiesUnder columns row) : ShowsMembers columns members row := by
  obtain ⟨length, cells⟩ := lies
  refine ⟨length, fun place column named => ?_⟩
  have below : place < row.length := by
    rw [length]
    exact (List.getElem?_eq_some_iff.mp named).1
  have cell : row[place]? = some row[place] := List.getElem?_eq_getElem below
  refine ⟨row[place], cell, ?_⟩
  rw [← made.map_toJson_get?, ← cells place column named, cell, Option.map_some]

/-- Rows that hold records show the objects of which the records are made. -/
theorem showsMembers_of_rows {columns : List String} {records : List Record}
    {objects : List (List (String × Json))} {rows : List (List Value)}
    (made : List.Forall₂ Record.MadeOf records objects)
    (lie : List.Forall₂ (Record.LiesUnder columns) records rows) :
    List.Forall₂ (ShowsMembers columns) objects rows := by
  induction made generalizing rows with
  | nil =>
    cases lie
    exact .nil
  | cons here _ inductionHypothesis =>
    cases lie with
    | cons lies others =>
      exact .cons (showsMembers_of_liesUnder here lies) (inductionHypothesis others)

/-- An insert that holds records shows the objects of which they are made. -/
theorem Arranges.showsObjects {insert : Insert} {table : String} {records : List Record}
    {objects : List (List (String × Json))} (arranged : insert.Arranges table records)
    (made : List.Forall₂ Record.MadeOf records objects) : insert.ShowsObjects table objects where
  table_eq := arranged.table_eq
  ascending := arranged.ascending
  shared members member column := by
    obtain ⟨record, listed, madeOf⟩ := exists_of_mem made member
    rw [arranged.shared record listed, madeOf.mem_columns]
  rows := showsMembers_of_rows made arranged.rows

/-- The rows of a payload are made of the objects that have members. -/
theorem madeOf_rows {payload : Payload} {objects : List (List (String × Json))}
    (made : List.Forall₂ Record.MadeOf payload.records objects) :
    List.Forall₂ Record.MadeOf payload.rows (objects.filter (!·.isEmpty)) := by
  refine List.rel_filter ?_ made
  intro record members here
  simp [here.isEmpty_eq]

/-- The outcomes of inserting flat objects, said of the objects instead of the records that are
made of them. -/
theorem compile_objects (table : String) {payload : Payload} {objects : List (List (String × Json))}
    (made : List.Forall₂ Record.MadeOf payload.records objects) :
    let given := objects.filter (!·.isEmpty)
    (given = [] ∧ compile table payload = .ok none) ∨
      (given ≠ [] ∧ (∀ first ∈ given, ∀ second ∈ given, Json.SameKeys first second) ∧
        ∃ insert, compile table payload = .ok (some insert) ∧ insert.ShowsObjects table given) ∨
      (∃ first ∈ given, ∃ second ∈ given, ¬ Json.SameKeys first second) ∧
        ∃ place found expected,
          compile table payload = .error (.otherColumns place found expected) := by
  intro given
  have rows : List.Forall₂ Record.MadeOf payload.rows given := madeOf_rows made
  have behind : ∀ members ∈ given, ∃ record ∈ payload.rows, record.MadeOf members :=
    fun _ member => exists_of_mem rows member
  have before : ∀ record ∈ payload.rows, ∃ members ∈ given, record.MadeOf members :=
    fun _ member => exists_of_mem rows.flip member
  have distinct : ∀ record ∈ payload.rows, record.columns.Nodup := by
    intro record member
    obtain ⟨members, -, madeOf⟩ := before record member
    exact madeOf.nodup_columns
  obtain ⟨nothing, done⟩ | ⟨some, alike, insert, done, arranged⟩ |
    ⟨⟨first, member, second, position, unlike⟩, refused⟩ := compile_outcome table distinct
  · rw [nothing] at rows
    exact Or.inl ⟨List.forall₂_nil_left_iff.mp rows, done⟩
  · refine Or.inr (Or.inl ⟨?_, ?_, insert, done, arranged.showsObjects rows⟩)
    · intro nothing
      rw [nothing] at rows
      exact some (List.forall₂_nil_right_iff.mp rows)
    · intro first member second position
      obtain ⟨record, listed, madeOf⟩ := behind first member
      obtain ⟨other, alsoListed, alsoMade⟩ := behind second position
      exact (madeOf.sameColumns_iff alsoMade).mp (alike record listed other alsoListed)
  · obtain ⟨members, listed, madeOf⟩ := before first member
    obtain ⟨others, alsoListed, alsoMade⟩ := before second position
    refine Or.inr (Or.inr ⟨⟨members, listed, others, alsoListed, ?_⟩, refused⟩)
    exact fun same => unlike ((madeOf.sameColumns_iff alsoMade).mpr same)

/-- A tree that is no payload is not inserted, and the error says what is wrong with the tree. -/
theorem compileJson_of_refused {table : String} {json : Json} {error : ValueError}
    (refused : Payload.ofJson json = .error error) :
    compileJson table json = .error (.payload error) := by
  rw [compileJson, refused]

/-- A tree that is a payload is inserted as that payload. -/
theorem compileJson_of_made {table : String} {json : Json} {payload : Payload}
    (made : Payload.ofJson json = .ok payload) :
    compileJson table json = compile table payload := by
  rw [compileJson, made]

/-- An object is inserted as an array of it alone is, also where it is refused or has no
members. -/
theorem compileJson_singleton (table : String) (members : List (String × Json)) :
    compileJson table (.array [.object members]) = compileJson table (.object members) := by
  cases single : Record.ofMembers members with
  | error error =>
    have alone : Payload.ofJson (.object members) = .error error := by
      rw [Payload.ofJson, single]
      rfl
    have listed : Payload.ofJson (.array [.object members]) = .error error := by
      rw [Payload.ofJson, List.mapM_cons, Payload.recordOfJson, single]
      rfl
    rw [compileJson_of_refused alone, compileJson_of_refused listed]
  | ok record =>
    have alone : Payload.ofJson (.object members) = .ok (.single record) := by
      rw [Payload.ofJson, single]
      rfl
    have listed : Payload.ofJson (.array [.object members]) = .ok (.batch [record]) := by
      rw [Payload.ofJson, List.mapM_cons, Payload.recordOfJson, single]
      rfl
    rw [compileJson_of_made alone, compileJson_of_made listed]
    rfl

/-- Which trees are inserted, and how. A tree that is neither an object nor an array
of objects is refused as a payload, and so is one with an object below one of its
keys, whatever the keys are. Of other trees only the objects that have members count.
Without any there is nothing to insert; if two of them have different keys there is
an error; and otherwise there is an insert that shows them one by one: drivers are
handed each member as it was given. An object comes to the same as an array of it
alone.

Proof: a member is a column exactly if no object stands in it, and then drivers are
handed the member again. So a tree is a payload exactly if it passes the first two
gates, and its records are made of its objects: they have the keys as their columns,
each once. What is known of payloads whose records repeat no column does the rest. -/
theorem compileJson_shows_objects (table : String) (json : Json) :
    ((∃ error, compileJson table json = .error (.payload error)) ↔
        (∀ objects, ¬ json.GivesRows objects) ∨
          ∃ objects, json.GivesRows objects ∧ ∃ members ∈ objects, ¬ Json.AreFlat members) ∧
      (∀ objects, json.GivesRows objects → (∀ members ∈ objects, Json.AreFlat members) →
        let given := objects.filter (!·.isEmpty)
        (compileJson table json = .ok none ↔ given = []) ∧
          ((∃ place found expected,
              compileJson table json = .error (.otherColumns place found expected)) ↔
            ∃ first ∈ given, ∃ second ∈ given, ¬ Json.SameKeys first second) ∧
          ((∃ insert, compileJson table json = .ok (some insert) ∧
              insert.ShowsObjects table given) ↔
            given ≠ [] ∧ ∀ first ∈ given, ∀ second ∈ given, Json.SameKeys first second)) ∧
      ∀ members : List (String × Json),
        compileJson table (.array [.object members]) = compileJson table (.object members) := by
  refine ⟨?_, ?_, compileJson_singleton table⟩
  · cases made : Payload.ofJson json with
    | error error =>
      refine iff_of_true ⟨error, compileJson_of_refused made⟩ ?_
      by_cases given : ∃ objects, json.GivesRows objects
      · obtain ⟨objects, given⟩ := given
        exact Or.inr ⟨objects, given, Payload.not_flat_of_ofJson made given⟩
      · exact Or.inl (not_exists.mp given)
    | ok payload =>
      obtain ⟨objects, given, flat, madeOf⟩ := Payload.madeOf_of_ofJson made
      rw [compileJson_of_made made]
      refine iff_of_false ?_ ?_
      · rintro ⟨error, refused⟩
        obtain ⟨-, done⟩ | ⟨-, -, insert, done, -⟩ | ⟨-, place, found, expected, done⟩ :=
          compile_objects table madeOf
        all_goals
          rw [done] at refused
          cases refused
      · rintro (none | ⟨others, also, members, member, deep⟩)
        · exact none objects given
        · obtain rfl := given.unique also
          exact deep (flat members member)
  · intro objects given flat kept
    cases made : Payload.ofJson json with
    | error error =>
      obtain ⟨members, member, deep⟩ := Payload.not_flat_of_ofJson made given
      exact absurd (flat members member) deep
    | ok payload =>
      obtain ⟨others, also, -, madeOf⟩ := Payload.madeOf_of_ofJson made
      obtain rfl := given.unique also
      rw [compileJson_of_made made]
      obtain ⟨nothing, done⟩ | ⟨some, alike, insert, done, shown⟩ |
        ⟨⟨first, member, second, position, unlike⟩, place, found, expected, refused⟩ :=
          compile_objects table madeOf
      · have empty : kept = [] := nothing
        simp [empty, done]
      · refine ⟨iff_of_false (by simp [done]) some, iff_of_false (by simp [done]) ?_,
          iff_of_true ⟨insert, done, shown⟩ ⟨some, alike⟩⟩
        exact fun ⟨first, member, second, position, unlike⟩ =>
          unlike (alike first member second position)
      · refine ⟨?_, ?_, ?_⟩
        · exact iff_of_false (by simp [refused]) (List.ne_nil_of_mem member)
        · exact iff_of_true ⟨place, found, expected, refused⟩
            ⟨first, member, second, position, unlike⟩
        · refine iff_of_false (by simp [refused]) ?_
          exact fun ⟨_, alike⟩ => unlike (alike first member second position)

end Insert

end BoundSql
