import BoundSql.Proofs.Statement.Insertion
import BoundSql.Proofs.Value.Stored
import Mathlib.Data.Set.Card

/-!
# Repeated columns

A record is a list of named values, and nothing but the way it is made keeps a
name from standing in it twice. It is started from nothing, from pairs, from an
object or from a stored form, and then columns are set and sorted. These changes
neither repeat a name nor take a repetition away, so the start decides. All
starts set one column after another, except that a stored form is taken as it
is: the main statement says that a column is repeated exactly if the stored form
repeats it, and what that means to whoever counts columns or inserts the record.
-/

namespace BoundSql

/-! ## Reading one thing after another -/

section Traversal

variable {α β ε : Type}

/-- A list is read item by item, so what was read has the length and the order of the list. -/
theorem forall₂_of_mapM_eq_some {read : α → Option β} {items : List α} {things : List β}
    (all : items.mapM read = some things) :
    List.Forall₂ (fun item thing => read item = some thing) items things := by
  induction items generalizing things with
  | nil =>
    obtain rfl : [] = things := Option.some.inj all
    exact .nil
  | cons item rest inductionHypothesis =>
    rw [List.mapM_cons] at all
    obtain ⟨thing, here, all⟩ := Option.bind_eq_some_iff.mp all
    obtain ⟨remaining, later, done⟩ := Option.bind_eq_some_iff.mp all
    obtain rfl : thing :: remaining = things := Option.some.inj done
    exact .cons here (inductionHypothesis later)

/-- The same of a list whose items may be refused. -/
theorem forall₂_of_mapM_eq_ok {read : α → Except ε β} {items : List α} {things : List β}
    (all : items.mapM read = .ok things) :
    List.Forall₂ (fun item thing => read item = .ok thing) items things := by
  induction items generalizing things with
  | nil =>
    obtain rfl : [] = things := Except.ok.inj all
    exact .nil
  | cons item rest inductionHypothesis =>
    rw [List.mapM_cons] at all
    cases here : read item with
    | error error => simp [here, bind, Except.bind] at all
    | ok thing =>
      cases later : rest.mapM read with
      | error error => simp [here, later, bind, Except.bind] at all
      | ok remaining =>
        obtain rfl : thing :: remaining = things := by
          simpa [here, later, bind, Except.bind, pure, Except.pure] using all
        exact .cons here (inductionHypothesis later)

/-- A list is refused for one of its items. Which of them it is does not matter here. -/
theorem exists_mem_of_mapM_eq_error {read : α → Except ε β} {items : List α} {error : ε}
    (refused : items.mapM read = .error error) : ∃ item ∈ items, read item = .error error := by
  induction items with
  | nil => cases refused
  | cons item rest inductionHypothesis =>
    rw [List.mapM_cons] at refused
    cases here : read item with
    | error other =>
      rw [here] at refused
      cases refused
      exact ⟨item, List.mem_cons_self, here⟩
    | ok thing =>
      cases later : rest.mapM read with
      | error other =>
        rw [here, later] at refused
        cases refused
        obtain ⟨strange, member, found⟩ := inductionHypothesis later
        exact ⟨strange, List.mem_cons_of_mem item member, found⟩
      | ok things =>
        rw [here, later] at refused
        cases refused

/-- What is made of a result is there only if the result is. -/
theorem exists_of_map_eq_ok {result : Except ε α} {make : α → β} {thing : β}
    (made : result.map make = .ok thing) : ∃ given, result = .ok given ∧ make given = thing := by
  cases result with
  | error error => cases made
  | ok given => exact ⟨given, rfl, Except.ok.inj made⟩

/-- What there is of a result is the result. -/
theorem eq_ok_of_toOption {result : Except ε α} {thing : α} (there : result.toOption = some thing) :
    result = .ok thing := by
  cases result with
  | error error => cases there
  | ok other => exact congrArg Except.ok (Option.some.inj there)

/-- What was read at a place was read from the item there. -/
theorem exists_of_getElem? {relation : α → β → Prop} {items : List α} {things : List β}
    (each : List.Forall₂ relation items things) {place : Nat} {thing : β}
    (placed : things[place]? = some thing) :
    ∃ item, items[place]? = some item ∧ relation item thing := by
  induction each generalizing place with
  | nil => simp at placed
  | cons here _ inductionHypothesis =>
    cases place with
    | zero =>
      cases placed
      exact ⟨_, rfl, here⟩
    | succ place => exact inductionHypothesis placed

/-- What was read was read from one of the items. -/
theorem exists_of_mem {relation : α → β → Prop} {items : List α} {things : List β}
    (each : List.Forall₂ relation items things) {thing : β} (member : thing ∈ things) :
    ∃ item ∈ items, relation item thing := by
  obtain ⟨place, placed⟩ := List.getElem?_of_mem member
  obtain ⟨item, found, here⟩ := exists_of_getElem? each placed
  exact ⟨item, List.mem_of_getElem? found, here⟩

end Traversal

namespace Record

/-! ## Changes -/

/-- What can be done to a record. There is no step that takes a column away. -/
inductive Step
  /-- A column is set. -/
  | insert (column : String) (value : Value)
  /-- The columns are sorted. -/
  | sort

/-- The record after a step. -/
def Step.apply : Step → Record → Record
  | .insert column value, record => record.insert column value
  | .sort, record => record.sorted

/-- The record after some steps. -/
def run (steps : List Step) (record : Record) : Record :=
  steps.foldl (fun before step => step.apply before) record

/-- No step repeats a column, and none takes a repetition away. Sorting only moves names, and
setting a column changes at most one value or adds a new name. -/
theorem Step.nodup_columns_apply (step : Step) (record : Record) :
    (step.apply record).columns.Nodup ↔ record.columns.Nodup := by
  cases step with
  | insert column value => exact Mapping.nodup_assign_iff column value record.fields
  | sort => exact record.columns_sorted_perm.nodup_iff

/-- Nor do several steps, whatever they are and in whatever order they come. -/
theorem nodup_columns_run (steps : List Step) (record : Record) :
    (run steps record).columns.Nodup ↔ record.columns.Nodup := by
  induction steps generalizing record with
  | nil => rfl
  | cons step rest inductionHypothesis =>
    exact (inductionHypothesis (step.apply record)).trans (step.nodup_columns_apply record)

/-! ## Starts that set columns -/

/-- Gathering pairs is setting one column after another. -/
theorem ofList_eq_run (fields : List (String × Value)) :
    ofList fields = run (fields.map fun field => .insert field.1 field.2) empty := by
  rw [run, List.foldl_map]
  rfl

/-- Gathered pairs repeat no column, even if the pairs do. -/
theorem nodup_columns_ofList (fields : List (String × Value)) : (ofList fields).columns.Nodup := by
  rw [ofList_eq_run, nodup_columns_run]
  exact List.nodup_nil

/-- The members of an object repeat no column, even if the object repeats a key. -/
theorem nodup_columns_ofMembers {members : List (String × Json)} {record : Record}
    (made : ofMembers members = .ok record) : record.columns.Nodup := by
  obtain ⟨fields, -, rfl⟩ := exists_of_map_eq_ok made
  exact nodup_columns_ofList fields

/-! ## Stored records -/

/-- The name in a stored column. It is there also if the column itself cannot be read. -/
def pairName? : Json → Option String
  | .array (name :: _) => Json.string? name
  | _ => none

/-- The names that a stored record lists, in order. It is said on the tree alone, without
reading a record from it. -/
def listedNames (json : Json) : List String :=
  match (Json.fields? ["fields"] json).map Json.Fields.values with
  | some [some (.array pairs)] => pairs.filterMap pairName?
  | _ => []

/-- A stored column is read under its name. -/
theorem pairName?_of_field? {json : Json} {field : String × Value}
    (read : field? json = some field) : pairName? json = some field.1 := by
  unfold field? at read
  split at read
  · obtain ⟨name, named, read⟩ := Option.bind_eq_some_iff.mp read
    obtain ⟨value, -, done⟩ := Option.bind_eq_some_iff.mp read
    cases done
    exact named
  · cases read

/-- Stored columns are read under their names, as often as they are stored. Induct over the
stored columns. -/
theorem map_fst_of_mapM_field? {pairs : List Json} {fields : List (String × Value)}
    (read : pairs.mapM field? = some fields) :
    fields.map (·.1) = pairs.filterMap pairName? := by
  have listed := forall₂_of_mapM_eq_some read
  clear read
  induction listed with
  | nil => rfl
  | cons here _ inductionHypothesis =>
    rw [List.map_cons, List.filterMap_cons, pairName?_of_field? here, inductionHypothesis]

/-- A stored record is read with the names it lists, each as often as it is listed. -/
theorem columns_of_decode? {json : Json} {record : Record} (read : decode? json = some record) :
    record.columns = listedNames json := by
  unfold decode? at read
  obtain ⟨given, found, read⟩ := Option.bind_eq_some_iff.mp read
  rw [listedNames, found, Option.map_some]
  split at read
  · rename_i fields only
    obtain ⟨listed, required, rfl⟩ := Option.map_eq_some_iff.mp read
    obtain ⟨tree, rfl, list⟩ := Option.bind_eq_some_iff.mp required
    rw [only]
    unfold Json.list? at list
    split at list
    · exact map_fst_of_mapM_field? list
    · cases list
  · cases read

end Record

namespace Payload

/-- The records that objects are repeat no column, even if an object repeats a key. -/
theorem nodup_columns_of_recordOfJson {json : Json} {record : Record}
    (made : recordOfJson json = .ok record) : record.columns.Nodup := by
  unfold recordOfJson at made
  split at made
  · exact Record.nodup_columns_ofMembers made
  · cases made

/-- The records of a payload that comes from an object or from objects repeat no column. -/
theorem nodup_columns_of_ofJson {json : Json} {payload : Payload}
    (made : ofJson json = .ok payload) : ∀ record ∈ payload.records, record.columns.Nodup := by
  unfold ofJson at made
  split at made
  · obtain ⟨record, single, rfl⟩ := exists_of_map_eq_ok made
    exact List.forall_mem_singleton.mpr (Record.nodup_columns_ofMembers single)
  · obtain ⟨records, batch, rfl⟩ := exists_of_map_eq_ok made
    intro record member
    obtain ⟨item, -, read⟩ := exists_of_mem (forall₂_of_mapM_eq_ok batch) member
    exact nodup_columns_of_recordOfJson read
  · cases made

/-- The tree from which the record at a place of a stored payload is read. -/
def treeAt? (json : Json) (place : Nat) : Option Json :=
  if (Record.decode? json).isSome then
    some json
  else
    match json with
    | .array items => items[place]?
    | _ => none

/-- A record of a stored payload is read from its tree. -/
theorem decode?_treeAt? {json : Json} {payload : Payload} (read : decode? json = some payload)
    {place : Nat} {record : Record} (placed : payload.records[place]? = some record) :
    ∃ tree, treeAt? json place = some tree ∧ Record.decode? tree = some record := by
  unfold decode? at read
  unfold treeAt?
  cases single : Record.decode? json with
  | some only =>
    rw [single] at read
    cases read
    obtain rfl : record = only := List.mem_singleton.mp (List.mem_of_getElem? placed)
    exact ⟨json, rfl, single⟩
  | none =>
    rw [single] at read
    obtain ⟨records, list, rfl⟩ := Option.map_eq_some_iff.mp read
    unfold Json.list? at list
    split at list
    · obtain ⟨tree, found, read⟩ := exists_of_getElem? (forall₂_of_mapM_eq_some list) placed
      exact ⟨tree, found, read⟩
    · cases list

end Payload

namespace Record

/-! ## Every start -/

/-- What a record can be started from. Trees and texts are arbitrary, so that nothing needs to
have been stored by this library. -/
inductive Origin
  /-- Nothing. -/
  | empty
  /-- Pairs, gathered in their order. -/
  | pairs (fields : List (String × Value))
  /-- An object. -/
  | object (members : List (String × Json))
  /-- A place of what an object or objects are as a payload. -/
  | payload (json : Json) (place : Nat)
  /-- A stored record, as a tree. -/
  | stored (json : Json)
  /-- A stored record, as a text. -/
  | storedText (text : String)
  /-- A place of a stored payload, as a tree. -/
  | storedPayload (json : Json) (place : Nat)
  /-- A place of a stored payload, as a text. -/
  | storedPayloadText (text : String) (place : Nat)

namespace Origin

/-- The record, if there is one: a tree may be no record, a value in it none, or the place
behind the end. -/
def record? : Origin → Option Record
  | .empty => some Record.empty
  | .pairs fields => some (ofList fields)
  | .object members => (ofMembers members).toOption
  | .payload json place => (Payload.ofJson json).toOption.bind (·.records[place]?)
  | .stored json => decode? json
  | .storedText text => ofText? text
  | .storedPayload json place => (Payload.decode? json).bind (·.records[place]?)
  | .storedPayloadText text place => (Payload.ofText? text).bind (·.records[place]?)

/-- The stored form that is taken as it is, if there is one. -/
def tree? : Origin → Option Json
  | .stored json => some json
  | .storedText text => shape.read? text
  | .storedPayload json place => Payload.treeAt? json place
  | .storedPayloadText text place =>
    (Json.Shape.whole.read? text).bind (Payload.treeAt? · place)
  | _ => none

/-- An origin that lists no name twice. Only stored forms list names. -/
def ListsOnce (origin : Origin) : Prop :=
  ∀ tree ∈ origin.tree?, (listedNames tree).Nodup

/-- Without a stored form columns are set one after another; from a stored form the record is
read as it is. No origin does something else. -/
theorem distinct_or_read {origin : Origin} {record : Record}
    (started : origin.record? = some record) :
    (origin.tree? = none ∧ record.columns.Nodup) ∨
      ∃ tree, origin.tree? = some tree ∧ decode? tree = some record := by
  cases origin with
  | empty =>
    cases started
    exact Or.inl ⟨rfl, List.nodup_nil⟩
  | pairs fields =>
    cases started
    exact Or.inl ⟨rfl, nodup_columns_ofList fields⟩
  | object members =>
    exact Or.inl ⟨rfl, nodup_columns_ofMembers (eq_ok_of_toOption started)⟩
  | payload json place =>
    obtain ⟨payload, made, placed⟩ := Option.bind_eq_some_iff.mp started
    have distinct := Payload.nodup_columns_of_ofJson (eq_ok_of_toOption made)
    exact Or.inl ⟨rfl, distinct record (List.mem_of_getElem? placed)⟩
  | stored json => exact Or.inr ⟨json, rfl, started⟩
  | storedText text => exact Or.inr (Option.bind_eq_some_iff.mp started)
  | storedPayload json place =>
    obtain ⟨payload, read, placed⟩ := Option.bind_eq_some_iff.mp started
    exact Or.inr (Payload.decode?_treeAt? read placed)
  | storedPayloadText text place =>
    obtain ⟨payload, read, placed⟩ := Option.bind_eq_some_iff.mp started
    obtain ⟨json, parsed, read⟩ := Option.bind_eq_some_iff.mp read
    obtain ⟨tree, found, read⟩ := Payload.decode?_treeAt? read placed
    exact Or.inr ⟨tree, Option.bind_eq_some_iff.mpr ⟨json, parsed, found⟩, read⟩

/-- A record repeats a column at its start exactly if its origin lists one twice. -/
theorem nodup_columns_iff {origin : Origin} {record : Record}
    (started : origin.record? = some record) : record.columns.Nodup ↔ origin.ListsOnce := by
  unfold ListsOnce
  obtain ⟨none, distinct⟩ | ⟨tree, found, read⟩ := distinct_or_read started
  · simp [none, distinct]
  · simp [found, columns_of_decode? read]

end Origin

/-! ## Columns that are found -/

/-- The columns that are found are those of the record; a repeated one is found as well. -/
theorem isSome_get? {record : Record} {column : String} :
    (record.get? column).isSome = true ↔ column ∈ record.columns := by
  simp [get?, columns, List.lookup_isSome_iff]

/-- There are as many columns to be found as there are columns exactly if none is repeated. -/
theorem ncard_found_eq_size {record : Record} :
    {column | (record.get? column).isSome = true}.ncard = record.size ↔
      record.columns.Nodup := by
  have found : {column | (record.get? column).isSome = true} =
      (record.columns.toFinset : Set String) := by
    ext column
    simp [isSome_get?]
  have size : record.size = record.columns.length := by simp [Record.size, columns]
  rw [found, Set.ncard_coe_finset, size]
  exact Multiset.toFinset_card_eq_card_iff_nodup

/-- Which records repeat a column, of all that can be started and then changed by setting and
sorting columns. None does that is started from nothing, from pairs or from objects, and of those
that are started from a stored form exactly the ones whose stored form lists a name twice,
whatever is set afterwards. On the same condition the number of columns is the number of those that are found, and
every insert that the record is part of has each column once.

Proof: a step of the changes leaves the names as they are, moves them, or puts a new one behind
them. So does every start but the reading of a stored form, whose names are the ones it lists. -/
theorem columns_distinct_iff (origin : Origin) (steps : List Step) (record : Record)
    (made : origin.record?.map (run steps) = some record) :
    (record.columns.Nodup ↔ origin.ListsOnce) ∧
      ({column | (record.get? column).isSome = true}.ncard = record.size ↔ origin.ListsOnce) ∧
      ∀ table payload insert, record ∈ payload.rows →
        Insert.compile table payload = .ok (some insert) →
        (insert.columns.Nodup ↔ origin.ListsOnce) := by
  obtain ⟨first, started, rfl⟩ := Option.map_eq_some_iff.mp made
  have distinct : (run steps first).columns.Nodup ↔ origin.ListsOnce :=
    (nodup_columns_run steps first).trans (Origin.nodup_columns_iff started)
  refine ⟨distinct, ncard_found_eq_size.trans distinct, ?_⟩
  intro table payload insert member compiled
  exact (Insert.nodup_columns_of_compiled compiled _ member).trans distinct

/-- A stored record that lists two names, of which one is set again before they are sorted. -/
theorem columns_distinct_iff_of_stored :
    let pairs : List Json := [.array [.string "b", .null], .array [.string "a", .null]]
    let origin : Origin := .stored (.object [("fields", .array pairs)])
    let record : Record := ⟨[("a", .null), ("b", .bool true)]⟩
    origin.record?.map (run [.insert "b" (.bool true), .sort]) = some record ∧
      origin.ListsOnce ∧ record.columns.Nodup := by
  intro pairs origin record
  have made : origin.record?.map (run [.insert "b" (.bool true), .sort]) = some record := by cbv
  have distinct : record.columns.Nodup := by decide
  exact ⟨made, (columns_distinct_iff origin _ record made).1.mp distinct, distinct⟩

/-- A stored record with one name twice is read with both, counts two columns where one is found,
and is inserted with the column twice. -/
theorem columns_repeated :
    let pair (value : Int64) : Json := .array [.string "a", .ofInt64 value]
    let record : Record := ⟨[("a", .int 1), ("a", .int 2)]⟩
    (Origin.stored (.object [("fields", .array [pair 1, pair 2])])).record? = some record ∧
      ¬record.columns.Nodup ∧ record.size = 2 ∧
      Insert.compile "t" (.single record) = .ok (some ⟨"t", ["a", "a"], [[.int 1, .int 2]]⟩) := by
  intro pair record
  have each : ∀ value, field? (pair value) = some ("a", .int value) := by
    intro value
    simp only [pair, field?, Json.string?, Value.decode?_ofInt64]
    rfl
  have all : [pair 1, pair 2].mapM field? = some record.fields := by
    rw [List.mapM_cons, List.mapM_cons, each, each]
    rfl
  refine ⟨?_, by decide, rfl, by cbv⟩
  exact congrArg (Option.map Record.mk) all

end Record

end BoundSql
