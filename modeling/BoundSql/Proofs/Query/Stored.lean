import BoundSql.Query.Decode
import BoundSql.Proofs.Mapping
import BoundSql.Proofs.Query.Literals
import BoundSql.Proofs.Value.Stored

/-!
# Queries that were stored

What is read of a stored query is the query, up to what comes back of its
literals. Each part is read by a rule of its own: predicates have their kind
among their fields, columns and operands beside their content, and a clause that
is not there has its default. Groups stand in each other to any depth, and the
reader's levels are enough for them because every group adds to the depth of the
tree.
-/

namespace BoundSql

open Value (restored)

namespace Json

/-- A signed word is read from its integer, which is in the range it is checked for. -/
theorem int64?_ofInt64 (value : Int64) : int64? (ofInt64 value) = some value := by
  have below : value.toInt < 0x8000000000000000 := value.toInt_lt
  rw [ofInt64, int64?, if_pos below, Int64.ofInt_toInt]

/-- An unsigned word is read from its integer. -/
theorem uint64?_ofUInt64 (value : UInt64) : uint64? (ofUInt64 value) = some value := by
  have atLeast : (0 : Int) ≤ value.toNat := by omega
  rw [ofUInt64, uint64?, if_pos atLeast, Int.toNat_natCast, UInt64.ofNat_toNat]

/-- A list is read if each of its items is. What comes back of an item may differ from the item. -/
theorem list?_map {α β : Type} {decode? : Json → Option β} {encode : α → Json} {back : α → β}
    {things : List α} (each : ∀ thing ∈ things, decode? (encode thing) = some (back thing)) :
    list? decode? (.array (things.map encode)) = some (things.map back) := by
  rw [list?]
  induction things with
  | nil => rfl
  | cons thing rest inductionHypothesis =>
    obtain ⟨here, later⟩ := List.forall_mem_cons.mp each
    rw [List.map_cons, List.mapM_cons, here, inductionHypothesis later]
    rfl

/-- The fields of an object that repeats no key are what is found under their
names. -/
theorem fields?_object {members : List (String × Json)} (distinct : (members.map (·.1)).Nodup)
    (names : List String) :
    fields? names (.object members) = some ⟨false, names.map (List.lookup · members)⟩ := by
  have each : names.mapM (Mapping.unique? members) = some (names.map (List.lookup · members)) := by
    induction names with
    | nil => rfl
    | cons name rest inductionHypothesis =>
      rw [List.mapM_cons, Mapping.unique?_eq_lookup distinct, inductionHypothesis]
      rfl
  rw [fields?, each]
  rfl

end Json

/-! ## Parts of predicates -/

/-- A stored column is read exactly, inside a predicate and outside of one. -/
@[simp]
theorem Column.decode?_encode (buffered : Bool) (column : Column) :
    Column.decode? buffered column.encode = some column := by
  cases column <;> rfl

/-- A stored operand is read, up to what comes back of its literal. -/
@[simp]
theorem Operand.decode?_encode (operand : Operand) :
    Operand.decode? operand.encode = some (operand.mapLiterals restored) := by
  cases operand with
  | raw sql => rfl
  | bound value =>
    have read : Operand.decode? (Operand.encode (.bound value)) =
        (Value.decode? value.encode).map .bound := rfl
    rw [read, Value.decode?_encode]
    rfl

/-- A stored connector is read, inside a predicate and outside of one. -/
@[simp]
theorem Connector.decode?_name (buffered : Bool) (connector : Connector) :
    Connector.decode? buffered (.string connector.name) = some connector := by
  cases connector <;> rfl

/-- A stored part of a date is read. -/
@[simp]
theorem DatePart.decode?_name (part : DatePart) :
    DatePart.decode? (.string part.name) = some part := by
  cases part <;> rfl

/-- Stored operands are read, up to what comes back of their literals. -/
theorem Operand.list?_encode (operands : List Operand) :
    Json.list? Operand.decode? (.array (operands.map Operand.encode)) =
      some (operands.map (Operand.mapLiterals restored)) :=
  Json.list?_map fun operand _ => operand.decode?_encode

/-- Stored integers are read. -/
theorem list?_ofInt64 (values : List Int64) :
    Json.list? Json.int64? (.array (values.map Json.ofInt64)) = some values := by
  have read : Json.list? Json.int64? (.array (values.map Json.ofInt64)) = some (values.map id) :=
    Json.list?_map fun value _ => Json.int64?_ofInt64 value
  rwa [List.map_id] at read

/-! ## Predicates and conditions -/

mutual

/-- A stored predicate is read, up to what comes back of its literals, if there
are more levels than its tree is deep.

Without conditions in it the level does not matter; the fields are those of its
kind and are read one by one. -/
theorem Predicate.within?_encode : (predicate : Predicate) → (levels : Nat) → (buffered : Bool) →
    predicate.encode.depth ≤ levels →
      predicateWithin? (levels + 1) buffered predicate.encode =
        some (predicate.mapLiterals restored)
  | .raw sql, levels, buffered, _ => rfl
  | .basic column operator operand, levels, buffered, _ => by
    have read : predicateWithin? (levels + 1) buffered
        (Predicate.encode (.basic column operator operand)) = (do
          let column ← Column.decode? true column.encode
          let operand ← Operand.decode? operand.encode
          pure (.basic column operator operand)) := rfl
    rw [read, Column.decode?_encode, Operand.decode?_encode]
    rfl
  | .columns first operator second, levels, buffered, _ => by
    have read : predicateWithin? (levels + 1) buffered
        (Predicate.encode (.columns first operator second)) = (do
          let first ← Column.decode? true first.encode
          let second ← Column.decode? true second.encode
          pure (.columns first operator second)) := rfl
    rw [read, Column.decode?_encode, Column.decode?_encode]
    rfl
  | .inList column operands negated, levels, buffered, _ => by
    have read : predicateWithin? (levels + 1) buffered
        (Predicate.encode (.inList column operands negated)) = (do
          let operands ← Json.list? Operand.decode? (.array (operands.map Operand.encode))
          let column ← Column.decode? true column.encode
          pure (.inList column operands negated)) := rfl
    rw [read, Operand.list?_encode, Column.decode?_encode]
    rfl
  | .inIntegers column values negated, levels, buffered, _ => by
    have read : predicateWithin? (levels + 1) buffered
        (Predicate.encode (.inIntegers column values negated)) = (do
          let values ← Json.list? Json.int64? (.array (values.map Json.ofInt64))
          let column ← Column.decode? true column.encode
          pure (.inIntegers column values negated)) := rfl
    rw [read, list?_ofInt64, Column.decode?_encode]
    rfl
  | .null column negated, levels, buffered, _ => by
    have read : predicateWithin? (levels + 1) buffered
        (Predicate.encode (.null column negated)) = (do
          let column ← Column.decode? true column.encode
          pure (.null column negated)) := rfl
    rw [read, Column.decode?_encode]
    rfl
  | .between column low high negated, levels, buffered, _ => by
    have read : predicateWithin? (levels + 1) buffered
        (Predicate.encode (.between column low high negated)) = (do
          let column ← Column.decode? true column.encode
          let low ← Operand.decode? low.encode
          let high ← Operand.decode? high.encode
          pure (.between column low high negated)) := rfl
    rw [read, Column.decode?_encode, Operand.decode?_encode, Operand.decode?_encode]
    rfl
  | .betweenColumns column low high negated, levels, buffered, _ => by
    have read : predicateWithin? (levels + 1) buffered
        (Predicate.encode (.betweenColumns column low high negated)) = (do
          let column ← Column.decode? true column.encode
          let low ← Column.decode? true low.encode
          let high ← Column.decode? true high.encode
          pure (.betweenColumns column low high negated)) := rfl
    rw [read, Column.decode?_encode, Column.decode?_encode, Column.decode?_encode]
    rfl
  | .datePart column part operator operand, levels, buffered, _ => by
    have read : predicateWithin? (levels + 1) buffered
        (Predicate.encode (.datePart column part operator operand)) = (do
          let part ← DatePart.decode? (.string part.name)
          let column ← Column.decode? true column.encode
          let operand ← Operand.decode? operand.encode
          pure (.datePart column part operator operand)) := rfl
    rw [read, DatePart.decode?_name, Column.decode?_encode, Operand.decode?_encode]
    rfl
  | .nested conditions, levels, buffered, deep => by
    -- The object and the array of the conditions are two levels of depth, one level is needed.
    have depth : (Predicate.encode (.nested conditions)).depth =
        Json.itemsDepth (Condition.encodeList conditions) + 2 := by
      simp [Predicate.encode, taggedObject, Json.depth, Json.membersDepth]
    have read : predicateWithin? (levels + 1) buffered
        (Predicate.encode (.nested conditions)) =
          (Json.list? (conditionWith? true (predicateWithin? levels true))
            (.array (Condition.encodeList conditions))).map .nested := rfl
    rw [read, Json.list?, Condition.mapM_encodeList conditions levels (by omega)]
    rfl

/-- A stored condition is read, up to what comes back of its literals. -/
theorem Condition.with?_encode : (condition : Condition) → (levels : Nat) → (buffered : Bool) →
    condition.encode.depth ≤ levels →
      conditionWith? buffered (predicateWithin? levels buffered) condition.encode =
        some (condition.mapLiterals restored)
  | ⟨connector, predicate⟩, levels, buffered, deep => by
    have depth : (Condition.encode ⟨connector, predicate⟩).depth = predicate.encode.depth + 1 := by
      simp [Condition.encode, Json.depth, Json.membersDepth]
    have read : conditionWith? buffered (predicateWithin? levels buffered)
        (Condition.encode ⟨connector, predicate⟩) = (do
          let connector ← Connector.decode? buffered (.string connector.name)
          let predicate ← predicateWithin? levels buffered predicate.encode
          pure ⟨connector, predicate⟩) := rfl
    obtain ⟨level, rfl⟩ : ∃ level, levels = level + 1 := ⟨levels - 1, by omega⟩
    rw [read, Connector.decode?_name, predicate.within?_encode level buffered (by omega)]
    rfl

/-- Stored conditions are read one by one, with room for the deepest of them. -/
theorem Condition.mapM_encodeList : (conditions : List Condition) → (levels : Nat) →
    Json.itemsDepth (Condition.encodeList conditions) ≤ levels →
      (Condition.encodeList conditions).mapM (conditionWith? true (predicateWithin? levels true)) =
        some (Condition.mapLiteralsOfList restored conditions)
  | [], levels, _ => rfl
  | condition :: rest, levels, deep => by
    rw [Condition.encodeList, Json.itemsDepth] at deep
    rw [Condition.encodeList, List.mapM_cons, condition.with?_encode levels true (by omega),
      Condition.mapM_encodeList rest levels (by omega)]
    rfl

end

/-- A stored condition is read, up to what comes back of its literals. The depth of its own tree
is room enough. -/
theorem Condition.decode?_encode (condition : Condition) :
    Condition.decode? condition.encode = some (condition.mapLiterals restored) := by
  obtain ⟨connector, predicate⟩ := condition
  have read : Condition.decode? (Condition.encode ⟨connector, predicate⟩) = (do
      let connector ← Connector.decode? false (.string connector.name)
      let predicate ← Predicate.decode? predicate.encode
      pure ⟨connector, predicate⟩) := rfl
  rw [read, Connector.decode?_name, Predicate.decode?, predicate.within?_encode _ _ (Nat.le_refl _)]
  rfl

/-! ## Joins and orderings -/

/-- A stored join condition is read. -/
@[simp]
theorem JoinOn.decode?_encode (on : JoinOn) : JoinOn.decode? on.encode = some on := by
  obtain ⟨left, operator, right⟩ := on
  have read : JoinOn.decode? (JoinOn.encode ⟨left, operator, right⟩) = (do
      let left ← Column.decode? false left.encode
      let right ← Column.decode? false right.encode
      pure ⟨left, operator, right⟩) := rfl
  rw [read, Column.decode?_encode, Column.decode?_encode]
  rfl

/-- A stored join is read, with its condition or without; a cross join may have one too. -/
@[simp]
theorem Join.decode?_encode (join : Join) : Join.decode? join.encode = some join := by
  obtain ⟨kind, table, on⟩ := join
  cases on with
  | none => cases kind <;> rfl
  | some on =>
    have read : Join.decode? (Join.encode ⟨kind, table, some on⟩) = (do
        let kind ← JoinKind.decode? (.string kind.name)
        let on ← (JoinOn.decode? on.encode).map some
        pure ⟨kind, table, on⟩) := rfl
    rw [read, JoinOn.decode?_encode]
    cases kind <;> rfl

/-- A stored ordering key is read. -/
@[simp]
theorem OrderKey.decode?_encode (key : OrderKey) : OrderKey.decode? key.encode = some key := by
  obtain ⟨column, direction⟩ := key
  have read : OrderKey.decode? (OrderKey.encode ⟨column, direction⟩) = (do
      let column ← Column.decode? false column.encode
      let direction ← Direction.decode? (.string direction.name)
      pure ⟨column, direction⟩) := rfl
  rw [read, Column.decode?_encode]
  cases direction <;> rfl

/-! ## Clauses that may be missing -/

/-- A member of an object that is there only if there is something to store. -/
def clauseMember (name : String) (tree : Option Json) : List (String × Json) :=
  tree.toList.map fun tree => (name, tree)

/-- The tree of a clause with items, if it has any. -/
def clauseItems? {α : Type} (encode : α → Json) (items : List α) : Option Json :=
  if items.isEmpty then none else some (.array (items.map encode))

/-- A member that may be missing is found under its name only, if it is there. -/
theorem lookup_clauseMember (key name : String) (tree : Option Json) :
    (clauseMember name tree).lookup key = if key = name then tree else none := by
  cases tree with
  | none => simp [clauseMember]
  | some tree =>
    by_cases same : key = name
    · simp [clauseMember, same]
    · have apart : (key == name) = false := by simpa using same
      simp [clauseMember, List.lookup_cons, apart, same]

/-- A member that may be missing has no name but its own. -/
theorem clauseMember_sublist (name : String) (tree : Option Json) :
    ((clauseMember name tree).map (·.1)).Sublist [name] := by
  cases tree <;> simp [clauseMember]

/-- A clause with items is a member that may be missing. -/
theorem listMember_eq_clauseMember {α : Type} (name : String) (encode : α → Json)
    (items : List α) :
    listMember name encode items = clauseMember name (clauseItems? encode items) := by
  cases items <;> rfl

/-- A number is a member that may be missing. -/
theorem numberMember_eq_clauseMember (name : String) (number : Option UInt64) :
    (number.toList.map fun number => (name, Json.ofUInt64 number)) =
      clauseMember name (number.map Json.ofUInt64) := by
  cases number <;> rfl

/-- A clause with items is read if its items are. One without items is left out and read as
empty. -/
theorem listField?_clauseItems? {α : Type} {decode? : Json → Option α} {encode : α → Json}
    {back : α → α} {items : List α}
    (each : ∀ item ∈ items, decode? (encode item) = some (back item)) :
    listField? decode? (clauseItems? encode items) = some (items.map back) := by
  cases items with
  | nil => rfl
  | cons item rest => exact Json.list?_map each

/-- A clause whose items are read exactly is read exactly. -/
theorem listField?_exact {α : Type} {decode? : Json → Option α} {encode : α → Json}
    (each : ∀ item, decode? (encode item) = some item) (items : List α) :
    listField? decode? (clauseItems? encode items) = some items := by
  have read : listField? decode? (clauseItems? encode items) = some (items.map id) :=
    listField?_clauseItems? fun item _ => each item
  rwa [List.map_id] at read

/-- A number that may be missing is read, if it is there. -/
theorem optional_uint64? (number : Option UInt64) :
    Json.optional false Json.uint64? (number.map Json.ofUInt64) = some number := by
  cases number with
  | none => rfl
  | some value =>
    have read : Json.optional false Json.uint64? (some (.ofUInt64 value)) =
      (Json.uint64? (.ofUInt64 value)).map some := rfl
    rw [Option.map_some, read, Json.uint64?_ofUInt64]
    rfl

namespace Query

/-- The members of a stored query, each clause in its place. All but the first two may be
missing, which is what makes them easier to look up than in one list. -/
def members (query : Query) : List (String × Json) :=
  [("table", .string query.table), ("distinct", .bool query.distinct)] ++
    clauseMember "columns" (clauseItems? Column.encode query.columns) ++
    clauseMember "joins" (clauseItems? Join.encode query.joins) ++
    clauseMember "conditions" (clauseItems? Condition.encode query.conditions) ++
    clauseMember "groups" (clauseItems? Column.encode query.groups) ++
    clauseMember "orderings" (clauseItems? OrderKey.encode query.orderings) ++
    clauseMember "limit" (query.limit.map Json.ofUInt64) ++
    clauseMember "offset" (query.offset.map Json.ofUInt64)

/-- A stored query is the object of its members. -/
theorem encode_eq_members (query : Query) : query.encode = .object query.members := by
  simp only [encode, members, listMember_eq_clauseMember, numberMember_eq_clauseMember]

/-- No clause occurs twice. The names that are there are some of nine different ones, in their
order. -/
theorem members_distinct (query : Query) : (query.members.map (·.1)).Nodup := by
  have part : (query.members.map (·.1)).Sublist fieldNames := by
    simp only [members, List.map_append]
    have names : fieldNames = ["table", "distinct"] ++ ["columns"] ++ ["joins"] ++ ["conditions"] ++
      ["groups"] ++ ["orderings"] ++ ["limit"] ++ ["offset"] := rfl
    rw [names]
    repeat' apply List.Sublist.append
    · exact List.Sublist.refl _
    all_goals exact clauseMember_sublist _ _
  exact part.nodup (by decide)

/-- Every clause is found under its name, if it is there. The names are looked up in the order
in which a query is read. -/
theorem lookup_members (query : Query) :
    fieldNames.map (List.lookup · query.members) =
      [some (.string query.table), some (.bool query.distinct),
        clauseItems? Column.encode query.columns, clauseItems? Join.encode query.joins,
        clauseItems? Condition.encode query.conditions, clauseItems? Column.encode query.groups,
        clauseItems? OrderKey.encode query.orderings, query.limit.map Json.ofUInt64,
        query.offset.map Json.ofUInt64] := by
  simp [fieldNames, members, List.lookup_append, List.lookup_cons, lookup_clauseMember]

/-- A stored query is read, up to what comes back of its literals: everything but the literals
comes back exactly. -/
theorem decode?_encode (query : Query) :
    decode? query.encode = some (query.mapLiterals restored) := by
  have given : Json.fields? fieldNames query.encode =
      some ⟨false, fieldNames.map (List.lookup · query.members)⟩ := by
    rw [encode_eq_members, Json.fields?_object query.members_distinct]
  have columns := listField?_exact (Column.decode?_encode false)
  have joins := listField?_exact Join.decode?_encode
  have orderings := listField?_exact OrderKey.decode?_encode
  have conditions : listField? Condition.decode?
      (clauseItems? Condition.encode query.conditions) =
        some (query.conditions.map (Condition.mapLiterals restored)) :=
    listField?_clauseItems? fun condition _ => condition.decode?_encode
  rw [decode?, given, lookup_members]
  simp [Json.required, Json.string?, Json.defaulted, Json.bool?, columns, joins, conditions,
    orderings, optional_uint64?, mapLiterals, Condition.mapLiteralsOfList_eq_map]

end Query

/-! ## Storing what came back -/

/-- An operand that came back is stored as before. -/
@[simp]
theorem Operand.encode_restored (operand : Operand) :
    (operand.mapLiterals restored).encode = operand.encode := by
  cases operand <;> simp [mapLiterals, encode]

mutual

/-- A predicate that came back is stored as before. -/
theorem Predicate.encode_restored : (predicate : Predicate) →
    (predicate.mapLiterals restored).encode = predicate.encode
  | .raw sql => rfl
  | .columns first operator second => rfl
  | .inIntegers column values negated => rfl
  | .null column negated => rfl
  | .betweenColumns column low high negated => rfl
  | .basic column operator operand => by simp [Predicate.mapLiterals, Predicate.encode]
  | .inList column operands negated => by
    simp [Predicate.mapLiterals, Predicate.encode, Function.comp_def]
  | .between column low high negated => by simp [Predicate.mapLiterals, Predicate.encode]
  | .datePart column part operator operand => by simp [Predicate.mapLiterals, Predicate.encode]
  | .nested conditions => by
    rw [Predicate.mapLiterals, Predicate.encode, Predicate.encode,
      Condition.encodeList_restored conditions]

/-- A condition that came back is stored as before. -/
theorem Condition.encode_restored : (condition : Condition) →
    (condition.mapLiterals restored).encode = condition.encode
  | ⟨connector, predicate⟩ => by
    rw [Condition.mapLiterals, Condition.encode, Condition.encode, predicate.encode_restored]

/-- Conditions that came back are stored as before. -/
theorem Condition.encodeList_restored : (conditions : List Condition) →
    Condition.encodeList (Condition.mapLiteralsOfList restored conditions) =
      Condition.encodeList conditions
  | [] => rfl
  | condition :: rest => by
    rw [Condition.mapLiteralsOfList, Condition.encodeList, Condition.encodeList,
      condition.encode_restored, Condition.encodeList_restored rest]

end

namespace Query

/-- A query that came back is stored as before, so that storing and reading it again changes
nothing more. -/
theorem encode_restored (query : Query) :
    (query.mapLiterals restored).encode = query.encode := by
  have conditions : (query.conditions.map (Condition.mapLiterals restored)).map Condition.encode =
      query.conditions.map Condition.encode := by
    simp [Function.comp_def, Condition.encode_restored]
  simp only [encode, mapLiterals, Condition.mapLiteralsOfList_eq_map, listMember,
    List.isEmpty_map, conditions]

/-- Storing a query and reading it always succeeds. What comes back is the query
with every literal as it comes back from storage by itself: an unsigned integer
that fits a signed word as that number, a double without a numeral as null, a
time as its text, an array item by item, and all others unchanged. So the query
itself comes back exactly if each of its literals does, and what came back is
stored as the query was. -/
theorem stored_comes_back (query : Query) :
    decode? query.encode = some (query.mapLiterals restored) ∧
      (decode? query.encode = some query ↔
        ∀ value ∈ query.literals, value.restored = value) ∧
      (query.mapLiterals restored).encode = query.encode := by
  refine ⟨query.decode?_encode, ?_, query.encode_restored⟩
  rw [query.decode?_encode, Option.some.injEq]
  exact mapLiterals_eq_self_iff

end Query

end BoundSql
