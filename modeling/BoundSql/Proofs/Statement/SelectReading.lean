import BoundSql.Proofs.Statement.ConditionReading
import BoundSql.Proofs.Statement.SelectSpelling

/-!
# Selects are read back

A reader of normal selects. Every clause has an opening of its own, so a clause
that is not there is known by the opening of a later one or by the end of the
text. Only the names in the select list could be taken for the language's own
words: a first column of that name would look like the request for distinct rows.
-/

namespace BoundSql

open Text

/-! ## Clauses -/

/-- All joins. Their words differ in the first letter, so none of them starts another. -/
def joinKinds : List JoinKind :=
  [.inner, .left, .right, .full, .cross]

/-- What stands before a joined table. -/
def JoinKind.opening (kind : JoinKind) : List Char :=
  spaced kind.keyword

/-- The openings of the clauses behind the joins. -/
def openingsBehindJoins : List (List Char) :=
  spaced "where" :: openingsBehindFilter

/-- The openings of the clauses behind a table. -/
def openingsBehindTable : List (List Char) :=
  joinKinds.map JoinKind.opening ++ openingsBehindJoins

/-- The comparison of a join: two plain columns and an operator between them. -/
def readComparedColumns : Reader (Option JoinOn) := do
  let left ← readColumn
  let operator ← oneOf spaced Operator.all
  let right ← readColumn
  pure (some ⟨left, operator, right⟩)

/-- A join of a kind, which its opening has told already. -/
def readJoin (kind : JoinKind) : Reader Join := do
  let table ← readName
  let on ← optionally (spaced "on") readComparedColumns (pure none)
  pure ⟨kind, table, on⟩

/-- The columns that are selected; a star stands for none given. -/
def readSelected : Reader (List Column) :=
  branch (· == '*')
    (do
      expect ['*']
      pure [])
    (separated readColumn)

/-- Whether rows are selected once, and the columns. -/
def readProjection : Reader (Bool × List Column) :=
  optionally "distinct ".toList
    (do
      let columns ← readSelected
      pure (true, columns))
    (do
      let columns ← readSelected
      pure (false, columns))

/-- An ordering key. Its direction is always written, so it must be there. -/
def readKey : Reader OrderKey := do
  let column ← readColumn
  let direction ← oneOf Direction.spelling [.asc, .desc]
  pure ⟨column, direction⟩

/-- A number of rows. That it fits a word is known only for numbers that were written for one. -/
def readCount : Reader (Option UInt64) := do
  let word ← span isNumeralChar
  given ((naturalOf? 10 word).map fun count => some (UInt64.ofNat count))

/-- The clauses of a select behind its table, with groups of conditions up to a depth. They come
in a fixed order, and each may be missing. -/
def readClauses (parameters : Parameters) (depth : Nat) (distinct : Bool) (columns : List Column)
    (table : String) : Reader Query := do
  let joins ← repeated JoinKind.opening joinKinds readJoin
  let conditions ← optionally (spaced "where") (readConditions (readPredicate parameters depth))
    (pure [])
  let groups ← optionally (spaced "group by") (separated readColumn) (pure [])
  let orderings ← optionally (spaced "order by") (separated readKey) (pure [])
  let limit ← optionally (spaced "limit") readCount (pure none)
  let offset ← optionally (spaced "offset") readCount (pure none)
  pure
    { table := table, distinct := distinct, columns := columns, joins := joins,
      conditions := conditions, groups := groups, orderings := orderings, limit := limit,
      offset := offset }

/-- A select, with groups of conditions up to a depth. -/
def readSelect (parameters : Parameters) (depth : Nat) : Reader Query := do
  expect "select ".toList
  let projection ← readProjection
  expect (spaced "from")
  let table ← readName
  readClauses parameters depth projection.1 projection.2 table

/-- A clause, or its absence, is read if one of the openings `behind` follows, and
then one of the openings `before` stands where it starts. -/
structure ReadsClause {α : Type} (before behind : List (List Char)) (reader : Reader α)
    (text : List Char) (thing : α) : Prop where
  reads : Reads reader (OpensWith behind) text thing
  opens : ∀ rest, OpensWith behind rest → OpensWith before (text ++ rest)

namespace ReadsClause

variable {α β : Type} {before between behind : List (List Char)} {reader : Reader α}
  {text : List Char} {thing : α}

/-- A clause is read before another, if the first ends where the second starts. -/
theorem bind {next : α → Reader β} {textNext : List Char} {thingNext : β}
    (first : ReadsClause before between reader text thing)
    (second : ReadsClause between behind (next thing) textNext thingNext) :
    ReadsClause before behind (reader >>= next) (text ++ textNext) thingNext where
  reads := first.reads.bind second.reads second.opens
  opens rest opens := by
    rw [List.append_assoc]
    exact first.opens _ (second.opens rest opens)

/-- What is read may be turned into another thing. -/
theorem map (f : α → β) (clause : ReadsClause before behind reader text thing) :
    ReadsClause before behind (reader >>= fun thing => pure (f thing)) text (f thing) where
  reads := clause.reads.map f
  opens := clause.opens

/-- A clause that is not there is read as a default. None of the openings that may follow is
taken for its own. -/
theorem absent {word : String} (apart : ∀ opening ∈ behind, Apart (spaced word) opening)
    (default : α) :
    ReadsClause (spaced word :: behind) behind (optionally (spaced word) reader (pure default)) []
      default where
  reads := Reads.of_pure.absent fun _ opens => opens.not_starting (List.cons_ne_nil _ _) apart
  opens _ opens := opens.of_subset (List.subset_cons_self _ _)

/-- A clause that is there is read behind its word. -/
theorem present (word : String) (default : Reader α)
    (reads : Reads reader (OpensWith behind) text thing) :
    ReadsClause (spaced word :: behind) behind (optionally (spaced word) reader default)
      (spaced word ++ text) thing where
  reads := reads.present _ _
  opens rest _ := by
    rw [List.append_assoc]
    exact opensWith_append List.mem_cons_self _

end ReadsClause

section

variable {openings : List (List Char)}

/-- A clause on some things is read if they are. -/
theorem reads_clause {α : Type} {word : String} {things : List α} {content : List Char}
    {reader : Reader (List α)} (apart : ∀ opening ∈ openings, Apart (spaced word) opening)
    (reads : things ≠ [] → Reads reader (OpensWith openings) content things) :
    ReadsClause (spaced word :: openings) openings (optionally (spaced word) reader (pure []))
      (clauseSpelling word things content) things := by
  unfold clauseSpelling
  cases things with
  | nil => exact .absent apart []
  | cons first others => exact .present word _ (reads (List.cons_ne_nil first others))

/-- A number of rows is read. -/
theorem reads_count (count : UInt64) :
    Reads readCount (Stops isNumeralChar) (toString count.toNat).toList (some count) := by
  have inside : ∀ c ∈ (toString count.toNat).toList, isNumeralChar c = true := by
    rw [Nat.toString_eq_repr, Nat.toList_repr]
    exact fun c member => isNumeralChar_of_mem_toDigits (by decide) (by decide) member
  have known : (naturalOf? 10 (toString count.toNat).toList).map
      (fun count => some (UInt64.ofNat count)) = some (some count) := by
    rw [Nat.toString_eq_repr, Nat.toList_repr, naturalOf?_toDigits, Option.map_some,
      UInt64.ofNat_toNat]
  rw [← List.append_nil (toString count.toNat).toList]
  exact (reads_span inside).bind (reads_given known) fun rest stops => stops

/-- A clause with a number is read. -/
theorem reads_page {word : String} (page : Option UInt64)
    (apart : ∀ opening ∈ openings, Apart (spaced word) opening)
    (outside : ∀ opening ∈ openings, StartsOutside isNumeralChar opening) :
    ReadsClause (spaced word :: openings) openings
      (optionally (spaced word) readCount (pure none)) (pageSpelling word page) page := by
  cases page with
  | none => exact .absent apart none
  | some count =>
    exact .present word _ ((reads_count count).weaken fun rest opens => opens.stops outside)

end

/-! ## Columns, joins and ordering keys -/

section

variable {follow : List Char → Prop}

/-- Plain columns with commas between them are read. -/
theorem reads_columnList {columns : List Column} (some : columns ≠ [])
    (normal : ∀ column ∈ columns, column.Normal)
    (ends : ∀ rest, follow rest → Stops isNameChar rest ∧ ¬ ", ".toList <+: rest) :
    Reads (separated readColumn) follow (columnsSpelling columns) columns :=
  reads_commaSeparated Column.spelling some (fun column member => (normal column member).reads)
    (fun rest => StartsOutside.stops (by decide) rest) ends

/-- A normal ordering key is read, whatever follows. -/
theorem reads_key {key : OrderKey} (normal : key.column.Normal) :
    Reads readKey Anywhere key.spelling key := by
  have apart : OpenApart Direction.spelling [.asc, .desc] := by
    decide
  have member : key.direction ∈ [Direction.asc, .desc] := by
    cases key.direction <;> decide
  have outside : ∀ direction : Direction, StartsOutside isNameChar direction.spelling := by
    intro direction
    cases direction <;> decide
  refine normal.reads.bind ((reads_oneOf apart member).map (OrderKey.mk key.column)) ?_
  exact fun rest _ => (outside key.direction).stops rest

/-- Normal ordering keys with commas between them are read. -/
theorem reads_keys {keys : List OrderKey} (some : keys ≠ [])
    (normal : ∀ key ∈ keys, key.column.Normal)
    (ends : ∀ rest, follow rest → ¬ ", ".toList <+: rest) :
    Reads (separated readKey) follow (commaSeparated (keys.map OrderKey.spelling)) keys :=
  reads_commaSeparated OrderKey.spelling some (fun key member => reads_key (normal key member))
    (fun _ => trivial) fun rest allowed => ⟨trivial, ends rest allowed⟩

end

/-- A normal join is read behind its kind. -/
theorem Join.Normal.reads {join : Join} (normal : join.Normal) :
    Reads (readJoin join.kind) (OpensWith openingsBehindTable)
      (join.table.toList ++ JoinOn.spelling join.on) join := by
  obtain ⟨kind, table, on⟩ := join
  have operators : OpenApart spaced Operator.all := by
    decide +kernel
  have outside : ∀ operator ∈ Operator.all, StartsOutside isNameChar (spaced operator) := by
    decide +kernel
  have later : ∀ opening ∈ openingsBehindTable,
      StartsOutside isNameChar opening ∧ Apart (spaced "on") opening := by
    decide +kernel
  have compared : Reads (optionally (spaced "on") readComparedColumns (pure none))
      (OpensWith openingsBehindTable) (JoinOn.spelling on) on := by
    cases on with
    | none =>
      refine Reads.of_pure.absent fun rest opens => opens.not_starting (List.cons_ne_nil _ _) ?_
      exact fun opening member => (later opening member).2
    | some on =>
      obtain ⟨-, left, member, right⟩ := normal.on on rfl
      have columns : Reads readComparedColumns (OpensWith openingsBehindTable)
          (on.left.spelling ++ (spaced on.operator ++ on.right.spelling)) (some on) := by
        refine left.reads.bind ((reads_oneOf operators member).bind ((right.reads.weaken ?_).map _)
          fun _ _ => trivial) ?_
        · exact fun rest opens => opens.stops fun opening member => (later opening member).1
        · intro rest _
          rw [List.append_assoc]
          exact (outside on.operator member).stops _
      exact columns.present _ _
  refine normal.table.reads.bind (compared.map (Join.mk kind table)) ?_
  intro rest opens
  cases on with
  | none => exact opens.stops fun opening member => (later opening member).1
  | some on =>
    rw [JoinOn.spelling, List.append_assoc]
    exact StartsOutside.stops (by decide) _

/-- Joins open with their kinds, or are not there. -/
theorem opensWith_joins (joins : List Join) {rest : List Char}
    (opens : OpensWith openingsBehindJoins rest) :
    OpensWith openingsBehindTable (joins.flatMap Join.spelling ++ rest) := by
  cases joins with
  | nil => exact opens.of_subset (List.subset_append_right _ _)
  | cons join others =>
    have known : join.kind.opening ∈ joinKinds.map JoinKind.opening := by
      cases join.kind <;> decide
    rw [List.flatMap_cons, Join.spelling, List.append_assoc, List.append_assoc]
    exact opensWith_append (List.mem_append_left _ known) _

/-- Normal joins are read, as many as there are and in their order. -/
theorem reads_joins {joins : List Join} (normal : ∀ join ∈ joins, join.Normal) :
    ReadsClause openingsBehindTable openingsBehindJoins
      (repeated JoinKind.opening joinKinds readJoin) (joins.flatMap Join.spelling) joins := by
  have apart : OpenApart JoinKind.opening joinKinds := by
    decide +kernel
  have complete : ∀ kind : JoinKind, kind ∈ joinKinds := by
    intro kind
    cases kind <;> decide
  have closed : ∀ kind ∈ joinKinds, ∀ opening ∈ openingsBehindJoins,
      Apart kind.opening opening := by
    decide +kernel
  refine ⟨reads_repeated apart (fun _ _ => List.cons_ne_nil _ _)
    (fun join _ => complete join.kind) (fun join member => (normal join member).reads) ?_ ?_,
    fun rest => opensWith_joins joins⟩
  · intro kind member rest
    exact opensWith_append (List.mem_append_left _ (List.mem_map_of_mem member)) rest
  · intro rest opens
    refine ⟨opens.of_subset (List.subset_append_right _ _), ?_⟩
    exact fun kind member => opens.not_starting (List.cons_ne_nil _ _) (closed kind member)

/-- What is selected is read: a star, or columns with commas between them. -/
theorem reads_selected {columns : List Column} (normal : ∀ column ∈ columns, column.Normal) :
    Reads readSelected (OpensWith [spaced "from"]) (selectedSpelling columns) columns := by
  unfold selectedSpelling
  cases columns with
  | nil =>
    have star := (reads_expect ['*']).map fun _ => ([] : List Column)
    exact (star.weaken fun _ _ => trivial).branch_inside rfl
  | cons first others =>
    have some := List.cons_ne_nil first others
    have star : ∀ c, (c == '*') = true → isNameStart c = false := by
      intro c same
      obtain rfl := beq_iff_eq.mp same
      rfl
    have read : Reads (separated readColumn) (OpensWith [spaced "from"])
        (columnsSpelling (first :: others)) (first :: others) := by
      refine reads_columnList some normal fun rest opens => ⟨?_, ?_⟩
      · exact opens.stops (by decide)
      · exact opens.not_starting (by decide) (by decide)
    exact read.branch_outside (starts_commaSeparated Column.spelling some
      fun column member => (normal column member).outside star)

/-- What is selected does not look like the request for distinct rows: no column
has that name. -/
theorem not_distinct {columns : List Column} (normal : ∀ column ∈ columns, column.Normal)
    {rest : List Char} (opens : OpensWith [spaced "from"] rest) :
    ¬ "distinct ".toList <+: selectedSpelling columns ++ rest := by
  unfold selectedSpelling
  cases columns with
  | nil =>
    have apart : Apart "distinct ".toList ['*'] := by decide
    exact apart.not_starting rest
  | cons first others =>
    have here := normal first List.mem_cons_self
    cases first with
    | raw sql => exact absurd here id
    | name text =>
      have name : IsName text := here
      rintro ⟨behind, same⟩
      rw [if_neg (by simp), columnsSpelling, commaSeparated_cons, List.append_assoc] at same
      have stops : Stops isNameChar
          ((others.flatMap fun column => ", ".toList ++ column.spelling) ++ rest) := by
        cases others with
        | nil => exact opens.stops (by decide)
        | cons second further =>
          rw [List.flatMap_cons, List.append_assoc, List.append_assoc]
          exact StartsOutside.stops (by decide) _
      have blank : Stops isNameChar ([' '] ++ behind) := StartsOutside.stops (by decide) behind
      have word : "distinct".toList = text.toList :=
        eq_of_words (List.all_eq_true.mp (by decide)) name.chars blank stops same
      rw [String.toList_inj] at word
      exact name.free (word ▸ by decide)

/-- Whether rows are selected once is read, and what is selected. -/
theorem reads_projection (distinct : Bool) {columns : List Column}
    (normal : ∀ column ∈ columns, column.Normal) :
    Reads readProjection (OpensWith [spaced "from"])
      (distinctSpelling distinct ++ selectedSpelling columns) (distinct, columns) := by
  cases distinct with
  | true => exact ((reads_selected normal).map (Prod.mk true)).present _ _
  | false =>
    exact ((reads_selected normal).map (Prod.mk false)).absent fun rest => not_distinct normal

/-! ## Selects -/

/-- The where clause of normal conditions is read, or its absence if there are none. The depth
must be as large as the text of the conditions is long. -/
theorem reads_filter {parameters : Parameters} {naming : Value → Token}
    {conditions : List Condition} (normal : AllNormal conditions)
    (first : ∀ condition ∈ conditions.head?, condition.connector = .and)
    (resolves : ∀ value ∈ conditionValues conditions, parameters.Resolves naming value)
    {depth : Nat} (fits : (conditionsSpelling naming conditions).length ≤ depth) :
    ReadsClause openingsBehindJoins openingsBehindFilter
      (optionally (spaced "where") (readConditions (readPredicate parameters depth)) (pure []))
      (clauseSpelling "where" conditions (conditionsSpelling naming conditions)) conditions := by
  refine reads_clause (by decide) fun some => ?_
  have each := reads_each conditions normal resolves depth fun condition member =>
    Nat.le_trans (length_spelling_le naming condition member) fits
  exact (reads_conditions some first each).weaken
    fun rest opens => opens.of_subset (List.subset_cons_self _ _)

/-- The clauses of a normal select are read behind its table, up to the end of the text. -/
theorem Query.Normal.reads_clauses {query : Query} (normal : query.Normal) {parameters : Parameters}
    {naming : Value → Token}
    (resolves : ∀ value ∈ conditionValues query.conditions, parameters.Resolves naming value)
    {depth : Nat} (fits : (conditionsSpelling naming query.conditions).length ≤ depth) :
    ReadsClause openingsBehindTable []
      (readClauses parameters depth query.distinct query.columns query.table)
      (query.clausesSpelling naming) query := by
  have joins := reads_joins normal.joins
  have filter := reads_filter normal.conditions normal.first resolves fits
  have groups : ReadsClause openingsBehindFilter [spaced "order by", spaced "limit", spaced "offset"]
      (optionally (spaced "group by") (separated readColumn) (pure []))
      (clauseSpelling "group by" query.groups (columnsSpelling query.groups)) query.groups :=
    reads_clause (by decide) fun some => reads_columnList some normal.groups
      fun rest opens => ⟨opens.stops (by decide), opens.not_starting (by decide) (by decide)⟩
  have orderings : ReadsClause [spaced "order by", spaced "limit", spaced "offset"]
      [spaced "limit", spaced "offset"]
      (optionally (spaced "order by") (separated readKey) (pure []))
      (clauseSpelling "order by" query.orderings
        (commaSeparated (query.orderings.map OrderKey.spelling))) query.orderings :=
    reads_clause (by decide) fun some => reads_keys some normal.orderings
      fun rest opens => opens.not_starting (by decide) (by decide)
  have limit : ReadsClause [spaced "limit", spaced "offset"] [spaced "offset"]
      (optionally (spaced "limit") readCount (pure none)) (pageSpelling "limit" query.limit)
      query.limit :=
    reads_page query.limit (by decide) (by decide)
  have offset : ReadsClause [spaced "offset"] []
      (optionally (spaced "offset") readCount (pure none)) (pageSpelling "offset" query.offset)
      query.offset :=
    reads_page query.offset (by decide) (by decide)
  exact joins.bind (filter.bind (groups.bind (orderings.bind (limit.bind (offset.map _)))))

/-- A normal select is read back to the end of its text, if its values are found
and the depth is as large as the text of its conditions is long. -/
theorem Query.Normal.reads {query : Query} (normal : query.Normal) {parameters : Parameters}
    {naming : Value → Token}
    (resolves : ∀ value ∈ conditionValues query.conditions, parameters.Resolves naming value)
    {depth : Nat} (fits : (conditionsSpelling naming query.conditions).length ≤ depth) :
    Reads (readSelect parameters depth) (OpensWith []) (query.spelling naming) query := by
  have projection := reads_projection query.distinct normal.columns
  have clauses := normal.reads_clauses resolves fits
  have table := normal.table.reads.bind clauses.reads fun rest ends =>
    (clauses.opens rest ends).stops (by decide +kernel)
  unfold Query.spelling
  rw [← List.append_assoc (distinctSpelling query.distinct)]
  refine (reads_expect _).bind (projection.bind ((reads_expect _).bind table fun _ _ => trivial)
    ?_) fun _ _ => trivial
  intro rest _
  rw [List.append_assoc]
  exact opensWith_append List.mem_cons_self _

end BoundSql
