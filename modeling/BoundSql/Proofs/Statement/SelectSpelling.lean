import BoundSql.Proofs.Statement.Filter
import BoundSql.Proofs.Statement.Spelling

/-!
# How normal selects are spelled

A select is written clause by clause, each but the first behind a blank. A clause
for which there is nothing is left out, and none of the clauses that are there
can be blank.
-/

namespace BoundSql

open Fillable

/-! ## Clauses -/

/-- A clause on some things, if there are any. The content is given apart from the things, since
conditions are not written as a list. -/
def clauseSpelling {α : Type} (word : String) (things : List α) (content : List Char) : List Char :=
  if things.isEmpty then [] else spaced word ++ content

/-- A clause with a number, if there is one. -/
def pageSpelling (word : String) : Option UInt64 → List Char
  | none => []
  | some count => spaced word ++ (toString count.toNat).toList

/-- Plain columns as they are written. -/
def columnsSpelling (columns : List Column) : List Char :=
  commaSeparated (columns.map Column.spelling)

/-- What is selected of the rows; without columns, all of them. -/
def selectedSpelling (columns : List Column) : List Char :=
  if columns.isEmpty then ['*'] else columnsSpelling columns

/-- The comparison of a join as it is written, if there is one. -/
def JoinOn.spelling : Option JoinOn → List Char
  | none => []
  | some on => spaced "on" ++ (on.left.spelling ++ (spaced on.operator ++ on.right.spelling))

/-- A normal join as it is written behind a table. -/
def Join.spelling (join : Join) : List Char :=
  spaced join.kind.keyword ++ (join.table.toList ++ JoinOn.spelling join.on)

/-- A direction as it is written behind a column. -/
def Direction.spelling (direction : Direction) : List Char :=
  ' ' :: direction.keyword.toList

/-- A normal ordering key as it is written. -/
def OrderKey.spelling (key : OrderKey) : List Char :=
  key.column.spelling ++ key.direction.spelling

/-- Whether rows are selected once, as it is written. -/
def distinctSpelling (distinct : Bool) : List Char :=
  if distinct then "distinct ".toList else []

/-- The clauses behind the table of a normal select as they are written. -/
def Query.clausesSpelling (naming : Value → Token) (query : Query) : List Char :=
  query.joins.flatMap Join.spelling ++
    (clauseSpelling "where" query.conditions (conditionsSpelling naming query.conditions) ++
      (clauseSpelling "group by" query.groups (columnsSpelling query.groups) ++
        (clauseSpelling "order by" query.orderings
            (commaSeparated (query.orderings.map OrderKey.spelling)) ++
          (pageSpelling "limit" query.limit ++ pageSpelling "offset" query.offset))))

/-- A normal select as it is written. Of a query that is not normal it says nothing about the
text that is compiled. -/
def Query.spelling (naming : Value → Token) (query : Query) : List Char :=
  "select ".toList ++ (distinctSpelling query.distinct ++ (selectedSpelling query.columns ++
    (spaced "from" ++ (query.table.toList ++ query.clausesSpelling naming))))

/-- The text of a normal select is as long as that of its conditions at least. -/
theorem length_conditionsSpelling_le (naming : Value → Token) (query : Query) :
    (conditionsSpelling naming query.conditions).length ≤ (query.spelling naming).length := by
  have clause : (conditionsSpelling naming query.conditions).length ≤
      (clauseSpelling "where" query.conditions
        (conditionsSpelling naming query.conditions)).length := by
    unfold clauseSpelling
    cases query.conditions with
    | nil =>
      unfold conditionsSpelling
      exact Nat.zero_le _
    | cons condition rest =>
      rw [if_neg (by simp), List.length_append]
      exact Nat.le_add_left _ _
  unfold Query.spelling Query.clausesSpelling
  simp only [List.length_append]
  omega

/-! ## The select that is meant -/

/-- Clauses behind each other are the first one and the others behind blanks. -/
theorem toList_clauses (first : String) (rest : List String) :
    (" ".intercalate (first :: rest)).toList =
      first.toList ++ rest.flatMap fun text => ' ' :: text.toList := by
  rw [String.toList_intercalate, List.map_cons, intercalate_cons, List.flatMap_map]
  rfl

/-- Plain columns are rendered as they are. -/
theorem toList_renderColumns {columns : List Column} (normal : ∀ column ∈ columns, column.Normal) :
    (renderColumns columns).toList = columnsSpelling columns := by
  have each : columns.map (fun column => (Identifier.wrap column).toList) =
      columns.map Column.spelling :=
    List.map_congr_left fun column member => (normal column member).wrap_eq
  unfold renderColumns columnsSpelling commaSeparated
  rw [String.toList_intercalate, List.map_map, ← each]
  rfl

/-- The text of normal conditions is written as they are. -/
theorem fill_conditionsTemplate_of_normal (naming : Value → Token) {conditions : List Condition}
    (normal : AllNormal conditions) :
    Yields (conditionsTemplate conditions)
      fun text => (text.fill naming).toList = conditionsSpelling naming conditions := by
  refine .bind fun fragments drafted => .of_pure ?_
  have filled : fill naming fragments = _ :=
    fill_fragmentTemplates_of_normal naming conditions normal fragments drafted
  rw [fill_joinTemplates, filled]
  cases conditions with
  | nil =>
    unfold conditionsSpelling
    rfl
  | cons condition rest =>
    exact toList_joinFragments_of_normal naming (List.cons_ne_nil condition rest) normal

/-- A normal join is rendered as it is written. -/
theorem Join.Normal.render_eq {join : Join} (normal : join.Normal) :
    ∃ text, join.render = .ok text ∧ ' ' :: text.toList = join.spelling := by
  have table := normal.table.wrapName_eq
  obtain ⟨kind, name, on⟩ := join
  unfold Join.spelling JoinOn.spelling spaced
  cases on with
  | none =>
    have rendered : Join.render ⟨kind, name, none⟩ =
        .ok (kind.keyword ++ " " ++ Identifier.wrapName name) := by
      cases kind <;> rfl
    refine ⟨_, rendered, ?_⟩
    rw [table]
    simp
  | some on =>
    obtain ⟨compares, left, member, right⟩ := normal.on on rfl
    have rendered : Join.render ⟨kind, name, some on⟩ = .ok (kind.keyword ++ " " ++
        Identifier.wrapName name ++ " on " ++ Identifier.wrap on.left ++ " " ++ on.operator ++ " " ++
        Identifier.wrap on.right) := by
      unfold Join.render
      cases kind with
      | cross => exact absurd rfl compares
      | inner | left | right | full =>
        dsimp only
        rw [Operator.render_of_mem member]
        rfl
    refine ⟨_, rendered, ?_⟩
    rw [table]
    simp [left.wrap_eq, right.wrap_eq]

/-- Normal joins are rendered as they are written. -/
theorem Query.flatMap_joinTexts {query : Query} (normal : ∀ join ∈ query.joins, join.Normal) :
    (query.joinTexts.flatMap fun text => ' ' :: text.toList) =
      query.joins.flatMap Join.spelling := by
  unfold joinTexts
  generalize query.joins = joins at normal
  induction joins with
  | nil => rfl
  | cons join rest inductionHypothesis =>
    obtain ⟨here, later⟩ := List.forall_mem_cons.mp normal
    obtain ⟨text, rendered, written⟩ := here.render_eq
    rw [List.filterMap_cons_some (by rw [rendered]; rfl), List.flatMap_cons, List.flatMap_cons,
      inductionHypothesis later, written]

/-- A clause on some things is written as it is rendered. -/
theorem flatMap_clause {α : Type} {word : String} {things : List α} {text : String}
    {content : List Char} (written : text.toList = word.toList ++ ([' '] ++ content)) :
    ((clause (!things.isEmpty) text).flatMap fun text => ' ' :: text.toList) =
      clauseSpelling word things content := by
  unfold clause clauseSpelling spaced
  cases things with
  | nil => rfl
  | cons thing others =>
    simp [written]

/-- A clause with a number is written as it is rendered. -/
theorem flatMap_page {word : String} {text : UInt64 → String} {page : Option UInt64}
    (written : ∀ count, (text count).toList = word.toList ++ ([' '] ++ (toString count.toNat).toList)) :
    ((page.toList.map text).flatMap fun text => ' ' :: text.toList) = pageSpelling word page := by
  unfold pageSpelling spaced
  cases page with
  | none => rfl
  | some count => simp [written]

/-- The where clause of normal conditions is written as it is rendered. -/
theorem flatMap_whereClauses (naming : Value → Token) {conditions : List Condition} {text : String}
    (normal : AllNormal conditions) (written : text.toList = conditionsSpelling naming conditions) :
    ((whereClauses text).flatMap fun text => ' ' :: text.toList) =
      clauseSpelling "where" conditions (conditionsSpelling naming conditions) := by
  unfold whereClauses clauseSpelling spaced
  cases conditions with
  | nil =>
    unfold conditionsSpelling at written
    rw [if_pos (String.toList_eq_nil_iff.mp written)]
    rfl
  | cons condition rest =>
    have shown : text ≠ "" := by
      rintro rfl
      exact conditionsSpelling_ne_nil naming (List.cons_ne_nil condition rest) normal written.symm
    rw [if_neg shown]
    simp [written]

namespace Query

/-- What is selected is written as it is rendered. -/
theorem toList_selectHead {query : Query} (normal : ∀ column ∈ query.columns, column.Normal) :
    query.selectHead.toList =
      "select ".toList ++ (distinctSpelling query.distinct ++ selectedSpelling query.columns) := by
  have columns : (if query.columns.isEmpty then "*" else renderColumns query.columns).toList =
      selectedSpelling query.columns := by
    unfold selectedSpelling
    split
    · rfl
    · exact toList_renderColumns normal
  have head : (if query.distinct then "select distinct " else "select ").toList =
      "select ".toList ++ distinctSpelling query.distinct := by
    cases query.distinct <;> decide
  rw [selectHead, String.toList_append, columns, head, List.append_assoc]

/-- The clauses behind the conditions are written as they are rendered. -/
theorem flatMap_tail {query : Query} (groups : ∀ column ∈ query.groups, column.Normal)
    (orderings : ∀ key ∈ query.orderings, key.column.Normal) :
    (query.tail.flatMap fun text => ' ' :: text.toList) =
      clauseSpelling "group by" query.groups (columnsSpelling query.groups) ++
        (clauseSpelling "order by" query.orderings
            (commaSeparated (query.orderings.map OrderKey.spelling)) ++
          (pageSpelling "limit" query.limit ++ pageSpelling "offset" query.offset)) := by
  have keys : (", ".intercalate (query.orderings.map OrderKey.render)).toList =
      commaSeparated (query.orderings.map OrderKey.spelling) := by
    have each : query.orderings.map (fun key => key.render.toList) =
        query.orderings.map OrderKey.spelling := by
      refine List.map_congr_left fun key member => ?_
      unfold OrderKey.render OrderKey.spelling Direction.spelling
      simp [(orderings key member).wrap_eq]
    unfold commaSeparated
    rw [String.toList_intercalate, List.map_map, ← each]
    rfl
  unfold tail
  rw [List.flatMap_append, List.flatMap_append, List.flatMap_append, List.append_assoc,
    List.append_assoc]
  refine congr (congrArg _ (flatMap_clause ?_)) (congr (congrArg _ (flatMap_clause ?_))
    (congr (congrArg _ (flatMap_page ?_)) (flatMap_page ?_)))
  · rw [String.toList_append, toList_renderColumns groups]
    rfl
  · rw [String.toList_append, keys]
    rfl
  · intro count
    rw [String.toList_append]
    rfl
  · intro count
    rw [String.toList_append]
    rfl

/-- The select that a normal query means, filled, is written as the query is. No clause of it is
blank, and no name is rewritten. -/
theorem Normal.fill_template {query : Query} (normal : query.Normal) (naming : Value → Token) :
    Yields (Command.select query).template
      fun template => (template.fill naming).toList = query.spelling naming := by
  intro template drafted
  obtain ⟨text, known⟩ := (Command.select query).conditions_of_template template drafted
  have written : (text.fill naming).toList = conditionsSpelling naming query.conditions :=
    fill_conditionsTemplate_of_normal naming normal.conditions text known
  have source : ("from " ++ Identifier.wrapName query.table).toList =
      "from ".toList ++ query.table.toList := by
    rw [normal.table.wrapName_eq, String.toList_append]
  rw [(Command.select query).fill_template known template drafted naming,
    Command.around_select]
  simp only [List.cons_append, List.append_assoc]
  rw [toList_clauses, List.flatMap_cons, List.flatMap_append, List.flatMap_append,
    flatMap_joinTexts normal.joins, flatMap_whereClauses naming normal.conditions written,
    flatMap_tail normal.groups normal.orderings, toList_selectHead normal.columns, source]
  unfold spelling clausesSpelling
  simp only [List.append_assoc]
  rfl

end Query

end BoundSql
