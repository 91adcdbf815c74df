import BoundSql.Proofs.Statement.Draft
import BoundSql.Proofs.Statement.PlainText

/-!
# The statements that are meant are plain

If the caller's texts have no braces, the texts between the holes of every
statement that is meant have none. The proof follows the compiler without a
registry; what it yields is plain, and where it yields nothing there is nothing
to show.
-/

namespace BoundSql

open Text

/-- Plain operands have plain templates. A literal is not asked about: it stands in a hole. -/
theorem Operand.plain_template {operand : Operand} (texts : ∀ text ∈ operand.texts, Plain text) :
    operand.template.Plain := by
  cases operand with
  | raw sql => exact Template.plain_text (texts sql List.mem_cons_self) Template.plain_nil
  | bound value => exact Template.plain_hole value Template.plain_nil

/-- A value compared with a part of a date has a plain template. -/
theorem plain_partTemplate (part : DatePart) {operand : Operand}
    (texts : ∀ text ∈ operand.texts, Plain text) :
    Yields (partTemplate part operand) Template.Plain := by
  cases operand with
  | raw sql =>
    exact .of_pure (Template.plain_text (texts sql List.mem_cons_self) Template.plain_nil)
  | bound value =>
    exact .bind fun normal _ => .of_pure (Template.plain_hole normal Template.plain_nil)

/-- A list of plain items is plain. -/
theorem plain_listTemplate {column : Column} (negated : Bool) {items : List Template}
    (name : Plain column.text) (each : ∀ item ∈ items, item.Plain) :
    (listTemplate column negated items).Plain := by
  unfold listTemplate
  split
  · refine Template.plain_text ?_ Template.plain_nil
    cases negated <;> decide
  · have keyword : Plain (inKeyword negated) := by cases negated <;> decide
    refine Template.plain_text ?_ ((Template.plain_join (by decide) each).append
      (Template.plain_text (by decide) Template.plain_nil))
    exact (((plain_wrap name).append (by decide)).append keyword).append (by decide)

/-- A range with plain ends is plain. -/
theorem plain_betweenTemplate {column : Column} (negated : Bool) {low high : Template}
    (name : Plain column.text) (start : low.Plain) (finish : high.Plain) :
    (betweenTemplate column negated low high).Plain := by
  have keyword : Plain (betweenKeyword negated) := by cases negated <;> decide
  refine Template.plain_text ?_ (start.append (Template.plain_text (by decide) finish))
  exact (((plain_wrap name).append (by decide)).append keyword).append (by decide)

/-- Plain fragments behind each other are plain. -/
theorem plain_joinTemplates {fragments : List (Connector × Template)}
    (each : ∀ fragment ∈ fragments, fragment.2.Plain) : (joinTemplates fragments).Plain := by
  have general : ∀ text : Template, text.Plain →
      (fragments.foldl Template.followedBy text).Plain := by
    induction fragments with
    | nil => exact fun text plain => plain
    | cons first rest inductionHypothesis =>
      intro text plain
      obtain ⟨next, others⟩ := List.forall_mem_cons.mp each
      refine inductionHypothesis others _ ?_
      unfold Template.followedBy
      split
      · exact next
      · refine plain.append (Template.plain_text ?_ next)
        cases first.1 <;> decide
  exact general [] Template.plain_nil

/-- Plain conditions in parentheses are plain. -/
theorem plain_nestedTemplate {fragments : List (Connector × Template)}
    (each : ∀ fragment ∈ fragments, fragment.2.Plain) :
    ∀ template ∈ nestedTemplate fragments, template.Plain := by
  intro template member
  unfold nestedTemplate at member
  split at member
  · cases member
  · cases member
    exact Template.plain_text (by decide)
      ((plain_joinTemplates each).append (Template.plain_text (by decide) Template.plain_nil))

/-- The part of a plain column is plain: the functions that take it have no braces in their
names or formats. -/
theorem DatePart.plain_extraction (part : DatePart) {column : String} (plain : Plain column) :
    Plain (part.extraction column) := by
  cases part <;> exact Plain.append (Plain.append (by decide) plain) (by decide)

/-- A plain column before an operator is plain. -/
theorem plain_comparison {column : String} (plain : Plain column) {given operator : String}
    (known : Operator.render given = .ok operator) : Plain (column ++ " " ++ operator ++ " ") :=
  ((plain.append (by decide)).append (Operator.bare_render known)).append (by decide)

mutual

/-- A predicate with plain texts has a plain fragment. Nothing is asked of its operator, of
which only the form is written. -/
theorem Predicate.plain_template : (predicate : Predicate) →
    (∀ text ∈ predicate.texts, Plain text) →
    Yields predicate.template fun fragment => ∀ template ∈ fragment, template.Plain
  | .raw sql => fun texts => by
    unfold Predicate.template
    refine .of_pure ?_
    rintro template ⟨⟩
    exact Template.plain_text (texts sql List.mem_cons_self) Template.plain_nil
  | .basic column operator value => fun texts => by
    unfold Predicate.template
    obtain ⟨name, others⟩ := List.forall_mem_cons.mp texts
    refine .bind fun operator known => .of_pure ?_
    rintro template ⟨⟩
    exact Template.plain_text (plain_comparison (plain_wrap name) known)
      (Operand.plain_template others)
  | .columns first operator second => fun texts => by
    unfold Predicate.template
    obtain ⟨left, others⟩ := List.forall_mem_cons.mp texts
    have right := plain_wrap (others _ List.mem_cons_self)
    refine .bind fun operator known => .of_pure ?_
    rintro template ⟨⟩
    exact Template.plain_text ((plain_comparison (plain_wrap left) known).append right)
      Template.plain_nil
  | .inList column values negated => fun texts => by
    unfold Predicate.template
    obtain ⟨name, others⟩ := List.forall_mem_cons.mp texts
    refine .of_pure ?_
    rintro template ⟨⟩
    refine plain_listTemplate negated name ?_
    intro item member
    obtain ⟨operand, listed, rfl⟩ := List.mem_map.mp member
    exact Operand.plain_template fun text inOperand =>
      others text (List.mem_flatMap.mpr ⟨operand, listed, inOperand⟩)
  | .inIntegers column values negated => fun texts => by
    unfold Predicate.template
    refine .of_pure ?_
    rintro template ⟨⟩
    refine plain_listTemplate negated (texts _ List.mem_cons_self) ?_
    intro item member
    obtain ⟨value, listed, rfl⟩ := List.mem_map.mp member
    exact Template.plain_text (bare_int value.toInt) Template.plain_nil
  | .null column negated => fun texts => by
    unfold Predicate.template
    refine .of_pure ?_
    rintro template ⟨⟩
    have function : Plain (nullFunction negated) := by cases negated <;> decide
    have name := plain_wrap (texts _ List.mem_cons_self)
    exact Template.plain_text (((function.append (by decide)).append name).append (by decide))
      Template.plain_nil
  | .between column low high negated => fun texts => by
    unfold Predicate.template
    obtain ⟨name, ends⟩ := List.forall_mem_cons.mp texts
    obtain ⟨start, finish⟩ := List.forall_mem_append.mp ends
    refine .of_pure ?_
    rintro template ⟨⟩
    exact plain_betweenTemplate negated name (Operand.plain_template start)
      (Operand.plain_template finish)
  | .betweenColumns column low high negated => fun texts => by
    unfold Predicate.template
    obtain ⟨name, ends⟩ := List.forall_mem_cons.mp texts
    obtain ⟨start, others⟩ := List.forall_mem_cons.mp ends
    have finish := plain_wrap (others _ List.mem_cons_self)
    refine .of_pure ?_
    rintro template ⟨⟩
    exact plain_betweenTemplate negated name
      (Template.plain_text (plain_wrap start) Template.plain_nil)
      (Template.plain_text finish Template.plain_nil)
  | .datePart column part operator value => fun texts => by
    unfold Predicate.template
    obtain ⟨name, others⟩ := List.forall_mem_cons.mp texts
    refine .bind fun operator known => .bind fun inner drafted => .of_pure ?_
    rintro template ⟨⟩
    exact Template.plain_text (plain_comparison (part.plain_extraction (plain_wrap name)) known)
      (plain_partTemplate part others inner drafted)
  | .nested conditions => fun texts => by
    unfold Predicate.template
    refine .bind fun fragments drafted => .of_pure ?_
    exact plain_nestedTemplate (plain_fragmentTemplates conditions texts fragments drafted)

/-- A condition with plain texts has a plain fragment. -/
theorem Condition.plain_template : (condition : Condition) →
    (∀ text ∈ condition.texts, Plain text) →
    Yields condition.template fun fragment => ∀ template ∈ fragment, template.2.Plain
  | ⟨connector, predicate⟩ => fun texts => by
    unfold Condition.template
    refine .bind fun fragment drafted => .of_pure ?_
    intro template member
    obtain ⟨inner, present, rfl⟩ := Option.map_eq_some_iff.mp member
    exact predicate.plain_template texts fragment drafted inner present

/-- Conditions with plain texts have plain fragments. -/
theorem plain_fragmentTemplates : (conditions : List Condition) →
    (∀ text ∈ conditionTexts conditions, Plain text) →
    Yields (fragmentTemplates conditions) fun fragments => ∀ fragment ∈ fragments, fragment.2.Plain
  | [] => fun _ => by
    unfold fragmentTemplates
    exact .of_pure fun fragment member => absurd member List.not_mem_nil
  | condition :: rest => fun texts => by
    unfold fragmentTemplates
    obtain ⟨first, others⟩ := List.forall_mem_append.mp texts
    refine .bind fun fragment drafted => .bind fun fragments draftedRest => .of_pure ?_
    refine List.forall_mem_append.mpr ⟨?_, ?_⟩
    · intro template member
      exact condition.plain_template first fragment drafted template (Option.mem_toList.mp member)
    · exact plain_fragmentTemplates rest others fragments draftedRest

end

/-! ## Statements -/

/-- The where clause of conditions with plain texts is plain. -/
theorem plain_whereTemplate {conditions : List Condition}
    (texts : ∀ text ∈ conditionTexts conditions, Plain text) :
    Yields (whereTemplate conditions) Template.Plain := by
  have joined : Yields (conditionsTemplate conditions) Template.Plain :=
    .bind fun fragments drafted =>
      .of_pure (plain_joinTemplates (plain_fragmentTemplates conditions texts fragments drafted))
  refine .bind fun text drafted => .of_pure ?_
  split
  · exact Template.plain_nil
  · exact Template.plain_text (by decide) (joined text drafted)

/-- A joined table with plain texts is rendered plainly. -/
theorem Join.plain_render {join : Join} (texts : ∀ text ∈ join.texts, Plain text) :
    Yields join.render Plain := by
  obtain ⟨table, columns⟩ := List.forall_mem_cons.mp texts
  have keyword : Plain join.kind.keyword := by cases join.kind <;> decide
  have head : Plain (join.kind.keyword ++ " " ++ Identifier.wrapName join.table) :=
    (keyword.append (by decide)).append (plain_wrapName table)
  unfold Join.render
  dsimp only
  split
  · exact .of_pure head
  · exact .of_pure head
  · rename_i on given _
    rw [given] at columns
    refine .bind fun operator known => .of_pure ?_
    have onWord : Plain " on " := by decide
    have left := (head.append onWord).append (plain_wrap (columns on.left.text (by simp)))
    have right := plain_wrap (columns on.right.text (by simp))
    exact (plain_comparison left known).append right

namespace Query

variable {query : Query}

/-- Rendered columns with plain texts are plain. -/
theorem plain_renderColumns {columns : List Column}
    (texts : ∀ text ∈ columns.map Column.text, Plain text) : Plain (renderColumns columns) := by
  refine plain_intercalate (by decide) ?_
  intro rendered member
  obtain ⟨column, listed, rfl⟩ := List.mem_map.mp member
  exact plain_wrap (texts _ (List.mem_map_of_mem listed))

/-- An ordering key with a plain column is plain. -/
theorem plain_orderKey {key : OrderKey} (plain : Plain key.column.text) : Plain key.render := by
  have direction : Plain key.direction.keyword := by cases key.direction <;> decide
  exact ((plain_wrap plain).append (by decide)).append direction

/-- A clause that stands in the text is plain if it is plain where it stands. -/
theorem plain_clause {present : Bool} {text : String} (plain : Plain text) :
    ∀ written ∈ clause present text, Plain written := by
  intro written member
  unfold clause at member
  split at member
  · rw [List.mem_singleton.mp member]
    exact plain
  · cases member

/-- The number of rows of a limit or an offset is plain. -/
theorem plain_paging {word : String} (plain : Plain word) (number : Option UInt64) :
    ∀ written ∈ number.toList.map fun rows => word ++ toString rows.toNat, Plain written := by
  intro written member
  obtain ⟨rows, -, rfl⟩ := List.mem_map.mp member
  exact plain.append (bare_nat rows.toNat)

/-- The head of a select with plain texts is plain. -/
theorem plain_selectHead (texts : ∀ text ∈ query.columns.map Column.text, Plain text) :
    Plain query.selectHead := by
  unfold selectHead
  refine Plain.append ?_ ?_
  · split <;> decide
  · split
    · decide
    · exact plain_renderColumns texts

/-- The clauses behind the conditions are plain. -/
theorem plain_tail (groups : ∀ text ∈ query.groups.map Column.text, Plain text)
    (orderings : ∀ text ∈ query.orderings.map fun key => key.column.text, Plain text) :
    ∀ written ∈ query.tail, Plain written := by
  have keys : Plain (", ".intercalate (query.orderings.map OrderKey.render)) := by
    refine plain_intercalate (by decide) ?_
    intro rendered member
    obtain ⟨key, listed, rfl⟩ := List.mem_map.mp member
    exact plain_orderKey (orderings _ (List.mem_map_of_mem listed))
  unfold tail
  refine List.forall_mem_append.mpr ⟨List.forall_mem_append.mpr ⟨List.forall_mem_append.mpr
    ⟨?_, ?_⟩, ?_⟩, ?_⟩
  · exact plain_clause (Plain.append (by decide) (plain_renderColumns groups))
  · exact plain_clause (Plain.append (by decide) keys)
  · exact plain_paging (by decide) query.limit
  · exact plain_paging (by decide) query.offset

/-- A plain filter between plain clauses is plain, since only blanks are put between them. -/
theorem plain_clausesTemplate {front back : List String} {filter : Template}
    (start : ∀ written ∈ front, Plain written) (middle : filter.Plain)
    (finish : ∀ written ∈ back, Plain written) : (clausesTemplate front filter back).Plain := by
  have without : ∀ {clauses : List String}, (∀ written ∈ clauses, Plain written) →
      ∀ template ∈ holeless clauses, template.Plain := by
    intro clauses plain template member
    obtain ⟨written, listed, rfl⟩ := List.mem_map.mp member
    exact Template.plain_text (plain written listed) Template.plain_nil
  refine Template.plain_join (by decide) ?_
  refine List.forall_mem_append.mpr ⟨List.forall_mem_append.mpr ⟨without start, ?_⟩, without finish⟩
  intro template member
  unfold clauseTemplate at member
  split at member
  · cases member
  · rw [List.mem_singleton.mp member]
    exact middle

/-- The where clause of a change with plain texts is plain. -/
theorem plain_filterTemplate (texts : ∀ text ∈ conditionTexts query.conditions, Plain text) :
    Yields query.filterTemplate Template.Plain := by
  refine .bind fun filter drafted => .of_pure ?_
  split
  · exact Template.plain_text (by decide) Template.plain_nil
  · exact plain_whereTemplate texts filter drafted

end Query

/-- The parts of a query with plain texts have plain texts. -/
structure Query.PlainTexts (query : Query) : Prop where
  table : Plain query.table
  columns : ∀ text ∈ query.columns.map Column.text, Plain text
  joins : ∀ join ∈ query.joins, ∀ text ∈ join.texts, Plain text
  conditions : ∀ text ∈ conditionTexts query.conditions, Plain text
  groups : ∀ text ∈ query.groups.map Column.text, Plain text
  orderings : ∀ text ∈ query.orderings.map fun key => key.column.text, Plain text

/-- If all texts of a query are plain, those of each part are. It is said once here, so that no
clause has to be picked out of the list again. -/
theorem Query.plainTexts {query : Query} (texts : ∀ text ∈ query.texts, Plain text) :
    query.PlainTexts := by
  obtain ⟨table, others⟩ := List.forall_mem_cons.mp texts
  simp only [List.forall_mem_append, List.mem_flatMap] at others
  obtain ⟨⟨⟨⟨columns, joins⟩, conditions⟩, groups⟩, orderings⟩ := others
  exact ⟨table, columns, fun join listed text inJoin => joins text ⟨join, listed, inJoin⟩,
    conditions, groups, orderings⟩

/-- The statement that a command with plain texts means is plain between its holes. Its braces
are then those of the holes alone. -/
theorem Command.plain_template (command : Command) (texts : ∀ text ∈ command.texts, Plain text) :
    Yields command.template Template.Plain := by
  cases command with
  | select query =>
    have parts := Query.plainTexts texts
    have source : Plain ("from " ++ Identifier.wrapName query.table) :=
      Plain.append (by decide) (plain_wrapName parts.table)
    refine .bind fun joins rendered => .bind fun filter drafted => .of_pure ?_
    have joined := Yields.mapM (fun join member => Join.plain_render (parts.joins join member))
      joins rendered
    refine Query.plain_clausesTemplate ?_ (plain_whereTemplate parts.conditions filter drafted)
      (Query.plain_tail parts.groups parts.orderings)
    exact List.forall_mem_cons.mpr ⟨Query.plain_selectHead parts.columns,
      List.forall_mem_cons.mpr ⟨source, joined⟩⟩
  | count query =>
    have parts := Query.plainTexts texts
    have head : Plain ("select count() from " ++ Identifier.wrapName query.table) :=
      Plain.append (by decide) (plain_wrapName parts.table)
    refine .bind fun joins rendered => .bind fun filter drafted => .of_pure ?_
    have joined := Yields.mapM (fun join member => Join.plain_render (parts.joins join member))
      joins rendered
    exact Query.plain_clausesTemplate (List.forall_mem_cons.mpr ⟨head, joined⟩)
      (plain_whereTemplate parts.conditions filter drafted)
      fun written member => absurd member List.not_mem_nil
  | update query assignments =>
    obtain ⟨inQuery, columns⟩ := List.forall_mem_append.mp texts
    have parts := Query.plainTexts inQuery
    have head : Plain ("alter table " ++ Identifier.wrapName query.table ++ " update ") :=
      (Plain.append (by decide) (plain_wrapName parts.table)).append (by decide)
    have assigned : ∀ template ∈ assignments.fields.map assignmentTemplate, template.Plain := by
      intro template member
      obtain ⟨assignment, listed, rfl⟩ := List.mem_map.mp member
      have column := plain_wrapName (columns _ (List.mem_map_of_mem listed))
      exact Template.plain_text (column.append (by decide))
        (Template.plain_hole assignment.2 Template.plain_nil)
    change Yields (query.updateTemplate assignments) Template.Plain
    unfold Query.updateTemplate
    split
    · rintro template ⟨⟩
    · refine .bind fun filter drafted => .of_pure ?_
      have filtered := Query.plain_filterTemplate parts.conditions filter drafted
      exact Template.plain_text head ((Template.plain_join (by decide) assigned).append
        (Template.plain_text (by decide) filtered))
  | delete query =>
    have parts := Query.plainTexts texts
    refine .bind fun filter drafted => .of_pure ?_
    refine Template.plain_text ?_ (Query.plain_filterTemplate parts.conditions filter drafted)
    exact (Plain.append (by decide) (plain_wrapName parts.table)).append (by decide)

end BoundSql
