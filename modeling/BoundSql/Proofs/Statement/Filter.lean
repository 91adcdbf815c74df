import BoundSql.Proofs.Statement.BoundValues
import BoundSql.Proofs.Statement.Soundness

/-!
# No statement loses its filter

All statements on the same conditions show the same text of them. A change of
every row is meant only where that text is empty, and it is empty only if nobody
wrote anything: the conditions are empty raw texts and groups of such. Whether
it is empty is decided on the rendered text, so it is shown of every kind of
predicate that it leaves something there.
-/

namespace BoundSql

open Fillable Registry

/-! ## Conditions that say nothing -/

mutual

/-- A predicate that says nothing: raw text that is empty, or a group in which nothing is said.
Raw text of blanks says something, since it is not looked at. -/
def Predicate.Vacuous : Predicate → Prop
  | .raw sql => sql = ""
  | .nested conditions => AllVacuous conditions
  | .basic _ _ _ | .columns _ _ _ | .inList _ _ _ | .inIntegers _ _ _ | .null _ _
  | .between _ _ _ _ | .betweenColumns _ _ _ _ | .datePart _ _ _ _ => False

/-- A condition that says nothing, with any connector. -/
def Condition.Vacuous : Condition → Prop
  | ⟨_, predicate⟩ => predicate.Vacuous

/-- Conditions none of which says anything. Without conditions this is so. -/
def AllVacuous : List Condition → Prop
  | [] => True
  | condition :: rest => condition.Vacuous ∧ AllVacuous rest

end

/-! ## Blank templates -/

namespace Template

/-- Texts behind each other are blank if both are. -/
theorem isBlank_append (front back : Template) :
    isBlank (front ++ back) = (front.isBlank && back.isBlank) :=
  List.all_append

/-- A template is not blank if a text in it is not empty. -/
theorem isBlank_text {written : String} (shown : written ≠ "") (rest : Template) :
    isBlank (.text written :: rest) = false := by
  have some : written.isEmpty = false := by simpa [String.isEmpty_eq_false_iff] using shown
  rw [isBlank, List.all_cons, Piece.isBlank, some, Bool.false_and]

/-- A text and the next fragment are blank if both are. -/
theorem isBlank_followedBy (text : Template) (fragment : Connector × Template) :
    (text.followedBy fragment).isBlank = (text.isBlank && fragment.2.isBlank) := by
  unfold followedBy
  split
  · rename_i blank
    rw [blank, Bool.true_and]
  · rename_i shown
    rw [isBlank_append, Bool.eq_false_iff.mpr shown, Bool.false_and, Bool.false_and]

end Template

/-- Fragments behind each other are blank if all of them are. -/
theorem isBlank_joinTemplates (fragments : List (Connector × Template)) :
    (joinTemplates fragments).isBlank = fragments.all fun fragment => fragment.2.isBlank := by
  have general : ∀ text : Template, (fragments.foldl Template.followedBy text).isBlank =
      (text.isBlank && fragments.all fun fragment => fragment.2.isBlank) := by
    induction fragments with
    | nil => simp
    | cons first rest inductionHypothesis =>
      intro text
      rw [List.foldl_cons, inductionHypothesis, Template.isBlank_followedBy, List.all_cons,
        Bool.and_assoc]
  exact general []

/-- A fragment that starts with some text is not blank. -/
theorem shown_iff {written : String} (shown : written ≠ "") (rest : Template) :
    (∀ template : Template, template ∈ some (.text written :: rest : Template) →
      template.isBlank = true) ↔ False := by
  simp [Template.isBlank_text shown]

/-- Conditions in parentheses are blank exactly if they are dropped. -/
theorem blank_nestedTemplate (fragments : List (Connector × Template)) :
    (∀ template ∈ nestedTemplate fragments, template.isBlank = true) ↔
      ∀ fragment ∈ fragments, fragment.2.isBlank = true := by
  have blank := isBlank_joinTemplates fragments
  unfold nestedTemplate
  split
  · rename_i nothing
    rw [nothing] at blank
    simpa using blank.symm
  · rename_i something
    have opened : "(" ≠ "" := by decide
    rw [shown_iff opened]
    rw [Bool.eq_false_iff.mpr something] at blank
    simpa using blank.symm

/-- A list is never blank, not even an empty one, which is rendered as a condition that always
or never holds. -/
theorem shown_listTemplate (column : Column) (negated : Bool) (items : List Template) :
    (∀ template ∈ some (listTemplate column negated items), template.isBlank = true) ↔ False := by
  unfold listTemplate
  split
  · refine shown_iff ?_ []
    cases negated <;> decide
  · refine shown_iff ?_ _
    simp

mutual

/-- A predicate's fragment is missing or blank exactly if the predicate says nothing. Every kind
but raw text and groups writes at least a word. -/
theorem Predicate.blank_iff : (predicate : Predicate) →
    Yields predicate.template fun fragment =>
      (∀ template ∈ fragment, template.isBlank = true) ↔ predicate.Vacuous
  | .raw sql => by
    unfold Predicate.template Predicate.Vacuous
    refine .of_pure ?_
    simp [Template.isBlank, Piece.isBlank, String.isEmpty_iff]
  | .basic column operator operand => by
    unfold Predicate.template Predicate.Vacuous
    refine .bind fun operator _ => .of_pure (shown_iff ?_ _)
    simp
  | .columns first operator second => by
    unfold Predicate.template Predicate.Vacuous
    refine .bind fun operator _ => .of_pure (shown_iff ?_ _)
    simp
  | .inList column operands negated => by
    unfold Predicate.template Predicate.Vacuous
    exact .of_pure (shown_listTemplate column negated _)
  | .inIntegers column values negated => by
    unfold Predicate.template Predicate.Vacuous
    exact .of_pure (shown_listTemplate column negated _)
  | .null column negated => by
    unfold Predicate.template Predicate.Vacuous
    refine .of_pure (shown_iff ?_ _)
    simp
  | .between column low high negated => by
    unfold Predicate.template Predicate.Vacuous
    refine .of_pure (shown_iff ?_ _)
    simp
  | .betweenColumns column low high negated => by
    unfold Predicate.template Predicate.Vacuous
    refine .of_pure (shown_iff ?_ _)
    simp
  | .datePart column part operator operand => by
    unfold Predicate.template Predicate.Vacuous
    refine .bind fun operator _ => .bind fun value _ => .of_pure (shown_iff ?_ _)
    simp
  | .nested conditions => by
    unfold Predicate.template Predicate.Vacuous
    refine .bind fun fragments drafted => .of_pure ?_
    rw [blank_nestedTemplate]
    exact blank_fragments_iff conditions fragments drafted

/-- A condition's fragment is missing or blank exactly if the condition says
nothing. -/
theorem Condition.blank_iff : (condition : Condition) →
    Yields condition.template fun fragment =>
      (∀ template ∈ fragment, template.2.isBlank = true) ↔ condition.Vacuous
  | ⟨connector, predicate⟩ => by
    unfold Condition.template Condition.Vacuous
    refine .bind fun fragment drafted => .of_pure ?_
    have inner : (∀ template ∈ fragment, template.isBlank = true) ↔ predicate.Vacuous :=
      predicate.blank_iff fragment drafted
    rw [← inner]
    cases fragment <;> simp

/-- The fragments of conditions are all blank exactly if no condition says
anything. -/
theorem blank_fragments_iff : (conditions : List Condition) →
    Yields (fragmentTemplates conditions) fun fragments =>
      (∀ fragment ∈ fragments, fragment.2.isBlank = true) ↔ AllVacuous conditions
  | [] => by
    unfold fragmentTemplates AllVacuous
    exact .of_pure (by simp)
  | condition :: rest => by
    unfold fragmentTemplates AllVacuous
    refine .bind fun fragment drafted => .bind fun fragments draftedRest => .of_pure ?_
    have here : (∀ template ∈ fragment, template.2.isBlank = true) ↔ condition.Vacuous :=
      condition.blank_iff fragment drafted
    have later : (∀ fragment ∈ fragments, fragment.2.isBlank = true) ↔ AllVacuous rest :=
      blank_fragments_iff rest fragments draftedRest
    rw [← here, ← later]
    cases fragment <;> simp

end

/-- The text of conditions is blank exactly if no condition says anything. Values do not matter
to this: a hole is never empty. -/
theorem blank_conditions_iff (conditions : List Condition) :
    Yields (conditionsTemplate conditions)
      fun text => text.isBlank = true ↔ AllVacuous conditions := by
  refine .bind fun fragments drafted => .of_pure ?_
  rw [isBlank_joinTemplates, List.all_eq_true]
  exact blank_fragments_iff conditions fragments drafted

/-! ## Statements around the text of their conditions -/

/-- The where clause of a select or a count; no clause for no text. It is said on the text
alone, without the conditions it comes from. -/
def whereClauses (text : String) : List String :=
  if text = "" then [] else ["where " ++ text]

/-- The where clause of a change, which needs one; for no text it is one that every row meets. -/
def changeClause (text : String) : String :=
  if text = "" then "where 1 = 1" else "where " ++ text

/-- The joins of a query, as far as they are legal. In a statement that is compiled all of them
are. -/
def Query.joinTexts (query : Query) : List String :=
  query.joins.filterMap fun join => join.render.toOption

/-- The text of a command around the text of its conditions. Only the values that an update
assigns depend on the naming. -/
def Command.around (naming : Value → Token) (text : String) : Command → String
  | .select query => " ".intercalate (query.selectHead ::
      ("from " ++ Identifier.wrapName query.table) :: query.joinTexts ++ whereClauses text ++
        query.tail)
  | .count query => " ".intercalate
      (("select count() from " ++ Identifier.wrapName query.table) :: query.joinTexts ++
        whereClauses text)
  | .update query assignments =>
    "alter table " ++ Identifier.wrapName query.table ++ " update " ++
      ", ".intercalate (assignments.fields.map fun assignment =>
        Identifier.wrapName assignment.1 ++ " = " ++
          (naming assignment.2).standIn assignment.2) ++ " " ++ changeClause text
  | .delete query =>
    "alter table " ++ Identifier.wrapName query.table ++ " delete " ++ changeClause text

/-- The text of a select around the text of its conditions. -/
theorem Command.around_select (naming : Value → Token) (text : String) (query : Query) :
    (Command.select query).around naming text = " ".intercalate (query.selectHead ::
      ("from " ++ Identifier.wrapName query.table) :: query.joinTexts ++ whereClauses text ++
        query.tail) :=
  rfl

/-- Joins that are all legal are all rendered. -/
theorem Query.joinTexts_of_mapM {query : Query} {joins : List String}
    (rendered : query.joins.mapM Join.render = .ok joins) : query.joinTexts = joins := by
  unfold joinTexts
  generalize query.joins = given at rendered
  induction given generalizing joins with
  | nil =>
    rw [List.mapM_nil] at rendered
    exact Except.ok.inj rendered
  | cons first rest inductionHypothesis =>
    rw [List.mapM_cons] at rendered
    cases here : first.render with
    | error error =>
      rw [here] at rendered
      cases rendered
    | ok text =>
      cases later : rest.mapM Join.render with
      | error error =>
        rw [here, later] at rendered
        cases rendered
      | ok texts =>
        rw [here, later] at rendered
        obtain rfl := Except.ok.inj rendered
        rw [List.filterMap_cons_some (by rw [here]; rfl), inductionHypothesis later]

/-- The where clause that is meant, filled. -/
theorem fill_whereTemplate {conditions : List Condition} {text : Template}
    (known : conditionsTemplate conditions = .ok text) :
    Yields (whereTemplate conditions) fun filter => ∀ naming,
      filter.fill naming = if text.fill naming = "" then "" else "where " ++ text.fill naming := by
  unfold whereTemplate
  rw [known]
  refine .of_pure fun naming => ?_
  have blank : text.isBlank = true ↔ text.fill naming = "" := by
    rw [← Template.isEmpty_fill naming, String.isEmpty_iff]
  by_cases empty : text.fill naming = ""
  · rw [if_pos empty, if_pos (blank.mpr empty), Template.fill_nil]
  · rw [if_neg empty, if_neg (fun nothing => empty (blank.mp nothing)), Template.fill_text]

/-- The clauses of a select or a count, filled. -/
theorem fill_clauses {conditions : List Condition} {text : Template}
    (known : conditionsTemplate conditions = .ok text) (front back : List String) :
    Yields (whereTemplate conditions) fun filter => ∀ naming,
      (clausesTemplate front filter back).fill naming =
        " ".intercalate (front ++ whereClauses (text.fill naming) ++ back) := by
  intro filter drafted naming
  have shown := fill_whereTemplate known filter drafted naming
  rw [fill_clausesTemplate, shown]
  unfold clause whereClauses
  by_cases empty : text.fill naming = ""
  · simp [empty]
  · simp [empty, String.isEmpty_eq_false_iff]

/-- The where clause of a change that is meant, filled. -/
theorem Query.fill_filterTemplate {query : Query} {text : Template}
    (known : conditionsTemplate query.conditions = .ok text) :
    Yields query.filterTemplate fun filter => ∀ naming,
      filter.fill naming = changeClause (text.fill naming) := by
  refine .bind fun filter drafted => .of_pure fun naming => ?_
  have shown := fill_whereTemplate known filter drafted naming
  have blank : filter.isBlank = true ↔ text.fill naming = "" := by
    rw [← Template.isEmpty_fill naming, String.isEmpty_iff, shown]
    by_cases empty : text.fill naming = ""
    · simp [empty]
    · simp [empty]
  unfold changeClause
  by_cases empty : text.fill naming = ""
  · rw [if_pos (blank.mpr empty), if_pos empty]
    rfl
  · rw [if_neg (fun nothing => empty (blank.mp nothing)), if_neg empty, shown, if_neg empty]

namespace Command

/-- The statement that a command means, filled: its text around that of its
conditions. -/
theorem fill_template (command : Command) {text : Template}
    (known : conditionsTemplate command.query.conditions = .ok text) :
    Yields command.template fun template => ∀ naming,
      template.fill naming = command.around naming (text.fill naming) := by
  cases command with
  | select query =>
    refine .bind fun joins rendered => .bind fun filter drafted => .of_pure fun naming => ?_
    rw [fill_clauses known _ _ filter drafted naming, around_select,
      Query.joinTexts_of_mapM rendered]
  | count query =>
    refine .bind fun joins rendered => .bind fun filter drafted => .of_pure fun naming => ?_
    rw [fill_clauses known _ _ filter drafted naming, ← Query.joinTexts_of_mapM rendered,
      List.append_nil]
    rfl
  | update query assignments =>
    change Yields (query.updateTemplate assignments) _
    unfold Query.updateTemplate
    split
    · rintro template ⟨⟩
    · refine .bind fun filter drafted => .of_pure fun naming => ?_
      have each : (assignments.fields.map fun assignment =>
          (assignmentTemplate assignment).fill naming) =
          assignments.fields.map fun assignment => Identifier.wrapName assignment.1 ++ " = " ++
            (naming assignment.2).standIn assignment.2 := by
        refine List.map_congr_left fun assignment _ => ?_
        rw [assignmentTemplate, Template.fill_text, Template.fill, Template.fill_hole,
          Template.fill_nil, String.append_empty]
      rw [fill_updateTemplate, Query.fill_filterTemplate known filter drafted naming, each]
      rfl
  | delete query =>
    refine .bind fun filter drafted => .of_pure fun naming => ?_
    rw [Template.fill_text, Query.fill_filterTemplate known filter drafted naming]
    rfl

/-- The statement that a command means needs a text of its conditions. Whichever kind it is,
conditions that cannot be drafted leave it undrafted. -/
theorem conditions_of_template (command : Command) :
    Yields command.template fun _ =>
      ∃ text, conditionsTemplate command.query.conditions = .ok text := by
  have filtered : ∀ {conditions : List Condition} {filter : Template},
      whereTemplate conditions = .ok filter →
        ∃ text, conditionsTemplate conditions = .ok text := by
    intro conditions filter drafted
    unfold whereTemplate at drafted
    cases known : conditionsTemplate conditions with
    | ok text => exact ⟨text, rfl⟩
    | error error =>
      rw [known] at drafted
      cases drafted
  have changed : ∀ {query : Query}, Yields query.filterTemplate fun _ =>
      ∃ text, conditionsTemplate query.conditions = .ok text := by
    intro query
    exact .bind fun filter drafted => .of_pure (filtered drafted)
  cases command with
  | select query => exact .bind fun joins _ => .bind fun filter drafted => .of_pure (filtered drafted)
  | count query => exact .bind fun joins _ => .bind fun filter drafted => .of_pure (filtered drafted)
  | update query assignments =>
    change Yields (query.updateTemplate assignments) _
    unfold Query.updateTemplate
    split
    · rintro template ⟨⟩
    · exact .bind fun filter drafted => .of_pure (changed filter drafted)
  | delete query => exact .bind fun filter drafted => .of_pure (changed filter drafted)

/-- A delete is meant where its conditions have a text. -/
theorem delete_template {query : Query} {text : Template}
    (known : conditionsTemplate query.conditions = .ok text) :
    ∃ template, (delete query).template = .ok template := by
  change ∃ template, query.deleteTemplate = .ok template
  unfold Query.deleteTemplate Query.filterTemplate whereTemplate
  rw [known]
  exact ⟨_, rfl⟩

/-- An update that assigns something is meant where its conditions have a text. Nothing else can
be wrong with it, since it renders no join. -/
theorem update_template {query : Query} {text : Template} {assignments : Record}
    (known : conditionsTemplate query.conditions = .ok text)
    (assigns : assignments.isEmpty = false) :
    ∃ template, (update query assignments).template = .ok template := by
  change ∃ template, query.updateTemplate assignments = .ok template
  unfold Query.updateTemplate Query.filterTemplate whereTemplate
  rw [known, assigns]
  exact ⟨_, rfl⟩

end Command

/-! ## The where group -/

namespace Registry

/-- Giving a token records it for no clause. -/
theorem bindings_assign (registry : Registry) (value : Value) :
    (registry.assign value).2.bindings = registry.bindings := by
  cases known : registry.known.lookup value.fingerprint with
  | some token => rw [assign_of_known known]
  | none => rw [assign_of_new known]

/-- Giving tokens to several values records none of them for a clause. -/
theorem bindings_assignAll (values : List Value) (registry : Registry) :
    (registry.assignAll values).2.bindings = registry.bindings := by
  induction values generalizing registry with
  | nil => rfl
  | cons value rest inductionHypothesis =>
    exact (inductionHypothesis (registry.assign value).2).trans (bindings_assign registry value)

end Registry

/-- A value listed under a token of the filter is carried by every statement, an update among
them. -/
theorem Command.carried_of_where (command : Command) {after : Registry} {token : Token}
    {value : Value} (recorded : (Group.whereClause, token) ∈ after.bindings)
    (listed : (token, value) ∈ after.values) : (token, value) ∈ (command.carried after).entries := by
  cases command with
  | select query => exact listed
  | count query => exact listed
  | delete query => exact listed
  | update query assignments =>
    refine List.mem_filter.mpr ⟨listed, ?_⟩
    rw [Bool.or_eq_true]
    exact Or.inr (boundForUpdate_of_filter recorded)

/-- Conditions that have a text bind their values. What they yield is the text
filled with the tokens that these values have from then on. -/
theorem runOn_conditions {conditions : List Condition} {text : Template}
    (known : conditionsTemplate conditions = .ok text) {registry later : Registry}
    (extended : (registry.withFilter (conditionValues conditions)).Extends later) :
    (renderConditions conditions).runOn registry =
      (.ok (text.fill later.tokenOf), registry.withFilter (conditionValues conditions)) := by
  have holes : text.holes = conditionValues conditions :=
    holes_conditionsTemplate conditions text known
  have ran := conditions_realise conditions registry
  rw [known] at ran
  rw [← holes] at extended ⊢
  exact ran later extended

namespace Command

/-- What a compiled command has of its conditions: their text, the tokens recorded
for the filter, which no later value changes, and the values under them. -/
theorem keeps_conditions (command : Command) {registry : Registry}
    (consistent : registry.Consistent) {text : Template}
    (known : conditionsTemplate command.query.conditions = .ok text) {statement : Statement}
    {after : Registry} (compiled : command.compile.runOn registry = (.ok statement, after)) :
    let filtered := registry.withFilter (conditionValues command.query.conditions)
    statement.sql = command.around after.tokenOf (text.fill filtered.tokenOf) ∧
      after.group .whereClause = filtered.group .whereClause ∧
      ∀ token ∈ filtered.group .whereClause, ∃ value,
        filtered.parameters.get? token.text = some value ∧
          statement.parameters.get? token.text = some value := by
  intro filtered
  have settled : filtered.Consistent :=
    Grows.consistent ⟨_, registry.growsBy_withFilter _⟩ consistent
  obtain ⟨template, drafted, complete, rfl⟩ := complete_of_compiled compiled
  have finished : Grows filtered after := ⟨_, complete ▸ growsBy_assignAll _ filtered⟩
  have recorded : after.bindings = filtered.bindings := complete ▸ bindings_assignAll _ filtered
  have text_eq : text.fill after.tokenOf = text.fill filtered.tokenOf := by
    have ran := runOn_conditions known finished.extends
    rw [runOn_conditions known (Extends.refl filtered)] at ran
    exact (Except.ok.inj (Prod.mk.inj ran).1).symm
  refine ⟨?_, ?_, ?_⟩
  · exact text_eq ▸ command.fill_template known template drafted after.tokenOf
  · unfold Registry.group
    rw [recorded]
  · intro token member
    obtain ⟨entry, listed, rfl⟩ := List.mem_map.mp (settled.group_assigned member)
    refine ⟨entry.2, get?_of_mem settled.tokens_nodup listed, ?_⟩
    have still : (entry.1, entry.2) ∈ after.values := finished.extends.values.subset listed
    have bound : (Group.whereClause, entry.1) ∈ after.bindings := by
      rw [recorded]
      exact mem_group_iff.mp member
    exact get?_of_mem (command.carried_nodup (finished.consistent settled))
      (command.carried_of_where bound still)

/-- Whatever happened to a registry before, its conditions are rendered in one
way for all statements on a query: either no statement is compiled, or all that
are compiled show the same text of the conditions, have the same tokens recorded
for the filter and carry the same values under them. The text is empty exactly
if no condition says anything; only then does a change mean every row and a
select or a count have no where clause. Changes are compiled as soon as the
conditions are, an update if it assigns anything. -/
theorem filter_is_kept (history : List Step) (query : Query) :
    let registry := run history Registry.empty
    match (renderConditions query.conditions).runOn registry with
    | (.error _, _) => ∀ command : Command, command.query = query → ∀ statement,
        (command.compile.runOn registry).1 ≠ .ok statement
    | (.ok text, filtered) =>
      (text = "" ↔ AllVacuous query.conditions) ∧
        (∀ value ∈ conditionValues query.conditions,
          filtered.tokenOf value ∈ filtered.group .whereClause) ∧
        (∃ statement, ((Command.delete query).compile.runOn registry).1 = .ok statement) ∧
        (∀ assignments : Record, assignments.isEmpty = false → ∃ statement,
          ((Command.update query assignments).compile.runOn registry).1 = .ok statement) ∧
        ∀ command : Command, command.query = query → ∀ statement after,
          command.compile.runOn registry = (.ok statement, after) →
            statement.sql = command.around after.tokenOf text ∧
              after.group .whereClause = filtered.group .whereClause ∧
              ∀ token ∈ filtered.group .whereClause, ∃ value,
                filtered.parameters.get? token.text = some value ∧
                  statement.parameters.get? token.text = some value := by
  intro registry
  have consistent : registry.Consistent := consistent_run history
  cases known : conditionsTemplate query.conditions with
  | error error =>
    have ran := conditions_realise query.conditions registry
    rw [known] at ran
    obtain ⟨values, stopped⟩ := ran
    rw [stopped]
    rintro command rfl statement compiled
    obtain ⟨template, drafted⟩ := template_of_compiled compiled
    obtain ⟨text, alsoKnown⟩ := command.conditions_of_template template drafted
    rw [known] at alsoKnown
    cases alsoKnown
  | ok text =>
    have ran := runOn_conditions known
      (Extends.refl (registry.withFilter (conditionValues query.conditions)))
    rw [ran]
    refine ⟨?_, ?_, ?_, ?_, ?_⟩
    · have blank : text.isBlank = true ↔ AllVacuous query.conditions :=
        blank_conditions_iff query.conditions text known
      rw [← blank, ← Template.isEmpty_fill, String.isEmpty_iff]
    · intro value member
      rw [mem_group_iff]
      exact recorded_of_mem_bindAll .whereClause registry member
    · obtain ⟨template, drafted⟩ := delete_template known
      obtain ⟨after, -, done⟩ := completes_with_values _ drafted registry
      exact ⟨_, congrArg Prod.fst done⟩
    · intro assignments assigns
      obtain ⟨template, drafted⟩ := update_template known assigns
      obtain ⟨after, -, done⟩ := completes_with_values _ drafted registry
      exact ⟨_, congrArg Prod.fst done⟩
    · rintro command rfl statement after compiled
      exact command.keeps_conditions consistent known compiled

end Command

end BoundSql
