import BoundSql.Proofs.Statement.Conditions

/-!
# Statements fill their holes

A select, a count and a delete bind the values of their filter and carry all
that is bound. An update binds the values of its filter, gives tokens to those
of its assignments, and carries what it needs of all that is bound. In every
case the text is the one that is meant, filled with the tokens known at the end.
-/

namespace BoundSql

open Fillable

/-! ## Clauses -/

/-- Filled clauses are the clauses with the filter filled. -/
theorem fill_clausesTemplate (naming : Value → Token) (front back : List String)
    (filter : Template) :
    Template.fill naming (clausesTemplate front filter back) =
      " ".intercalate (front ++ clause (!(Template.fill naming filter).isEmpty)
        (Template.fill naming filter) ++ back) := by
  have filled : ∀ clauses : List String,
      (holeless clauses).map (Template.fill naming) = clauses := by
    intro clauses
    simp [holeless, Function.comp_def]
  unfold clausesTemplate
  rw [Template.fill_join, List.map_append, List.map_append, filled, filled, Template.isEmpty_fill]
  unfold clauseTemplate clause
  cases filter.isBlank <;> rfl

/-- Only the filter has holes; the clauses around it bind nothing. -/
theorem holes_clausesTemplate (front back : List String) (filter : Template) :
    (clausesTemplate front filter back).holes = filter.holes := by
  have none : ∀ clauses : List String, (holeless clauses).flatMap Template.holes = [] := by
    intro clauses
    simp [holeless, List.flatMap_map]
  unfold clausesTemplate
  rw [Template.holes_join, List.flatMap_append, List.flatMap_append, none, none]
  unfold clauseTemplate
  split
  · rename_i blank
    simp [Template.holes_of_isBlank blank]
  · simp

namespace Query

/-- The text of a select realises the one that is meant. Joins fail before anything is bound, in
the text as in the draft. -/
theorem select_realises (query : Query) : Realises query.selectText query.selectTemplate := by
  refine .after fun joins => (where_realises query.conditions).map _
    (fun filter => clausesTemplate _ filter _) ?_ ?_
  · exact fun filter => holes_clausesTemplate _ _ filter
  · exact fun naming filter => fill_clausesTemplate naming _ _ filter

/-- The text of a count realises the one that is meant. -/
theorem count_realises (query : Query) : Realises query.countText query.countTemplate := by
  refine .after fun joins => (where_realises query.conditions).map _
    (fun filter => clausesTemplate _ filter _) ?_ ?_
  · exact fun filter => holes_clausesTemplate _ _ filter
  · intro naming filter
    have filled := fill_clausesTemplate naming
      (("select count() from " ++ Identifier.wrapName query.table) :: joins) [] filter
    rw [List.append_nil] at filled
    exact filled

/-- The where clause of a change realises the one that is meant, also where that is the clause
every row meets. -/
theorem filter_realises (query : Query) : Realises query.mutationFilter query.filterTemplate := by
  refine (where_realises query.conditions).map _
    (fun filter : Template => if filter.isBlank then [.text matchAll] else filter) ?_ ?_
  · intro filter
    split
    · rename_i blank
      exact (Template.holes_of_isBlank blank).symm
    · rfl
  · intro naming filter
    have empty : (fill naming filter).isEmpty = filter.isBlank :=
      Template.isEmpty_fill naming filter
    rw [empty]
    split
    · exact String.append_empty
    · rfl

/-- The text of a delete realises the one that is meant. -/
theorem delete_realises (query : Query) : Realises query.deleteText query.deleteTemplate := by
  refine query.filter_realises.map _ (fun filter : Template =>
    .text ("alter table " ++ Identifier.wrapName query.table ++ " delete ") :: filter) ?_ ?_
  · exact fun filter => rfl
  · exact fun naming filter => rfl

end Query

/-! ## Assignments -/

/-- The assignments of a record get their tokens one after the other. No token
changes, so each of them is what every later registry has for the value. -/
theorem runOn_assignments (assignments : List (String × Value)) (registry later : Registry)
    (extended : (registry.assignAll (assignments.map (·.2))).2.Extends later) :
    Compile.runOn (assignments.mapM Query.renderAssignment) registry =
      (.ok (assignments.map fun assignment => (later.tokenOf assignment.2,
        Template.fill later.tokenOf (assignmentTemplate assignment))),
        (registry.assignAll (assignments.map (·.2))).2) := by
  induction assignments generalizing registry with
  | nil => rfl
  | cons assignment rest inductionHypothesis =>
    obtain ⟨column, value⟩ := assignment
    have grown := Registry.growsBy_assignAll (rest.map (·.2)) (registry.assign value).2
    have token : later.tokenOf value = registry.tokenOf value :=
      (grown.extends.trans extended).tokenOf_eq (Registry.lookup_assign registry value)
    have first : (Query.renderAssignment (column, value)).runOn registry =
        (.ok (later.tokenOf value,
          Template.fill later.tokenOf (assignmentTemplate (column, value))),
          (registry.assign value).2) := by
      unfold Query.renderAssignment assignmentTemplate
      rw [Template.fill_text, Template.fill, Template.fill_hole, Template.fill_nil,
        String.append_empty, token]
      rfl
    rw [List.mapM_cons, Compile.runOn_bind, first]
    dsimp only
    rw [Compile.runOn_bind, inductionHypothesis (registry.assign value).2 extended]
    rfl

/-- A filled update has its assignments and its filter filled, all of them with one naming. -/
theorem fill_updateTemplate (naming : Value → Token) (head : String) (assignments : Record)
    (filter : Template) :
    Template.fill naming (.text head ::
      (Template.join ", " (assignments.fields.map assignmentTemplate) ++ .text " " :: filter)) =
    head ++ ", ".intercalate (assignments.fields.map
      fun assignment => Template.fill naming (assignmentTemplate assignment)) ++ " " ++
      filter.fill naming := by
  simp [Template.fill_join, Function.comp_def, String.append_assoc]

/-- The holes of an update are those of its assignments and those of its
filter. -/
theorem holes_updateTemplate (head : String) (assignments : Record) (filter : Template) :
    Template.holes (.text head :: (Template.join ", " (assignments.fields.map assignmentTemplate) ++
      .text " " :: filter)) = assignments.values ++ filter.holes := by
  have each : (assignments.fields.map assignmentTemplate).flatMap Template.holes =
      assignments.values := by
    simp [Record.values, List.flatMap_map, assignmentTemplate, ← List.map_eq_flatMap]
  rw [Template.holes_text, Template.holes_append, Template.holes_join, each, Template.holes_text]

/-! ## Statements -/

/-- A compilation of a statement does what its draft says. It fails where the
draft fails, with the same error, after binding some values. Else the holes are
those of the assigned values and those of the filter, the filter's values are
bound first, and the statement is the draft filled with the tokens known at the
end. -/
def Completes (action : Compile Statement) (draft : Except CompileError Template)
    (assigned : List Value) (carried : Registry → Parameters) : Prop :=
  ∀ registry : Registry,
    match draft with
    | .ok template => ∃ filtered after, template.holes = assigned ++ filtered ∧
        after = ((registry.withFilter filtered).assignAll assigned).2 ∧
        action.runOn registry = (.ok ⟨template.fill after.tokenOf, carried after⟩, after)
    | .error error => ∃ after, registry.Grows after ∧ action.runOn registry = (.error error, after)

/-- A statement whose text realises a draft carries all that is bound when the
text is complete. -/
theorem withParameters_completes {text : Compile String} {draft : Except CompileError Template}
    (realised : Realises text draft) :
    Completes (Query.withParameters text) draft [] Registry.parameters := by
  intro registry
  have ran := realised registry
  unfold Query.withParameters
  cases draft with
  | error error =>
    obtain ⟨values, stopped⟩ := ran
    refine ⟨_, ⟨values, registry.growsBy_withFilter values⟩, ?_⟩
    rw [Compile.runOn_bind, stopped]
  | ok template =>
    have done := ran _ (Registry.Extends.refl _)
    refine ⟨template.holes, _, rfl, rfl, ?_⟩
    rw [Compile.runOn_bind, done]
    rfl

/-- An update carries what it needs of all that is bound when the text is complete. What it
needs is told by the tokens of its assignments, known at the end. -/
theorem update_completes (query : Query) (assignments : Record) :
    Completes (query.compileUpdate assignments) (query.updateTemplate assignments)
      assignments.values
      fun after => after.parametersForUpdate (assignments.values.map after.tokenOf) := by
  intro registry
  unfold Query.compileUpdate Query.updateTemplate
  cases empty : assignments.isEmpty with
  | true => exact ⟨registry, Registry.Grows.refl registry, rfl⟩
  | false =>
    simp only [Bool.false_eq_true, if_false]
    have ran := query.filter_realises registry
    cases filtering : query.filterTemplate with
    | error error =>
      rw [filtering] at ran
      obtain ⟨values, stopped⟩ := ran
      refine ⟨_, ⟨values, registry.growsBy_withFilter values⟩, ?_⟩
      rw [Compile.runOn_bind, stopped]
    | ok filter =>
      rw [filtering] at ran
      generalize before_eq : registry.withFilter filter.holes = before
      generalize after_eq : (before.assignAll assignments.values).2 = after
      have extended : before.Extends after :=
        after_eq ▸ (Registry.growsBy_assignAll assignments.values before).extends
      have filtered : query.mutationFilter.runOn registry =
          (.ok (filter.fill after.tokenOf), before) := before_eq ▸ ran after (before_eq ▸ extended)
      have rendered := runOn_assignments assignments.fields before after
        (after_eq ▸ Registry.Extends.refl _)
      refine ⟨filter.holes, after, holes_updateTemplate _ assignments filter, ?_, ?_⟩
      · rw [before_eq, after_eq]
      · rw [Compile.runOn_bind, filtered]
        dsimp only
        rw [Compile.runOn_bind, rendered]
        dsimp only
        rw [show (assignments.fields.map (·.2)) = assignments.values from rfl, after_eq,
          fill_updateTemplate]
        simp only [Record.values, List.map_map]
        rfl

namespace Command

/-- The values that the statement of a command carries, from the registry in
which it is complete. -/
def carried (command : Command) (registry : Registry) : Parameters :=
  match command with
  | .update _ assignments =>
    registry.parametersForUpdate (assignments.values.map registry.tokenOf)
  | .select _ | .count _ | .delete _ => registry.parameters

/-- Every command does what the statement that is meant says, on any registry and also where it
fails. -/
theorem completes (command : Command) :
    Completes command.compile command.template command.assigned command.carried := by
  cases command with
  | select query => exact withParameters_completes query.select_realises
  | count query => exact withParameters_completes query.count_realises
  | delete query => exact withParameters_completes query.delete_realises
  | update query assignments => exact update_completes query assignments

end Command

end BoundSql
