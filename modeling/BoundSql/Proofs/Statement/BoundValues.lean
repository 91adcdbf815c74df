import BoundSql.Proofs.Statement.Command
import BoundSql.Proofs.Statement.Draft

/-!
# The values that a command binds

What is bound can be read off a query without rendering anything: the values of
its operands, from left to right and groups from the inside, a value that is
compared with a part of a date in its normal form; then what an update assigns.
These are the values of the holes of the statement that is meant.
-/

namespace BoundSql

open Fillable

/-- The query of a command. Every command has one, also those that use only its table and its
conditions. -/
def Command.query : Command → Query
  | .select query | .count query | .delete query | .update query _ => query

mutual

/-- The values that a predicate binds. A value that cannot be compared with its part of a date
binds nothing, and then the predicate is refused. -/
def Predicate.values : Predicate → List Value
  | .raw _ | .columns _ _ _ | .inIntegers _ _ _ | .null _ _ | .betweenColumns _ _ _ _ => []
  | .basic _ _ operand => operand.value?.toList
  | .inList _ operands _ => operands.filterMap Operand.value?
  | .between _ low high _ => low.value?.toList ++ high.value?.toList
  | .datePart _ part _ operand => (operand.value?.bind part.normalize?).toList
  | .nested conditions => conditionValues conditions

/-- The values that a condition binds. -/
def Condition.values : Condition → List Value
  | ⟨_, predicate⟩ => predicate.values

/-- The values that a list of conditions binds, from left to right and with repetitions. -/
def conditionValues : List Condition → List Value
  | [] => []
  | condition :: rest => condition.values ++ conditionValues rest

end

/-- The values that a command binds, in the order of binding: those of the
filter before those that are assigned. -/
def Command.boundValues (command : Command) : List Value :=
  conditionValues command.query.conditions ++ command.assigned

/-! ## Holes -/

/-- The hole of an operand holds the value that it binds; raw text has no hole and binds
nothing. -/
theorem Operand.holes_template (operand : Operand) :
    operand.template.holes = operand.value?.toList := by
  cases operand <;> rfl

/-- What a value is brought to for a part of a date is its normal form. -/
theorem DatePart.normalize_eq_ok {part : DatePart} {value normal : Value}
    (normalized : part.normalize value = .ok normal) : part.normalize? value = some normal := by
  unfold normalize at normalized
  split at normalized
  · rename_i form known
    exact known.trans (congrArg some (Except.ok.inj normalized))
  · cases normalized

/-- The hole of a value compared with a part of a date holds its normal form. -/
theorem holes_partTemplate (part : DatePart) (operand : Operand) :
    Yields (partTemplate part operand)
      fun template => template.holes = (operand.value?.bind part.normalize?).toList := by
  cases operand with
  | raw sql => exact .of_pure rfl
  | bound value =>
    refine .bind fun normal normalized => .of_pure ?_
    have known : part.normalize? value = some normal := DatePart.normalize_eq_ok normalized
    change [normal] = ((some value).bind part.normalize?).toList
    rw [Option.bind_some, known, Option.toList_some]

mutual

/-- The holes of a predicate's fragment hold the values that it binds. Recursion follows the
predicate into its groups. -/
theorem Predicate.holes_template : (predicate : Predicate) →
    Yields predicate.template fun fragment => holes fragment = predicate.values
  | .raw sql => by
    unfold Predicate.template
    exact .of_pure rfl
  | .basic column operator operand => by
    unfold Predicate.template
    refine .bind fun operator _ => .of_pure ?_
    exact (holes_some _).trans operand.holes_template
  | .columns first operator second => by
    unfold Predicate.template
    exact .bind fun operator _ => .of_pure rfl
  | .inList column operands negated => by
    unfold Predicate.template
    refine .of_pure ?_
    rw [holes_some]
    refine (holes_listTemplate column negated _).trans ?_
    simp only [List.flatMap_map, Operand.holes_template, Predicate.values,
      List.filterMap_eq_flatMap_toList]
  | .inIntegers column values negated => by
    unfold Predicate.template
    refine .of_pure ?_
    rw [holes_some]
    refine (holes_listTemplate column negated _).trans ?_
    simp [List.flatMap_map, Predicate.values]
  | .null column negated => by
    unfold Predicate.template
    exact .of_pure rfl
  | .between column low high negated => by
    unfold Predicate.template
    refine .of_pure ?_
    rw [holes_some]
    refine (holes_betweenTemplate column negated _ _).trans ?_
    rw [low.holes_template, high.holes_template, Predicate.values]
  | .betweenColumns column low high negated => by
    unfold Predicate.template
    refine .of_pure ?_
    rw [holes_some]
    exact holes_betweenTemplate column negated _ _
  | .datePart column part operator operand => by
    unfold Predicate.template
    refine .bind fun operator _ => .bind fun template drafted => .of_pure ?_
    exact (holes_some _).trans (holes_partTemplate part operand template drafted)
  | .nested conditions => by
    unfold Predicate.template
    refine .bind fun fragments drafted => .of_pure ?_
    exact (holes_nestedTemplate fragments).trans (holes_fragments conditions fragments drafted)

/-- The holes of a condition's fragment hold the values that it binds. -/
theorem Condition.holes_template : (condition : Condition) →
    Yields condition.template fun fragment => holes fragment = condition.values
  | ⟨connector, predicate⟩ => by
    unfold Condition.template
    refine .bind fun fragment drafted => .of_pure ?_
    have same : holes fragment = predicate.values :=
      predicate.holes_template fragment drafted
    rw [Condition.values, ← same]
    cases fragment <;> rfl

/-- The holes of fragments hold the values that their conditions bind. -/
theorem holes_fragments : (conditions : List Condition) →
    Yields (fragmentTemplates conditions) fun fragments =>
      holes fragments = conditionValues conditions
  | [] => by
    unfold fragmentTemplates
    exact .of_pure rfl
  | condition :: rest => by
    unfold fragmentTemplates
    refine .bind fun fragment drafted => .bind fun fragments draftedRest => .of_pure ?_
    have here : holes fragment = condition.values := condition.holes_template fragment drafted
    have later : holes fragments = conditionValues rest :=
      holes_fragments rest fragments draftedRest
    rw [conditionValues, ← here, ← later]
    exact List.flatMap_append

end

/-- The holes of the text of conditions hold the values that they bind. -/
theorem holes_conditionsTemplate (conditions : List Condition) :
    Yields (conditionsTemplate conditions)
      fun text => text.holes = conditionValues conditions :=
  .bind fun fragments drafted => .of_pure
    ((holes_joinTemplates fragments).trans (holes_fragments conditions fragments drafted))

/-- The holes of a where clause hold the values that the conditions bind. -/
theorem holes_whereTemplate (conditions : List Condition) :
    Yields (whereTemplate conditions)
      fun filter => filter.holes = conditionValues conditions := by
  refine .bind fun text drafted => .of_pure ?_
  rw [← holes_conditionsTemplate conditions text drafted]
  split
  · rename_i blank
    exact (Template.holes_of_isBlank blank).symm
  · rfl

/-- The holes of a change's where clause hold the values that the conditions
bind. -/
theorem Query.holes_filterTemplate (query : Query) :
    Yields query.filterTemplate
      fun filter => filter.holes = conditionValues query.conditions := by
  refine .bind fun filter drafted => .of_pure ?_
  rw [← holes_whereTemplate query.conditions filter drafted]
  split
  · rename_i blank
    exact (Template.holes_of_isBlank blank).symm
  · rfl

/-- The holes of the statement that a command means hold what it assigns and what its conditions
bind. That is the order of reading; the filter is bound first. -/
theorem Command.holes_template (command : Command) :
    Yields command.template fun template =>
      template.holes = command.assigned ++ conditionValues command.query.conditions := by
  cases command with
  | select query =>
    refine .bind fun joins _ => .bind fun filter drafted => .of_pure ?_
    rw [holes_clausesTemplate]
    exact holes_whereTemplate query.conditions filter drafted
  | count query =>
    refine .bind fun joins _ => .bind fun filter drafted => .of_pure ?_
    rw [holes_clausesTemplate]
    exact holes_whereTemplate query.conditions filter drafted
  | update query assignments =>
    change Yields (query.updateTemplate assignments) _
    unfold Query.updateTemplate
    split
    · rintro template ⟨⟩
    · refine .bind fun filter drafted => .of_pure ?_
      rw [holes_updateTemplate, query.holes_filterTemplate filter drafted]
      rfl
  | delete query =>
    refine .bind fun filter drafted => .of_pure ?_
    exact query.holes_filterTemplate filter drafted

namespace Command

/-- A command that is compiled binds the values of its conditions for the filter
and gives tokens to those it assigns; the statement is the one that is meant,
filled with the tokens known at the end. -/
theorem completes_with_values (command : Command) {template : Template}
    (drafted : command.template = .ok template) (registry : Registry) :
    ∃ after, after = ((registry.withFilter (conditionValues command.query.conditions)).assignAll
          command.assigned).2 ∧
      command.compile.runOn registry =
        (.ok ⟨template.fill after.tokenOf, command.carried after⟩, after) := by
  have ran := command.completes registry
  rw [drafted] at ran
  obtain ⟨filtered, after, holes, complete, done⟩ := ran
  rw [command.holes_template template drafted] at holes
  obtain rfl := List.append_cancel_left holes
  exact ⟨after, complete, done⟩

/-- A command that succeeds has a statement that is meant. Were there none, the command would
fail with the error of the draft. -/
theorem template_of_compiled {command : Command} {registry : Registry} {statement : Statement}
    (compiled : (command.compile.runOn registry).1 = .ok statement) :
    ∃ template, command.template = .ok template := by
  have ran := command.completes registry
  cases drafted : command.template with
  | ok template => exact ⟨template, rfl⟩
  | error error =>
    rw [drafted] at ran
    obtain ⟨after, -, stopped⟩ := ran
    rw [stopped] at compiled
    cases compiled

/-- What is there when a command succeeds: a statement that is meant, the registry in
which it is complete, and its text and values from that registry. -/
theorem complete_of_compiled {command : Command} {registry after : Registry}
    {statement : Statement} (compiled : command.compile.runOn registry = (.ok statement, after)) :
    ∃ template, command.template = .ok template ∧
      after = ((registry.withFilter (conditionValues command.query.conditions)).assignAll
        command.assigned).2 ∧
      statement = ⟨template.fill after.tokenOf, command.carried after⟩ := by
  obtain ⟨template, drafted⟩ := template_of_compiled (congrArg Prod.fst compiled)
  obtain ⟨final, complete, done⟩ := command.completes_with_values drafted registry
  rw [done] at compiled
  obtain ⟨same, rfl⟩ := Prod.mk.inj compiled
  exact ⟨template, drafted, complete, (Except.ok.inj same).symm⟩

end Command

end BoundSql
