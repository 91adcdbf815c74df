import BoundSql.Proofs.Binary64.Whole
import BoundSql.Proofs.Statement.BoundValues
import BoundSql.Proofs.Text.Literal

/-!
# What a command must meet

Three things are demanded of a command: that it assigns something if it is an
update, that its operators are among the twelve, and that the values which it
compares with parts of dates are usable for them. They can be listed in the
order in which a reader meets them, without rendering anything. A command is
compiled exactly if all of them are met, with any registry, and otherwise fails
for the first that is not.
-/

namespace BoundSql

/-! ## Usable values -/

/-- A value that gives a whole number of a signed word. Nothing is rounded, and a
text is a numeral but for the blanks around it. -/
def Value.GivesNumber : Value → Prop
  | .date _ | .dateTime _ | .int _ => True
  | .uint number => number.toNat < 2 ^ 63
  | .float number =>
    number.isFinite = true ∧ number.magnitude < 2 ^ 63 ∧ ∃ whole : Int, number.value = whole
  | .string text => Text.IsInt64Literal (Text.trimChars text.toList)
  | .null | .bool _ | .array _ => False

/-- A value that can be compared with a part of a date. A day has no time of day, so the clock
accepts times and texts only. -/
def DatePart.Accepts : DatePart → Value → Prop
  | .date, .date _ | .date, .dateTime _ | .date, .string _ => True
  | .time, .dateTime _ | .time, .string _ => True
  | .date, _ | .time, _ => False
  | .day, value | .month, value | .year, value => value.GivesNumber

namespace DatePart

/-- A double gives a number for a part exactly if it is a whole one that fits. -/
theorem component?_float (part : DatePart) (number : Binary64) :
    (part.component? (.float number)).isSome = true ↔ Value.GivesNumber (.float number) := by
  change ((number.toInt?.filter fun whole => decide (whole.natAbs < 2 ^ 63)).map
      Int64.ofInt).isSome = true ↔
    number.isFinite = true ∧ number.magnitude < 2 ^ 63 ∧ ∃ whole : Int, number.value = whole
  rw [Option.isSome_map]
  cases read : number.toInt? with
  | none =>
    rw [Option.filter_none]
    refine iff_of_false Bool.false_ne_true ?_
    rintro ⟨finite, -, whole, known⟩
    rw [Binary64.toInt?_eq_some_iff.mpr ⟨finite, known⟩] at read
    cases read
  | some whole =>
    obtain ⟨finite, known⟩ := Binary64.toInt?_eq_some_iff.mp read
    have small : number.magnitude < 2 ^ 63 ↔ whole.natAbs < 2 ^ 63 := by
      rw [Binary64.magnitude_of_value known]
      norm_cast
    rw [small, Option.filter_some]
    by_cases fits : whole.natAbs < 2 ^ 63
    · rw [if_pos (decide_eq_true fits)]
      exact iff_of_true rfl ⟨finite, fits, whole, known⟩
    · rw [if_neg (by rwa [decide_eq_true_iff])]
      exact iff_of_false Bool.false_ne_true fun holds => fits holds.2.1

/-- A part that is a number takes every value that gives one. -/
theorem component?_isSome_iff {part : DatePart} (numeric : part ≠ .date ∧ part ≠ .time)
    (value : Value) : (part.component? value).isSome = true ↔ value.GivesNumber := by
  cases value with
  | float number => exact component?_float part number
  | uint number =>
    unfold component? Value.GivesNumber
    rw [Text.int64OfInt?_isSome_iff]
    omega
  | string text => exact Text.int64?_isSome_iff
  | date given | dateTime given =>
    cases part with
    | date => exact absurd rfl numeric.1
    | time => exact absurd rfl numeric.2
    | day | month | year => exact iff_of_true rfl trivial
  | int number => exact iff_of_true rfl trivial
  | null | bool _ | array _ => exact iff_of_false Bool.false_ne_true id

/-- A value has a normal form for a part exactly if the part accepts it. -/
theorem normalize?_isSome_iff (part : DatePart) (value : Value) :
    (part.normalize? value).isSome = true ↔ part.Accepts value := by
  cases part with
  | date =>
    cases value with
    | date _ | dateTime _ | string _ => exact iff_of_true rfl trivial
    | null | bool _ | int _ | uint _ | float _ | array _ =>
      exact iff_of_false Bool.false_ne_true id
  | time =>
    cases value with
    | dateTime _ | string _ => exact iff_of_true rfl trivial
    | null | bool _ | int _ | uint _ | float _ | date _ | array _ =>
      exact iff_of_false Bool.false_ne_true id
  | day | month | year =>
    unfold normalize? Accepts
    rw [Option.isSome_map]
    exact component?_isSome_iff ⟨by decide, by decide⟩ value

end DatePart

/-! ## Requirements -/

/-- Something that is demanded of a command. That columns and tables exist is not demanded, for
nothing is known of them. -/
inductive Requirement
  /-- An update assigns at least one column. -/
  | assigns (assignments : Record)
  /-- The statement language has an operator. -/
  | operator (written : String)
  /-- A value can be compared with a part of a date. -/
  | comparable (part : DatePart) (value : Value)

namespace Requirement

/-- What it takes to meet a requirement. An operator has to be one of the twelve once the blanks
around it are taken off and its capital letters made small; blanks inside it are not looked at.
The twelve are spelled here, so that neither the compiler's list of them nor the form in which
it renders one plays a part. -/
def Met : Requirement → Prop
  | .assigns assignments => assignments.fields ≠ []
  | .operator written =>
    String.ofList ((Text.trimChars written.toList).map Text.lowerAscii) ∈
      ["=", "<", ">", "<=", ">=", "<>", "!=", "<=>", "like", "not like", "ilike", "not ilike"]
  | .comparable part value => part.Accepts value

/-- The error for a requirement that is not met. It shows what was given and not a form of it. -/
def error : Requirement → CompileError
  | .assigns _ => .noAssignments
  | .operator written => .illegalOperator written
  | .comparable part value => .unusableValue part value

/-- The first requirement of a list that is not met. Later ones may be met or not. -/
def FirstUnmet (requirements : List Requirement) (offender : Requirement) : Prop :=
  ∃ met later, requirements = met ++ offender :: later ∧
    (∀ requirement ∈ met, requirement.Met) ∧ ¬ offender.Met

/-- A requirement that is not met is the first such of a list that it leads. -/
theorem FirstUnmet.head {offender : Requirement} (unmet : ¬ offender.Met)
    (later : List Requirement) : FirstUnmet (offender :: later) offender :=
  ⟨[], later, rfl, fun _ member => absurd member List.not_mem_nil, unmet⟩

/-- The text of the error says that an argument is invalid. -/
theorem message_error (requirement : Requirement) :
    ∃ cause, requirement.error.message = "Invalid argument: " ++ cause := by
  cases requirement with
  | assigns assignments => exact ⟨"update requires at least one column", rfl⟩
  | operator written =>
    refine ⟨"Illegal operator: " ++ written, ?_⟩
    change "Invalid argument: Illegal operator: " ++ written = _
    rw [← String.append_assoc]
    rfl
  | comparable part value =>
    refine ⟨"cannot compare " ++ part.describe ++ " part against " ++ value.kindName ++ " value " ++
      value.describe, ?_⟩
    change "Invalid argument: cannot compare " ++ part.describe ++ " part against " ++
      value.kindName ++ " value " ++ value.describe = _
    simp only [← String.append_assoc]
    rfl

end Requirement

/-- What is demanded of a join: its operator, if it compares columns at all. -/
def Join.requirements (join : Join) : List Requirement :=
  match join.on, join.kind with
  | _, .cross | none, _ => []
  | some on, _ => [.operator on.operator]

/-- What is demanded of an operand that is compared with a part of a date: raw
text is not looked at. -/
def Operand.requirements (part : DatePart) : Operand → List Requirement
  | .raw _ => []
  | .bound value => [.comparable part value]

mutual

/-- What is demanded of a predicate, in reading order. Lists and ranges demand nothing: any
values do for them. -/
def Predicate.requirements : Predicate → List Requirement
  | .raw _ | .inList _ _ _ | .inIntegers _ _ _ | .null _ _ | .between _ _ _ _
  | .betweenColumns _ _ _ _ => []
  | .basic _ operator _ | .columns _ operator _ => [.operator operator]
  | .datePart _ part operator operand => .operator operator :: operand.requirements part
  | .nested conditions => conditionRequirements conditions

/-- What is demanded of a condition. -/
def Condition.requirements : Condition → List Requirement
  | ⟨_, predicate⟩ => predicate.requirements

/-- What is demanded of a list of conditions, groups from the inside. -/
def conditionRequirements : List Condition → List Requirement
  | [] => []
  | condition :: rest => condition.requirements ++ conditionRequirements rest

end

/-- What is demanded of a command. Changes have no joins, and a delete may mean every row. -/
def Command.requirements : Command → List Requirement
  | .select query | .count query =>
    query.joins.flatMap Join.requirements ++ conditionRequirements query.conditions
  | .update query assignments => .assigns assignments :: conditionRequirements query.conditions
  | .delete query => conditionRequirements query.conditions

/-! ## Drafts check what is demanded -/

/-- A draft exists exactly if all of a list of requirements are met, and fails
for the first that is not. -/
structure Checks {α : Type} (draft : Except CompileError α) (requirements : List Requirement) :
    Prop where
  all_met : ∀ thing, draft = .ok thing → ∀ requirement ∈ requirements, requirement.Met
  first_unmet : ∀ error, draft = .error error →
    ∃ offender, Requirement.FirstUnmet requirements offender ∧ error = offender.error

namespace Checks

variable {α β : Type} {before after : List Requirement}

/-- What is there at once demands nothing. -/
theorem of_pure {thing : α} : Checks (pure thing : Except CompileError α) [] := by
  constructor
  · intro _ _ requirement member
    cases member
  · intro error impossible
    cases impossible

/-- What comes first is checked first. If it fails, what follows is not looked at. -/
theorem bind {first : Except CompileError α} {next : α → Except CompileError β}
    (checked : Checks first before) (follows : ∀ thing, Checks (next thing) after) :
    Checks (first >>= next) (before ++ after) := by
  cases first with
  | error error =>
    obtain ⟨offender, ⟨met, later, split, fine, unmet⟩, same⟩ := checked.first_unmet error rfl
    constructor
    · intro thing impossible
      cases impossible
    · rintro other ⟨⟩
      refine ⟨offender, ⟨met, later ++ after, ?_, fine, unmet⟩, same⟩
      rw [split, List.append_assoc, List.cons_append]
  | ok thing =>
    have fine := checked.all_met thing rfl
    constructor
    · intro result known requirement member
      rcases List.mem_append.mp member with earlier | later
      · exact fine requirement earlier
      · exact (follows thing).all_met result known requirement later
    · intro error known
      obtain ⟨offender, ⟨met, later, split, alsoFine, unmet⟩, same⟩ :=
        (follows thing).first_unmet error known
      refine ⟨offender, ⟨before ++ met, later, ?_, ?_, unmet⟩, same⟩
      · rw [split, List.append_assoc]
      · intro requirement member
        exact (List.mem_append.mp member).elim (fine requirement) (alsoFine requirement)

/-- What is made of a draft demands no more. -/
theorem map {draft : Except CompileError α} (checked : Checks draft before) (f : α → β) :
    Checks (draft >>= fun thing => pure (f thing)) before :=
  List.append_nil before ▸ checked.bind fun _ => of_pure

/-- A list of drafts is checked from left to right. -/
theorem mapM {draft : α → Except CompileError β} {requirements : α → List Requirement}
    (things : List α) (each : ∀ thing, Checks (draft thing) (requirements thing)) :
    Checks (things.mapM draft) (things.flatMap requirements) := by
  induction things with
  | nil => exact of_pure
  | cons first rest inductionHypothesis =>
    rw [List.mapM_cons, List.flatMap_cons]
    exact (each first).bind fun thing => inductionHypothesis.map (thing :: ·)

/-- A single requirement is checked by a test of it. -/
theorem of_test {requirement : Requirement} {draft : Except CompileError α}
    (passes : requirement.Met → ∃ thing, draft = .ok thing)
    (fails : ¬ requirement.Met → draft = .error requirement.error) :
    Checks draft [requirement] := by
  by_cases met : requirement.Met
  · obtain ⟨thing, rfl⟩ := passes met
    constructor
    · intro _ _ other member
      rw [List.mem_singleton.mp member]
      exact met
    · intro error impossible
      cases impossible
  · rw [fails met]
    constructor
    · intro thing impossible
      cases impossible
    · rintro error ⟨⟩
      exact ⟨requirement, .head met [], rfl⟩

end Checks

/-- An operator is rendered exactly if the language has it.

Proof: it is compared in the form in which it is rendered, and this form is the trimmed
text in small letters. -/
theorem Operator.checks_render (written : String) :
    Checks (Operator.render written) [.operator written] := by
  refine .of_test ?_ ?_
  · intro (met : normalized written ∈ all)
    exact ⟨normalized written, if_pos (List.contains_iff_mem.mpr met)⟩
  · intro (unmet : normalized written ∉ all)
    exact if_neg fun contained => unmet (List.contains_iff_mem.mp contained)

/-- A value is brought to its normal form exactly if the part accepts it. -/
theorem DatePart.checks_normalize (part : DatePart) (value : Value) :
    Checks (part.normalize value) [.comparable part value] := by
  refine .of_test ?_ ?_
  · intro (met : part.Accepts value)
    obtain ⟨normal, known⟩ := Option.isSome_iff_exists.mp ((part.normalize?_isSome_iff value).mpr met)
    refine ⟨normal, ?_⟩
    unfold normalize
    rw [known]
  · intro (unmet : ¬ part.Accepts value)
    have none : part.normalize? value = none := by
      rw [← Option.not_isSome_iff_eq_none, part.normalize?_isSome_iff]
      exact unmet
    unfold normalize
    rw [none]
    rfl

/-- The value of a comparison with a part of a date is checked. -/
theorem checks_partTemplate (part : DatePart) (operand : Operand) :
    Checks (partTemplate part operand) (operand.requirements part) := by
  cases operand with
  | raw sql => exact .of_pure
  | bound value => exact (part.checks_normalize value).map _

mutual

/-- The fragment of a predicate checks what is demanded of the predicate. -/
theorem Predicate.checks_template : (predicate : Predicate) →
    Checks predicate.template predicate.requirements
  | .raw _ | .inList _ _ _ | .inIntegers _ _ _ | .null _ _ | .between _ _ _ _
  | .betweenColumns _ _ _ _ => by
    unfold Predicate.template Predicate.requirements
    exact .of_pure
  | .basic column operator operand => by
    unfold Predicate.template Predicate.requirements
    exact (Operator.checks_render operator).map _
  | .columns first operator second => by
    unfold Predicate.template Predicate.requirements
    exact (Operator.checks_render operator).map _
  | .datePart column part operator operand => by
    unfold Predicate.template Predicate.requirements
    exact (Operator.checks_render operator).bind fun _ => (checks_partTemplate part operand).map _
  | .nested conditions => by
    unfold Predicate.template Predicate.requirements
    exact (checks_fragmentTemplates conditions).map _

/-- The fragment of a condition checks what is demanded of the condition. -/
theorem Condition.checks_template : (condition : Condition) →
    Checks condition.template condition.requirements
  | ⟨connector, predicate⟩ => by
    unfold Condition.template Condition.requirements
    exact predicate.checks_template.map _

/-- The fragments of conditions check what is demanded of them, one after the
other. -/
theorem checks_fragmentTemplates : (conditions : List Condition) →
    Checks (fragmentTemplates conditions) (conditionRequirements conditions)
  | [] => by
    unfold fragmentTemplates conditionRequirements
    exact .of_pure
  | condition :: rest => by
    unfold fragmentTemplates conditionRequirements
    exact condition.checks_template.bind fun _ => (checks_fragmentTemplates rest).map _

end

/-- A where clause checks what is demanded of its conditions. -/
theorem checks_whereTemplate (conditions : List Condition) :
    Checks (whereTemplate conditions) (conditionRequirements conditions) :=
  ((checks_fragmentTemplates conditions).map joinTemplates).map _

/-- The where clause of a change checks what is demanded of its conditions. -/
theorem Query.checks_filterTemplate (query : Query) :
    Checks query.filterTemplate (conditionRequirements query.conditions) :=
  (checks_whereTemplate query.conditions).map _

/-- A join checks the operator of its comparison, if it shows one. -/
theorem Join.checks_render (join : Join) : Checks join.render join.requirements := by
  obtain ⟨kind, table, on⟩ := join
  unfold Join.render Join.requirements
  cases on with
  | none => cases kind <;> exact .of_pure
  | some on =>
    cases kind with
    | cross => exact .of_pure
    | inner | left | right | full => exact (Operator.checks_render on.operator).map _

namespace Command

/-- The statement that a command means exists exactly if what is demanded of the command is met.
The registry plays no part in this. -/
theorem checks_template (command : Command) : Checks command.template command.requirements := by
  cases command with
  | select query | count query =>
    exact (Checks.mapM query.joins Join.checks_render).bind fun _ =>
      (checks_whereTemplate query.conditions).map _
  | delete query => exact query.checks_filterTemplate.map _
  | update query assignments =>
    change Checks (query.updateTemplate assignments) _
    unfold Query.updateTemplate
    split
    · rename_i empty
      have unmet : ¬ Requirement.Met (.assigns assignments) := fun assigns =>
        assigns (List.isEmpty_iff.mp empty)
      constructor
      · intro template impossible
        cases impossible
      · rintro error ⟨⟩
        exact ⟨_, .head unmet _, rfl⟩
    · rename_i some
      have met : Checks (pure () : Except CompileError Unit) [.assigns assignments] :=
        .of_test (fun _ => ⟨(), rfl⟩)
          fun unmet => absurd (fun nothing => some (List.isEmpty_iff.mpr nothing)) unmet
      have changed := query.checks_filterTemplate.map fun filter : Template =>
        .text ("alter table " ++ Identifier.wrapName query.table ++ " update ") ::
          (Template.join ", " (assignments.fields.map assignmentTemplate) ++ .text " " :: filter)
      exact met.bind fun _ => changed

/-- A command is compiled exactly if all that is demanded of it is met, whatever
the registry holds. Else it fails for the first requirement that is not, in
reading order: an update for assigning nothing before anything else, a select
and a count for a join before any condition. -/
theorem compiled_iff_requirements_met (command : Command) (registry : Registry) :
    ((∃ statement, (command.compile.runOn registry).1 = .ok statement) ↔
        ∀ requirement ∈ command.requirements, requirement.Met) ∧
      ∀ error, (command.compile.runOn registry).1 = .error error →
        ∃ offender, Requirement.FirstUnmet command.requirements offender ∧
          error = offender.error ∧ ∃ cause, error.message = "Invalid argument: " ++ cause := by
  have ran := command.completes registry
  have checked := command.checks_template
  cases drafted : command.template with
  | ok template =>
    rw [drafted] at ran
    obtain ⟨filtered, after, -, -, done⟩ := ran
    rw [done]
    refine ⟨iff_of_true ⟨_, rfl⟩ (checked.all_met template drafted), ?_⟩
    intro error impossible
    cases impossible
  | error error =>
    rw [drafted] at ran
    obtain ⟨after, -, stopped⟩ := ran
    obtain ⟨offender, first, rfl⟩ := checked.first_unmet error drafted
    obtain ⟨met, later, split, -, unmet⟩ := id first
    rw [stopped]
    refine ⟨iff_of_false ?_ ?_, ?_⟩
    · rintro ⟨statement, impossible⟩
      cases impossible
    · intro all
      exact unmet (all offender (split ▸ List.mem_append_right met List.mem_cons_self))
    · rintro error ⟨⟩
      exact ⟨offender, first, rfl, offender.message_error⟩

/-- A cross join shows no comparison, so its operator is not looked at; the value
in the group is met before the operator behind the group. -/
example :
    (Command.select
      { table := "visits", distinct := false, columns := [],
        joins := [⟨.cross, "numbers", some ⟨.name "a", "~", .name "b"⟩⟩],
        conditions := [
          ⟨.and, .nested [⟨.or, .datePart (.name "at") .time " NOT like" (.bound (.int 3))⟩]⟩,
          ⟨.and, .columns (.name "a") "; drop" (.name "b")⟩],
        groups := [], orderings := [], limit := none, offset := none }).requirements =
      [.operator " NOT like", .comparable .time (.int 3), .operator "; drop"] := by
  rfl

end Command

end BoundSql
