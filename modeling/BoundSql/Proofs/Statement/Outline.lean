import BoundSql.Proofs.Statement.Conditions
import BoundSql.Proofs.Statement.Draft

/-!
# Statements without their values

What a statement says apart from the values in its holes is its outline. It is
the same for all queries that differ only in what they bind: whether a fragment
is blank, and with it every connector and every clause, is decided on the texts
around the holes.
-/

namespace BoundSql

/-- The value in place of a forgotten one: a text with which every part of a date
can be compared. -/
def forgottenValue : Value := .string "0"

/-! ## Forgetting values -/

/-- An operand without its value. Whether it has one stays, and raw text stays as it is. -/
def Operand.forget : Operand → Operand
  | .bound _ => .bound forgottenValue
  | .raw sql => .raw sql

mutual

/-- A predicate without the values that it binds. Integers that are written out are not
forgotten: they stand in the text. -/
def Predicate.forget : Predicate → Predicate
  | .raw sql => .raw sql
  | .basic column operator value => .basic column operator value.forget
  | .columns first operator second => .columns first operator second
  | .inList column values negated => .inList column (values.map Operand.forget) negated
  | .inIntegers column values negated => .inIntegers column values negated
  | .null column negated => .null column negated
  | .between column low high negated => .between column low.forget high.forget negated
  | .betweenColumns column low high negated => .betweenColumns column low high negated
  | .datePart column part operator value => .datePart column part operator value.forget
  | .nested conditions => .nested (forgetConditions conditions)

/-- A condition without the values that it binds. -/
def Condition.forget : Condition → Condition
  | ⟨connector, predicate⟩ => ⟨connector, predicate.forget⟩

/-- Conditions without the values that they bind. -/
def forgetConditions : List Condition → List Condition
  | [] => []
  | condition :: rest => condition.forget :: forgetConditions rest

end

/-- A query without the values that it binds. -/
def Query.forget (query : Query) : Query :=
  { query with conditions := forgetConditions query.conditions }

/-- The columns of a record without their values, in their order. -/
def Record.forget (record : Record) : Record :=
  ⟨record.fields.map fun field => (field.1, forgottenValue)⟩

/-- A command without the values that it binds. Two commands differ only in these values if this
is the same of both. -/
def Command.forget : Command → Command
  | .select query => .select query.forget
  | .count query => .count query.forget
  | .update query assignments => .update query.forget assignments.forget
  | .delete query => .delete query.forget

/-- A piece without the value of its hole. That there is a hole stays. -/
def Piece.outline : Piece → Piece
  | .text written => .text written
  | .hole _ => .hole forgottenValue

namespace Template

/-- A text with holes without the values of the holes. -/
def outline (template : Template) : Template := template.map Piece.outline

@[simp]
theorem outline_nil : outline [] = [] := rfl

@[simp]
theorem outline_text (written : String) (rest : Template) :
    outline (.text written :: rest) = .text written :: outline rest := rfl

@[simp]
theorem outline_hole (value : Value) (rest : Template) :
    outline (.hole value :: rest) = .hole forgottenValue :: outline rest := rfl

@[simp]
theorem outline_append (front back : Template) :
    outline (front ++ back) = outline front ++ outline back :=
  List.map_append

/-- Whether a text is blank does not depend on the values of its holes, because a hole is never
blank. -/
theorem isBlank_outline (template : Template) : template.outline.isBlank = template.isBlank := by
  have each : Piece.isBlank ∘ Piece.outline = Piece.isBlank := by
    funext piece
    cases piece <;> rfl
  rw [isBlank, outline, List.all_map, each, isBlank]

/-- The number of holes does not depend on their values. -/
theorem length_holes_outline (template : Template) :
    template.outline.holes.length = template.holes.length := by
  induction template with
  | nil => rfl
  | cons piece rest inductionHypothesis => cases piece <;> simp [inductionHypothesis]

/-- The outline of texts with a separator between them. -/
theorem outline_join (separator : String) (templates : List Template) :
    (join separator templates).outline = join separator (templates.map outline) := by
  unfold join
  induction templates with
  | nil => simp
  | cons first rest inductionHypothesis =>
    cases rest with
    | nil => simp
    | cons second others =>
      simp only [List.map_cons, List.intercalate_cons_cons] at *
      simp [inductionHypothesis]

/-- Texts with one outline are filled alike if what stands in for their values is alike. The
namings may be different ones. -/
theorem fill_eq_of_outline {first second : Template} {naming other : Value → Token}
    (same : first.outline = second.outline)
    (standIns : first.holes.map (fun value => (naming value).standIn value) =
      second.holes.map fun value => (other value).standIn value) :
    first.fill naming = second.fill other := by
  induction first generalizing second with
  | nil =>
    rw [List.map_eq_nil_iff.mp same.symm]
    rfl
  | cons piece rest inductionHypothesis =>
    obtain ⟨next, remaining, rfl, samePiece, sameRest⟩ := List.map_eq_cons_iff.mp same.symm
    cases piece with
    | text written =>
      cases next with
      | hole value => cases samePiece
      | text shown =>
        obtain rfl := Piece.text.inj samePiece
        rw [fill_text, fill_text, inductionHypothesis sameRest.symm standIns]
    | hole value =>
      cases next with
      | text shown => cases samePiece
      | hole held =>
        obtain ⟨here, later⟩ := List.cons.inj standIns
        have standsIn : (naming value).standIn value = (other held).standIn held := here
        rw [fill, fill, fill_hole, fill_hole, standsIn, inductionHypothesis sameRest.symm later]

end Template

/-! ## Outlines of fragments -/

/-- The outline of a fragment with its connector. -/
def outlineFragment (fragment : Connector × Template) : Connector × Template :=
  (fragment.1, fragment.2.outline)

/-- The outline of a text and the next fragment. -/
theorem outline_followedBy (text : Template) (fragment : Connector × Template) :
    (text.followedBy fragment).outline = text.outline.followedBy (outlineFragment fragment) := by
  unfold Template.followedBy
  rw [Template.isBlank_outline]
  split
  · rfl
  · simp [outlineFragment]

/-- The outline of fragments behind each other. -/
theorem outline_joinTemplates (fragments : List (Connector × Template)) :
    (joinTemplates fragments).outline = joinTemplates (fragments.map outlineFragment) := by
  unfold joinTemplates
  rw [List.foldl_map]
  exact (List.foldl_hom Template.outline
    fun text fragment => (outline_followedBy text fragment).symm).symm

/-- The outline of conditions in parentheses. -/
theorem outline_nestedTemplate (fragments : List (Connector × Template)) :
    (nestedTemplate fragments).map Template.outline =
      nestedTemplate (fragments.map outlineFragment) := by
  unfold nestedTemplate
  rw [← outline_joinTemplates, Template.isBlank_outline]
  split
  · rfl
  · simp

/-- The outline of a list. -/
theorem outline_listTemplate (column : Column) (negated : Bool) (items : List Template) :
    (listTemplate column negated items).outline =
      listTemplate column negated (items.map Template.outline) := by
  unfold listTemplate
  rw [List.isEmpty_map]
  split
  · rfl
  · simp [Template.outline_join]

/-- The outline of a range. -/
theorem outline_betweenTemplate (column : Column) (negated : Bool) (low high : Template) :
    (betweenTemplate column negated low high).outline =
      betweenTemplate column negated low.outline high.outline := by
  simp [betweenTemplate]

/-! ## Forgetting values before drafting -/

/-- An operand without its value has the outline of the operand. -/
theorem Operand.outline_forget (operand : Operand) :
    operand.forget.template.outline = operand.template.outline := by
  cases operand <;> rfl

/-- The value in place of a forgotten one can be compared with every part of a
date. -/
theorem DatePart.normalize_forgottenValue (part : DatePart) :
    ∃ normal, part.normalize forgottenValue = .ok normal := by
  cases part <;> exact ⟨_, rfl⟩

/-- What is compared with a part of a date has its outline whatever the value
is. -/
theorem outline_partTemplate (part : DatePart) (operand : Operand) :
    Yields (partTemplate part operand) fun template =>
      ∃ other, partTemplate part operand.forget = .ok other ∧
        other.outline = template.outline := by
  cases operand with
  | raw sql => exact .of_pure ⟨_, rfl, rfl⟩
  | bound value =>
    refine .bind fun normal _ => .of_pure ?_
    obtain ⟨form, known⟩ := part.normalize_forgottenValue
    refine ⟨[.hole form], ?_, rfl⟩
    rw [Operand.forget, partTemplate, known]
    rfl

mutual

/-- A predicate without its values is drafted where the predicate is, with the same outline. The
converse is not claimed: forgetting makes every value usable. -/
theorem Predicate.outline_forget : (predicate : Predicate) →
    Yields predicate.template fun fragment =>
      ∃ other, predicate.forget.template = .ok other ∧
        other.map Template.outline = fragment.map Template.outline
  | .raw sql => by
    simp only [Predicate.forget, Predicate.template]
    exact .of_pure ⟨_, rfl, rfl⟩
  | .basic column operator operand => by
    simp only [Predicate.forget, Predicate.template]
    refine .bind fun operator known => .of_pure ?_
    rw [known]
    exact ⟨_, rfl, by simp [operand.outline_forget]⟩
  | .columns first operator second => by
    simp only [Predicate.forget, Predicate.template]
    refine .bind fun operator known => .of_pure ?_
    rw [known]
    exact ⟨_, rfl, rfl⟩
  | .inList column operands negated => by
    simp only [Predicate.forget, Predicate.template]
    refine .of_pure ⟨_, rfl, ?_⟩
    simp [outline_listTemplate, Function.comp_def, Operand.outline_forget]
  | .inIntegers column values negated => by
    simp only [Predicate.forget, Predicate.template]
    exact .of_pure ⟨_, rfl, rfl⟩
  | .null column negated => by
    simp only [Predicate.forget, Predicate.template]
    exact .of_pure ⟨_, rfl, rfl⟩
  | .between column low high negated => by
    simp only [Predicate.forget, Predicate.template]
    refine .of_pure ⟨_, rfl, ?_⟩
    simp [outline_betweenTemplate, Operand.outline_forget]
  | .betweenColumns column low high negated => by
    simp only [Predicate.forget, Predicate.template]
    exact .of_pure ⟨_, rfl, rfl⟩
  | .datePart column part operator operand => by
    simp only [Predicate.forget, Predicate.template]
    refine .bind fun operator known => .bind fun template drafted => .of_pure ?_
    obtain ⟨other, forgotten, same⟩ := outline_partTemplate part operand template drafted
    rw [known, forgotten]
    exact ⟨_, rfl, by simp [same]⟩
  | .nested conditions => by
    simp only [Predicate.forget, Predicate.template]
    refine .bind fun fragments drafted => .of_pure ?_
    obtain ⟨others, forgotten, same⟩ := outline_forgetConditions conditions fragments drafted
    rw [forgotten]
    refine ⟨_, rfl, ?_⟩
    rw [outline_nestedTemplate, same, ← outline_nestedTemplate]

/-- A condition without its values is drafted where the condition is, with the
same outline. -/
theorem Condition.outline_forget : (condition : Condition) →
    Yields condition.template fun fragment =>
      ∃ other, condition.forget.template = .ok other ∧
        other.map outlineFragment = fragment.map outlineFragment
  | ⟨connector, predicate⟩ => by
    simp only [Condition.forget, Condition.template]
    refine .bind fun fragment drafted => .of_pure ?_
    obtain ⟨other, forgotten, same⟩ := predicate.outline_forget fragment drafted
    have paired : ∀ given : Option Template,
        (given.map (connector, ·)).map outlineFragment =
          (given.map Template.outline).map (connector, ·) := by
      rintro (_ | _) <;> rfl
    rw [forgotten]
    exact ⟨_, rfl, by rw [paired, same, paired]⟩

/-- Conditions without their values are drafted where the conditions are, with
the same outlines. -/
theorem outline_forgetConditions : (conditions : List Condition) →
    Yields (fragmentTemplates conditions) fun fragments =>
      ∃ others, fragmentTemplates (forgetConditions conditions) = .ok others ∧
        others.map outlineFragment = fragments.map outlineFragment
  | [] => by
    simp only [forgetConditions, fragmentTemplates]
    exact .of_pure ⟨_, rfl, rfl⟩
  | condition :: rest => by
    simp only [forgetConditions, fragmentTemplates]
    refine .bind fun fragment drafted => .bind fun fragments draftedRest => .of_pure ?_
    obtain ⟨other, forgotten, same⟩ := condition.outline_forget fragment drafted
    obtain ⟨others, forgottenRest, sameRest⟩ :=
      outline_forgetConditions rest fragments draftedRest
    have listed : ∀ given : Option (Connector × Template),
        given.toList.map outlineFragment = (given.map outlineFragment).toList := by
      rintro (_ | _) <;> rfl
    rw [forgotten, forgottenRest]
    refine ⟨_, rfl, ?_⟩
    rw [List.map_append, List.map_append, listed, listed, same, sameRest]

end

/-! ## Outlines of statements -/

/-- The where clause of conditions without their values has the same outline. -/
theorem outline_whereTemplate (conditions : List Condition) :
    Yields (whereTemplate conditions) fun filter =>
      ∃ other, whereTemplate (forgetConditions conditions) = .ok other ∧
        other.outline = filter.outline := by
  refine .bind fun text drafted => .of_pure ?_
  have joined : Yields (conditionsTemplate conditions) fun text =>
      ∃ other, conditionsTemplate (forgetConditions conditions) = .ok other ∧
        other.outline = text.outline := by
    refine .bind fun fragments known => .of_pure ?_
    obtain ⟨others, forgotten, same⟩ := outline_forgetConditions conditions fragments known
    refine ⟨joinTemplates others, ?_, ?_⟩
    · unfold conditionsTemplate
      rw [forgotten]
      rfl
    · rw [outline_joinTemplates, outline_joinTemplates, same]
  obtain ⟨other, forgotten, same⟩ := joined text drafted
  have blank : other.isBlank = text.isBlank := by
    rw [← other.isBlank_outline, same, text.isBlank_outline]
  refine ⟨if other.isBlank then [] else .text "where " :: other, ?_, ?_⟩
  · unfold whereTemplate
    rw [forgotten]
    rfl
  · rw [blank]
    split
    · rfl
    · rw [Template.outline_text, Template.outline_text, same]

/-- The outline of a filter between clauses without holes is decided by that of
the filter. -/
theorem outline_clausesTemplate {front back : List String} {filter other : Template}
    (same : other.outline = filter.outline) :
    (clausesTemplate front other back).outline = (clausesTemplate front filter back).outline := by
  have blank : other.isBlank = filter.isBlank := by
    rw [← other.isBlank_outline, same, filter.isBlank_outline]
  have clauses : (clauseTemplate other).map Template.outline =
      (clauseTemplate filter).map Template.outline := by
    unfold clauseTemplate
    rw [blank]
    split
    · rfl
    · simp [same]
  unfold clausesTemplate
  rw [Template.outline_join, Template.outline_join, List.map_append, List.map_append,
    List.map_append, List.map_append, clauses]

/-- The where clause of a change without its values has the same outline. -/
theorem Query.outline_filterTemplate (query : Query) :
    Yields query.filterTemplate fun filter =>
      ∃ other, query.forget.filterTemplate = .ok other ∧ other.outline = filter.outline := by
  refine .bind fun filter drafted => .of_pure ?_
  obtain ⟨other, forgotten, same⟩ := outline_whereTemplate query.conditions filter drafted
  have blank : other.isBlank = filter.isBlank := by
    rw [← other.isBlank_outline, same, filter.isBlank_outline]
  refine ⟨if other.isBlank then [.text matchAll] else other, ?_, ?_⟩
  · unfold Query.filterTemplate Query.forget
    rw [forgotten]
    rfl
  · rw [blank]
    split
    · rfl
    · exact same

/-- A command without its values means a statement where the command does, with
the same outline. -/
theorem Command.outline_forget (command : Command) :
    Yields command.template fun template =>
      ∃ other, command.forget.template = .ok other ∧ other.outline = template.outline := by
  cases command with
  | select query =>
    refine .bind fun joins rendered => .bind fun filter drafted => .of_pure ?_
    obtain ⟨other, forgotten, same⟩ := outline_whereTemplate query.conditions filter drafted
    change ∃ other, query.forget.selectTemplate = .ok other ∧ _
    unfold Query.selectTemplate Query.forget
    rw [rendered, forgotten]
    exact ⟨_, rfl, outline_clausesTemplate same⟩
  | count query =>
    refine .bind fun joins rendered => .bind fun filter drafted => .of_pure ?_
    obtain ⟨other, forgotten, same⟩ := outline_whereTemplate query.conditions filter drafted
    change ∃ other, query.forget.countTemplate = .ok other ∧ _
    unfold Query.countTemplate Query.forget
    rw [rendered, forgotten]
    exact ⟨_, rfl, outline_clausesTemplate same⟩
  | update query assignments =>
    change Yields (query.updateTemplate assignments) _
    unfold Query.updateTemplate
    split
    · rintro template ⟨⟩
    · rename_i nonempty
      refine .bind fun filter drafted => .of_pure ?_
      obtain ⟨other, forgotten, same⟩ := query.outline_filterTemplate filter drafted
      have still : assignments.forget.isEmpty = assignments.isEmpty := List.isEmpty_map
      have assigned : (assignments.forget.fields.map assignmentTemplate).map Template.outline =
          (assignments.fields.map assignmentTemplate).map Template.outline := by
        simp [Record.forget, assignmentTemplate, Function.comp_def]
      change ∃ other, query.forget.updateTemplate assignments.forget = .ok other ∧ _
      unfold Query.updateTemplate
      rw [still, if_neg nonempty, forgotten]
      refine ⟨_, rfl, ?_⟩
      simp only [Template.outline_text, Template.outline_append, Template.outline_join,
        assigned, same]
      rfl
  | delete query =>
    refine .bind fun filter drafted => .of_pure ?_
    obtain ⟨other, forgotten, same⟩ := query.outline_filterTemplate filter drafted
    change ∃ other, query.forget.deleteTemplate = .ok other ∧ _
    unfold Query.deleteTemplate
    rw [forgotten]
    refine ⟨_, rfl, ?_⟩
    rw [Template.outline_text, Template.outline_text, same]
    rfl

end BoundSql
