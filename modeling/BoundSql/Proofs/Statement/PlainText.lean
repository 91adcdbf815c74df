import BoundSql.Proofs.Statement.Reference
import BoundSql.Proofs.Text.Bare

/-!
# What a statement adds has no braces

The texts that the caller writes are rendered, not copied: names are cut, trimmed
and escaped, operators are looked up, integers are written out. None of this
brings a brace into a statement, so if the caller's texts have none the braces
of a statement are those of its placeholders.
-/

namespace BoundSql

open Text

/-! ## Names and operators -/

namespace Identifier

variable {text : List Char}

/-- Escaping puts backslashes before characters of the text and adds nothing else. -/
theorem bare_escape (bare : Bare text) : Bare (escape text) := by
  intro c member
  obtain ⟨original, inText, escaped⟩ := List.mem_flatMap.mp member
  unfold escapeChar at escaped
  split at escaped
  · have fixed : Bare ['\\', '\\'] := by decide
    exact fixed c escaped
  · split at escaped
    · have fixed : Bare ['\\', '\''] := by decide
      exact fixed c escaped
    · rw [List.mem_singleton.mp escaped]
      exact bare original inText

/-- The text of a path is made of the steps, escaped, and of points. -/
theorem bare_pathText (bare : Bare text) : Bare (pathText text) := by
  refine bare_intercalate (by decide) ?_
  intro step member
  obtain ⟨piece, listed, rfl⟩ := List.mem_map.mp member
  have inside := splitAll_subset arrow text piece listed
  exact bare_escape ((bare.of_subset inside).of_subset (trimChars_subset piece))

/-- A name without an alias is rendered without braces. -/
theorem bare_wrapPlain (bare : Bare text) : Bare (wrapPlain text) := by
  unfold wrapPlain
  split
  · exact bare
  · rename_i field path found
    obtain ⟨fieldInside, pathInside⟩ := cutOn_subset found
    have bareField := (bare.of_subset fieldInside).of_subset (trimChars_subset field)
    have barePath := bare_pathText (bare.of_subset pathInside)
    refine Bare.append (Bare.append (Bare.append (Bare.append ?_ bareField) ?_) barePath) ?_
    · decide
    · decide
    · decide

/-- A name is rendered without braces if it has none: what is added around its parts are fixed
words and signs. -/
theorem bare_wrapChars (bare : Bare text) : Bare (wrapChars text) := by
  unfold wrapChars
  split
  · exact bare_wrapPlain (bare.of_subset (trimChars_subset text))
  · rename_i expression label found
    obtain ⟨expressionInside, labelInside⟩ := cutOn_subset found
    have bareExpression := (bare.of_subset expressionInside).of_subset (trimChars_subset expression)
    have bareLabel := (bare.of_subset labelInside).of_subset (trimChars_subset label)
    refine Bare.append (Bare.append (bare_wrapPlain bareExpression) ?_) bareLabel
    decide

end Identifier

/-- An operator that is rendered is one of the twelve, and these have no
braces. -/
theorem Operator.bare_render {given rendered : String} (known : render given = .ok rendered) :
    Bare rendered.toList := by
  have none : ∀ operator ∈ all, Bare operator.toList := by decide
  unfold render at known
  split at known
  · rename_i listed
    cases known
    exact none _ (List.contains_iff_mem.mp listed)
  · cases known

/-! ## Texts of the caller -/

/-- A column as the caller wrote it, whether it is a name or an expression. -/
def Column.text : Column → String
  | .name text => text
  | .raw sql => sql

/-- The text of an operand that is not bound. -/
def Operand.texts : Operand → List String
  | .raw sql => [sql]
  | .bound _ => []

mutual

/-- The texts in a predicate that are not operators. Operators are looked up, so that no text of
the caller is written for them. -/
def Predicate.texts : Predicate → List String
  | .raw sql => [sql]
  | .basic column _ value => column.text :: value.texts
  | .columns first _ second => [first.text, second.text]
  | .inList column values _ => column.text :: values.flatMap Operand.texts
  | .inIntegers column _ _ => [column.text]
  | .null column _ => [column.text]
  | .between column low high _ => column.text :: (low.texts ++ high.texts)
  | .betweenColumns column low high _ => [column.text, low.text, high.text]
  | .datePart column _ _ value => column.text :: value.texts
  | .nested conditions => conditionTexts conditions

/-- The texts in a condition. -/
def Condition.texts : Condition → List String
  | ⟨_, predicate⟩ => predicate.texts

/-- The texts in a list of conditions. -/
def conditionTexts : List Condition → List String
  | [] => []
  | condition :: rest => condition.texts ++ conditionTexts rest

end

/-- The texts in a joined table. -/
def Join.texts (join : Join) : List String :=
  join.table :: join.on.toList.flatMap fun on => [on.left.text, on.right.text]

/-- The texts in a query: every text that the caller wrote and that may stand in a statement. -/
def Query.texts (query : Query) : List String :=
  query.table :: (query.columns.map Column.text ++ query.joins.flatMap Join.texts ++
    conditionTexts query.conditions ++ query.groups.map Column.text ++
    query.orderings.map fun key => key.column.text)

/-- The texts in a command: those of its query, and the columns it assigns. -/
def Command.texts : Command → List String
  | .select query | .count query | .delete query => query.texts
  | .update query assignments => query.texts ++ assignments.columns

/-! ## Rendered texts -/

/-- No brace stands in a text. Nothing else is asked of it. -/
def Plain (text : String) : Prop := Bare text.toList

instance (text : String) : Decidable (Plain text) := inferInstanceAs (Decidable (Bare text.toList))

/-- Plain texts behind each other are plain. -/
theorem Plain.append {front back : String} (start : Plain front) (finish : Plain back) :
    Plain (front ++ back) := by
  unfold Plain
  rw [String.toList_append]
  exact Bare.append start finish

/-- Plain texts with a plain separator between them are a plain text. -/
theorem plain_intercalate {separator : String} {texts : List String} (between : Plain separator)
    (each : ∀ text ∈ texts, Plain text) : Plain (separator.intercalate texts) := by
  unfold Plain
  rw [String.toList_intercalate]
  refine bare_intercalate between ?_
  intro characters member
  obtain ⟨text, listed, rfl⟩ := List.mem_map.mp member
  exact each text listed

/-- A plain name is rendered plainly. -/
theorem plain_wrapName {name : String} (plain : Plain name) :
    Plain (Identifier.wrapName name) := by
  unfold Plain Identifier.wrapName
  rw [String.toList_ofList]
  exact Identifier.bare_wrapChars plain

/-- A plain column is rendered plainly. -/
theorem plain_wrap {column : Column} (plain : Plain column.text) :
    Plain (Identifier.wrap column) := by
  cases column with
  | name text => exact plain_wrapName plain
  | raw sql => exact plain

/-! ## Templates -/

/-- No brace stands in the texts between the holes. The holes will have braces when they are
filled. -/
def Template.Plain (template : Template) : Prop :=
  ∀ written, Piece.text written ∈ template → BoundSql.Plain written

namespace Template

/-- Nothing is plain. -/
theorem plain_nil : Plain [] := by
  intro written member
  cases member

/-- Plain text before plain text with holes. -/
theorem plain_text {written : String} {rest : Template} (start : BoundSql.Plain written)
    (finish : Plain rest) : Plain (.text written :: rest) := by
  intro other member
  rcases List.mem_cons.mp member with same | later
  · exact Piece.text.inj same ▸ start
  · exact finish other later

/-- A hole before plain text with holes. -/
theorem plain_hole (value : Value) {rest : Template} (finish : Plain rest) :
    Plain (.hole value :: rest) := by
  intro other member
  rcases List.mem_cons.mp member with same | later
  · cases same
  · exact finish other later

/-- Plain texts with holes behind each other. -/
theorem Plain.append {front back : Template} (start : Plain front) (finish : Plain back) :
    Plain (front ++ back) := by
  intro written member
  rcases List.mem_append.mp member with earlier | later
  · exact start written earlier
  · exact finish written later

/-- Plain texts with holes and a plain separator between them. -/
theorem plain_join {separator : String} {templates : List Template}
    (between : BoundSql.Plain separator) (each : ∀ template ∈ templates, template.Plain) :
    Plain (join separator templates) := by
  unfold join
  induction templates with
  | nil => exact plain_nil
  | cons first rest inductionHypothesis =>
    obtain ⟨here, others⟩ := List.forall_mem_cons.mp each
    cases rest with
    | nil =>
      rw [List.intercalate_singleton]
      exact here
    | cons second remaining =>
      rw [List.intercalate_cons_cons]
      exact (here.append (plain_text between plain_nil)).append (inductionHypothesis others)

end Template

end BoundSql
