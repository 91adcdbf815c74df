import BoundSql.Proofs.Statement.Fragments
import BoundSql.Proofs.Statement.NormalForm

/-!
# How normal queries are spelled

The text of a normal query can be written down clause by clause: nothing in it
is dropped, rewritten or refused, and no group is blank. It is the select that
is meant, with its holes filled.
-/

namespace BoundSql

open Fillable

/-! ## Texts -/

/-- A word between blanks, as connectors, operators and the words of clauses are written. -/
def spaced (word : String) : List Char :=
  [' '] ++ word.toList ++ [' ']

/-- What stands before the items of a list. -/
def listOpening (negated : Bool) : List Char :=
  spaced (inKeyword negated) ++ ['(']

/-- The function that takes a part of a date from a column. -/
def DatePart.function : DatePart → String
  | .date => "toDate"
  | .time => "formatDateTime"
  | .day => "toDayOfMonth"
  | .month => "toMonth"
  | .year => "toYear"

/-- What stands behind the column from which a part of a date is taken. -/
def DatePart.closing : DatePart → List Char
  | .time => ", '%H:%i:%s')".toList
  | .date | .day | .month | .year => [')']

/-- Texts with commas between them. -/
def commaSeparated (texts : List (List Char)) : List Char :=
  ", ".toList.intercalate texts

/-- Texts with a separator between them are the first one and the others behind
separators. -/
theorem intercalate_cons (separator first : List Char) (rest : List (List Char)) :
    separator.intercalate (first :: rest) = first ++ rest.flatMap fun text => separator ++ text := by
  induction rest generalizing first with
  | nil => simp
  | cons second others inductionHypothesis =>
    rw [List.intercalate_cons_cons, inductionHypothesis, List.flatMap_cons]
    simp only [List.append_assoc]

/-- Things with commas between them are the first one and the others behind
commas. -/
theorem commaSeparated_cons {α : Type} (body : α → List Char) (first : α) (others : List α) :
    commaSeparated ((first :: others).map body) =
      body first ++ others.flatMap fun thing => ", ".toList ++ body thing := by
  rw [commaSeparated, List.map_cons, intercalate_cons, List.flatMap_map]

/-- A plain column as it is written. An expression is written as it is, too, but may look like
anything. -/
def Column.spelling : Column → List Char
  | .name text | .raw text => text.toList

/-- An operand as it is written: the token of its value, in braces or in quotes and braces. -/
def Operand.spelling (naming : Value → Token) (operand : Operand) : List Char :=
  (operand.template.fill naming).toList

mutual

/-- A normal predicate as it is written. Lists and groups are taken to have items, as those of a
normal predicate do. -/
def Predicate.spelling (naming : Value → Token) : Predicate → List Char
  | .raw sql => sql.toList
  | .basic column operator operand =>
    column.spelling ++ (spaced operator ++ operand.spelling naming)
  | .columns first operator second =>
    first.spelling ++ (spaced operator ++ second.spelling)
  | .inList column operands negated =>
    column.spelling ++ (listOpening negated ++
      (commaSeparated (operands.map (Operand.spelling naming)) ++ [')']))
  | .inIntegers column values negated =>
    column.spelling ++ (listOpening negated ++
      (commaSeparated (values.map fun value => (toString value.toInt).toList) ++ [')']))
  | .null column negated =>
    (nullFunction negated).toList ++ (['('] ++ (column.spelling ++ [')']))
  | .between column low high negated =>
    column.spelling ++ (spaced (betweenKeyword negated) ++
      (low.spelling naming ++ (spaced "and" ++ high.spelling naming)))
  | .betweenColumns column low high negated =>
    column.spelling ++ (spaced (betweenKeyword negated) ++
      (low.spelling ++ (spaced "and" ++ high.spelling)))
  | .datePart column part operator operand =>
    part.function.toList ++ (['('] ++ (column.spelling ++ (part.closing ++
      (spaced operator ++ operand.spelling naming))))
  | .nested conditions => ['('] ++ (conditionsSpelling naming conditions ++ [')'])

/-- A normal condition as it is written behind another. -/
def Condition.spelling (naming : Value → Token) : Condition → List Char
  | ⟨connector, predicate⟩ => spaced connector.keyword ++ predicate.spelling naming

/-- Normal conditions as they are written; the first has no connector. -/
def conditionsSpelling (naming : Value → Token) : List Condition → List Char
  | [] => []
  | ⟨_, predicate⟩ :: rest => predicate.spelling naming ++ furtherSpelling naming rest

/-- Normal conditions as they are written behind others, each behind its connector. -/
def furtherSpelling (naming : Value → Token) : List Condition → List Char
  | [] => []
  | condition :: rest => condition.spelling naming ++ furtherSpelling naming rest

end

/-- Further conditions are written one behind the other. -/
theorem furtherSpelling_eq_flatMap (naming : Value → Token) (conditions : List Condition) :
    furtherSpelling naming conditions =
      conditions.flatMap fun condition =>
        spaced condition.connector.keyword ++ condition.predicate.spelling naming := by
  induction conditions with
  | nil => rw [furtherSpelling, List.flatMap_nil]
  | cons condition rest inductionHypothesis =>
    obtain ⟨connector, predicate⟩ := condition
    rw [furtherSpelling, List.flatMap_cons, inductionHypothesis, Condition.spelling]

/-! ## Predicates -/

/-- A plain column is rendered as it is. -/
theorem Column.Normal.wrap_eq {column : Column} (normal : column.Normal) :
    (Identifier.wrap column).toList = column.spelling := by
  cases column with
  | raw sql => exact absurd normal id
  | name text => exact congrArg String.toList (IsName.wrapName_eq normal)

/-- An operator of the language is rendered as it is: each of the twelve is its own form. -/
theorem Operator.render_of_mem {operator : String} (member : operator ∈ Operator.all) :
    Operator.render operator = .ok operator := by
  have same : ∀ operator ∈ Operator.all, normalized operator = operator := by
    decide +kernel
  unfold render
  rw [same operator member, if_pos (List.contains_iff_mem.mpr member)]

/-- A part of a date is taken from a column between its opening and its
closing. -/
theorem DatePart.toList_extraction (part : DatePart) (column : String) :
    (part.extraction column).toList =
      part.function.toList ++ (['('] ++ (column.toList ++ part.closing)) := by
  obtain ⟨opening, closing, shown, known, same⟩ : ∃ opening closing : String,
      part.extraction column = opening ++ column ++ closing ∧
        opening.toList = part.function.toList ++ ['('] ∧ closing.toList = part.closing := by
    cases part with
    | date => exact ⟨"toDate(", ")", rfl, by decide, by decide⟩
    | time => exact ⟨"formatDateTime(", ", '%H:%i:%s')", rfl, by decide, by decide⟩
    | day => exact ⟨"toDayOfMonth(", ")", rfl, by decide, by decide⟩
    | month => exact ⟨"toMonth(", ")", rfl, by decide, by decide⟩
    | year => exact ⟨"toYear(", ")", rfl, by decide, by decide⟩
  rw [shown, String.toList_append, String.toList_append, known, same]
  simp only [List.append_assoc]

/-- A literal in its normal form for a part of a date is compared as it is. -/
theorem Operand.NormalFor.partTemplate_eq {part : DatePart} {operand : Operand}
    (normal : operand.NormalFor part) : partTemplate part operand = .ok operand.template := by
  unfold Operand.NormalFor at normal
  split at normal
  · rcases normal with rfl | rfl <;> rfl
  · rcases normal with rfl | rfl | rfl <;> rfl
  · exact absurd normal id
  · exact absurd normal id

/-- A predicate that is written as something is not written as nothing. -/
theorem Predicate.Normal.spelling_ne_nil {predicate : Predicate} (normal : predicate.Normal)
    (naming : Value → Token) : predicate.spelling naming ≠ [] := by
  cases predicate with
  | raw sql => exact absurd normal id
  | basic | columns | inList | inIntegers | null | between | betweenColumns | datePart | nested =>
    simp [Predicate.spelling, spaced, listOpening]

section

variable (naming : Value → Token)

/-- A text that is written as some characters. -/
theorem some_ofList {text : String} {characters : List Char} (written : text.toList = characters) :
    some text = some (String.ofList characters) := by
  rw [← written, String.ofList_toList]

/-- A list that is not empty is written with its items. -/
theorem toList_renderList {column : Column} (normal : column.Normal) {items : List String}
    (some : items ≠ []) (negated : Bool) :
    (renderList column negated items).toList =
      column.spelling ++ (listOpening negated ++
        (commaSeparated (items.map String.toList) ++ [')'])) := by
  unfold renderList listOpening spaced commaSeparated
  rw [if_neg (by simpa using some)]
  simp [normal.wrap_eq]

/-- A range is written with its ends. -/
theorem toList_renderBetween {column : Column} (normal : column.Normal) (negated : Bool)
    (low high : String) :
    (renderBetween column negated low high).toList =
      column.spelling ++ (spaced (betweenKeyword negated) ++
        (low.toList ++ (spaced "and" ++ high.toList))) := by
  unfold renderBetween spaced
  simp [normal.wrap_eq]

/-- Behind others each fragment is written behind its connector. -/
theorem toList_behind (fragments : List (Connector × String)) :
    (behind fragments).toList =
      fragments.flatMap fun fragment => spaced fragment.1.keyword ++ fragment.2.toList := by
  induction fragments with
  | nil => rfl
  | cons fragment rest inductionHypothesis =>
    simp [behind, spaced, inductionHypothesis]

/-- Fragments behind each other are written with their connectors, if the first
one is not empty. -/
theorem toList_joinFragments {connector : Connector} {first : String} (shown : first ≠ "")
    (rest : List (Connector × String)) :
    (joinFragments ((connector, first) :: rest)).toList =
      first.toList ++ rest.flatMap fun fragment =>
        spaced fragment.1.keyword ++ fragment.2.toList := by
  rw [joinFragments_cons shown, String.toList_append, toList_behind]

/-- Normal conditions are written as something, so that no where clause of them is blank. -/
theorem conditionsSpelling_ne_nil {conditions : List Condition} (some : conditions ≠ [])
    (normal : AllNormal conditions) : conditionsSpelling naming conditions ≠ [] := by
  cases conditions with
  | nil => exact absurd rfl some
  | cons condition rest =>
    obtain ⟨connector, predicate⟩ := condition
    rw [conditionsSpelling]
    exact List.append_ne_nil_of_left_ne_nil (normal.1.spelling_ne_nil naming) _

/-- Normal predicates behind each other are written as conditions are. -/
theorem toList_joinFragments_of_normal {conditions : List Condition} (some : conditions ≠ [])
    (normal : AllNormal conditions) :
    (joinFragments (conditions.map fun condition =>
      (condition.connector, String.ofList (condition.predicate.spelling naming)))).toList =
        conditionsSpelling naming conditions := by
  cases conditions with
  | nil => exact absurd rfl some
  | cons condition rest =>
    obtain ⟨connector, predicate⟩ := condition
    have shown : String.ofList (predicate.spelling naming) ≠ "" := by
      intro empty
      have nothing := congrArg String.toList empty
      rw [String.toList_ofList] at nothing
      exact normal.1.spelling_ne_nil naming nothing
    rw [List.map_cons, toList_joinFragments shown, List.flatMap_map, conditionsSpelling,
      furtherSpelling_eq_flatMap]
    simp only [String.toList_ofList]

mutual

/-- The fragment of a normal predicate is written as the predicate is. Recursion follows it into
its groups, of which none is blank. -/
theorem Predicate.fill_template_of_normal : (predicate : Predicate) → predicate.Normal →
    Yields predicate.template fun fragment =>
      fill naming fragment = some (String.ofList (predicate.spelling naming))
  | .raw sql, normal => by
    exact absurd normal id
  | .basic column operator operand, normal => by
    obtain ⟨name, member, -⟩ := normal
    unfold Predicate.template
    rw [Operator.render_of_mem member]
    refine .of_pure (some_ofList ?_)
    change (Template.fill naming (_ :: operand.template)).toList = _
    simp [Predicate.spelling, Operand.spelling, spaced, name.wrap_eq]
  | .columns first operator second, normal => by
    obtain ⟨name, member, other⟩ := normal
    unfold Predicate.template
    rw [Operator.render_of_mem member]
    refine .of_pure (some_ofList ?_)
    change (Template.fill naming [_]).toList = _
    simp [Predicate.spelling, spaced, name.wrap_eq, other.wrap_eq]
  | .inList column operands negated, normal => by
    obtain ⟨name, some, -⟩ := normal
    unfold Predicate.template
    refine .of_pure (some_ofList ?_)
    refine (congrArg String.toList (fill_listTemplate naming column negated _)).trans ?_
    rw [toList_renderList name (by simpa using some), Predicate.spelling, List.map_map,
      List.map_map]
    rfl
  | .inIntegers column values negated, normal => by
    obtain ⟨name, some⟩ := normal
    unfold Predicate.template
    refine .of_pure (some_ofList ?_)
    refine (congrArg String.toList (fill_listTemplate naming column negated _)).trans ?_
    rw [toList_renderList name (by simpa using some), Predicate.spelling, List.map_map,
      List.map_map]
    simp [Function.comp_def]
  | .null column negated, normal => by
    unfold Predicate.template
    refine .of_pure (some_ofList ?_)
    have name : column.Normal := normal
    change (Template.fill naming [_]).toList = _
    simp [Predicate.spelling, name.wrap_eq]
  | .between column low high negated, normal => by
    obtain ⟨name, -, -⟩ := normal
    unfold Predicate.template
    refine .of_pure (some_ofList ?_)
    refine (congrArg String.toList (fill_betweenTemplate naming column negated _ _)).trans ?_
    rw [toList_renderBetween name, Predicate.spelling]
    rfl
  | .betweenColumns column low high negated, normal => by
    obtain ⟨name, lower, upper⟩ := normal
    unfold Predicate.template
    refine .of_pure (some_ofList ?_)
    refine (congrArg String.toList (fill_betweenTemplate naming column negated _ _)).trans ?_
    rw [toList_renderBetween name, Predicate.spelling]
    simp [lower.wrap_eq, upper.wrap_eq]
  | .datePart column part operator operand, normal => by
    obtain ⟨name, member, literal⟩ := normal
    unfold Predicate.template
    rw [Operator.render_of_mem member, literal.partTemplate_eq]
    refine .of_pure (some_ofList ?_)
    change (Template.fill naming (_ :: operand.template)).toList = _
    simp [Predicate.spelling, Operand.spelling, spaced, name.wrap_eq, part.toList_extraction]
  | .nested conditions, normal => by
    obtain ⟨some, -, all⟩ := normal
    unfold Predicate.template
    refine .bind fun fragments drafted => .of_pure ?_
    have filled : fill naming fragments = _ :=
      fill_fragmentTemplates_of_normal conditions all fragments drafted
    have text := toList_joinFragments_of_normal naming some all
    rw [← filled] at text
    have shown : (joinFragments (fill naming fragments)).isEmpty = false := by
      rw [String.isEmpty_eq_false_iff]
      intro empty
      rw [empty] at text
      exact conditionsSpelling_ne_nil naming some all text.symm
    rw [fill_nestedTemplate]
    dsimp only
    rw [shown, if_neg Bool.false_ne_true, Predicate.spelling]
    refine some_ofList ?_
    rw [String.toList_append, String.toList_append, text, List.append_assoc]
    rfl

/-- The fragment of a normal condition is written as its predicate is. -/
theorem Condition.fill_template_of_normal : (condition : Condition) → condition.Normal →
    Yields condition.template fun fragment => fill naming fragment =
      some (condition.connector, String.ofList (condition.predicate.spelling naming))
  | ⟨connector, predicate⟩, normal => by
    unfold Condition.template
    refine .bind fun fragment drafted => .of_pure ?_
    have filled : fill naming fragment = _ :=
      Predicate.fill_template_of_normal predicate normal fragment drafted
    cases fragment with
    | none => cases filled
    | some fragment => exact congrArg (Option.map (connector, ·)) filled

/-- The fragments of normal conditions are written as their predicates are. -/
theorem fill_fragmentTemplates_of_normal : (conditions : List Condition) → AllNormal conditions →
    Yields (fragmentTemplates conditions) fun fragments => fill naming fragments =
      conditions.map fun condition =>
        (condition.connector, String.ofList (condition.predicate.spelling naming))
  | [], _ => by
    unfold fragmentTemplates
    exact .of_pure rfl
  | condition :: rest, normal => by
    unfold fragmentTemplates
    refine .bind fun fragment drafted => .bind fun fragments draftedRest => .of_pure ?_
    have here : fill naming fragment = _ :=
      Condition.fill_template_of_normal condition normal.1 fragment drafted
    have later : fill naming fragments = _ :=
      fill_fragmentTemplates_of_normal rest normal.2 fragments draftedRest
    cases fragment with
    | none => cases here
    | some fragment => exact congr (congrArg List.cons (Option.some.inj here)) later

end

end

end BoundSql
