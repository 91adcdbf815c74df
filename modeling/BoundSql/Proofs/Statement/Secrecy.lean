import BoundSql.Proofs.Binding.Pattern
import BoundSql.Proofs.Statement.BoundValues
import BoundSql.Proofs.Statement.Outline
import BoundSql.Proofs.Statement.Placeholders

/-!
# The text of a statement hides its values

Two commands that differ only in the values they bind are compiled on fresh
registries. What a reader of the two texts can tell about the values is which of
them are textual and which of them are equal, and nothing else: if the two
commands agree in that, their texts are the same.
-/

namespace BoundSql

open Registry

/-- What stands for a value depends on its token and on whether it is textual, and on nothing
else of the value. -/
theorem Token.standIn_congr (token : Token) {value other : Value}
    (textual : value.isTextual = other.isTextual) : token.standIn value = token.standIn other := by
  unfold Token.standIn
  rw [textual]

/-- Rows of values with the same tokens are shown alike if their values are
textual at the same places. -/
theorem standIns_eq {values others : List Value} {naming naming' : Value → Token}
    (tokens : values.map naming = others.map naming')
    (textual : ∀ (i : Nat) (value other : Value), values[i]? = some value →
      others[i]? = some other → value.isTextual = other.isTextual) :
    values.map (fun value => (naming value).standIn value) =
      others.map fun other => (naming' other).standIn other := by
  have length : values.length = others.length := by
    simpa using congrArg List.length tokens
  refine List.ext_getElem (by simp [length]) ?_
  intro i below beneath
  rw [List.length_map] at below beneath
  have token : naming values[i] = naming' others[i] := by
    have here := congrArg (fun row => row[i]?) tokens
    simpa [below, beneath] using here
  have kind : values[i].isTextual = others[i].isTextual :=
    textual i _ _ (List.getElem?_eq_getElem below) (List.getElem?_eq_getElem beneath)
  rw [List.getElem_map, List.getElem_map, token]
  exact (naming' others[i]).standIn_congr kind

namespace Command

/-- Forgetting values keeps the number of assignments. -/
theorem length_assigned_forget (command : Command) :
    command.forget.assigned.length = command.assigned.length := by
  cases command with
  | update query assignments => simp [forget, assigned, Record.values, Record.forget]
  | select query => rfl
  | count query => rfl
  | delete query => rfl

/-- Two commands that differ only in the values they bind are compiled on fresh
registries. If their values, in the order of binding, are textual at the same
places and repeat themselves at the same places, then the texts are the same,
and so are the tokens of the parameters, as far as the digests of each command's
own values are apart.

Proof: the outline of a statement is that of the command without its values, so
the two outlines are one. Both rows of values are given the same tokens, since
these only number the different values of a row. What stands in a hole is made
of a token and of whether the value is textual. -/
theorem text_hides_values (first second : Command) (alike : first.forget = second.forget)
    {statement other : Statement}
    (compiled : (first.compile.runOn Registry.empty).1 = .ok statement)
    (alsoCompiled : (second.compile.runOn Registry.empty).1 = .ok other)
    (apart : Value.DigestsApart first.boundValues)
    (otherApart : Value.DigestsApart second.boundValues)
    (textual : ∀ (i : Nat) (value held : Value), first.boundValues[i]? = some value →
      second.boundValues[i]? = some held → value.isTextual = held.isTextual)
    (repeated : RepeatAlike first.boundValues second.boundValues) :
    first.boundValues.length = second.boundValues.length ∧ statement.sql = other.sql ∧
      statement.parameters.tokens = other.parameters.tokens := by
  obtain ⟨template, drafted⟩ := template_of_compiled compiled
  obtain ⟨otherTemplate, otherDrafted⟩ := template_of_compiled alsoCompiled
  -- One outline, hence equally many values, in the filter and in all.
  have outlines : template.outline = otherTemplate.outline := by
    obtain ⟨shape, known, same⟩ := first.outline_forget template drafted
    obtain ⟨otherShape, alsoKnown, alsoSame⟩ := second.outline_forget otherTemplate otherDrafted
    rw [alike, alsoKnown] at known
    rw [← same, ← alsoSame, Except.ok.inj known]
  have holes : template.holes = first.assigned ++ conditionValues first.query.conditions :=
    first.holes_template template drafted
  have otherHoles :
      otherTemplate.holes = second.assigned ++ conditionValues second.query.conditions :=
    second.holes_template otherTemplate otherDrafted
  have assignedLength : first.assigned.length = second.assigned.length := by
    rw [← first.length_assigned_forget, alike, second.length_assigned_forget]
  have holesLength : template.holes.length = otherTemplate.holes.length := by
    rw [← template.length_holes_outline, outlines, otherTemplate.length_holes_outline]
  have filterLength : (conditionValues first.query.conditions).length =
      (conditionValues second.query.conditions).length := by
    rw [holes, otherHoles, List.length_append, List.length_append] at holesLength
    omega
  have length : first.boundValues.length = second.boundValues.length := by
    unfold boundValues
    rw [List.length_append, List.length_append, assignedLength, filterLength]
  -- One row of tokens, hence the same in every hole.
  obtain ⟨after, complete, done⟩ := first.completes_with_values drafted Registry.empty
  obtain ⟨otherAfter, otherComplete, otherDone⟩ :=
    second.completes_with_values otherDrafted Registry.empty
  rw [done] at compiled
  rw [otherDone] at alsoCompiled
  obtain rfl := Except.ok.inj compiled
  obtain rfl := Except.ok.inj alsoCompiled
  have grown : GrowsBy Registry.empty first.boundValues after := first.grown_of_complete complete
  have otherGrown : GrowsBy Registry.empty second.boundValues otherAfter :=
    second.grown_of_complete otherComplete
  have tokens : first.boundValues.map after.tokenOf = second.boundValues.map otherAfter.tokenOf :=
    tokens_of_repeatAlike grown otherGrown apart otherApart length repeated
  refine ⟨length, ?_, ?_⟩
  · have shown := standIns_eq tokens textual
    unfold boundValues at shown
    rw [List.map_append, List.map_append] at shown
    obtain ⟨inFilter, inAssignments⟩ := List.append_inj shown (by simp [filterLength])
    refine Template.fill_eq_of_outline outlines ?_
    rw [holes, otherHoles, List.map_append, List.map_append, inFilter, inAssignments]
  · rw [first.carried_fresh complete, second.carried_fresh otherComplete,
      grown.tokens_eq consistent_empty, otherGrown.tokens_eq consistent_empty, tokens]

/-- Two updates whose years, given in three ways, are normalised to one value,
which is also assigned. Nothing of the years, the users and the notes is in the
text. -/
theorem text_hides_values_of_update :
    let update (user year sameYear note : Value) (number : Int64) : Command :=
      .update
        { table := "visits", distinct := false, columns := [], joins := [],
          conditions := [⟨.and, .basic (.name "user") "=" (.bound user)⟩,
            ⟨.or, .nested [⟨.and, .datePart (.name "at") .year "=" (.bound year)⟩,
              ⟨.and, .inList (.name "user") [.raw "me()", .bound user] true⟩,
              ⟨.or, .datePart (.name "left") .year "<" (.bound sameYear)⟩]⟩],
          groups := [], orderings := [], limit := none, offset := none }
        ⟨[("year", .int number), ("note", note)]⟩
    let february : Calendar.Date := ⟨1999, 2, 3, by decide, by decide, by decide⟩
    let first := update (.string "x' or 1 = 1") (.string " 02024") (.uint 2024) .null 2024
    let second := update (.string "secret") (.date february) (.int 1999) (.bool true) 1999
    first.forget = second.forget ∧
      ∃ statement other, (first.compile.runOn Registry.empty).1 = .ok statement ∧
        (second.compile.runOn Registry.empty).1 = .ok other ∧ statement.sql = other.sql := by
  intro update february first second
  have alike : first.forget = second.forget := rfl
  have succeeds : (first.compile.runOn Registry.empty).1.isOk = true := by decide +kernel
  have alsoSucceeds : (second.compile.runOn Registry.empty).1.isOk = true := by decide +kernel
  have values : first.boundValues = [.string "x' or 1 = 1", .int 2024, .string "x' or 1 = 1",
      .int 2024, .int 2024, .null] := rfl
  have others : second.boundValues = [.string "secret", .int 1999, .string "secret", .int 1999,
      .int 1999, .bool true] := rfl
  have apart : Value.DigestsApart first.boundValues := by
    rw [values]
    unfold Value.DigestsApart
    decide +kernel
  have otherApart : Value.DigestsApart second.boundValues := by
    rw [others]
    unfold Value.DigestsApart
    decide +kernel
  have textual : ∀ (i : Nat) (value held : Value), first.boundValues[i]? = some value →
      second.boundValues[i]? = some held → value.isTextual = held.isTextual := by
    rw [values, others]
    intro i value held here there
    have below : i < 6 := (List.getElem?_eq_some_iff.mp here).1
    interval_cases i <;> cases here <;> cases there <;> rfl
  have repeated : RepeatAlike first.boundValues second.boundValues := by
    rw [values, others]
    intro i j below beneath
    simp only [List.length_cons, List.length_nil] at below beneath
    interval_cases i <;> interval_cases j <;> simp
  cases compiled : (first.compile.runOn Registry.empty).1 with
  | error error =>
    rw [compiled] at succeeds
    cases succeeds
  | ok statement =>
    cases alsoCompiled : (second.compile.runOn Registry.empty).1 with
    | error error =>
      rw [alsoCompiled] at alsoSucceeds
      cases alsoSucceeds
    | ok other =>
      obtain ⟨-, sameText, -⟩ := text_hides_values first second alike compiled alsoCompiled apart
        otherApart textual repeated
      exact ⟨alike, statement, other, rfl, rfl, sameText⟩

end Command

end BoundSql
