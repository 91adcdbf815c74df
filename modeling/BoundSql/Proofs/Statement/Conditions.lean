import BoundSql.Proofs.Statement.Realisation

/-!
# Conditions fill their holes

Every predicate binds exactly the values of its holes, whatever it is nested in,
and no group that is skipped holds any. The proof follows the three functions
that render predicates, conditions and lists of conditions together.
-/

namespace BoundSql

open Fillable

/-! ## Fragments behind each other -/

/-- A filled text and the next fragment filled. Whether the text is empty is decided on the text
with holes, since no naming empties a hole. -/
theorem fill_followedBy (naming : Value → Token) (text : Template)
    (fragment : Connector × Template) :
    Template.fill naming (text.followedBy fragment) =
      if (Template.fill naming text).isEmpty then
        Template.fill naming fragment.2
      else
        Template.fill naming text ++ " " ++ fragment.1.keyword ++ " " ++
          Template.fill naming fragment.2 := by
  unfold Template.followedBy
  rw [Template.isEmpty_fill]
  split
  · rfl
  · simp [String.append_assoc]

/-- No hole is lost behind a text: what is dropped is blank. -/
theorem holes_followedBy (text : Template) (fragment : Connector × Template) :
    (text.followedBy fragment).holes = text.holes ++ fragment.2.holes := by
  unfold Template.followedBy
  split
  · rename_i blank
    rw [Template.holes_of_isBlank blank, List.nil_append]
  · simp

/-- Filled fragments are joined as the fragments are. -/
theorem fill_joinTemplates (naming : Value → Token) (fragments : List (Connector × Template)) :
    Template.fill naming (joinTemplates fragments) = joinFragments (fill naming fragments) := by
  change _ = joinFragments (fragments.map (fill naming))
  unfold joinTemplates joinFragments
  rw [List.foldl_map]
  exact (List.foldl_hom (Template.fill naming)
    fun text fragment => (fill_followedBy naming text fragment).symm).symm

/-- Fragments behind each other have all their holes, in order; blank fragments have none to
lose. -/
theorem holes_joinTemplates (fragments : List (Connector × Template)) :
    (joinTemplates fragments).holes = holes fragments := by
  have general : ∀ text : Template,
      (fragments.foldl Template.followedBy text).holes = text.holes ++ holes fragments := by
    induction fragments with
    | nil => exact fun text => (List.append_nil _).symm
    | cons first rest inductionHypothesis =>
      intro text
      have parts : holes (first :: rest) = first.2.holes ++ holes rest := rfl
      rw [List.foldl_cons, inductionHypothesis, holes_followedBy, parts, List.append_assoc]
  exact general []

/-- Filling conditions in parentheses is putting the filled ones in
parentheses. -/
theorem fill_nestedTemplate (naming : Value → Token) (fragments : List (Connector × Template)) :
    fill naming (nestedTemplate fragments) =
      let inner := joinFragments (fill naming fragments)
      if inner.isEmpty then none else some ("(" ++ inner ++ ")") := by
  dsimp only
  rw [← fill_joinTemplates, Template.isEmpty_fill]
  unfold nestedTemplate
  split
  · rfl
  · change some (Template.fill naming _) = _
    simp [String.append_assoc]

/-- Parentheses hold the holes of their conditions. -/
theorem holes_nestedTemplate (fragments : List (Connector × Template)) :
    holes (nestedTemplate fragments) = holes fragments := by
  rw [← holes_joinTemplates]
  unfold nestedTemplate
  split
  · rename_i blank
    exact (Template.holes_of_isBlank blank).symm
  · change List.flatMap Template.holes [_] = _
    simp

/-! ## Lists and ranges -/

/-- A filled list is the list of the filled items. -/
theorem fill_listTemplate (naming : Value → Token) (column : Column) (negated : Bool)
    (items : List Template) :
    Template.fill naming (listTemplate column negated items) =
      renderList column negated (items.map (Template.fill naming)) := by
  unfold listTemplate renderList
  rw [List.isEmpty_map]
  split
  · simp
  · simp [Template.fill_join, String.append_assoc]

/-- The holes of a list are those of its items. -/
theorem holes_listTemplate (column : Column) (negated : Bool) (items : List Template) :
    (listTemplate column negated items).holes = items.flatMap Template.holes := by
  unfold listTemplate
  split
  · rename_i empty
    rw [List.isEmpty_iff.mp empty]
    rfl
  · simp [Template.holes_join]

/-- A filled range has the filled ends. -/
theorem fill_betweenTemplate (naming : Value → Token) (column : Column) (negated : Bool)
    (low high : Template) :
    Template.fill naming (betweenTemplate column negated low high) =
      renderBetween column negated (Template.fill naming low) (Template.fill naming high) := by
  simp [betweenTemplate, renderBetween, String.append_assoc]

/-- The holes of a range are those of its ends. -/
theorem holes_betweenTemplate (column : Column) (negated : Bool) (low high : Template) :
    (betweenTemplate column negated low high).holes = low.holes ++ high.holes := by
  simp [betweenTemplate]

/-! ## Operators and operands -/

/-- What is accepted as an operator is rendered in its form. -/
theorem Operator.normalized_of_render {operator meant : String}
    (accepted : render operator = .ok meant) : normalized operator = meant := by
  unfold render at accepted
  split at accepted
  · exact Except.ok.inj accepted
  · cases accepted

/-- Binding a value for the filter realises its hole. -/
theorem bound_realises (value : Value) :
    Realises (bound value) (.ok ([.hole value] : Template)) := by
  intro registry later extended
  have known := Registry.lookup_bind registry .whereClause value
  have filled : fill later.tokenOf ([Piece.hole value] : Template) =
      (registry.tokenOf value).standIn value := by
    rw [← Registry.Extends.tokenOf_eq extended known, ← Template.fill_hole]
    exact String.append_empty
  rw [filled]
  rfl

/-- An operand realises its text or its hole. -/
theorem Operand.realises (operand : Operand) : Realises operand.render (.ok operand.template) := by
  cases operand with
  | raw sql => exact .of_closed rfl fun _ => String.append_empty
  | bound value => exact bound_realises value

/-- A value compared with a part of a date realises the hole of its normal
form. -/
theorem partTemplate_realises (part : DatePart) (operand : Operand) :
    Realises (renderPartValue part operand) (partTemplate part operand) := by
  cases operand with
  | raw sql => exact .of_closed rfl fun _ => String.append_empty
  | bound value => exact .after fun normal => bound_realises normal

/-- Text without holes realises itself, since nothing is bound for it and no naming changes it. -/
theorem Realises.text (written : String) :
    Realises (pure (some written)) (.ok (some ([.text written] : Template))) :=
  .of_closed rfl fun _ => congrArg some String.append_empty

/-- Text in front of a fragment is in front of what realises it. -/
theorem Realises.behind {action : Compile String} {draft : Except CompileError Template}
    (start : Realises action draft) (written : String) :
    Realises (do let fragment ← action; pure (some (written ++ fragment)))
      (do let template ← draft; pure (some (Piece.text written :: template : Template))) := by
  refine start.map _ (fun template => some (.text written :: template : Template)) ?_ ?_
  · exact fun template => holes_some _
  · exact fun naming template => rfl

/-! ## Predicates -/

mutual

/-- A predicate realises its fragment. The cases are the kinds of predicates; a group goes on
with its conditions. -/
theorem Predicate.realises : (predicate : Predicate) →
    Realises predicate.render predicate.template
  | .raw sql => by
    unfold Predicate.render Predicate.template
    exact .text sql
  | .basic column operator value => by
    unfold Predicate.render Predicate.template
    exact .after fun operator => value.realises.behind _
  | .columns first operator second => by
    unfold Predicate.render Predicate.template
    exact .after fun operator => .text _
  | .inList column values negated => by
    unfold Predicate.render Predicate.template
    refine (Realises.mapM values Operand.realises).map _
      (fun items => some (listTemplate column negated items)) ?_ ?_
    · intro items
      exact (holes_some _).trans (holes_listTemplate column negated items)
    · intro naming items
      exact congrArg some (fill_listTemplate naming column negated items)
  | .inIntegers column values negated => by
    unfold Predicate.render Predicate.template
    refine .of_closed ?_ fun naming => ?_
    · rw [holes_some]
      refine (holes_listTemplate column negated _).trans ?_
      simp [List.flatMap_map]
    · refine congrArg some ((fill_listTemplate naming column negated _).trans ?_)
      simp [Function.comp_def]
  | .null column negated => by
    unfold Predicate.render Predicate.template
    exact .text _
  | .between column low high negated => by
    unfold Predicate.render Predicate.template
    refine low.realises.map₂ high.realises _
      (fun front back => some (betweenTemplate column negated front back)) ?_ ?_
    · intro front back
      exact (holes_some _).trans (holes_betweenTemplate column negated front back)
    · intro naming front back
      exact congrArg some (fill_betweenTemplate naming column negated front back)
  | .betweenColumns column low high negated => by
    unfold Predicate.render Predicate.template
    refine .of_closed ?_ fun naming => ?_
    · rw [holes_some]
      exact holes_betweenTemplate column negated _ _
    · refine congrArg some ((fill_betweenTemplate naming column negated _ _).trans ?_)
      simp
  | .datePart column part operator value => by
    unfold Predicate.render Predicate.template
    exact .after fun operator => (partTemplate_realises part value).behind _
  | .nested conditions => by
    unfold Predicate.render Predicate.template
    exact (fragments_realise conditions).map _ nestedTemplate holes_nestedTemplate
      fill_nestedTemplate

/-- A condition realises its fragment with its connector. -/
theorem Condition.realises : (condition : Condition) →
    Realises condition.render condition.template
  | ⟨connector, predicate⟩ => by
    unfold Condition.render Condition.template
    refine predicate.realises.map _ (Option.map (connector, ·)) ?_ ?_
    · rintro (_ | _) <;> rfl
    · rintro _ (_ | _) <;> rfl

/-- Conditions realise their fragments, in order. What one binds is bound when the next one
comes. -/
theorem fragments_realise : (conditions : List Condition) →
    Realises (renderFragments conditions) (fragmentTemplates conditions)
  | [] => .of_closed rfl fun _ => rfl
  | condition :: rest => by
    unfold renderFragments fragmentTemplates
    refine condition.realises.map₂ (fragments_realise rest) _
      (fun fragment fragments => fragment.toList ++ fragments) ?_ ?_
    · intro fragment fragments
      exact List.flatMap_append
    · rintro naming (_ | fragment) fragments <;> rfl

end

/-- The text of conditions realises the one that is meant. -/
theorem conditions_realise (conditions : List Condition) :
    Realises (renderConditions conditions) (conditionsTemplate conditions) :=
  (fragments_realise conditions).map joinFragments joinTemplates holes_joinTemplates
    fill_joinTemplates

/-- The where clause of conditions realises the one that is meant. -/
theorem where_realises (conditions : List Condition) :
    Realises (renderWhere conditions) (whereTemplate conditions) := by
  refine (conditions_realise conditions).map _
    (fun text : Template => if text.isBlank then [] else .text "where " :: text) ?_ ?_
  · intro text
    split
    · rename_i blank
      exact (Template.holes_of_isBlank blank).symm
    · rfl
  · intro naming text
    have empty : (fill naming text).isEmpty = text.isBlank := Template.isEmpty_fill naming text
    rw [empty]
    split <;> rfl

end BoundSql
