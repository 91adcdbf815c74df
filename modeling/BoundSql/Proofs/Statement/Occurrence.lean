import BoundSql.Proofs.Statement.Filter
import Mathlib.Data.List.Infix

/-!
# Where a predicate is shown

A predicate stands among the conditions of a query or in a group among them, to any
depth. What is drafted for it, unless it is blank, is drafted unchanged for the
whole statement, in all four kinds of statements: groups, connectors, the where
clause and what a command says around it are put in front of it and behind it. So a
compiled statement shows the predicate with the tokens that all of it has.
-/

namespace BoundSql

open Fillable

/-- A predicate stands among conditions, or in a group among them, at any depth. -/
inductive Predicate.Occurs (predicate : Predicate) : List Condition → Prop
  | here {connector : Connector} {conditions : List Condition}
      (member : ⟨connector, predicate⟩ ∈ conditions) : Occurs predicate conditions
  | inGroup {connector : Connector} {group conditions : List Condition}
      (member : ⟨connector, .nested group⟩ ∈ conditions) (inside : Occurs predicate group) :
      Occurs predicate conditions

/-- A template shows a predicate: its fragment is drafted, and what is not blank of it stands in the
template as it is. -/
def Predicate.ShownIn (predicate : Predicate) (template : Template) : Prop :=
  ∃ fragment?, predicate.template = .ok fragment? ∧
    ∀ fragment ∈ fragment?, fragment.isBlank = false → fragment <:+: template

namespace Template

/-- What is not blank makes everything around it not blank, so nothing that holds it can be
dropped. -/
theorem shown_of_infix {part whole : Template} (inside : part <:+: whole)
    (shown : part.isBlank = false) : whole.isBlank = false := by
  obtain ⟨front, back, rfl⟩ := inside
  rw [isBlank_append, isBlank_append, shown, Bool.and_false, Bool.false_and]

/-- A text with a separator between its parts has each of them in it. -/
theorem infix_join (separator : String) {part : Template} {parts : List Template}
    (member : part ∈ parts) : part <:+: join separator parts := by
  unfold join
  induction parts with
  | nil => cases member
  | cons first rest inductionHypothesis =>
    cases rest with
    | nil =>
      obtain rfl := List.mem_singleton.mp member
      rw [List.intercalate_singleton]
    | cons second others =>
      rw [List.intercalate_cons_cons]
      rcases List.mem_cons.mp member with rfl | later
      · rw [List.append_assoc]
        exact (List.prefix_append _ _).isInfix
      · exact (inductionHypothesis later).trans (List.suffix_append _ _).isInfix

/-- What stands in a template stands in the filled text, filled alike. -/
theorem exists_around_fill {part whole : Template} (inside : part <:+: whole)
    (naming : Value → Token) :
    ∃ front back, whole.fill naming = front ++ part.fill naming ++ back := by
  obtain ⟨front, back, rfl⟩ := inside
  exact ⟨fill naming front, fill naming back, by simp [String.append_assoc]⟩

end Template

/-! ## Fragments behind each other -/

/-- The next fragment is at the end of the text. -/
theorem suffix_followedBy (text : Template) (fragment : Connector × Template) :
    fragment.2 <:+ text.followedBy fragment := by
  unfold Template.followedBy
  split
  · exact List.suffix_rfl
  · rw [← List.singleton_append, ← List.append_assoc]
    exact List.suffix_append _ _

/-- What is not blank in a text stays there when the next fragment comes. -/
theorem infix_followedBy {part text : Template} (shown : part.isBlank = false)
    (inside : part <:+: text) (fragment : Connector × Template) :
    part <:+: text.followedBy fragment := by
  unfold Template.followedBy
  rw [Template.shown_of_infix inside shown, if_neg Bool.false_ne_true]
  exact inside.trans (List.prefix_append _ _).isInfix

/-- What stands in a fragment and is not blank stands in the text of all fragments. -/
theorem infix_joinTemplates {part : Template} {fragments : List (Connector × Template)}
    {fragment : Connector × Template} (shown : part.isBlank = false) (member : fragment ∈ fragments)
    (inside : part <:+: fragment.2) : part <:+: joinTemplates fragments := by
  have kept : ∀ (rest : List (Connector × Template)) (text : Template), part <:+: text →
      part <:+: rest.foldl Template.followedBy text := by
    intro rest
    induction rest with
    | nil => exact fun text standing => standing
    | cons first others inductionHypothesis =>
      exact fun text standing => inductionHypothesis _ (infix_followedBy shown standing first)
  obtain ⟨front, back, rfl⟩ := List.append_of_mem member
  unfold joinTemplates
  rw [List.foldl_append, List.foldl_cons]
  exact kept back _ (inside.trans (suffix_followedBy _ fragment).isInfix)

/-- A condition is drafted among others as it is drafted alone. Its neighbours decide about
connectors, but not about its fragment. -/
theorem fragment_of_mem {condition : Condition} : (conditions : List Condition) →
    condition ∈ conditions →
      Yields (fragmentTemplates conditions) fun fragments => ∃ fragment?,
        condition.template = .ok fragment? ∧ ∀ fragment ∈ fragment?, fragment ∈ fragments
  | [], member => absurd member List.not_mem_nil
  | first :: rest, member => by
    unfold fragmentTemplates
    refine .bind fun fragment drafted => .bind fun fragments draftedRest => .of_pure ?_
    rcases List.mem_cons.mp member with rfl | later
    · refine ⟨fragment, drafted, fun shown found => ?_⟩
      exact List.mem_append_left _ (Option.mem_toList.mpr found)
    · obtain ⟨other, alsoDrafted, found⟩ := fragment_of_mem rest later fragments draftedRest
      exact ⟨other, alsoDrafted, fun shown given => List.mem_append_right _ (found shown given)⟩

/-- A predicate is shown by all that has in it, unless it is blank, what shows it. -/
theorem Predicate.ShownIn.within {predicate : Predicate} {part whole : Template}
    (shown : predicate.ShownIn part) (kept : part.isBlank = false → part <:+: whole) :
    predicate.ShownIn whole := by
  obtain ⟨fragment?, drafted, stands⟩ := shown
  refine ⟨fragment?, drafted, fun fragment found some => ?_⟩
  have inside := stands fragment found some
  exact inside.trans (kept (Template.shown_of_infix inside some))

/-- Among the fragments of its conditions a predicate is shown by the text of them
all. -/
theorem Predicate.shownIn_joinTemplates {predicate : Predicate} {connector : Connector}
    {conditions : List Condition} (member : ⟨connector, predicate⟩ ∈ conditions) :
    Yields (fragmentTemplates conditions) fun fragments =>
      predicate.ShownIn (joinTemplates fragments) := by
  intro fragments drafted
  obtain ⟨pair?, known, listed⟩ := fragment_of_mem conditions member fragments drafted
  unfold Condition.template at known
  cases own : predicate.template with
  | error error =>
    rw [own] at known
    cases known
  | ok fragment? =>
    rw [own] at known
    obtain rfl : fragment?.map (connector, ·) = pair? := Except.ok.inj known
    refine ⟨fragment?, own, fun fragment found shown => ?_⟩
    have member : (connector, fragment) ∈ fragments :=
      listed _ (Option.mem_map_of_mem (connector, ·) found)
    exact infix_joinTemplates shown member List.infix_rfl

/-- A group is drafted if its conditions are, and unless they are blank it has their
text in parentheses. -/
theorem template_of_group {group : List Condition} {fragment? : Option Template}
    (drafted : Predicate.template (.nested group) = .ok fragment?) :
    ∃ text, conditionsTemplate group = .ok text ∧
      (text.isBlank = false → fragment? = some (.text "(" :: (text ++ [.text ")"]))) := by
  unfold Predicate.template at drafted
  unfold conditionsTemplate
  cases inner : fragmentTemplates group with
  | error error =>
    rw [inner] at drafted
    cases drafted
  | ok parts =>
    rw [inner] at drafted
    obtain rfl := Except.ok.inj drafted
    refine ⟨joinTemplates parts, rfl, fun shown => ?_⟩
    unfold nestedTemplate
    rw [shown, if_neg Bool.false_ne_true]

/-! ## Statements -/

namespace Predicate.Occurs

variable {predicate : Predicate}

/-- Wherever a predicate stands, it is shown by the text of the conditions.

Proof: among the conditions themselves it has a fragment. If it stands in a group, the
text of the group shows it by induction, and the group is among the conditions. -/
theorem shownIn_conditions {conditions : List Condition} (occurs : predicate.Occurs conditions) :
    Yields (conditionsTemplate conditions) predicate.ShownIn := by
  induction occurs with
  | here member =>
    exact .bind fun fragments drafted => .of_pure (shownIn_joinTemplates member fragments drafted)
  | inGroup member inside inductionHypothesis =>
    refine .bind fun fragments drafted => .of_pure ?_
    obtain ⟨fragment?, known, stands⟩ := shownIn_joinTemplates member fragments drafted
    obtain ⟨text, inner, grouped⟩ := template_of_group known
    refine (inductionHypothesis text inner).within fun shown => ?_
    have parenthesised : text <:+: .text "(" :: (text ++ [.text ")"]) :=
      ⟨[.text "("], [.text ")"], rfl⟩
    exact parenthesised.trans
      (stands _ (grouped shown) (Template.shown_of_infix parenthesised shown))

/-- It is shown by the where clause, which adds a word in front of the conditions. -/
theorem shownIn_where {conditions : List Condition} (occurs : predicate.Occurs conditions) :
    Yields (whereTemplate conditions) predicate.ShownIn := by
  refine .bind fun text drafted => .of_pure ((occurs.shownIn_conditions text drafted).within ?_)
  intro shown
  rw [shown, if_neg Bool.false_ne_true]
  exact (List.suffix_cons _ text).isInfix

/-- It is shown by the where clause of a change, which is replaced only where there is nothing
to show. -/
theorem shownIn_filter {query : Query} (occurs : predicate.Occurs query.conditions) :
    Yields query.filterTemplate predicate.ShownIn := by
  refine .bind fun filter drafted => .of_pure ((occurs.shownIn_where filter drafted).within ?_)
  intro shown
  rw [shown, if_neg Bool.false_ne_true]

/-- It is shown by clauses with the where clause among them. -/
theorem shownIn_clauses {filter : Template} (shown : predicate.ShownIn filter)
    (front back : List String) : predicate.ShownIn (clausesTemplate front filter back) := by
  refine shown.within fun some => ?_
  have clause : clauseTemplate filter = [filter] := by
    rw [clauseTemplate, some, if_neg Bool.false_ne_true]
  unfold clausesTemplate
  rw [clause]
  exact Template.infix_join " " (by simp)

/-- Wherever a predicate stands in the query of a command, it is shown by the statement
that the command means. -/
theorem shownIn_template {command : Command} (occurs : predicate.Occurs command.query.conditions) :
    Yields command.template predicate.ShownIn := by
  cases command with
  | select query | count query =>
    exact .bind fun joins _ => .bind fun filter drafted =>
      .of_pure (shownIn_clauses (occurs.shownIn_where filter drafted) _ _)
  | delete query =>
    refine .bind fun filter drafted => .of_pure ?_
    exact (occurs.shownIn_filter filter drafted).within fun _ => (List.suffix_cons _ filter).isInfix
  | update query assignments =>
    change Yields (query.updateTemplate assignments) predicate.ShownIn
    unfold Query.updateTemplate
    split
    · rintro template ⟨⟩
    · refine .bind fun filter drafted => .of_pure ?_
      refine (occurs.shownIn_filter filter drafted).within fun _ => List.IsSuffix.isInfix ?_
      rw [← List.singleton_append, ← List.singleton_append (l := filter), ← List.append_assoc,
        ← List.append_assoc]
      exact List.suffix_append _ filter

end Predicate.Occurs

end BoundSql
