import BoundSql.Proofs.Statement.Filter
import BoundSql.Proofs.Statement.Fragments
import BoundSql.Proofs.Statement.Related
import BoundSql.Query.Builder

/-!
# What conditions without text leave behind

A condition may have no text: an empty raw text, or a group in which nothing is
said. A group without text is passed over with its connector. An empty raw text
is a fragment like others, and as soon as something stands in front of it its
connector is written, with nothing behind. The main statement says what is
written of any conditions, when that is only their texts and the connectors
between them, and what is left in a text, at any depth, of one condition that has
none.

Nothing is said of raw text that is not empty but blank; it counts as text.
-/

namespace BoundSql

/-! ## Conditions that say nothing -/

/-- The fragment of a predicate that says nothing: empty raw text is one, a group has none. -/
def Predicate.silence : Predicate → Option String
  | .raw sql => some sql
  | _ => none

/-- The fragment of a predicate that says nothing is missing or empty. -/
theorem Predicate.Vacuous.silence_eq {predicate : Predicate} (vacuous : predicate.Vacuous) :
    predicate.silence = none ∨ predicate.silence = some "" := by
  cases predicate with
  | raw sql =>
    rw [Predicate.Vacuous] at vacuous
    exact Or.inr (congrArg some vacuous)
  | _ => exact Or.inl rfl

mutual

/-- A predicate that says nothing has its fragment at once, whatever is bound: it reads no
registry and leaves it as it is. -/
theorem Predicate.render_of_vacuous : (predicate : Predicate) → predicate.Vacuous →
    predicate.render = pure predicate.silence
  | .raw sql, _ => by
    rw [Predicate.render, Predicate.silence]
  | .nested conditions, vacuous => by
    have silent : AllVacuous conditions := by rwa [Predicate.Vacuous] at vacuous
    obtain ⟨fragments, rendered, blank⟩ := renderFragments_of_vacuous conditions silent
    rw [Predicate.render, rendered, pure_bind]
    simp [blank, Predicate.silence]

/-- Conditions that say nothing have fragments at once of which nothing is written. -/
theorem renderFragments_of_vacuous : (conditions : List Condition) → AllVacuous conditions →
    ∃ fragments, renderFragments conditions = pure fragments ∧ joinFragments fragments = ""
  | [], _ => ⟨[], by rw [renderFragments], rfl⟩
  | ⟨connector, predicate⟩ :: rest, silent => by
    rw [AllVacuous, Condition.Vacuous] at silent
    obtain ⟨vacuous, others⟩ := silent
    obtain ⟨fragments, rendered, blank⟩ := renderFragments_of_vacuous rest others
    have here := predicate.render_of_vacuous vacuous
    refine ⟨(predicate.silence.map (connector, ·)).toList ++ fragments, ?_, ?_⟩
    · rw [renderFragments, Condition.render, here, rendered]
      rfl
    · rcases vacuous.silence_eq with missing | empty
      · rw [missing]
        exact blank
      · rw [empty]
        exact (joinFragments_cons_empty connector fragments).trans blank

end

/-- What conditions are rendered to is empty exactly if none says anything. -/
theorem text_eq_empty_iff {conditions : List Condition} {registry after : Registry} {text : String}
    (rendered : (renderConditions conditions).runOn registry = (.ok text, after)) :
    text = "" ↔ AllVacuous conditions := by
  cases known : conditionsTemplate conditions with
  | error error =>
    have ran := conditions_realise conditions registry
    rw [known] at ran
    obtain ⟨values, stopped⟩ := ran
    rw [rendered] at stopped
    cases stopped
  | ok template =>
    rw [runOn_conditions known (Registry.Extends.refl _)] at rendered
    cases rendered
    have blank : template.isBlank = true ↔ AllVacuous conditions :=
      blank_conditions_iff conditions template known
    rw [← blank, ← String.isEmpty_iff, Template.isEmpty_fill]

/-- The own text of a condition is empty exactly if it says nothing. -/
theorem Condition.ownText_eq_empty_iff {condition : Condition} {registry after : Registry}
    {own : String} (rendered : condition.ownText.runOn registry = (.ok own, after)) :
    own = "" ↔ condition.Vacuous := by
  rw [← renderConditions_singleton] at rendered
  rw [text_eq_empty_iff rendered, AllVacuous, AllVacuous, and_true]

/-! ## Traces -/

/-- An empty raw text stands behind a condition that says something, at the top of the
conditions and not inside a group. -/
def Dangling (conditions : List Condition) : Prop :=
  ∃ front connector back,
    conditions = front ++ ⟨connector, .raw ""⟩ :: back ∧ ¬AllVacuous front

/-- A first condition that says nothing makes no difference to dangling. -/
theorem dangling_cons_of_vacuous {condition : Condition} (vacuous : condition.Vacuous)
    (rest : List Condition) : Dangling (condition :: rest) ↔ Dangling rest := by
  constructor
  · rintro ⟨front, connector, back, parts, said⟩
    cases front with
    | nil => exact absurd (by rw [AllVacuous]; trivial) said
    | cons first others =>
      obtain ⟨rfl, rfl⟩ := List.cons.inj parts
      refine ⟨others, connector, back, rfl, fun silent => said ?_⟩
      rw [AllVacuous]
      exact ⟨vacuous, silent⟩
  · rintro ⟨front, connector, back, rfl, said⟩
    refine ⟨condition :: front, connector, back, rfl, fun silent => said ?_⟩
    rw [AllVacuous] at silent
    exact silent.2

/-- Behind a first condition that says something every empty raw text is dangling. -/
theorem dangling_cons_of_said {condition : Condition} (said : ¬condition.Vacuous)
    (rest : List Condition) :
    Dangling (condition :: rest) ↔ ∃ connector, ⟨connector, .raw ""⟩ ∈ rest := by
  constructor
  · rintro ⟨front, connector, back, parts, -⟩
    cases front with
    | nil =>
      obtain ⟨rfl, rfl⟩ := List.cons.inj parts
      refine absurd ?_ said
      rw [Condition.Vacuous, Predicate.Vacuous]
    | cons first others =>
      obtain ⟨rfl, rfl⟩ := List.cons.inj parts
      exact ⟨connector, by simp⟩
  · rintro ⟨connector, member⟩
    obtain ⟨front, back, rfl⟩ := List.append_of_mem member
    refine ⟨condition :: front, connector, back, rfl, fun silent => said ?_⟩
    rw [AllVacuous] at silent
    exact silent.1

/-- A condition that says nothing is a group or an empty raw text. -/
theorem Condition.Vacuous.isGroup_or_raw {condition : Condition} (vacuous : condition.Vacuous) :
    condition.isGroup = true ∨ condition = ⟨condition.connector, .raw ""⟩ := by
  obtain ⟨connector, predicate⟩ := condition
  cases predicate with
  | raw sql =>
    rw [Condition.Vacuous, Predicate.Vacuous] at vacuous
    exact Or.inr (vacuous ▸ rfl)
  | nested conditions => exact Or.inl rfl
  | _ => exact absurd vacuous id

section Traces

variable {conditions : List Condition} {texts : List String}

/-- A condition's fragment is there and empty exactly if the condition is an empty raw text. -/
theorem Condition.fragment?_shown_iff {condition : Condition} {own : String}
    (silent : own = "" ↔ condition.Vacuous) :
    (∀ fragment ∈ (condition.fragment? own).toList, fragment.2 ≠ "") ↔
      ¬∃ connector, condition = ⟨connector, .raw ""⟩ := by
  by_cases empty : own = ""
  · rcases (silent.mp empty).isGroup_or_raw with group | raw
    · have missing : condition.fragment? own = none := if_pos ⟨empty, group⟩
      rw [missing]
      refine iff_of_true (by simp) ?_
      rintro ⟨connector, rfl⟩
      cases group
    · have there : condition.fragment? own = some (condition.connector, own) := by
        refine if_neg fun nothing => ?_
        rw [raw] at nothing
        cases nothing.2
      rw [there]
      exact iff_of_false (by simp [empty]) (not_not_intro ⟨_, raw⟩)
  · have there : condition.fragment? own = some (condition.connector, own) :=
      if_neg fun nothing => empty nothing.1
    rw [there]
    refine iff_of_true (by simpa using empty) ?_
    rintro ⟨connector, rfl⟩
    refine empty (silent.mpr ?_)
    rw [Condition.Vacuous, Predicate.Vacuous]

/-- There is an empty fragment exactly if an empty raw text is among the conditions. -/
theorem fragmentsOf_shown_iff
    (silent : List.Forall₂ (fun condition own => own = "" ↔ condition.Vacuous) conditions texts) :
    (∀ fragment ∈ fragmentsOf conditions texts, fragment.2 ≠ "") ↔
      ¬∃ connector, ⟨connector, .raw ""⟩ ∈ conditions := by
  induction silent with
  | nil => simp [fragmentsOf]
  | @cons condition own rest owns here later inductionHypothesis =>
    rw [fragmentsOf_cons, List.forall_mem_append, inductionHypothesis]
    rw [Condition.fragment?_shown_iff here, ← not_or, ← exists_or]
    simp only [List.mem_cons, eq_comm]

/-- The first fragments that are empty being dropped, another empty one is left exactly if an empty
raw text stands behind a condition that says something. -/
theorem dropWhile_fragmentsOf_iff
    (silent : List.Forall₂ (fun condition own => own = "" ↔ condition.Vacuous) conditions texts) :
    (∀ fragment ∈ (fragmentsOf conditions texts).dropWhile (fun fragment => fragment.2 = ""),
        fragment.2 ≠ "") ↔ ¬Dangling conditions := by
  induction silent with
  | nil =>
    have nothing : ¬Dangling [] := by
      rintro ⟨front, connector, back, parts, -⟩
      simp at parts
    simpa [fragmentsOf] using nothing
  | @cons condition own rest owns here later inductionHypothesis =>
    rw [fragmentsOf_cons]
    by_cases empty : own = ""
    · have dropped : ((condition.fragment? own).toList ++ fragmentsOf rest owns).dropWhile
          (fun fragment => fragment.2 = "") =
            (fragmentsOf rest owns).dropWhile fun fragment => fragment.2 = "" := by
        unfold Condition.fragment?
        split
        · rfl
        · exact List.dropWhile_cons_of_pos (by simpa using empty)
      rw [dropped, inductionHypothesis, dangling_cons_of_vacuous (here.mp empty)]
    · have shown : condition.fragment? own = some (condition.connector, own) :=
        if_neg fun nothing => empty nothing.1
      have kept : ((condition.fragment? own).toList ++ fragmentsOf rest owns).dropWhile
          (fun fragment => fragment.2 = "") =
            (condition.connector, own) :: fragmentsOf rest owns := by
        rw [shown]
        exact List.dropWhile_cons_of_neg (by simpa using empty)
      rw [kept, List.forall_mem_cons, and_iff_right empty, fragmentsOf_shown_iff later,
        dangling_cons_of_said fun silent => empty (here.mpr silent)]

end Traces

/-! ## Leaving conditions out -/

/-- One condition that says nothing is left out of conditions, at any depth. The trace is what its
connector leaves in the text: nothing of a group, nothing where all conditions in front of it say
nothing either, and else the connector of an empty raw text between its blanks. -/
inductive Deletion : String → List Condition → List Condition → Prop
  | unnoticed {front back : List Condition} {condition : Condition} (silent : condition.Vacuous)
      (skipped : condition.isGroup = true ∨ AllVacuous front) :
      Deletion "" (front ++ condition :: back) (front ++ back)
  | dangling {front back : List Condition} {connector : Connector} (said : ¬AllVacuous front) :
      Deletion (" " ++ connector.keyword ++ " ") (front ++ ⟨connector, .raw ""⟩ :: back)
        (front ++ back)
  | within {front back given left : List Condition} {connector : Connector} {trace : String}
      (deletion : Deletion trace given left) :
      Deletion trace (front ++ ⟨connector, .nested given⟩ :: back)
        (front ++ ⟨connector, .nested left⟩ :: back)

/-- A text has a trace in it that another one lacks, and is the other one but for that. The
trace may be empty. -/
def HasTrace (trace text other : String) : Prop :=
  ∃ front back, text = front ++ trace ++ back ∧ other = front ++ back

/-- Conditions say nothing exactly if all of them say nothing. -/
theorem allVacuous_append (front back : List Condition) :
    AllVacuous (front ++ back) ↔ AllVacuous front ∧ AllVacuous back := by
  induction front with
  | nil => simp [AllVacuous]
  | cons condition rest inductionHypothesis =>
    rw [List.cons_append, AllVacuous, AllVacuous, inductionHypothesis, and_assoc]

/-- Where a trace is left, something else is said, so the text without it is not empty. -/
theorem Deletion.trace_eq_or {trace : String} {given left : List Condition}
    (deletion : Deletion trace given left) : trace = "" ∨ ¬AllVacuous left := by
  induction deletion with
  | unnoticed => exact Or.inl rfl
  | dangling said => exact Or.inr fun silent => said ((allVacuous_append _ _).mp silent).1
  | within deletion inductionHypothesis =>
    refine inductionHypothesis.imp_right fun said silent => said ?_
    have inner := ((allVacuous_append _ _).mp silent).2
    rw [AllVacuous, Condition.Vacuous, Predicate.Vacuous] at inner
    exact inner.1

/-- Of the fragments of conditions nothing is written exactly if none says anything. -/
theorem blank_of_rendered {conditions : List Condition} {registry after : Registry}
    {fragments : List (Connector × String)}
    (rendered : (renderFragments conditions).runOn registry = (.ok fragments, after)) :
    joinFragments fragments = "" ↔ AllVacuous conditions := by
  have text : (renderConditions conditions).runOn registry =
      (.ok (joinFragments fragments), after) := by
    unfold renderConditions
    rw [Compile.runOn_bind, rendered]
    rfl
  exact text_eq_empty_iff text

/-- Equal texts differ by no trace. -/
theorem HasTrace.of_eq {text other : String} (same : text = other) : HasTrace "" text other :=
  ⟨other, "", by simp [same], by simp⟩

/-- Leaving out a condition that says nothing, at any depth, changes nothing but that the trace of
its connector is gone from the text: the registry ends up the same, and what cannot be rendered
stays so. -/
theorem Deletion.related {trace : String} {given left : List Condition}
    (deletion : Deletion trace given left) :
    Compile.Related (HasTrace trace) (renderConditions given) (renderConditions left) := by
  induction deletion with
  | @unnoticed front back condition silent skipped =>
    obtain ⟨connector, predicate⟩ := condition
    have here : Condition.render ⟨connector, predicate⟩ =
        pure (predicate.silence.map (connector, ·)) := by
      rw [Condition.render, predicate.render_of_vacuous silent, pure_bind]
    rw [renderConditions_around, renderConditions_append, here]
    simp only [pure_bind]
    refine .bind ((Compile.Related.refl _).with_right fun _ _ _ => blank_of_rendered) ?_
    rintro fragments _ ⟨rfl, blank⟩
    refine .bind (.refl _) ?_
    rintro further _ rfl
    refine .of_pure (.of_eq ?_)
    rcases skipped with group | nothing
    · cases predicate with
      | nested conditions => rfl
      | _ => cases group
    · have empty := blank.mpr nothing
      rw [joinFragments_append_of_blank empty, joinFragments_append_of_blank empty]
      rcases silent.silence_eq with missing | written
      · rw [missing]
        rfl
      · rw [written]
        exact joinFragments_cons_empty connector further
  | @dangling front back connector said =>
    have here : Condition.render ⟨connector, .raw ""⟩ = pure (some (connector, "")) := by
      rw [Condition.render, Predicate.render]
      rfl
    rw [renderConditions_around, renderConditions_append, here]
    simp only [pure_bind]
    refine .bind ((Compile.Related.refl _).with_right fun _ _ _ => blank_of_rendered) ?_
    rintro fragments _ ⟨rfl, blank⟩
    refine .bind (.refl _) ?_
    rintro further _ rfl
    have shown : joinFragments fragments ≠ "" := fun empty => said (blank.mp empty)
    refine .of_pure ⟨joinFragments fragments, behind further, ?_,
      joinFragments_append_of_shown shown further⟩
    rw [joinFragments_append_of_shown shown, Option.toList_some, List.singleton_append, behind]
    simp [String.append_assoc]
  | @within front back given left connector trace deletion inductionHypothesis =>
    have alone : trace = "" ∨ ¬AllVacuous left := deletion.trace_eq_or
    rw [renderConditions_around, renderConditions_around, render_group, render_group]
    simp only [bind_assoc, pure_bind]
    refine .bind (.refl _) ?_
    rintro fragments _ rfl
    refine .bind (inductionHypothesis.with_right fun _ _ _ => text_eq_empty_iff) ?_
    rintro text other ⟨⟨before, after, rfl, rfl⟩, blank⟩
    refine .bind (.refl _) ?_
    rintro further _ rfl
    refine .of_pure ?_
    by_cases empty : before ++ after = ""
    · obtain rfl : trace = "" := alone.resolve_right (not_not_intro (blank.mp empty))
      exact .of_eq (by rw [String.append_empty])
    · obtain ⟨start, around⟩ := joinFragments_around fragments connector further
      have longer : before ++ trace ++ after ≠ "" := by
        simp only [ne_eq, String.append_eq_empty_iff] at empty ⊢
        tauto
      rw [groupFragment?, groupFragment?, if_neg longer, if_neg empty]
      refine ⟨start ++ "(" ++ before, after ++ ")" ++ behind further, ?_, ?_⟩
      · rw [Option.toList_some, List.singleton_append, around _ (Or.inr (by simp))]
        simp only [String.append_assoc]
      · rw [Option.toList_some, List.singleton_append, around _ (Or.inr (by simp))]
        simp only [String.append_assoc]

/-- What conditions are rendered to, whatever was bound before and however deep they stand.

Each has a text of its own, in order, which is empty exactly if the condition says nothing. What is
written are these texts with their connectors, but for groups without text and for empty texts in
front of all others. These are the texts that are not empty, each but the first behind its
connector, exactly if no empty raw text stands behind a condition that says something.

Any condition that says nothing may be left out. This changes neither what is bound nor, if it is a
group or if nothing is said in front of it, the text; otherwise the text loses the connector of the
condition. The same holds of conditions within groups.

Proof: a condition that says nothing has its fragment at once, so both lists are rendered side by
side, and only the fragments differ. What is written around one fragment does not depend on it. -/
theorem renderConditions_traces (conditions : List Condition) :
    (∀ registry text after, (renderConditions conditions).runOn registry = (.ok text, after) →
      ∃ texts, (conditions.mapM Condition.ownText).runOn registry = (.ok texts, after) ∧
        List.Forall₂ (fun condition own => own = "" ↔ condition.Vacuous) conditions texts ∧
        text = listed ((fragmentsOf conditions texts).dropWhile fun fragment => fragment.2 = "") ∧
        (text = listed (shownFragments conditions texts) ↔ ¬Dangling conditions)) ∧
      (∀ front condition back, conditions = front ++ condition :: back → condition.Vacuous →
        ∃ trace, Deletion trace conditions (front ++ back) ∧
          (trace = "" ↔ condition.isGroup = true ∨ AllVacuous front)) ∧
      ∀ trace left, Deletion trace conditions left →
        Compile.Related (HasTrace trace) (renderConditions conditions) (renderConditions left) := by
  refine ⟨?_, ?_, fun trace left deletion => deletion.related⟩
  · intro registry text after rendered
    rw [renderConditions_eq] at rendered
    obtain ⟨texts, between, ran, done⟩ := Compile.parts_of_runOn_bind rendered
    cases done
    have silent := Compile.forall₂_of_mapM
      (fun condition _ _ _ => Condition.ownText_eq_empty_iff) ran
    refine ⟨texts, ran, silent, joinFragments_eq_listed _, ?_⟩
    rw [← filter_fragmentsOf, joinFragments_eq_filter_iff, dropWhile_fragmentsOf_iff silent]
  · rintro front condition back rfl silent
    by_cases skipped : condition.isGroup = true ∨ AllVacuous front
    · exact ⟨"", .unnoticed silent skipped, iff_of_true rfl skipped⟩
    · obtain ⟨single, said⟩ := not_or.mp skipped
      rw [silent.isGroup_or_raw.resolve_left single]
      refine ⟨_, .dangling said, iff_of_false (by simp) ?_⟩
      exact fun unnoticed => unnoticed.elim Bool.noConfusion said

/-- An empty raw text behind a comparison leaves its connector at the end of the text. -/
theorem renderConditions_dangling :
    let comparison : Condition := ⟨.and, .basic (.name "a") "=" (.bound (.int 1))⟩
    let empty : Condition := ⟨.and, .raw ""⟩
    empty.Vacuous ∧
      ((renderConditions [comparison, empty]).runOn Registry.empty).1.toOption =
        some "a = \x7ba\x7d and " ∧
      ((renderConditions [comparison]).runOn Registry.empty).1.toOption =
        some "a = \x7ba\x7d" := by
  refine ⟨?_, by decide +kernel, by decide +kernel⟩
  rw [Condition.Vacuous, Predicate.Vacuous]

end BoundSql
