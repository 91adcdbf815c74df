import BoundSql.Proofs.Statement.Conditions
import Mathlib.Data.List.Forall2

/-!
# Fragments behind each other

What stands in the text of conditions are their own texts and the connectors
between them. Here this is said twice, without a registry for the fragments and
with one for the conditions, so that a condition between others can be looked at
on its own.
-/

namespace BoundSql

/-! ## Behind each other -/

/-- The fragments of conditions behind others are behind theirs. -/
theorem renderFragments_append (front back : List Condition) :
    renderFragments (front ++ back) = (do
      let fragments ← renderFragments front
      let further ← renderFragments back
      pure (fragments ++ further)) := by
  induction front with
  | nil =>
    rw [List.nil_append, renderFragments, pure_bind]
    exact (bind_pure _).symm
  | cons condition rest inductionHypothesis =>
    rw [List.cons_append, renderFragments, inductionHypothesis, renderFragments]
    simp only [bind_assoc, pure_bind, List.append_assoc]

/-- Fragments as they are written behind others. Each has its connector, even one that is empty. -/
def behind : List (Connector × String) → String
  | [] => ""
  | (connector, text) :: rest => " " ++ connector.keyword ++ " " ++ text ++ behind rest

/-- Fragments as they are written, each behind the others with its connector. The connector of
the first one is not written. -/
def listed : List (Connector × String) → String
  | [] => ""
  | (_, text) :: rest => text ++ behind rest

/-- One fragment is written as it is. -/
theorem joinFragments_singleton (connector : Connector) (text : String) :
    joinFragments [(connector, text)] = text := rfl

/-- Fragments behind others of which nothing is written are written as if they stood first. -/
theorem joinFragments_append_of_blank {front : List (Connector × String)}
    (blank : joinFragments front = "") (back : List (Connector × String)) :
    joinFragments (front ++ back) = joinFragments back := by
  unfold joinFragments at blank ⊢
  rw [List.foldl_append, blank]

/-- Fragments behind others of which something is written all have their connectors. -/
theorem joinFragments_append_of_shown {front : List (Connector × String)}
    (shown : joinFragments front ≠ "") (back : List (Connector × String)) :
    joinFragments (front ++ back) = joinFragments front ++ behind back := by
  induction back generalizing front with
  | nil => simp [behind]
  | cons fragment rest inductionHypothesis =>
    obtain ⟨connector, text⟩ := fragment
    have some : (joinFragments front).isEmpty = false := by
      simpa [String.isEmpty_eq_false_iff] using shown
    have step : joinFragments (front ++ [(connector, text)]) =
        joinFragments front ++ " " ++ connector.keyword ++ " " ++ text := by
      unfold joinFragments at some ⊢
      rw [List.foldl_append, List.foldl_cons, List.foldl_nil]
      dsimp only
      rw [some, if_neg Bool.false_ne_true]
    have further : joinFragments (front ++ [(connector, text)]) ≠ "" := by simp [step]
    rw [List.append_cons, inductionHypothesis further, step, behind]
    simp only [String.append_assoc]

/-- An empty fragment that stands first is dropped, and the next one takes its place. -/
theorem joinFragments_cons_empty (connector : Connector) (rest : List (Connector × String)) :
    joinFragments ((connector, "") :: rest) = joinFragments rest :=
  joinFragments_append_of_blank (joinFragments_singleton connector "") rest

/-- Behind a first fragment that is not empty all others have their connectors. -/
theorem joinFragments_cons {text : String} (shown : text ≠ "") (connector : Connector)
    (rest : List (Connector × String)) :
    joinFragments ((connector, text) :: rest) = text ++ behind rest := by
  have there : joinFragments [(connector, text)] ≠ "" := shown
  exact joinFragments_append_of_shown there rest

/-- Fragments are written as a list of them once the first ones are dropped that are empty.
Empty ones further on stay, with their connectors. -/
theorem joinFragments_eq_listed (fragments : List (Connector × String)) :
    joinFragments fragments = listed (fragments.dropWhile fun fragment => fragment.2 = "") := by
  induction fragments with
  | nil => rfl
  | cons fragment rest inductionHypothesis =>
    obtain ⟨connector, text⟩ := fragment
    by_cases empty : text = ""
    · subst empty
      rw [joinFragments_cons_empty, List.dropWhile_cons_of_pos (by simp), inductionHypothesis]
    · rw [joinFragments_cons empty, List.dropWhile_cons_of_neg (by simpa using empty), listed]

/-- What is left out behind a text without its connector is missed, unless nothing is. The
lengths decide: every fragment that is left out takes a connector with it. -/
theorem behind_filter_eq_iff (fragments : List (Connector × String)) :
    behind (fragments.filter fun fragment => fragment.2 ≠ "") = behind fragments ↔
      ∀ fragment ∈ fragments, fragment.2 ≠ "" := by
  have shorter : ∀ fragments : List (Connector × String),
      (behind (fragments.filter fun fragment => fragment.2 ≠ "")).length ≤
        (behind fragments).length := by
    intro fragments
    induction fragments with
    | nil => exact Nat.le_refl _
    | cons fragment rest inductionHypothesis =>
      obtain ⟨connector, text⟩ := fragment
      rw [List.filter_cons]
      split
      · simp only [behind, String.length_append]
        omega
      · simp only [behind, String.length_append]
        omega
  induction fragments with
  | nil => simp
  | cons fragment rest inductionHypothesis =>
    obtain ⟨connector, text⟩ := fragment
    rw [List.forall_mem_cons]
    refine Iff.trans ?_ (and_congr_right fun _ => inductionHypothesis)
    by_cases empty : text = ""
    · subst empty
      rw [List.filter_cons_of_neg (by simp)]
      refine iff_of_false (fun same => ?_) (fun both => both.1 rfl)
      have longer := shorter rest
      rw [same, behind] at longer
      simp only [String.length_append] at longer
      have space : " ".length = 1 := rfl
      omega
    · rw [List.filter_cons_of_pos (by simpa using empty), behind, behind]
      simp [empty, String.append_right_inj]

/-- What is written around a fragment is the same for all that are not empty, and for all if
something is written in front of it. -/
theorem joinFragments_around (front : List (Connector × String)) (connector : Connector)
    (back : List (Connector × String)) :
    ∃ before, ∀ text, joinFragments front ≠ "" ∨ text ≠ "" →
      joinFragments (front ++ (connector, text) :: back) = before ++ text ++ behind back := by
  by_cases blank : joinFragments front = ""
  · refine ⟨"", fun text shown => ?_⟩
    rw [joinFragments_append_of_blank blank, String.empty_append]
    exact joinFragments_cons (shown.resolve_left (not_not_intro blank)) connector back
  · refine ⟨joinFragments front ++ " " ++ connector.keyword ++ " ", fun text _ => ?_⟩
    rw [joinFragments_append_of_shown blank, behind]
    simp only [String.append_assoc]

/-- What is written of the fragments of a list that are not empty is what the list is written as
exactly if no empty fragment stands behind one that is not. -/
theorem joinFragments_eq_filter_iff (fragments : List (Connector × String)) :
    joinFragments fragments = listed (fragments.filter fun fragment => fragment.2 ≠ "") ↔
      ∀ fragment ∈ fragments.dropWhile (fun fragment => fragment.2 = ""), fragment.2 ≠ "" := by
  induction fragments with
  | nil => simp [joinFragments, listed]
  | cons fragment rest inductionHypothesis =>
    obtain ⟨connector, text⟩ := fragment
    by_cases empty : text = ""
    · subst empty
      rw [joinFragments_cons_empty, List.dropWhile_cons_of_pos (by simp),
        List.filter_cons_of_neg (by simp), inductionHypothesis]
    · rw [joinFragments_cons empty, List.dropWhile_cons_of_neg (by simpa using empty),
        List.filter_cons_of_pos (by simpa using empty), listed, String.append_right_inj, eq_comm,
        behind_filter_eq_iff, List.forall_mem_cons, and_iff_right empty]

/-! ## Conditions on their own -/

/-- What runs through ran through its first part, from whose result and registry the second part
went on. -/
theorem Compile.parts_of_runOn_bind {α β : Type} {action : Compile α} {next : α → Compile β}
    {registry after : Registry} {result : β}
    (ran : (action >>= next).runOn registry = (.ok result, after)) :
    ∃ first between, action.runOn registry = (.ok first, between) ∧
      (next first).runOn between = (.ok result, after) := by
  rw [runOn_bind] at ran
  split at ran
  · rename_i first between here
    exact ⟨first, between, here, ran⟩
  · cases ran

/-- What is yielded one by one is related to what it is yielded for. -/
theorem Compile.forall₂_of_mapM {α β : Type} {action : α → Compile β} {relation : α → β → Prop}
    (yields : ∀ thing registry result after,
      (action thing).runOn registry = (.ok result, after) → relation thing result)
    {things : List α} {results : List β} {registry after : Registry}
    (ran : (things.mapM action).runOn registry = (.ok results, after)) :
    List.Forall₂ relation things results := by
  induction things generalizing results registry with
  | nil =>
    rw [List.mapM_nil, runOn_pure] at ran
    cases ran
    exact .nil
  | cons thing rest inductionHypothesis =>
    rw [List.mapM_cons] at ran
    obtain ⟨first, between, here, remaining⟩ := parts_of_runOn_bind ran
    obtain ⟨others, final, later, done⟩ := parts_of_runOn_bind remaining
    cases done
    exact .cons (yields thing registry first between here) (inductionHypothesis later)

/-- The text of a condition on its own; empty where it has no fragment. It is what would be
written if the condition stood alone. -/
def Condition.ownText (condition : Condition) : Compile String := do
  let fragment ← condition.predicate.render
  pure (fragment.getD "")

/-- Whether a condition is a group of others. Only groups can be without a fragment. -/
def Condition.isGroup (condition : Condition) : Bool :=
  match condition.predicate with
  | .nested _ => true
  | _ => false

/-- The fragment of a condition that has a text on its own. A group without text has none. -/
def Condition.fragment? (condition : Condition) (own : String) : Option (Connector × String) :=
  if own = "" ∧ condition.isGroup = true then none else some (condition.connector, own)

/-- A condition's fragment is its own text behind its connector, unless it is a group that has no
text. -/
theorem Condition.render_eq (condition : Condition) :
    condition.render = (do
      let own ← condition.ownText
      pure (condition.fragment? own)) := by
  obtain ⟨connector, predicate⟩ := condition
  unfold Condition.render Condition.ownText Condition.fragment? Condition.isGroup
  cases predicate with
  | nested conditions =>
    simp only [Predicate.render, bind_assoc, pure_bind]
    refine congrArg _ (funext fun fragments => ?_)
    split
    · rfl
    · simp [String.append_eq_empty_iff]
  | _ => simp [Predicate.render]

/-- The fragments of conditions by their own texts. There is one text for each condition. -/
def fragmentsOf (conditions : List Condition) (texts : List String) : List (Connector × String) :=
  (conditions.zip texts).filterMap fun entry => entry.1.fragment? entry.2

/-- The fragment of the first condition stands first, if it has one. -/
theorem fragmentsOf_cons (condition : Condition) (conditions : List Condition) (own : String)
    (texts : List String) : fragmentsOf (condition :: conditions) (own :: texts) =
      (condition.fragment? own).toList ++ fragmentsOf conditions texts := by
  unfold fragmentsOf
  rw [List.zip_cons_cons, List.filterMap_cons]
  cases condition.fragment? own <;> rfl

/-- Conditions are rendered one by one, each to its own text. Which of the texts become
fragments is decided afterwards, without the registry. -/
theorem renderFragments_eq (conditions : List Condition) :
    renderFragments conditions = (do
      let texts ← conditions.mapM Condition.ownText
      pure (fragmentsOf conditions texts)) := by
  induction conditions with
  | nil =>
    rw [renderFragments, List.mapM_nil, pure_bind]
    rfl
  | cons condition rest inductionHypothesis =>
    rw [renderFragments, condition.render_eq, inductionHypothesis, List.mapM_cons]
    simp only [bind_assoc, pure_bind]
    refine congrArg _ (funext fun own => congrArg _ (funext fun texts => ?_))
    rw [fragmentsOf_cons]

/-- The conditions that have a text of their own, with that text behind their connectors. -/
def shownFragments (conditions : List Condition) (texts : List String) :
    List (Connector × String) :=
  ((conditions.zip texts).filter fun entry => entry.2 ≠ "").map fun entry =>
    (entry.1.connector, entry.2)

/-- The fragments that are not empty are the texts that are not. -/
theorem filter_fragmentsOf (conditions : List Condition) (texts : List String) :
    ((fragmentsOf conditions texts).filter fun fragment => fragment.2 ≠ "") =
      shownFragments conditions texts := by
  unfold fragmentsOf shownFragments
  induction conditions.zip texts with
  | nil => rfl
  | cons entry rest inductionHypothesis =>
    obtain ⟨condition, own⟩ := entry
    rw [List.filterMap_cons, List.filter_cons]
    by_cases empty : own = ""
    · rw [if_neg (by simpa using empty), ← inductionHypothesis]
      cases group : condition.isGroup <;> simp [Condition.fragment?, empty, group]
    · rw [if_pos (by simpa using empty), List.map_cons, ← inductionHypothesis]
      simp [Condition.fragment?, empty]

/-- Conditions are rendered one by one, and their fragments written behind each other. -/
theorem renderConditions_eq (conditions : List Condition) :
    renderConditions conditions = (do
      let texts ← conditions.mapM Condition.ownText
      pure (joinFragments (fragmentsOf conditions texts))) := by
  unfold renderConditions
  rw [renderFragments_eq]
  simp only [bind_assoc, pure_bind]

/-- A condition that stands alone is rendered to its own text. -/
theorem renderConditions_singleton (condition : Condition) :
    renderConditions [condition] = condition.ownText := by
  have written : ∀ own, joinFragments (fragmentsOf [condition] [own]) = own := by
    intro own
    rw [fragmentsOf_cons, Condition.fragment?]
    split
    · rename_i nothing
      exact nothing.1.symm
    · rfl
  rw [renderConditions_eq, List.mapM_cons, List.mapM_nil]
  simp only [bind_assoc, pure_bind, written, bind_pure]

/-- The fragment of a group with a text in it; a group without text has none. -/
def groupFragment? (connector : Connector) (text : String) : Option (Connector × String) :=
  if text = "" then none else some (connector, "(" ++ text ++ ")")

/-- A group has the text of its conditions in parentheses, unless that is empty; then it has no
fragment. -/
theorem render_group (connector : Connector) (conditions : List Condition) :
    Condition.render ⟨connector, .nested conditions⟩ = (do
      let text ← renderConditions conditions
      pure (groupFragment? connector text)) := by
  unfold Condition.render renderConditions groupFragment?
  rw [Predicate.render]
  simp only [bind_assoc, pure_bind, String.isEmpty_iff]
  refine congrArg _ (funext fun fragments => ?_)
  split <;> rfl

/-- Conditions behind others are written with the fragments of both. -/
theorem renderConditions_append (front back : List Condition) :
    renderConditions (front ++ back) = (do
      let fragments ← renderFragments front
      let further ← renderFragments back
      pure (joinFragments (fragments ++ further))) := by
  unfold renderConditions
  rw [renderFragments_append]
  simp only [bind_assoc, pure_bind]

/-- A condition between others is written with their fragments around its own. -/
theorem renderConditions_around (front : List Condition) (condition : Condition)
    (back : List Condition) :
    renderConditions (front ++ condition :: back) = (do
      let fragments ← renderFragments front
      let fragment ← condition.render
      let further ← renderFragments back
      pure (joinFragments (fragments ++ (fragment.toList ++ further)))) := by
  rw [renderConditions_append, renderFragments]
  simp only [bind_assoc, pure_bind]

end BoundSql
