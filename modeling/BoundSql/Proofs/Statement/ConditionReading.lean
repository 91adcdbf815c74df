import BoundSql.Proofs.Statement.PredicateReading

/-!
# Conditions are read back

Conditions go on as long as there is a connector, so the word between the ends
of a range is not taken for one: it is read with the range. Groups are read up to
a depth, which the length of a text always is, since each group has its own
parentheses around it.
-/

namespace BoundSql

open Text

/-- A predicate behind a connector, which has been read already. -/
def readFurther (predicate : Reader Predicate) (connector : Connector) : Reader Condition := do
  let predicate ← predicate
  pure ⟨connector, predicate⟩

/-- Conditions, their predicates read by a given reader. The first has no connector in the text
and gets the one that normal conditions start with. -/
def readConditions (predicate : Reader Predicate) : Reader (List Condition) := do
  let first ← predicate
  let further ← repeated (fun connector : Connector => spaced connector.keyword) [.and, .or]
    (readFurther predicate)
  pure (⟨.and, first⟩ :: further)

/-- A predicate, with groups up to a depth. Beyond the depth reading fails; the depth is a bound
for the recursion and part of no text. -/
def readPredicate (parameters : Parameters) : Nat → Reader Predicate
  | 0 => failure
  | depth + 1 => readPredicateWith parameters (readConditions (readPredicate parameters depth))

/-- The openings of the clauses behind a where clause. None of them is a connector, so
conditions end there. -/
def openingsBehindFilter : List (List Char) :=
  [spaced "group by", spaced "order by", spaced "limit", spaced "offset"]

/-- What may stand behind conditions: the end of their group, or a clause. -/
def conditionClosings : List (List Char) :=
  [')'] :: openingsBehindFilter

section

variable {parameters : Parameters} {naming : Value → Token}

/-- Conditions are read if each of their predicates is. There must be one, and the first must
have the connector that is not written. -/
theorem reads_conditions {predicate : Reader Predicate} {conditions : List Condition}
    (some : conditions ≠ []) (first : ∀ condition ∈ conditions.head?, condition.connector = .and)
    (each : ∀ condition ∈ conditions, Reads predicate (Stops isNameChar)
      (condition.predicate.spelling naming) condition.predicate) :
    Reads (readConditions predicate) (OpensWith conditionClosings)
      (conditionsSpelling naming conditions) conditions := by
  cases conditions with
  | nil => exact absurd rfl some
  | cons condition rest =>
    obtain ⟨connector, leading⟩ := condition
    obtain rfl : connector = .and := first _ rfl
    obtain ⟨here, later⟩ := List.forall_mem_cons.mp each
    have apart : OpenApart (fun connector : Connector => spaced connector.keyword) [.and, .or] := by
      decide
    have outside : ∀ connector : Connector, StartsOutside isNameChar (spaced connector.keyword) := by
      intro connector
      cases connector <;> decide
    have others : ∀ condition ∈ rest, Reads (readFurther predicate condition.connector)
        (Stops isNameChar) (condition.predicate.spelling naming) condition := by
      intro condition member
      have read := later condition member
      obtain ⟨connector, predicate⟩ := condition
      exact read.map (Condition.mk connector)
    have further : Reads (repeated (fun connector : Connector => spaced connector.keyword)
        [.and, .or] (readFurther predicate)) (OpensWith conditionClosings)
        (furtherSpelling naming rest) rest := by
      rw [furtherSpelling_eq_flatMap]
      refine reads_repeated apart (by decide) ?_ others ?_ ?_
      · intro condition _
        cases condition.connector <;> decide
      · exact fun connector _ => (outside connector).stops
      · intro rest opens
        refine ⟨opens.stops (by decide), ?_⟩
        intro connector _
        cases connector with
        | and => exact opens.not_starting (by decide) (by decide)
        | or => exact opens.not_starting (by decide) (by decide)
    rw [conditionsSpelling]
    refine here.bind (further.map _) ?_
    intro behind opens
    rw [furtherSpelling_eq_flatMap]
    cases rest with
    | nil => exact opens.stops (by decide)
    | cons second others =>
      rw [List.flatMap_cons, List.append_assoc, List.append_assoc]
      exact (outside second.connector).stops _

/-- The text of a predicate is no longer than that of the conditions it is
among. -/
theorem length_spelling_le (naming : Value → Token) {conditions : List Condition} :
    ∀ condition ∈ conditions, (condition.predicate.spelling naming).length ≤
      (conditionsSpelling naming conditions).length := by
  have further : ∀ rest : List Condition, ∀ condition ∈ rest,
      (condition.predicate.spelling naming).length ≤ (furtherSpelling naming rest).length := by
    intro rest condition member
    rw [furtherSpelling_eq_flatMap]
    obtain ⟨front, back, rfl⟩ := List.append_of_mem member
    simp only [List.flatMap_append, List.flatMap_cons, List.length_append]
    omega
  intro condition member
  cases conditions with
  | nil => cases member
  | cons first rest =>
    obtain ⟨connector, leading⟩ := first
    rw [conditionsSpelling, List.length_append]
    rcases List.mem_cons.mp member with rfl | later
    · exact Nat.le_add_right _ _
    · exact Nat.le_trans (further rest condition later) (Nat.le_add_left _ _)

mutual

/-- A normal predicate is read back, if its values are found and the depth is as
large as its text is long. -/
theorem Predicate.reads_with : (predicate : Predicate) → predicate.Normal →
    (∀ value ∈ predicate.values, parameters.Resolves naming value) → (depth : Nat) →
    (predicate.spelling naming).length ≤ depth + 1 →
    Reads (readPredicateWith parameters (readConditions (readPredicate parameters depth)))
      (Stops isNameChar) (predicate.spelling naming) predicate
  | .raw sql, normal, _, _, _ => absurd normal id
  | .basic column operator operand, normal, resolves, _, _ => by
    obtain ⟨name, member, literal⟩ := normal
    refine (reads_basic name member literal ?_).weaken fun _ _ => trivial
    exact fun value bound => resolves value (Option.mem_toList.mpr bound)
  | .columns first operator second, normal, _, _, _ => by
    obtain ⟨name, member, other⟩ := normal
    exact reads_columns name member other
  | .inList column operands negated, normal, resolves, _, _ => by
    obtain ⟨name, some, literals⟩ := normal
    refine (reads_inList name some literals negated ?_).weaken fun _ _ => trivial
    exact fun operand member value bound =>
      resolves value (List.mem_filterMap.mpr ⟨operand, member, bound⟩)
  | .inIntegers column values negated, normal, _, _, _ => by
    obtain ⟨name, some⟩ := normal
    exact (reads_inIntegers name some negated).weaken fun _ _ => trivial
  | .null column negated, normal, _, _, _ =>
    (reads_null normal negated).weaken fun _ _ => trivial
  | .between column low high negated, normal, resolves, _, _ => by
    obtain ⟨name, lower, upper⟩ := normal
    refine (reads_between name lower upper negated ?_ ?_).weaken fun _ _ => trivial
    · exact fun value bound =>
        resolves value (List.mem_append_left _ (Option.mem_toList.mpr bound))
    · exact fun value bound =>
        resolves value (List.mem_append_right _ (Option.mem_toList.mpr bound))
  | .betweenColumns column low high negated, normal, _, _, _ => by
    obtain ⟨name, lower, upper⟩ := normal
    exact reads_betweenColumns name lower upper negated
  | .datePart column part operator operand, normal, resolves, _, _ => by
    obtain ⟨name, member, literal⟩ := normal
    refine (reads_datePart name part member literal.normal ?_).weaken fun _ _ => trivial
    exact fun value bound => resolves value (Option.mem_toList.mpr (literal.normalize_eq bound))
  | .nested conditions, normal, resolves, depth, long => by
    obtain ⟨some, first, all⟩ := normal
    unfold Predicate.spelling at long ⊢
    have fits : (conditionsSpelling naming conditions).length ≤ depth := by
      simp only [List.length_append, List.length_singleton] at long
      omega
    have each := reads_each conditions all resolves depth fun condition member =>
      Nat.le_trans (length_spelling_le naming condition member) fits
    have closed : [[')']] ⊆ conditionClosings := List.cons_subset_cons [')'] (List.nil_subset _)
    have read := (reads_conditions some first each).weaken
      fun rest (ends : OpensWith [[')']] rest) => ends.of_subset closed
    exact (reads_nested read).weaken fun _ _ => trivial

/-- The predicates of normal conditions are read back. -/
theorem reads_each : (conditions : List Condition) → AllNormal conditions →
    (∀ value ∈ conditionValues conditions, parameters.Resolves naming value) → (depth : Nat) →
    (∀ condition ∈ conditions, (condition.predicate.spelling naming).length ≤ depth) →
    ∀ condition ∈ conditions, Reads (readPredicate parameters depth) (Stops isNameChar)
      (condition.predicate.spelling naming) condition.predicate
  | [], _, _, _, _ => fun condition member => absurd member List.not_mem_nil
  | ⟨connector, predicate⟩ :: rest, normal, resolves, depth, long => by
    obtain ⟨resolvesHere, resolvesLater⟩ := List.forall_mem_append.mp resolves
    obtain ⟨fits, fitLater⟩ := List.forall_mem_cons.mp long
    refine List.forall_mem_cons.mpr ⟨?_, reads_each rest normal.2 resolvesLater depth fitLater⟩
    cases depth with
    | zero =>
      exact absurd (List.eq_nil_of_length_eq_zero (Nat.le_zero.mp fits))
        (normal.1.spelling_ne_nil naming)
    | succ depth => exact Predicate.reads_with predicate normal.1 resolvesHere depth fits

end

end

end BoundSql
