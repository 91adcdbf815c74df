import BoundSql.Query.Basic

/-!
# The literals of a query

The literals are the values of bound operands, as the caller gave them, from
left to right and through all groups. They are the only values in a query, so
changing them leaves everything else alone, and a change that leaves every
literal alone leaves the query alone.
-/

namespace BoundSql

/-- The literals of an operand: the one that it binds. An expression has none, even if it holds
what looks like one. -/
def Operand.literals : Operand → List Value
  | .bound value => [value]
  | .raw _ => []

/-- An operand with its literal changed. -/
def Operand.mapLiterals (change : Value → Value) : Operand → Operand
  | .bound value => .bound (change value)
  | .raw sql => .raw sql

mutual

/-- The literals of a predicate. Integers that are written out are none of them, because they
are no values. -/
def Predicate.literals : Predicate → List Value
  | .raw _ | .columns _ _ _ | .inIntegers _ _ _ | .null _ _ | .betweenColumns _ _ _ _ => []
  | .basic _ _ operand => operand.literals
  | .inList _ operands _ => operands.flatMap Operand.literals
  | .between _ low high _ => low.literals ++ high.literals
  | .datePart _ _ _ operand => operand.literals
  | .nested conditions => Condition.literalsOfList conditions

/-- The literals of a condition. -/
def Condition.literals : Condition → List Value
  | ⟨_, predicate⟩ => predicate.literals

/-- The literals of a list of conditions, those of the first condition in front. -/
def Condition.literalsOfList : List Condition → List Value
  | [] => []
  | condition :: rest => condition.literals ++ Condition.literalsOfList rest

end

mutual

/-- A predicate with every literal changed. Its kind, its columns and its operators stay. -/
def Predicate.mapLiterals (change : Value → Value) : Predicate → Predicate
  | .raw sql => .raw sql
  | .basic column operator operand => .basic column operator (operand.mapLiterals change)
  | .columns first operator second => .columns first operator second
  | .inList column operands negated =>
    .inList column (operands.map (Operand.mapLiterals change)) negated
  | .inIntegers column values negated => .inIntegers column values negated
  | .null column negated => .null column negated
  | .between column low high negated =>
    .between column (low.mapLiterals change) (high.mapLiterals change) negated
  | .betweenColumns column low high negated => .betweenColumns column low high negated
  | .datePart column part operator operand =>
    .datePart column part operator (operand.mapLiterals change)
  | .nested conditions => .nested (Condition.mapLiteralsOfList change conditions)

/-- A condition with every literal changed. -/
def Condition.mapLiterals (change : Value → Value) : Condition → Condition
  | ⟨connector, predicate⟩ => ⟨connector, predicate.mapLiterals change⟩

/-- Conditions with every literal changed. -/
def Condition.mapLiteralsOfList (change : Value → Value) : List Condition → List Condition
  | [] => []
  | condition :: rest =>
    condition.mapLiterals change :: Condition.mapLiteralsOfList change rest

end

/-- Conditions are changed one by one. -/
theorem Condition.mapLiteralsOfList_eq_map (change : Value → Value) (conditions : List Condition) :
    Condition.mapLiteralsOfList change conditions =
      conditions.map (Condition.mapLiterals change) := by
  induction conditions with
  | nil => rfl
  | cons condition rest inductionHypothesis =>
    rw [Condition.mapLiteralsOfList, inductionHypothesis, List.map_cons]

namespace Query

/-- The literals of a query. All of them stand in its conditions; no other clause holds a value. -/
def literals (query : Query) : List Value :=
  Condition.literalsOfList query.conditions

/-- A query with every literal changed and all else as it is. -/
def mapLiterals (change : Value → Value) (query : Query) : Query :=
  { query with conditions := Condition.mapLiteralsOfList change query.conditions }

end Query

/-! ## Changes that change nothing -/

variable {change : Value → Value}

/-- An operand is left alone exactly if its literal is. -/
theorem Operand.mapLiterals_eq_self_iff {operand : Operand} :
    operand.mapLiterals change = operand ↔ ∀ value ∈ operand.literals, change value = value := by
  cases operand <;> simp [mapLiterals, literals]

/-- Operands are left alone exactly if their literals are. Induct over the operands, each of
which has one literal or none. -/
theorem Operand.map_mapLiterals_eq_self_iff {operands : List Operand} :
    operands.map (Operand.mapLiterals change) = operands ↔
      ∀ value ∈ operands.flatMap Operand.literals, change value = value := by
  induction operands with
  | nil => simp
  | cons operand rest inductionHypothesis =>
    rw [List.map_cons, List.cons.injEq, inductionHypothesis, mapLiterals_eq_self_iff,
      List.flatMap_cons, List.forall_mem_append]

mutual

/-- A predicate is left alone exactly if its literals are. Recursion follows the predicate into
the conditions of a group. -/
theorem Predicate.mapLiterals_eq_self_iff : (predicate : Predicate) →
    (predicate.mapLiterals change = predicate ↔
      ∀ value ∈ predicate.literals, change value = value)
  | .raw sql => by simp [Predicate.mapLiterals, Predicate.literals]
  | .columns first operator second => by simp [Predicate.mapLiterals, Predicate.literals]
  | .inIntegers column values negated => by simp [Predicate.mapLiterals, Predicate.literals]
  | .null column negated => by simp [Predicate.mapLiterals, Predicate.literals]
  | .betweenColumns column low high negated => by simp [Predicate.mapLiterals, Predicate.literals]
  | .basic column operator operand => by
    simp [Predicate.mapLiterals, Predicate.literals, Operand.mapLiterals_eq_self_iff]
  | .inList column operands negated => by
    rw [Predicate.mapLiterals, Predicate.literals, ← Operand.map_mapLiterals_eq_self_iff]
    simp
  | .between column low high negated => by
    rw [Predicate.literals, List.forall_mem_append, ← Operand.mapLiterals_eq_self_iff,
      ← Operand.mapLiterals_eq_self_iff]
    simp [Predicate.mapLiterals]
  | .datePart column part operator operand => by
    simp [Predicate.mapLiterals, Predicate.literals, Operand.mapLiterals_eq_self_iff]
  | .nested conditions => by
    rw [Predicate.mapLiterals, Predicate.literals,
      ← Condition.mapLiteralsOfList_eq_self_iff conditions]
    simp

/-- A condition is left alone exactly if its literals are. -/
theorem Condition.mapLiterals_eq_self_iff : (condition : Condition) →
    (condition.mapLiterals change = condition ↔
      ∀ value ∈ condition.literals, change value = value)
  | ⟨connector, predicate⟩ => by
    rw [Condition.mapLiterals, Condition.literals, ← predicate.mapLiterals_eq_self_iff]
    simp

/-- Conditions are left alone exactly if their literals are. -/
theorem Condition.mapLiteralsOfList_eq_self_iff : (conditions : List Condition) →
    (Condition.mapLiteralsOfList change conditions = conditions ↔
      ∀ value ∈ Condition.literalsOfList conditions, change value = value)
  | [] => by simp [Condition.mapLiteralsOfList, Condition.literalsOfList]
  | condition :: rest => by
    rw [Condition.mapLiteralsOfList, Condition.literalsOfList, List.forall_mem_append,
      List.cons.injEq, condition.mapLiterals_eq_self_iff,
      Condition.mapLiteralsOfList_eq_self_iff rest]

end

/-- A query is left alone exactly if its literals are. -/
theorem Query.mapLiterals_eq_self_iff {query : Query} :
    query.mapLiterals change = query ↔ ∀ value ∈ query.literals, change value = value := by
  rw [literals, ← Condition.mapLiteralsOfList_eq_self_iff, mapLiterals]
  constructor
  · exact congrArg Query.conditions
  · intro same
    rw [same]

end BoundSql
