import BoundSql.Proofs.Statement.BoundValues
import BoundSql.Proofs.Text.Pieces

/-!
# Normal queries

A query is normal if nothing in it is written in one of several ways that mean
the same: names are plain words that are none of the language's own, nothing is
raw, operators are spelled as they are rendered, no list or group is empty, and
what the compiler drops or rewrites is already in the form that it would get.
Plain words are rendered as they are.
-/

namespace BoundSql

/-! ## Names -/

/-- The words that the compiler writes itself. The names of functions are not among them: a
parenthesis tells them from columns. -/
def reservedWords : List String :=
  ["select", "distinct", "from", "inner", "left", "right", "full", "cross", "join", "on", "where",
    "and", "or", "not", "in", "like", "ilike", "between", "group", "order", "by", "asc", "desc",
    "limit", "offset"]

/-- Whether a character can start a plain name. -/
def isNameStart (c : Char) : Bool :=
  ('a' ≤ c && c ≤ 'z') || ('A' ≤ c && c ≤ 'Z') || c == '_'

/-- Whether a character can stand in a plain name. The point is allowed, so that a column may
have its table in front. -/
def isNameChar (c : Char) : Bool :=
  isNameStart c || ('0' ≤ c && c ≤ '9') || c == '.'

/-- A plain name: it starts like one, goes on like one and is no word of the language. Quoted
names are not plain. -/
structure IsName (text : String) : Prop where
  chars : ∀ c ∈ text.toList, isNameChar c = true
  starts : text.toList.head?.any isNameStart = true
  free : text ∉ reservedWords

instance (text : String) : Decidable (IsName text) :=
  decidable_of_iff (text.toList.all isNameChar = true ∧
      text.toList.head?.any isNameStart = true ∧ text ∉ reservedWords)
    ⟨fun ⟨chars, starts, free⟩ => ⟨List.all_eq_true.mp chars, starts, free⟩,
      fun name => ⟨List.all_eq_true.mpr name.chars, name.starts, name.free⟩⟩

/-- Where the characters of a plain name are among all characters. -/
theorem isNameChar_codes {c : Char} (inside : isNameChar c = true) :
    c.toNat = 46 ∨ (48 ≤ c.toNat ∧ c.toNat ≤ 57) ∨ (65 ≤ c.toNat ∧ c.toNat ≤ 90) ∨ c.toNat = 95 ∨
      (97 ≤ c.toNat ∧ c.toNat ≤ 122) := by
  have code : ∀ limit : Char, c ≤ limit ↔ c.toNat ≤ limit.toNat := fun limit => Iff.rfl
  have reach : ∀ limit : Char, limit ≤ c ↔ limit.toNat ≤ c.toNat := fun limit => Iff.rfl
  have same : ∀ other : Char, c = other ↔ c.toNat = other.toNat := by
    intro other
    exact ⟨congrArg Char.toNat, Char.toNat_inj.mp⟩
  simp only [isNameChar, isNameStart, Bool.or_eq_true, Bool.and_eq_true, decide_eq_true_eq,
    beq_iff_eq, code, reach, same] at inside
  simp only [Char.reduceToNat] at inside
  omega

namespace Text

/-- A text in which no character starts a separator is not cut. -/
theorem cutOn_eq_none {fold : Char → Char} {first : Char} {behind text : List Char}
    (absent : ∀ c ∈ text, fold c ≠ first) : cutOn fold (first :: behind) text = none := by
  induction text with
  | nil => rfl
  | cons c rest inductionHypothesis =>
    obtain ⟨here, later⟩ := List.forall_mem_cons.mp absent
    have elsewhere : (first :: behind).isPrefixOf ((c :: rest).map fold) = false := by
      rw [List.map_cons, List.isPrefixOf_cons_cons, beq_eq_false_iff_ne.mpr here.symm,
        Bool.false_and]
    rw [cutOn, elsewhere, if_neg Bool.false_ne_true, inductionHypothesis later]
    rfl

end Text

namespace IsName

variable {text : String}

/-- A plain name is rendered as it is: there is nothing in it to trim, to cut or to escape. -/
theorem wrapName_eq (name : IsName text) : Identifier.wrapName text = text := by
  have unfolded : ∀ c ∈ text.toList, Text.lowerAscii c ≠ ' ' := by
    intro c member blank
    have codes := isNameChar_codes (name.chars c member)
    have code := congrArg Char.toNat blank
    unfold Text.lowerAscii at code
    split at code
    · rename_i capital
      have below : c.toNat ≤ 90 := capital.2
      have valid : (c.toNat + 32).isValidChar := Or.inl (by omega)
      rw [Char.ofNat, dif_pos valid] at code
      change c.toNat + 32 = 32 at code
      omega
    · have space : ' '.toNat = 32 := rfl
      omega
  have plain : ∀ c ∈ text.toList, id c ≠ '-' := by
    rintro c member rfl
    exact absurd (name.chars _ member) (by decide)
  have shown : ∀ c ∈ text.toList, Text.isBlank c = false := by
    intro c member
    have codes := isNameChar_codes (name.chars c member)
    simp only [Text.isBlank, Bool.or_eq_false_iff, Bool.and_eq_false_iff, decide_eq_false_iff_not,
      beq_eq_false_iff_ne]
    omega
  have written : Identifier.wrapChars text.toList = text.toList := by
    unfold Identifier.wrapChars Identifier.aliasWord
    rw [Text.cutOn_eq_none unfolded, Text.trimChars_eq_self shown]
    unfold Identifier.wrapPlain Identifier.arrow Text.cut
    rw [Text.cutOn_eq_none plain]
  rw [Identifier.wrapName, written, String.ofList_toList]

end IsName

/-! ## Normal queries -/

/-- A column that is a plain name. Raw text is excluded, because it may look like anything. -/
def Column.Normal : Column → Prop
  | .name text => IsName text
  | .raw _ => False

/-- An operand that is a literal. -/
def Operand.Normal : Operand → Prop
  | .bound _ => True
  | .raw _ => False

/-- A literal in the form in which it is compared with a part of a date. -/
def Operand.NormalFor (part : DatePart) : Operand → Prop
  | .bound (.string _) => part = .date ∨ part = .time
  | .bound (.int _) => part = .day ∨ part = .month ∨ part = .year
  | .bound _ | .raw _ => False

instance : (column : Column) → Decidable column.Normal
  | .name text => inferInstanceAs (Decidable (IsName text))
  | .raw _ => .isFalse id

instance : (operand : Operand) → Decidable operand.Normal
  | .bound _ => .isTrue trivial
  | .raw _ => .isFalse id

instance (part : DatePart) : (operand : Operand) → Decidable (operand.NormalFor part)
  | .bound (.string _) => inferInstanceAs (Decidable (part = .date ∨ part = .time))
  | .bound (.int _) => inferInstanceAs (Decidable (part = .day ∨ part = .month ∨ part = .year))
  | .bound .null | .bound (.bool _) | .bound (.uint _) | .bound (.float _) | .bound (.date _)
  | .bound (.dateTime _) | .bound (.array _) | .raw _ => .isFalse id

mutual

/-- A normal predicate. Its lists and groups are not empty, its operators are spelled as they
are rendered, and no group in it starts with `or`. -/
def Predicate.Normal : Predicate → Prop
  | .raw _ => False
  | .basic column operator operand =>
    column.Normal ∧ operator ∈ Operator.all ∧ operand.Normal
  | .columns first operator second => first.Normal ∧ operator ∈ Operator.all ∧ second.Normal
  | .inList column operands _ =>
    column.Normal ∧ operands ≠ [] ∧ ∀ operand ∈ operands, operand.Normal
  | .inIntegers column values _ => column.Normal ∧ values ≠ []
  | .null column _ => column.Normal
  | .between column low high _ => column.Normal ∧ low.Normal ∧ high.Normal
  | .betweenColumns column low high _ => column.Normal ∧ low.Normal ∧ high.Normal
  | .datePart column part operator operand =>
    column.Normal ∧ operator ∈ Operator.all ∧ operand.NormalFor part
  | .nested conditions =>
    conditions ≠ [] ∧ (∀ condition ∈ conditions.head?, condition.connector = .and) ∧
      AllNormal conditions

/-- A condition whose predicate is normal. -/
def Condition.Normal : Condition → Prop
  | ⟨_, predicate⟩ => predicate.Normal

/-- Conditions whose predicates are normal. -/
def AllNormal : List Condition → Prop
  | [] => True
  | condition :: rest => condition.Normal ∧ AllNormal rest

end

mutual

/-- Whether a predicate is normal can be told. The cases are those of the definition, so that it
can be evaluated on a given query. -/
def Predicate.decideNormal : (predicate : Predicate) → Decidable predicate.Normal
  | .raw _ => .isFalse fun normal => by
    unfold Predicate.Normal at normal
    exact normal
  | .basic column operator operand =>
    decidable_of_iff (column.Normal ∧ operator ∈ Operator.all ∧ operand.Normal)
      (by rw [Predicate.Normal])
  | .columns first operator second =>
    decidable_of_iff (first.Normal ∧ operator ∈ Operator.all ∧ second.Normal)
      (by rw [Predicate.Normal])
  | .inList column operands _ =>
    decidable_of_iff (column.Normal ∧ operands ≠ [] ∧ ∀ operand ∈ operands, operand.Normal)
      (by rw [Predicate.Normal])
  | .inIntegers column values _ =>
    decidable_of_iff (column.Normal ∧ values ≠ []) (by rw [Predicate.Normal])
  | .null column _ => decidable_of_iff column.Normal (by rw [Predicate.Normal])
  | .between column low high _ =>
    decidable_of_iff (column.Normal ∧ low.Normal ∧ high.Normal) (by rw [Predicate.Normal])
  | .betweenColumns column low high _ =>
    decidable_of_iff (column.Normal ∧ low.Normal ∧ high.Normal) (by rw [Predicate.Normal])
  | .datePart column part operator operand =>
    decidable_of_iff (column.Normal ∧ operator ∈ Operator.all ∧ operand.NormalFor part)
      (by rw [Predicate.Normal])
  | .nested conditions =>
    have := decideAllNormal conditions
    decidable_of_iff (conditions ≠ [] ∧
        (∀ condition ∈ conditions.head?, condition.connector = .and) ∧ AllNormal conditions)
      (by rw [Predicate.Normal])

/-- Whether all predicates of some conditions are normal can be told. -/
def decideAllNormal : (conditions : List Condition) → Decidable (AllNormal conditions)
  | [] => .isTrue (by unfold AllNormal; trivial)
  | ⟨_, predicate⟩ :: rest =>
    have := predicate.decideNormal
    have := decideAllNormal rest
    decidable_of_iff (predicate.Normal ∧ AllNormal rest) (by rw [AllNormal, Condition.Normal])

end

instance (conditions : List Condition) : Decidable (AllNormal conditions) :=
  decideAllNormal conditions

/-- A join of a table with a plain name. A cross join compares nothing. -/
structure Join.Normal (join : Join) : Prop where
  table : IsName join.table
  on : ∀ on ∈ join.on, join.kind ≠ .cross ∧ on.left.Normal ∧ on.operator ∈ Operator.all ∧
    on.right.Normal

instance (join : Join) : Decidable join.Normal :=
  decidable_of_iff (IsName join.table ∧ ∀ on ∈ join.on, join.kind ≠ .cross ∧ on.left.Normal ∧
      on.operator ∈ Operator.all ∧ on.right.Normal)
    ⟨fun ⟨table, on⟩ => ⟨table, on⟩, fun normal => ⟨normal.table, normal.on⟩⟩

/-- A normal query. Which clauses it has is free; what is asked concerns only how each of them
is written. -/
structure Query.Normal (query : Query) : Prop where
  table : IsName query.table
  columns : ∀ column ∈ query.columns, column.Normal
  joins : ∀ join ∈ query.joins, join.Normal
  conditions : AllNormal query.conditions
  first : ∀ condition ∈ query.conditions.head?, condition.connector = .and
  groups : ∀ column ∈ query.groups, column.Normal
  orderings : ∀ key ∈ query.orderings, key.column.Normal

instance (query : Query) : Decidable query.Normal :=
  decidable_of_iff (IsName query.table ∧ (∀ column ∈ query.columns, column.Normal) ∧
      (∀ join ∈ query.joins, join.Normal) ∧ AllNormal query.conditions ∧
      (∀ condition ∈ query.conditions.head?, condition.connector = .and) ∧
      (∀ column ∈ query.groups, column.Normal) ∧ ∀ key ∈ query.orderings, key.column.Normal)
    ⟨fun ⟨table, columns, joins, conditions, first, groups, orderings⟩ =>
        ⟨table, columns, joins, conditions, first, groups, orderings⟩,
      fun normal => ⟨normal.table, normal.columns, normal.joins, normal.conditions, normal.first,
        normal.groups, normal.orderings⟩⟩

end BoundSql
