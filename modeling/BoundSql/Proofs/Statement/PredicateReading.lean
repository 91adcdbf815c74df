import BoundSql.Proofs.Statement.Spelling
import BoundSql.Proofs.Text.Bare
import BoundSql.Proofs.Text.Delimiter
import BoundSql.Proofs.Text.Literal
import BoundSql.Proofs.Text.Reader

/-!
# Predicates are read back

A reader of normal predicates, with the parameters of their statement at hand.
Every predicate starts with a word, which may be empty: a column, a function or
nothing before a group. What stands behind it tells what kind of predicate it
is, and a brace or a quote tells a value from a column or a number. So the reader
never has to take a word back. What is in a group is left to another reader.
-/

namespace BoundSql

open Text

/-! ## Words and values -/

/-- A value is found under the token that it is named by, and the token has no brace in it. -/
def Parameters.Resolves (parameters : Parameters) (naming : Value → Token) (value : Value) : Prop :=
  parameters.get? (naming value).text = some value ∧ Bare (naming value).text.toList

/-- A plain name. Whether it is a word of the language is not checked in reading. -/
def readName : Reader String := do
  let word ← span isNameChar
  pure (String.ofList word)

/-- A plain column. A reader never yields raw text. -/
def readColumn : Reader Column := do
  let name ← readName
  pure (.name name)

/-- A signed word that is written out; a number beyond the signed words is refused. -/
def readInteger : Reader Int64 := do
  let word ← span fun c => isNumeralChar c || c == '-'
  given (int64? word)

/-- What stands before a token: a brace, and a quote before it for a textual value. -/
def holeOpening (quoted : Bool) : List Char :=
  if quoted then ['\'', '\x7b'] else ['\x7b']

/-- What stands behind a token, the same the other way round. -/
def holeClosing (quoted : Bool) : List Char :=
  if quoted then ['\x7d', '\''] else ['\x7d']

/-- Whether a character starts what stands before a token. -/
def isHoleStart (c : Char) : Bool :=
  c == '\'' || c == '\x7b'

/-- A literal, by its token. It fails if the parameters have no value under the token. -/
def readOperand (parameters : Parameters) : Reader Operand := do
  let quoted ← oneOf holeOpening [false, true]
  let token ← span (· != '\x7d')
  expect (holeClosing quoted)
  given ((parameters.get? (String.ofList token)).map Operand.bound)

/-- A plain name is read back. -/
theorem IsName.reads {text : String} (name : IsName text) :
    Reads readName (Stops isNameChar) text.toList text := by
  have word := (reads_span name.chars).map String.ofList
  rw [String.ofList_toList] at word
  exact word

/-- A plain column is read back. -/
theorem Column.Normal.reads {column : Column} (normal : column.Normal) :
    Reads readColumn (Stops isNameChar) column.spelling column := by
  cases column with
  | raw sql => exact absurd normal id
  | name text => exact (IsName.reads normal).map Column.name

/-- A plain column is the name that is read. -/
theorem Column.Normal.ofList_spelling {column : Column} (normal : column.Normal) :
    Column.name (String.ofList column.spelling) = column := by
  cases column with
  | raw sql => exact absurd normal id
  | name text => exact congrArg Column.name String.ofList_toList

/-- A signed word is read back. -/
theorem reads_integer (value : Int64) :
    Reads readInteger (Stops fun c => isNumeralChar c || c == '-') (toString value.toInt).toList
      value := by
  have inside : ∀ c ∈ (toString value.toInt).toList, (isNumeralChar c || c == '-') = true := by
    rw [toList_toString_int]
    intro c member
    rcases List.mem_append.mp member with sign | digit
    · have minus : c = '-' := by
        split at sign
        · exact List.mem_singleton.mp sign
        · cases sign
      simp [minus]
    · rw [isNumeralChar_of_mem_toDigits (by decide) (by decide) digit, Bool.true_or]
  rw [← List.append_nil (toString value.toInt).toList]
  exact (reads_span inside).bind (reads_given (int64?_toString value)) fun rest stops => stops

/-- A literal is written as the token of its value, in braces or in quotes and
braces. -/
theorem Operand.spelling_bound (naming : Value → Token) (value : Value) :
    Operand.spelling naming (.bound value) = holeOpening value.isTextual ++
      ((naming value).text.toList ++ holeClosing value.isTextual) := by
  unfold Operand.spelling Operand.template holeOpening holeClosing
  cases textual : value.isTextual <;> simp [Template.fill, Piece.fill, textual]

/-- A literal is read back, whatever follows. The value comes from the parameters; the text
gives only its token. -/
theorem Operand.Normal.reads {operand : Operand} (normal : operand.Normal)
    {parameters : Parameters} {naming : Value → Token}
    (resolves : ∀ value ∈ operand.value?, parameters.Resolves naming value) :
    Reads (readOperand parameters) Anywhere (operand.spelling naming) operand := by
  cases operand with
  | raw sql => exact absurd normal id
  | bound value =>
    obtain ⟨found, bare⟩ := resolves value rfl
    have inside : ∀ c ∈ (naming value).text.toList, (c != '\x7d') = true := by
      intro c member
      exact bne_iff_ne.mpr (bare c member).2
    have known : (parameters.get? (String.ofList (naming value).text.toList)).map Operand.bound =
        some (.bound value) := by
      rw [String.ofList_toList, found]
      rfl
    have quotes : ∀ quoted, StartsOutside (· != '\x7d') (holeClosing quoted) := by decide
    rw [spelling_bound, ← List.append_nil (holeClosing value.isTextual)]
    refine (reads_oneOf (by decide) (by cases value.isTextual <;> decide)).bind
      ((reads_span inside).bind ((reads_expect _).bind (reads_given known) ?_) ?_) ?_
    · exact fun _ _ => trivial
    · intro rest _
      rw [List.append_assoc]
      exact (quotes value.isTextual).stops _
    · exact fun _ _ => trivial

/-- A literal in the form for a part of a date is a literal. -/
theorem Operand.NormalFor.normal {part : DatePart} {operand : Operand}
    (normal : operand.NormalFor part) : operand.Normal := by
  cases operand with
  | raw sql => exact absurd normal id
  | bound value => exact trivial

/-- A literal in the form for a part of a date has that form already. -/
theorem Operand.NormalFor.normalize_eq {part : DatePart} {operand : Operand}
    (normal : operand.NormalFor part) {value : Value} (bound : value ∈ operand.value?) :
    value ∈ operand.value?.bind part.normalize? := by
  unfold Operand.NormalFor at normal
  split at normal
  · obtain rfl := Option.some.inj bound
    rcases normal with rfl | rfl <;> rfl
  · obtain rfl := Option.some.inj bound
    rcases normal with rfl | rfl | rfl <;> rfl
  · exact absurd normal id
  · exact absurd normal id

/-- A literal starts with a brace or a quote. -/
theorem Operand.Normal.starts {operand : Operand} (normal : operand.Normal)
    (naming : Value → Token) : (operand.spelling naming).head?.any isHoleStart = true := by
  cases operand with
  | raw sql => exact absurd normal id
  | bound value =>
    rw [spelling_bound]
    cases value.isTextual <;> rfl

/-! ## Predicates -/

/-- What may stand behind the word with which a predicate starts. It decides what kind of
predicate is read. -/
inductive Continuation
  /-- A parenthesis. -/
  | call
  /-- An operator. -/
  | compared (operator : String)
  /-- The opening of a list. -/
  | listed (negated : Bool)
  /-- The opening of a range. -/
  | ranged (negated : Bool)

/-- A continuation as it is written. -/
def Continuation.opening : Continuation → List Char
  | .call => ['(']
  | .compared operator => spaced operator
  | .listed negated => listOpening negated
  | .ranged negated => spaced (betweenKeyword negated)

/-- All continuations. -/
def continuations : List Continuation :=
  .call :: Operator.all.map .compared ++ [.listed false, .listed true, .ranged false, .ranged true]

/-- What may stand before a parenthesis. -/
inductive Callee
  /-- Nothing: the parenthesis opens a group. -/
  | group
  /-- A test for null. -/
  | nullTest (negated : Bool)
  /-- The function that takes a part of a date. -/
  | extraction (part : DatePart)
deriving DecidableEq

/-- What stands before a parenthesis as it is written. -/
def Callee.word : Callee → List Char
  | .group => []
  | .nullTest negated => (nullFunction negated).toList
  | .extraction part => part.function.toList

/-- All that may stand before a parenthesis. Their words differ, and the empty one stands for a
group. -/
def callees : List Callee :=
  [.group, .nullTest false, .nullTest true, .extraction .date, .extraction .time, .extraction .day,
    .extraction .month, .extraction .year]

section

variable (parameters : Parameters) (inner : Reader (List Condition))

/-- A predicate behind its word and a parenthesis. -/
def readCall : Callee → Reader Predicate
  | .group => do
    let conditions ← inner
    expect [')']
    pure (.nested conditions)
  | .nullTest negated => do
    let column ← readColumn
    expect [')']
    pure (.null column negated)
  | .extraction part => do
    let column ← readColumn
    expect part.closing
    let operator ← oneOf spaced Operator.all
    let operand ← readOperand parameters
    pure (.datePart column part operator operand)

/-- A predicate behind its column and an operator. Whether a value or a column is compared is
told by the next character. -/
def readComparison (column : Column) (operator : String) : Reader Predicate :=
  branch isHoleStart
    (do
      let operand ← readOperand parameters
      pure (.basic column operator operand))
    (do
      let second ← readColumn
      pure (.columns column operator second))

/-- A predicate behind its column and the opening of a list. Whether values or written integers
are listed is told by the next character. -/
def readList (column : Column) (negated : Bool) : Reader Predicate :=
  branch isHoleStart
    (do
      let operands ← separated (readOperand parameters)
      expect [')']
      pure (.inList column operands negated))
    (do
      let values ← separated readInteger
      expect [')']
      pure (.inIntegers column values negated))

/-- A predicate behind its column and the opening of a range. The word between the ends belongs
to the range and is no connector. -/
def readRange (column : Column) (negated : Bool) : Reader Predicate :=
  branch isHoleStart
    (do
      let low ← readOperand parameters
      expect (spaced "and")
      let high ← readOperand parameters
      pure (.between column low high negated))
    (do
      let low ← readColumn
      expect (spaced "and")
      let high ← readColumn
      pure (.betweenColumns column low high negated))

/-- A predicate behind its word and a continuation. -/
def readBehind (word : List Char) : Continuation → Reader Predicate
  | .call => do
    let callee ← given (callees.find? (·.word == word))
    readCall parameters inner callee
  | .compared operator => readComparison parameters (.name (String.ofList word)) operator
  | .listed negated => readList parameters (.name (String.ofList word)) negated
  | .ranged negated => readRange parameters (.name (String.ofList word)) negated

/-- A predicate, the conditions of a group read by a given reader. Nothing that was read has to
be put back. -/
def readPredicateWith : Reader Predicate := do
  let word ← span isNameChar
  let continuation ← oneOf Continuation.opening continuations
  readBehind parameters inner word continuation

end

section

variable {parameters : Parameters} {inner : Reader (List Condition)} {naming : Value → Token}
  {column : Column} {follow : List Char → Prop}

/-- No continuation opens as another does, and none goes on with a word. An operator that starts
another one is told from it by the blank behind. -/
theorem continuations_apart : OpenApart Continuation.opening continuations ∧
    ∀ continuation ∈ continuations, StartsOutside isNameChar continuation.opening := by
  decide +kernel

/-- A predicate is read from its word, a continuation and the rest. -/
theorem reads_predicateWith {word opening text : List Char} {continuation : Continuation}
    {predicate : Predicate} (inside : ∀ c ∈ word, isNameChar c = true)
    (member : continuation ∈ continuations) (opens : continuation.opening = opening)
    (behind : Reads (readBehind parameters inner word continuation) follow text predicate) :
    Reads (readPredicateWith parameters inner) follow (word ++ (opening ++ text)) predicate := by
  subst opens
  refine (reads_span inside).bind
    ((reads_oneOf continuations_apart.1 member).bind behind fun _ _ => trivial) ?_
  intro rest _
  rw [List.append_assoc]
  exact (continuations_apart.2 continuation member).stops _

/-- A predicate that starts with a column is read from the column, a
continuation and the rest. -/
theorem reads_ofColumn (normal : column.Normal) {opening text : List Char}
    {continuation : Continuation} {predicate : Predicate} (member : continuation ∈ continuations)
    (opens : continuation.opening = opening)
    (behind : Reads (readBehind parameters inner column.spelling continuation) follow text
      predicate) :
    Reads (readPredicateWith parameters inner) follow (column.spelling ++ (opening ++ text))
      predicate := by
  cases column with
  | raw sql => exact absurd normal id
  | name written => exact reads_predicateWith (IsName.chars normal) member opens behind

/-- What stands before a parenthesis is known by its word. The cases are few enough to be looked
at one by one. -/
theorem Callee.find_word (callee : Callee) :
    callees.find? (·.word == callee.word) = some callee := by
  cases callee with
  | group => decide +kernel
  | nullTest negated => cases negated <;> decide +kernel
  | extraction part => cases part <;> decide +kernel

/-- What stands before a parenthesis is a word. -/
theorem Callee.word_inside (callee : Callee) : ∀ c ∈ callee.word, isNameChar c = true := by
  refine List.all_eq_true.mp ?_
  cases callee with
  | group => decide +kernel
  | nullTest negated => cases negated <;> decide +kernel
  | extraction part => cases part <;> decide +kernel

/-- A predicate that starts with a parenthesis or with a function and one is read
from what stands behind them. -/
theorem reads_ofCallee {callee : Callee} {word text : List Char} {predicate : Predicate}
    (written : callee.word = word)
    (behind : Reads (readCall parameters inner callee) follow text predicate) :
    Reads (readPredicateWith parameters inner) follow (word ++ (['('] ++ text)) predicate := by
  subst written
  have found : Reads (given (callees.find? (·.word == callee.word))) Anywhere [] callee :=
    reads_given callee.find_word
  have called : Reads (readBehind parameters inner callee.word .call) follow text predicate := by
    rw [readBehind, ← List.nil_append text]
    exact found.bind behind fun _ _ => trivial
  exact reads_predicateWith callee.word_inside List.mem_cons_self rfl called

/-- An operator may stand behind a column. -/
theorem compared_mem {operator : String} (member : operator ∈ Operator.all) :
    Continuation.compared operator ∈ continuations :=
  List.mem_append_left _ (List.mem_cons_of_mem _ (List.mem_map_of_mem member))

/-- The opening of a list may stand behind a column. -/
theorem listed_mem (negated : Bool) : Continuation.listed negated ∈ continuations := by
  cases negated <;> simp [continuations]

/-- The opening of a range may stand behind a column. -/
theorem ranged_mem (negated : Bool) : Continuation.ranged negated ∈ continuations := by
  cases negated <;> simp [continuations]

/-- A plain column does not start with a character of a kind that starts no
name. -/
theorem Column.Normal.outside (normal : column.Normal) {kind : Char → Bool}
    (apart : ∀ c, kind c = true → isNameStart c = false) : StartsOutside kind column.spelling := by
  cases column with
  | raw sql => exact absurd normal id
  | name text =>
    have starts := IsName.starts normal
    change text.toList.head?.any (fun c => !kind c) = true
    generalize text.toList = characters at starts
    cases characters with
    | nil => cases starts
    | cons c rest =>
      rw [List.head?_cons, Option.any_some] at starts ⊢
      cases inside : kind c with
      | false => rfl
      | true =>
        rw [apart c inside] at starts
        cases starts

/-- No name starts with a brace or a quote. -/
theorem isNameStart_of_isHoleStart (c : Char) (hole : isHoleStart c = true) :
    isNameStart c = false := by
  rw [isHoleStart, Bool.or_eq_true, beq_iff_eq, beq_iff_eq] at hole
  rcases hole with rfl | rfl <;> rfl

/-- A number starts neither with a brace nor with a quote. -/
theorem integer_outside (value : Int) : StartsOutside isHoleStart (toString value).toList := by
  obtain ⟨c, tail, written, digit⟩ :=
    padLeft_toDigits_eq_cons (by decide : 1 < 10) (by decide) 0 value.natAbs
  rw [padLeft_zero] at written
  rw [toList_toString_int, written]
  split
  · rfl
  · change (!isHoleStart c) = true
    cases hole : isHoleStart c with
    | false => rfl
    | true =>
      rw [isHoleStart, Bool.or_eq_true, beq_iff_eq, beq_iff_eq] at hole
      rcases hole with rfl | rfl <;> cases digit

/-- Things with commas between them are read if each is, before a comma and at the
end. -/
theorem reads_commaSeparated {α : Type} {item : Reader α} {inner : List Char → Prop}
    (body : α → List Char) {things : List α} (some : things ≠ [])
    (each : ∀ thing ∈ things, Reads item inner (body thing) thing)
    (continues : ∀ rest, inner (", ".toList ++ rest))
    (ends : ∀ rest, follow rest → inner rest ∧ ¬ ", ".toList <+: rest) :
    Reads (separated item) follow (commaSeparated (things.map body)) things := by
  cases things with
  | nil => exact absurd rfl some
  | cons first others =>
    rw [commaSeparated_cons]
    exact reads_separated each continues ends

/-- Things with commas between them start as the first one does. -/
theorem starts_commaSeparated {α : Type} {kind : Char → Bool} (body : α → List Char)
    {things : List α} (some : things ≠ [])
    (each : ∀ thing ∈ things, (body thing).head?.any kind = true) :
    (commaSeparated (things.map body)).head?.any kind = true := by
  cases things with
  | nil => exact absurd rfl some
  | cons first others =>
    rw [commaSeparated_cons]
    exact any_head?_append (each first List.mem_cons_self) _

/-- A comparison with a literal is read, wherever it stands: the closing brace or quote ends it. -/
theorem reads_basic (normal : column.Normal) {operator : String} (member : operator ∈ Operator.all)
    {operand : Operand} (literal : operand.Normal)
    (resolves : ∀ value ∈ operand.value?, parameters.Resolves naming value) :
    Reads (readPredicateWith parameters inner) Anywhere
      (column.spelling ++ (spaced operator ++ operand.spelling naming))
      (.basic column operator operand) := by
  refine reads_ofColumn normal (compared_mem member) rfl ?_
  rw [readBehind, normal.ofList_spelling]
  exact ((literal.reads resolves).map _).branch_inside (literal.starts naming)

/-- A comparison with a column is read, where no name goes on behind the second column. -/
theorem reads_columns (normal : column.Normal) {operator : String}
    (member : operator ∈ Operator.all) {second : Column} (other : second.Normal) :
    Reads (readPredicateWith parameters inner) (Stops isNameChar)
      (column.spelling ++ (spaced operator ++ second.spelling))
      (.columns column operator second) := by
  refine reads_ofColumn normal (compared_mem member) rfl ?_
  rw [readBehind, normal.ofList_spelling]
  exact (other.reads.map _).branch_outside (other.outside isNameStart_of_isHoleStart)

/-- A list of literals is read. It must have an item, because an empty one is written as a
condition without the column. -/
theorem reads_inList (normal : column.Normal) {operands : List Operand} (some : operands ≠ [])
    (literals : ∀ operand ∈ operands, operand.Normal) (negated : Bool)
    (resolves : ∀ operand ∈ operands, ∀ value ∈ operand.value?, parameters.Resolves naming value) :
    Reads (readPredicateWith parameters inner) Anywhere
      (column.spelling ++ (listOpening negated ++
        (commaSeparated (operands.map (Operand.spelling naming)) ++ [')'])))
      (.inList column operands negated) := by
  have items : Reads (separated (readOperand parameters)) (OpensWith [[')']])
      (commaSeparated (operands.map (Operand.spelling naming))) operands := by
    have each := fun operand member => (literals operand member).reads (resolves operand member)
    refine reads_commaSeparated (Operand.spelling naming) some each (fun _ => trivial) ?_
    exact fun rest ends => ⟨trivial, ends.not_starting (by decide) (by decide)⟩
  refine reads_ofColumn normal (listed_mem negated) rfl ?_
  rw [readBehind, normal.ofList_spelling]
  refine (items.bind ((reads_expect [')']).map _) ?_).branch_inside ?_
  · exact fun rest _ => opensWith_append List.mem_cons_self rest
  · exact any_head?_append (starts_commaSeparated (Operand.spelling naming) some
      fun operand member => (literals operand member).starts naming) _

/-- A list of integers is read, and not taken for one of literals, since no number starts with a
brace or a quote. -/
theorem reads_inIntegers (normal : column.Normal) {values : List Int64} (some : values ≠ [])
    (negated : Bool) :
    Reads (readPredicateWith parameters inner) Anywhere
      (column.spelling ++ (listOpening negated ++
        (commaSeparated (values.map fun value => (toString value.toInt).toList) ++ [')'])))
      (.inIntegers column values negated) := by
  have items : Reads (separated readInteger) (OpensWith [[')']])
      (commaSeparated (values.map fun value => (toString value.toInt).toList)) values := by
    refine reads_commaSeparated (fun value : Int64 => (toString value.toInt).toList) some
      (fun value _ => reads_integer value) ?_ fun rest ends => ⟨?_, ?_⟩
    · exact fun rest => StartsOutside.stops (by decide) rest
    · exact ends.stops (by decide)
    · exact ends.not_starting (by decide) (by decide)
  refine reads_ofColumn normal (listed_mem negated) rfl ?_
  rw [readBehind, normal.ofList_spelling]
  refine (items.bind ((reads_expect [')']).map _) ?_).branch_outside ?_
  · exact fun rest _ => opensWith_append List.mem_cons_self rest
  · exact any_head?_append (starts_commaSeparated _ some
      fun value _ => integer_outside value.toInt) _

/-- A range between literals is read. -/
theorem reads_between (normal : column.Normal) {low high : Operand} (lower : low.Normal)
    (upper : high.Normal) (negated : Bool)
    (resolvesLow : ∀ value ∈ low.value?, parameters.Resolves naming value)
    (resolvesHigh : ∀ value ∈ high.value?, parameters.Resolves naming value) :
    Reads (readPredicateWith parameters inner) Anywhere
      (column.spelling ++ (spaced (betweenKeyword negated) ++
        (low.spelling naming ++ (spaced "and" ++ high.spelling naming))))
      (.between column low high negated) := by
  refine reads_ofColumn normal (ranged_mem negated) rfl ?_
  rw [readBehind, normal.ofList_spelling]
  refine ((lower.reads resolvesLow).bind ((reads_expect _).bind
    ((upper.reads resolvesHigh).map _) fun _ _ => trivial) fun _ _ => trivial).branch_inside ?_
  exact any_head?_append (lower.starts naming) _

/-- A range between columns is read. -/
theorem reads_betweenColumns (normal : column.Normal) {low high : Column} (lower : low.Normal)
    (upper : high.Normal) (negated : Bool) :
    Reads (readPredicateWith parameters inner) (Stops isNameChar)
      (column.spelling ++ (spaced (betweenKeyword negated) ++
        (low.spelling ++ (spaced "and" ++ high.spelling))))
      (.betweenColumns column low high negated) := by
  refine reads_ofColumn normal (ranged_mem negated) rfl ?_
  rw [readBehind, normal.ofList_spelling]
  refine (lower.reads.bind ((reads_expect _).bind (upper.reads.map _) fun _ _ => trivial)
    ?_).branch_outside ?_
  · intro rest _
    rw [List.append_assoc]
    exact StartsOutside.stops (by decide) _
  · exact any_head?_append (lower.outside isNameStart_of_isHoleStart) _

/-- A test for null is read. -/
theorem reads_null (normal : column.Normal) (negated : Bool) :
    Reads (readPredicateWith parameters inner) Anywhere
      ((nullFunction negated).toList ++ (['('] ++ (column.spelling ++ [')'])))
      (.null column negated) := by
  have behind : Reads (readCall parameters inner (.nullTest negated)) Anywhere
      (column.spelling ++ [')']) (.null column negated) := by
    refine normal.reads.bind ((reads_expect _).map _) fun rest _ => ?_
    exact StartsOutside.stops (by decide) rest
  exact reads_ofCallee rfl behind

/-- A comparison of a part of a date is read. -/
theorem reads_datePart (normal : column.Normal) (part : DatePart) {operator : String}
    (member : operator ∈ Operator.all) {operand : Operand} (literal : operand.Normal)
    (resolves : ∀ value ∈ operand.value?, parameters.Resolves naming value) :
    Reads (readPredicateWith parameters inner) Anywhere
      (part.function.toList ++ (['('] ++ (column.spelling ++ (part.closing ++
        (spaced operator ++ operand.spelling naming)))))
      (.datePart column part operator operand) := by
  have closes : StartsOutside isNameChar part.closing := by
    cases part <;> decide
  have operators : OpenApart spaced Operator.all := by
    decide +kernel
  have behind : Reads (readCall parameters inner (.extraction part)) Anywhere
      (column.spelling ++ (part.closing ++ (spaced operator ++ operand.spelling naming)))
      (.datePart column part operator operand) := by
    refine normal.reads.bind ((reads_expect _).bind ((reads_oneOf operators member).bind
      ((literal.reads resolves).map _) fun _ _ => trivial) fun _ _ => trivial) fun rest _ => ?_
    rw [List.append_assoc]
    exact closes.stops _
  exact reads_ofCallee rfl behind

/-- A group is read if its conditions are. -/
theorem reads_nested {conditions : List Condition} {text : List Char}
    (reads : Reads inner (OpensWith [[')']]) text conditions) :
    Reads (readPredicateWith parameters inner) Anywhere ([] ++ (['('] ++ (text ++ [')'])))
      (.nested conditions) := by
  have behind : Reads (readCall parameters inner .group) Anywhere (text ++ [')'])
      (.nested conditions) := by
    refine reads.bind ((reads_expect _).map _) fun rest _ => ?_
    exact opensWith_append List.mem_cons_self rest
  exact reads_ofCallee rfl behind

end

end BoundSql
