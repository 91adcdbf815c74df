import BoundSql.Proofs.Binary64.Whole
import BoundSql.Proofs.Statement.Occurrence
import BoundSql.Proofs.Text.Literal

/-!
# One form for one meaning

What a part of a date is compared with can be given as a day, a time, a number of
any kind or a text. It is bound in a form that depends on what is meant and not
on how it was given: the text of the date, the text of the clock or a signed
word. What already has the form keeps it, a number is that number or is refused,
and since tokens are given by form, a statement has one token for whatever means
the same.

A day has no time of day, so it has no form for the clock.
-/

namespace BoundSql

open Calendar (Date DateTime)
open Registry

/-- A value that is a day or a time of that day. A text that shows the day is none: it is not
read. -/
inductive Value.IsOn (date : Date) : Value → Prop
  | date : IsOn date (.date date)
  | dateTime {time : DateTime} (onDate : time.date = date) : IsOn date (.dateTime time)

/-- A value that states an integer: it is that number, or a text that spells it. -/
inductive Value.States : Value → Int → Prop
  | int (word : Int64) : States (.int word) word.toInt
  | uint (word : UInt64) : States (.uint word) word.toNat
  | float {number : Binary64} {whole : Int} (finite : number.isFinite = true)
      (same : number.value = whole) : States (.float number) whole
  | string {text : String} {whole : Int} (spelled : Text.Spells text whole) :
      States (.string text) whole

/-- A number that is no signed word, or a text that spells none. Truth values, arrays and null
are left out: they state no number at all. -/
inductive Value.Unfit : Value → Prop
  | uint {word : UInt64} (large : 2 ^ 63 ≤ word.toNat) : Unfit (.uint word)
  | notFinite {number : Binary64} (infinite : number.isFinite = false) : Unfit (.float number)
  | fractional {number : Binary64} (broken : ∀ whole : Int, number.value ≠ whole) :
      Unfit (.float number)
  /-- The least signed word is refused as a double. -/
  | large {number : Binary64} (large : 2 ^ 63 ≤ number.magnitude) : Unfit (.float number)
  | string {text : String}
      (outside : ∀ whole, Text.Spells text whole → whole < -2 ^ 63 ∨ 2 ^ 63 ≤ whole) :
      Unfit (.string text)

/-- A statement compares a part of a column with what is shown for a value. What stands around
the comparison is left open. -/
def Statement.Compares (statement : Statement) (column : Column) (part : DatePart)
    (operator shown : String) : Prop :=
  ∃ front back, statement.sql = front ++ (part.extraction (Identifier.wrap column) ++ " " ++
    Operator.normalized operator ++ " " ++ shown) ++ back

/-- No month has more than 31 days. -/
theorem Calendar.daysInMonth_le (year : Int) (month : Nat) : daysInMonth year month ≤ 31 := by
  unfold daysInMonth
  split <;> (try split) <;> decide

/-! ## Stated numbers -/

namespace Value

/-- A value states one number. Of a text the blanks and the numeral between them are told by the
text alone. -/
theorem States.unique {value : Value} {first second : Int} (states : value.States first)
    (also : value.States second) : first = second := by
  cases states with
  | int word =>
    cases also
    rfl
  | uint word =>
    cases also
    rfl
  | float _ same =>
    cases also with
    | float _ other => exact_mod_cast same.symm.trans other
  | string spelled =>
    cases also with
    | string other =>
      rw [← Text.signed?_trimChars_eq_some_iff] at spelled other
      exact Option.some_inj.mp (spelled.symm.trans other)

/-- What states a number is no date. Dates have numbers for their parts, which they do not
state. -/
theorem States.undated {value : Value} {whole : Int} (states : value.States whole) (date : Date) :
    ¬value.IsOn date := by
  rintro ⟨⟩ <;> cases states

/-- What is unfit is no date. -/
theorem Unfit.undated {value : Value} (unfit : value.Unfit) (date : Date) : ¬value.IsOn date := by
  rintro ⟨⟩ <;> cases unfit

/-- An unfit value states no number in the range of the signed words, unless it is a
double and the number is the least of them. -/
theorem Unfit.outside {value : Value} (unfit : value.Unfit) {whole : Int}
    (states : value.States whole) (least : ∀ number, value = .float number → -2 ^ 63 < whole) :
    whole < -2 ^ 63 ∨ 2 ^ 63 ≤ whole := by
  cases unfit with
  | uint large =>
    cases states
    exact Or.inr (by exact_mod_cast large)
  | notFinite infinite =>
    cases states with
    | float finite _ =>
      rw [finite] at infinite
      cases infinite
  | fractional broken =>
    cases states with
    | float _ same => exact absurd same (broken whole)
  | large large =>
    have above := least _ rfl
    cases states with
    | float _ same =>
      rw [Binary64.magnitude_of_value same] at large
      have magnitude : 2 ^ 63 ≤ whole.natAbs := by exact_mod_cast large
      omega
  | string outside =>
    cases states with
    | string spelled => exact outside whole spelled

end Value

namespace DatePart

/-- A double gives a word exactly if it is the word's number, the least word apart. -/
theorem component?_float_eq_some_iff {part : DatePart} {number : Binary64} {word : Int64} :
    part.component? (.float number) = some word ↔
      (Value.float number).States word.toInt ∧ -2 ^ 63 < word.toInt := by
  have below := word.toInt_lt
  change (number.toInt?.filter fun whole => decide (whole.natAbs < 2 ^ 63)).map Int64.ofInt =
    some word ↔ _
  rw [Option.map_eq_some_iff]
  simp only [Option.filter_eq_some_iff, decide_eq_true_iff, Binary64.toInt?_eq_some_iff]
  constructor
  · rintro ⟨whole, ⟨⟨finite, same⟩, small⟩, rfl⟩
    rw [Int64.toInt_ofInt_of_le (by omega) (by omega)]
    exact ⟨.float finite same, by omega⟩
  · rintro ⟨states, above⟩
    cases states with
    | float finite same => exact ⟨word.toInt, ⟨⟨finite, same⟩, by omega⟩, Int64.ofInt_toInt word⟩

/-- What is no date gives the word of the number that it states, and nothing else. -/
theorem component?_eq_some_iff {part : DatePart} {value : Value} {word : Int64}
    (undated : ∀ date, ¬value.IsOn date) :
    part.component? value = some word ↔ value.States word.toInt ∧
      (∀ number, value = .float number → -2 ^ 63 < word.toInt) := by
  cases value with
  | int number =>
    constructor
    · rintro ⟨⟩
      exact ⟨.int word, fun _ impossible => by cases impossible⟩
    · rintro ⟨states, -⟩
      have same : number.toInt = word.toInt := (Value.States.int number).unique states
      exact congrArg some (Int64.toInt_inj.mp same)
  | uint number =>
    refine Text.int64OfInt?_eq_some_iff.trans ⟨fun same => ?_, fun states => ?_⟩
    · exact ⟨same ▸ .uint number, fun _ impossible => by cases impossible⟩
    · exact (Value.States.uint number).unique states.1
  | float number =>
    rw [component?_float_eq_some_iff]
    simp
  | string text =>
    refine Text.int64?_trimChars_eq_some_iff.trans ⟨fun spelled => ?_, ?_⟩
    · exact ⟨.string spelled, fun _ impossible => by cases impossible⟩
    · rintro ⟨states, -⟩
      cases states with
      | string spelled => exact spelled
  | date given => exact absurd .date (undated given)
  | dateTime given => exact absurd (.dateTime rfl) (undated given.date)
  | null | bool _ | array _ =>
    refine iff_of_false (fun impossible => by cases impossible) ?_
    rintro ⟨⟨⟩, -⟩

/-- The least word is given by a text that spells it, but not by the double. -/
example : DatePart.year.component? (.string " -09223372036854775808\n") = some Int64.minValue ∧
    DatePart.year.component? (.float ⟨0xC3E0000000000000⟩) = none := by
  decide +kernel

/-! ## Normal forms -/

/-- A value with a form is brought to it. -/
theorem normalize_of_some {part : DatePart} {value normal : Value}
    (known : part.normalize? value = some normal) : part.normalize value = .ok normal := by
  unfold normalize
  rw [known]

/-- A value without a form is refused, and the error names the part and the value as it was
given. -/
theorem normalize_of_none {part : DatePart} {value : Value}
    (missing : part.normalize? value = none) :
    part.normalize value = .error (.unusableValue part value) := by
  unfold normalize
  rw [missing]

/-- The form for a part that is a number is the word that a value gives. -/
theorem normalize?_of_numeric {part : DatePart} (numeric : part ≠ .date ∧ part ≠ .time)
    (value : Value) : part.normalize? value = (part.component? value).map .int := by
  cases part with
  | date => exact absurd rfl numeric.1
  | time => exact absurd rfl numeric.2
  | day | month | year => rfl

/-- The form for a part that is a number is a word, and a word is left as it is. -/
theorem component?_of_normalize? {part : DatePart} (numeric : part ≠ .date ∧ part ≠ .time)
    {value normal : Value} (known : part.normalize? value = some normal) :
    ∃ word, part.component? value = some word ∧ normal = .int word ∧
      part.normalize? normal = some normal := by
  rw [normalize?_of_numeric numeric, Option.map_eq_some_iff] at known
  obtain ⟨word, given, rfl⟩ := known
  exact ⟨word, given, rfl, normalize?_of_numeric numeric (.int word)⟩

/-- The form for a part that is a text is a text, and texts are left as they are; only
days and times have another form. -/
theorem normalize?_of_textual {part : DatePart} (textual : part = .date ∨ part = .time)
    {value normal : Value} (known : part.normalize? value = some normal) :
    (∃ text, normal = .string text) ∧ part.normalize? normal = some normal ∧
      ((∃ date, value.IsOn date) ∨ normal = value) := by
  rcases textual with rfl | rfl
  · cases value with
    | date given =>
      cases known
      exact ⟨⟨_, rfl⟩, rfl, Or.inl ⟨given, .date⟩⟩
    | dateTime given =>
      cases known
      exact ⟨⟨_, rfl⟩, rfl, Or.inl ⟨given.date, .dateTime rfl⟩⟩
    | string text =>
      cases known
      exact ⟨⟨text, rfl⟩, rfl, Or.inr rfl⟩
    | null | bool _ | int _ | uint _ | float _ | array _ => cases known
  · cases value with
    | dateTime given =>
      cases known
      exact ⟨⟨_, rfl⟩, rfl, Or.inl ⟨given.date, .dateTime rfl⟩⟩
    | string text =>
      cases known
      exact ⟨⟨text, rfl⟩, rfl, Or.inr rfl⟩
    | null | bool _ | int _ | uint _ | float _ | date _ | array _ => cases known

/-- What is no day or time and has a form that is a text is that text. -/
theorem eq_of_textual {part : DatePart} (textual : part = .date ∨ part = .time)
    {value normal : Value} (known : part.normalize? value = some normal)
    (undated : ∀ date, ¬value.IsOn date) : normal = value ∧ ∃ text, value = .string text := by
  obtain ⟨⟨text, written⟩, -, changed⟩ := normalize?_of_textual textual known
  have same : normal = value := changed.resolve_left (not_exists.mpr undated)
  exact ⟨same, text, same.symm.trans written⟩

/-- The numbers of a date are its day, its month and its year, each for its own part. The list
pairs them, so that no other reading of the parts would do. -/
theorem ofDate_of_listed {part : DatePart} {date : Date} {component : Int}
    (listed : (part, component) ∈ [(.day, (date.day : Int)), (.month, (date.month : Int)),
      (.year, date.year)]) : part.ofDate date = some component := by
  simp only [List.mem_cons, Prod.mk.injEq, List.not_mem_nil, or_false] at listed
  rcases listed with ⟨rfl, rfl⟩ | ⟨rfl, rfl⟩ | ⟨rfl, rfl⟩ <;> rfl

/-- A number of a calendar date fits a signed word, and is not the least. Years are bounded by
the calendar, days and months by the year. -/
theorem ofDate_inRange {part : DatePart} {date : Date} {whole : Int}
    (known : part.ofDate date = some whole) : -2 ^ 63 < whole ∧ whole < 2 ^ 63 := by
  have year := date.year_inRange
  have month := date.month_inRange
  have day := date.day_inRange.2.trans (Calendar.daysInMonth_le date.year date.month)
  cases part with
  | date | time => cases known
  | day | month | year =>
    cases known
    omega

/-- The number of a date's part is the word that the date, its times and whatever states
the number give for the part. -/
theorem component?_of_date {part : DatePart} {date : Date} {whole : Int}
    (known : part.ofDate date = some whole) {value : Value}
    (meant : value.IsOn date ∨ value.States whole) :
    part.component? value = some (Int64.ofInt whole) := by
  obtain ⟨above, below⟩ := ofDate_inRange known
  rcases meant with onDate | states
  · cases onDate with
    | date => exact congrArg (Option.map Int64.ofInt) known
    | dateTime onDate =>
      subst onDate
      exact congrArg (Option.map Int64.ofInt) known
  · rw [component?_eq_some_iff states.undated, Int64.toInt_ofInt_of_le above.le below]
    exact ⟨states, fun _ _ => above⟩

/-- An unfit value gives no word, for whatever part. -/
theorem component?_of_unfit {part : DatePart} {value : Value} (unfit : value.Unfit) :
    part.component? value = none := by
  refine Option.eq_none_iff_forall_ne_some.mpr fun word given => ?_
  obtain ⟨states, least⟩ := (component?_eq_some_iff unfit.undated).mp given
  have above := word.le_toInt
  have below := word.toInt_lt
  have outside := unfit.outside states least
  omega

end DatePart

/-! ## Tokens -/

section Compared

variable {column : Column} {part : DatePart} {operator : String} {value normal : Value}

/-- The fragment of a comparison with a part of a date has the form of the value in its hole. -/
theorem template_of_datePart (normalized : part.normalize value = .ok normal) :
    Yields (Predicate.datePart column part operator (.bound value)).template
      fun fragment? => fragment? = some [.text (part.extraction (Identifier.wrap column) ++ " " ++
        Operator.normalized operator ++ " "), .hole normal] := by
  have hole : partTemplate part (.bound value) = .ok [.hole normal] := by
    change (part.normalize value >>= fun form => pure [Piece.hole form]) = _
    rw [normalized]
    rfl
  unfold Predicate.template
  refine .bind fun rendered accepted => ?_
  rw [hole, Operator.normalized_of_render accepted]
  exact .of_pure rfl

/-- What shows a comparison with a part of a date has in it the form of the value. -/
theorem Predicate.ShownIn.infix_of_datePart {template : Template}
    (shown : (Predicate.datePart column part operator (.bound value)).ShownIn template)
    (normalized : part.normalize value = .ok normal) :
    [.text (part.extraction (Identifier.wrap column) ++ " " ++ Operator.normalized operator ++ " "),
      .hole normal] <:+: template := by
  obtain ⟨fragment?, own, stands⟩ := shown
  obtain rfl := template_of_datePart normalized fragment? own
  exact stands _ rfl (by simp [Template.isBlank, Piece.isBlank])

/-- The conditions bind the form of a value that they compare with a part of a date. -/
theorem mem_conditionValues_of_datePart {conditions : List Condition}
    (occurs : (Predicate.datePart column part operator (.bound value)).Occurs conditions)
    (normalized : part.normalize value = .ok normal) :
    Yields (conditionsTemplate conditions) fun _ => normal ∈ conditionValues conditions := by
  intro text drafted
  obtain ⟨front, back, rfl⟩ :=
    (occurs.shownIn_conditions text drafted).infix_of_datePart normalized
  rw [← holes_conditionsTemplate conditions _ drafted]
  simp

/-- A compiled statement shows the form's token where it compares the value, and carries it. The
registry may have bound anything before. -/
theorem Command.compares_form {command : Command} {registry after : Registry}
    (consistent : registry.Consistent) {statement : Statement}
    (compiled : command.compile.runOn registry = (.ok statement, after))
    (occurs : (Predicate.datePart column part operator (.bound value)).Occurs
      command.query.conditions)
    (normalized : part.normalize value = .ok normal) :
    after.tokenOf normal ∈ statement.parameters.tokens ∧
      statement.Compares column part operator ((after.tokenOf normal).standIn normal) := by
  obtain ⟨template, drafted, complete, rfl⟩ := complete_of_compiled compiled
  constructor
  · obtain ⟨text, conditions⟩ := command.conditions_of_template template drafted
    have recorded := command.recorded_of_complete complete
      (mem_conditionValues_of_datePart occurs normalized text conditions)
    have settled : after.Consistent :=
      Grows.consistent ⟨_, command.grown_of_complete complete⟩ consistent
    obtain ⟨entry, listed, token⟩ := List.mem_map.mp (settled.recorded_assigned _ recorded)
    refine List.mem_map.mpr ⟨entry, command.carried_of_where ?_ listed, token⟩
    rw [token]
    exact recorded
  · have shown := occurs.shownIn_template template drafted
    obtain ⟨front, back, around⟩ :=
      Template.exists_around_fill (shown.infix_of_datePart normalized) after.tokenOf
    refine ⟨front, back, around.trans ?_⟩
    rw [Template.fill_text, Template.fill, Template.fill_hole, Template.fill_nil,
      String.append_empty]

end Compared

namespace DatePart

/-- Values that are compared with parts of dates have one form for one meaning. The
form is a text for dates and times and a signed word for the others, and it is its
own form. A day, a time of it and the text of the day have one form for the date. For a
part that is a number the day, its times and whatever states that number, be it a
word, a double or a text with zeros, a sign or blanks, have one form. A time has a form
for the clock, which a day has not. A value that states a number is given the word of just
that number, or is left as the text that it is, or is refused; and what states
no signed word is refused wherever a number is needed. In a compiled statement, after
whatever happened to the registry before, one token stands for all values of
one form, and the statement carries it.

Proof: what is no date gives a word exactly if it states the word's number, and a
value states one number only. A part of a date is far inside the range, so
all that states it gives one word. A comparison, however deep in groups, is
shown as it is drafted, with the form in its hole, and a hole shows the token of what
it holds. -/
theorem one_form_per_meaning :
    (∀ (part : DatePart) (value normal : Value), part.normalize value = .ok normal →
      part.normalize normal = .ok normal ∧
        match part with
        | .date | .time => ∃ text, normal = .string text
        | .day | .month | .year => ∃ word, normal = .int word) ∧
    (∀ date : Date,
      let shown := Value.string (Date.yearText date.year ++ "-" ++ Text.decimal 2 date.month ++
        "-" ++ Text.decimal 2 date.day)
      ∀ value : Value, value.IsOn date ∨ value = shown →
        DatePart.date.normalize value = .ok shown) ∧
    (∀ (date : Date) (part : DatePart) (component : Int),
      (part, component) ∈ [(.day, (date.day : Int)), (.month, (date.month : Int)),
          (.year, date.year)] →
        ∃ word : Int64, word.toInt = component ∧ ∀ value : Value,
          value.IsOn date ∨ value.States component → part.normalize value = .ok (.int word)) ∧
    (∀ time : DateTime,
      let shown := Value.string (Text.decimal 2 time.hour ++ ":" ++ Text.decimal 2 time.minute ++
        ":" ++ Text.decimal 2 time.second)
      DatePart.time.normalize (.dateTime time) = .ok shown ∧
        DatePart.time.normalize shown = .ok shown ∧
        DatePart.time.normalize (.date time.date) =
          .error (.unusableValue .time (.date time.date))) ∧
    (∀ (part : DatePart) (value normal : Value) (number : Int), value.States number →
      part.normalize value = .ok normal →
        (∃ word : Int64, normal = .int word ∧ word.toInt = number) ∨
          (part = .date ∨ part = .time) ∧ ∃ text, value = .string text ∧ normal = value) ∧
    (∀ (part : DatePart) (value : Value), value.Unfit →
      part.normalize value = .error (.unusableValue part value) ∨
        (part = .date ∨ part = .time) ∧ ∃ text, value = .string text) ∧
    ∀ (history : List Step) (command : Command) (statement : Statement) (after : Registry),
      command.compile.runOn (run history Registry.empty) = (.ok statement, after) →
        ∀ normal, ∃ token : Token,
          ∀ (column : Column) (part : DatePart) (operator : String) (value : Value),
            (Predicate.datePart column part operator (.bound value)).Occurs
                command.query.conditions →
              part.normalize value = .ok normal →
                token ∈ statement.parameters.tokens ∧
                  statement.Compares column part operator (token.standIn normal) := by
  have textualOrNumeric (part : DatePart) :
      (part = .date ∨ part = .time) ∨ part ≠ .date ∧ part ≠ .time := (em _).imp_right not_or.mp
  refine ⟨?_, ?_, ?_, ?_, ?_, ?_, ?_⟩
  · intro part value normal normalized
    have known := normalize_eq_ok normalized
    cases part with
    | date | time =>
      obtain ⟨text, own, -⟩ := normalize?_of_textual (by decide) known
      exact ⟨normalize_of_some own, text⟩
    | day | month | year =>
      obtain ⟨word, -, form, own⟩ := component?_of_normalize? (by decide) known
      exact ⟨normalize_of_some own, word, form⟩
  · rintro date shown value (onDate | rfl)
    · cases onDate with
      | date => rfl
      | dateTime onDate =>
        subst onDate
        rfl
    · rfl
  · intro date part component listed
    have known : part.ofDate date = some component := ofDate_of_listed listed
    obtain ⟨above, below⟩ := ofDate_inRange known
    refine ⟨Int64.ofInt component, Int64.toInt_ofInt_of_le above.le below, fun value meant => ?_⟩
    have numeric : part ≠ .date ∧ part ≠ .time := by
      constructor <;> rintro rfl <;> cases known
    refine normalize_of_some ?_
    rw [normalize?_of_numeric numeric, component?_of_date known meant]
    rfl
  · exact fun time => ⟨rfl, rfl, rfl⟩
  · intro part value normal number states normalized
    have known := normalize_eq_ok normalized
    rcases textualOrNumeric part with textual | numeric
    · obtain ⟨same, text, written⟩ := eq_of_textual textual known states.undated
      exact Or.inr ⟨textual, text, written, same⟩
    · obtain ⟨word, given, form, -⟩ := component?_of_normalize? numeric known
      have stated := ((component?_eq_some_iff states.undated).mp given).1
      exact Or.inl ⟨word, form, stated.unique states⟩
  · intro part value unfit
    rcases textualOrNumeric part with textual | numeric
    · cases known : part.normalize? value with
      | none => exact Or.inl (normalize_of_none known)
      | some normal => exact Or.inr ⟨textual, (eq_of_textual textual known unfit.undated).2⟩
    · refine Or.inl (normalize_of_none ?_)
      rw [normalize?_of_numeric numeric, component?_of_unfit unfit]
      rfl
  · intro history command statement after compiled normal
    refine ⟨after.tokenOf normal, fun column part operator value occurs normalized => ?_⟩
    exact command.compares_form (consistent_run history) compiled occurs normalized

end DatePart

end BoundSql
