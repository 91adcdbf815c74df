import BoundSql.Calendar.DateTime
import BoundSql.Proofs.Text.Delimiter

/-!
# Dates and times as texts

The text of a date names the date and the text of a time names the time: the
year keeps its sign and all its digits, a leap second is told from the second
before it by the number sixty, and the fraction is written with as many places
as it needs. Each text also ends by itself, so that it can stand in front of
other text.
-/

namespace BoundSql.Calendar

open Text

/-- The sign a year is written with; the years of four digits have none. -/
def yearSign (year : Int) : List Char :=
  if 0 ≤ year ∧ year ≤ 9999 then [] else if year < 0 then ['-'] else ['+']

/-- Every year is its sign and at least four digits of its magnitude. -/
theorem yearText_eq (year : Int) : (Date.yearText year).toList =
    yearSign year ++ padLeft '0' 4 (Nat.toDigits 10 year.natAbs) := by
  by_cases plain : 0 ≤ year ∧ year ≤ 9999
  · have magnitude : year.toNat = year.natAbs := by omega
    simp [Date.yearText, yearSign, decimal, plain, magnitude]
  · by_cases negative : year < 0 <;> simp [Date.yearText, yearSign, decimal, plain, negative]

/-- A year ends where the hyphen behind it stands, also when it starts with one, since the sign
is read as part of the year. -/
theorem endsAt_yearText : EndsAt '-' fun year => (Date.yearText year).toList := by
  simp only [yearText_eq]
  refine endsAt_signed (by decide) (by decide) ?_ (by decide) ?_
  · intro year c member
    unfold yearSign at member
    split at member
    · simp at member
    · split at member <;> rw [List.mem_singleton.mp member] <;> decide
  · intro first second sameSign sameMagnitude
    unfold yearSign at sameSign
    split at sameSign <;> split at sameSign <;> (try split at sameSign) <;>
      (try split at sameSign) <;> simp at sameSign <;> omega

/-- A decimal numeral of fixed width ends at a character that is no digit. -/
theorem endsAt_decimal {stop : Char} (width : Nat) (outside : isNumeralChar stop = false) :
    EndsAt stop fun value => (decimal width value).toList := by
  simpa [decimal] using endsAt_padLeft_toDigits (show 1 < 10 by decide) (by decide) width outside

/-- A date is its year, month and day. -/
theorem Date.eq_of_numbers {first second : Date} (year : first.year = second.year)
    (month : first.month = second.month) (day : first.day = second.day) : first = second := by
  cases first
  cases second
  cases year
  cases month
  cases day
  rfl

/-- The text of a date ends at any character that is no digit and names the
date: the fields between its hyphens are its numbers. -/
theorem endsAt_date {stop : Char} (outside : isNumeralChar stop = false) :
    EndsAt stop fun date : Date => date.text.toList := by
  have hyphen : isNumeralChar '-' = false := by decide
  have numbers := (endsAt_yearText.pair (endsAt_decimal 2 hyphen)).pair (endsAt_decimal 2 outside)
  intro first second rest other same
  have fields := numbers ((first.year, first.month), first.day)
    ((second.year, second.month), second.day) rest other (by simpa [Date.text] using same)
  obtain ⟨sameNumbers, sameRest⟩ := fields
  simp only [Prod.mk.injEq] at sameNumbers
  exact ⟨Date.eq_of_numbers sameNumbers.1.1 sameNumbers.1.2 sameNumbers.2, sameRest⟩

/-- How many places a fraction of a second is written with. Only whole groups of three places
are left out. -/
def fractionPlaces (nanosecond : Nat) : Nat :=
  if nanosecond = 0 then 0
  else if nanosecond % 1000000 = 0 then 3
  else if nanosecond % 1000 = 0 then 6
  else 9

/-- The characters of a fraction: nothing, or a point and the places in use. -/
def fractionChars (nanosecond : Nat) : List Char :=
  if nanosecond = 0 then []
  else '.' :: padLeft '0' (fractionPlaces nanosecond)
    (Nat.toDigits 10 (nanosecond / 10 ^ (9 - fractionPlaces nanosecond)))

/-- The text of a fraction has exactly those characters. -/
theorem fractionText_eq (time : DateTime) :
    time.fractionText.toList = fractionChars (time.nanosecond % 1000000000) := by
  unfold DateTime.fractionText fractionChars fractionPlaces
  split
  · simp_all
  · split
    · simp_all [decimal]
    · split <;> simp_all [decimal]

/-- A fraction below a second fills its places exactly. -/
theorem length_fractionChars {nanosecond : Nat} (below : nanosecond < 1000000000)
    (present : nanosecond ≠ 0) :
    (fractionChars nanosecond).length = fractionPlaces nanosecond + 1 := by
  have places : 0 < fractionPlaces nanosecond ∧ fractionPlaces nanosecond ≤ 9 := by
    unfold fractionPlaces
    split
    · contradiction
    · split
      · decide
      · split <;> decide
  have fits : nanosecond / 10 ^ (9 - fractionPlaces nanosecond) <
      10 ^ fractionPlaces nanosecond := by
    rw [Nat.div_lt_iff_lt_mul (Nat.pow_pos (by decide)), ← Nat.pow_add,
      Nat.add_sub_cancel' places.2]
    exact below
  have short := (Nat.length_toDigits_le_iff (by decide : 1 < 10) places.1).mpr fits
  simp only [fractionChars, present, if_false, List.length_cons, padLeft, List.length_append,
    List.length_replicate]
  omega

/-- No place that is left out holds anything but zero, so the places that are written give the
whole fraction back. -/
theorem fractionPlaces_exact (nanosecond : Nat) :
    nanosecond / 10 ^ (9 - fractionPlaces nanosecond) * 10 ^ (9 - fractionPlaces nanosecond) =
      nanosecond := by
  unfold fractionPlaces
  split
  · simp_all
  · split
    · simp only [Nat.reduceSub, Nat.reducePow]
      omega
    · split
      · simp only [Nat.reduceSub, Nat.reducePow]
        omega
      · simp

/-- Fractions with the same characters are the same fraction. The number of
characters gives the places, and with the places the digits give the number. -/
theorem fractionChars_injective {first second : Nat} (below : first < 1000000000)
    (under : second < 1000000000) (same : fractionChars first = fractionChars second) :
    first = second := by
  by_cases whole : first = 0
  · by_cases zero : second = 0
    · rw [whole, zero]
    · simp [fractionChars, whole, zero] at same
  · by_cases zero : second = 0
    · simp [fractionChars, whole, zero] at same
    · have places : fractionPlaces first = fractionPlaces second := by
        have lengths := congrArg List.length same
        rw [length_fractionChars below whole, length_fractionChars under zero] at lengths
        exact Nat.succ.inj lengths
      simp only [fractionChars, whole, zero, if_false, List.cons.injEq, true_and] at same
      have digits := padLeft_toDigits_injective (by decide) (by decide) same
      rw [← fractionPlaces_exact first, ← fractionPlaces_exact second, digits, places]

/-- A fraction consists of its point and numeral characters. -/
theorem isNumeralChar_or_point_of_mem_fractionChars {nanosecond : Nat} {c : Char}
    (member : c ∈ fractionChars nanosecond) : (isNumeralChar c || c == '.') = true := by
  unfold fractionChars at member
  split at member
  · simp at member
  · rcases List.mem_cons.mp member with rfl | digit
    · rfl
    · simp [isNumeralChar_of_mem_padLeft (by decide) (by decide) digit]

/-- What follows the whole seconds: a point if there is a fraction, and else
what follows the time. -/
theorem fractionChars_append_eq_cons (nanosecond : Nat) {stop : Char} (rest : List Char)
    (outside : isNumeralChar stop = false) :
    ∃ c tail, fractionChars nanosecond ++ stop :: rest = c :: tail ∧ isNumeralChar c = false := by
  by_cases whole : nanosecond = 0
  · exact ⟨stop, rest, by simp [fractionChars, whole], outside⟩
  · refine ⟨'.', ?_, ?_, ?_⟩
    · exact padLeft '0' (fractionPlaces nanosecond)
        (Nat.toDigits 10 (nanosecond / 10 ^ (9 - fractionPlaces nanosecond))) ++ stop :: rest
    · simp only [fractionChars, whole, if_false, List.cons_append]
    · decide

/-- Seconds and their fraction together end at a character that can be neither digit nor point.
The fraction alone would not do: a second without one has nothing to end. -/
theorem endsAt_seconds {stop : Char} (outside : isNumeralChar stop = false)
    (unlike : stop ≠ '.') :
    EndsAt stop fun time : Nat × Fin 1000000000 =>
      (decimal 2 time.1).toList ++ fractionChars time.2.val := by
  rintro ⟨first, part⟩ ⟨second, share⟩ rest other same
  simp only [List.append_assoc, decimal, String.toList_ofList] at same
  obtain ⟨c, tail, shown, beyond⟩ := fractionChars_append_eq_cons part.val rest outside
  obtain ⟨d, remaining, follows, apart⟩ := fractionChars_append_eq_cons share.val other outside
  rw [shown, follows] at same
  obtain ⟨sameSeconds, rfl, rfl⟩ := eq_of_delimited isNumeralChar
    (fun _ member => isNumeralChar_of_mem_padLeft (by decide) (by decide) member)
    (fun _ member => isNumeralChar_of_mem_padLeft (by decide) (by decide) member)
    beyond apart same
  have stopped : (isNumeralChar stop || stop == '.') = false := by simp [outside, unlike]
  obtain ⟨sameFraction, -, sameRest⟩ := eq_of_delimited (fun c => isNumeralChar c || c == '.')
    (fun _ member => isNumeralChar_or_point_of_mem_fractionChars member)
    (fun _ member => isNumeralChar_or_point_of_mem_fractionChars member)
    stopped stopped (shown.trans follows.symm)
  have sameNumber : first = second :=
    padLeft_toDigits_injective (by decide) (by decide) sameSeconds
  have samePart : part = share :=
    Fin.ext (fractionChars_injective part.isLt share.isLt sameFraction)
  exact ⟨by rw [sameNumber, samePart], sameRest⟩

/-- A time is its date, the second its clock shows and its fraction of a second.
A shown sixty can only be a leap second. -/
theorem DateTime.eq_of_shown {first second : DateTime} (date : first.date = second.date)
    (hour : first.hour = second.hour) (minute : first.minute = second.minute)
    (shown : first.shownSecond = second.shownSecond)
    (fraction : first.nanosecond % 1000000000 = second.nanosecond % 1000000000) :
    first = second := by
  have firstLeap := first.nanosecond_inRange
  have secondLeap := second.nanosecond_inRange
  have firstSecond := first.second_inRange
  have secondSecond := second.second_inRange
  unfold DateTime.shownSecond at shown
  have nanosecond : first.nanosecond = second.nanosecond := by omega
  have seconds : first.second = second.second := by omega
  cases first
  cases second
  cases date
  cases hour
  cases minute
  cases seconds
  cases nanosecond
  rfl

/-- The text of a time ends at a character that can be neither digit nor point and names the
time, leap seconds told from the seconds before them. -/
theorem endsAt_dateTime {stop : Char} (outside : isNumeralChar stop = false)
    (unlike : stop ≠ '.') : EndsAt stop fun time : DateTime => time.text.toList := by
  have colon : isNumeralChar ':' = false := by decide
  have fields := (((endsAt_date (show isNumeralChar 'T' = false by decide)).pair
    (endsAt_decimal 2 colon)).pair
    (endsAt_decimal 2 colon)).pair (endsAt_seconds outside unlike)
  intro first second rest other same
  let part (time : DateTime) : Fin 1000000000 :=
    ⟨time.nanosecond % 1000000000, Nat.mod_lt _ (by decide)⟩
  have read := fields
    (((first.date, first.hour), first.minute), (first.shownSecond, part first))
    (((second.date, second.hour), second.minute), (second.shownSecond, part second)) rest other
    (by simpa [DateTime.text, DateTime.clockText, DateTime.clock, fractionText_eq, part] using same)
  obtain ⟨sameFields, sameRest⟩ := read
  simp only [Prod.mk.injEq] at sameFields
  obtain ⟨⟨⟨date, hour⟩, minute⟩, shown, fraction⟩ := sameFields
  exact ⟨DateTime.eq_of_shown date hour minute shown (congrArg Fin.val fraction), sameRest⟩

end BoundSql.Calendar
