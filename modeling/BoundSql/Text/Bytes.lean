/-!
# Distances in bytes

A text is a list of characters, but some distances in it count the bytes of its
UTF-8 form. A cut at such a distance is made between two characters only. The
main statements say that a text in parts is cut where the parts end.
-/

namespace BoundSql.Text

/-- The number of bytes that some characters take in UTF-8. The bytes themselves are not formed
here; only their number matters for distances. -/
def byteCount : List Char → Nat
  | [] => 0
  | c :: rest => c.utf8Size + byteCount rest

/-- The characters behind a number of bytes, if a character starts there or the text ends. A
distance that falls inside a character, or behind the end, gives nothing. -/
def dropBytes? (count : Nat) (text : List Char) : Option (List Char) :=
  match text with
  | [] => if count = 0 then some [] else none
  | c :: rest =>
    if count = 0 then some (c :: rest)
    else if c.utf8Size ≤ count then dropBytes? (count - c.utf8Size) rest
    else none

/-- The characters that take a number of bytes, if a character ends there. Nothing is rounded to
the next character. -/
def takeBytes? (count : Nat) (text : List Char) : Option (List Char) :=
  match text with
  | [] => if count = 0 then some [] else none
  | c :: rest =>
    if count = 0 then some []
    else if c.utf8Size ≤ count then (takeBytes? (count - c.utf8Size) rest).map (c :: ·)
    else none

/-- The part of a text between two distances from its start. Both have to fall between
characters, and the first may not be behind the second. -/
def slice? (start stop : Nat) (text : List Char) : Option (List Char) :=
  if start ≤ stop then (dropBytes? start text).bind (takeBytes? (stop - start)) else none

/-- Two parts take the bytes of both. -/
theorem byteCount_append (first second : List Char) :
    byteCount (first ++ second) = byteCount first + byteCount second := by
  induction first with
  | nil => simp [byteCount]
  | cons c rest inductionHypothesis => simp [byteCount, inductionHypothesis, Nat.add_assoc]

/-- Behind the bytes of a first part lies the second. A distance that was measured in a text is
therefore one at which the text can be cut. -/
theorem dropBytes?_byteCount_append (first second : List Char) :
    dropBytes? (byteCount first) (first ++ second) = some second := by
  induction first with
  | nil => cases second <;> simp [byteCount, dropBytes?]
  | cons c rest inductionHypothesis =>
    have wide : c.utf8Size ≠ 0 := Nat.ne_of_gt c.utf8Size_pos
    simp [byteCount, dropBytes?, wide, inductionHypothesis]

/-- The bytes of a first part are that part, whatever follows it. -/
theorem takeBytes?_byteCount_append (first second : List Char) :
    takeBytes? (byteCount first) (first ++ second) = some first := by
  induction first with
  | nil => cases second <;> simp [byteCount, takeBytes?]
  | cons c rest inductionHypothesis =>
    have wide : c.utf8Size ≠ 0 := Nat.ne_of_gt c.utf8Size_pos
    simp [byteCount, takeBytes?, wide, inductionHypothesis]

end BoundSql.Text
