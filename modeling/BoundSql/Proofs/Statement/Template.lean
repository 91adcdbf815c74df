import BoundSql.Statement.Compile

/-!
# Texts with holes

What a statement says before any value has a token: pieces of text, and holes
that hold values. A naming of values fills the holes. The order of the holes is
the reading order of the text, and whether a text is empty does not depend on
the naming.
-/

namespace BoundSql

/-- A piece of a text with holes. The value of a hole is the one that is meant, in the form in
which it will be bound. -/
inductive Piece
  /-- Text that stands as it is. -/
  | text (text : String)
  /-- A place where a value is meant. -/
  | hole (value : Value)

/-- A text with holes, piece by piece in reading order. -/
abbrev Template := List Piece

/-- What stands for a piece: a hole becomes the token of its value in braces,
with quotes around them exactly if the value is textual. -/
def Piece.fill (naming : Value → Token) : Piece → String
  | .text written => written
  | .hole value =>
    if value.isTextual then
      "'\x7b" ++ (naming value).text ++ "\x7d'"
    else
      "\x7b" ++ (naming value).text ++ "\x7d"

/-- The value of a hole. -/
def Piece.value? : Piece → Option Value
  | .text _ => none
  | .hole value => some value

/-- Whether a piece is no text at all. A hole never is, because a token in braces stands for it. -/
def Piece.isBlank : Piece → Bool
  | .text written => written.isEmpty
  | .hole _ => false

namespace Template

/-- The text with its holes filled, all with one naming. -/
def fill (naming : Value → Token) : Template → String
  | [] => ""
  | piece :: rest => piece.fill naming ++ fill naming rest

/-- The values of the holes, in reading order and with repetitions. -/
def holes (template : Template) : List Value :=
  template.filterMap Piece.value?

/-- Whether nothing stands in the text. Pieces of empty text count for nothing. -/
def isBlank (template : Template) : Bool :=
  template.all Piece.isBlank

/-- Texts with a separator between them. -/
def join (separator : String) (templates : List Template) : Template :=
  List.intercalate [.text separator] templates

/-- What a token stands in for is what a hole becomes. -/
theorem fill_hole (naming : Value → Token) (value : Value) :
    (Piece.hole value).fill naming = (naming value).standIn value := by
  simp only [Piece.fill, Token.standIn, Token.placeholder]
  split
  · rw [← String.toList_inj]
    simp
  · rfl

variable (naming : Value → Token)

@[simp]
theorem fill_nil : fill naming [] = "" := rfl

@[simp]
theorem fill_text (text : String) (rest : Template) :
    fill naming (.text text :: rest) = text ++ fill naming rest := rfl

@[simp]
theorem fill_append (front back : Template) :
    fill naming (front ++ back) = fill naming front ++ fill naming back := by
  induction front with
  | nil => simp
  | cons piece rest inductionHypothesis =>
    simp only [List.cons_append, fill, inductionHypothesis, String.append_assoc]

@[simp]
theorem holes_nil : holes [] = [] := rfl

@[simp]
theorem holes_text (text : String) (rest : Template) :
    holes (.text text :: rest) = holes rest := rfl

@[simp]
theorem holes_hole (value : Value) (rest : Template) :
    holes (.hole value :: rest) = value :: holes rest := rfl

@[simp]
theorem holes_append (front back : Template) : holes (front ++ back) = holes front ++ holes back :=
  List.filterMap_append

/-- A piece is empty in the filled text exactly if it is blank: a placeholder
has its braces. -/
theorem isEmpty_fill_piece (piece : Piece) : (piece.fill naming).isEmpty = piece.isBlank := by
  cases piece with
  | text text => rfl
  | hole value =>
    simp only [Piece.fill, Piece.isBlank]
    split <;> simp [String.isEmpty_eq_false_iff]

/-- The filled text is empty exactly if the text with holes is blank. -/
theorem isEmpty_fill (template : Template) : (fill naming template).isEmpty = template.isBlank := by
  induction template with
  | nil => rfl
  | cons piece rest inductionHypothesis =>
    unfold isBlank at inductionHypothesis ⊢
    rw [fill, List.all_cons, ← inductionHypothesis, ← isEmpty_fill_piece naming, Bool.eq_iff_iff]
    simp [String.isEmpty_iff]

/-- Blank text has no holes, so nothing is lost where it is dropped. -/
theorem holes_of_isBlank {template : Template} (blank : template.isBlank = true) :
    template.holes = [] := by
  unfold holes
  rw [List.filterMap_eq_nil_iff]
  intro piece member
  have nothing := List.all_eq_true.mp blank piece member
  cases piece with
  | text text => rfl
  | hole value => cases nothing

/-- Filling texts with a separator between them puts it between the filled ones. -/
theorem fill_join (separator : String) (templates : List Template) :
    fill naming (join separator templates) =
      separator.intercalate (templates.map (fill naming)) := by
  unfold join
  induction templates with
  | nil => simp
  | cons first rest inductionHypothesis =>
    cases rest with
    | nil => simp
    | cons second others =>
      simp only [List.map_cons, List.intercalate_cons_cons, String.intercalate_cons_cons] at *
      simp [inductionHypothesis, String.append_assoc]

/-- The holes of texts with a separator between them are those of the texts. -/
theorem holes_join (separator : String) (templates : List Template) :
    holes (join separator templates) = templates.flatMap holes := by
  unfold join
  induction templates with
  | nil => simp
  | cons first rest inductionHypothesis =>
    cases rest with
    | nil => simp
    | cons second others =>
      rw [List.intercalate_cons_cons, List.flatMap_cons, ← inductionHypothesis]
      simp

end Template

end BoundSql
