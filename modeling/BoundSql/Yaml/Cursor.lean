import BoundSql.Text.Bytes
import BoundSql.Yaml.Token

/-!
# Positions in a YAML text

A cursor is what is left of the text and where that stands. Columns decide about
indentation, and count characters; lines and distances in bytes decide how far a
key may be from its colon.
-/

namespace BoundSql.Yaml

/-- A position in a text. Nothing ties the numbers to the rest of the text; every step keeps
them right. -/
structure Cursor where
  rest : List Char
  line : Nat := 0
  column : Nat := 0
  /-- The number of bytes before the position. -/
  index : Nat := 0

namespace Cursor

/-- The cursor behind some characters of its line. That no line break is among them is for the
caller to know, since the line stays the same. -/
def skip (cursor : Cursor) (count : Nat) : Cursor :=
  { cursor with
    rest := cursor.rest.drop count
    column := cursor.column + count
    index := cursor.index + Text.byteCount (cursor.rest.take count) }

/-- The cursor behind all characters up to the first that is not meant, which may be at the
cursor itself. -/
def skipWhile (cursor : Cursor) (meant : Char → Bool) : Cursor :=
  cursor.skip (cursor.rest.takeWhile meant).length

/-- The cursor at the next line break, or at the end of the text. -/
def skipToBreak (cursor : Cursor) : Cursor :=
  cursor.skipWhile fun c => !isBreak c

/-- The line break at the cursor as text, and the cursor behind it. A return, a newline, both
together and U+0085 are one newline; the two separators of Unicode stay what they are. -/
def takeBreak (cursor : Cursor) : List Char × Cursor :=
  let next (count : Nat) : Cursor :=
    ⟨cursor.rest.drop count, cursor.line + 1, 0,
      cursor.index + Text.byteCount (cursor.rest.take count)⟩
  match cursor.rest with
  | '\r' :: '\n' :: _ => (['\n'], next 2)
  | c :: _ =>
    if c == '\u2028' || c == '\u2029' then ([c], next 1)
    else if isBreak c then (['\n'], next 1)
    else ([], cursor)
  | [] => ([], cursor)

/-- Whether the cursor stands before a line of three hyphens or three points, which starts or ends a
document. -/
def atDocumentMark (cursor : Cursor) : Bool :=
  cursor.column == 0 &&
    match cursor.rest with
    | '-' :: '-' :: '-' :: rest => endsWord rest
    | '.' :: '.' :: '.' :: rest => endsWord rest
    | _ => false

end Cursor

end BoundSql.Yaml
