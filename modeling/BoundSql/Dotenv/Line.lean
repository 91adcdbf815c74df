import BoundSql.Text.Blank

/-!
# The lines of an environment file

A line break inside quotes or behind a backslash does not end a line. A number
sign behind a blank starts a comment, and so does one in front of everything
else in a line. What is still open at the end of the text is no line.
-/

namespace BoundSql.Dotenv

/-- What the characters so far leave open. Nothing is open after a plain one. Strong quotes are
single ones and weak quotes double ones. -/
inductive Open
  | plain
  | blank
  | escaped
  | strong
  | strongEscaped
  | weak
  | weakEscaped
deriving DecidableEq

namespace Open

/-- What is open behind a character outside of quotes. A blank is not told from other characters
here; the caller has done so. -/
def unquoted : Char → Open
  | '\\' => .escaped
  | '"' => .weak
  | '\'' => .strong
  | _ => .plain

/-- What is open behind one more character. A blank that follows a blank does not count as one. -/
def next : Open → Char → Open
  | .plain, c =>
    if Text.isBlank c && c != '\n' && c != '\r' then .blank else unquoted c
  | .blank, c => unquoted c
  | .escaped, _ => .plain
  | .strong, c => if c == '\\' then .strongEscaped else if c == '\'' then .plain else .strong
  | .strongEscaped, _ => .strong
  | .weak, c => if c == '\\' then .weakEscaped else if c == '"' then .plain else .weak
  | .weakEscaped, _ => .weak

/-- A row without its comment, and what is open behind it. A number sign starts a comment only
behind a blank, and not inside quotes. -/
def row : Open → List Char → List Char × Open
  | state, [] => ([], state)
  | state, c :: rest =>
    if state == .blank && c == '#' then
      ([], .plain)
    else
      let (kept, behind) := row (state.next c) rest
      (c :: kept, behind)

end Open

/-- The rows of a text, each with the line break at its end. The last one has none if the text
does not end with one. -/
def rows : List Char → List (List Char)
  | [] => []
  | c :: rest =>
    match rows rest with
    | [] => [[c]]
    | row :: others => if c == '\n' then [c] :: row :: others else (c :: row) :: others

/-- Whether a row is nothing but a comment. This is asked also of a row that continues a line,
together with what is pending of the line. -/
def isComment (row : List Char) : Bool :=
  (row.dropWhile Text.isBlank).head? == some '#'

/-- The lines that rows make up, behind the part of a line that is open. What is still pending
when the rows end is dropped. -/
def linesBehind (pending : List Char) (state : Open) : List (List Char) → List (List Char)
  | [] => []
  | row :: rest =>
    if isComment (pending ++ row) then
      linesBehind [] .plain rest
    else
      let (kept, behind) := state.row row
      if behind == .plain then
        (pending ++ kept) :: linesBehind [] .plain rest
      else
        linesBehind (pending ++ kept) behind rest

/-- The lines of a text. A byte order mark in front is passed over; one anywhere else is a
character like others. -/
def lines (text : String) : List (List Char) :=
  let chars := match text.toList with
    | '\uFEFF' :: rest => rest
    | chars => chars
  linesBehind [] .plain (rows chars)

end BoundSql.Dotenv
