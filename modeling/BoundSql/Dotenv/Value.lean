import BoundSql.Text.Alphanumeric

/-!
# The values of an environment file

A value is made of parts without a gap between them: bare text, text in single
quotes, which means itself, and text in double quotes. Outside of single quotes
a backslash protects some characters, and a dollar sign with a name behind it
stands for the value of that name. A bare name ends at the first character that
is no letter and no digit, and that character means itself, a closing quote too;
braces around a name keep other characters in it.
-/

namespace BoundSql.Dotenv

/-- Where a value is being read. -/
inductive Spot
  /-- In bare text, or in double quotes. -/
  | text (quoted : Bool)
  /-- Behind a backslash. -/
  | escape (quoted : Bool)
  /-- In single quotes. -/
  | verbatim
  /-- In a name behind a dollar sign. -/
  | name (quoted : Bool) (name : List Char)
  /-- In a name in braces. -/
  | braced (quoted : Bool) (name : List Char)
  /-- Behind the value, where only blanks and a comment may follow. -/
  | behind

/-- What a character means behind a backslash. Only these six can stand there; any other makes
the value unreadable. -/
def escaped? : Char → Option Char
  | 'n' => some '\n'
  | c => if ['\\', '\'', '"', '$', ' '].contains c then some c else none

/-- The rest of a value, given what names stand for. Single quotes inside double quotes are
characters like others, and a value that ends inside either kind of quotes cannot be read. Every
step takes one character, so this ends with the text. -/
def valueFrom? (meaning : List Char → List Char) : Spot → List Char → Option (List Char)
  | .text quoted, [] => if quoted then none else some []
  | .escape quoted, [] => if quoted then none else some []
  | .verbatim, [] => none
  | .name quoted name, [] => if quoted then none else some (meaning name)
  | .braced _ _, [] => none
  | .behind, [] => some []
  | .text quoted, c :: rest =>
    if c == '$' then valueFrom? meaning (.name quoted []) rest
    else if c == '\\' then valueFrom? meaning (.escape quoted) rest
    else if c == '"' then valueFrom? meaning (.text !quoted) rest
    else if !quoted && c == '\'' then valueFrom? meaning .verbatim rest
    else if !quoted && (c == ' ' || c == '\t') then valueFrom? meaning .behind rest
    else (valueFrom? meaning (.text quoted) rest).map (c :: ·)
  | .escape quoted, c :: rest => do
    let meant ← escaped? c
    let value ← valueFrom? meaning (.text quoted) rest
    pure (meant :: value)
  | .verbatim, c :: rest =>
    if c == '\'' then valueFrom? meaning (.text false) rest
    else (valueFrom? meaning .verbatim rest).map (c :: ·)
  | .name quoted name, c :: rest =>
    if Text.isAlphanumeric c then valueFrom? meaning (.name quoted (name ++ [c])) rest
    else if c == '\x7b' && name.isEmpty then valueFrom? meaning (.braced quoted []) rest
    else if c == '$' then (valueFrom? meaning (.name quoted []) rest).map (meaning name ++ ·)
    else (valueFrom? meaning (.text quoted) rest).map (meaning name ++ c :: ·)
  | .braced quoted name, c :: rest =>
    if c == '\x7d' then (valueFrom? meaning (.text quoted) rest).map (meaning name ++ ·)
    else valueFrom? meaning (.braced quoted (name ++ [c])) rest
  | .behind, c :: rest =>
    if c == ' ' || c == '\t' then valueFrom? meaning .behind rest
    else if c == '#' then some []
    else none

/-- The value that a text writes, given what names stand for. The text starts with the value
itself: blanks in front of it have been taken off before. -/
def value? (meaning : List Char → List Char) (text : List Char) : Option (List Char) :=
  valueFrom? meaning (.text false) text

end BoundSql.Dotenv
