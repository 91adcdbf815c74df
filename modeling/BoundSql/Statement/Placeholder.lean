import BoundSql.Statement.Compile

/-!
# Placeholders in a text

A brace opens a possible placeholder, and the next closing brace ends it. If what
stands between them is a word of small letters it is the token of a placeholder.
The search goes on behind the closing brace.
-/

namespace BoundSql.Statement

/-- Whether a text is a word of small ASCII letters. Every token is such a word, and so are
words that no registry has given out. -/
def isWord (text : List Char) : Bool :=
  !text.isEmpty && text.all fun c => 'a' ≤ c && c ≤ 'z'

/-- The texts between each opening brace and the next closing one, in order. `inside` holds the
characters since the opening brace, the latest first. -/
def braced : Option (List Char) → List Char → List (List Char)
  | _, [] => []
  | none, c :: rest => if c = '\x7b' then braced (some []) rest else braced none rest
  | some inside, c :: rest =>
    if c = '\x7d' then inside.reverse :: braced none rest else braced (some (c :: inside)) rest

/-- The tokens of the placeholders in a text, each once, in the order of first appearance.
Quotes are not looked at: a placeholder in a literal counts. -/
def tokensIn (text : List Char) : List String :=
  (((braced none text).filter isWord).foldl
    (fun found word => if found.contains word then found else found ++ [word]) []).map String.ofList

/-- The tokens of a statement's placeholders. They are read from the text alone, without its
parameters. -/
def referencedTokens (statement : Statement) : List String :=
  tokensIn statement.sql.toList

/-- The stored form of a statement: the text and the values beside it, which stay apart. -/
def encode (statement : Statement) : Json :=
  .object [("sql", .string statement.sql), ("parameters", statement.parameters.encode)]

end BoundSql.Statement
