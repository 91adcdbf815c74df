import BoundSql.Query.Basic
import BoundSql.Text.Blank
import BoundSql.Text.Split

/-!
# Names in statements

A name is rendered as it is, with two exceptions. Behind the first ` as `, in
small or capital letters, stands an alias. A name with arrows is a path into a
JSON field: what stands before the first arrow is the field, and the steps behind
it, joined by points, become the text of a literal in which quotes and
backslashes are escaped, so that no path can end its literal.
-/

namespace BoundSql.Identifier

/-- One character inside a quoted literal. Only the quote and the backslash could end a literal
or change what follows, so only they are escaped. -/
def escapeChar (c : Char) : List Char :=
  if c = '\\' then ['\\', '\\'] else if c = '\'' then ['\\', '\''] else [c]

/-- A text inside a quoted literal, character by character; its length is not bounded. -/
def escape (text : List Char) : List Char :=
  text.flatMap escapeChar

/-- The arrow between the steps of a path. -/
def arrow : List Char := ['-', '>']

/-- The word between a name and its alias. It is found in small or capital letters, but only
with one blank on either side. -/
def aliasWord : List Char := [' ', 'a', 's', ' ']

/-- The steps of a path as the text of a literal. Blanks around a step are dropped, and an empty
step stays as one. -/
def pathText (path : List Char) : List Char :=
  List.intercalate ['.'] ((Text.splitAll arrow path).map fun step => escape (Text.trimChars step))

/-- A name without an alias. Only the path of it is escaped: the field before the first arrow is
rendered as it is. -/
def wrapPlain (name : List Char) : List Char :=
  match Text.cut arrow name with
  | none => name
  | some (field, path) =>
    "simpleJSONExtractString(".toList ++ Text.trimChars field ++ [',', ' ', '\''] ++
      pathText path ++ ['\'', ')']

/-- A name as it is rendered. The alias is what stands behind the first word for one, even if it
holds that word again, and is never taken for a path. -/
def wrapChars (name : List Char) : List Char :=
  match Text.cutOn Text.lowerAscii aliasWord name with
  | none => wrapPlain (Text.trimChars name)
  | some (expression, label) =>
    wrapPlain (Text.trimChars expression) ++ " as ".toList ++ Text.trimChars label

/-- A name as it is rendered, for names of tables as well as of columns. -/
def wrapName (name : String) : String :=
  String.ofList (wrapChars name.toList)

/-- A column as it is rendered. An expression is not looked at, so that arrows and aliases in it
mean what they mean to the database. -/
def wrap : Column → String
  | .name text => wrapName text
  | .raw sql => sql

end BoundSql.Identifier
