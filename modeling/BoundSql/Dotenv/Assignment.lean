import BoundSql.Dotenv.Line
import BoundSql.Dotenv.Value
import BoundSql.Environment.Basic

/-!
# The assignments of an environment file

A line is empty, a comment, or a name, an equals sign and a value, with blanks
between them and the word `export` perhaps in front. Reading stops at the first
line that is none of these; what came before it counts. A value may use what the
environment holds and what the lines before it assign.
-/

namespace BoundSql.Dotenv

/-- A line that can be read. A comment counts as empty, since nothing of it is kept. -/
inductive Line
  | empty
  | assignment (name value : String)

/-- A text without the blanks in front. -/
def skipBlanks (text : List Char) : List Char :=
  text.dropWhile Text.isBlank

/-- A character of a name, behind the first one. Digits and points are allowed here only. -/
def isNameChar (c : Char) : Bool :=
  c.isAlphanum || c == '_' || c == '.'

/-- The name in front of a text, and what is behind it and the blanks after it. A name starts with a
letter or an underscore. -/
def name? (text : List Char) : Option (List Char × List Char) :=
  if text.head?.any fun c => c.isAlpha || c == '_' then
    some (text.takeWhile isNameChar, skipBlanks (text.dropWhile isNameChar))
  else
    none

/-- A text without the equals sign in front of it. -/
def behindEquals? : List Char → Option (List Char)
  | '=' :: rest => some rest
  | _ => none

/-- The name of an assignment and the text behind its equals sign. The word `export` is passed
over, unless it is the name itself, which an equals sign right behind it shows. -/
def target? (text : List Char) : Option (List Char × List Char) := do
  let (name, rest) ← name? text
  if name == "export".toList && rest.head? != some '=' then
    let (name, rest) ← name? rest
    pure (name, ← behindEquals? rest)
  else
    pure (name, ← behindEquals? rest)

/-- Whether nothing but a comment is left. -/
def isVoid (text : List Char) : Bool :=
  text.isEmpty || text.head? == some '#'

/-- What a name stands for in a value: nothing, if it is not set. A value that is set but empty
makes no difference to that. -/
def meaningIn (environment : Environment) (name : List Char) : List Char :=
  (environment.written? name).getD []

/-- What a line says. A name without a value is set to the empty text, and a line that cannot be
read gives nothing, not even its name. -/
def Line.ofChars? (environment : Environment) (chars : List Char) : Option Line :=
  let text := Text.trimChars chars
  if isVoid text then
    some .empty
  else do
    let (name, rest) ← target? text
    let rest := skipBlanks rest
    let value ← if isVoid rest then some [] else value? (meaningIn environment) rest
    pure (.assignment (String.ofList name) (String.ofList value))

/-- The assignments of lines in an environment that they add to. A later line sees what the
earlier ones assign, unless the environment had a value for that name before; then it sees that
one. The first line that cannot be read ends the list. -/
def assignmentsIn (environment : Environment) : List (List Char) → List (String × String)
  | [] => []
  | line :: rest =>
    match Line.ofChars? environment line with
    | none => []
    | some .empty => assignmentsIn environment rest
    | some (.assignment name value) =>
      (name, value) :: assignmentsIn (environment.setMissing name value) rest

/-- The assignments of a text, in their order. A name may be among them twice; which of its
values counts is decided where they are added to an environment. -/
def assignments (environment : Environment) (text : String) : List (String × String) :=
  assignmentsIn environment (lines text)

end BoundSql.Dotenv
