import BoundSql.Environment.Variable

/-!
# How and where to a log is written

Both are words in the environment, and a word without a meaning counts as none.
Capitals and blanks make a difference.
-/

namespace BoundSql.Log

/-- How events are written. Only the layout depends on it and not which events there are. -/
inductive Format
  | pretty
  | json
  | compact
deriving DecidableEq

/-- Where events are written to; with `both` each event is written twice. -/
inductive Output
  | stdout
  | file
  | both
deriving DecidableEq

/-- The format the environment asks for. A word that is none of the known ones is not reported
and means the same as none. -/
def Format.ofEnvironment (environment : Environment) : Format :=
  match environment.get? .logFormat with
  | some "json" => .json
  | some "compact" => .compact
  | _ => .pretty

/-- The output the environment asks for. A word that is none of the known ones is not reported
and means the same as none. -/
def Output.ofEnvironment (environment : Environment) : Output :=
  match environment.get? .logOutput with
  | some "file" => .file
  | some "both" => .both
  | _ => .stdout

end BoundSql.Log
