import BoundSql.Environment.Basic

/-!
# The variables that settings are taken from

Nine names of the environment have a meaning. They are different, so what is
stored under one of them is found under it alone.
-/

namespace BoundSql

/-- A setting that the environment may give. The name of the connection is none of them: it can
only be given by the document. -/
inductive Variable
  | host
  | port
  | username
  | password
  | database
  | logLevel
  | logFormat
  | logOutput
  | logDirectory
deriving DecidableEq

namespace Variable

/-- All variables. -/
def all : List Variable :=
  [.host, .port, .username, .password, .database, .logLevel, .logFormat, .logOutput, .logDirectory]

/-- The name of a variable. -/
def name : Variable → String
  | .host => "CLICKHOUSE_HOST"
  | .port => "CLICKHOUSE_PORT"
  | .username => "CLICKHOUSE_USERNAME"
  | .password => "CLICKHOUSE_PASSWORD"
  | .database => "CLICKHOUSE_DATABASE"
  | .logLevel => "RUST_LOG"
  | .logFormat => "LOG_FORMAT"
  | .logOutput => "LOG_OUTPUT"
  | .logDirectory => "LOG_DIR"

end Variable

namespace Environment

/-- The value of a variable, if it is set. The empty text is a value; whether it is a usable one
is decided where the setting is made. -/
def get? (environment : Environment) (known : Variable) : Option String :=
  environment.value? known.name

/-- The variables that are set, with their values, in the order in which all of them are listed
and not in the order in which they were set. -/
def settings (environment : Environment) : List (String × String) :=
  Variable.all.filterMap fun known => (environment.get? known).map (known.name, ·)

end Environment

end BoundSql
