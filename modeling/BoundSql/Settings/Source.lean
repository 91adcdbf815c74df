import BoundSql.Dotenv.Assignment
import BoundSql.Environment.Variable
import BoundSql.Settings.Yaml
import BoundSql.Text.Digits

/-!
# Where settings come from

The environment has the last word: each of its nine variables, if it is set,
replaces one setting, even by an empty text. A document is asked next, and the
defaults answer for what it leaves out. An environment file only adds variables
that are not set. The name of a connection is no variable, so a document or the
default decides it.

Only the port can be wrong in the environment, and it is wrong if it is no
number of 16 bits, whatever the document says. Settings of the log can be
written back to the variables from which they are read.
-/

namespace BoundSql

/-- Why there are no settings. The texts of the errors do not say where in a document the fault
is. -/
inductive SettingsError
  /-- There is no document. -/
  | unreadable
  /-- The document is not well-formed or holds a wrong kind of thing. -/
  | malformed
  /-- A variable of the environment has a value that its setting cannot have. -/
  | invalidVariable (faulty : Variable) (value : String)
deriving DecidableEq

/-- The text of an error. -/
def SettingsError.message : SettingsError → String
  | .unreadable => "Failed to read config file"
  | .malformed => "Failed to parse YAML"
  | .invalidVariable faulty value =>
    "Invalid value for environment variable " ++ faulty.name ++ ": " ++ value

/-- A port in the environment: decimal digits, perhaps with zeros or a plus sign in front.
Blanks are not passed over. -/
def portOfText? (text : String) : Option UInt16 :=
  (Text.unsignedBelow? UInt16.size text).map UInt16.ofNat

/-- The port the environment gives instead of another one. A text that is no port is an error
and does not fall back to the other. -/
def Environment.portInstead (environment : Environment) (port : UInt16) :
    Except SettingsError UInt16 :=
  match environment.get? .port with
  | none => .ok port
  | some text =>
    match portOfText? text with
    | some given => .ok given
    | none => .error (.invalidVariable .port text)

namespace ConnectionSettings

/-- The settings with what the environment gives instead. The name is kept, since no variable
stands for it, and only the port can fail. -/
def override (environment : Environment) (settings : ConnectionSettings) :
    Except SettingsError ConnectionSettings := do
  let port ← environment.portInstead settings.port
  pure {
    name := settings.name
    host := (environment.get? .host).getD settings.host
    port
    username := (environment.get? .username).getD settings.username
    password := (environment.get? .password).getD settings.password
    database := (environment.get? .database).getD settings.database }

end ConnectionSettings

namespace LogSettings

/-- The settings with what the environment gives instead. Any text is a setting of the log, so
nothing can fail. -/
def override (environment : Environment) (settings : LogSettings) : LogSettings :=
  { level := (environment.get? .logLevel).getD settings.level
    format := (environment.get? .logFormat).getD settings.format
    output := (environment.get? .logOutput).getD settings.output
    directory := (environment.get? .logDirectory).getD settings.directory }

/-- The variables from which these settings are read, with their values, so that reading them
again gives the same settings. -/
def assignments (settings : LogSettings) : List (String × String) :=
  [(Variable.logLevel.name, settings.level),
    (Variable.logFormat.name, settings.format),
    (Variable.logOutput.name, settings.output),
    (Variable.logDirectory.name, settings.directory)]

/-- The environment with these settings written to it. Values that were there are replaced, and
other variables are left alone. -/
def publish (settings : LogSettings) (environment : Environment) : Environment :=
  environment.setAll settings.assignments

end LogSettings

namespace Settings

/-- The settings with what the environment gives instead. If the port fails there are no
settings at all, not even those of the log. -/
def override (environment : Environment) (settings : Settings) : Except SettingsError Settings := do
  let connection ← settings.connection.override environment
  pure ⟨connection, settings.logging.override environment⟩

/-- The settings of a document and an environment. The defaults come first, so a variable also
replaces what the document left out. -/
def ofDocument (environment : Environment) (document : SettingsDocument) :
    Except SettingsError Settings :=
  document.complete.override environment

/-- The settings of an environment alone, which is the same as with a document that says
nothing. -/
def ofEnvironment (environment : Environment) : Except SettingsError Settings :=
  ofDocument environment {}

/-- The settings of a document in YAML, if there is one, and an environment. A document that is
not there is an error and not an empty one. -/
def load (environment : Environment) : Option String → Except SettingsError Settings
  | none => .error .unreadable
  | some yaml =>
    match SettingsDocument.ofYamlText? yaml with
    | none => .error .malformed
    | some document => ofDocument environment document

end Settings

/-- The environment with what an environment file adds to it, if there is one. Variables that
are set already keep their values. -/
def Environment.withFile (environment : Environment) : Option String → Environment
  | none => environment
  | some text => environment.addMissing (Dotenv.assignments environment text)

end BoundSql
