import BoundSql.Settings.Basic

/-!
# Settings that leave something out

A document gives some of the settings. What it leaves out has its default.
-/

namespace BoundSql

/-- Some of the settings of a connection. That something is left out differs from its being
empty: an empty text is a setting. -/
structure ConnectionDocument where
  name : Option String := none
  host : Option String := none
  port : Option UInt16 := none
  username : Option String := none
  password : Option String := none
  database : Option String := none
deriving DecidableEq

/-- Some of the settings of the log. Each is there or left out on its own. -/
structure LogDocument where
  level : Option String := none
  format : Option String := none
  output : Option String := none
  directory : Option String := none
deriving DecidableEq

/-- Some of the settings. A group that is left out is the same as a group in which everything
is. -/
structure SettingsDocument where
  connection : ConnectionDocument := {}
  logging : LogDocument := {}
deriving DecidableEq

/-- The names of the settings of a connection, in their order. A document given as an array has
its items in that order. -/
def ConnectionDocument.fieldNames : List String :=
  ["name", "host", "port", "username", "password", "database"]

/-- The names of the settings of the log, in their order. A document given as an array has its
items in that order. -/
def LogDocument.fieldNames : List String :=
  ["level", "format", "output", "directory"]

/-- The names of the two groups of settings, in their order. -/
def SettingsDocument.fieldNames : List String :=
  ["connection", "logging"]

/-- The settings of a connection, completed: what is given is kept as it is, and the rest has
its default. -/
def ConnectionDocument.complete (document : ConnectionDocument) : ConnectionSettings :=
  let default : ConnectionSettings := {}
  { name := document.name.getD default.name
    host := document.host.getD default.host
    port := document.port.getD default.port
    username := document.username.getD default.username
    password := document.password.getD default.password
    database := document.database.getD default.database }

/-- The settings of the log, completed: what is given is kept as it is, and the rest has its
default. -/
def LogDocument.complete (document : LogDocument) : LogSettings :=
  let default : LogSettings := {}
  { level := document.level.getD default.level
    format := document.format.getD default.format
    output := document.output.getD default.output
    directory := document.directory.getD default.directory }

/-- All settings, completed group by group. Completing never fails, since every setting has a
default. -/
def SettingsDocument.complete (document : SettingsDocument) : Settings :=
  { connection := document.connection.complete
    logging := document.logging.complete }

end BoundSql
