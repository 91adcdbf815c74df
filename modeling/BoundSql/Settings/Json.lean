import BoundSql.Json.Shape
import BoundSql.Json.Structure
import BoundSql.Settings.Document

/-!
# Settings as JSON

They are written in full, in a fixed order. Read are also settings that leave
something out.
-/

namespace BoundSql

namespace ConnectionSettings

/-- The stored form. -/
def encode (settings : ConnectionSettings) : Json :=
  .object [
    ("name", .string settings.name),
    ("host", .string settings.host),
    ("port", .ofUInt64 settings.port.toUInt64),
    ("username", .string settings.username),
    ("password", .string settings.password),
    ("database", .string settings.database)]

end ConnectionSettings

namespace LogSettings

/-- The stored form. -/
def encode (settings : LogSettings) : Json :=
  .object [
    ("level", .string settings.level),
    ("format", .string settings.format),
    ("output", .string settings.output),
    ("directory", .string settings.directory)]

end LogSettings

/-- The stored form. -/
def Settings.encode (settings : Settings) : Json :=
  .object [
    ("connection", settings.connection.encode),
    ("logging", settings.logging.encode)]

/-- A port: an integer of 16 bits. A text of digits is none, though the environment gives ports
that way. -/
def portOfJson? (json : Json) : Option UInt16 :=
  ((Json.uint64? json).filter (·.toNat < UInt16.size)).map UInt64.toUInt16

/-- A setting that may be left out, but not be null. -/
def settingOfJson? {α : Type} (decode? : Json → Option α) : Option Json → Option (Option α) :=
  Json.defaulted none fun json => (decode? json).map some

namespace ConnectionDocument

/-- The settings of a connection. -/
def decode? (json : Json) : Option ConnectionDocument := do
  let text := settingOfJson? Json.string?
  let given ← Json.fields? fieldNames json
  match given.values with
  | [name, host, port, username, password, database] =>
    let port ← settingOfJson? portOfJson? port
    pure ⟨← text name, ← text host, port, ← text username, ← text password, ← text database⟩
  | _ => none

end ConnectionDocument

namespace LogDocument

/-- The settings of the log. -/
def decode? (json : Json) : Option LogDocument := do
  let text := settingOfJson? Json.string?
  let given ← Json.fields? fieldNames json
  match given.values with
  | [level, format, output, directory] =>
    pure ⟨← text level, ← text format, ← text output, ← text directory⟩
  | _ => none

end LogDocument

namespace SettingsDocument

/-- The settings of a tree. -/
def decode? (json : Json) : Option SettingsDocument := do
  let given ← Json.fields? fieldNames json
  match given.values with
  | [connection, logging] =>
    let connection ← Json.defaulted {} ConnectionDocument.decode? connection
    let logging ← Json.defaulted {} LogDocument.decode? logging
    pure ⟨connection, logging⟩
  | _ => none

/-- What is read of stored settings: the known ones of both groups. Others may hold anything
that is well formed. -/
def shape : Json.Shape :=
  let whole (names : List String) : Json.Shape := .fields (names.map (·, .whole))
  .fields [
    ("connection", whole ConnectionDocument.fieldNames),
    ("logging", whole LogDocument.fieldNames)]

/-- The settings of a text. One setting of the wrong kind is enough to refuse them all. -/
def ofText? (text : String) : Option SettingsDocument :=
  (shape.read? text).bind decode?

end SettingsDocument

end BoundSql
