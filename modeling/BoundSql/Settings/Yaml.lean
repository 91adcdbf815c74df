import BoundSql.Settings.Document
import BoundSql.Yaml.Document
import BoundSql.Yaml.Structure

/-!
# Settings from YAML

The settings of the connection stand under `connection`, those of the log under
`logging`. Other keys are passed over with whatever is under them.
-/

namespace BoundSql

/-- A port: an integer of 16 bits, written as a numeral. In quotes it is a text and no port. -/
def portOfYaml? (root node : Yaml.Node) : Option UInt16 :=
  ((Yaml.natural? root node).filter (· < UInt16.size)).map UInt16.ofNat

/-- The settings of a connection. The root is needed because an alias in them stands for a node
elsewhere in the document. -/
def ConnectionDocument.ofYaml? (root node : Yaml.Node) : Option ConnectionDocument := do
  let text := Yaml.optional (Yaml.text? root)
  match ← Yaml.fields? fieldNames root node with
  | [name, host, port, username, password, database] =>
    let port ← Yaml.optional (portOfYaml? root) port
    pure ⟨← text name, ← text host, port, ← text username, ← text password, ← text database⟩
  | _ => none

/-- The settings of the log. The root is needed because an alias in them stands for a node
elsewhere in the document. -/
def LogDocument.ofYaml? (root node : Yaml.Node) : Option LogDocument := do
  let text := Yaml.optional (Yaml.text? root)
  match ← Yaml.fields? fieldNames root node with
  | [level, format, output, directory] =>
    pure ⟨← text level, ← text format, ← text output, ← text directory⟩
  | _ => none

/-- The settings of a tree. A group that is left out is the same as a group in which everything
is. -/
def SettingsDocument.ofYaml? (root : Yaml.Node) : Option SettingsDocument := do
  match ← Yaml.fields? fieldNames root root with
  | [connection, logging] =>
    let connection ← Yaml.optional (ConnectionDocument.ofYaml? root) connection
    let logging ← Yaml.optional (LogDocument.ofYaml? root) logging
    pure ⟨connection.getD {}, logging.getD {}⟩
  | _ => none

/-- The settings of a text, unless it is no YAML or holds a setting of the wrong kind. -/
def SettingsDocument.ofYamlText? (text : String) : Option SettingsDocument :=
  (Yaml.Node.ofText? text).bind SettingsDocument.ofYaml?

end BoundSql
