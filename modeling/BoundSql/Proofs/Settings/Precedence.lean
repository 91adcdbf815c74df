import BoundSql.Proofs.Text.Literal
import BoundSql.Settings.Source

/-!
# Which source a setting comes from

Four sources are asked in turn for every setting: the environment, an
environment file, a document, and the defaults. A variable counts as soon as it
is set, even to an empty text, and the name of a connection is no variable. The
port is the only setting that a variable can give wrongly, and then there are no
settings at all.

How a document and an environment file are read is the matter of other modules.
Here a document is what it leaves given or open, and a file is the pairs it has.
-/

namespace BoundSql

namespace Settings

/-- Where each setting comes from: a variable if it is given, else the document,
else the default. The name of a connection is given by no variable. -/
structure Follows (given : Variable → Option String) (document : SettingsDocument)
    (settings : Settings) : Prop where
  name : settings.connection.name = document.connection.name.getD "clickhouse"
  host : settings.connection.host =
    ((given .host).or document.connection.host).getD "localhost"
  /-- A port that is given is the number that the text is a numeral of. -/
  portGiven : ∀ text, given .port = some text →
    Text.IsNumeralOf settings.connection.port.toNat text.toList
  portLeft : given .port = none →
    settings.connection.port = document.connection.port.getD 9000
  username : settings.connection.username =
    ((given .username).or document.connection.username).getD "default"
  password : settings.connection.password =
    ((given .password).or document.connection.password).getD ""
  database : settings.connection.database =
    ((given .database).or document.connection.database).getD "default"
  level : settings.logging.level = ((given .logLevel).or document.logging.level).getD "info"
  format : settings.logging.format = ((given .logFormat).or document.logging.format).getD "pretty"
  output : settings.logging.output = ((given .logOutput).or document.logging.output).getD "stdout"
  directory : settings.logging.directory =
    ((given .logDirectory).or document.logging.directory).getD "./logs"

/-- What becomes of the variables that are given and of a document, which may
not have been well-formed. -/
inductive Results (given : Variable → Option String) :
    Option SettingsDocument → Except SettingsError Settings → Prop where
  /-- A document that is not well-formed is an error, whatever is given. -/
  | malformed : Results given none (.error .malformed)
  /-- A port that is given as no numeral of a port is an error. -/
  | refused {document : SettingsDocument} {text : String} (set : given .port = some text)
      (wrong : ∀ port : UInt16, ¬Text.IsNumeralOf port.toNat text.toList) :
      Results given (some document) (.error (.invalidVariable .port text))
  /-- Otherwise there are settings. -/
  | decided {document : SettingsDocument} {settings : Settings}
      (follows : settings.Follows given document) :
      Results given (some document) (.ok settings)

/-- A variable is at fault exactly if it is the port and holds no numeral of one,
whatever the other variables hold. -/
theorem Results.invalid_iff {given : Variable → Option String} {document : SettingsDocument}
    {result : Except SettingsError Settings} (results : Results given (some document) result)
    {faulty : Variable} {value : String} :
    result = .error (.invalidVariable faulty value) ↔
      faulty = .port ∧ given .port = some value ∧
        ∀ port : UInt16, ¬Text.IsNumeralOf port.toNat value.toList := by
  cases results with
  | @refused _ text set wrong =>
    constructor
    · intro same
      cases same
      exact ⟨rfl, set, wrong⟩
    · rintro ⟨rfl, found, -⟩
      cases set.symm.trans found
      rfl
  | decided follows =>
    refine iff_of_false (by simp) ?_
    rintro ⟨-, found, wrong⟩
    exact wrong _ (follows.portGiven value found)

end Settings

/-! ## Variables that are added and set -/

namespace Environment

end Environment

namespace Settings

end Settings

end BoundSql
