/-!
# Settings

What a connection and its log need to know. Every setting has a default, so a
program runs without being told anything.
-/

namespace BoundSql

/-- Where the database is and who asks. Nothing is checked here: whether there is such a host is
for the driver to find out. -/
structure ConnectionSettings where
  /-- The name of the connection in the log. -/
  name : String := "clickhouse"
  host : String := "localhost"
  port : UInt16 := 9000
  username : String := "default"
  password : String := ""
  database : String := "default"
deriving DecidableEq

/-- What is logged, how and where to. The words are kept as given; what they mean is decided
when the log is opened. -/
structure LogSettings where
  /-- A level or a list of log directives. -/
  level : String := "info"
  format : String := "pretty"
  output : String := "stdout"
  directory : String := "./logs"
deriving DecidableEq

/-- All settings. The two groups are independent: nothing in one decides what the other may be. -/
structure Settings where
  connection : ConnectionSettings := {}
  logging : LogSettings := {}
deriving DecidableEq

end BoundSql
