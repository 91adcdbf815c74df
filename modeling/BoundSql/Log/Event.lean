import BoundSql.Binding.Token
import BoundSql.Text.Quoted

/-!
# Log events

What a connection and the compiler behind it report about themselves. An event
has a level, a target that names the reporting part, and a text with its fields.
Names and lists are shown in quotes where that is the rule of the field;
statements are shown as they are.
-/

namespace BoundSql.Log

/-- How grave an event is. There is no level for silence; a directive that lets nothing through
has detail zero. -/
inductive Level
  | error
  | warn
  | info
  | debug
  | trace
deriving DecidableEq

namespace Level

/-- The word for a level. -/
def text : Level → String
  | .error => "ERROR"
  | .warn => "WARN"
  | .info => "INFO"
  | .debug => "DEBUG"
  | .trace => "TRACE"

/-- How much detail a level stands for; graver levels have less. -/
def detail : Level → Nat
  | .error => 1
  | .warn => 2
  | .info => 3
  | .debug => 4
  | .trace => 5

end Level

/-- Something that happened, with what the log says about it. The time is left out: it does not
depend on what the program does. -/
inductive Event
  /-- A value got a new token. -/
  | assigned (token : Token) (kind : String)
  /-- A statement was compiled. -/
  | compiled (kind table sql : String) (parameters : Nat)
  /-- An insert was compiled. -/
  | compiledInsert (table : String) (columns : List String) (rows : Nat)
  /-- A select came back. -/
  | selected (connection : String) (rows : Nat)
  /-- An insert had nothing to insert. -/
  | emptyInsert (table : String)
  /-- An operation was asked for that the database does not have. -/
  | unsupported (operation : String)
  /-- A transaction was asked for. -/
  | noTransactions (operation : String)

namespace Event

/-- The level of an event. -/
def level : Event → Level
  | .assigned .. => .trace
  | .compiled .. | .compiledInsert .. | .selected .. | .emptyInsert .. => .debug
  | .unsupported .. | .noTransactions .. => .warn

/-- The part that reports an event. Directives select by it, so that one part can be logged in
more detail than another. -/
def target : Event → String
  | .assigned .. => "clickql_registry"
  | .compiled .. | .compiledInsert .. => "clickql_grammar"
  | .selected .. | .emptyInsert .. | .unsupported .. | .noTransactions .. =>
    "clickql_client::connection"

/-- The names of the fields of an event; the text in front of them is one. -/
def fieldNames : Event → List String
  | .assigned .. => ["message", "token", "kind"]
  | .compiled .. => ["message", "kind", "table", "sql", "params"]
  | .compiledInsert .. => ["message", "table", "columns", "rows"]
  | .selected .. => ["message", "connection", "rows"]
  | .emptyInsert .. => ["message", "table"]
  | .unsupported .. | .noTransactions .. => ["message", "operation"]

/-- The text of an event with its fields. Which of them stand in quotes differs from event to
event: a table is quoted when a statement is compiled and bare when an insert is. -/
def text : Event → String
  | .assigned token kind =>
    "assigned binding token token=" ++ token.text ++ " kind=" ++ Text.quoted kind
  | .compiled kind table sql parameters =>
    "compiled statement kind=" ++ Text.quoted kind ++ " table=" ++ Text.quoted table ++
      " sql=" ++ sql ++ " params=" ++ toString parameters
  | .compiledInsert table columns rows =>
    "compiled insert table=" ++ table ++ " columns=" ++ Text.quotedList columns ++
      " rows=" ++ toString rows
  | .selected connection rows =>
    "select finished connection=" ++ connection ++ " rows=" ++ toString rows
  | .emptyInsert table => "empty insert skipped table=" ++ Text.quoted table
  | .unsupported operation =>
    "operation not supported by ClickHouse operation=" ++ Text.quoted operation
  | .noTransactions operation =>
    "transactions are not supported by ClickHouse operation=" ++ Text.quoted operation

/-- An event as it is logged, without the time in front of it. -/
def entry (event : Event) : String :=
  event.level.text ++ " " ++ event.target ++ ": " ++ event.text

end Event

end BoundSql.Log
