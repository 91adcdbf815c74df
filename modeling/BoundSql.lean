import BoundSql.Connection.Basic
import BoundSql.Log.Filter
import BoundSql.Log.Output
import BoundSql.Query.Decode
import BoundSql.Settings.Json
import BoundSql.Settings.Source
import BoundSql.Statement.Placeholder
import BoundSql.Proofs.Value.Fingerprint
import BoundSql.Proofs.Statement.History
import BoundSql.Proofs.Statement.Soundness
import BoundSql.Proofs.Statement.Placeholders
import BoundSql.Proofs.Statement.Requirements
import BoundSql.Proofs.Statement.Filter
import BoundSql.Proofs.Statement.Secrecy
import BoundSql.Proofs.Statement.Unambiguous
import BoundSql.Proofs.Statement.Insertion
import BoundSql.Proofs.Query.Stored
import BoundSql.Proofs.Connection.History
import BoundSql.Proofs.Settings.Precedence
import BoundSql.Proofs.Statement.PlaceholderSearch
import BoundSql.Proofs.Statement.Traces
import BoundSql.Proofs.Query.NullComparison
import BoundSql.Proofs.Record.Gathered
import BoundSql.Proofs.Value.Decoding
import BoundSql.Proofs.Binding.WordOrder
import BoundSql.Proofs.Statement.UpdateNeeds
import BoundSql.Proofs.Statement.PathLiteral
import BoundSql.Proofs.Payload.Stored
import BoundSql.Proofs.Statement.ObjectInsertion
import BoundSql.Proofs.Statement.DatePart
