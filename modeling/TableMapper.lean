import TableMapper.Main
import TableMapper.Proofs.Table.Lookup
import TableMapper.Postgres.Exchange
import TableMapper.Proofs.Session.Run
import TableMapper.Proofs.Sql.DollarTag
import TableMapper.Proofs.Sql.Draft
import TableMapper.Scenario.Run
import TableMapper.Sql.Output
import TableMapper.Table.Writer
import TableMapper.Proofs.Session.Builders
import TableMapper.Proofs.Transaction.Callback
import TableMapper.Proofs.Transaction.Settle
import TableMapper.Proofs.Transaction.Database
import TableMapper.Proofs.Transaction.Protocol
import TableMapper.Proofs.Transaction.Commit
import TableMapper.Proofs.Session.Reachable
import TableMapper.Proofs.Table.Columns
import TableMapper.Proofs.Transaction.Delivery
import TableMapper.Proofs.Schema.Ignored
import TableMapper.Proofs.Schema.IndexLoss
import TableMapper.Proofs.Schema.Referring
import TableMapper.Proofs.Session.Synchronization
import TableMapper.Proofs.Session.Isolation
import TableMapper.Proofs.Transaction.Custody
import TableMapper.Proofs.Builder.Conjunction
import TableMapper.Proofs.Builder.Insertion
import TableMapper.Proofs.Builder.Restriction
import TableMapper.Proofs.Builder.Grouping
import TableMapper.Proofs.Builder.Marks
import TableMapper.Proofs.Builder.Equality
import TableMapper.Proofs.Builder.CallOrder
import TableMapper.Proofs.Builder.Additions
import TableMapper.Proofs.Sql.Stripping
import TableMapper.Proofs.Sql.ArrayReading
import TableMapper.Proofs.Schema.Unwrapping
import TableMapper.Proofs.Sql.Filling
import TableMapper.Proofs.Rows.Export
import TableMapper.Proofs.Rows.Import
import TableMapper.Proofs.Rows.InsertedNames
import TableMapper.Proofs.Table.RoundTrip
import TableMapper.Proofs.Table.WrittenValue
import TableMapper.Proofs.Schema.DefaultChange
import TableMapper.Proofs.Schema.TypeSeen
import TableMapper.Proofs.Schema.Order
import TableMapper.Proofs.Schema.Names
import TableMapper.Proofs.Schema.IndexRuns
import TableMapper.Proofs.Schema.NewNames
import TableMapper.Proofs.Schema.LiveNames
import TableMapper.Proofs.Postgres.Numeric
import TableMapper.Proofs.Id.TextKeys
import TableMapper.Proofs.Id.NumericKeys
import TableMapper.Proofs.Postgres.Special
import TableMapper.Proofs.Postgres.Category
import TableMapper.Proofs.Id.Counter
import TableMapper.Proofs.Id.KeyLength
import TableMapper.Proofs.Connection.Options
import TableMapper.Proofs.Connection.Sources
import TableMapper.Proofs.Binary64.Coercion
import TableMapper.Proofs.Postgres.Arrays
