import BoundSql.Execution.Scripted
import BoundSql.Expression
import BoundSql.Monitor.ConfigDocument
import BoundSql.Proofs.AppendOnly
import BoundSql.Proofs.Clipping
import BoundSql.Proofs.DetectedKind
import BoundSql.Proofs.Embedding
import BoundSql.Proofs.Growth
import BoundSql.Proofs.InsertText
import BoundSql.Proofs.JsonRows
import BoundSql.Proofs.LeadingComments
import BoundSql.Proofs.Literals
import BoundSql.Proofs.Monitoring
import BoundSql.Proofs.NameGrammar
import BoundSql.Proofs.Noninterference
import BoundSql.Proofs.OperandSpelling
import BoundSql.Proofs.Pages
import BoundSql.Proofs.Panics
import BoundSql.Proofs.PlaceholdersInNames
import BoundSql.Proofs.Printing
import BoundSql.Proofs.Reordering
import BoundSql.Proofs.Repair
import BoundSql.Proofs.WhereClause
import BoundSql.Query.Script
import BoundSql.Value
