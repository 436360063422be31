import SemanticLayer.Catalog.Basic
import SemanticLayer.Catalog.Cardinality
import SemanticLayer.Catalog.Document
import SemanticLayer.Catalog.Relationship
import SemanticLayer.Catalog.Row
import SemanticLayer.Catalog.Table
import SemanticLayer.Decimal.Exact
import SemanticLayer.Decimal.Reading
import SemanticLayer.Decimal.Rounding
import SemanticLayer.Decimal.Shortest
import SemanticLayer.Decimal.Significant
import SemanticLayer.Error
import SemanticLayer.Execution.Basic
import SemanticLayer.Execution.RawQuery
import SemanticLayer.Execution.Script
import SemanticLayer.Execution.Store
import SemanticLayer.Fault
import SemanticLayer.Guard
import SemanticLayer.Inference.Document
import SemanticLayer.Inference.Evaluation
import SemanticLayer.Inference.Name
import SemanticLayer.Inference.Naming
import SemanticLayer.Inference.Pair
import SemanticLayer.Inference.Score
import SemanticLayer.Inference.Suggestion
import SemanticLayer.Json.Document
import SemanticLayer.Json.Reader
import SemanticLayer.Json.Value
import SemanticLayer.Json.Writer
import SemanticLayer.Plan.Basic
import SemanticLayer.Plan.Condition
import SemanticLayer.Plan.Dialect
import SemanticLayer.Plan.Join
import SemanticLayer.Plan.JoinGraph
import SemanticLayer.Plan.OutputName
import SemanticLayer.Plan.Statement
import SemanticLayer.Profile.Basic
import SemanticLayer.Profile.Cache
import SemanticLayer.Profile.Document
import SemanticLayer.Profile.Sample
import SemanticLayer.Proofs.Distinct
import SemanticLayer.Proofs.Plan.Joins
import SemanticLayer.Proofs.Plan.Path
import SemanticLayer.Proofs.Plan.Routes
import SemanticLayer.Registry.Basic
import SemanticLayer.Registry.Catalog
import SemanticLayer.Registry.Document
import SemanticLayer.Registry.Model
import SemanticLayer.Registry.Relationship
import SemanticLayer.Registry.Source
import SemanticLayer.Registry.Transaction
import SemanticLayer.Request.Checked
import SemanticLayer.Request.Query
import SemanticLayer.Request.Relationship
import SemanticLayer.Service.Basic
import SemanticLayer.Service.Body
import SemanticLayer.Service.Call
import SemanticLayer.Service.Message
import SemanticLayer.Settings.Basic
import SemanticLayer.Settings.Startup
import SemanticLayer.Sql.Grouping
import SemanticLayer.Sql.Lexer
import SemanticLayer.Sql.Parameter
import SemanticLayer.Sql.Pattern
import SemanticLayer.Sql.ReadOnly
import SemanticLayer.Sql.Reference
import SemanticLayer.Sql.RowLimit
import SemanticLayer.Sql.Statement
import SemanticLayer.Sql.Token
import SemanticLayer.Sql.Tree
import SemanticLayer.Sql.Vocabulary
import SemanticLayer.Text.Blank
import SemanticLayer.Text.Case
import SemanticLayer.Text.Digit
import SemanticLayer.Text.Part
import SemanticLayer.Text.Quoted
import SemanticLayer.Text.Ranges
import SemanticLayer.Text.Word
import SemanticLayer.Warehouse.Conversation
import SemanticLayer.Warehouse.Dialogue
import SemanticLayer.Warehouse.Duration
import SemanticLayer.Warehouse.Query
import SemanticLayer.Warehouse.Request
import SemanticLayer.Warehouse.Row
import SemanticLayer.Warehouse.Token
import SemanticLayer.Proofs.Outcome
import SemanticLayer.Proofs.Plan.Build
import SemanticLayer.Proofs.Plan.SpanningTree
import SemanticLayer.Proofs.Sql.Reference
import SemanticLayer.Proofs.Sql.Scan
import SemanticLayer.Proofs.Sql.Group
import SemanticLayer.Proofs.Sql.Subquery
import SemanticLayer.Proofs.Sql.CommonTable
import SemanticLayer.Proofs.Sql.TableList
import SemanticLayer.Proofs.Registry.Transaction
import SemanticLayer.Service.Activity
import SemanticLayer.Proofs.Service.Change
import SemanticLayer.Proofs.Inference.Evaluation
import SemanticLayer.Proofs.Registry.Write
import SemanticLayer.Proofs.Registry.Relationship
import SemanticLayer.Proofs.Service.Relationship
import SemanticLayer.Proofs.Registry.Isolation
import SemanticLayer.Proofs.Service.Isolation
import SemanticLayer.Proofs.Warehouse.Dialogue
import SemanticLayer.Proofs.Warehouse.Schedule
import SemanticLayer.Proofs.Warehouse.Sequential
import SemanticLayer.Proofs.Warehouse.Cancellation
import SemanticLayer.Proofs.Warehouse.JobRows
import SemanticLayer.Proofs.Warehouse.Paging
import SemanticLayer.Proofs.Guard.Rewriting
import SemanticLayer.Proofs.Plan.Connection
import SemanticLayer.Proofs.Execution.RawQuery
import SemanticLayer.Proofs.Plan.Columns
import SemanticLayer.Proofs.Plan.Template
import SemanticLayer.Proofs.Plan.Values
import SemanticLayer.Proofs.Plan.Reordering
import SemanticLayer.Proofs.Entries
import SemanticLayer.Proofs.Inference.Ranking
import SemanticLayer.Proofs.Inference.Examination
import SemanticLayer.Proofs.Inference.Detection
import SemanticLayer.Proofs.Inference.Naming
import SemanticLayer.Proofs.Inference.SharedKeys
import SemanticLayer.Proofs.Inference.TableOrder
import SemanticLayer.Proofs.Json.RoundTrip
import SemanticLayer.Proofs.Registry.Operation
import SemanticLayer.Proofs.Registry.Listing
import SemanticLayer.Proofs.Registry.Catalog
import SemanticLayer.Proofs.Plan.Ordering
import SemanticLayer.Proofs.Execution.RowCap
import SemanticLayer.Proofs.Registry.Continuity
import SemanticLayer.Proofs.Service.Listing
import SemanticLayer.Proofs.Sql.Alike
import SemanticLayer.Proofs.Sql.Relaid
import SemanticLayer.Proofs.Sql.Layout
import SemanticLayer.Proofs.Guard.Layout
import SemanticLayer.Proofs.Plan.Growth
import SemanticLayer.Proofs.Plan.Grouping
import SemanticLayer.Proofs.Plan.Reporting
import SemanticLayer.Proofs.Catalog.Identity
import SemanticLayer.Proofs.Inference.Afresh
import SemanticLayer.Proofs.Plan.Synonyms
import SemanticLayer.Proofs.Plan.JoinTree
import SemanticLayer.Proofs.Registry.DefaultModel
import SemanticLayer.Proofs.Registry.Atomicity
import SemanticLayer.Proofs.Plan.ShortestPath
import SemanticLayer.Proofs.Plan.Placeholders
import SemanticLayer.Proofs.Plan.ListFilters
import SemanticLayer.Proofs.Plan.TextFilters
import SemanticLayer.Proofs.Plan.Quoting
import SemanticLayer.Proofs.Plan.OutputNames
import SemanticLayer.Proofs.Guard.Splicing
import SemanticLayer.Proofs.Sql.Parameter
import SemanticLayer.Proofs.Plan.Parameters
import SemanticLayer.Proofs.Execution.Binding
import SemanticLayer.Proofs.Text.Case
import SemanticLayer.Proofs.Guard.Names
import SemanticLayer.Proofs.Guard.Confinement
import SemanticLayer.Proofs.Inference.CommonKey
import SemanticLayer.Proofs.Inference.Profiling
import SemanticLayer.Proofs.Inference.Mirror
import SemanticLayer.Proofs.Inference.Direction
import SemanticLayer.Proofs.Profile.Overlap
import SemanticLayer.Proofs.Inference.Validity
import SemanticLayer.Proofs.Service.Revalidation
import SemanticLayer.Proofs.Warehouse.Transcript
import SemanticLayer.Proofs.Warehouse.Retry
import SemanticLayer.Proofs.Warehouse.Polling
import SemanticLayer.Proofs.Sql.Reading
import SemanticLayer.Proofs.Sql.Splitting
import SemanticLayer.Proofs.Sql.ReadOnly
import SemanticLayer.Proofs.Sql.WriteKeyword
import SemanticLayer.Proofs.Sql.Extension
import SemanticLayer.Proofs.Sql.Appending
import SemanticLayer.Proofs.Sql.RowLimit
import SemanticLayer.Proofs.Execution.ReadOnly
import SemanticLayer.Proofs.Decimal.Order
import SemanticLayer.Proofs.Inference.Score
import SemanticLayer.Proofs.Request.Query
import SemanticLayer.Proofs.Sql.TablePosition
import SemanticLayer.Proofs.Text.Digit
import SemanticLayer.Proofs.Decimal.Whole
import SemanticLayer.Proofs.Sql.Carrying
import SemanticLayer.Proofs.Sql.Replacing
import SemanticLayer.Proofs.Sql.BeforeCount
import SemanticLayer.Proofs.Sql.Number
import SemanticLayer.Proofs.Sql.TopLevel
import SemanticLayer.Proofs.Sql.Rejoining
import SemanticLayer.Proofs.Sql.Clamping
