import JsonSchema.Files.FileTree
import JsonSchema.Main
import JsonSchema.Proofs.Json.UniqueNames
import JsonSchema.Proofs.Schema.Counts
import JsonSchema.Proofs.Schema.Walk
import JsonSchema.Proofs.Schema.Keywords
import JsonSchema.Proofs.Schema.PatternCache
import JsonSchema.Proofs.Schema.Satisfaction
import JsonSchema.Proofs.Schema.Places
import JsonSchema.Proofs.Schema.Accounting
import JsonSchema.Proofs.Schema.ReportOrder
import JsonSchema.Proofs.Audit.Subschemas
import JsonSchema.Proofs.Audit.Strictness
import JsonSchema.Proofs.Audit.Ignored
import JsonSchema.Proofs.Audit.Silence
import JsonSchema.Proofs.Batch.Watched
import JsonSchema.Proofs.Batch.Pool
import JsonSchema.Proofs.Batch.Refinement
import JsonSchema.Proofs.Json.Pointer
import JsonSchema.Proofs.Schema.Locations
import JsonSchema.Proofs.Json.Reordered
import JsonSchema.Proofs.Schema.MemberOrder
import JsonSchema.Proofs.Schema.SharedCache
import JsonSchema.Proofs.Batch.Cancellation
import JsonSchema.Proofs.Batch.Independence
import JsonSchema.Proofs.Report.Agreement
import JsonSchema.Proofs.Cli.ExitCode
import JsonSchema.Proofs.Cli.SingleInput
import JsonSchema.Proofs.Report.Headlines
import JsonSchema.Proofs.Yaml.Entries
import JsonSchema.Proofs.Yaml.Embedding
import JsonSchema.Proofs.Batch.Resolution
import JsonSchema.Proofs.Cli.Unresolved
import JsonSchema.Proofs.Numeric.Rounding
import JsonSchema.Proofs.Json.Numbers
import JsonSchema.Proofs.Json.Equality
import JsonSchema.Proofs.Schema.Constants
import JsonSchema.Proofs.Schema.Bounds
import JsonSchema.Proofs.Schema.StrictFormats
import JsonSchema.Proofs.Schema.KeywordOrder
import JsonSchema.Proofs.Pattern.ClassMeaning
import JsonSchema.Proofs.Pattern.Expansion
import JsonSchema.Proofs.Pattern.WordBoundary
import JsonSchema.Proofs.Audit.Places
import JsonSchema.Proofs.Audit.Order
import JsonSchema.Proofs.Audit.Locations
import JsonSchema.Proofs.Format.Date
import JsonSchema.Proofs.Schema.Limits
