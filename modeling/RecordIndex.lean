import RecordIndex.DataDirectory
import RecordIndex.Database.Integrity
import RecordIndex.Database.Queries
import RecordIndex.Database.Records
import RecordIndex.Json.Parser
import RecordIndex.Proofs.Database.Actions
import RecordIndex.Proofs.Database.Calls
import RecordIndex.Proofs.Database.Consistency
import RecordIndex.Proofs.Database.Declined
import RecordIndex.Proofs.Database.DynamicKeys
import RecordIndex.Proofs.Database.Identity
import RecordIndex.Proofs.Database.Integrity
import RecordIndex.Proofs.Database.Iteration
import RecordIndex.Proofs.Database.Itself
import RecordIndex.Proofs.Database.Likeness
import RecordIndex.Proofs.Database.Moves
import RecordIndex.Proofs.Database.Negations
import RecordIndex.Proofs.Database.Opening
import RecordIndex.Proofs.Database.Orderly
import RecordIndex.Proofs.Database.Origins
import RecordIndex.Proofs.Database.Ranked
import RecordIndex.Proofs.Database.Refusals
import RecordIndex.Proofs.Database.Renewing
import RecordIndex.Proofs.Database.Reopening
import RecordIndex.Proofs.Database.Requests
import RecordIndex.Proofs.Database.Scores
import RecordIndex.Proofs.Database.Strict
import RecordIndex.Proofs.Database.Thresholds
import RecordIndex.Proofs.Database.Typed
import RecordIndex.Proofs.Database.Union
import RecordIndex.Proofs.Database.Untouched
import RecordIndex.Proofs.Database.Vectors
import RecordIndex.Proofs.Database.Versions
import RecordIndex.Proofs.Database.Writes
import RecordIndex.Proofs.Database.Written
import RecordIndex.Proofs.Feature.History
import RecordIndex.Proofs.Index.Holding
import RecordIndex.Proofs.Index.Rewriting
import RecordIndex.Proofs.Index.Rows
import RecordIndex.Proofs.Key.Canonical
import RecordIndex.Proofs.Key.Ends
import RecordIndex.Proofs.Key.Order
import RecordIndex.Proofs.Key.Parts
import RecordIndex.Proofs.Number.Whole
import RecordIndex.Proofs.Pattern.Comparing
import RecordIndex.Proofs.Pattern.Definite
import RecordIndex.Proofs.Pattern.Done
import RecordIndex.Proofs.Pattern.InOrder
import RecordIndex.Proofs.Pattern.Leaves
import RecordIndex.Proofs.Projection.Repeating
import RecordIndex.Proofs.Query.Access
import RecordIndex.Proofs.Query.Awaiting
import RecordIndex.Proofs.Query.Covering
import RecordIndex.Proofs.Query.Fallback
import RecordIndex.Proofs.Query.Finding
import RecordIndex.Proofs.Query.Hits
import RecordIndex.Proofs.Query.Inside
import RecordIndex.Proofs.Query.Intersection
import RecordIndex.Proofs.Query.Nearest
import RecordIndex.Proofs.Query.Paging
import RecordIndex.Proofs.Query.Pulling
import RecordIndex.Proofs.Query.Pursuit
import RecordIndex.Proofs.Query.Ranges
import RecordIndex.Proofs.Query.Stopping
import RecordIndex.Proofs.Query.Yielding
import RecordIndex.Proofs.Regex.Characters
import RecordIndex.Proofs.Table.Lookup
import RecordIndex.Proofs.Table.Reading
import RecordIndex.Proofs.Term.Answers
import RecordIndex.Proofs.Term.Counts
import RecordIndex.Proofs.Term.Declared
import RecordIndex.Proofs.Term.Entries
import RecordIndex.Proofs.Term.Itself
import RecordIndex.Proofs.Term.Narrowing
import RecordIndex.Proofs.Term.Paths
import RecordIndex.Proofs.Term.Stored
import RecordIndex.Proofs.Term.Walks
import RecordIndex.Proofs.Text.Integer
import RecordIndex.Proofs.Text.Tokens
import RecordIndex.Proofs.Value.Faithful
import RecordIndex.Proofs.Value.Leaves
import RecordIndex.Proofs.Value.Merging
import RecordIndex.Proofs.Value.ReadBack
import RecordIndex.Proofs.Value.RoundTrip
import RecordIndex.Proofs.Value.Shape
import RecordIndex.Proofs.Value.Stored
import RecordIndex.Proofs.Value.Walks
import RecordIndex.Value.Display
import RecordIndex.Proofs.Value.Lookup
