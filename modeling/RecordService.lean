import RecordService.Column.Plan
import RecordService.Evaluation
import RecordService.Exchange.Query
import RecordService.Json.Reader
import RecordService.Matching
import RecordService.Reading
import RecordService.Store.Service
import RecordService.Value.Order
import RecordService.Write.Submission
import RecordService.Write.Schedule
import RecordService.Rehearsal
import RecordService.Exchange.Write
import RecordService.Conformance
import RecordService.Proofs.Answer
import RecordService.Proofs.Call
import RecordService.Proofs.Coercion.Admitted
import RecordService.Proofs.Coercion.RoundTrip
import RecordService.Proofs.Filter.Meaning
import RecordService.Proofs.Markup.Escaping
import RecordService.Proofs.Markup.RoundTrip
import RecordService.Proofs.Number.Decimal.Text
import RecordService.Proofs.Number.Decimal.Value
import RecordService.Proofs.Pipeline.Conservation
import RecordService.Proofs.Pipeline.Interleaving
import RecordService.Proofs.Pipeline.Items
import RecordService.Proofs.Pipeline.Tickets
import RecordService.Proofs.Query.Markup
import RecordService.Proofs.Store.Calls
import RecordService.Proofs.Store.Writing
import RecordService.Proofs.Text.Numeral
import RecordService.Proofs.Text.Run
import RecordService.Proofs.Time.Text
import RecordService.Proofs.Uuid
import RecordService.Proofs.Store.WellFormed
import RecordService.Proofs.Reading.Pages
import RecordService.Proofs.Store.Submission
import RecordService.Proofs.Pipeline.Classification
import RecordService.Proofs.Pipeline.Pending
import RecordService.Proofs.Store.Applications
import RecordService.Proofs.Pipeline.AtMostOnce
import RecordService.Proofs.Store.Outcomes
import RecordService.Proofs.Pipeline.BatchSize
import RecordService.Proofs.Dict
import RecordService.Proofs.Store.Places
import RecordService.Proofs.Store.Independence
import RecordService.Proofs.Store.Upserts
import RecordService.Proofs.Reading.Counting
import RecordService.Proofs.Pipeline.Protection
import RecordService.Proofs.Reading.Limit
import RecordService.Proofs.Number.Decimal.Binary
import RecordService.Proofs.Filter.Complement
import RecordService.Proofs.Pipeline.Termination
import RecordService.Proofs.Pipeline.Workers
import RecordService.Proofs.Pipeline.Cancellation
import RecordService.Proofs.Pipeline.Retrying
import RecordService.Proofs.Text.Wildcard
import RecordService.Proofs.Text.Cursor
import RecordService.Proofs.Query.ReadBack
import RecordService.Proofs.Query.Conditions
import RecordService.Proofs.Filter.Conjunction
import RecordService.Proofs.Filter.ReadBack
import RecordService.Proofs.Value.Order
import RecordService.Proofs.Evaluation.Sorting
import RecordService.Proofs.Evaluation.Join
import RecordService.Proofs.Evaluation.InnerJoin
import RecordService.Proofs.Evaluation.OuterJoin
import RecordService.Proofs.Query.Selection
import RecordService.Proofs.Value.Symmetry
import RecordService.Proofs.Evaluation.KeyOrder
import RecordService.Proofs.Coercion.Agreement
import RecordService.Proofs.Coercion.Idempotence
import RecordService.Proofs.Coercion.Suitable
import RecordService.Proofs.Number.Binary64
import RecordService.Proofs.Coercion.Integers
import RecordService.Proofs.Store.Batches
import RecordService.Proofs.Store.Frame
import RecordService.Proofs.Store.Faults
import RecordService.Proofs.Pipeline.Records
import RecordService.Proofs.Pipeline.Validity
import RecordService.Proofs.Reading.Matching
import RecordService.Proofs.Store.Retrieval
import RecordService.Proofs.Pipeline.Marks
import RecordService.Proofs.Reading.Names
import RecordService.Proofs.Pipeline.Batches
import RecordService.Proofs.Filter.Shape
import RecordService.Proofs.Filter.Negation
import RecordService.Proofs.Filter.Ownership
import RecordService.Proofs.Join.Nesting
import RecordService.Proofs.Join.Check
import RecordService.Proofs.Join.Names
import RecordService.Proofs.Join.Orientation
import RecordService.Proofs.Time.Calendar
import RecordService.Proofs.Coercion.Display
import RecordService.Proofs.Write.Delay
import RecordService.Proofs.Text.Grouped
import RecordService.Proofs.Time.Forms
