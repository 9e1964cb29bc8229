import Repricing.Codec.Report
import Repricing.Import.Config
import Repricing.Import.Supplier
import Repricing.Proofs.Catalog.Lookup
import Repricing.Proofs.Catalog.Prices
import Repricing.Proofs.Matching.Refresh
import Repricing.Proofs.Reconcile.Cases
import Repricing.Proofs.Import.Accepted
import Repricing.Proofs.Import.Tally
import Repricing.Proofs.Import.ChunkedRun
import Repricing.Proofs.Import.AuditLog
import Repricing.Proofs.Import.PriceBlindness
import Repricing.Proofs.Import.RowIndependence
import Repricing.Proofs.Reconcile.History
import Repricing.Proofs.Import.Accounting
import Repricing.Proofs.Import.Cancelled
import Repricing.Proofs.Import.EntryHistory
import Repricing.Proofs.Import.Reordering
import Repricing.Proofs.Float.Order
import Repricing.Proofs.Float.Bits
import Repricing.Proofs.Float.Rounding
import Repricing.Proofs.Float.Bounds
import Repricing.Proofs.Matching.Confidence
import Repricing.Proofs.Matching.Postings
import Repricing.Proofs.Matching.TokenLookup
import Repricing.Proofs.Matching.ExactMatch
import Repricing.Proofs.Reconcile.Branches
import Repricing.Proofs.Import.Decisions
import Repricing.Proofs.Import.ExactIsbn
import Repricing.Proofs.Import.Validation
import Repricing.Proofs.Matching.Ranking
import Repricing.Proofs.Import.WellFormed
import Repricing.Proofs.Float.Multiples
import Repricing.Proofs.Matching.Retrieval
import Repricing.Proofs.Import.Ambiguity
import Repricing.Proofs.Catalog.Reload
import Repricing.Proofs.Import.Reload
import Repricing.Proofs.Import.FinalPrices
import Repricing.Proofs.Import.Repetition
import Repricing.Proofs.Import.Preview
import Repricing.Proofs.Reconcile.Verdict
import Repricing.Proofs.Reconcile.Safeguards
import Repricing.Proofs.Text.Blank
import Repricing.Proofs.PriceList.Currency
import Repricing.Proofs.Matching.Scored
import Repricing.Proofs.Matching.Bounds
import Repricing.Proofs.Reconcile.Tolerances
import Repricing.Proofs.Import.Currencies
import Repricing.Proofs.Text.Folding
import Repricing.Proofs.Matching.BareIsbn
import Repricing.Proofs.PriceList.Conversion
import Repricing.Proofs.Matching.RowKeys
import Repricing.Proofs.Import.Issues
import Repricing.Proofs.Import.ValidationReports
import Repricing.Proofs.PriceList.Columns
import Repricing.Proofs.Import.SupplierImport
import Repricing.Proofs.Import.Deviations
import Repricing.Proofs.Catalog.DeliveryOrder
import Repricing.Proofs.Float.TotalOrder
import Repricing.Proofs.Matching.BitRanking
import Repricing.Proofs.Reconcile.CandidateOrder
import Repricing.Proofs.Text.Refolding
import Repricing.Proofs.Float.Finite
import Repricing.Proofs.Codec.RoundTrip
import Repricing.Proofs.Codec.BatchId
import Repricing.Proofs.Codec.Records
import Repricing.Proofs.Codec.Policies
import Repricing.Proofs.Codec.Defaults
import Repricing.Proofs.Import.ChunkSize
import Repricing.Proofs.Float.Intervals
import Repricing.Proofs.Float.Nearest
import Repricing.Proofs.Float.Scientific
import Repricing.Proofs.Float.Ratios
import Repricing.Proofs.Matching.EditDistance
import Repricing.Proofs.Matching.Similarity
import Repricing.Proofs.Decimal.Numeral
import Repricing.Proofs.PriceList.Prices
import Repricing.Proofs.Decimal.Layout
import Repricing.Proofs.Decimal.Shortest
import Repricing.Proofs.Decimal.Binary
import Repricing.Proofs.Json.Scalars
import Repricing.Proofs.Json.Printer
import Repricing.Proofs.Codec.Lossless
import Repricing.Proofs.Codec.Report
