import AllocTrace.Main
import AllocTrace.Proofs.Order.Ascending
import AllocTrace.Proofs.Amount.Totals
import AllocTrace.Proofs.Table.Lookup
import AllocTrace.Proofs.Table.Accesses
import AllocTrace.Proofs.Table.Histories
import AllocTrace.Proofs.Table.Quantities
import AllocTrace.Proofs.Table.Schedules
import AllocTrace.Proofs.Text.Numerals
import AllocTrace.Proofs.Text.Integers
import AllocTrace.Proofs.Csv.Splitting
import AllocTrace.Proofs.Phase.Reading
import AllocTrace.Proofs.Phase.Decoding
import AllocTrace.Proofs.Text.Encoding
import AllocTrace.Proofs.Text.ByteOrder
import AllocTrace.Proofs.Csv.Lines
import AllocTrace.Proofs.Phase.Writing
import AllocTrace.Proofs.Phase.Insertion
import AllocTrace.Proofs.Directory.Discovery
import AllocTrace.Proofs.Directory.Extensions
import AllocTrace.Proofs.Pipeline.Reading
import AllocTrace.Proofs.Pipeline.Results
import AllocTrace.Proofs.Amount.Grouping
import AllocTrace.Proofs.Summary.Series
import AllocTrace.Proofs.Summary.Highlights
import AllocTrace.Proofs.Summary.Points
import AllocTrace.Proofs.Report.Layout
import AllocTrace.Proofs.Report.ReadBack
import AllocTrace.Proofs.Table.Entries
import AllocTrace.Proofs.Pipeline.Conservation
import AllocTrace.Proofs.Pipeline.Listings
import AllocTrace.Proofs.Pipeline.Classification
import AllocTrace.Proofs.Table.IdlePhases
import AllocTrace.Proofs.Table.Footprint
import AllocTrace.Proofs.Table.Growth
import AllocTrace.Proofs.Table.PhaseBoundaries
import AllocTrace.Proofs.Summary.Collapse
import AllocTrace.Proofs.Pipeline.EmptyPhase
import AllocTrace.Proofs.Command.ChartFile
import AllocTrace.Proofs.Phase.Accounting
import AllocTrace.Proofs.Pipeline.Detection
import AllocTrace.Proofs.Csv.Interruption
import AllocTrace.Proofs.Phase.Interruption
import AllocTrace.Proofs.Command.Reporting
import AllocTrace.Proofs.Chart.Ticks
import AllocTrace.Proofs.Chart.Layout
import AllocTrace.Proofs.Chart.Panels
