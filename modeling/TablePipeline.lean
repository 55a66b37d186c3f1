import TablePipeline.Func.Stock
import TablePipeline.Proofs.Containment
import TablePipeline.Proofs.EquiJoin
import TablePipeline.Proofs.Grouping
import TablePipeline.Proofs.NearestJoin
import TablePipeline.Proofs.OutputFile
import TablePipeline.Proofs.Preview
import TablePipeline.Proofs.Replay
import TablePipeline.Proofs.SinglePass
import TablePipeline.Workspace
import TablePipeline.Proofs.ExternalSort
import TablePipeline.Column.Listing
import TablePipeline.Proofs.Evaluable
import TablePipeline.Proofs.BlockSorting
import TablePipeline.Proofs.BlockStream
import TablePipeline.Proofs.CatalogColumns
import TablePipeline.Proofs.CatalogListing
import TablePipeline.Proofs.DelimitedText
import TablePipeline.Proofs.FileRoundTrip
import TablePipeline.Proofs.GroupSelection
import TablePipeline.Proofs.JoinSelection
import TablePipeline.Proofs.LaterEdits
import TablePipeline.Proofs.RowAccounting
import TablePipeline.Proofs.ProbeRows
import TablePipeline.Proofs.OutputNames
import TablePipeline.Proofs.DryRun
import TablePipeline.Proofs.SortedOutput
import TablePipeline.Proofs.Checkpoints
import TablePipeline.Proofs.Layout
import TablePipeline.Proofs.JoinNames
import TablePipeline.Proofs.UnorderedGroups
import TablePipeline.Proofs.FailedCalls
import TablePipeline.Proofs.FilledSlots
import TablePipeline.Proofs.FilterValues
import TablePipeline.Proofs.FormattedColumns
import TablePipeline.Proofs.IntegerCells
import TablePipeline.Proofs.DateColumns
import TablePipeline.Proofs.ExactMatches
import TablePipeline.Proofs.SortFailures
import TablePipeline.Proofs.Completion
import TablePipeline.Proofs.RowComparison
