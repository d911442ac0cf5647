import Rollup.Cluster.Http
import Rollup.CommandLine.Run
import Rollup.Main
import Rollup.Proofs.Answer.Following
import Rollup.Proofs.Answer.Projection
import Rollup.Proofs.Client
import Rollup.Proofs.Cluster.SearchPath
import Rollup.Proofs.Grouping.DateHistogram
import Rollup.Proofs.Grouping.Ranking
import Rollup.Proofs.Plan.Restated
import Rollup.Proofs.Request.RoundTrip
import Rollup.Session
import Rollup.Sql.Tree
import Rollup.Proofs.Addressing
import Rollup.Proofs.Text.Like
import Rollup.Proofs.Grouping.TopTerms
import Rollup.Proofs.Number.Reading
import Rollup.Proofs.Grouping.Ranges
import Rollup.Proofs.Grouping.Limit
import Rollup.Proofs.Calendar.Tiling
import Rollup.Proofs.Plan.DateSteps
import Rollup.Proofs.Grouping.KeyRange
import Rollup.Proofs.Order.Bounds
import Rollup.Proofs.Order.Integers
import Rollup.Proofs.Grouping.Percentiles
import Rollup.Proofs.Grouping.Distinct
import Rollup.Proofs.Calendar.Expressions
import Rollup.Proofs.Calendar.QuotedText
import Rollup.Proofs.Calendar.WrittenDates
import Rollup.Proofs.Sql.ErrorPlaces
import Rollup.Proofs.Sql.Nesting
import Rollup.Proofs.Sql.Progress
import Rollup.Proofs.Order.Preorders
