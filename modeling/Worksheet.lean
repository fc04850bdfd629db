import Worksheet.Service.Http
import Worksheet.Service.Socket
import Worksheet.Settings
import Worksheet.Number.Mixed
import Worksheet.Number.Significant
import Worksheet.Proofs.Insertion
import Worksheet.Proofs.Dates
import Worksheet.Proofs.Limits
import Worksheet.Proofs.Moments
import Worksheet.Proofs.Readings
import Worksheet.Proofs.Spans
import Worksheet.Proofs.CalendarLimits
import Worksheet.Proofs.Idempotence
import Worksheet.Proofs.Undoing
import Worksheet.Proofs.Numbering
import Worksheet.Proofs.Copying
import Worksheet.Proofs.Stripping
import Worksheet.Proofs.Dollars
import Worksheet.Proofs.Rereading
import Worksheet.Proofs.Meaning
import Worksheet.Proofs.Agreement
import Worksheet.Proofs.ShownTokens
import Worksheet.Proofs.Conversation
import Worksheet.Proofs.Overlooked
import Worksheet.Proofs.NextBlocks
import Worksheet.Proofs.SpanSums
import Worksheet.Proofs.BlockQuestions
import Worksheet.Proofs.GroupedAmounts
import Worksheet.Proofs.ReadNumbers
import Worksheet.Proofs.ClockUnits
import Worksheet.Proofs.DayRanges
import Worksheet.Proofs.Chains
import Worksheet.Proofs.RenderedLines
import Worksheet.Proofs.TruthValues
import Worksheet.Proofs.Cents
import Worksheet.Proofs.LiveRates
import Worksheet.Proofs.PercentageFormulas
import Worksheet.Proofs.Unspaced
import Worksheet.Proofs.Layouts
import Worksheet.Proofs.FoundAgain
import Worksheet.Proofs.FixedSpacing
import Worksheet.Proofs.StrippedLines
import Worksheet.Proofs.Lookahead
import Worksheet.Proofs.Powers
import Worksheet.Proofs.ShownDurations
