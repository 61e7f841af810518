import IdentifyDataLocks.Linq
import IdentifyDataLocks.AcademicYear
import IdentifyDataLocks.CollectionPeriodMapping
import IdentifyDataLocks.CollectionPeriodReport
import IdentifyDataLocks.ProviderFilter
import IdentifyDataLocks.CollectionPeriodsByYear
import IdentifyDataLocks.DataLockService
import IdentifyDataLocks.ExternalServices
import IdentifyDataLocks.LearnerReportProvider
import IdentifyDataLocks.LearnerPage
import IdentifyDataLocks.LearnerRequest
import IdentifyDataLocks.ActiveDataLocks
import IdentifyDataLocks.RowOrder
import IdentifyDataLocks.PriceEpisodes
import IdentifyDataLocks.PauseDates
import IdentifyDataLocks.ActiveApprenticeship
import IdentifyDataLocks.WebModel
import IdentifyDataLocks.PaymentsLearner
import IdentifyDataLocks.PaymentTotals
import IdentifyDataLocks.PaymentYears
import IdentifyDataLocks.LatestSubmission
import IdentifyDataLocks.Regex
import IdentifyDataLocks.TypeString
import IdentifyDataLocks.ProgrammeCodes
import IdentifyDataLocks.DataLockLinks
import IdentifyDataLocks.Index
import IdentifyDataLocks.RequestOutcome
import IdentifyDataLocks.StoredEvidence
import IdentifyDataLocks.ReportGrowth
import IdentifyDataLocks.StoreRows
import IdentifyDataLocks.Numerals
import IdentifyDataLocks.LearnerSearch
import IdentifyDataLocks.DataLockTable
import IdentifyDataLocks.PrintedRows
import IdentifyDataLocks.StoreGrowth
import IdentifyDataLocks.Groups
import IdentifyDataLocks.LearnerDetails
import IdentifyDataLocks.PaymentsComparison
import IdentifyDataLocks.PaymentsOrder
