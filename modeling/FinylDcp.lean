import FinylDcp.Runs
import FinylDcp.Interleaving
import FinylDcp.Tables
import FinylDcp.Repayments
import FinylDcp.Pricing
import FinylDcp.OverdueJobs
import FinylDcp.Disbursement
import FinylDcp.PaymentEffects
import FinylDcp.Matching
import FinylDcp.PaymentApprovals
import FinylDcp.PaymentRoutes
import FinylDcp.BalanceLaw
import FinylDcp.EarlySettlement
import FinylDcp.PaymentReferences
import FinylDcp.ReferenceEffects
import FinylDcp.DeliveryCases
import FinylDcp.OncePerReference
import FinylDcp.UnitOfWork
import FinylDcp.PaymentSessions
import FinylDcp.PaymentRows
import FinylDcp.LoanSerialization
import FinylDcp.ReferenceRows
import FinylDcp.ReferenceRace
import FinylDcp.PayoutEffects
import FinylDcp.PayoutSafety
import FinylDcp.PayoutRace
import FinylDcp.SuspenseEffects
import FinylDcp.DecisionEffects
import FinylDcp.MoneyDesk
import FinylDcp.SuspenseDisposal
import FinylDcp.RequestPayments
import FinylDcp.SuspenseHolds
import FinylDcp.TenantIsolation
import FinylDcp.WebhookQueue
import FinylDcp.PaymentWebhooks
import FinylDcp.WebhookDurability
import FinylDcp.Redelivery
import FinylDcp.ReceiptConfluence
import FinylDcp.OverdueRace
import FinylDcp.Lending
import FinylDcp.PayoutSweeps
import FinylDcp.Office
import FinylDcp.Postings
import FinylDcp.RequestPostings
import FinylDcp.DecisionPostings
import FinylDcp.PaybillNumbers
import FinylDcp.Permissions
import FinylDcp.MoneyPermissions
import FinylDcp.ClientEdits
import FinylDcp.LoanDecisionRace
import FinylDcp.DecimalOrder
import FinylDcp.EarlyPayoff
import FinylDcp.CompletedPeriods
import FinylDcp.PaymentConservation
import FinylDcp.ComponentTotals
import FinylDcp.LoanLifecycle
import FinylDcp.LoanStages
import FinylDcp.BorrowerLocks
import FinylDcp.ClientUpdates
import FinylDcp.IdentityLock
import FinylDcp.QuotedPrice
import FinylDcp.OfficeTurns
import FinylDcp.OfficeBooks
import FinylDcp.LoanRefunds
import FinylDcp.OwedBreakdown
import FinylDcp.LoanTerm
import FinylDcp.GeneralLedger
import FinylDcp.UnambiguousMatch
import FinylDcp.InDuplum
import FinylDcp.SuspenseAllocation
import FinylDcp.Columns
import FinylDcp.Literals
import FinylDcp.PaymentUpload
import FinylDcp.PaymentColumns
import FinylDcp.UploadOutcomes
import FinylDcp.StoredReferences
import FinylDcp.Traces
import FinylDcp.SlidingWindow
import FinylDcp.RateLimits
import FinylDcp.OneTimeCodes
import FinylDcp.Fences
import FinylDcp.SignIn
import FinylDcp.LoginLockout
import FinylDcp.Sessions
import FinylDcp.SessionRevocation
import FinylDcp.ConsentCodes
import FinylDcp.ConsentBinding
import FinylDcp.Calendar
import FinylDcp.CbkExtracts
import FinylDcp.CbkSubmissions
import FinylDcp.CbkCompleteness
import FinylDcp.AmlScan
import FinylDcp.AmlExact
import FinylDcp.KycDecisions
import FinylDcp.KycSoundness
import FinylDcp.Listings
import FinylDcp.MpesaStatement
import FinylDcp.StatementContinuity
import FinylDcp.LedgerWindows
import FinylDcp.LedgerBalance
import FinylDcp.SuspenseOutflow
import FinylDcp.ReceiptsBooked
import FinylDcp.CashCounted
import FinylDcp.PositionCodes
import FinylDcp.CheckDigits
import FinylDcp.PhoneSpellings
import FinylDcp.BankStatements
import FinylDcp.Encodings
import FinylDcp.Keyrings
import FinylDcp.FieldEncryption
import FinylDcp.Calls
import FinylDcp.PromiseReminders
import FinylDcp.FilledFields
import FinylDcp.MachineReadable
import FinylDcp.MrzRoundTrip
import FinylDcp.KeyedTables
import FinylDcp.ClientWallets
import FinylDcp.WalletLocks
import FinylDcp.ValidationFlag
import FinylDcp.MigrationRuns
import FinylDcp.LoanApprovers
import FinylDcp.LedgerFiles
import FinylDcp.TrustedDevices
import FinylDcp.MessageUsage
import FinylDcp.HourlyJobs
import FinylDcp.OfficeTenants
import FinylDcp.LeadConversions
import FinylDcp.CreditPipeline
