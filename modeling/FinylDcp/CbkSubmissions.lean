import FinylDcp.Calendar
import FinylDcp.Traces

/-!
# Monthly submissions to the central bank

A submission runs the five datasets of a month in their sequence and logs each. The daily job
submits for every tenant in the filing window that has nothing logged for the month.
-/
namespace FinylDcp
open FinylDcp.Calendar FinylDcp.Runs FinylDcp.Traces

inductive Dataset
  | customer
  | loan
  | repayment
  | overdue
  | complaint
  deriving DecidableEq

def datasetSequence : List Dataset := [.customer, .loan, .repayment, .overdue, .complaint]

/-- `DATASET_LABELS` -/
def Dataset.label : Dataset → String
  | .customer => "Customer Data"
  | .loan => "Digital Loan Accounts"
  | .repayment => "Loan Repayments"
  | .overdue => "Overdue / Non-Performing Loans"
  | .complaint => "Customer Complaints"

/-- A row of `cbk_submission_logs`. -/
structure CbkSubmissionLog where
  tenantId : ℕ
  reportingMonth : Date
  datasetName : String
  status : String
  rowsSubmitted : ℕ
  submittedBy : Option ℕ
  cbkRequestId : Option String
  errorDetail : Option String
  deriving DecidableEq

/-- What a dataset meets: its extract fails, the bank answers, the configuration or the
transport fails, or the run breaks off while the answer is out. -/
inductive DatasetOutcome
  | extractFailed (error : String)
  | answered (rows statusCode : ℕ) (cbkRequestId : Option String)
  | failed (rows : ℕ) (error : String)
  | brokenOff (rows : ℕ)
  deriving DecidableEq

/-- An entry of the result's `datasets`. -/
structure DatasetResult where
  name : String
  rows : ℕ
  status : String
  error : Option String
  deriving DecidableEq

/-- `200 <= resp.status_code < 300` -/
def answerOk (statusCode : ℕ) : Bool := 200 ≤ statusCode && statusCode < 300

def answerStatus (statusCode : ℕ) : String := if answerOk statusCode then "submitted" else "error"

/-- `HTTP` and the code, for an answer that is not ok. -/
def answerError (statusCode : ℕ) : Option String :=
  if answerOk statusCode then none else some s!"HTTP {statusCode}"

section Submission

variable (tenantId : ℕ) (reportingMonth : Date) (submittedBy : Option ℕ)
  (outcome : Dataset → DatasetOutcome)

/-- The log row of a dataset. -/
def datasetLog (key : Dataset) : CbkSubmissionLog :=
  match outcome key with
  | .extractFailed error =>
    { tenantId := tenantId, reportingMonth := reportingMonth, datasetName := key.label,
      status := "error", rowsSubmitted := 0, submittedBy := submittedBy, cbkRequestId := none,
      errorDetail := some s!"extract failed: {error}" }
  | .answered rows statusCode cbkRequestId =>
    { tenantId := tenantId, reportingMonth := reportingMonth, datasetName := key.label,
      status := answerStatus statusCode, rowsSubmitted := rows, submittedBy := submittedBy,
      cbkRequestId := cbkRequestId, errorDetail := answerError statusCode }
  | .failed rows error =>
    { tenantId := tenantId, reportingMonth := reportingMonth, datasetName := key.label,
      status := "error", rowsSubmitted := rows, submittedBy := submittedBy, cbkRequestId := none,
      errorDetail := some error }
  | .brokenOff rows =>
    { tenantId := tenantId, reportingMonth := reportingMonth, datasetName := key.label,
      status := "pending", rowsSubmitted := rows, submittedBy := submittedBy,
      cbkRequestId := none, errorDetail := none }

/-- The result of a dataset; a run that breaks off has none for it. -/
def datasetResult (key : Dataset) : Option DatasetResult :=
  match outcome key with
  | .extractFailed error => some ⟨key.label, 0, "error", some error⟩
  | .answered rows statusCode _ => some ⟨key.label, rows, answerStatus statusCode, none⟩
  | .failed rows error => some ⟨key.label, rows, "error", some error⟩
  | .brokenOff _ => none

/-- The sequence goes on after the dataset. -/
def DatasetOutcome.goesOn : DatasetOutcome → Bool
  | .extractFailed _ => true
  | .answered .. => true
  | .failed .. => false
  | .brokenOff _ => false

/-- The loop of `run_monthly_submission` over the datasets that are left. -/
def submitDatasets (logs : List CbkSubmissionLog) :
    List Dataset → List DatasetResult × List CbkSubmissionLog
  | [] => ([], logs)
  | key :: keys =>
    let logs := logs ++ [datasetLog tenantId reportingMonth submittedBy outcome key]
    let result := (datasetResult outcome key).toList
    if (outcome key).goesOn then
      let (results, logs) := submitDatasets logs keys
      (result ++ results, logs)
    else (result, logs)

/-- `run_monthly_submission` -/
def runMonthlySubmission (logs : List CbkSubmissionLog) :
    List DatasetResult × List CbkSubmissionLog :=
  submitDatasets tenantId reportingMonth submittedBy outcome logs datasetSequence

end Submission

/-- `gdi_nil_submission`: one dataset without rows. -/
def nilSubmission (logs : List CbkSubmissionLog) (tenantId : ℕ) (reportingMonth : Date)
    (submittedBy : Option ℕ) (key : Dataset) (outcome : DatasetOutcome) :
    List DatasetResult × List CbkSubmissionLog :=
  let name := key.label ++ " (Nil)"
  let row (status : String) (errorDetail : Option String) : CbkSubmissionLog :=
    { tenantId := tenantId, reportingMonth := reportingMonth, datasetName := name,
      status := status, rowsSubmitted := 0, submittedBy := submittedBy, cbkRequestId := none,
      errorDetail := errorDetail }
  match outcome with
  | .answered _ statusCode _ =>
    ([⟨name, 0, answerStatus statusCode, none⟩],
      logs ++ [row (answerStatus statusCode) (answerError statusCode)])
  | .failed _ error => ([⟨name, 0, "error", some error⟩], logs ++ [row "error" (some error)])
  | _ => ([], logs ++ [row "pending" none])

/-- The filing window: the 5th to the 10th, on a weekday. -/
def inFilingWindow (today : Date) : Bool :=
  5 ≤ today.day && today.day ≤ 10 && today.weekday < 5

/-- The first day of the month before. -/
def lastMonth (today : Date) : Date := today.toMonth.previous.firstDay

/-- The tenants with the module enabled; a tenant has the module once. -/
structure EnabledTenants where
  ids : List ℕ
  nodup : ids.Nodup

/-- What the job did for a tenant. -/
structure TenantVisit where
  tenantId : ℕ
  skipped : Bool
  results : List DatasetResult
  deriving DecidableEq

/-- Something is logged for the tenant and the month. -/
def logged (logs : List CbkSubmissionLog) (tenantId : ℕ) (month : Date) : Bool :=
  logs.any (fun row => row.tenantId = tenantId && row.reportingMonth = month)

/-- The loop of the job over the tenants that are left. -/
def visitTenants (month : Date) (outcome : ℕ → Dataset → DatasetOutcome)
    (logs : List CbkSubmissionLog) : List ℕ → List TenantVisit × List CbkSubmissionLog
  | [] => ([], logs)
  | tid :: tids =>
    if logged logs tid month then
      let (visits, logs) := visitTenants month outcome logs tids
      (⟨tid, true, []⟩ :: visits, logs)
    else
      let (results, logs) := runMonthlySubmission tid month none (outcome tid) logs
      let (visits, logs) := visitTenants month outcome logs tids
      (⟨tid, false, results⟩ :: visits, logs)

/-- `run_cbk_monthly_gdi_submit` -/
def runCbkMonthlyGdiSubmit (logs : List CbkSubmissionLog) (today : Date)
    (enabled : EnabledTenants) (outcome : ℕ → Dataset → DatasetOutcome) :
    List TenantVisit × List CbkSubmissionLog :=
  if inFilingWindow today then visitTenants (lastMonth today) outcome logs enabled.ids
  else ([], logs)

inductive CbkEvent
  | tick (today : Date) (enabled : EnabledTenants) (outcome : ℕ → Dataset → DatasetOutcome)
  | submit (tenantId : ℕ) (reportingMonth : Date) (userId : ℕ)
    (outcome : Dataset → DatasetOutcome)
  | nil (tenantId : ℕ) (reportingMonth : Date) (userId : ℕ) (key : Dataset)
    (outcome : DatasetOutcome)

/-- The reporting month that the results of an event are about, and its visits; a manual
submission visits one tenant. -/
structure CbkReply where
  month : Date
  visits : List TenantVisit

/-- One event: a tick of the job, or a submission by hand. -/
def cbkStep (logs : List CbkSubmissionLog) : CbkEvent → CbkReply × List CbkSubmissionLog
  | .tick today enabled outcome =>
    let (visits, logs) := runCbkMonthlyGdiSubmit logs today enabled outcome
    (⟨lastMonth today, visits⟩, logs)
  | .submit tenantId reportingMonth userId outcome =>
    let (results, logs) := runMonthlySubmission tenantId reportingMonth (some userId) outcome logs
    (⟨reportingMonth, [⟨tenantId, false, results⟩]⟩, logs)
  | .nil tenantId reportingMonth userId key outcome =>
    let (results, logs) := nilSubmission logs tenantId reportingMonth (some userId) key outcome
    (⟨reportingMonth, [⟨tenantId, false, results⟩]⟩, logs)

/-- The log after the events, from an empty one. -/
abbrev cbkLogs (events : List CbkEvent) : List CbkSubmissionLog := run (after cbkStep) [] events

/-- The events with what they did. -/
abbrev cbkTrace (events : List CbkEvent) : List (CbkEvent × CbkReply) := trace cbkStep [] events

end FinylDcp
