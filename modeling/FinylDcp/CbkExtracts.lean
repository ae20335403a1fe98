import FinylDcp.Calendar
import FinylDcp.Text

/-!
# Monthly extracts for the central bank

The repayments and the complaints that a tenant reports for a month. Each extract bounds the
month by its first instant and by 23:59:59 of its last day.
-/
namespace FinylDcp
open FinylDcp.Calendar

/-- A repayment, with the account and the borrower of its loan; amounts are in cents. -/
structure GdiRepayment where
  tenantId : ℕ
  paymentDate : Datetime
  amount : ℤ
  principalComponent : Option ℤ
  interestComponent : Option ℤ
  mpesaRef : Option String
  loan : Option (Option String × ℕ)
  deriving DecidableEq

/-- A complaint, with the name and the phone of its borrower. -/
structure GdiComplaint where
  id : ℕ
  tenantId : ℕ
  ticketId : String
  borrowerId : Option ℕ
  borrower : Option (String × Option String)
  status : Option String
  description : Option String
  createdAt : Option Datetime
  resolvedAt : Option Datetime
  remedialAction : Option String
  deriving DecidableEq

/-- `_fmt_date`: the day, the month's three letters and the year. -/
def fmtDate (d : Date) : String :=
  let months := ["", "JAN", "FEB", "MAR", "APR", "MAY", "JUN", "JUL", "AUG", "SEP", "OCT", "NOV",
    "DEC"]
  (if d.day < 10 then "0" else "") ++ toString d.day ++ "-" ++ months.getD d.month "" ++ "-" ++
    toString d.year

def fmtDatetime (t : Option Datetime) : String := (t.map (fun t => fmtDate t.date)).getD ""

structure RepaymentRow where
  customerId : String
  accountNumber : String
  repaymentDate : String
  repaymentAmount : ℤ
  principalRepayment : ℤ
  interestChargedRepayment : ℤ
  accruedInterestBalance : ℤ
  latePaymentFeeCharge : ℤ
  paymentChannel : String
  paymentReference : String
  currency : String
  deriving DecidableEq

structure ComplaintRow where
  complaintReference : String
  customerId : String
  complainantName : String
  complainantClassification : String
  complainantContact : String
  accountNumber : String
  complaintNature : String
  complaintDetails : String
  complaintDate : String
  currentStatus : String
  resolutionDate : String
  remedialAction : String
  channelOfComplaint : String
  currency : String
  deriving DecidableEq

def GdiRepayment.row (r : GdiRepayment) : RepaymentRow where
  customerId := (r.loan.map (fun l => toString l.2)).getD ""
  accountNumber := (r.loan.bind (·.1)).getD ""
  repaymentDate := fmtDate r.paymentDate.date
  repaymentAmount := r.amount
  principalRepayment := r.principalComponent.getD 0
  interestChargedRepayment := r.interestComponent.getD 0
  accruedInterestBalance := 0
  latePaymentFeeCharge := 0
  paymentChannel := "CHN01"
  paymentReference := r.mpesaRef.getD ""
  currency := "KES"

def GdiComplaint.row (c : GdiComplaint) : ComplaintRow where
  complaintReference := if c.ticketId = "" then toString c.id else c.ticketId
  customerId := (c.borrowerId.map toString).getD ""
  complainantName := (c.borrower.map (·.1)).getD ""
  complainantClassification := "COMPCLS01"
  complainantContact := (c.borrower.bind (·.2)).getD ""
  accountNumber := ""
  complaintNature := "NOC01"
  complaintDetails := c.description.getD ""
  complaintDate := fmtDatetime c.createdAt
  currentStatus :=
    let status := Text.lower (c.status.getD "")
    if status = "resolved" ∨ status = "closed" then "CUSTCST04"
    else if status = "in_progress" then "CUSTCST02"
    else "CUSTCST01"
  resolutionDate := fmtDatetime c.resolvedAt
  remedialAction := c.remedialAction.getD ""
  channelOfComplaint := "CHN01"
  currency := "KES"

/-- The bounds that both extracts put around the reporting month. -/
def inReportingMonth (reportingMonth : Date) (t : Datetime) : Bool :=
  let start := reportingMonth.toMonth.opening
  let finish := reportingMonth.toMonth.closing
  start ≤ t && t ≤ finish

/-- The repayments that `extract_repayments` selects. -/
def monthRepayments (repayments : List GdiRepayment) (tenantId : ℕ) (reportingMonth : Date) :
    List GdiRepayment :=
  repayments.filter
    (fun r => r.tenantId = tenantId && inReportingMonth reportingMonth r.paymentDate)

/-- The complaints that `extract_complaints` selects. -/
def monthComplaints (complaints : List GdiComplaint) (tenantId : ℕ) (reportingMonth : Date) :
    List GdiComplaint :=
  complaints.filter (fun c => c.tenantId = tenantId &&
    c.createdAt.any (fun t => inReportingMonth reportingMonth t))

/-- `extract_repayments` -/
def extractRepayments (repayments : List GdiRepayment) (tenantId : ℕ) (reportingMonth : Date) :
    List RepaymentRow := (monthRepayments repayments tenantId reportingMonth).map (·.row)

/-- `extract_complaints` -/
def extractComplaints (complaints : List GdiComplaint) (tenantId : ℕ) (reportingMonth : Date) :
    List ComplaintRow := (monthComplaints complaints tenantId reportingMonth).map (·.row)

/-- An event is in the extract of a month, whichever day of it is the reporting date. -/
def InExtractOf (selects : Date → Prop) (m : Month) : Prop :=
  ∃ reportingMonth : Date, reportingMonth.toMonth = m ∧ selects reportingMonth

theorem inReportingMonth_iff {reportingMonth : Date} {t : Datetime} :
    inReportingMonth reportingMonth t = true ↔
      reportingMonth.toMonth.opening ≤ t ∧ t ≤ reportingMonth.toMonth.closing := by
  simp only [inReportingMonth, Bool.and_eq_true, decide_eq_true_eq]

/-- The extract of a month has an event exactly when its bounds have the timestamp. -/
theorem inExtractOf_iff {t : Datetime} {selects : Date → Prop}
    (h : ∀ d, selects d ↔ inReportingMonth d t = true) (m : Month) :
    InExtractOf selects m ↔ m.opening ≤ t ∧ t ≤ m.closing := by
  simp only [InExtractOf, h, inReportingMonth_iff]
  constructor
  · rintro ⟨d, rfl, hbounds⟩
    exact hbounds
  · intro hbounds
    exact ⟨m.firstDay, rfl, hbounds⟩

/-- A repayment and a complaint of the tenant are in the extract of exactly one month, unless
the timestamp is past 23:59:59 of the last day of its month. -/
theorem extracts_partition (repayments : List GdiRepayment) (complaints : List GdiComplaint)
    (tenantId : ℕ) :
    (∀ r ∈ repayments, r.tenantId = tenantId →
      ((∃! m, InExtractOf (fun d => r ∈ monthRepayments repayments tenantId d) m) ↔
        ¬ r.paymentDate.InClosingSecond)) ∧
    (∀ c ∈ complaints, c.tenantId = tenantId → ∀ t, c.createdAt = some t →
      ((∃! m, InExtractOf (fun d => c ∈ monthComplaints complaints tenantId d) m) ↔
        ¬ t.InClosingSecond)) := by
  constructor
  · intro r hr htenant
    have hselects : ∀ d, r ∈ monthRepayments repayments tenantId d ↔
        inReportingMonth d r.paymentDate = true := by
      intro d
      simp [monthRepayments, hr, htenant]
    rw [← existsUnique_month_iff]
    exact existsUnique_congr (inExtractOf_iff hselects)
  · intro c hc htenant t ht
    have hselects : ∀ d, c ∈ monthComplaints complaints tenantId d ↔
        inReportingMonth d t = true := by
      intro d
      simp [monthComplaints, hc, htenant, ht]
    rw [← existsUnique_month_iff]
    exact existsUnique_congr (inExtractOf_iff hselects)

/-- A repayment of 1,000 at a timestamp. -/
def repaymentAt (t : Datetime) : GdiRepayment :=
  ⟨1, t, 100000, some 90000, some 10000, some "QA1", some (some "FL/1", 4)⟩

/-- Half a second before the end of January 2026. -/
def januaryEnd : Datetime :=
  ⟨date 2026 1 31, clock 23 59 59 + 500000, by decide⟩

/-- No month reports a repayment in the closing second of January. -/
theorem closing_second_unreported :
    ¬ ∃! m, InExtractOf
      (fun d => repaymentAt januaryEnd ∈ monthRepayments [repaymentAt januaryEnd] 1 d) m := by
  intro h
  have hbounds : ∃! m : Month, m.opening ≤ januaryEnd ∧ januaryEnd ≤ m.closing :=
    (existsUnique_congr (inExtractOf_iff fun d => by simp [monthRepayments, repaymentAt])).mp h
  exact (existsUnique_month_iff januaryEnd).mp hbounds (by decide)

/-- Noon on a leap day. -/
def leapNoon : Datetime := ⟨date 2024 2 29, clock 12 0 0, by decide⟩

theorem extracts_partition_leap_day :
    ∃! m, InExtractOf
      (fun d => repaymentAt leapNoon ∈ monthRepayments [repaymentAt leapNoon] 1 d) m :=
  ((extracts_partition [repaymentAt leapNoon] [] 1).1 (repaymentAt leapNoon) (by decide)
    rfl).mpr (by decide)

end FinylDcp
