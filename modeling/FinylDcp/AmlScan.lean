import FinylDcp.Decimal
import FinylDcp.Windows
import Mathlib.Data.List.Sort

/-!
# AML monitoring

The scan of a tenant's repayments for structuring, for rapid small repayments and for velocity.
Amounts are in cents, dates in microseconds; what the code computes in doubles is taken as exact.
-/
namespace FinylDcp
open FinylDcp.Windows FinylDcp.Decimal

/-- A repayment of a loan; only what was applied, and so is positive, becomes one. -/
structure AmlRepayment where
  tenantId : ℕ
  loanId : ℕ
  amount : ℕ
  paymentDate : ℤ
  deriving DecidableEq

inductive AmlFlagType
  | structuring | rapidSmallRepayments | velocity
  deriving DecidableEq

structure AmlFlag where
  tenantId : ℕ
  loanId : ℕ
  borrowerId : ℕ
  flagType : AmlFlagType
  severity : String
  details : String
  flaggedAt : ℤ
  reviewed : Bool
  deriving DecidableEq

/-- What a scan reads: the borrower of each loan, the repayments of these loans and the flags. -/
structure AmlBook where
  loans : List ℕ
  repayments : List AmlRepayment
  flags : List AmlFlag
  loans_known : ∀ r ∈ repayments, r.loanId < loans.length

/-- A row of the data frame, which joins a repayment with its loan. -/
structure AmlRow where
  loanId : ℕ
  borrowerId : ℕ
  amount : ℕ
  paymentDate : ℤ
  deriving DecidableEq

/-- `REPORT_THRESHOLD` -/
def reportThreshold : ℕ := 1000000

/-- `STRUCT_LO` -/
def structLo : ℕ := 800000

def hours (n : ℤ) : ℤ := n * 3600 * 1000000

/-- The rows of the tenant, by loan and by date. -/
def AmlBook.rows (b : AmlBook) (tenantId : ℕ) : List AmlRow :=
  ((b.repayments.filter (fun r => r.tenantId = tenantId)).filterMap (fun r =>
    b.loans[r.loanId]?.map (fun borrowerId => ⟨r.loanId, borrowerId, r.amount, r.paymentDate⟩))
    ).insertionSort (fun x y => x.loanId < y.loanId ∨ x.loanId = y.loanId ∧
      x.paymentDate ≤ y.paymentDate)

/-- The keys of `df.groupby("loan_id")`. -/
def groupKeys (df : List AmlRow) : List ℕ := (df.map (·.loanId)).dedup.insertionSort (· ≤ ·)

/-- The group of a loan, sorted by date. -/
def group (df : List AmlRow) (loanId : ℕ) : List AmlRow :=
  (df.filter (fun x => x.loanId = loanId)).insertionSort
    (fun x y => x.paymentDate ≤ y.paymentDate)

/-- The dates of a part of the group, in order. -/
def sortedDates (rows : List AmlRow) : List ℤ :=
  (rows.map (·.paymentDate)).insertionSort (· ≤ ·)

/-- The digits of a number with a comma before each three, as the format `,` writes them. -/
def commas (n : ℕ) : String :=
  let digits := (toString n).toList
  String.ofList (digits.zipIdx.flatMap (fun x =>
    if x.2 ≠ 0 ∧ (digits.length - x.2) % 3 = 0 then [',', x.1] else [x.1]))

example : commas 1234567 = "1,234,567" ∧ commas 150000 = "150,000" ∧ commas 999 = "999" := by
  decide

def inStructuringRange (x : AmlRow) : Bool := structLo ≤ x.amount && x.amount < reportThreshold

def isSmall (x : AmlRow) : Bool := x.amount < 200000

/-- STRUCTURING: the details of the flag, when three payments under the reporting threshold come
within 48 hours. -/
def structuringDetails (grp : List AmlRow) : Option String :=
  let sub := grp.filter inStructuringRange
  if 3 ≤ sub.length ∧ closeRun 2 (hours 48) (sortedDates sub) then
    some (toString sub.length ++ " repayments of KES " ++ commas (structLo / 100) ++ "–" ++
      commas (reportThreshold / 100 - 1) ++ " within 48h — possible structuring below the KES " ++
      commas (reportThreshold / 100) ++ " reporting threshold.")
  else none

/-- RAPID SMALL REPAYMENTS: the same of five payments under 2,000 within 24 hours. -/
def rapidDetails (grp : List AmlRow) : Option String :=
  let small := grp.filter isSmall
  if 5 ≤ small.length ∧ closeRun 4 (hours 24) (sortedDates small) then
    some (toString small.length ++
      " micro-repayments (< KES 2,000) within 24h — unusual repayment velocity.")
  else none

/-- The total of the payments from a row's date to 24 hours after it. -/
def windowSum (grp : List AmlRow) (x : AmlRow) : ℕ :=
  windowTotal AmlRow.paymentDate AmlRow.amount (hours 24) grp x.paymentDate

/-- VELOCITY: the first window of 24 hours, of a group of two or more, with a total above
100,000. -/
def velocityDetails (grp : List AmlRow) : Option String :=
  if 2 ≤ grp.length then
    (grp.find? (fun x => 10000000 < windowSum grp x)).map (fun x =>
      "KES " ++ commas (roundHalfEven (windowSum grp x / 100)).toNat ++
        " repaid within 24h — exceeds velocity threshold KES 100,000.")
  else none

/-- The three rules in the order of the scan. -/
def amlRules : List AmlFlagType := [.structuring, .rapidSmallRepayments, .velocity]

def AmlFlagType.details : AmlFlagType → List AmlRow → Option String
  | .structuring => structuringDetails
  | .rapidSmallRepayments => rapidDetails
  | .velocity => velocityDetails

def AmlFlagType.severity : AmlFlagType → String
  | .structuring => "high"
  | .rapidSmallRepayments => "medium"
  | .velocity => "high"

/-- The loan and the type of a flag. -/
def AmlFlag.key (f : AmlFlag) : ℕ × AmlFlagType := (f.loanId, f.flagType)

/-- `existing` and `created` of the scan. -/
structure ScanState where
  existing : List (ℕ × AmlFlagType)
  created : List AmlFlag

/-- `add_flag` -/
def ScanState.addFlag (s : ScanState) (flag : AmlFlag) : ScanState :=
  if flag.key ∈ s.existing then s else ⟨flag.key :: s.existing, s.created ++ [flag]⟩

/-- The flag that a rule finds in the group of a loan. -/
def foundFlag (tenantId : ℕ) (now : ℤ) (loanId : ℕ) (grp : List AmlRow) (rule : AmlFlagType) :
    Option AmlFlag :=
  (rule.details grp).map (fun details => {
    tenantId, loanId
    borrowerId := (grp.head?.map (·.borrowerId)).getD 0
    flagType := rule
    severity := rule.severity
    details
    flaggedAt := now
    reviewed := false })

/-- The turn of a loan. -/
def ScanState.scanLoan (tenantId : ℕ) (now : ℤ) (df : List AmlRow) (s : ScanState) (loanId : ℕ) :
    ScanState :=
  (amlRules.filterMap (foundFlag tenantId now loanId (group df loanId))).foldl addFlag s

/-- `run_aml_scan`: the flags that were created. -/
def AmlBook.scan (b : AmlBook) (tenantId : ℕ) (now : ℤ) : List AmlFlag :=
  let df := b.rows tenantId
  let existing := (b.flags.filter (fun f => f.tenantId = tenantId)).map (·.key)
  ((groupKeys df).foldl (ScanState.scanLoan tenantId now df) ⟨existing, []⟩).created

/-- The book after a scan. -/
def AmlBook.afterScan (b : AmlBook) (tenantId : ℕ) (now : ℤ) : AmlBook :=
  { b with flags := b.flags ++ b.scan tenantId now }

end FinylDcp
