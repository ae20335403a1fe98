import FinylDcp.PayoutSafety
import Mathlib.Data.Finset.Card
import Mathlib.Data.Finset.Range
import Mathlib.Data.List.Nodup
import Std.Data.String.ToNat

/-!
# Applications and decisions

A loan begins as an application, which prices it at the product's terms of the day, and
is decided on before it is paid out. Products can be edited at any time.
-/
namespace FinylDcp
open Db Text

/-- What an application reads of a product beside its terms. -/
structure ProductListing where
  tenantId : ℕ
  active : Bool
  minAmount : ℤ
  maxAmount : ℤ
  deriving DecidableEq, Repr

/-- What an application reads of a client: the status of the profile, and the loan cycles
with an impact survey. -/
structure ClientProfile where
  status : String
  surveyedCycles : List ℕ
  deriving DecidableEq, Repr

/-- The other columns of products and clients, row by row. -/
structure Catalogue where
  listings : List ProductListing
  profiles : List ClientProfile
  deriving DecidableEq, Repr

/-- `POST /products`. -/
def createProduct (db : Db) (catalogue : Catalogue) (product : Product) (listing : ProductListing) :
    Db × Catalogue :=
  ({ db with products := db.products ++ [product] },
    { catalogue with listings := catalogue.listings ++ [listing] })

/-- `PUT /products/{id}`: every field of the body is set. -/
def updateProduct (db : Db) (catalogue : Catalogue) (tenantId productId : ℕ) (product : Product)
    (listing : ProductListing) : Except Failure (Db × Catalogue) :=
  if (catalogue.listings[productId]?).any (fun l => l.tenantId = tenantId) then
    let listings := catalogue.listings.modify productId
      (fun l => { listing with tenantId := l.tenantId })
    .ok ({ db with products := db.products.modify productId (fun _ => product) },
      { catalogue with listings := listings })
  else .error (.http 404 "Product not found")

structure LoanApplication where
  borrowerId : ℕ
  productId : ℕ
  principal : ℤ
  deriving DecidableEq, Repr

/-- Who applies: whether the client is in the data scope, and what the choice of a loan
officer comes to. -/
structure Applicant where
  seesClient : Bool
  officer : Except Failure Unit

def accountNumber (tenantId : ℕ) (year : ℤ) (seq : ℕ) : String :=
  s!"FL/FY{year}/{tenantId}/" ++ seq.repr

/-- A loan of the tenant has the account number. -/
def accountTaken (db : Db) (tenantId : ℕ) (number : String) : Bool :=
  db.loans.any (fun l => l.tenantId = tenantId && l.accountNumber = number)

/-- The first number from `seq` on that is not taken, `fuel` steps at most. -/
def nextAccountNumber (db : Db) (tenantId : ℕ) (year : ℤ) : ℕ → ℕ → String
  | 0, seq => accountNumber tenantId year seq
  | fuel + 1, seq =>
    if accountTaken db tenantId (accountNumber tenantId year seq) then
      nextAccountNumber db tenantId year fuel (seq + 1)
    else accountNumber tenantId year seq

/-- The number of a new loan: the count of the tenant's loans gives the first to try. -/
def newAccountNumber (db : Db) (tenantId : ℕ) (year : ℤ) : String :=
  nextAccountNumber db tenantId year db.loans.length
    ((db.loans.filter (fun l => l.tenantId = tenantId)).length + 1)

/-- A loan as its application leaves it. -/
def appliedLoan (tenantId : ℕ) (body : LoanApplication) (product : Product) (number : String) :
    Loan where
  tenantId := tenantId
  accountNumber := number
  borrowerId := body.borrowerId
  productId := body.productId
  principal := body.principal
  interestRate := product.interestRate
  status := .pending
  disbursementDate := none
  dueDate := none
  outstandingBalance := 0
  interestRebate := 0
  earlySettledAt := none
  pricingSnapshot := some (quoteBreakdown product body.principal)
  feesInBalance := 0
  penaltiesCharged := 0
  activeLock := false
  disbursedByUserId := none

/-- `POST /loans/apply`. -/
def applyForLoan (db : Db) (catalogue : Catalogue) (tenantId : ℕ) (applicant : Applicant)
    (body : LoanApplication) (year : ℤ) : Except Failure (Db × ℕ) :=
  match (db.borrowers[body.borrowerId]?).filter (fun b => b.tenantId = tenantId),
    catalogue.profiles[body.borrowerId]? with
  | some _, some profile => do
    refuseIf (!applicant.seesClient) (.http 403 "Client is outside your data scope")
    applicant.officer
    refuseIf (profile.status ≠ "approved") (.http 422
      s!"Client profile is '{profile.status}'. Only approved clients may apply for a loan.")
    match db.products[body.productId]?,
      (catalogue.listings[body.productId]?).filter (fun l => l.tenantId = tenantId && l.active) with
    | some product, some listing =>
      let least := showCents listing.minAmount
      let most := showCents listing.maxAmount
      refuseIf (body.principal < listing.minAmount ∨ listing.maxAmount < body.principal)
        (.http 400 s!"Amount must be between {least} and {most}")
      let cycle := (db.loans.filter (fun l => l.borrowerId = body.borrowerId)).length + 1
      refuseIf (2 ≤ cycle ∧ !profile.surveyedCycles.contains cycle)
        (.http 428 "IMPACT_SURVEY_REQUIRED")
      let loan := appliedLoan tenantId body product (newAccountNumber db tenantId year)
      let saved ← Db.commit { db with loans := db.loans ++ [loan] }
      return (saved, db.loans.length)
    | _, _ => .error (.http 404 "Product not found or inactive")
  | _, _ => .error (.http 404 "Client not found")

/-- The digits of a number from the last, a comma after every third. -/
def groupThousands : List Char → List Char
  | a :: b :: c :: d :: rest => a :: b :: c :: ',' :: groupThousands (d :: rest)
  | digits => digits

/-- An amount in whole shillings, with thousands separators. -/
def showThousands (c : ℤ) : String :=
  let whole := Decimal.roundHalfEven (decimalOf c)
  let sign := if whole < 0 then "-" else ""
  sign ++ String.ofList (groupThousands whole.natAbs.repr.toList.reverse).reverse

/-- Who decides on an application: whether the loan is in scope, whether the role approves
loans, up to which amount, and the level above it. -/
structure LoanDecider where
  seesLoan : Bool
  approver : Bool
  limit : Option ℤ
  nextLevel : Option String
  deriving DecidableEq, Repr

/-- `POST /approvals/loans/{id}`. What is neither a rejection nor an escalation approves. -/
def decideLoan (db : Db) (tenantId loanId : ℕ) (decider : LoanDecider) (action : String) :
    Except Failure Db :=
  match loanRow db tenantId loanId with
  | none => .error (.http 404 "Loan not found")
  | some loan =>
    if !decider.seesLoan then .error (.http 403 "Loan is outside your scope")
    else if loan.status ≠ .pending && loan.status ≠ .underwriting then
      .error (.http 400 s!"Loan is '{loan.status.label}' and cannot be decided")
    else if !decider.approver then .error (.http 403
      "Your role is not configured as an approver for loan approvals at this DCP")
    else if action = "reject" then
      (db.updateLoan loanId (fun l => { l with status := .rejected })).commit
    else if action = "escalate" then .ok db
    else
      match decider.limit.filter (fun limit => limit < loan.principal) with
      | some limit =>
        let amount := showThousands loan.principal
        let most := showThousands limit
        let level := upper ((nonEmpty decider.nextLevel).getD "hq")
        .error (.http 409
          (s!"Amount KES {amount} exceeds your approval limit of KES {most} — " ++
            s!"auto-escalated to {level}."))
      | none => (db.updateLoan loanId (fun l => { l with status := .approved })).commit

/-- `VALID_TRANSITIONS`. -/
def LoanStatus.validTransitions : LoanStatus → List LoanStatus
  | pending => [underwriting, rejected]
  | underwriting => [approved, rejected]
  | approved => [active]
  | active => [paid, overdue, defaulted]
  | overdue => [paid, defaulted, active]
  | _ => []

/-- `POST /loans/{id}/transition`. It neither approves nor activates a loan, and pays off
none that still owes. -/
def transitionLoan (db : Db) (tenantId loanId : ℕ) (seesLoan : Bool) (status : String) (now : ℤ) :
    Except Failure Db :=
  match loanRow db tenantId loanId with
  | none => .error (.http 404 "Loan not found")
  | some loan =>
    if !seesLoan then .error (.http 403 "Loan is outside your data scope")
    else
      match loan.status.validTransitions.find? (fun s => s.label = status) with
      | none =>
        let allowed := ", ".intercalate
          (loan.status.validTransitions.map (fun s => "'" ++ s.label ++ "'"))
        .error (.http 400
          s!"Cannot move loan from '{loan.status.label}' to '{status}'. Allowed: [{allowed}]")
      | some .approved => .error (.http 409
          "Use the Approvals inbox (/api/v1/approvals/loans) to approve loans.")
      | some .active => .error (.http 409
          "Use disbursement (/api/v1/payments/disburse) to activate an approved loan.")
      | some .paid =>
        if 0 < loan.outstandingBalance then
          let balance := showCents loan.outstandingBalance
          .error (.http 409
            (s!"Loan has an outstanding balance of KES {balance}. A loan can only be marked " ++
              "paid once the balance is zero; record the repayment instead."))
        else
          let released := releaseActiveLock db loanId { loan with status := .paid } now
          (released.1.flushLoan loanId loan released.2).commit
      | some next => (db.updateLoan loanId (fun l => { l with status := next })).commit

theorem accountNumber_inj {tenantId : ℕ} {year : ℤ} {m n : ℕ}
    (h : accountNumber tenantId year m = accountNumber tenantId year n) : m = n := by
  have hrepr : m.repr = n.repr := (String.append_right_inj _).mp h
  exact Nat.repr_inj.mp hrepr

/-- Unless every number of the search is taken, the one it ends with is free. -/
theorem nextAccountNumber_free {db : Db} {tenantId : ℕ} {year : ℤ} {fuel seq : ℕ}
    (h : ∃ i ≤ fuel, accountTaken db tenantId (accountNumber tenantId year (seq + i)) = false) :
    accountTaken db tenantId (nextAccountNumber db tenantId year fuel seq) = false := by
  induction fuel generalizing seq with
  | zero =>
    obtain ⟨i, hi, hfree⟩ := h
    obtain rfl : i = 0 := by omega
    exact hfree
  | succ fuel ih =>
    unfold nextAccountNumber
    split
    · rename_i htaken
      apply ih
      obtain ⟨i, hi, hfree⟩ := h
      have hpos : i ≠ 0 := by
        rintro rfl
        simp [htaken] at hfree
      exact ⟨i - 1, by omega, by rwa [show seq + 1 + (i - 1) = seq + i by omega]⟩
    · rename_i hfree
      simpa using hfree

/-- A new loan's number is no other loan's: there are more numbers to try than loans. -/
theorem newAccountNumber_free (db : Db) (tenantId : ℕ) (year : ℤ) :
    accountTaken db tenantId (newAccountNumber db tenantId year) = false := by
  apply nextAccountNumber_free
  by_contra hall
  push Not at hall
  have htaken : ∀ i ∈ Finset.range (db.loans.length + 1),
      accountNumber tenantId year
        ((db.loans.filter (fun l => l.tenantId = tenantId)).length + 1 + i) ∈
        (db.loans.map (·.accountNumber)).toFinset := by
    intro i hi
    have hlt := Finset.mem_range.mp hi
    have hany := hall i (by omega)
    simp only [accountTaken, Bool.not_eq_false, List.any_eq_true, Bool.and_eq_true,
      decide_eq_true_eq] at hany
    obtain ⟨loan, hloan, -, hnumber⟩ := hany
    exact List.mem_toFinset.mpr (List.mem_map.mpr ⟨loan, hloan, hnumber⟩)
  have hcard := Finset.card_le_card_of_injOn _ htaken fun i _ j _ hij => by
    have := accountNumber_inj hij
    omega
  have hlength := List.toFinset_card_le (db.loans.map (·.accountNumber))
  rw [Finset.card_range] at hcard
  rw [List.length_map] at hlength
  omega

end FinylDcp
