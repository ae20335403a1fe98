import FinylDcp.Calendar
import Mathlib.Data.List.Sort

/-!
# KYC decisions

The decision engine over a client's records: the checks that the tenant's preferences ask for, the
reasons they give and the decision.
-/
namespace FinylDcp
open FinylDcp.Calendar

inductive KycCheck
  | age | mpesa | face | altPhone | crb | guarantor | ocr
  deriving DecidableEq

structure TenantValidationPrefs where
  ageCheckMandatory : Bool := true
  mpesaValidationMandatory : Bool := true
  faceValidationMandatory : Bool := false
  altPhoneValidationMandatory : Bool := false
  crbCheckMandatory : Bool := false
  guarantorValidationMandatory : Bool := false
  ocrMandatory : Bool := true
  deriving DecidableEq

structure KycBorrower where
  tenantId : ℕ
  dateOfBirth : Option Date
  mpesaValidated : Bool
  altPhoneValidated : Bool
  deriving DecidableEq

inductive FaceResult
  | pass | fail | manualReview
  deriving DecidableEq

def FaceResult.label : FaceResult → String
  | .pass => "pass"
  | .fail => "fail"
  | .manualReview => "manual_review"

structure FaceValidationLog where
  tenantId : ℕ
  clientId : ℕ
  result : FaceResult
  validatedAt : ℤ
  deriving DecidableEq

inductive CrbStatus
  | ok | error | notConfigured
  deriving DecidableEq

/-- A bureau enquiry; its key column is `client_id`. -/
structure CrbCheck where
  tenantId : ℕ
  clientId : ℕ
  status : Option CrbStatus
  deriving DecidableEq

structure Guarantor where
  tenantId : ℕ
  clientId : ℕ
  kycStatus : String
  deriving DecidableEq

structure ClientDocument where
  tenantId : ℕ
  clientId : ℕ
  ocrApplied : Bool
  deriving DecidableEq

/-- The tables; a row's id is its position. -/
structure KycBook where
  borrowers : List KycBorrower
  faceValidationLogs : List FaceValidationLog
  crbChecks : List CrbCheck
  guarantors : List Guarantor
  clientDocuments : List ClientDocument

namespace KycBook

variable (book : KycBook) (tenantId clientId : ℕ)

def client : Option KycBorrower :=
  book.borrowers[clientId]?.filter (fun b => b.tenantId = tenantId)

/-- The latest face validation of the client. -/
def latestFace : Option FaceValidationLog :=
  ((book.faceValidationLogs.filter (fun f => f.tenantId = tenantId ∧ f.clientId = clientId)
    ).insertionSort (fun f g => g.validatedAt ≤ f.validatedAt)).head?

/-- The latest bureau enquiry about the client. -/
def latestCrb : Option CrbCheck :=
  (book.crbChecks.filter (fun c => c.tenantId = tenantId ∧ c.clientId = clientId)).getLast?

def guaranteed : Bool :=
  book.guarantors.any (fun g => g.tenantId = tenantId ∧ g.clientId = clientId ∧
    g.kycStatus = "validated")

end KycBook

inductive KycVerdict
  | pass | fail | escalate
  deriving DecidableEq

/-- An entry of `checks`. -/
inductive CheckEntry
  | age (pass : Bool) (age : Option ℤ)
  | face (pass : Bool) (result : String)
  | plain (pass : Bool)
  deriving DecidableEq

structure KycDecision where
  decision : KycVerdict
  reasons : List String
  checks : List (String × CheckEntry)
  deriving DecidableEq

/-- `_age_years` -/
def ageYears (today dob : Date) : ℤ :=
  today.year - dob.year -
    if today.month < dob.month ∨ today.month = dob.month ∧ today.day < dob.day then 1 else 0

/-- What a check adds to `checks` and to `reasons`, and whether it sets `escalate`. -/
structure KycOutcome where
  name : String
  entry : CheckEntry
  reason : Option String
  escalate : Bool

def ageOutcome (today : Date) (borrower : KycBorrower) : KycOutcome :=
  let age := borrower.dateOfBirth.map (ageYears today)
  let ok := age.any (18 ≤ ·)
  ⟨"age", .age ok age, if ok then none else some "age_below_18_or_unknown", false⟩

def faceOutcome (fv : Option FaceValidationLog) : KycOutcome :=
  let res := (fv.map (·.result.label)).getD "not_run"
  let review := res = "manual_review"
  ⟨"face", .face (res = "pass") res,
    if res = "fail" ∨ res = "not_run" then some ("face_" ++ res)
    else if review then some "face_manual_review"
    else none, review⟩

/-- A check of one flag. -/
def flagOutcome (name reason : String) (ok : Bool) : KycOutcome :=
  ⟨name, .plain ok, if ok then none else some reason, false⟩

def mpesaOutcome (borrower : KycBorrower) : KycOutcome :=
  flagOutcome "mpesa" "mpesa_not_validated" borrower.mpesaValidated

def altPhoneOutcome (borrower : KycBorrower) : KycOutcome :=
  flagOutcome "alt_phone" "alt_phone_not_validated" borrower.altPhoneValidated

def guarantorOutcome (guaranteed : Bool) : KycOutcome :=
  flagOutcome "guarantor" "guarantor_not_validated" guaranteed

/-- The reason does not end in `manual_review`. -/
def isHardFail (reason : String) : Bool := !"manual_review".toList.isSuffixOf reason.toList

/-- The decision of the outcomes of the checks that were run. -/
def decideKyc (outcomes : List KycOutcome) : KycDecision :=
  let reasons := outcomes.filterMap (·.reason)
  let checks := outcomes.map (fun o => (o.name, o.entry))
  if reasons.filter isHardFail ≠ [] then ⟨.fail, reasons, checks⟩
  else if outcomes.any (·.escalate) then ⟨.escalate, reasons, checks⟩
  else ⟨.pass, reasons, checks⟩

/-- The error of reading `CrbCheck.borrower_id`: the column is `client_id`. -/
def noBorrowerId : String := "type object 'CrbCheck' has no attribute 'borrower_id'"

/-- The checks in their order, each with whether it is asked for. No check is about OCR. -/
def kycRuns (prefs : Option TenantValidationPrefs) (book : KycBook) (tenantId clientId : ℕ)
    (today : Date) (borrower : KycBorrower) : List (Bool × KycOutcome) :=
  let ageReq := (prefs.map (·.ageCheckMandatory)).getD true
  let mpesaReq := (prefs.map (·.mpesaValidationMandatory)).getD true
  let faceReq := (prefs.map (·.faceValidationMandatory)).getD false
  let altReq := (prefs.map (·.altPhoneValidationMandatory)).getD false
  let guarReq := (prefs.map (·.guarantorValidationMandatory)).getD false
  [(ageReq, ageOutcome today borrower),
    (mpesaReq, mpesaOutcome borrower),
    (faceReq, faceOutcome (book.latestFace tenantId clientId)),
    (altReq, altPhoneOutcome borrower),
    (guarReq, guarantorOutcome (book.guaranteed tenantId clientId))]

/-- `evaluate` on the client's row: the preferences are the tenant's row, if there is one. The
bureau's check ends in the error before any result is read. -/
def evaluateRow (prefs : Option TenantValidationPrefs) (book : KycBook) (tenantId clientId : ℕ)
    (today : Date) : Option KycBorrower → Except String KycDecision
  | none => .ok ⟨.fail, ["client_not_found"], []⟩
  | some borrower =>
    let crbReq := (prefs.map (·.crbCheckMandatory)).getD false
    if crbReq then .error noBorrowerId
    else
      let runs := kycRuns prefs book tenantId clientId today borrower
      .ok (decideKyc ((runs.filter (·.1)).map (·.2)))

/-- `evaluate`. -/
def evaluate (prefs : Option TenantValidationPrefs) (book : KycBook) (tenantId clientId : ℕ)
    (today : Date) : Except String KycDecision :=
  evaluateRow prefs book tenantId clientId today (book.client tenantId clientId)

end FinylDcp
