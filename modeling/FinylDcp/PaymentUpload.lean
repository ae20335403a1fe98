import FinylDcp.Columns
import FinylDcp.Literals
import FinylDcp.PaymentRoutes

/-!
# Batch upload of payments

A file of payments is read row by row in one transaction. Each row ends in one of five
lists, or raises; then nothing of the file is kept. The reader of the file is the
library's: a row comes as the items it makes of it, and what it raises on a text it cannot
split comes after the rows before.
-/
namespace FinylDcp
open Text

/-- A row of the file: its items, header and cell. The cells beyond the header have none,
and a missing cell is none. -/
abbrev FileRow := List (Option String × Option String)

structure PaymentFile where
  name : String
  rows : List FileRow
  readError : Option Failure

namespace FileRow

/-- The cell under a header, whatever its case; the last one where there are several. -/
def cell (row : FileRow) (header : String) : String :=
  match (row.filter (fun x => (nonEmpty x.1).any (fun k => lower (strip k) = header))).getLast? with
  | some x => strip (x.2.getD "")
  | none => ""

def account (row : FileRow) : Option String :=
  nonEmpty (some (row.cell "account_number")) <|> nonEmpty (some (row.cell "customer_number"))

def reference (row : FileRow) : Option String :=
  cleanReference (nonEmpty (some (row.cell "mpesa_ref")) <|> nonEmpty (some (row.cell "reference")))

def channel (row : FileRow) : String :=
  lower ((nonEmpty (some (row.cell "channel"))).getD "mpesa_paybill")

end FileRow

/-- An amount cell, brought to cents. `nan` is a number that compares with none. -/
inductive AmountCell
  | bad
  | nan
  | cents (c : ℤ)
  deriving DecidableEq, Repr

/-- `money(Decimal(value))`: what has more than 28 digits in cents cannot be quantised. -/
def readAmount (value : String) : AmountCell :=
  match readDecimal (String.ofList (value.toList.filter (· ≠ ','))) with
  | .malformed => .bad
  | .infinite => .bad
  | .signallingNan => .bad
  | .nan => .nan
  | .finite negative coefficient exponent =>
    let size : ℚ := coefficient * 10 ^ exponent
    let c := money (if negative then -size else size)
    if c.natAbs < 10 ^ 28 then .cents c else .bad

inductive DateCell
  | blank
  | unread
  | early
  | time (t : ℤ)
  deriving DecidableEq, Repr

/-- The formats of `_parse_upload_date`, in its order. -/
def uploadFormats : List (List Directive) :=
  let iso := [.year, .mark '-', .month, .mark '-', .day]
  let local_ := [.day, .mark '/', .month, .mark '/', .year]
  let minutes := [.blanks, .hour, .mark ':', .minute]
  let seconds := minutes ++ [.mark ':', .second]
  [iso ++ seconds, iso ++ minutes, iso, local_ ++ seconds, local_ ++ minutes, local_]

/-- `_parse_upload_date`: a Kenyan time, brought to UTC. A time that would come before the
first moment there is raises. -/
def parseUploadDate (value : String) : DateCell :=
  if strip value = "" then .blank
  else
    match uploadFormats.findSome? (strptime (strip value)) with
    | none => .unread
    | some t => if t - 3 * 3600 < firstMoment then .early else .time (t - 3 * 3600)

/-- A row that passed its own checks. -/
structure FileEntry where
  account : String
  reference : String
  amount : ℤ
  paidAt : Option ℤ
  channel : String
  deriving DecidableEq, Repr

/-- What the checks of a row by itself end in. -/
inductive RowReading
  | raises (failure : Failure)
  | error (text : String)
  | entry (e : FileEntry)
  deriving DecidableEq, Repr

/-- The checks after the amount: the date, and then the channel. -/
def readDated (row : FileRow) (line : ℕ) (now : ℤ) (account reference : String) (amount : ℤ) :
    RowReading :=
  let dateText := strip (row.cell "date")
  let channel := row.channel
  let checked (paidAt : Option ℤ) : RowReading :=
    if manualChannels.contains channel then .entry ⟨account, reference, amount, paidAt, channel⟩
    else .error s!"row {line}: unknown channel '{channel}'"
  match parseUploadDate (row.cell "date") with
  | .blank => checked none
  | .unread => .error
    s!"row {line}: unrecognised date '{dateText}' (use YYYY-MM-DD or YYYY-MM-DD HH:MM)"
  | .early => .raises (.crash "OverflowError")
  | .time t => if now < t then .error s!"row {line}: date is in the future" else checked (some t)

/-- The checks of a row that gives an account, an amount and a reference. -/
def readComplete (row : FileRow) (line : ℕ) (now : ℤ) (account amountText reference : String) :
    RowReading :=
  match readAmount amountText with
  | .bad => .error s!"row {line}: bad amount '{amountText}'"
  | .nan => .raises (.crash "InvalidOperation")
  | .cents amount =>
    if amount ≤ 0 then .error s!"row {line}: amount must be positive"
    else readDated row line now account reference amount

def readRow (row : FileRow) (line : ℕ) (now : ℤ) : RowReading :=
  match row.account, nonEmpty (some (row.cell "amount")), row.reference with
  | some account, some amountText, some reference =>
    readComplete row line now account amountText reference
  | _, _, _ => .error s!"row {line}: account/customer number, amount and mpesa_ref are required"

/-- Who uploads what; whether an amount needs a second person is the tenant's threshold. -/
structure UploadJob where
  tenantId : ℕ
  makerId : ℕ
  fileName : String
  needsChecker : ℤ → Bool
  now : ℤ

/-- What a row ends in, under its line: the five lists of the source. -/
inductive RowOutcome
  | parked (line : ℕ) (reference : String) (loanId pendingId : ℕ)
  | applied (line : ℕ) (reference : String) (loanId : ℕ) (amount : ℤ)
  | unmatched (line : ℕ) (account : String) (amount : ℤ) (reference reason : String)
  | duplicate (line : ℕ) (reference reason : String)
  | error (line : ℕ) (text : String)
  deriving DecidableEq, Repr

/-- What the driver sends to the database: a text with a zero character raises. -/
def sendable (text : String) : Bool := !text.toList.contains '\u0000'

/-- Why a reference was not matched, as it is reported. -/
def SuspenseReason.reported : SuspenseReason → String
  | unmatched => "account / customer number not found"
  | noOpenLoan => "customer has no open loan"
  | ambiguousCustomer => "customer has several open loans — use the loan account number"
  | overpayment => "overpayment"
  | closedLoan => "closed_loan"
  | interestRefundDue => "interest_refund_due"

/-- The details of an entry of the file. -/
def FileEntry.details (e : FileEntry) (now : ℤ) : ApprovalDetails where
  suspenseId := none
  reference := some e.reference
  channel := some e.channel
  paidAt := some (e.paidAt.getD now)
  payerName := none
  payerPhone := none

def uploadNote (job : UploadJob) (line : ℕ) : String :=
  let name := job.fileName
  s!"CSV upload {name}, row {line}"

/-- The write of an entry on the open loan it names: parked for a second person, or applied. -/
def writeEntry (job : UploadJob) (db : Db) (line : ℕ) (e : FileEntry) (loanId : ℕ) (loan : Loan) :
    Except Failure (Db × RowOutcome) :=
  if job.needsChecker e.amount then
    let out := parkManualPayment db job.tenantId job.makerId loanId e.amount (e.details job.now)
      (some (cut 200 (uploadNote job line)))
    .ok (out.1, .parked line e.reference loanId out.2)
  else do
    let out ← applyManual db job.tenantId loanId loan e.amount (e.details job.now) "" job.now
    return (out.1, .applied line e.reference loanId out.2.applied)

/-- A write that is flushed. -/
def flushed {α : Type} (out : Db × α) : Except Failure (Db × α) :=
  if out.1.storable then .ok out else .error (.crash "DataError")

def recordEntry (job : UploadJob) (db : Db) (line : ℕ) (e : FileEntry) (loanId : ℕ) (loan : Loan) :
    Except Failure (Db × RowOutcome) := do
  let out ← writeEntry job db line e loanId loan
  flushed out

/-- An entry whose reference is new in the file. -/
def enterRow (job : UploadJob) (db : Db) (line : ℕ) (e : FileEntry) :
    Except Failure (Db × RowOutcome) :=
  if !sendable e.reference then .error (.valueError "zero character")
  else
    match ensureReferenceFree db job.tenantId (some e.reference) with
    | .error (.http _ why) => .ok (db, .duplicate line e.reference why)
    | .error failure => .error failure
    | .ok () =>
      if !sendable e.account then .error (.valueError "zero character")
      else
        let m := matchReference db job.tenantId (some e.account) none
        match m.loan.bind (fun id => (db.loans[id]?).map (fun loan => (id, loan))) with
        | none =>
          .ok (db, .unmatched line e.account e.amount e.reference
            ((m.reason.map (·.reported)).getD ""))
        | some (loanId, loan) =>
          if !loan.status.collectible then
            .ok (db, .unmatched line e.account e.amount e.reference s!"loan is {loan.status.label}")
          else recordEntry job db line e loanId loan

/-- The transaction of the upload: the rows written so far, the references seen in the file
and the outcomes, in the order of the rows. -/
structure UploadState where
  db : Db
  seen : List String
  outcomes : List RowOutcome

def uploadRow (job : UploadJob) (s : UploadState) (line : ℕ) (row : FileRow) :
    Except Failure UploadState :=
  match readRow row line job.now with
  | .raises failure => .error failure
  | .error text => .ok { s with outcomes := s.outcomes ++ [.error line text] }
  | .entry e =>
    if s.seen.contains e.reference then
      .ok { s with outcomes := s.outcomes ++ [.duplicate line e.reference "repeated in this file"] }
    else
      (enterRow job s.db line e).map (fun out =>
        { db := out.1, seen := e.reference :: s.seen, outcomes := s.outcomes ++ [out.2] })

def uploadRows (job : UploadJob) : UploadState → ℕ → List FileRow → Except Failure UploadState
  | s, _, [] => .ok s
  | s, line, row :: rest => do
    let s' ← uploadRow job s line row
    uploadRows job s' (line + 1) rest

def maxRows : ℕ := 2000

inductive UploadList
  | parked | applied | unmatched | duplicates | errors
  deriving DecidableEq, Repr

namespace RowOutcome

def line : RowOutcome → ℕ
  | parked line _ _ _ | applied line _ _ _ | unmatched line _ _ _ _ | duplicate line _ _
  | error line _ => line

/-- The list an outcome is put in. -/
def list : RowOutcome → UploadList
  | parked .. => .parked
  | applied .. => .applied
  | unmatched .. => .unmatched
  | duplicate .. => .duplicates
  | error .. => .errors

/-- The reference of an accepted row: one that was recorded or parked. -/
def accepted : RowOutcome → Option String
  | parked _ reference _ _ | applied _ reference _ _ => some reference
  | _ => none

end RowOutcome

/-- The five lists of an upload. -/
structure UploadGroups where
  parked : List RowOutcome
  applied : List RowOutcome
  unmatched : List RowOutcome
  duplicates : List RowOutcome
  errors : List RowOutcome
  deriving DecidableEq, Repr

/-- The one error about all the rows that were not read. -/
def overlong (file : PaymentFile) : List RowOutcome :=
  if maxRows < file.rows.length then
    [.error (maxRows + 2) s!"file has more than {maxRows} rows; the rest were not read"]
  else []

/-- The outcomes, list by list. -/
def uploadGroups (file : PaymentFile) (outcomes : List RowOutcome) : UploadGroups where
  parked := outcomes.filter (·.list = .parked)
  applied := outcomes.filter (·.list = .applied)
  unmatched := outcomes.filter (·.list = .unmatched)
  duplicates := outcomes.filter (·.list = .duplicates)
  errors := outcomes.filter (·.list = .errors) ++ overlong file

/-- What the upload answers: how many were recorded, and the first of the rows that were not. -/
structure UploadReply where
  pendingApproval : ℕ
  applied : ℕ
  matched : ℕ
  unmatched : ℕ
  unmatchedRows : List RowOutcome
  duplicates : List RowOutcome
  errors : List RowOutcome
  deriving DecidableEq, Repr

def UploadGroups.reply (groups : UploadGroups) : UploadReply where
  pendingApproval := groups.parked.length
  applied := groups.applied.length
  matched := groups.parked.length + groups.applied.length
  unmatched := groups.unmatched.length
  unmatchedRows := groups.unmatched.take 200
  duplicates := groups.duplicates.take 200
  errors := groups.errors.take 50

/-- `POST /payment-upload`, up to the answer made of its lists. The first line of the file is
the header. -/
def paymentUpload (db : Db) (job : UploadJob) (file : PaymentFile) :
    Except Failure (Db × UploadGroups) := do
  let s ← uploadRows job ⟨db, [], []⟩ 2 (file.rows.take maxRows)
  match if maxRows < file.rows.length then none else file.readError with
  | some failure => .error failure
  | none =>
    let saved ← s.db.commit
    return (saved, uploadGroups file s.outcomes)

end FinylDcp
