import FinylDcp.DecisionEffects
import FinylDcp.Lending
import FinylDcp.PayoutSafety
import Mathlib.Logic.Relation

/-!
# Postings

The single changes that the requests, callbacks and jobs of the platform are made of, each
with the tables before and after. What happens at the office is a chain of postings, so a
property of the books holds when every posting keeps it. A posting says which way money
moves, and whether it comes too late for the suspense entry it is about.
-/
namespace FinylDcp
open Db

/-- Which way a posting moves money: not at all, in from payers, out to a borrower, back on
a loan, or for a suspense entry that is disposed of already; or what it lists or lends at. -/
inductive Flow
  | still
  | listing (product : Product)
  | application (principal : ℤ)
  | inward
  | payout
  | loanRefund (loanId : ℕ)
  | late
  deriving DecidableEq, Repr

/-- The flow of a posting that is late in some case. -/
def Flow.timed (late : Bool) : Flow := if late then .late else .still

/-- A transaction without its status and references. -/
def PaymentTransaction.terms (t : PaymentTransaction) : PaymentTransaction :=
  { t with
    status := .pending
    mpesaRef := none
    rawPayload := { t.rawPayload with originatorConversationId := none } }

/-- A suspense entry without what becomes of it. -/
def SuspenseEntry.terms (e : SuspenseEntry) : SuspenseEntry :=
  { e with status := .open, matchedLoanId := none, resolvedAt := none, resolvedByUserId := none }

/-- A request without its decision. -/
def PendingApproval.terms (p : PendingApproval) : PendingApproval :=
  { p with status := .pendingApproval, checkerUserId := none }

/-- An entry that is disposed of. -/
def SuspenseStatus.resolved : SuspenseStatus → Bool
  | allocated | refunded | reversed => true
  | _ => false

/-- The entry is there and disposed of. -/
def Db.entryResolved (db : Db) (entryId : ℕ) : Bool :=
  (db.suspense[entryId]?).any (·.status.resolved)

/-- Money that goes back out of suspense. -/
def PaymentTransaction.fromSuspense (t : PaymentTransaction) : Bool :=
  t.outgoing && t.rawPayload.suspenseId.isSome

/-- What upkeep and decisions leave of a loan: the terms, and a balance that grew by the
penalties charged. -/
structure Loan.Keeps (l l' : Loan) : Prop where
  tenant : l'.tenantId = l.tenantId
  product : l'.productId = l.productId
  principal : l'.principal = l.principal
  interestRate : l'.interestRate = l.interestRate
  snapshot : l'.pricingSnapshot = l.pricingSnapshot
  fees : l'.feesInBalance = l.feesInBalance
  rebate : l'.interestRebate = l.interestRebate
  balance : l'.outstandingBalance - l.outstandingBalance = l'.penaltiesCharged - l.penaltiesCharged
  penalties : l.penaltiesCharged ≤ l'.penaltiesCharged
  disbursed : l'.status.disbursed = l.status.disbursed

theorem Loan.Keeps.refl (l : Loan) : l.Keeps l :=
  ⟨rfl, rfl, rfl, rfl, rfl, rfl, rfl, by simp, le_refl _, rfl⟩

/-- An entry that stays as it is, or moves between the statuses of one that is not
disposed of. -/
def SuspenseEntry.Moves (e e' : SuspenseEntry) : Prop :=
  e' = e ∨ (e.status.resolved = false ∧ e'.status.resolved = false ∧ e'.terms = e.terms)

/-- A request about suspense money is about an entry of its tenant and amount, and a loan
refund is about a positive amount. -/
structure PendingApproval.Founded (db : Db) (p : PendingApproval) : Prop where
  waits : p.status = .pendingApproval
  entry : p.actionType.ofSuspense = true → ∃ id entry, p.details.suspenseId = some id ∧
    db.suspense[id]? = some entry ∧ entry.tenantId = p.tenantId ∧ p.amount = entry.amount
  positive : p.actionType = .refund → 0 < p.amount

/-- The loan a payout is sent for, as its intent leaves it. -/
def takenLoan (loan : Loan) (product : Product) (actorUserId : ℕ) : Loan :=
  { loan with
    status := .processing
    pricingSnapshot := some (loanSnapshot loan product)
    disbursedByUserId := some actorUserId }

inductive Posting (db : Db) : Flow → Db → Prop
  | aside (borrowers : List Borrower) (lockLogs : List LoanActiveLockLog)
      (paymentsConfigs : List PaymentsConfig) :
      Posting db .still { db with
        borrowers := borrowers, lockLogs := lockLogs, paymentsConfigs := paymentsConfigs }
  | listed (product : Product) (products : List Product)
      (hproducts : ∀ listed ∈ products, listed ∈ db.products ∨ listed = product) :
      Posting db (.listing product) { db with products := products }
  | applied (tenantId : ℕ) (body : LoanApplication) (product : Product) (number : String)
      (hproduct : product ∈ db.products) :
      Posting db (.application body.principal) { db with
        loans := db.loans ++ [appliedLoan tenantId body product number] }
  | kept (loans : List Loan) (hkept : List.Forall₂ Loan.Keeps db.loans loans) :
      Posting db .still { db with loans := loans }
  | noted (t : PaymentTransaction) (htype : t.type = .c2b ∨ t.type = .stkPush) :
      Posting db .still { db with transactions := db.transactions ++ [t] }
  | marked (txnId : ℕ) (row : PaymentTransaction) (status : TransactionStatus)
      (f : PaymentTransaction → PaymentTransaction) (hrow : db.transactions[txnId]? = some row)
      (hset : ∀ t, (f t).terms = t.terms ∧ (f t).status = status)
      (hquiet : row.fromSuspense = true → status ≠ .success) :
      Posting db (.timed (row.fromSuspense && row.status = .success))
        { db with transactions := db.transactions.modify txnId f }
  | requested (p : PendingApproval) (hfounded : p.Founded db) :
      Posting db .still { db with pending := db.pending ++ [p] }
  | decided (pendingId : ℕ) (status : ApprovalStatus) (checkerId : ℕ) :
      Posting db .still (FinylDcp.decided db pendingId status checkerId)
  | moved (entryId : ℕ) (f : SuspenseEntry → SuspenseEntry)
      (hmoves : ∀ e ∈ db.suspense[entryId]?, e.Moves (f e)) :
      Posting db .still (db.updateSuspense entryId f)
  | intended (loanId : ℕ) (loan : Loan) (product : Product) (actorUserId : ℕ) (phone : String)
      (now : ℤ) (hrow : db.loans[loanId]? = some loan) (hstatus : loan.status = .approved)
      (hproduct : db.products[loan.productId]? = some product) :
      Posting db .still { db with
        loans := db.loans.set loanId (takenLoan loan product actorUserId)
        transactions := db.transactions ++ [payoutIntent loan.tenantId loanId actorUserId
          (loanSnapshot loan product).payoutAmount phone (loanSnapshot loan product) now] }
  | refundsEntry (pendingId : ℕ) (p : PendingApproval) (entryId : ℕ) (entry : SuspenseEntry)
      (t : PaymentTransaction) (hp : Waiting db pendingId p)
      (htype : p.actionType = .suspenseRefund)
      (hlocked : Locked db p entryId entry) (hrefund : t.type = .refund)
      (htenant : t.tenantId = p.tenantId) (hamount : t.amount = ceilShillings p.amount)
      (hstatus : t.status = .initiated) (hsource : t.rawPayload.suspenseId = some entryId) :
      Posting db .still { db with transactions := db.transactions ++ [t] }
  | refundsLoan (pendingId : ℕ) (p : PendingApproval) (loanId : ℕ) (loan : Loan)
      (t : PaymentTransaction) (hp : Waiting db pendingId p) (htype : p.actionType = .refund)
      (hrow : db.loans[loanId]? = some loan) (hloan : loan.tenantId = p.tenantId)
      (hfits : p.amount ≤ refundableOverpayment db p.tenantId loanId loan none false)
      (hrefund : t.type = .refund) (htenant : t.tenantId = p.tenantId)
      (hfor : t.loanId = some loanId) (hamount : t.amount = ceilShillings p.amount)
      (hstatus : t.status = .initiated) (hsource : t.rawPayload.suspenseId = none) :
      Posting db (.loanRefund loanId) { db with transactions := db.transactions ++ [t] }
  | refunded (txnId : ℕ) (row : PaymentTransaction) (f : PaymentTransaction → PaymentTransaction)
      (entryId : ℕ) (now : ℤ) (hrow : db.transactions[txnId]? = some row)
      (hset : ∀ t, (f t).terms = t.terms ∧ (f t).status = .success) (htype : row.type = .refund)
      (hsource : row.rawPayload.suspenseId = some entryId) :
      Posting db (.timed (db.entryResolved entryId)) { db with
        transactions := db.transactions.modify txnId f
        suspense := db.suspense.modify entryId (fun e =>
          if e.tenantId = row.tenantId then { e with status := .refunded, resolvedAt := some now }
          else e) }
  | reversalSent (pendingId : ℕ) (p : PendingApproval) (entryId : ℕ) (entry : SuspenseEntry)
      (ack : Ack) (now : ℤ) (hp : Waiting db pendingId p)
      (htype : p.actionType = .suspenseReversal) (hlocked : Locked db p entryId entry) :
      Posting db .still { db with
        transactions := db.transactions ++
          [reversalTxn p.tenantId entryId entry pendingId ack now]
        suspense := db.suspense.modify entryId (fun e => { e with status := .reversalPending }) }
  | reversalSettled (txnId : ℕ) (row : PaymentTransaction) (entryId : ℕ) (now : ℤ)
      (isReversed : Bool) (hrow : db.transactions[txnId]? = some row) (htype : row.type = .reversal)
      (hopen : row.status = .processing ∨ row.status = .timedOut)
      (hsource : row.rawPayload.suspenseId = some entryId) :
      Posting db (.timed (db.entryResolved entryId)) { db with
        transactions := db.transactions.modify txnId (fun t => { t with
          status := if isReversed then .success else .failed })
        suspense := db.suspense.modify entryId (fun e =>
          if e.tenantId ≠ row.tenantId then e
          else if isReversed then { e with status := .reversed, resolvedAt := some now }
          else { e with status := .open }) }
  | parked (x : Receipt) (now : ℤ) :
      Posting db .inward { db with suspense := db.suspense ++ [x.entry now] }
  | paid (loanId : ℕ) (loan : Loan) (p : Payment) (hrow : db.loans[loanId]? = some loan)
      (haccepts : Accepts db loan p) (hcollectible : loan.status.collectible = true) :
      Posting db .inward { db with
        loans := db.loans.set loanId (settled loan (divisionOf db loanId loan p) p.paidOn)
        repayments := db.repayments ++ repaymentRow loanId p (divisionOf db loanId loan p)
        suspense := parkRest db.suspense loanId p (divisionOf db loanId loan p) }
  | allocated (entryId : ℕ) (entry : SuspenseEntry) (loanId userId : ℕ) (now : ℤ)
      (hrow : db.suspense[entryId]? = some entry)
      (hheld : entry.status = .open ∨ entry.status = .pendingApproval) :
      Posting db .inward (db.updateSuspense entryId (fun e => { e with
        status := .allocated, matchedLoanId := some loanId, resolvedAt := some now,
        resolvedByUserId := some userId }))
  | activated (loanId : ℕ) (loan : Loan) (product : Product) (today : ℤ)
      (hrow : db.loans[loanId]? = some loan) (hstatus : loan.status = .processing)
      (hproduct : db.products[loan.productId]? = some product) :
      Posting db .payout { db with loans := db.loans.set loanId (activate loan product today) }

/-- A chain of postings whose flows are allowed. -/
def Postings (allowed : Flow → Prop) : Db → Db → Prop :=
  Relation.ReflTransGen (fun db db' => ∃ flow, allowed flow ∧ Posting db flow db')

namespace Postings

variable {allowed : Flow → Prop} {db db' db'' : Db}

theorem refl (allowed : Flow → Prop) (db : Db) :
    Postings allowed db db := Relation.ReflTransGen.refl

theorem trans (h : Postings allowed db db') (h' : Postings allowed db' db'') :
    Postings allowed db db'' :=
  Relation.ReflTransGen.trans h h'

theorem single {flow : Flow} (h : Posting db flow db') (hflow : allowed flow) :
    Postings allowed db db' :=
  Relation.ReflTransGen.single ⟨flow, hflow, h⟩

theorem tail {flow : Flow} (h : Postings allowed db db') (hlast : Posting db' flow db'')
    (hflow : allowed flow) : Postings allowed db db'' :=
  Relation.ReflTransGen.tail h ⟨flow, hflow, hlast⟩

/-- What every allowed posting keeps, a chain keeps. -/
theorem keeps {inv : Db → Prop} (h : Postings allowed db db')
    (hposting : ∀ {a b : Db} {flow : Flow}, allowed flow → Posting a flow b → inv a → inv b)
    (hinv : inv db) : inv db' := by
  induction h with
  | refl => exact hinv
  | tail _ hlast ih =>
    obtain ⟨flow, hflow, hlast⟩ := hlast
    exact hposting hflow hlast ih

end Postings

/-- Every row stays where it is and keeps its terms. -/
structure TermsStay (db db' : Db) : Prop where
  transactions : ∀ (i : ℕ) (t : PaymentTransaction), db.transactions[i]? = some t →
    ∃ t', db'.transactions[i]? = some t' ∧ t'.terms = t.terms
  suspense : ∀ (i : ℕ) (e : SuspenseEntry), db.suspense[i]? = some e →
    ∃ e', db'.suspense[i]? = some e' ∧ e'.terms = e.terms
  pending : ∀ (i : ℕ) (p : PendingApproval), db.pending[i]? = some p →
    ∃ p', db'.pending[i]? = some p' ∧ p'.terms = p.terms

theorem TermsStay.refl (db : Db) : TermsStay db db :=
  ⟨fun _ t h => ⟨t, h, rfl⟩, fun _ e h => ⟨e, h, rfl⟩, fun _ p h => ⟨p, h, rfl⟩⟩

theorem TermsStay.trans {a b c : Db} (h : TermsStay a b) (h' : TermsStay b c) : TermsStay a c := by
  constructor
  · intro i t ht
    obtain ⟨t', ht', hterms⟩ := h.transactions i t ht
    obtain ⟨t'', ht'', hterms'⟩ := h'.transactions i t' ht'
    exact ⟨t'', ht'', hterms'.trans hterms⟩
  · intro i e he
    obtain ⟨e', he', hterms⟩ := h.suspense i e he
    obtain ⟨e'', he'', hterms'⟩ := h'.suspense i e' he'
    exact ⟨e'', he'', hterms'.trans hterms⟩
  · intro i p hp
    obtain ⟨p', hp', hterms⟩ := h.pending i p hp
    obtain ⟨p'', hp'', hterms'⟩ := h'.pending i p' hp'
    exact ⟨p'', hp'', hterms'.trans hterms⟩

section Rows

variable {α β : Type*} {l : List α} {i : ℕ} {x : α}

theorem row_append (g : α → β) (h : l[i]? = some x) (xs : List α) :
    ∃ x', (l ++ xs)[i]? = some x' ∧ g x' = g x :=
  ⟨x, by rw [List.getElem?_append_left (List.getElem?_eq_some_iff.mp h).1, h], rfl⟩

theorem row_modify (g : α → β) (h : l[i]? = some x) (j : ℕ) {f : α → α}
    (hf : ∀ y, l[j]? = some y → g (f y) = g y) :
    ∃ x', (l.modify j f)[i]? = some x' ∧ g x' = g x := by
  by_cases hij : j = i
  · subst hij
    exact ⟨f x, by simp [h], hf x h⟩
  · exact ⟨x, by simp [List.getElem?_modify_ne _ _ hij, h], rfl⟩

end Rows

theorem SuspenseEntry.Moves.terms {e e' : SuspenseEntry} (h : e.Moves e') : e'.terms = e.terms := by
  obtain rfl | ⟨-, -, hterms⟩ := h
  · rfl
  · exact hterms

/-- Every posting leaves the rows where they are, with their terms. -/
theorem Posting.termsStay {db db' : Db} {flow : Flow} (h : Posting db flow db') :
    TermsStay db db' := by
  have hsame := TermsStay.refl db
  cases h with
  | aside borrowers lockLogs paymentsConfigs =>
    exact ⟨hsame.transactions, hsame.suspense, hsame.pending⟩
  | listed product products hproducts => exact ⟨hsame.transactions, hsame.suspense, hsame.pending⟩
  | applied tenantId body product number hproduct =>
    exact ⟨hsame.transactions, hsame.suspense, hsame.pending⟩
  | kept loans hkept => exact ⟨hsame.transactions, hsame.suspense, hsame.pending⟩
  | noted t htype => exact ⟨fun i t h => row_append _ h _, hsame.suspense, hsame.pending⟩
  | marked txnId row status f hrow hset hquiet =>
    exact ⟨fun i t h => row_modify _ h _ fun t _ => (hset t).1, hsame.suspense, hsame.pending⟩
  | requested p hfounded =>
      exact ⟨hsame.transactions, hsame.suspense, fun i p h => row_append _ h _⟩
  | decided pendingId status checkerId =>
    exact ⟨hsame.transactions, hsame.suspense, fun i p h => row_modify _ h _ fun _ _ => rfl⟩
  | moved entryId f hmoves =>
    exact ⟨hsame.transactions, fun i e h => row_modify _ h _ fun e he => (hmoves e he).terms,
      hsame.pending⟩
  | intended loanId loan product actorUserId phone now hrow hstatus hproduct =>
    exact ⟨fun i t h => row_append _ h _, hsame.suspense, hsame.pending⟩
  | refundsEntry pendingId p entryId entry t =>
    exact ⟨fun i t h => row_append _ h _, hsame.suspense, hsame.pending⟩
  | refundsLoan pendingId p loanId loan t =>
    exact ⟨fun i t h => row_append _ h _, hsame.suspense, hsame.pending⟩
  | refunded txnId row f entryId now hrow hset htype hsource =>
    refine ⟨fun i t h => row_modify _ h _ fun t _ => (hset t).1,
      fun i e h => row_modify _ h _ fun e _ => ?_, hsame.pending⟩
    split <;> rfl
  | reversalSent pendingId p entryId entry ack now =>
    exact ⟨fun i t h => row_append _ h _, fun i e h => row_modify _ h _ fun _ _ => rfl,
      hsame.pending⟩
  | reversalSettled txnId row entryId now isReversed hrow htype hopen hsource =>
    refine ⟨fun i t h => row_modify _ h _ fun _ _ => rfl,
      fun i e h => row_modify _ h _ fun e _ => ?_, hsame.pending⟩
    split
    · rfl
    · split <;> rfl
  | parked x now => exact ⟨hsame.transactions, fun i e h => row_append _ h _, hsame.pending⟩
  | paid loanId loan p hrow haccepts hcollectible =>
    obtain ⟨excess, refund, hrows, -, -⟩ :=
      parkRest_rows db.suspense loanId p (divisionOf db loanId loan p)
    refine ⟨hsame.transactions, fun i e h => ?_, hsame.pending⟩
    rw [hrows, List.append_assoc]
    exact row_append _ h _
  | allocated entryId entry loanId userId now hrow hheld =>
    exact ⟨hsame.transactions, fun i e h => row_modify _ h _ fun _ _ => rfl, hsame.pending⟩
  | activated loanId loan product today =>
    exact ⟨hsame.transactions, hsame.suspense, hsame.pending⟩

theorem Postings.termsStay {allowed : Flow → Prop} {db db' : Db} (h : Postings allowed db db') :
    TermsStay db db' :=
  h.keeps (fun _ hposting hstay => hstay.trans hposting.termsStay) (TermsStay.refl db)

end FinylDcp
