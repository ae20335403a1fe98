import FinylDcp.Interleaving
import FinylDcp.PaymentRoutes
import FinylDcp.UnitOfWork

/-!
# Payment transactions side by side

The database transactions that take a payment in, cut where others can commit in
between: the first reads, the lock on the loan row, the rest of the handler, the
commit. Reads see what is committed. A channel that loaded the loan with its first
reads keeps that object when it locks the row; one that did not loads it then.
-/
namespace FinylDcp
open Interleaving Text

/-- A row locked until the transaction ends. -/
inductive Row
  | loan (id : ℕ)
  | pending (id : ℕ)
  | entry (id : ℕ)
  deriving DecidableEq, Repr

/-- A payment transaction, by channel. -/
inductive Route
  | c2b (cb : C2BCallback) (freshRef : String) (now : ℤ)
  | stk (cb : StkCallback) (freshRef : String) (now : ℤ)
  | manual (tenantId makerId : ℕ) (body : ManualPaymentIn) (freshRef : String) (now : ℤ)
  | allocation (tenantId makerId entryId loanId : ℕ) (now : ℤ)
  | approval (tenantId pendingId : ℕ) (checker : Checker) (freshRef : String) (now : ℤ)
  deriving DecidableEq, Repr

/-- What is left to do once the loan is locked. A `decision` is the request it approves
and the checker. -/
inductive Handover
  | confirmation (tenantId : ℕ) (cb : C2BCallback) (freshRef : String) (now : ℤ)
  | push (txnId : ℕ) (txn : PaymentTransaction) (cb : StkCallback) (freshRef : String) (now : ℤ)
  | manual (tenantId : ℕ) (amount : ℤ) (details : ApprovalDetails) (freshRef : String) (now : ℤ)
      (decision : Option (ℕ × ℕ))
  | allocation (tenantId entryId : ℕ) (entry : SuspenseEntry) (resolverId : ℕ) (now : ℤ)
      (decision : Option (ℕ × ℕ))
  deriving DecidableEq, Repr

/-- Where the first reads lead: an answer, a receipt parked with no loan to lock, a push
that failed or has no loan, or a loan and the object of it the session holds already. -/
inductive Opening
  | answered
  | park (tenantId : ℕ) (cb : C2BCallback) (m : Match) (freshRef : String) (now : ℤ)
  | declined (txnId : ℕ)
  | unlinked (txnId : ℕ) (receipt : Option String)
  | onLoan (loanId : ℕ) (loaded : Option Loan) (h : Handover)
  deriving DecidableEq, Repr

/-- The loan a transaction is about. -/
def Opening.loan : Opening → Option ℕ
  | .onLoan loanId _ _ => some loanId
  | _ => none

theorem Opening.loan_eq_some {work : Opening} {loanId : ℕ} (h : work.loan = some loanId) :
    ∃ loaded order, work = .onLoan loanId loaded order := by
  cases work with
  | onLoan id loaded order =>
    obtain rfl : id = loanId := by simpa [loan] using h
    exact ⟨loaded, order, rfl⟩
  | _ => cases h

/-- The rows the first reads lock. -/
def Route.rows (db : Db) : Route → List Row
  | .allocation _ _ entryId _ _ => [.entry entryId]
  | .approval _ pendingId _ _ _ =>
    .pending pendingId ::
      (((db.pending[pendingId]?).bind (·.details.suspenseId)).map Row.entry).toList
  | _ => []

/-- The first reads of each channel. -/
def Route.begin (shortcodeToTenant : String → Option ℕ) (db : Db) : Route → Except Failure Opening
  | .c2b cb freshRef now => do
    let tenantId ← c2bTenant db shortcodeToTenant cb
    if (referenceAlreadyUsed db tenantId cb.transId true).isSome then return .answered
    else
      let m := matchReference db tenantId cb.billRefNumber cb.msisdn
      match m.loan with
      | none => return .park tenantId cb m freshRef now
      | some loanId =>
        match loanRow db tenantId loanId with
        | none => .error (.crash "the matched loan is gone")
        | some loan => return .onLoan loanId (some loan) (.confirmation tenantId cb freshRef now)
  | .stk cb freshRef now =>
    match nonEmpty cb.checkoutRequestId with
    | none => .ok .answered
    | some checkoutId =>
      match db.transactions.findIdx?
        (fun t => t.type = .stkPush && t.mpesaRef = some checkoutId) with
      | none => .error (.unresolved s!"unknown STK checkout {checkoutId}")
      | some txnId =>
        match db.transactions[txnId]? with
        | none => .error (.unresolved s!"unknown STK checkout {checkoutId}")
        | some txn =>
          if txn.status ≠ .pending && txn.status ≠ .processing then .ok .answered
          else if cb.resultCode ≠ "0" then .ok (.declined txnId)
          else
            match loanOf db txn.tenantId txn with
            | some (loanId, _) => .ok (.onLoan loanId none (.push txnId txn cb freshRef now))
            | none => .ok (.unlinked txnId (cb.payment txn freshRef now).ref)
  | .manual tenantId _ body freshRef now => do
    let entry ← validateManualPayment db tenantId body freshRef now
    return .onLoan entry.loanId (some entry.loan)
      (.manual tenantId entry.amount entry.details freshRef now none)
  | .allocation tenantId makerId entryId loanId now => do
    match ← openEntry db tenantId entryId with
    | none => return .answered
    | some entry =>
      refuseIf (entry.amount ≤ 0) (.http 400 "Suspense entry has no positive amount")
      match loanRow db tenantId loanId with
      | none => .error (.http 404 "Loan not found")
      | some loan =>
        refuseIf (!loan.status.collectible)
          (.http 400 s!"Loan is not collectible (status={loan.status.label})")
        return .onLoan loanId (some loan) (.allocation tenantId entryId entry makerId now none)
  | .approval tenantId pendingId checker freshRef now => do
    let p ← decidable db tenantId pendingId "approve" checker
    let loan := p.loanId.bind (fun id => (loanRow db tenantId id).map (fun loan => (id, loan)))
    match p.actionType with
    | .manualPayment =>
      refuseIf (referenceAlreadyUsed db tenantId p.details.reference true).isSome (.http 409
        ("This reference was recorded by another route while awaiting approval — " ++
          "reject this request"))
      match loan with
      | none => .error (.http 404 "Loan not found")
      | some (loanId, _) =>
        return .onLoan loanId none
          (.manual tenantId p.amount p.details freshRef now (some (pendingId, checker.id)))
    | .suspenseAllocate =>
      let held ← lockedEntry db tenantId p
      match loan with
      | none => .error (.http 404 "Loan not found")
      | some (loanId, _) =>
        return .onLoan loanId none
          (.allocation tenantId held.1 held.2 checker.id now (some (pendingId, checker.id)))
    | _ => return .answered

/-- The rest of a transaction, on the loan object it holds. -/
def Handover.apply (db : Db) (loanId : ℕ) (loan : Loan) : Handover → Except Failure (Db × Reply)
  | .confirmation tenantId cb freshRef now =>
    applyConfirmation db tenantId loanId loan cb freshRef now
  | .push txnId txn cb freshRef now =>
    let p := cb.payment txn freshRef now
    let paid := stkPaid db txnId p.ref
    if 0 < p.amount then do
      let out ← payLoan paid loanId loan p
      commitWith out.1 (.payment txn.tenantId out.2)
    else commitWith paid .acknowledged
  | .manual tenantId amount details freshRef now decision => do
    let out ← applyManual db tenantId loanId loan amount details freshRef now
    commitWith (decision.elim out.1 (fun d => decided out.1 d.1 .approved d.2))
      (.payment tenantId out.2)
  | .allocation tenantId entryId entry resolverId now decision => do
    let out ← allocateEntry db tenantId entryId entry loanId loan resolverId now
    commitWith (decision.elim out.1 (fun d => decided out.1 d.1 .approved d.2))
      (.payment tenantId out.2)

/-- The rest of a transaction that locks no loan. -/
def Opening.alone (db : Db) : Opening → Except Failure Db
  | .park tenantId cb m freshRef now =>
    (parkConfirmation db tenantId cb m freshRef now).map (·.1)
  | .declined txnId => .ok (db.updateTransaction txnId (fun t => { t with status := .failed }))
  | .unlinked txnId receipt => .ok (stkPaid db txnId receipt)
  | .answered | .onLoan .. => .ok db

/-- A committed transaction: what it did, what it saw and what it made of it. -/
structure Commit where
  session : ℕ
  work : Opening
  before : Db
  after : Db

/-- The committed database, who holds which row, and the commits so far. -/
structure Hub where
  db : Db
  locks : Row → Option ℕ
  log : List Commit

/-- Where a session stands. -/
inductive Session
  | waiting (route : Route)
  | opened (work : Opening)
  | holding (loanId : ℕ) (loan : Loan) (h : Handover)
  | written (work : Opening) (before after : Db)
  | ended

namespace Hub

/-- The row is free for a session, or its own. -/
def free (hub : Hub) (i : ℕ) (row : Row) : Bool := (hub.locks row).all (· = i)

def lock (hub : Hub) (i : ℕ) (rows : List Row) : Hub :=
  { hub with locks := fun row => if row ∈ rows then some i else hub.locks row }

/-- The end of a transaction gives its rows back. -/
def release (hub : Hub) (i : ℕ) : Hub :=
  { hub with locks := fun row => if hub.locks row = some i then none else hub.locks row }

end Hub

/-- The next step of a session; none while it waits for a row. -/
def Session.next (shortcodeToTenant : String → Option ℕ) (i : ℕ) (hub : Hub) :
    Session → Option (Hub × Session)
  | .waiting route =>
    if !(route.rows hub.db).all (hub.free i) then none
    else
      match route.begin shortcodeToTenant hub.db with
      | .error _ => some (hub.release i, .ended)
      | .ok .answered => some (hub.release i, .ended)
      | .ok work => some (hub.lock i (route.rows hub.db), .opened work)
  | .opened (.onLoan loanId loaded h) =>
    if !hub.free i (.loan loanId) then none
    else
      match loaded <|> hub.db.loans[loanId]? with
      | none => some (hub.release i, .ended)
      | some loan => some (hub.lock i [.loan loanId], .holding loanId loan h)
  | .opened work =>
    match work.alone hub.db with
    | .error _ => some (hub.release i, .ended)
    | .ok after => some (hub, .written work hub.db after)
  | .holding loanId loan h =>
    match h.apply hub.db loanId loan with
    | .error _ => some (hub.release i, .ended)
    | .ok out => some (hub, .written (.onLoan loanId none h) hub.db out.1)
  | .written work before after =>
    match (Db.merge before after hub.db).commit with
    | .error _ => some (hub.release i, .ended)
    | .ok saved => some ({ hub.release i with
        db := saved, log := hub.log ++ [⟨i, work, before, after⟩] }, .ended)
  | .ended => none

/-- What one step of a session does: it ends, opens, works without a loan, locks its loan,
works on it, or commits. -/
inductive Moves (shortcodeToTenant : String → Option ℕ) (i : ℕ) (hub : Hub) :
    Session → Hub × Session → Prop
  | ends (s : Session) : Moves shortcodeToTenant i hub s (hub.release i, .ended)
  | opens (route : Route) (work : Opening) (hfree : (route.rows hub.db).all (hub.free i) = true)
      (hopen : work ≠ .answered) (hwork : route.begin shortcodeToTenant hub.db = .ok work) :
      Moves shortcodeToTenant i hub (.waiting route)
        (hub.lock i (route.rows hub.db), .opened work)
  | alone (work : Opening) (after : Db) (hoff : ∀ loanId loaded h, work ≠ .onLoan loanId loaded h)
      (hafter : work.alone hub.db = .ok after) :
      Moves shortcodeToTenant i hub (.opened work) (hub, .written work hub.db after)
  | locks (loanId : ℕ) (loaded : Option Loan) (loan : Loan) (h : Handover)
      (hfree : hub.free i (.loan loanId) = true)
      (hloan : (loaded <|> hub.db.loans[loanId]?) = some loan) :
      Moves shortcodeToTenant i hub (.opened (.onLoan loanId loaded h))
        (hub.lock i [.loan loanId], .holding loanId loan h)
  | applies (loanId : ℕ) (loan : Loan) (h : Handover) (out : Db × Reply)
      (hout : h.apply hub.db loanId loan = .ok out) :
      Moves shortcodeToTenant i hub (.holding loanId loan h)
        (hub, .written (.onLoan loanId none h) hub.db out.1)
  | commits (work : Opening) (before after : Db)
      (hindexed : (Db.merge before after hub.db).indexed = true) :
      Moves shortcodeToTenant i hub (.written work before after)
        ({ hub.release i with
            db := Db.merge before after hub.db, log := hub.log ++ [⟨i, work, before, after⟩] },
          .ended)

theorem Session.next_moves {shortcodeToTenant : String → Option ℕ} {i : ℕ} {hub : Hub} {s : Session}
    {out : Hub × Session} (h : s.next shortcodeToTenant i hub = some out) :
    Moves shortcodeToTenant i hub s out := by
  cases s with
  | waiting route =>
    simp only [next] at h
    split_ifs at h with hfree
    split at h
    · cases h
      exact .ends _
    · cases h
      exact .ends _
    · rename_i work hopen hwork
      cases h
      exact .opens route work (by simpa using hfree) hopen hwork
  | opened work =>
    by_cases hon : ∃ loanId loaded order, work = .onLoan loanId loaded order
    · obtain ⟨loanId, loaded, order, rfl⟩ := hon
      simp only [next] at h
      split_ifs at h with hfree
      split at h
      · cases h
        exact .ends _
      · rename_i loan hloan
        cases h
        exact .locks loanId loaded loan order (by simpa using hfree) hloan
    · have hoff : ∀ loanId loaded order, work ≠ .onLoan loanId loaded order :=
        fun loanId loaded order hwork => hon ⟨loanId, loaded, order, hwork⟩
      have hnext : (opened work).next shortcodeToTenant i hub = match work.alone hub.db with
          | .error _ => some (hub.release i, .ended)
          | .ok after => some (hub, .written work hub.db after) := by
        cases work with
        | onLoan loanId loaded order => exact absurd rfl (hoff loanId loaded order)
        | _ => rfl
      rw [hnext] at h
      split at h
      · cases h
        exact .ends _
      · rename_i after hafter
        cases h
        exact .alone work after hoff hafter
  | holding loanId loan order =>
    simp only [next] at h
    split at h
    · cases h
      exact .ends _
    · rename_i res hres
      cases h
      exact .applies loanId loan order res hres
  | written work before after =>
    simp only [next] at h
    split at h
    · cases h
      exact .ends _
    · rename_i saved hsaved
      obtain ⟨hindexed, rfl⟩ := Db.commit_eq_ok.mp hsaved
      cases h
      exact .commits work before after hindexed
  | ended => cases h

/-- Transactions about to start. -/
def sessions (db : Db) (routes : List Route) : World Hub Session :=
  ⟨⟨db, fun _ => none, []⟩, routes.map Session.waiting⟩

namespace Hub

theorem free_iff {hub : Hub} {i : ℕ} {row : Row} :
    hub.free i row = true ↔ ∀ j, hub.locks row = some j → j = i := by
  cases h : hub.locks row <;> simp [free, h]

@[simp] theorem lock_db (hub : Hub) (i : ℕ) (rows : List Row) : (hub.lock i rows).db = hub.db := rfl

@[simp] theorem lock_log (hub : Hub) (i : ℕ) (rows : List Row) :
    (hub.lock i rows).log = hub.log := rfl

@[simp] theorem release_db (hub : Hub) (i : ℕ) : (hub.release i).db = hub.db := rfl

@[simp] theorem release_log (hub : Hub) (i : ℕ) : (hub.release i).log = hub.log := rfl

theorem lock_self {hub : Hub} {i : ℕ} {rows : List Row} {row : Row} (h : row ∈ rows) :
    (hub.lock i rows).locks row = some i := if_pos h

/-- A row another transaction holds is not taken from it. -/
theorem lock_keeps {hub : Hub} {i j : ℕ} {rows : List Row} {row : Row} (hij : i ≠ j)
    (hfree : ∀ r ∈ rows, hub.free i r = true) (h : hub.locks row = some j) :
    (hub.lock i rows).locks row = some j := by
  by_cases hrow : row ∈ rows
  · exact absurd (free_iff.mp (hfree row hrow) j h) hij.symm
  · exact (if_neg hrow).trans h

theorem lock_other {hub : Hub} {i : ℕ} {rows : List Row} {row : Row} (h : row ∉ rows) :
    (hub.lock i rows).locks row = hub.locks row := if_neg h

/-- A transaction that ends gives back no row of another. -/
theorem release_other {hub : Hub} {i j : ℕ} {row : Row} (hij : i ≠ j)
    (h : hub.locks row = some j) : (hub.release i).locks row = some j := by
  simp [release, h, hij.symm]

end Hub

/-- The first reads lock no loan. -/
theorem Route.loan_not_mem_rows (route : Route) (db : Db) (loanId : ℕ) :
    Row.loan loanId ∉ route.rows db := by
  cases route with
  | approval tenantId pendingId checker freshRef now =>
    cases h : (db.pending[pendingId]?).bind (·.details.suspenseId) <;> simp [Route.rows, h]
  | _ => simp [Route.rows]

end FinylDcp
