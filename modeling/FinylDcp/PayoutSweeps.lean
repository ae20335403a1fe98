import FinylDcp.Integrations
import FinylDcp.PayoutSafety
import FinylDcp.SuspenseEffects

/-!
# Payouts settled by simulation

Without credentials a payout gets a simulated acknowledgement, and a sweep later settles
it as if Safaricom had confirmed it. Whether to simulate is decided from the credentials
there are at the sweep, not from how the payout was sent. A payout that Safaricom itself
took in is settled by its result or by a person, as long as no sweep that simulates comes
upon it.
-/
namespace FinylDcp
open Db Runs Text

/-- How a request to Safaricom ends. -/
inductive DarajaReply
  | connectionFailed
  | httpStatus (code : ℕ)
  | dropped (error : String)
  | answered
      (responseCode responseDescription conversationId originatorConversationId : Option String)
  deriving DecidableEq, Repr

/-- What the acknowledgement of a real request is saved under. -/
def DarajaReply.ack (freshRef : String) : DarajaReply → B2cReply
  | .connectionFailed => .connectionFailed
  | .httpStatus code => .httpStatus code
  | .dropped error => .dropped error
  | .answered code description conversation originator =>
    let conv := ((nonEmpty conversation) <|> (nonEmpty originator)).getD freshRef
    .answered ⟨code, description, conversation, some conv, originator, false⟩

/-- The ids a simulated acknowledgement draws. -/
structure ConversationIds where
  conversation : String
  originator : String
  deriving DecidableEq, Repr

/-- `b2c_disburse`: refused in production while a credential is missing, simulated while
there are none, and a request to Safaricom otherwise. -/
def b2cDisburse (creds : DarajaCreds) (ids : ConversationIds) (freshRef : String)
    (reply : DarajaReply) : B2cReply :=
  if !creds.guardProductionB2c then .notConfigured
  else if !creds.configured then
    .answered ⟨some "0", some "Accept the service request successfully.", some ids.conversation,
      some ids.conversation, some ids.originator, true⟩
  else reply.ack freshRef

/-- The request was taken in by Safaricom itself. -/
def B2cReply.takenIn (reply : B2cReply) : Bool :=
  match sendB2c reply with
  | .accepted ack => !ack.simulated
  | _ => false

/-- The payouts of a tenant in some statuses, old enough, oldest first. -/
def stuckPayouts (db : Db) (tenantId : ℕ) (minutes now : ℤ) (p : TransactionStatus → Bool) :
    List (PaymentTransaction × ℕ) :=
  (db.transactions.zipIdx.filter (fun x => x.1.tenantId = tenantId && x.1.type = .b2c &&
    p x.1.status && x.1.createdAt ≤ now - 60 * max 0 minutes)).insertionSort
    (fun x y => x.1.createdAt ≤ y.1.createdAt)

/-- Settle payouts as paid, one after the other, each under a receipt of its own. -/
def simulateResults (tenantId : ℕ) (receipts : ℕ → String) (now : ℤ) :
    List (PaymentTransaction × ℕ) → Db → Except Failure (Db × List ResultReply)
  | [], db => .ok (db, [])
  | x :: rest, db => do
    let out ← applyB2cResult db tenantId x.2 x.1 "0" (some (receipts x.2)) now
    let others ← simulateResults tenantId receipts now rest out.1
    return (others.1, out.2 :: others.2)

structure SweepCounts where
  stuck : ℕ
  resolved : ℕ
  mode : String
  deriving DecidableEq, Repr

/-- The statuses a sweep looks for. -/
def TransactionStatus.inQueue : TransactionStatus → Bool
  | processing | timedOut => true
  | _ => false

/-- `_sweep_tenant`: report the stuck payouts of a tenant with credentials, settle those of
one without. -/
def sweepTenant (db : Db) (configured : Bool) (tenantId : ℕ) (stuckMinutes now : ℤ)
    (receipts : ℕ → String) : Except Failure (Db × SweepCounts) :=
  let stuck := stuckPayouts db tenantId stuckMinutes now (·.inQueue)
  if stuck.isEmpty then .ok (db, ⟨0, 0, "none"⟩)
  else if configured then .ok (db, ⟨stuck.length, 0, "report"⟩)
  else do
    let out ← simulateResults tenantId receipts now stuck db
    let saved ← out.1.commit
    return (saved, ⟨stuck.length, stuck.length, "simulate"⟩)

/-- Of the unconfirmed payouts a reconciliation lists, those it may settle. -/
def reconcilable (db : Db) (tenantId : ℕ) (olderThanMinutes now : ℤ) :
    List (PaymentTransaction × ℕ) :=
  (stuckPayouts db tenantId olderThanMinutes now (·.openPayout)).filter
    (fun x => x.1.status.inQueue && (nonEmpty x.1.mpesaRef).isSome)

structure ReconcileReport where
  stuck : List ℕ
  resolved : List ResultReply
  deriving DecidableEq, Repr

/-- `POST /payments/reconcile-disbursements`. -/
def reconcileDisbursements (db : Db) (configured : Bool) (tenantId : ℕ) (olderThanMinutes now : ℤ)
    (simulate : Bool) (receipts : ℕ → String) : Except Failure (Db × ReconcileReport) :=
  let stuck := (stuckPayouts db tenantId olderThanMinutes now (·.openPayout)).map (·.2)
  if simulate && !configured then do
    let out ← simulateResults tenantId receipts now
      (reconcilable db tenantId olderThanMinutes now) db
    let saved ← out.1.commit
    return (saved, ⟨stuck, out.2⟩)
  else .ok (db, ⟨stuck, []⟩)

/-- The payout desk, the settings as they are now, the credentials each call was made with,
and the payouts Safaricom itself took in. -/
structure DarajaDesk where
  desk : PayoutDesk
  platform : Platform
  creds : ℕ → DarajaCreds
  live : List ℕ

/-- What happens at the desk. A payout's credentials are resolved when its intent is saved;
they can change before it is answered, and at any other time. -/
inductive DarajaEvent
  | disburse (tenantId loanId actorUserId : ℕ) (now : ℤ)
  | answer (txnId : ℕ) (ids : ConversationIds) (freshRef : String) (reply : DarajaReply)
  | stop (txnId : ℕ)
  | result (body : ResultBody) (now : ℤ)
  | timeout (body : ResultBody)
  | resolve (tenantId txnId : ℕ) (checker : Checker) (outcome : String) (receipt : Option String)
      (note : String) (now : ℤ)
  | repay (loanId : ℕ) (p : Payment)
  | upkeep (u : Upkeep)
  | configure (platform : Platform)
  | sweep (tenantId : ℕ) (stuckMinutes now : ℤ) (receipts : ℕ → String)
  | reconcile (tenantId : ℕ) (olderThanMinutes now : ℤ) (simulate : Bool) (receipts : ℕ → String)

namespace DarajaDesk

/-- The tenant has credentials now. -/
def configured (s : DarajaDesk) (tenantId : ℕ) : Bool :=
  (s.platform.resolveCreds tenantId).configured

/-- A call is under way for the transaction. -/
def calling (s : DarajaDesk) (txnId : ℕ) : Bool := s.desk.calls.any (fun c => c.txnId = txnId)

def step (s : DarajaDesk) : DarajaEvent → DarajaDesk
  | .disburse tenantId loanId actorUserId now => { s with
      desk := s.desk.step (.disburse tenantId loanId actorUserId now)
      creds := fun txnId => if txnId = s.desk.db.transactions.length then
        s.platform.resolveCreds tenantId else s.creds txnId }
  | .answer txnId ids freshRef reply =>
    let sent := b2cDisburse (s.creds txnId) ids freshRef reply
    { s with
      desk := s.desk.step (.answer txnId sent)
      live := if s.calling txnId && sent.takenIn then s.live ++ [txnId] else s.live }
  | .stop txnId => { s with desk := s.desk.step (.stop txnId) }
  | .result body now => { s with desk := s.desk.step (.result body now) }
  | .timeout body => { s with desk := s.desk.step (.timeout body) }
  | .resolve tenantId txnId checker outcome receipt note now =>
    { s with desk := s.desk.step (.resolve tenantId txnId checker outcome receipt note now) }
  | .repay loanId p => { s with desk := s.desk.step (.repay loanId p) }
  | .upkeep u => { s with desk := s.desk.step (.upkeep u) }
  | .configure platform => { s with platform := platform }
  | .sweep tenantId stuckMinutes now receipts => { s with
      desk := s.desk.saved ((sweepTenant s.desk.db (s.configured tenantId) tenantId stuckMinutes now
        receipts).map (·.1)) }
  | .reconcile tenantId olderThanMinutes now simulate receipts => { s with
      desk := s.desk.saved ((reconcileDisbursements s.desk.db (s.configured tenantId) tenantId
        olderThanMinutes now simulate receipts).map (·.1)) }

end DarajaDesk

/-- A result from Safaricom or the word of a person. -/
def DarajaEvent.byWord : DarajaEvent → Bool
  | .result .. | .resolve .. => true
  | _ => false

/-- A sweep or a reconciliation. -/
def DarajaEvent.sweeping : DarajaEvent → Bool
  | .sweep .. | .reconcile .. => true
  | _ => false

/-- What a step may do to a payout that Safaricom took in: only word of it settles it, and
a sweep changes neither its status nor, while it is unconfirmed, its loan. -/
def SettledByWord (s : DarajaDesk) (e : DarajaEvent) : Prop :=
  ∀ i ∈ s.live, ∀ t ∈ s.desk.db.transactions[i]?,
    ∃ t' ∈ (s.step e).desk.db.transactions[i]?,
      (e.byWord = false → t'.status = .success ∨ t'.status = .failed → t'.status = t.status) ∧
      (e.sweeping = true → t'.status = t.status ∧ (t.status.openPayout = true →
        ∀ loanId ∈ t.loanId, (s.step e).desk.db.loans[loanId]? = s.desk.db.loans[loanId]?))

/-- The payouts a step settles by simulation. -/
def simulated (s : DarajaDesk) : DarajaEvent → List (PaymentTransaction × ℕ)
  | .sweep tenantId stuckMinutes now _ =>
    if s.configured tenantId then []
    else stuckPayouts s.desk.db tenantId stuckMinutes now (·.inQueue)
  | .reconcile tenantId olderThanMinutes now simulate _ =>
    if simulate && !s.configured tenantId then
      reconcilable s.desk.db tenantId olderThanMinutes now
    else []
  | _ => []

/-- No sweep that simulates comes upon a payout that Safaricom took in, or upon another
payout of a loan that waits for one. -/
def SparesLive (s : DarajaDesk) (e : DarajaEvent) : Prop :=
  ∀ x ∈ simulated s e, x.2 ∉ s.live ∧
    ∀ i ∈ s.live, ∀ t ∈ s.desk.db.transactions[i]?, t.status.openPayout = true →
      t.loanId = x.1.loanId → ∀ loanId ∈ t.loanId, ∀ loan ∈ s.desk.db.loans[loanId]?,
        loan.status ≠ .processing

instance (s : DarajaDesk) (e : DarajaEvent) : Decidable (SparesLive s e) := by
  unfold SparesLive
  infer_instance

theorem stuckPayouts_type {db : Db} {tenantId : ℕ} {minutes now : ℤ} {p : TransactionStatus → Bool}
    {x : PaymentTransaction × ℕ} (hx : x ∈ stuckPayouts db tenantId minutes now p) :
    x.1.type = .b2c := by
  simp only [stuckPayouts, List.mem_insertionSort, List.mem_filter, Bool.and_eq_true,
    decide_eq_true_eq] at hx
  exact hx.2.1.1.2

theorem simulated_type {s : DarajaDesk} {e : DarajaEvent} {x : PaymentTransaction × ℕ}
    (hx : x ∈ simulated s e) : x.1.type = .b2c := by
  cases e with
  | sweep tenantId stuckMinutes now receipts =>
    simp only [simulated] at hx
    split at hx
    · cases hx
    · exact stuckPayouts_type hx
  | reconcile tenantId olderThanMinutes now simulate receipts =>
    simp only [simulated] at hx
    split at hx
    · exact stuckPayouts_type (List.mem_filter.mp hx).1
    · cases hx
  | _ => cases hx

/-- The result of a payout changes its transaction, and its loan if that waits for it. -/
theorem applyB2cResult_spares {db : Db} {tenantId txnId : ℕ} {txn : PaymentTransaction}
    {resultCode : String} {receipt : Option String} {now : ℤ} {out : Db × ResultReply}
    (htype : txn.type = .b2c)
    (h : applyB2cResult db tenantId txnId txn resultCode receipt now = .ok out) :
    out.1.transactions.length = db.transactions.length ∧
    (∀ i, txnId ≠ i → out.1.transactions[i]? = db.transactions[i]?) ∧
    ∀ loanId, (txn.loanId = some loanId → ∀ loan ∈ db.loans[loanId]?, loan.status ≠ .processing) →
      out.1.loans[loanId]? = db.loans[loanId]? := by
  have hpayout : ¬ txn.type = .refund := by simp [htype]
  simp only [applyB2cResult, hpayout, if_false] at h
  obtain ⟨-, hsame⟩ | ⟨-, f, htxns, -, hloans⟩ := settlePayout_eq_ok h
  · rw [hsame]
    exact ⟨rfl, fun _ _ => rfl, fun _ _ => rfl⟩
  refine ⟨by rw [htxns, List.length_modify], ?_, ?_⟩
  · intro i hi
    rw [htxns, List.getElem?_modify_ne _ _ hi]
  · intro loanId hwaits
    obtain ⟨id, loan, settled, hmoved, hheld, hprocessing, -, -⟩ | ⟨-, hsame⟩ := hloans
    · obtain ⟨hloan, hrow, -⟩ := loanOf_eq_some hheld
      have hother : id ≠ loanId := by
        rintro rfl
        exact hwaits hloan loan hrow hprocessing
      rw [hmoved, List.getElem?_modify_ne _ _ hother]
    · rw [hsame]

/-- Simulated results change the transactions they settle, and the loans that wait for one of
those. -/
theorem simulateResults_spares {tenantId : ℕ} {receipts : ℕ → String} {now : ℤ}
    {xs : List (PaymentTransaction × ℕ)} (htype : ∀ x ∈ xs, x.1.type = .b2c) {db : Db}
    {out : Db × List ResultReply} (h : simulateResults tenantId receipts now xs db = .ok out) :
    out.1.transactions.length = db.transactions.length ∧
    (∀ i, (∀ x ∈ xs, x.2 ≠ i) → out.1.transactions[i]? = db.transactions[i]?) ∧
    ∀ loanId, (∀ x ∈ xs, x.1.loanId = some loanId →
      ∀ loan ∈ db.loans[loanId]?, loan.status ≠ .processing) →
      out.1.loans[loanId]? = db.loans[loanId]? := by
  induction xs generalizing db out with
  | nil =>
    cases h
    exact ⟨rfl, fun _ _ => rfl, fun _ _ => rfl⟩
  | cons x rest ih =>
    obtain ⟨first, hfirst, h⟩ := bind_eq_ok.mp h
    obtain ⟨others, hothers, h⟩ := bind_eq_ok.mp h
    cases h
    obtain ⟨hlength, htxns, hloans⟩ :=
      applyB2cResult_spares (htype x (List.mem_cons_self ..)) hfirst
    obtain ⟨hrest, hrestTxns, hrestLoans⟩ :=
      ih (fun y hy => htype y (List.mem_cons_of_mem _ hy)) hothers
    refine ⟨hrest.trans hlength, ?_, ?_⟩
    · intro i hi
      have hx := htxns i (hi x (List.mem_cons_self ..))
      exact (hrestTxns i fun y hy => hi y (List.mem_cons_of_mem _ hy)).trans hx
    · intro loanId hwaits
      have hx := hloans loanId (hwaits x (List.mem_cons_self ..))
      refine (hrestLoans loanId fun y hy hloan => ?_).trans hx
      rw [hx]
      exact hwaits y (List.mem_cons_of_mem _ hy) hloan

/-- A sweep settles what it simulates, or changes nothing. -/
theorem DarajaDesk.step_sweeping (s : DarajaDesk) {e : DarajaEvent} (h : e.sweeping = true) :
    (s.step e).desk.calls = s.desk.calls ∧ (s.step e).live = s.live ∧
    ((s.step e).desk.db = s.desk.db ∨ ∃ tenantId receipts now out,
      simulateResults tenantId receipts now (simulated s e) s.desk.db = .ok out ∧
        (s.step e).desk.db = out.1) := by
  cases e with
  | sweep tenantId stuckMinutes now receipts =>
    cases hswept : sweepTenant s.desk.db
      (s.configured tenantId) tenantId stuckMinutes now receipts with
    | error failure => simp [step, hswept, Except.map, PayoutDesk.saved]
    | ok out =>
      simp only [step, hswept, Except.map, PayoutDesk.saved, true_and]
      simp only [sweepTenant] at hswept
      split at hswept
      · cases hswept
        exact .inl rfl
      split at hswept
      · cases hswept
        exact .inl rfl
      · rename_i hconfigured
        obtain ⟨settled, hsettled, hswept⟩ := bind_eq_ok.mp hswept
        obtain ⟨saved, hsaved, hswept⟩ := bind_eq_ok.mp hswept
        obtain ⟨-, rfl⟩ := Db.commit_eq_ok.mp hsaved
        cases hswept
        exact .inr ⟨tenantId, receipts, now, settled,
          by simpa [simulated, hconfigured] using hsettled, rfl⟩
  | reconcile tenantId olderThanMinutes now simulate receipts =>
    cases hswept : reconcileDisbursements s.desk.db
      (s.configured tenantId) tenantId olderThanMinutes
        now simulate receipts with
    | error failure => simp [step, hswept, Except.map, PayoutDesk.saved]
    | ok out =>
      simp only [step, hswept, Except.map, PayoutDesk.saved, true_and]
      simp only [reconcileDisbursements] at hswept
      split at hswept
      · rename_i hsimulates
        obtain ⟨settled, hsettled, hswept⟩ := bind_eq_ok.mp hswept
        obtain ⟨saved, hsaved, hswept⟩ := bind_eq_ok.mp hswept
        obtain ⟨-, rfl⟩ := Db.commit_eq_ok.mp hsaved
        cases hswept
        exact .inr ⟨tenantId, receipts, now, settled,
          by simpa [simulated, hsimulates] using hsettled, rfl⟩
      · cases hswept
        exact .inl rfl
  | _ => cases h

/-- A payment touches no transaction. -/
theorem receivePayment_transactions (db : Db) (loanId : ℕ) (p : Payment) :
    (receivePayment db loanId p).transactions = db.transactions := by
  cases hl : db.loans[loanId]? with
  | none => simp [receivePayment, hl]
  | some l =>
    obtain ⟨-, h⟩ | ⟨-, -, h⟩ | ⟨-, -, logs, borrowers, h⟩ := receivePayment_cases (p := p) hl
    · rw [h]
    · rw [h, recordSuspense]
    · rw [h]

/-- A timeout leaves a row as it is, or times it out. -/
theorem processB2cTimeout_row {db db' : Db} {body : ResultBody}
    (h : processB2cTimeout db body = .ok db') {i : ℕ} {t : PaymentTransaction}
    (ht : db.transactions[i]? = some t) :
    ∃ t' ∈ db'.transactions[i]?, t'.status = t.status ∨ t'.status = .timedOut := by
  simp only [processB2cTimeout] at h
  split at h
  · cases h
  rename_i txnId txn hfound
  obtain ⟨-, rfl⟩ := Db.commit_eq_ok.mp h
  obtain hkept | ⟨-, f, hmarked, hset⟩ := markB2cTimeout_cases db txnId txn
  · rw [hkept]
    exact ⟨t, ht, .inl rfl⟩
  · simp only [hmarked, List.getElem?_modify, ht]
    by_cases hi : txnId = i
    · exact ⟨f t, by simp [hi], .inr (hset t).2⟩
    · exact ⟨t, by simp [hi], .inl rfl⟩

/-- A row stays, and only an answer to its own call, a result or a resolution settles it. -/
theorem PayoutDesk.step_row (s : PayoutDesk) (e : PayoutEvent) {i : ℕ} {t : PaymentTransaction}
    (ht : s.db.transactions[i]? = some t) : ∃ t' ∈ (s.step e).db.transactions[i]?,
      (t'.status = t.status ∨ t'.status = .timedOut ∨ (∃ body now, e = .result body now) ∨
        (∃ tenantId txnId checker outcome receipt note now,
          e = .resolve tenantId txnId checker outcome receipt note now) ∨
        ∃ reply, e = .answer i reply ∧ ∃ c ∈ s.calls, c.txnId = i) := by
  have hsame : ∃ t' ∈ s.db.transactions[i]?, t'.status = t.status := ⟨t, ht, rfl⟩
  cases e with
  | disburse tenantId loanId actorUserId now =>
    simp only [step]
    split
    · exact hsame.imp fun t' h => ⟨h.1, .inl h.2⟩
    rename_i out hout
    split
    · exact hsame.imp fun t' h => ⟨h.1, .inl h.2⟩
    rename_i db hcommit
    obtain ⟨-, rfl⟩ := Db.commit_eq_ok.mp hcommit
    obtain ⟨-, -, intent, -, -, -, -, -, -, -, htxns, -, -, -⟩ := beginDisbursement_eq_ok hout
    refine ⟨t, ?_, .inl rfl⟩
    rw [htxns, List.getElem?_append_left (List.getElem?_eq_some_iff.mp ht).1]
    exact ht
  | answer txnId reply =>
    simp only [step]
    split
    · exact hsame.imp fun t' h => ⟨h.1, .inl h.2⟩
    rename_i call hfound
    simp only [hangUp]
    cases hdone : (finishDisbursement s.db call.tenantId call.loanId txnId (sendB2c reply)).1 with
    | error failure => exact hsame.imp fun t' h => ⟨h.1, .inl h.2⟩
    | ok db =>
      obtain ⟨status, f, htxns, -, -⟩ := finishDisbursement_eq_ok hdone
      simp only [saved, htxns, List.getElem?_modify, ht]
      by_cases hi : txnId = i
      · have hcall : call.txnId = txnId := by simpa using List.find?_some hfound
        refine ⟨f t, by simp [hi], .inr (.inr (.inr (.inr ⟨reply, by rw [hi], call, ?_, ?_⟩)))⟩
        · exact List.mem_of_find?_eq_some hfound
        · rw [hcall, hi]
      · exact ⟨t, by simp [hi], .inl rfl⟩
  | stop txnId => exact hsame.imp fun t' h => ⟨h.1, .inl h.2⟩
  | result body now =>
    simp only [step]
    cases hdone : processB2cResult s.db body now with
    | error failure => exact hsame.imp fun t' h => ⟨h.1, .inl h.2⟩
    | ok db =>
      obtain ⟨t', ht', -⟩ := (processB2cResult_deed hdone).stays ht
      exact ⟨t', ht', .inr (.inr (.inl ⟨body, now, rfl⟩))⟩
  | timeout body =>
    simp only [step]
    cases hdone : processB2cTimeout s.db body with
    | error failure => exact hsame.imp fun t' h => ⟨h.1, .inl h.2⟩
    | ok db =>
      obtain ⟨t', ht', hkept | htimed⟩ := processB2cTimeout_row hdone ht
      · exact ⟨t', ht', .inl hkept⟩
      · exact ⟨t', ht', .inr (.inl htimed)⟩
  | resolve tenantId txnId checker outcome receipt note now =>
    simp only [step]
    cases hdone : resolvePayoutRequest s.db tenantId txnId checker outcome receipt note now with
    | error failure => exact hsame.imp fun t' h => ⟨h.1, .inl h.2⟩
    | ok db =>
      obtain ⟨t', ht', -⟩ := (resolvePayoutRequest_deed hdone).stays ht
      exact ⟨t', ht', .inr (.inr (.inr (.inl ⟨tenantId, txnId, checker, outcome, receipt, note, now,
        rfl⟩)))⟩
  | repay loanId p =>
    simp only [step, receivePayment_transactions]
    exact hsame.imp fun t' h => ⟨h.1, .inl h.2⟩
  | upkeep u =>
    obtain ⟨loans, configs, hdb⟩ := u.apply_db s.db
    simp only [step, hdb]
    exact hsame.imp fun t' h => ⟨h.1, .inl h.2⟩

/-- Calls after a step: those of before, or one for a row that came in. -/
theorem PayoutDesk.step_calls (s : PayoutDesk) (e : PayoutEvent) :
    s.db.transactions.length ≤ (s.step e).db.transactions.length ∧
    ∀ c ∈ (s.step e).calls, c ∈ s.calls ∧
      (∀ txnId reply, e = .answer txnId reply → c.txnId ≠ txnId) ∨
      (c.txnId = s.db.transactions.length ∧
        s.db.transactions.length < (s.step e).db.transactions.length) := by
  have hlength : s.db.transactions.length ≤ (s.step e).db.transactions.length := by
    by_contra hlt
    have hi : (s.step e).db.transactions.length < s.db.transactions.length := by omega
    obtain ⟨t', ht', -⟩ := s.step_row e (List.getElem?_eq_getElem hi)
    have hstays := (List.getElem?_eq_some_iff.mp ht').1
    omega
  refine ⟨hlength, fun c hc => ?_⟩
  cases e with
  | disburse tenantId loanId actorUserId now =>
    simp only [step] at hc ⊢
    split at hc
    · exact .inl ⟨hc, by simp⟩
    rename_i out hout
    split at hc
    · exact .inl ⟨hc, by simp⟩
    rename_i db hcommit
    obtain ⟨-, rfl⟩ := Db.commit_eq_ok.mp hcommit
    obtain ⟨-, -, intent, -, -, -, -, -, -, -, htxns, hid, -, -⟩ := beginDisbursement_eq_ok hout
    obtain hold | hnew := List.mem_append.mp hc
    · exact .inl ⟨hold, by simp⟩
    · obtain rfl := List.mem_singleton.mp hnew
      refine .inr ⟨hid, ?_⟩
      show s.db.transactions.length < out.1.transactions.length
      simp only [htxns, List.length_append, List.length_singleton]
      omega
  | answer txnId reply =>
    have hfilter : (∃ call, s.calls.find? (fun call => call.txnId = txnId) = some call) →
        c ∈ s.calls ∧ c.txnId ≠ txnId := by
      rintro ⟨call, hfound⟩
      simp only [step, hfound, hangUp] at hc
      have hmem := List.mem_filter.mp hc
      refine ⟨?_, by simpa using hmem.2⟩
      cases hdone : (finishDisbursement s.db call.tenantId call.loanId txnId (sendB2c reply)).1 <;>
        simpa [hdone, saved] using hmem.1
    cases hfound : s.calls.find? (fun call => call.txnId = txnId) with
    | none =>
      simp only [step, hfound] at hc
      have hother : c.txnId ≠ txnId := by simpa using List.find?_eq_none.mp hfound c hc
      refine .inl ⟨hc, fun id r heq => ?_⟩
      obtain ⟨rfl, -⟩ := PayoutEvent.answer.inj heq
      exact hother
    | some call =>
      obtain ⟨hold, hother⟩ := hfilter ⟨call, hfound⟩
      refine .inl ⟨hold, fun id r heq => ?_⟩
      obtain ⟨rfl, -⟩ := PayoutEvent.answer.inj heq
      exact hother
  | stop txnId => exact .inl ⟨List.mem_of_mem_filter hc, by simp⟩
  | result body now =>
    refine .inl ⟨?_, by simp⟩
    cases hdone : processB2cResult s.db body now <;> simpa [step, saved, hdone] using hc
  | timeout body =>
    refine .inl ⟨?_, by simp⟩
    cases hdone : processB2cTimeout s.db body <;> simpa [step, saved, hdone] using hc
  | resolve tenantId txnId checker outcome receipt note now =>
    refine .inl ⟨?_, by simp⟩
    cases hdone : resolvePayoutRequest s.db tenantId txnId checker outcome receipt note now <;>
      simpa [step, saved, hdone] using hc
  | repay loanId p => exact .inl ⟨hc, by simp⟩
  | upkeep u => exact .inl ⟨hc, by simp⟩

/-- Payouts that Safaricom took in are rows whose call is over. -/
structure LiveSound (s : DarajaDesk) : Prop where
  rows : ∀ i ∈ s.live, i < s.desk.db.transactions.length
  calls : ∀ c ∈ s.desk.calls, c.txnId < s.desk.db.transactions.length ∧ c.txnId ∉ s.live

/-- A step of the payout desk that adds to the live payouts at most the one it answers. -/
theorem LiveSound.of_desk {s s' : DarajaDesk} (h : LiveSound s) (e : PayoutEvent)
    (hdesk : s'.desk = s.desk.step e)
    (hlive : ∀ i ∈ s'.live, i ∈ s.live ∨ ((∃ reply, e = .answer i reply) ∧ s.calling i = true)) :
    LiveSound s' := by
  obtain ⟨hlength, hcalls⟩ := s.desk.step_calls e
  constructor
  · intro i hi
    rw [hdesk]
    obtain hold | ⟨-, hcalling⟩ := hlive i hi
    · have := h.rows i hold
      omega
    · obtain ⟨c, hc, hid⟩ := List.any_eq_true.mp hcalling
      have := (h.calls c hc).1
      have hid : c.txnId = i := by simpa using hid
      omega
  · intro c hc
    rw [hdesk] at hc ⊢
    obtain ⟨hold, hother⟩ | ⟨hnew, hgrown⟩ := hcalls c hc
    · obtain ⟨hlt, hnotLive⟩ := h.calls c hold
      refine ⟨by omega, fun hi => ?_⟩
      obtain hlive | ⟨⟨reply, heq⟩, -⟩ := hlive c.txnId hi
      · exact hnotLive hlive
      · exact hother _ reply heq rfl
    · refine ⟨by omega, fun hi => ?_⟩
      obtain hlive | ⟨⟨reply, heq⟩, hcalling⟩ := hlive c.txnId hi
      · have := h.rows c.txnId hlive
        omega
      · obtain ⟨c', hc', hid⟩ := List.any_eq_true.mp hcalling
        have := (h.calls c' hc').1
        have hid : c'.txnId = c.txnId := by simpa using hid
        omega

theorem LiveSound.of_sweeping {s : DarajaDesk} (h : LiveSound s) {e : DarajaEvent}
    (hsweeping : e.sweeping = true) : LiveSound (s.step e) := by
  obtain ⟨hcalls, hlive, hdb⟩ := s.step_sweeping hsweeping
  have hlength : (s.step e).desk.db.transactions.length = s.desk.db.transactions.length := by
    obtain hsame | ⟨tenantId, receipts, now, out, hout, hdb⟩ := hdb
    · rw [hsame]
    · rw [hdb]
      exact (simulateResults_spares (fun x hx => simulated_type hx) hout).1
  constructor
  · intro i hi
    rw [hlive] at hi
    rw [hlength]
    exact h.rows i hi
  · intro c hc
    rw [hcalls] at hc
    rw [hlive, hlength]
    exact h.calls c hc

theorem LiveSound.step {s : DarajaDesk} (h : LiveSound s) (e : DarajaEvent) :
    LiveSound (s.step e) := by
  cases e with
  | disburse tenantId loanId actorUserId now =>
    exact h.of_desk (.disburse tenantId loanId actorUserId now) rfl fun i hi => .inl hi
  | answer txnId ids freshRef reply =>
    refine h.of_desk (.answer txnId (b2cDisburse (s.creds txnId) ids freshRef reply)) rfl
      fun i hi => ?_
    simp only [DarajaDesk.step] at hi
    split at hi
    · rename_i htaken
      rw [Bool.and_eq_true] at htaken
      obtain hold | hnew := List.mem_append.mp hi
      · exact .inl hold
      · obtain rfl := List.mem_singleton.mp hnew
        exact .inr ⟨⟨_, rfl⟩, htaken.1⟩
    · exact .inl hi
  | stop txnId => exact h.of_desk (.stop txnId) rfl fun i hi => .inl hi
  | result body now => exact h.of_desk (.result body now) rfl fun i hi => .inl hi
  | timeout body => exact h.of_desk (.timeout body) rfl fun i hi => .inl hi
  | resolve tenantId txnId checker outcome receipt note now =>
    exact h.of_desk (.resolve tenantId txnId checker outcome receipt note now) rfl
      fun i hi => .inl hi
  | repay loanId p => exact h.of_desk (.repay loanId p) rfl fun i hi => .inl hi
  | upkeep u => exact h.of_desk (.upkeep u) rfl fun i hi => .inl hi
  | configure platform => exact ⟨h.rows, h.calls⟩
  | sweep tenantId stuckMinutes now receipts => exact h.of_sweeping rfl
  | reconcile tenantId olderThanMinutes now simulate receipts => exact h.of_sweeping rfl

/-- A step of the payout desk settles a payout that Safaricom took in only by word. -/
theorem LiveSound.desk_row {s s' : DarajaDesk} (h : LiveSound s) (e : PayoutEvent)
    (hdesk : s'.desk = s.desk.step e) {i : ℕ} (hi : i ∈ s.live) {t : PaymentTransaction}
    (ht : s.desk.db.transactions[i]? = some t) : ∃ t' ∈ s'.desk.db.transactions[i]?,
      ((∃ body now, e = .result body now) ∨
        (∃ tenantId txnId checker outcome receipt note now,
          e = .resolve tenantId txnId checker outcome receipt note now) ∨
        (t'.status = .success ∨ t'.status = .failed → t'.status = t.status)) := by
  obtain ⟨t', ht', hsame | hlate | hresult | hresolve | ⟨reply, -, c, hc, hid⟩⟩ :=
    s.desk.step_row e ht
  · exact ⟨t', hdesk ▸ ht', .inr (.inr fun _ => hsame)⟩
  · exact ⟨t', hdesk ▸ ht', .inr (.inr (by simp [hlate]))⟩
  · exact ⟨t', hdesk ▸ ht', .inl hresult⟩
  · exact ⟨t', hdesk ▸ ht', .inr (.inl hresolve)⟩
  · exact absurd (hid ▸ hi) (h.calls c hc).2

/-- A sweep that spares the live payouts leaves them and the loans that wait for them. -/
theorem settledByWord_of_sweeping {s : DarajaDesk} {e : DarajaEvent}
    (hsweeping : e.sweeping = true) (hspares : SparesLive s e) : SettledByWord s e := by
  intro i hi t ht
  obtain ⟨-, -, hsame | ⟨tenantId, receipts, now, out, hout, hdb⟩⟩ := s.step_sweeping hsweeping
  · rw [hsame]
    exact ⟨t, ht, fun _ _ => rfl, fun _ => ⟨rfl, fun _ _ _ => rfl⟩⟩
  obtain ⟨-, htxns, hloans⟩ := simulateResults_spares (fun x hx => simulated_type hx) hout
  have hrow : (s.step e).desk.db.transactions[i]? = s.desk.db.transactions[i]? := by
    rw [hdb]
    exact htxns i fun x hx heq => (hspares x hx).1 (heq ▸ hi)
  refine ⟨t, hrow.trans ht, fun _ _ => rfl, fun _ => ⟨rfl, fun hopen loanId hloanId => ?_⟩⟩
  rw [hdb]
  refine hloans loanId fun x hx hxloan loan hloan => ?_
  exact (hspares x hx).2 i hi t ht hopen (hloanId.trans hxloan.symm) loanId hloanId loan hloan

/-- Step by step: a live payout is settled by word, as long as sweeps that simulate spare it. -/
theorem settledByWord_of_sparesLive {s : DarajaDesk} (h : LiveSound s) {e : DarajaEvent}
    (hspares : SparesLive s e) : SettledByWord s e := by
  by_cases hsweeping : e.sweeping = true
  · exact settledByWord_of_sweeping hsweeping hspares
  have hnotSweeping : e.sweeping = false := by simpa using hsweeping
  intro i hi t ht
  have hbyDesk : ∀ p : PayoutEvent, (s.step e).desk = s.desk.step p →
      (∀ body now, p = .result body now → e.byWord = true) →
      (∀ tenantId txnId checker outcome receipt note now,
        p = .resolve tenantId txnId checker outcome receipt note now → e.byWord = true) →
      ∃ t' ∈ (s.step e).desk.db.transactions[i]?,
        (e.byWord = false → t'.status = .success ∨ t'.status = .failed → t'.status = t.status) ∧
        (e.sweeping = true → t'.status = t.status ∧ (t.status.openPayout = true →
          ∀ loanId ∈ t.loanId,
            (s.step e).desk.db.loans[loanId]? = s.desk.db.loans[loanId]?)) := by
    intro p hdesk hresult hresolve
    obtain ⟨t', ht', hsettled⟩ := h.desk_row p hdesk hi ht
    refine ⟨t', ht', fun hnotWord => ?_, by simp [hnotSweeping]⟩
    obtain ⟨body, now, hp⟩ | ⟨tid, id, checker, outcome, receipt, note, now, hp⟩ | hkept := hsettled
    · simp [hresult body now hp] at hnotWord
    · simp [hresolve tid id checker outcome receipt note now hp] at hnotWord
    · exact hkept
  cases e with
  | disburse tenantId loanId actorUserId now =>
    exact hbyDesk (.disburse tenantId loanId actorUserId now) rfl (by simp) (by simp)
  | answer txnId ids freshRef reply =>
    exact hbyDesk (.answer txnId (b2cDisburse (s.creds txnId) ids freshRef reply)) rfl
      (by simp) (by simp)
  | stop txnId => exact hbyDesk (.stop txnId) rfl (by simp) (by simp)
  | result body now =>
    exact hbyDesk (.result body now) rfl (fun _ _ _ => rfl) (fun _ _ _ _ _ _ _ _ => rfl)
  | timeout body => exact hbyDesk (.timeout body) rfl (by simp) (by simp)
  | resolve tenantId txnId checker outcome receipt note now =>
    exact hbyDesk (.resolve tenantId txnId checker outcome receipt note now) rfl
      (fun _ _ _ => rfl) (fun _ _ _ _ _ _ _ _ => rfl)
  | repay loanId p => exact hbyDesk (.repay loanId p) rfl (by simp) (by simp)
  | upkeep u => exact hbyDesk (.upkeep u) rfl (by simp) (by simp)
  | configure platform =>
    exact ⟨t, ht, fun _ _ => rfl, fun hsweep => by simp [DarajaEvent.sweeping] at hsweep⟩
  | sweep tenantId stuckMinutes now receipts => cases hnotSweeping
  | reconcile tenantId olderThanMinutes now simulate receipts => cases hnotSweeping

/-- The desk before any request was sent. -/
def DarajaDesk.opened (db : Db) (platform : Platform) (creds : ℕ → DarajaCreds) : DarajaDesk :=
  ⟨⟨db, []⟩, platform, creds, []⟩

/-- Whatever happens to the settings, payouts that Safaricom took in are settled by word of
Safaricom or of a person, as long as sweeps that simulate spare them. -/
theorem live_payouts_settled_by_word (db : Db) (platform : Platform) (creds : ℕ → DarajaCreds)
    (es : List DarajaEvent)
    (h : AllSteps DarajaDesk.step SparesLive (DarajaDesk.opened db platform creds) es) :
    AllSteps DarajaDesk.step SettledByWord (DarajaDesk.opened db platform creds) es := by
  have hstart : LiveSound (DarajaDesk.opened db platform creds) := by
    constructor
    · intro i hi
      cases hi
    · intro c hc
      cases hc
  have hstep : ∀ s e, LiveSound s → SparesLive s e → LiveSound (s.step e) ∧ SettledByWord s e :=
    fun s e hs hspares => ⟨hs.step e, settledByWord_of_sparesLive hs hspares⟩
  exact allSteps_of_invariant hstep hstart h

/-- Tenant 1 with credentials of its own, over a platform without. -/
def livePlatform : Platform where
  integrations := [⟨1, "daraja", true, some "600100", none, none, some "key", some "secret", none,
    none⟩]
  modules := [⟨1, "payments", true⟩]
  settings := unfinishedPlatform.settings
  uqTenantIntegration := by decide
  uqTenantModule := by decide

/-- The same platform with the integration of tenant 1 switched off. -/
def disabledPlatform : Platform where
  integrations := [⟨1, "daraja", false, some "600100", none, none, some "key", some "secret", none,
    none⟩]
  modules := livePlatform.modules
  settings := livePlatform.settings
  uqTenantIntegration := by decide
  uqTenantModule := by decide

/-- A payout that Safaricom takes in. -/
def livePayout : List DarajaEvent :=
  [.disburse 1 0 9 100, .answer 0 ⟨"AG_1", "AG_2"⟩ "B2C1"
    (.answered (some "0") none (some "AG_7") (some "O-7"))]

/-- Swept while the credentials are there, the payout waits for its result. -/
theorem live_payouts_settled_by_word_reported :
    AllSteps DarajaDesk.step SettledByWord (DarajaDesk.opened approvedBook livePlatform
      fun _ => livePlatform.settings) (livePayout ++ [.sweep 1 30 10000 fun _ => "SIMREC",
        .result (resultOf "AG_7" "0" "SGX7") 10100]) :=
  live_payouts_settled_by_word approvedBook livePlatform _ _ (by decide)

/-- Switched off before the sweep, a payout that Safaricom has in hand counts as paid. -/
theorem live_payout_simulated : ¬ AllSteps DarajaDesk.step SettledByWord
    (DarajaDesk.opened approvedBook livePlatform fun _ => livePlatform.settings)
    (livePayout ++ [.configure disabledPlatform, .sweep 1 30 10000 fun _ => "SIMREC"]) := by
  intro h
  let s := run DarajaDesk.step (DarajaDesk.opened approvedBook livePlatform
    fun _ => livePlatform.settings) (livePayout ++ [.configure disabledPlatform])
  let e : DarajaEvent := .sweep 1 30 10000 fun _ => "SIMREC"
  have hkept : ∀ t ∈ s.desk.db.transactions[0]?,
      ∃ t' ∈ (s.step e).desk.db.transactions[0]?, t'.status = t.status := by
    intro t ht
    have hsweep : SettledByWord s e := h.2.2.2.1
    obtain ⟨t', ht', -, hsame⟩ := hsweep 0 (by decide +kernel) t ht
    exact ⟨t', ht', (hsame rfl).1⟩
  have hpaid : ¬ ∀ t ∈ s.desk.db.transactions[0]?,
      ∃ t' ∈ (s.step e).desk.db.transactions[0]?, t'.status = t.status := by
    decide +kernel
  exact hpaid hkept

end FinylDcp
