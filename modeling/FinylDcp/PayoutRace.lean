import FinylDcp.Interleaving
import FinylDcp.PayoutEffects

/-!
# A result and a person at once

The callback of a payout reads the transaction and then the loan, and locks neither; a
person's resolution locks the transaction. Both settle it the same way and write the
columns they changed at their commit. The two stay together unless the resolution
commits between the two reads of the callback and says the opposite.
-/
namespace FinylDcp
open Interleaving Runs

/-- A settlement under way: the transaction as it was read, the result, and whether the
row of the transaction is locked. -/
structure Settlement where
  locked : Bool
  tenantId : ℕ
  txnId : ℕ
  txn : PaymentTransaction
  resultCode : String
  receipt : Option String
  now : ℤ
  deriving DecidableEq, Repr

/-- Settle the payout or refund with the objects the session holds, and commit. -/
def Settlement.save (x : Settlement) (db : Db) (held : Option (ℕ × Loan)) : Except Failure Db :=
  if x.txn.type = .refund then
    (applyRefundResult db x.tenantId x.txnId x.txn x.resultCode x.receipt x.now).1.commit
  else do
    let out ← settlePayout db x.tenantId x.txnId x.txn held x.resultCode x.receipt x.now
    out.1.commit

/-- A person's decision on a payout. -/
structure Resolution where
  tenantId : ℕ
  txnId : ℕ
  checker : Checker
  outcome : String
  receipt : Option String
  note : String
  now : ℤ

/-- Where a session stands: it has yet to read the transaction, it has read it, it has read
the loan too, or it is over. -/
inductive Settling
  | result (body : ResultBody) (now : ℤ)
  | resolution (r : Resolution)
  | read (x : Settlement)
  | loaded (x : Settlement) (held : Option (ℕ × Loan))
  | ended

/-- The committed database, and who has locked which transaction row. -/
structure PayoutHub where
  db : Db
  locks : ℕ → Option ℕ

namespace PayoutHub

/-- The row is free for a session, or its own. -/
def free (hub : PayoutHub) (i txnId : ℕ) : Bool := (hub.locks txnId).all (· = i)

def lock (hub : PayoutHub) (i txnId : ℕ) : PayoutHub :=
  { hub with locks := fun row => if row = txnId then some i else hub.locks row }

def release (hub : PayoutHub) (i : ℕ) : PayoutHub :=
  { hub with locks := fun row => if hub.locks row = some i then none else hub.locks row }

end PayoutHub

/-- The next step of a session; none while it waits for the row. -/
def Settling.next (i : ℕ) (hub : PayoutHub) : Settling → Option (PayoutHub × Settling)
  | .result body now =>
    match findB2cTxn hub.db body.conversationId body.originatorId with
    | none => some (hub, .ended)
    | some (txnId, txn) => some (hub, .read
        ⟨false, txn.tenantId, txnId, txn, body.resultCode, body.transactionId, now⟩)
  | .resolution r =>
    if !hub.free i r.txnId then none
    else
      match payoutToResolve hub.db r.tenantId r.txnId r.checker with
      | .error _ => some (hub, .ended)
      | .ok txn =>
        match payoutResolution txn r.outcome r.receipt r.note with
        | .error _ => some (hub, .ended)
        | .ok said => some (hub.lock i r.txnId, .read
            ⟨true, r.tenantId, r.txnId, said.1, said.2.1, said.2.2, r.now⟩)
  | .read x => some (hub, .loaded x (loanOf hub.db x.tenantId x.txn))
  | .loaded x held =>
    if !hub.free i x.txnId then none
    else
      match x.save hub.db held with
      | .error _ => some (hub.release i, .ended)
      | .ok db => some ({ hub.release i with db := db }, .ended)
  | .ended => none

/-- What one step of a session does. -/
inductive Settling.Moves (i : ℕ) (hub : PayoutHub) : Settling → PayoutHub × Settling → Prop
  | ends (s : Settling) : Moves i hub s (hub, .ended)
  | finds (body : ResultBody) (now : ℤ) (txnId : ℕ) (txn : PaymentTransaction)
      (hfound : findB2cTxn hub.db body.conversationId body.originatorId = some (txnId, txn)) :
      Moves i hub (.result body now) (hub, .read
        ⟨false, txn.tenantId, txnId, txn, body.resultCode, body.transactionId, now⟩)
  | locks (r : Resolution) (txn : PaymentTransaction)
      (said : PaymentTransaction × String × Option String) (hfree : hub.free i r.txnId = true)
      (htxn : payoutToResolve hub.db r.tenantId r.txnId r.checker = .ok txn)
      (hsaid : payoutResolution txn r.outcome r.receipt r.note = .ok said) :
      Moves i hub (.resolution r) (hub.lock i r.txnId, .read
        ⟨true, r.tenantId, r.txnId, said.1, said.2.1, said.2.2, r.now⟩)
  | loads (x : Settlement) :
      Moves i hub (.read x) (hub, .loaded x (loanOf hub.db x.tenantId x.txn))
  | fails (x : Settlement) (held : Option (ℕ × Loan)) :
      Moves i hub (.loaded x held) (hub.release i, .ended)
  | saves (x : Settlement) (held : Option (ℕ × Loan)) (db : Db) (hfree : hub.free i x.txnId = true)
      (hsaved : x.save hub.db held = .ok db) :
      Moves i hub (.loaded x held) ({ hub.release i with db := db }, .ended)

theorem Settling.next_moves {i : ℕ} {hub : PayoutHub} {s : Settling} {out : PayoutHub × Settling}
    (h : s.next i hub = some out) : s.Moves i hub out := by
  cases s with
  | result body now =>
    simp only [next] at h
    split at h
    · cases h
      exact .ends _
    · rename_i txnId txn hfound
      cases h
      exact .finds body now txnId txn hfound
  | resolution r =>
    simp only [next] at h
    split at h
    · cases h
    rename_i hfree
    split at h
    · cases h
      exact .ends _
    rename_i txn htxn
    split at h
    · cases h
      exact .ends _
    · rename_i said hsaid
      cases h
      exact .locks r txn said (by simpa using hfree) htxn hsaid
  | read x =>
    cases h
    exact .loads x
  | loaded x held =>
    simp only [next] at h
    split at h
    · cases h
    rename_i hfree
    split at h
    · cases h
      exact .fails x held
    · rename_i db hsaved
      cases h
      exact .saves x held db (by simpa using hfree) hsaved
  | ended => cases h

/-- A callback and any number of resolutions about to start. -/
def settlements (db : Db) (body : ResultBody) (now : ℤ) (rs : List Resolution) :
    World PayoutHub Settling :=
  ⟨⟨db, fun _ => none⟩, .result body now :: rs.map .resolution⟩

/-- No payout that went out has its loan payable again, and none that did not has it active. -/
def SettledTogether (txnId loanId : ℕ) (db : Db) : Prop :=
  ∀ row ∈ db.transactions[txnId]?, ∀ loan ∈ db.loans[loanId]?,
    ¬ (row.status = .success ∧ loan.status = .approved) ∧
    ¬ (row.status = .failed ∧ loan.status = .active)

instance (txnId loanId : ℕ) (db : Db) : Decidable (SettledTogether txnId loanId db) := by
  unfold SettledTogether
  infer_instance

/-- When a session reads the loan, the transaction it is about to settle is still
unconfirmed, or has been settled the same way. -/
def Settling.SeesOnePayout (hub : PayoutHub) : Settling → Prop
  | .read x => x.txn.status.settleable = true → ∀ row ∈ hub.db.transactions[x.txnId]?,
      row.status.openPayout = true ∨ row.status = payoutOutcome x.resultCode
  | _ => True

/-- The session that moves sees one payout. -/
def SeesOnePayout (w : World PayoutHub Settling) (i : ℕ) : Prop :=
  ∀ s ∈ w.locals[i]?, s.SeesOnePayout w.shared

instance (hub : PayoutHub) (s : Settling) : Decidable (s.SeesOnePayout hub) := by
  unfold Settling.SeesOnePayout
  split <;> infer_instance

instance (w : World PayoutHub Settling) (i : ℕ) : Decidable (SeesOnePayout w i) :=
  inferInstanceAs (Decidable (∀ s ∈ w.locals[i]?, _))

/-- The payout is that of the loan, the only unconfirmed one, and the two agree. -/
structure PayoutSound (txnId loanId : ℕ) (db : Db) (row : PaymentTransaction) (loan : Loan) :
    Prop where
  txns : db.transactions[txnId]? = some row
  loans : db.loans[loanId]? = some loan
  kind : row.kind = (loan.tenantId, .b2c, some loanId)
  others : ∀ (i : ℕ) (other : PaymentTransaction), i ≠ txnId → db.transactions[i]? = some other →
    other.pays loanId = true → other.status.openPayout = false
  agree : (row.status.openPayout = true ∧ loan.status = .processing) ∨
    (row.status = .success ∧ loan.status ≠ .approved) ∨
      (row.status = .failed ∧ loan.status ≠ .active)

theorem PayoutSound.settledTogether {txnId loanId : ℕ} {db : Db} {row : PaymentTransaction}
    {loan : Loan} (h : PayoutSound txnId loanId db row loan) : SettledTogether txnId loanId db := by
  intro row' hrow' loan' hloan'
  obtain rfl := Option.some.inj (hrow'.symm.trans h.txns)
  obtain rfl := Option.some.inj (hloan'.symm.trans h.loans)
  obtain ⟨hopen, -⟩ | ⟨hsuccess, hloan⟩ | ⟨hfailed, hloan⟩ := h.agree
  · refine ⟨fun hbad => ?_, fun hbad => ?_⟩ <;>
      simp [hbad.1, TransactionStatus.openPayout] at hopen
  · exact ⟨fun hbad => hloan hbad.2, fun hbad => by simp [hsuccess] at hbad⟩
  · exact ⟨fun hbad => by simp [hfailed] at hbad, fun hbad => hloan hbad.2⟩

theorem payoutOutcome_not_open (resultCode : String) :
    (payoutOutcome resultCode).openPayout = false := by
  unfold payoutOutcome
  split_ifs <;> rfl

/-- What a settlement commits: nothing, or its outcome on the transaction, and on the loan
it read if that was waiting. -/
theorem Settlement.save_eq_ok {x : Settlement} {db saved : Db} {held : Option (ℕ × Loan)}
    (h : x.save db held = .ok saved) :
    saved = db ∨ (x.txn.status.settleable = true ∧
      ∃ f, saved.transactions = db.transactions.modify x.txnId f ∧
        SetsStatus (payoutOutcome x.resultCode) f ∧
        ((∃ loanId loan settled, x.txn.type ≠ .refund ∧ held = some (loanId, loan) ∧
            loan.status = .processing ∧ settled.status = loanOutcome x.resultCode ∧
            settled.tenantId = loan.tenantId ∧
            saved.loans = db.loans.modify loanId (fun row => row.flush loan settled)) ∨
          ((x.txn.type = .refund ∨ ∀ loanId loan, held = some (loanId, loan) →
            loan.status ≠ .processing) ∧ saved.loans = db.loans))) := by
  simp only [save] at h
  split at h
  · rename_i hrefund
    obtain ⟨-, rfl⟩ := Db.commit_eq_ok.mp h
    obtain ⟨hloans, ⟨-, hsame⟩ | ⟨hsettleable, f, htxns, hset⟩⟩ :=
      applyRefundResult_transactions db x.tenantId x.txnId x.txn x.resultCode x.receipt x.now
    · exact .inl hsame
    · exact .inr ⟨hsettleable, f, htxns, hset, .inr ⟨.inl hrefund, hloans⟩⟩
  · rename_i hrefund
    obtain ⟨out, hout, hcommit⟩ := bind_eq_ok.mp h
    obtain ⟨-, rfl⟩ := Db.commit_eq_ok.mp hcommit
    obtain ⟨-, hsame⟩ | ⟨hsettleable, f, htxns, hset, hmoved⟩ := settlePayout_eq_ok hout
    · exact .inl hsame
    · refine .inr ⟨hsettleable, f, htxns, hset, ?_⟩
      obtain ⟨loanId, loan, settled, hloans, hheld, hprocessing, hstatus, htenant⟩ |
        ⟨hnone, hloans⟩ := hmoved
      · exact .inl ⟨loanId, loan, settled, hrefund, hheld, hprocessing, hstatus, htenant, hloans⟩
      · exact .inr ⟨.inr hnone, hloans⟩

section Commit

variable {txnId loanId : ℕ} {db saved : Db} {row : PaymentTransaction} {loan : Loan}
  {status : TransactionStatus} {f : PaymentTransaction → PaymentTransaction}

/-- Another transaction is settled. -/
theorem PayoutSound.mark_other (h : PayoutSound txnId loanId db row loan) {x : ℕ}
    (hother : x ≠ txnId)
    (htxns : saved.transactions = db.transactions.modify x f) (hset : SetsStatus status f)
    (hclosed : status.openPayout = false) (hloans : saved.loans[loanId]? = db.loans[loanId]?) :
    PayoutSound txnId loanId saved row loan := by
  refine ⟨?_, hloans.trans h.loans, h.kind, fun i other hi hget hpays => ?_, h.agree⟩
  · rw [htxns, List.getElem?_modify_ne _ _ hother, h.txns]
  · rw [htxns, List.getElem?_modify, Option.map_eq_map, Option.map_eq_some_iff] at hget
    obtain ⟨old, hold, rfl⟩ := hget
    split_ifs at hpays ⊢
    · rw [(hset old).2, hclosed]
    · exact h.others i old hi hold hpays

/-- The transaction is settled, and the loan is where the outcome leaves it. -/
theorem PayoutSound.mark_own (h : PayoutSound txnId loanId db row loan) {loan' : Loan}
    (htxns : saved.transactions = db.transactions.modify txnId f) (hset : SetsStatus status f)
    (hloan : saved.loans[loanId]? = some loan') (htenant : loan'.tenantId = loan.tenantId)
    (hagree : (status = .success ∧ loan'.status ≠ .approved) ∨
      (status = .failed ∧ loan'.status ≠ .active)) :
    PayoutSound txnId loanId saved (f row) loan' := by
  refine ⟨?_, hloan, ?_, fun i other hi hget hpays => ?_, .inr ?_⟩
  · rw [htxns, List.getElem?_modify_eq, h.txns]
    rfl
  · rw [(hset row).1, h.kind, htenant]
  · rw [htxns, List.getElem?_modify_ne _ _ hi.symm] at hget
    exact h.others i other hi hget hpays
  · rwa [(hset row).2]

end Commit

/-- The payout and the loan agree. -/
def PayoutsAgree (txnId loanId : ℕ) (hub : PayoutHub) : Prop :=
  ∃ row loan, PayoutSound txnId loanId hub.db row loan

/-- What a session that has read a transaction relies on: it is that of the row, the row is
unconfirmed while it is locked, and only the payout itself can still be settled for the
loan. The callback, the first session, locks nothing. -/
structure HasRead (txnId loanId i : ℕ) (hub : PayoutHub) (x : Settlement) : Prop where
  about : ∃ row ∈ hub.db.transactions[x.txnId]?, x.txn.kind = row.kind ∧ x.tenantId = row.tenantId ∧
    (x.locked = true → row.status.openPayout = true)
  type : x.txn.type = .b2c ∨ x.txn.type = .refund
  only : x.txn.status.settleable = true → x.txn.pays loanId = true → x.txnId = txnId
  first : x.locked = false → i = 0
  lock : x.locked = true → hub.locks x.txnId = some i

/-- What each session relies on. One that has read the loan found it waiting, or the payout
settled the way it is going to settle it. -/
def InStep (txnId loanId i : ℕ) (hub : PayoutHub) : Settling → Prop
  | .result .. => i = 0
  | .resolution _ => True
  | .read x => HasRead txnId loanId i hub x
  | .loaded x held => HasRead txnId loanId i hub x ∧
      (∀ id loan, held = some (id, loan) → x.txn.loanId = some id) ∧
      (x.txn.status.settleable = true → x.txnId = txnId → ∃ loan, held = some (loanId, loan) ∧
        (loan.status = .processing ∨ (x.locked = false ∧
          ∃ row ∈ hub.db.transactions[txnId]?, row.status = payoutOutcome x.resultCode)))
  | .ended => True

section Race

variable {txnId loanId i j : ℕ} {hub : PayoutHub}

/-- A commit leaves the payout and the loan in agreement. -/
theorem PayoutsAgree.save {x : Settlement} {held : Option (ℕ × Loan)} {saved : Db}
    (h : PayoutsAgree txnId loanId hub) (hmine : InStep txnId loanId i hub (.loaded x held))
    (hsaved : x.save hub.db held = .ok saved) (locks : ℕ → Option ℕ) :
    PayoutsAgree txnId loanId ⟨saved, locks⟩ := by
  obtain ⟨row, loan, h⟩ := h
  obtain ⟨⟨⟨about, habout, hkind, -, -⟩, htypes, honly, -, -⟩, hheld, hpayout⟩ := hmine
  obtain rfl | ⟨hsettleable, f, htxns, hset, hmoved⟩ := Settlement.save_eq_ok hsaved
  · exact ⟨row, loan, h⟩
  by_cases hown : x.txnId = txnId
  · obtain ⟨l, rfl, hstate⟩ := hpayout hsettleable hown
    rw [hown] at htxns habout
    obtain rfl := Option.some.inj (habout.symm.trans h.txns)
    have htype : x.txn.type ≠ .refund := by
      have := hkind.trans h.kind
      simp only [PaymentTransaction.kind, Prod.mk.injEq] at this
      simp [this.2.1]
    have hsettled : payoutOutcome x.resultCode = .success ∧ loanOutcome x.resultCode = .active ∨
        payoutOutcome x.resultCode = .failed ∧ loanOutcome x.resultCode = .approved := by
      unfold payoutOutcome loanOutcome
      split_ifs <;> simp
    obtain ⟨id, l', settled, -, hl, hprocessing, hstatus, htenant, hloans⟩ |
      ⟨hnone, hloans⟩ := hmoved
    · obtain ⟨rfl, rfl⟩ := Prod.mk.inj (Option.some.inj hl)
      refine ⟨_, loan.flush l settled, h.mark_own htxns hset (by simp [hloans, h.loans]) ?_ ?_⟩
      · simp [Loan.flush, flushColumn, htenant]
      · have hchanged : settled.status ≠ l.status := by
          rw [hstatus, hprocessing]
          unfold loanOutcome
          split_ifs <;> simp
        have hwritten : (loan.flush l settled).status = loanOutcome x.resultCode :=
          (if_neg hchanged).trans hstatus
        rw [hwritten]
        obtain ⟨hpayout, hloan⟩ | ⟨hpayout, hloan⟩ := hsettled <;> simp [hpayout, hloan]
    · have hrow := (hstate.resolve_left (hnone.resolve_left htype loanId l rfl)).2
      obtain ⟨row', hrow', houtcome⟩ := hrow
      obtain rfl := Option.some.inj (hrow'.symm.trans h.txns)
      refine ⟨_, loan, h.mark_own htxns hset (by rw [hloans, h.loans]) rfl ?_⟩
      obtain ⟨hopen, -⟩ | hagree := h.agree
      · rw [houtcome, payoutOutcome_not_open] at hopen
        cases hopen
      · rwa [houtcome] at hagree
  · refine ⟨row, loan, h.mark_other hown htxns hset (payoutOutcome_not_open _) ?_⟩
    obtain ⟨id, l, settled, htype, hl, -, -, -, hloans⟩ | ⟨-, hloans⟩ := hmoved
    · rw [hloans, List.getElem?_modify_ne]
      rintro rfl
      refine hown (honly hsettleable ?_)
      simp [PaymentTransaction.pays, htypes.resolve_right htype, hheld id l hl]
    · rw [hloans]

/-- A session keeps what it relies on while the rows and its locks stay. -/
theorem InStep.of_locks {hub' : PayoutHub} {s : Settling} (h : InStep txnId loanId j hub s)
    (hdb : hub'.db = hub.db) (hlocks : ∀ x, hub.locks x = some j → hub'.locks x = some j) :
    InStep txnId loanId j hub' s := by
  have hread : ∀ x, HasRead txnId loanId j hub x → HasRead txnId loanId j hub' x := fun x hx =>
    ⟨by rw [hdb]; exact hx.about, hx.type, hx.only, hx.first, fun hl => hlocks _ (hx.lock hl)⟩
  cases s with
  | result body now => exact h
  | resolution r => trivial
  | read x => exact hread x h
  | loaded x held => exact ⟨hread x h.1, h.2.1, by rw [hdb]; exact h.2.2⟩
  | ended => trivial

/-- What a commit writes is a row its session holds, or that of the callback. -/
theorem InStep.of_commit {x : Settlement} {held : Option (ℕ × Loan)} {saved : Db} {s : Settling}
    (hij : i ≠ j) (hfree : hub.free i x.txnId = true)
    (hmine : InStep txnId loanId i hub (.loaded x held)) (hsaved : x.save hub.db held = .ok saved)
    (h : InStep txnId loanId j hub s) :
    InStep txnId loanId j ⟨saved, (hub.release i).locks⟩ s := by
  have hkept : ∀ y, hub.locks y = some j → (hub.release i).locks y = some j := by
    intro y hy
    simp [PayoutHub.release, hy, hij.symm]
  obtain rfl | ⟨hsettleable, f, htxns, hset, -⟩ := Settlement.save_eq_ok hsaved
  · exact h.of_locks rfl hkept
  have hread : ∀ y, HasRead txnId loanId j hub y →
      HasRead txnId loanId j ⟨saved, (hub.release i).locks⟩ y := by
    intro y hy
    refine ⟨?_, hy.type, hy.only, hy.first, fun hl => hkept _ (hy.lock hl)⟩
    obtain ⟨row, hrow, hkind, htenant, hopen⟩ := hy.about
    by_cases hsame : x.txnId = y.txnId
    · refine ⟨f row, ?_, hkind.trans (hset row).1.symm, ?_, fun hl => ?_⟩
      · simp only [htxns, hsame, List.getElem?_modify_eq]
        rw [show hub.db.transactions[y.txnId]? = some row from hrow]
        rfl
      · have hkept := (hset row).1
        simp only [PaymentTransaction.kind, Prod.mk.injEq] at hkept
        rw [hkept.1, htenant]
      · have hlock := hy.lock hl
        rw [PayoutHub.free, hsame, hlock] at hfree
        exact absurd (by simpa using hfree) hij.symm
    · exact ⟨row, by rw [htxns, List.getElem?_modify_ne _ _ hsame]; exact hrow, hkind,
        htenant, hopen⟩
  cases s with
  | result body now => exact h
  | resolution r => trivial
  | read y => exact hread y h
  | loaded y heldY =>
    obtain ⟨hy, hheldY, hpayout⟩ := h
    refine ⟨hread y hy, hheldY, fun hs hown => ?_⟩
    obtain ⟨loan, hl, hwaits | ⟨hunlocked, row, hrow, houtcome⟩⟩ := hpayout hs hown
    · exact ⟨loan, hl, .inl hwaits⟩
    refine ⟨loan, hl, .inr ⟨hunlocked, row, ?_, houtcome⟩⟩
    have hlocked : x.locked = true := by
      by_contra hx
      exact hij ((hmine.1.first (by simpa using hx)).trans (hy.first hunlocked).symm)
    have hother : x.txnId ≠ txnId := by
      intro hx
      obtain ⟨row', hrow', -, -, hopen⟩ := hmine.1.about
      rw [hx] at hrow'
      obtain rfl := Option.some.inj (hrow'.symm.trans hrow)
      have := hopen hlocked
      rw [houtcome, payoutOutcome_not_open] at this
      cases this
    rw [htxns, List.getElem?_modify_ne _ _ hother]
    exact hrow
  | ended => trivial

theorem undisturbed_settlements : Undisturbed Settling.next SeesOnePayout
    (PayoutsAgree txnId loanId) (InStep txnId loanId) where
  mover := by
    intro w i s out hw hok hs hout
    have hmine := hw.own i s hs
    have hcommon := hw.common
    obtain ⟨row, loan, hsound⟩ := id hcommon
    cases Settling.next_moves hout with
    | ends => exact ⟨hcommon, trivial⟩
    | finds body now x txn hfound =>
      obtain ⟨hrow, htype⟩ := findB2cTxn_eq_some hfound
      refine ⟨hcommon, ⟨txn, hrow, rfl, rfl, by simp⟩, htype, fun hsettleable hpays => ?_,
        fun _ => hmine, by simp⟩
      by_contra hother
      have := hsound.others x txn hother hrow hpays
      rw [openPayout_of_settleable hsettleable] at this
      cases this
    | locks r txn said hfree htxn hsaid =>
      obtain ⟨hrow, htenant, htype⟩ := payoutToResolve_eq_ok htxn
      obtain ⟨hopen, hkind, -, -⟩ := payoutResolution_eq_ok hsaid
      have hkinds := hkind
      simp only [PaymentTransaction.kind, Prod.mk.injEq] at hkinds
      refine ⟨hcommon, ⟨txn, hrow, hkind, htenant.symm, fun _ => hopen⟩, by rwa [hkinds.2.1],
        fun _ hpays => ?_, by simp, fun _ => if_pos rfl⟩
      by_contra hother
      have := hsound.others r.txnId txn hother hrow (pays_of_kind hkind ▸ hpays)
      rw [hopen] at this
      cases this
    | loads x =>
      refine ⟨hcommon, hmine, fun id l hl => (loanOf_eq_some hl).1, fun hsettleable hown => ?_⟩
      obtain ⟨row', hrow', hkind, htenant, hopen⟩ := hmine.about
      rw [hown] at hrow'
      obtain rfl := Option.some.inj (hrow'.symm.trans hsound.txns)
      have hkinds := hkind.trans hsound.kind
      simp only [PaymentTransaction.kind, Prod.mk.injEq] at hkinds
      have hrowKind := hsound.kind
      simp only [PaymentTransaction.kind, Prod.mk.injEq] at hrowKind
      refine ⟨loan, by simp [loanOf, hkinds, hsound.loans, htenant, hrowKind], ?_⟩
      have hwaits : row'.status.openPayout = true → loan.status = .processing := by
        intro hopen
        obtain ⟨-, hwaits⟩ | ⟨hsuccess, -⟩ | ⟨hfailed, -⟩ := hsound.agree
        · exact hwaits
        · simp [hsuccess, TransactionStatus.openPayout] at hopen
        · simp [hfailed, TransactionStatus.openPayout] at hopen
      cases hlocked : x.locked
      · exact (hok _ hs hsettleable row' (hown ▸ hrow')).imp hwaits
          fun houtcome => ⟨rfl, row', hrow', houtcome⟩
      · exact .inl (hwaits (hopen hlocked))
    | fails x held => exact ⟨hcommon, trivial⟩
    | saves x held db hfree hsaved => exact ⟨hcommon.save hmine hsaved _, trivial⟩
  others := by
    intro w i j s m out hw hok hij hs hm hout
    have hmine := hw.own i s hs
    have htheirs := hw.own j m hm
    have hreleased : ∀ x, w.shared.locks x = some j → (w.shared.release i).locks x = some j := by
      intro x hx
      simp [PayoutHub.release, hx, hij.symm]
    cases Settling.next_moves hout with
    | ends => exact htheirs
    | finds body now x txn hfound => exact htheirs
    | locks r txn said hfree htxn hsaid =>
      refine htheirs.of_locks rfl fun x hx => ?_
      by_cases hsame : x = r.txnId
      · rw [PayoutHub.free, ← hsame, hx] at hfree
        exact absurd (by simpa using hfree) hij.symm
      · exact (if_neg hsame).trans hx
    | loads x => exact htheirs
    | fails x held => exact htheirs.of_locks rfl hreleased
    | saves x held db hfree hsaved => exact InStep.of_commit hij hfree hmine hsaved htheirs

end Race

/-- A result and a person's resolutions of one payout settle it together: after every step
of every interleaving in which the callback sees one payout. -/
theorem payout_settled_together (txnId loanId : ℕ) (start : Db) (body : ResultBody) (now : ℤ)
    (rs : List Resolution) (schedule : List ℕ)
    (hstart : ∃ row loan, PayoutSound txnId loanId start row loan)
    (h : AllSteps (World.step Settling.next) SeesOnePayout
      (settlements start body now rs) schedule) :
    Always (World.step Settling.next) (fun w => SettledTogether txnId loanId w.shared.db)
      (settlements start body now rs) schedule := by
  have hworld : Holds (PayoutsAgree txnId loanId) (InStep txnId loanId)
      (settlements start body now rs) := by
    refine ⟨hstart, fun i s hs => ?_⟩
    cases i with
    | zero =>
      obtain rfl : Settling.result body now = s := by simpa [settlements] using hs
      rfl
    | succ i =>
      simp only [settlements, List.getElem?_cons_succ, List.getElem?_map,
        Option.map_eq_some_iff] at hs
      obtain ⟨r, -, rfl⟩ := hs
      trivial
  intro is his
  obtain ⟨row, loan, hsound⟩ := (undisturbed_settlements.always hworld h is his).common
  exact hsound.settledTogether

/-- A payout that Safaricom has taken in. -/
def payoutBook : Db :=
  { approvedBook with
    loans := [{ fourWeekLoan with
      status := .processing
      disbursementDate := none
      dueDate := none
      outstandingBalance := 0
      activeLock := false }]
    transactions := [⟨1, .b2c, some 0, 1000000, some "254700000001", some "AG1", .processing,
      ⟨some 7, none, none, some "O-AG1", none⟩, 100⟩] }

/-- A person finds nothing was paid. -/
def notOnThePortal : Resolution :=
  ⟨1, 0, ⟨8, true, [], []⟩, "not_paid", none, "Not on the portal", 200⟩

theorem payoutBook_sound : ∃ row loan, PayoutSound 0 0 payoutBook row loan := by
  refine ⟨_, _, rfl, rfl, rfl, fun i other hi hget => ?_, .inl ⟨rfl, rfl⟩⟩
  obtain _ | i := i
  · exact absurd rfl hi
  · simp [payoutBook] at hget

/-- The result says the payout failed while a person finds the same: each may write it. -/
theorem payout_settled_together_twice :
    Always (World.step Settling.next) (fun w => SettledTogether 0 0 w.shared.db)
      (settlements payoutBook (resultOf "AG1" "1" "") 300 [notOnThePortal]) [0, 1, 1, 1, 0, 0] :=
  payout_settled_together 0 0 payoutBook _ _ _ _ payoutBook_sound (by decide)

/-- The callback reads an unconfirmed payout, a person finds it was not paid, and only then
the callback reads the loan: the money is out and the loan payable again. -/
theorem payout_settled_apart : (∃ row loan, PayoutSound 0 0 payoutBook row loan) ∧
    ¬ Always (World.step Settling.next) (fun w => SettledTogether 0 0 w.shared.db)
      (settlements payoutBook (resultOf "AG1" "0" "QR1") 300 [notOnThePortal])
      [0, 1, 1, 1, 0, 0] := by
  refine ⟨payoutBook_sound, fun h => ?_⟩
  exact absurd h.last (by decide)

end FinylDcp
