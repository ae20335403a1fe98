import FinylDcp.OfficeBooks

/-!
# Refunds on loans

A loan refund pays back what was repaid beyond what the loan cost. Its allowance leaves the
penalties and the interest written off out of that cost: what a borrower paid in penalties
can be asked back, although nothing was overpaid.
-/
namespace FinylDcp
open Db Runs

/-- A refund raised by the loan-refund path. -/
def PaymentTransaction.onLoan (loanId : ℕ) (t : PaymentTransaction) : Bool :=
  t.type = .refund && t.loanId = some loanId && t.rawPayload.suspenseId.isNone

/-- The refunds on a loan that were sent or may still be. -/
def loanRefunds (db : Db) (loanId : ℕ) : List PaymentTransaction :=
  db.transactions.filter (fun t => t.onLoan loanId && (t.status.openPayout || t.status = .success))

/-- What was repaid beyond what the loan cost, penalties and rebate included. -/
def overpaid (db : Db) (loanId : ℕ) (loan : Loan) : ℤ :=
  max 0 (db.paid loanId - (loan.totalDue + loan.feesInBalance + loan.penaltiesCharged -
    loan.interestRebate))

/-- The refunds on a loan are within what was overpaid, each rounded up to a shilling. -/
def RefundsWithin (loanId : ℕ) (s : Office) : Prop :=
  ∀ loan ∈ s.db.loans[loanId]?, loanRefunds s.db loanId = [] ∨
    ((loanRefunds s.db loanId).map (·.amount)).sum <
      overpaid s.db loanId loan + 100 * (loanRefunds s.db loanId).length

instance (loanId : ℕ) (s : Office) : Decidable (RefundsWithin loanId s) := by
  unfold RefundsWithin
  infer_instance

/-- No refund is sent on a loan of which nothing was overpaid. -/
def SendsWhatIsDue (loanId : ℕ) (s : Office) (e : OfficeEvent) : Prop :=
  ∀ loan ∈ s.db.loans[loanId]?, overpaid s.db loanId loan = 0 →
    ((s.step e).db.transactions.filter (·.onLoan loanId)).length =
      (s.db.transactions.filter (·.onLoan loanId)).length

instance (loanId : ℕ) (s : Office) (e : OfficeEvent) : Decidable (SendsWhatIsDue loanId s e) := by
  unfold SendsWhatIsDue
  infer_instance

/-- The refunds of a loan that its allowance counts as sent. -/
def sentRefunds (db : Db) (tenantId loanId : ℕ) : ℤ :=
  ((db.transactions.filter (fun t => t.tenantId = tenantId && t.loanId = some loanId &&
    t.type = .refund && (t.status.openPayout || t.status = .success))).map (·.amount)).sum

/-- An approved loan refund asks for more than the penalties of the loan, less its rebate, its
balance and the refunds sent. -/
def OfficeEvent.KeepsPenalties (s : Office) : OfficeEvent → Prop
  | .money (.decide tenantId pendingId action ..) => action = "approve" →
      ∀ p ∈ s.db.pending[pendingId]?, p.actionType = .refund → ∀ loanId ∈ p.loanId,
        ∀ loan ∈ s.db.loans[loanId]?, loan.penaltiesCharged - loan.interestRebate -
          loan.outstandingBalance - sentRefunds s.db tenantId loanId < p.amount
  | _ => True

instance (s : Office) (e : OfficeEvent) : Decidable (e.KeepsPenalties s) := by
  unfold OfficeEvent.KeepsPenalties
  split <;> infer_instance

/-- A book in which nothing was lent, received or asked for yet. -/
structure Db.Unused (db : Db) : Prop where
  loans : db.loans = []
  repayments : db.repayments = []
  transactions : db.transactions = []
  suspense : db.suspense = []
  pending : db.pending = []

/-- Loan refunds are asked for a positive amount, and none was sent. -/
structure Unrefunded (db : Db) : Prop where
  owed : db.Owed
  asked : ∀ p ∈ db.pending, p.actionType = .refund → 0 < p.amount
  unsent : ∀ t ∈ db.transactions, t.type = .refund → t.rawPayload.suspenseId.isSome = true

theorem Db.Unused.unrefunded {db : Db} (h : db.Unused) (hproducts : ∀ p ∈ db.products, p.Fair) :
    Unrefunded db where
  owed := Db.owed_of_empty hproducts h.loans h.repayments
  asked := by simp [h.pending]
  unsent := by simp [h.transactions]

/-- The rows that a posting leaves where they are keep a fact about their terms. -/
theorem forall_mem_modify {α : Type*} {P : α → Prop} {l : List α} {i : ℕ} {f : α → α}
    (hf : ∀ x, P x → P (f x)) (h : ∀ x ∈ l, P x) : ∀ x ∈ l.modify i f, P x := by
  intro x hx
  obtain ⟨j, hj⟩ := List.mem_iff_getElem?.mp hx
  rw [List.getElem?_modify] at hj
  obtain ⟨y, hy, rfl⟩ := Option.map_eq_some_iff.mp hj
  split
  · exact hf y (h y (List.mem_of_getElem? hy))
  · exact h y (List.mem_of_getElem? hy)

theorem forall_mem_concat {α : Type*} {P : α → Prop} {l : List α} {x : α} (h : ∀ y ∈ l, P y)
    (hx : P x) : ∀ y ∈ l ++ [x], P y := by
  intro y hy
  obtain hold | hnew := List.mem_append.mp hy
  · exact h y hold
  · obtain rfl := List.mem_singleton.mp hnew
    exact hx

theorem unsent_of_terms {t t' : PaymentTransaction} (h : t'.terms = t.terms)
    (ht : t.type = .refund → t.rawPayload.suspenseId.isSome = true) :
    t'.type = .refund → t'.rawPayload.suspenseId.isSome = true := by
  have htype : t'.terms.type = t.terms.type := by rw [h]
  have hsource : t'.terms.rawPayload.suspenseId = t.terms.rawPayload.suspenseId := by rw [h]
  have htype : t'.type = t.type := htype
  have hsource : t'.rawPayload.suspenseId = t.rawPayload.suspenseId := hsource
  rw [htype, hsource]
  exact ht

/-- Every posting but a loan refund keeps these books. -/
theorem Posting.unrefunded {db db' : Db} {flow : Flow} (h : Posting db flow db') (hfair : flow.Fair)
    (hflow : ∀ loanId, flow ≠ .loanRefund loanId) (hdb : Unrefunded db) : Unrefunded db' := by
  have howed := h.owed hfair hdb.owed
  cases h with
  | noted t htype =>
    refine ⟨howed, hdb.asked, forall_mem_concat hdb.unsent fun hrefund => ?_⟩
    obtain htype | htype := htype <;> simp [htype] at hrefund
  | marked txnId row status f hrow hset hquiet =>
    exact ⟨howed, hdb.asked, forall_mem_modify (fun t => unsent_of_terms (hset t).1) hdb.unsent⟩
  | requested p hfounded =>
    exact ⟨howed, forall_mem_concat hdb.asked hfounded.positive, hdb.unsent⟩
  | decided pendingId status checkerId =>
    exact ⟨howed, forall_mem_modify (fun p h => h) hdb.asked, hdb.unsent⟩
  | intended =>
      exact ⟨howed, hdb.asked, forall_mem_concat hdb.unsent fun hrefund => by cases hrefund⟩
  | refundsEntry pendingId p entryId entry t hp htype hlocked hrefund htenant hamount hstatus
      hsource =>
    exact ⟨howed, hdb.asked, forall_mem_concat hdb.unsent fun _ => by rw [hsource]; rfl⟩
  | refundsLoan pendingId p loanId => exact absurd rfl (hflow loanId)
  | refunded txnId row f entryId now hrow hset htype hsource =>
    exact ⟨howed, hdb.asked, forall_mem_modify (fun t => unsent_of_terms (hset t).1) hdb.unsent⟩
  | reversalSent =>
      exact ⟨howed, hdb.asked, forall_mem_concat hdb.unsent fun hrefund => by cases hrefund⟩
  | reversalSettled => exact ⟨howed, hdb.asked, forall_mem_modify (fun t h => h) hdb.unsent⟩
  | _ => exact ⟨howed, hdb.asked, hdb.unsent⟩

theorem refundableOverpayment_eq {db : Db} {tenantId loanId : ℕ} {loan : Loan}
    (hloan : loan.tenantId = tenantId) (h : loan.Owing (db.repaymentsOf loanId)) :
    refundableOverpayment db tenantId loanId loan none false =
      max (db.paid loanId - (loan.totalDue + loan.feesInBalance) - 0 -
        sentRefunds db tenantId loanId) 0 := by
  have hown : (db.repaymentsOf loanId).filter (fun r => r.tenantId = tenantId) =
      db.repaymentsOf loanId :=
    List.filter_eq_self.mpr fun r hr => by simp [h.tenants r hr, hloan]
  simp only [refundableOverpayment, hown, Bool.false_eq_true, if_false]
  rfl

/-- No refund is granted that asks for more than the penalties. -/
theorem refundedLoan_eq_none {s : Office} (hdb : Unrefunded s.db) {tenantId pendingId : ℕ}
    {action freshRef receipt : String} {checker : Checker} {reply : B2cReply} {now : ℤ}
    (h : OfficeEvent.KeepsPenalties s
      (.money (.decide tenantId pendingId action checker freshRef reply receipt now))) :
    refundedLoan s.db tenantId pendingId action = none := by
  rw [Option.eq_none_iff_forall_ne_some]
  intro loanId hgranted
  obtain ⟨p, hp, hgranted⟩ := Option.bind_eq_some_iff.mp hgranted
  split at hgranted
  · rename_i hwaits
    obtain ⟨-, -, htype, haction⟩ := hwaits
    obtain ⟨hid, hcovered⟩ := Option.filter_eq_some_iff.mp hgranted
    obtain ⟨loan, hloan, hfits⟩ := (Option.any_eq_true _ _).mp hcovered
    obtain ⟨hrow, htenant⟩ := loanRow_eq_some hloan
    have howing := hdb.owed.loans loanId loan hrow
    have hasked := hdb.asked p (List.mem_of_getElem? hp) htype
    have hmore := h haction p hp htype loanId hid loan hrow
    have hrepaid : s.db.paid loanId ≤ loan.repaid := howing.repaid
    rw [decide_eq_true_eq, refundableOverpayment_eq htenant howing] at hfits
    simp only [Loan.repaid] at hrepaid
    omega
  · cases hgranted

/-- No flow that an event allows is a loan refund. -/
theorem no_loanRefund {s : Office} {e : OfficeEvent} (hdb : Unrefunded s.db)
    (h : e.KeepsPenalties s)
    {flow : Flow} (hflow : e.Allows s flow) (loanId : ℕ) : flow ≠ .loanRefund loanId := by
  rintro rfl
  cases e with
  | money m =>
    cases m with
    | decide tenantId pendingId action checker freshRef reply receipt now =>
      have hnone := refundedLoan_eq_none hdb h
      simp [OfficeEvent.Allows, hnone] at hflow
    | _ => exact hflow
  | _ => exact hflow

theorem unrefunded_step {s : Office} {e : OfficeEvent} (hsound : s.Sound) (hdb : Unrefunded s.db)
    (hfair : e.Fair) (h : e.KeepsPenalties s) : Unrefunded (s.step e).db :=
  (hsound.postings e).keeps (fun hflow hposting => hposting.unrefunded (hfair.unsigned.flow hflow)
    (no_loanRefund hdb h hflow)) hdb

theorem Unrefunded.onLoan {db : Db} (h : Unrefunded db) (loanId : ℕ) :
    db.transactions.filter (·.onLoan loanId) = [] := by
  rw [List.filter_eq_nil_iff]
  intro t ht hrefund
  simp only [PaymentTransaction.onLoan, Bool.and_eq_true, decide_eq_true_eq] at hrefund
  have hsource := h.unsent t ht hrefund.1.1
  rw [Option.isSome_iff_ne_none] at hsource
  exact hsource (Option.isNone_iff_eq_none.mp hrefund.2)

theorem Unrefunded.within {s : Office} (h : Unrefunded s.db) (loanId : ℕ) :
    RefundsWithin loanId s := by
  intro loan _
  have hnone : loanRefunds s.db loanId =
      (s.db.transactions.filter (·.onLoan loanId)).filter
        (fun t => t.status.openPayout || t.status = .success) := by
    rw [loanRefunds, List.filter_filter]
    exact List.filter_congr fun t _ => Bool.and_comm _ _
  rw [hnone, h.onLoan loanId]
  exact .inl rfl

/-- Refunds never exceed what was overpaid: in every run of an office at fair terms whose
approved loan refunds ask for more than the penalties of the loan, less its rebate, its balance
and the refunds sent. -/
theorem refunds_within_overpayment {db : Db} (catalogue : Catalogue) (hdb : db.Unused)
    (hproducts : ∀ p ∈ db.products, p.Fair) (loanId : ℕ) (es : List OfficeEvent)
    (h : AllSteps Office.step (fun s e => e.Fair ∧ e.KeepsPenalties s) (.opening db catalogue) es) :
    Always Office.step (RefundsWithin loanId) (.opening db catalogue) es ∧
      AllSteps Office.step (SendsWhatIsDue loanId) (.opening db catalogue) es := by
  have hstep : ∀ (s : Office) (e : OfficeEvent), (s.Sound ∧ Unrefunded s.db) →
      (e.Fair ∧ e.KeepsPenalties s) → (s.step e).Sound ∧ Unrefunded (s.step e).db :=
    fun s e hs hok => ⟨hs.1.step e, unrefunded_step hs.1 hs.2 hok.1 hok.2⟩
  have hstart : (Office.opening db catalogue).Sound ∧ Unrefunded (Office.opening db catalogue).db :=
    ⟨Office.opening_sound db catalogue, hdb.unrefunded hproducts⟩
  constructor
  · intro done hdone
    exact (invariant_run hstep hstart (h.of_prefix hdone)).2.within loanId
  · refine @allSteps_of_invariant _ _ Office.step _ _ (fun s => s.Sound ∧ Unrefunded s.db)
      (fun s e hs hok => ?_) _ es hstart h
    have hnext := hstep s e hs hok
    refine ⟨hnext, fun loan _ _ => ?_⟩
    rw [hs.2.onLoan loanId, hnext.2.onLoan loanId]

/-- Ten thousand shillings are lent and paid out, the loan falls overdue, and all of it is
paid, penalty included; then a refund is asked for and decided. -/
def penaltyPaid (action : String) : List OfficeEvent :=
  [.apply 1 ⟨true, .ok ()⟩ ⟨0, 0, 1000000⟩ 2026,
    .decideLoan 1 0 ⟨true, true, none, none⟩ "approve", .disburse 1 7 0 false none 0,
    .answerPayout 0 (acknowledged "AG_1"), .money (.result (resultOf "AG_1" "0" "QK1") 0),
    .receive (fun _ => none) (.upkeep (.overdueAlerts 1 40)),
    .receive (fun _ => none) (.reconcile 1 7 0 1150000 (some "QM1") false "R1" 3456000),
    .money (.refundLoan 1 7 0 none none none),
    .money (.decide 1 0 action ⟨8, true, [], []⟩ "" (acknowledged "AG_2") "" 3456000)]

theorem refunds_within_overpayment_rejected :
    Always Office.step (RefundsWithin 0) (.opening (openMarket 10) openCatalogue)
        (penaltyPaid "reject") ∧
      AllSteps Office.step (SendsWhatIsDue 0) (.opening (openMarket 10) openCatalogue)
        (penaltyPaid "reject") :=
  refunds_within_overpayment openCatalogue ⟨rfl, rfl, rfl, rfl, rfl⟩ (by decide) 0
    (penaltyPaid "reject") (by decide)

/-- The penalty of five hundred shillings is no part of what the allowance takes the loan to
have cost. It is asked back and sent, although the loan was repaid to the cent. -/
theorem penalty_refunded :
    ((run Office.step (.opening (openMarket 10) openCatalogue)
      (penaltyPaid "approve")).db.loans[0]?).map
        (fun loan => (loan.status, loan.outstandingBalance, loan.penaltiesCharged)) =
      some (.paid, 0, 50000) ∧
    ((loanRefunds (run Office.step (.opening (openMarket 10) openCatalogue)
        (penaltyPaid "approve")).db 0).map (·.amount)) = [50000] ∧
    ¬ Always Office.step (RefundsWithin 0) (.opening (openMarket 10) openCatalogue)
        (penaltyPaid "approve") ∧
    ¬ AllSteps Office.step (SendsWhatIsDue 0) (.opening (openMarket 10) openCatalogue)
        (penaltyPaid "approve") := by
  refine ⟨by decide +kernel, by decide +kernel, fun h => ?_, by decide +kernel⟩
  have hend := h.last
  revert hend
  decide +kernel

end FinylDcp
