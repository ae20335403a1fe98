import FinylDcp.LedgerWindows
import FinylDcp.LoanRefunds

/-!
# The balance of the journal

Every event of the journal is booked with as much on the one side as on the other. For a
repayment this takes parts that are not negative and an excise duty within the fees; for a
refund out of suspense, no less sent than was parked. At fair terms the books of an office
are such books after any run.
-/
namespace FinylDcp
open Decimal Runs

/-- What the debits of some lines are above their credits. -/
def net (lines : List GlLine) : ℤ := (lines.map (fun line => line.debit - line.credit)).sum

@[simp] theorem net_nil : net [] = 0 := rfl

@[simp] theorem net_cons (line : GlLine) (lines : List GlLine) :
    net (line :: lines) = line.debit - line.credit + net lines := rfl

@[simp] theorem net_append (xs ys : List GlLine) : net (xs ++ ys) = net xs + net ys := by
  simp only [net, List.map_append, List.sum_append]

theorem net_eq_sub (lines : List GlLine) : net lines = totalDebit lines - totalCredit lines := by
  induction lines with
  | nil => rfl
  | cons line lines ih =>
    simp only [totalDebit, totalCredit, net_cons, List.map_cons, List.sum_cons] at ih ⊢
    omega

theorem net_flatMap {α : Type*} {f : α → List GlLine} {l : List α} (h : ∀ x ∈ l, net (f x) = 0) :
    net (l.flatMap f) = 0 := by
  induction l with
  | nil => rfl
  | cons x l ih =>
    obtain ⟨hx, hl⟩ := List.forall_mem_cons.mp h
    rw [List.flatMap_cons, net_append, hx, ih hl, zero_add]

section Lines

variable {coa : String → Option String}

theorem net_credit (x : GlEvent) (account : Account) {amount : ℤ} (h : 0 ≤ amount) :
    net (x.credit coa account amount) = -amount := by
  unfold GlEvent.credit
  split_ifs with hpos
  · simp [GlEvent.add]
  · have hzero : amount = 0 := by omega
    simp [hzero]

theorem net_disbursementLines {t : PaymentTransaction} (id : ℕ)
    (h : ∀ q ∈ t.rawPayload.pricing, 0 ≤ q.exciseDuty) : net (disbursementLines coa t id) = 0 := by
  have hexcise : 0 ≤ ((t.rawPayload.pricing.filter (fun q => q.feeCollection = .deduct)).map
      (·.exciseDuty)).getD 0 := by
    cases hprice : t.rawPayload.pricing.filter (fun q => q.feeCollection = .deduct) with
    | none => exact le_refl 0
    | some q => exact h q (Option.filter_eq_some_iff.mp hprice).1
  unfold disbursementLines
  dsimp only
  rw [net_append, net_append, net_credit _ _ hexcise]
  split_ifs
  all_goals
    simp only [GlEvent.add, net_cons, net_nil]
    omega

theorem net_refundLines (t : PaymentTransaction) (id : ℕ) : net (refundLines coa t id) = 0 := by
  simp [refundLines, GlEvent.add]

theorem net_receivedLines {r : Repayment} (id : ℕ) (h : r.Divided) :
    net (receivedLines coa r id) = r.split.fees := by
  have htotal := h.total
  simp only [receivedLines, net_append, h.split_eq, net_credit _ _ h.principal,
    net_credit _ _ h.interest]
  simp only [GlEvent.add, net_cons, net_nil]
  omega

/-- The share of a fee that is excise duty is within the fee. -/
theorem exciseOf_bounds {fee : ℤ} {share : ℚ} (hfee : 0 ≤ fee) (hshare : 0 ≤ share)
    (hhalf : share ≤ 1 / 2) : 0 ≤ money (context (decimalOf fee * share)) ∧
      money (context (decimalOf fee * share)) ≤ fee := by
  have hdecimal := decimalOf_nonneg hfee
  have hproduct : 0 ≤ decimalOf fee * share := mul_nonneg hdecimal hshare
  have hwithin : context (decimalOf fee * share) ≤ decimalOf fee :=
    calc context (decimalOf fee * share)
        ≤ decimalOf fee * share * (1 + 1 / (2 * 10 ^ 27)) := roundSig_le_mul hproduct
      _ ≤ decimalOf fee * (1 / 2) * (1 + 1 / (2 * 10 ^ 27)) :=
        mul_le_mul_of_nonneg_right (mul_le_mul_of_nonneg_left hhalf hdecimal) (by norm_num)
      _ ≤ decimalOf fee := by
        rw [mul_assoc]
        exact mul_le_of_le_one_right hdecimal (by norm_num)
  refine ⟨money_nonneg (context_nonneg hproduct), ?_⟩
  have hmoney := money_mono hwithin
  rwa [money_decimalOf] at hmoney

/-- A fee is credited in full, whatever was collected before. -/
theorem net_feeLines (x : GlEvent) {info : ℤ × ℚ} (paidBefore : ℤ) {fee : ℤ} (hfee : 0 ≤ fee)
    (hshare : 0 ≤ info.2) (hhalf : info.2 ≤ 1 / 2) :
    net (feeLines coa x info paidBefore fee) = -fee := by
  have hproduct : 0 ≤ min fee (max (info.1 - paidBefore) 0) := le_min hfee (le_max_right _ _)
  obtain ⟨hexcise, hwithin⟩ := exciseOf_bounds hproduct hshare hhalf
  unfold feeLines
  dsimp only
  rw [net_append, net_append, net_credit _ _ (by omega), net_credit _ _ hexcise,
    net_credit _ _ (by omega)]
  omega

/-- The repayments of a list of which every part is within the price. -/
theorem net_repaymentLines {db : Db} {tenantId : ℕ} (start : ℤ) (feePaid : ℕ → Option ℤ)
    (hshare : ∀ loanId, 0 ≤ (loanFeeInfo db tenantId loanId).2 ∧
      (loanFeeInfo db tenantId loanId).2 ≤ 1 / 2)
    {rows : List (Repayment × ℕ)} (hrows : ∀ x ∈ rows, x.1.Divided) :
    net (repaymentLines coa db tenantId start feePaid rows) = 0 := by
  induction rows generalizing feePaid with
  | nil => rfl
  | cons x rows ih =>
    obtain ⟨r, id⟩ := x
    obtain ⟨hr, hrows⟩ : r.Divided ∧ ∀ x ∈ rows, x.1.Divided := List.forall_mem_cons.mp hrows
    rw [repaymentLines_cons, net_append, net_receivedLines id hr]
    by_cases hfee : 0 < r.split.fees
    · obtain ⟨hnonneg, hhalf⟩ := hshare r.loanId
      rw [if_pos hfee, net_append, net_feeLines _ _ hfee.le hnonneg hhalf, ih _ hrows]
      omega
    · have hfees : 0 ≤ r.split.fees := by
        rw [hr.split_eq]
        exact hr.fees
      rw [if_neg hfee, ih _ hrows]
      omega

theorem net_parkedLines (w : GlWindow) (e : SuspenseEntry) (id : ℕ) :
    net (parkedLines coa w e id) = 0 := by
  unfold parkedLines
  dsimp only
  split_ifs
  · simp [GlEvent.add]
  · rfl

theorem net_disposedLines {db : Db} {tenantId : ℕ} (w : GlWindow) (e : SuspenseEntry) (id : ℕ)
    (h : ∀ sent ∈ refundSent db tenantId id, e.amount ≤ sent) :
    net (disposedLines coa db tenantId w e id) = 0 := by
  cases hresolved : e.resolvedAt with
  | none => simp [disposedLines, hresolved]
  | some resolvedAt =>
    have hsent : e.amount ≤ if e.status = .refunded then (refundSent db tenantId id).getD e.amount
        else e.amount := by
      split_ifs
      · cases hrefund : refundSent db tenantId id with
        | none => exact le_refl _
        | some sent => exact h sent hrefund
      · exact le_refl _
    simp only [disposedLines, hresolved]
    generalize (if e.status = .refunded then (refundSent db tenantId id).getD e.amount
      else e.amount) = sent at hsent ⊢
    by_cases hmore : e.amount < sent
    · rw [if_pos hmore]
      split_ifs
      · simp only [GlEvent.add, List.cons_append, List.nil_append, net_cons, net_nil]
        omega
      · rfl
    · rw [if_neg hmore]
      split_ifs
      · simp only [GlEvent.add, List.append_nil, net_cons, net_nil]
        omega
      · rfl

end Lines

/-- A transaction that the journal can book: the excise duty in the price it was paid out at is
not negative, and what was sent for a suspense entry is no less than was parked. -/
structure PaymentTransaction.Bookable (db : Db) (t : PaymentTransaction) : Prop where
  priced : t.type = .b2c → ∀ q ∈ t.rawPayload.pricing, 0 ≤ q.exciseDuty
  sent : t.type = .refund → ∀ id ∈ t.rawPayload.suspenseId,
    ∃ e, db.suspense[id]? = some e ∧ e.amount ≤ t.amount

/-- A request about suspense money asks for what was parked. -/
def PendingApproval.Backed (db : Db) (p : PendingApproval) : Prop :=
  p.actionType.ofSuspense = true → ∃ id e, p.details.suspenseId = some id ∧
    db.suspense[id]? = some e ∧ p.amount = e.amount

/-- Books whose journal balances: the excise duty of every loan is within its fees. -/
structure Db.Journaled (db : Db) : Prop where
  owed : db.Owed
  levied : ∀ l ∈ db.loans, ∀ q ∈ l.pricingSnapshot, q.exciseDuty ≤ q.totalFees
  bookable : ∀ t ∈ db.transactions, t.Bookable db
  backed : ∀ p ∈ db.pending, p.Backed db

section Journaled

variable {db : Db} {tenantId : ℕ}

theorem Db.Journaled.share (h : db.Journaled) (loanId : ℕ) :
    0 ≤ (loanFeeInfo db tenantId loanId).2 ∧ (loanFeeInfo db tenantId loanId).2 ≤ 1 / 2 := by
  unfold loanFeeInfo
  split
  · norm_num
  · rename_i loan hloan
    have hrow := (loanRow_eq_some hloan).1
    dsimp only
    split_ifs with hfees
    · cases hsnapshot : loan.pricingSnapshot with
      | none => simp [hsnapshot] at hfees
      | some q =>
        obtain ⟨-, -, hexcise⟩ := (h.owed.loans loanId loan hrow).fees q hsnapshot
        have hwithin := h.levied loan (List.mem_of_getElem? hrow) q hsnapshot
        simp only [hsnapshot, Option.map_some, Option.getD_some] at hfees ⊢
        have hall : (0 : ℚ) < decimalOf (q.totalFees + q.exciseDuty) :=
          div_pos (Int.cast_pos.mpr hfees) (by norm_num)
        have hmost : decimalOf q.exciseDuty / decimalOf (q.totalFees + q.exciseDuty) ≤
            ((5 : ℤ) : ℚ) / 10 ^ 1 := by
          have hcast : (q.exciseDuty : ℚ) ≤ q.totalFees := Int.cast_le.mpr hwithin
          rw [div_le_iff₀ hall, decimalOf, decimalOf]
          push_cast
          linarith
        refine ⟨context_nonneg (div_nonneg (decimalOf_nonneg hexcise) hall.le), ?_⟩
        calc context (decimalOf q.exciseDuty / decimalOf (q.totalFees + q.exciseDuty))
            ≤ ((5 : ℤ) : ℚ) / 10 ^ 1 :=
              (context_mono hmost).trans_eq (roundSig_of_digits rfl (by norm_num))
          _ ≤ 1 / 2 := by norm_num
    · norm_num

/-- What was sent to refund an entry is no less than was parked. -/
theorem Db.Journaled.refundSent (h : db.Journaled) {id : ℕ} {e : SuspenseEntry}
    (he : db.suspense[id]? = some e) : ∀ sent ∈ refundSent db tenantId id, e.amount ≤ sent := by
  intro sent hsent
  obtain ⟨t, ht, rfl⟩ := Option.map_eq_some_iff.mp hsent
  have hmem := List.mem_of_getLast? ht
  simp only [List.mem_filter, Bool.and_eq_true, decide_eq_true_eq] at hmem
  obtain ⟨hrow, ⟨⟨-, htype⟩, -⟩, hsource⟩ := hmem
  obtain ⟨e', he', hle⟩ := (h.bookable t hrow).sent htype id hsource
  obtain rfl := Option.some.inj (he'.symm.trans he)
  exact hle

theorem Db.Journaled.balanced (h : db.Journaled) (coa : String → Option String) (w : GlWindow) :
    totalDebit (glLines coa db tenantId w) = totalCredit (glLines coa db tenantId w) := by
  have hpayouts : net ((settledIn db tenantId .b2c w).flatMap
      (fun x => disbursementLines coa x.1 x.2)) = 0 := by
    refine net_flatMap fun x hx => net_disbursementLines x.2 ?_
    have hrow := List.mem_filter.mp hx
    simp only [Bool.and_eq_true, decide_eq_true_eq] at hrow
    exact (h.bookable x.1 (List.fst_mem_of_mem_zipIdx hrow.1)).priced hrow.2.1.1.2
  have hrepayments : net (repaymentLines coa db tenantId w.start (fun _ => none)
      (repaymentsIn db tenantId w)) = 0 := by
    refine net_repaymentLines _ _ h.share fun x hx => ?_
    rw [repaymentsIn, List.mem_insertionSort] at hx
    exact h.owed.divided x.1 (List.fst_mem_of_mem_zipIdx (List.mem_of_mem_filter hx))
  have hrefunds : net (((settledIn db tenantId .refund w).filter
      (fun x => x.1.rawPayload.suspenseId.isNone)).flatMap
        (fun x => refundLines coa x.1 x.2)) = 0 :=
    net_flatMap fun x _ => net_refundLines x.1 x.2
  have hsuspense : net ((entriesOf db tenantId).flatMap (fun x => parkedLines coa w x.1 x.2 ++
      disposedLines coa db tenantId w x.1 x.2)) = 0 := by
    refine net_flatMap fun x hx => ?_
    have hrow := List.mem_zipIdx_iff_getElem?.mp (List.mem_of_mem_filter hx)
    rw [net_append, net_parkedLines, net_disposedLines w x.1 x.2 (h.refundSent hrow), add_zero]
  have hall : net (glLines coa db tenantId w) = 0 := by
    rw [net, glLines, ((List.perm_insertionSort _ _).map _).sum_eq, ← net, net_append, net_append,
      net_append, hpayouts, hrepayments, hrefunds, hsuspense]
    rfl
  rw [net_eq_sub] at hall
  omega

end Journaled

theorem PaymentTransaction.Bookable.stays {db db' : Db} {t t' : PaymentTransaction}
    (h : t.Bookable db) (hstay : TermsStay db db') (hterms : t'.terms = t.terms) :
    t'.Bookable db' := by
  have htype : t'.type = t.type :=
    (congrArg PaymentTransaction.type hterms :)
  have hamount : t'.amount = t.amount :=
    (congrArg PaymentTransaction.amount hterms :)
  have hprice : t'.rawPayload.pricing = t.rawPayload.pricing :=
    (congrArg (fun t => t.rawPayload.pricing) hterms :)
  have hsource : t'.rawPayload.suspenseId = t.rawPayload.suspenseId :=
    (congrArg (fun t => t.rawPayload.suspenseId) hterms :)
  refine ⟨fun hb2c => hprice ▸ h.priced (htype ▸ hb2c), fun hrefund id hid => ?_⟩
  obtain ⟨e, he, hle⟩ := h.sent (htype ▸ hrefund) id (hsource ▸ hid)
  obtain ⟨e', he', hentry⟩ := hstay.suspense id e he
  have hsame : e'.amount = e.amount := (congrArg SuspenseEntry.amount hentry :)
  exact ⟨e', he', hsame ▸ hamount ▸ hle⟩

theorem PendingApproval.Backed.stays {db db' : Db} {p : PendingApproval} (h : p.Backed db)
    (hstay : TermsStay db db') : p.Backed db' := by
  intro htype
  obtain ⟨id, e, hid, he, hamount⟩ := h htype
  obtain ⟨e', he', hentry⟩ := hstay.suspense id e he
  have hsame : e'.amount = e.amount := (congrArg SuspenseEntry.amount hentry :)
  exact ⟨id, e', hid, he', hamount.trans hsame.symm⟩

theorem quote_levied {product : Product} {principal : ℤ} (h : product.Fair)
    (hprincipal : 0 ≤ principal) : (quoteBreakdown product principal).exciseDuty ≤
      (quoteBreakdown product principal).totalFees := by
  have hfees := (quote_nonneg h hprincipal).2.1
  have hmoney : money (decimalOf (quoteBreakdown product principal).totalFees * exciseRate) ≤
      money (decimalOf (quoteBreakdown product principal).totalFees) :=
    money_mono (mul_le_of_le_one_right (decimalOf_nonneg hfees) (by norm_num [exciseRate]))
  rw [money_decimalOf] at hmoney
  exact hmoney

theorem loanSnapshot_levied {product : Product} {loan : Loan} {rows : List Repayment}
    (hproduct : product.Fair) (hl : loan.Owing rows)
    (h : ∀ q ∈ loan.pricingSnapshot, q.exciseDuty ≤ q.totalFees) :
    (loanSnapshot loan product).exciseDuty ≤ (loanSnapshot loan product).totalFees := by
  unfold loanSnapshot
  split
  · rename_i snap hsnap
    split
    · exact h snap hsnap
    · exact quote_levied hproduct hl.principal
  · exact quote_levied hproduct hl.principal

section Postings

variable {db db' : Db}

/-- Rows that were kept, or come with an excise duty within their fees. -/
theorem levied_set {i : ℕ} {next : Loan}
    (h : ∀ l ∈ db.loans, ∀ q ∈ l.pricingSnapshot, q.exciseDuty ≤ q.totalFees)
    (hnext : ∀ q ∈ next.pricingSnapshot, q.exciseDuty ≤ q.totalFees) :
    ∀ l ∈ db.loans.set i next, ∀ q ∈ l.pricingSnapshot, q.exciseDuty ≤ q.totalFees := by
  intro l hl
  obtain hold | rfl := List.mem_or_eq_of_mem_set hl
  · exact h l hold
  · exact hnext

theorem Posting.levied {flow : Flow} (h : Posting db flow db') (hfair : flow.Fair)
    (hdb : db.Journaled) :
    ∀ l ∈ db'.loans, ∀ q ∈ l.pricingSnapshot, q.exciseDuty ≤ q.totalFees := by
  cases h with
  | applied tenantId body product number hproduct =>
    refine forall_mem_concat hdb.levied fun q hq => ?_
    obtain rfl := Option.some.inj hq
    exact quote_levied (hdb.owed.products product hproduct) hfair
  | kept loans hkept =>
    intro l' hl'
    obtain ⟨i, hi⟩ := List.mem_iff_getElem?.mp hl'
    obtain ⟨l, hl, hkeeps⟩ := Tables.getElem?_of_forall₂ hkept hi
    rw [hkeeps.snapshot]
    exact hdb.levied l (List.mem_of_getElem? hl)
  | intended loanId loan product actorUserId phone now hrow hstatus hproduct =>
    refine levied_set hdb.levied fun q hq => ?_
    obtain rfl := Option.some.inj hq
    exact loanSnapshot_levied (hdb.owed.products product (List.mem_of_getElem? hproduct))
      (hdb.owed.loans loanId loan hrow) (hdb.levied loan (List.mem_of_getElem? hrow))
  | activated loanId loan product today hrow hstatus hproduct =>
    refine levied_set hdb.levied fun q hq => ?_
    obtain rfl := Option.some.inj hq
    exact loanSnapshot_levied (hdb.owed.products product (List.mem_of_getElem? hproduct))
      (hdb.owed.loans loanId loan hrow) (hdb.levied loan (List.mem_of_getElem? hrow))
  | paid loanId loan p hrow haccepts hcollectible =>
    obtain ⟨status, lock, hloan⟩ := settled_loan loan (divisionOf db loanId loan p) p.paidOn
    rw [hloan]
    exact levied_set hdb.levied (hdb.levied loan (List.mem_of_getElem? hrow))
  | _ => exact hdb.levied

/-- A transaction that a posting adds. -/
inductive Noted (db : Db) (t : PaymentTransaction) : Prop
  | callback (htype : t.type = .c2b ∨ t.type = .stkPush)
  | payout (loanId : ℕ) (loan : Loan) (product : Product) (hrow : db.loans[loanId]? = some loan)
      (hproduct : db.products[loan.productId]? = some product) (htype : t.type = .b2c)
      (hprice : t.rawPayload.pricing = some (loanSnapshot loan product))
  | refundsEntry (entryId : ℕ) (entry : SuspenseEntry) (p : PendingApproval)
      (hrow : db.suspense[entryId]? = some entry) (htenant : entry.tenantId = t.tenantId)
      (hp : p ∈ db.pending) (hasked : p.actionType = .suspenseRefund)
      (habout : p.details.suspenseId = some entryId) (htype : t.type = .refund)
      (hsource : t.rawPayload.suspenseId = some entryId)
      (hamount : t.amount = ceilShillings p.amount)
      (hstatus : t.status = .initiated)
  | refundsLoan (htype : t.type = .refund) (hsource : t.rawPayload.suspenseId = none)
  | reverses (entryId : ℕ) (entry : SuspenseEntry) (hrow : db.suspense[entryId]? = some entry)
      (htenant : entry.tenantId = t.tenantId) (htype : t.type = .reversal)
      (hsource : t.rawPayload.suspenseId = some entryId) (hamount : t.amount = entry.amount)
      (hstatus : t.status = .processing)

/-- Every transaction was there with its terms, or is one that a posting adds. -/
theorem Posting.mem_transactions {flow : Flow} (h : Posting db flow db') :
    ∀ t ∈ db'.transactions, (∃ t₀ ∈ db.transactions, t.terms = t₀.terms) ∨ Noted db t := by
  have hold : ∀ t ∈ db.transactions,
      (∃ t₀ ∈ db.transactions, t.terms = t₀.terms) ∨ Noted db t := fun t ht => .inl ⟨t, ht, rfl⟩
  have hset : ∀ (i : ℕ) (f : PaymentTransaction → PaymentTransaction),
      (∀ t, (f t).terms = t.terms) → ∀ t ∈ db.transactions.modify i f,
        (∃ t₀ ∈ db.transactions, t.terms = t₀.terms) ∨ Noted db t := by
    intro i f hf t ht
    obtain ⟨j, hj⟩ := List.mem_iff_getElem?.mp ht
    rw [List.getElem?_modify] at hj
    obtain ⟨t₀, ht₀, rfl⟩ := Option.map_eq_some_iff.mp hj
    refine .inl ⟨t₀, List.mem_of_getElem? ht₀, ?_⟩
    split
    · exact hf t₀
    · rfl
  cases h with
  | noted t htype => exact forall_mem_concat hold (.inr (.callback htype))
  | marked txnId row status f hrow hset' hquiet => exact hset txnId f fun t => (hset' t).1
  | intended loanId loan product actorUserId phone now hrow hstatus hproduct =>
    exact forall_mem_concat hold (.inr (.payout loanId loan product hrow hproduct rfl rfl))
  | refundsEntry pendingId p entryId entry t hp htype hlocked hrefund htenant hamount hstatus
      hsource =>
    exact forall_mem_concat hold (.inr (.refundsEntry entryId entry p hlocked.row
      (hlocked.tenant.trans htenant.symm) (List.mem_of_getElem? hp.row) htype hlocked.about hrefund
      hsource hamount hstatus))
  | refundsLoan pendingId p loanId loan t hp htype hrow hloan hfits hrefund htenant hfor hamount
      hstatus hsource =>
    exact forall_mem_concat hold (.inr (.refundsLoan hrefund hsource))
  | refunded txnId row f entryId now hrow hset' htype hsource =>
    exact hset txnId f fun t => (hset' t).1
  | reversalSent pendingId p entryId entry ack now hp htype hlocked =>
    exact forall_mem_concat hold (.inr (.reverses entryId entry hlocked.row hlocked.tenant rfl rfl
      rfl rfl))
  | reversalSettled txnId row entryId now isReversed => exact hset txnId _ fun t => rfl
  | _ => exact hold

/-- A request to refund an entry asks for what was parked. -/
theorem PendingApproval.Backed.entry {db : Db} {p : PendingApproval} {entryId : ℕ}
    {entry : SuspenseEntry} (h : p.Backed db) (hasked : p.actionType = .suspenseRefund)
    (habout : p.details.suspenseId = some entryId) (hrow : db.suspense[entryId]? = some entry) :
    p.amount = entry.amount := by
  obtain ⟨id, e, hid, he, hamount⟩ := h (by rw [hasked]; rfl)
  obtain rfl := Option.some.inj (habout.symm.trans hid)
  obtain rfl := Option.some.inj (hrow.symm.trans he)
  exact hamount

/-- What a posting adds can be booked before it is there. -/
theorem Noted.bookable {t : PaymentTransaction} (h : Noted db t) (hdb : db.Journaled) :
    t.Bookable db := by
  cases h with
  | callback htype => obtain htype | htype := htype <;> exact ⟨by simp [htype], by simp [htype]⟩
  | payout loanId loan product hrow hproduct htype hprice =>
    refine ⟨fun _ q hq => ?_, by simp [htype]⟩
    obtain rfl := Option.some.inj (hprice.symm.trans hq)
    exact (loanSnapshot_nonneg (hdb.owed.products product (List.mem_of_getElem? hproduct))
      (hdb.owed.loans loanId loan hrow)).2.2
  | refundsEntry entryId entry p hrow htenant hp hasked habout htype hsource hamount hstatus =>
    refine ⟨by simp [htype], fun _ id hid => ?_⟩
    obtain rfl := Option.some.inj (hsource.symm.trans hid)
    refine ⟨entry, hrow, ?_⟩
    rw [hamount, (hdb.backed p hp).entry hasked habout hrow]
    exact (ceilShillings_bounds _).1
  | refundsLoan htype hsource => exact ⟨by simp [htype], by simp [hsource]⟩
  | reverses entryId entry hrow htenant htype => exact ⟨by simp [htype], by simp [htype]⟩

theorem Posting.bookable {flow : Flow} (h : Posting db flow db') (hdb : db.Journaled) :
    ∀ t ∈ db'.transactions, t.Bookable db' := by
  intro t ht
  obtain ⟨t₀, ht₀, hterms⟩ | hnew := h.mem_transactions t ht
  · exact (hdb.bookable t₀ ht₀).stays h.termsStay hterms
  · exact (hnew.bookable hdb).stays h.termsStay rfl

theorem Posting.backed {flow : Flow} (h : Posting db flow db')
    (hbacked : ∀ p ∈ db.pending, p.Backed db) : ∀ p ∈ db'.pending, p.Backed db' := by
  have hstay := h.termsStay
  have hold : ∀ p ∈ db.pending, p.Backed db' := fun p hp => (hbacked p hp).stays hstay
  cases h with
  | requested p hfounded =>
    refine forall_mem_concat hold fun htype => ?_
    obtain ⟨id, e, hid, he, -, hamount⟩ := hfounded.entry htype
    exact ⟨id, e, hid, he, hamount⟩
  | decided pendingId status checkerId => exact forall_mem_modify (fun p h => h) hold
  | _ => exact hold

/-- Every posting at fair terms keeps the books. -/
theorem Posting.journaled {flow : Flow} (h : Posting db flow db') (hfair : flow.Fair)
    (hdb : db.Journaled) : db'.Journaled :=
  ⟨h.owed hfair hdb.owed, h.levied hfair hdb, h.bookable hdb, h.backed hdb.backed⟩

end Postings

theorem Db.Unused.journaled {db : Db} (h : db.Unused) (hproducts : ∀ p ∈ db.products, p.Fair) :
    db.Journaled where
  owed := Db.owed_of_empty hproducts h.loans h.repayments
  levied := by simp [h.loans]
  bookable := by simp [h.transactions]
  backed := by simp [h.pending]

theorem journaled_run {db : Db} (catalogue : Catalogue) (hdb : db.Unused)
    (hproducts : ∀ p ∈ db.products, p.Fair) {es : List OfficeEvent} (h : ∀ e ∈ es, e.Unsigned) :
    (run Office.step (.opening db catalogue) es).db.Journaled := by
  have hrun : ∀ (es : List OfficeEvent) (s : Office), s.Sound → s.db.Journaled →
      (∀ e ∈ es, e.Unsigned) → (run Office.step s es).db.Journaled := by
    intro es
    induction es with
    | nil => exact fun s _ hs _ => hs
    | cons e es ih =>
      intro s hsound hs hfair
      obtain ⟨he, hes⟩ := List.forall_mem_cons.mp hfair
      refine ih (s.step e) (hsound.step e) ?_ hes
      exact (hsound.postings e).keeps (fun hflow hposting => hposting.journaled (he.flow hflow)) hs
  exact hrun es _ (Office.opening_sound db catalogue) (hdb.journaled hproducts) h

/-- The debits on an account. -/
def accountDebit (lines : List GlLine) (account : Account) : ℤ :=
  totalDebit (lines.filter (fun line => line.account = account))

/-- The credits on an account. -/
def accountCredit (lines : List GlLine) (account : Account) : ℤ :=
  totalCredit (lines.filter (fun line => line.account = account))

theorem accountDebit_perm {lines xs ys : List GlLine} (h : lines.Perm (xs ++ ys))
    (account : Account) :
    accountDebit lines account = accountDebit xs account + accountDebit ys account := by
  unfold accountDebit totalDebit
  rw [((h.filter _).map _).sum_eq, List.filter_append, List.map_append, List.sum_append]

theorem accountCredit_perm {lines xs ys : List GlLine} (h : lines.Perm (xs ++ ys))
    (account : Account) :
    accountCredit lines account = accountCredit xs account + accountCredit ys account := by
  unfold accountCredit totalCredit
  rw [((h.filter _).map _).sum_eq, List.filter_append, List.map_append, List.sum_append]

/-- What is exported are the lines of the journal, and it says that they balance. -/
theorem Db.Journaled.glExport {db : Db} (h : db.Journaled) {coa : String → Option String}
    {tenantId : ℕ} {format : String} {w : GlWindow} {x : GlExport}
    (hx : glExport coa db tenantId format w = .ok x) :
    x.lines = glLines coa db tenantId w ∧ x.totalDebit = x.totalCredit ∧ x.balanced = true := by
  unfold FinylDcp.glExport at hx
  obtain ⟨-, -, hx⟩ := bind_eq_ok.mp hx
  obtain ⟨-, -, hx⟩ := bind_eq_ok.mp hx
  obtain rfl := Except.ok.inj hx
  have hbalanced : totalDebit (glLines coa db tenantId w) =
      totalCredit (glLines coa db tenantId w) :=
    h.balanced coa w
  exact ⟨rfl, hbalanced, decide_eq_true hbalanced⟩

/-- The general ledger balances and is additive over windows: in every database that a run of an
office produces without a negative rate, fee or amount, the journal of a window balances and is
exported so, and the totals on every account are those over the first days and over the rest. -/
theorem ledger_balances {db : Db} (catalogue : Catalogue) (hdb : db.Unused)
    (hproducts : ∀ p ∈ db.products, p.Fair) (es : List OfficeEvent) (hfair : ∀ e ∈ es, e.Unsigned)
    (coa : String → Option String) (tenantId : ℕ) {a b c : ℤ} (hab : a ≤ b) (hbc : b < c) :
    let books := (run Office.step (.opening db catalogue) es).db
    let journal := fun w => glLines coa books tenantId w
    (totalDebit (journal ⟨a, c⟩) = totalCredit (journal ⟨a, c⟩) ∧
      ∀ format x, glExport coa books tenantId format ⟨a, c⟩ = .ok x →
        x.lines = journal ⟨a, c⟩ ∧ x.totalDebit = x.totalCredit ∧ x.balanced = true) ∧
    ∀ account,
      accountDebit (journal ⟨a, c⟩) account =
        accountDebit (journal ⟨a, b⟩) account + accountDebit (journal ⟨b + 1, c⟩) account ∧
      accountCredit (journal ⟨a, c⟩) account =
        accountCredit (journal ⟨a, b⟩) account + accountCredit (journal ⟨b + 1, c⟩) account := by
  intro books journal
  have hbooks : books.Journaled := journaled_run catalogue hdb hproducts hfair
  have hsplit := @glLines_perm coa books tenantId a b c hbooks.owed.divided hab hbc
  exact ⟨⟨hbooks.balanced coa ⟨a, c⟩, fun format x hx => hbooks.glExport hx⟩,
    fun account => ⟨accountDebit_perm hsplit account, accountCredit_perm hsplit account⟩⟩

/-- The loan is paid out on the first day and repaid with its penalty on the fortieth, after
the cut. -/
theorem ledger_balances_penalty :
    let books := (run Office.step (.opening (openMarket 10) openCatalogue)
      (penaltyPaid "approve")).db
    let journal := fun w => glLines (fun _ => none) books 1 w
    (totalDebit (journal ⟨0, 60⟩) = totalCredit (journal ⟨0, 60⟩) ∧
      ∀ format x, glExport (fun _ => none) books 1 format ⟨0, 60⟩ = .ok x →
        x.lines = journal ⟨0, 60⟩ ∧ x.totalDebit = x.totalCredit ∧ x.balanced = true) ∧
    ∀ account,
      accountDebit (journal ⟨0, 60⟩) account =
        accountDebit (journal ⟨0, 30⟩) account + accountDebit (journal ⟨31, 60⟩) account ∧
      accountCredit (journal ⟨0, 60⟩) account =
        accountCredit (journal ⟨0, 30⟩) account + accountCredit (journal ⟨31, 60⟩) account :=
  ledger_balances openCatalogue ⟨rfl, rfl, rfl, rfl, rfl⟩ (by decide)
    (penaltyPaid "approve") (by decide) (fun _ => none) 1
    (by decide : (0 : ℤ) ≤ 30) (by decide : (30 : ℤ) < 60)

end FinylDcp
