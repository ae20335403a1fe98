import FinylDcp.OncePerReference
import FinylDcp.PaymentConservation

/-!
# Conservation of an allocation

Where the money of a suspense entry goes when it is allocated to a loan. The entry is
closed whatever became of the payment, so its money is kept only where the payment is
new and what the loan does not take is parked.
-/
namespace FinylDcp
open Text

/-- `allocate_entry` on a loan of the tenant; a call that is refused leaves the database
as it was. -/
def allocated (db : Db) (tenantId entryId : ℕ) (entry : SuspenseEntry) (loanId resolverUserId : ℕ)
    (now : ℤ) : Db :=
  match loanRow db tenantId loanId with
  | none => db
  | some loan =>
    match allocateEntry db tenantId entryId entry loanId loan resolverUserId now with
    | .ok out => out.1
    | .error _ => db

/-- The row of an allocated entry. -/
def SuspenseEntry.allocatedTo (loanId resolverUserId : ℕ) (now : ℤ) (e : SuspenseEntry) :
    SuspenseEntry :=
  { e with status := .allocated, matchedLoanId := some loanId, resolvedAt := some now,
           resolvedByUserId := some resolverUserId }

/-- The interest owed back among some entries. -/
def creditParked (rows : List SuspenseEntry) : ℤ :=
  parkedAmount (rows.filter (·.reason = .interestRefundDue))

/-- Either nothing changed, or the entry is allocated and the rows made by the call hold its
amount, and the interest credit parked besides. -/
def KeepsMoney (db : Db) (entryId : ℕ) (entry : SuspenseEntry) (loanId resolverUserId : ℕ)
    (now : ℤ) (db' : Db) : Prop :=
  db' = db ∨ ∃ repayments rows, db'.repayments = db.repayments ++ repayments ∧
    db'.suspense =
      (db.suspense ++ rows).modify entryId (SuspenseEntry.allocatedTo loanId resolverUserId now) ∧
    (repayments.map (·.amount)).sum + parkedAmount rows = entry.amount + creditParked rows

/-- Where the loan takes money at all it has a balance to take it on, no repayment carries the
reference of the allocation, and no entry that of its excess. -/
def AllocationNew (db : Db) (tenantId entryId : ℕ) (entry : SuspenseEntry) (loanId : ℕ)
    (now : ℤ) : Prop :=
  ∀ loan, loanRow db tenantId loanId = some loan → loan.status.collectible = true →
    0 ≤ loan.outstandingBalance ∧ ¬ Repaid db tenantId (allocationRef db tenantId entryId entry) ∧
      (Overpays db loanId loan (allocationPayment db tenantId entryId entry now) →
        ¬ Parked db tenantId (allocationRef db tenantId entryId entry ++ "-OVR"))

section Allocation

variable {db : Db} {tenantId entryId loanId resolverUserId : ℕ} {entry : SuspenseEntry}
  {loan : Loan} {now : ℤ}

/-- The parked rows without the credit are the excess. -/
theorem parkedAmount_eq {excess refund : List SuspenseEntry}
    (hexcess : ∀ e ∈ excess, e.reason = .overpayment)
    (hrefund : ∀ e ∈ refund, e.reason = .interestRefundDue) :
    parkedAmount (excess ++ refund) = parkedAmount excess + creditParked (excess ++ refund) := by
  have hno : excess.filter (·.reason = .interestRefundDue) = [] := by
    rw [List.filter_eq_nil_iff]
    intro e he
    simp [hexcess e he]
  have hall : refund.filter (·.reason = .interestRefundDue) = refund := by
    rw [List.filter_eq_self]
    intro e he
    simp [hrefund e he]
  rw [parkedAmount_append, creditParked, List.filter_append, hno, hall, List.nil_append]

/-- What is taken of a payment is its amount less the excess, and nothing can be taken on a
negative balance. -/
theorem taken_eq_iff {p : Payment} (hamount : 0 < p.amount) (parked : Prop) [Decidable parked] :
    ((repaymentRow loanId p (divisionOf db loanId loan p)).map (·.amount)).sum +
        (if 0 < p.amount - (divisionOf db loanId loan p).applied ∧ ¬ parked
          then p.amount - (divisionOf db loanId loan p).applied else 0) = p.amount ↔
      0 ≤ loan.outstandingBalance ∧ (Overpays db loanId loan p → ¬ parked) := by
  have hrows : ((repaymentRow loanId p (divisionOf db loanId loan p)).map (·.amount)).sum =
      max (divisionOf db loanId loan p).applied 0 := by
    simp only [repaymentRow]
    split_ifs with hpositive
    · simp [hpositive.le]
    · simp [not_lt.mp hpositive]
  have hmost := divisionOf_applied_le db loanId loan p
  rw [hrows, overpays_iff]
  obtain hbalance | hbalance := le_or_gt 0 loan.outstandingBalance
  · obtain ⟨-, hleast, -, -⟩ := @owedParts_bounds db loanId loan p hbalance hamount
    by_cases hparked : parked
    · simp only [hparked, not_true_eq_false, and_false, if_false, hbalance, true_and, imp_false]
      constructor <;> intro h <;> omega
    · simp only [hparked, not_false_eq_true, and_true, hbalance, implies_true, iff_true]
      split_ifs <;> omega
  · have hplain : ¬ SettlesEarly db loanId loan p := by
      rintro ⟨hearly, -⟩
      obtain ⟨-, -, -, -, -, -, hpositive, -⟩ := payoffQuote_early hearly
      omega
    rw [(divisionOf_plain hplain).2.1] at hmost ⊢
    simp only [not_le.mpr hbalance, false_and, iff_false]
    split_ifs <;> omega

/-- A call that closes the entry keeps its money exactly when the rows it made hold it. -/
theorem keepsMoney_iff {db' : Db} {repayments : List Repayment} {rows : List SuspenseEntry}
    (hentry : db.suspense[entryId]? = some entry) (hstatus : entry.status ≠ .allocated)
    (hrepayments : db'.repayments = db.repayments ++ repayments)
    (hrows : db'.suspense = db.suspense ++ rows) :
    KeepsMoney db entryId entry loanId resolverUserId now
        (db'.updateSuspense entryId (SuspenseEntry.allocatedTo loanId resolverUserId now)) ↔
      (repayments.map (·.amount)).sum + parkedAmount rows = entry.amount + creditParked rows := by
  have hlt : entryId < db.suspense.length := (List.getElem?_eq_some_iff.mp hentry).1
  have hmade : (db'.updateSuspense entryId
      (SuspenseEntry.allocatedTo loanId resolverUserId now)).suspense =
        (db.suspense ++ rows).modify entryId
          (SuspenseEntry.allocatedTo loanId resolverUserId now) := by
    rw [← hrows]
    rfl
  constructor
  · rintro (hsame | ⟨repayments', rows', hrepayments', hrows', hsum⟩)
    · have hrow := congrArg (fun db => db.suspense[entryId]?) hsame
      simp only [hmade, List.getElem?_modify_eq, List.getElem?_append_left hlt, hentry] at hrow
      exact absurd (congrArg SuspenseEntry.status (Option.some.inj hrow)).symm hstatus
    · have hpaid : repayments' = repayments :=
        List.append_cancel_left (hrepayments'.symm.trans hrepayments)
      have hparked : rows' = rows := by
        have hdrop := congrArg (List.drop db.suspense.length) (hrows'.symm.trans hmade)
        rwa [List.drop_modify_of_lt _ _ _ _ hlt, List.drop_modify_of_lt _ _ _ _ hlt,
          List.drop_left, List.drop_left] at hdrop
      rwa [← hpaid, ← hparked]
  · exact fun hsum => .inr ⟨repayments, rows, hrepayments, hmade, hsum⟩

/-- An allocation keeps the entry's money exactly when its references are new: the one it is
recorded under, and that of the excess where there is one. -/
theorem allocation_conserves_iff (hentry : db.suspense[entryId]? = some entry)
    (hstatus : entry.status = .open ∨ entry.status = .pendingApproval)
    (hamount : 0 < entry.amount) :
    KeepsMoney db entryId entry loanId resolverUserId now
        (allocated db tenantId entryId entry loanId resolverUserId now) ↔
      AllocationNew db tenantId entryId entry loanId now := by
  cases hloan : loanRow db tenantId loanId with
  | none =>
    refine iff_of_true (.inl ?_) ?_
    · simp only [allocated, hloan]
    · intro loan hrow
      rw [hloan] at hrow
      cases hrow
  | some loan =>
  cases hopen : loan.status.collectible with
  | false =>
    refine iff_of_true (.inl ?_) ?_
    · simp [allocated, hloan, allocateEntry, hopen]
    · intro loan' hrow hcoll
      obtain rfl := Option.some.inj (hloan.symm.trans hrow)
      rw [hopen] at hcoll
      cases hcoll
  | true =>
  have hnew : AllocationNew db tenantId entryId entry loanId now ↔ 0 ≤ loan.outstandingBalance ∧
      ¬ Repaid db tenantId (allocationRef db tenantId entryId entry) ∧
      (Overpays db loanId loan (allocationPayment db tenantId entryId entry now) →
        ¬ Parked db tenantId (allocationRef db tenantId entryId entry ++ "-OVR")) := by
    simp [AllocationNew, hloan, hopen]
  obtain ⟨hrow, htenant⟩ := loanRow_eq_some hloan
  have hreference := allocationPayment_reference db tenantId entryId entry now
  have hown := allocationRef_ne db tenantId entryId entry
  have hstays : entry.status ≠ .allocated := by
    obtain h | h := hstatus <;> simp [h]
  generalize hp : allocationPayment db tenantId entryId entry now = p at hnew hreference
  have htenantP : p.tenantId = tenantId := by rw [← hp]; rfl
  have hamountP : p.amount = entry.amount := by rw [← hp]; rfl
  have hmoved : p.fromSuspense = true := by rw [← hp]; rfl
  have haccepts : Accepts db loan p ↔
      ¬ Repaid db tenantId (allocationRef db tenantId entryId entry) := by
    rw [Accepts, hreference, referenceAlreadyUsed_eq_none hown, htenantP, hmoved, hamountP]
    simp [hamount, htenant]
  have hpaid : ∀ {out}, payLoan db loanId loan p = .ok out →
      allocated db tenantId entryId entry loanId resolverUserId now =
        out.1.updateSuspense entryId (SuspenseEntry.allocatedTo loanId resolverUserId now) := by
    intro out hout
    simp only [allocated, hloan, allocateEntry, hopen, hp, hout, Except.map]
    rfl
  obtain ⟨out, hout⟩ := @payLoan_completes db loanId loan p (by omega)
    (htenant.trans htenantP.symm)
  rw [hpaid hout, hnew]
  obtain ⟨hno, hdb, -⟩ | ⟨-, hclosed, -⟩ | ⟨hacc, -, ⟨logs, borrowers, hdb⟩, -⟩ :=
    payLoan_cases hrow hout
  · have hrepaid := not_not.mp (fun hnone => hno (haccepts.mpr hnone))
    rw [hdb, @keepsMoney_iff _ _ _ _ _ _ _ [] [] hentry hstays (by simp) (by simp)]
    simp only [hrepaid, not_true_eq_false, false_and, and_false, iff_false]
    simp only [List.map_nil, List.sum_nil, parkedAmount, creditParked, List.filter_nil]
    omega
  · rw [hopen] at hclosed
    cases hclosed
  · obtain ⟨excess, refund, hrest, hexcess, hover, -, hcredit⟩ :=
      parkRest_divided db.suspense loanId p (divisionOf db loanId loan p)
    have hfree : suspenseWithRef db.suspense p.tenantId (some (p.reference ++ "-OVR")) = none ↔
        ¬ Parked db tenantId (allocationRef db tenantId entryId entry ++ "-OVR") := by
      rw [suspenseWithRef_eq_none (by simp), htenantP, hreference]
      simp [Parked]
    rw [keepsMoney_iff hentry hstays (by rw [hdb]) (by rw [hdb]; exact hrest),
      parkedAmount_eq hover hcredit, hexcess, if_congr (and_congr_right' hfree) rfl rfl,
      ← add_assoc, add_left_inj, ← hamountP, taken_eq_iff (by omega)]
    simp [haccepts.mp hacc]

end Allocation

/-- A receipt of 500.00 without an M-Pesa code, for no known loan. -/
def unmatchedEntry : SuspenseEntry where
  tenantId := 1
  source := .c2b
  mpesaRef := none
  phone := none
  amount := 50000
  reason := .unmatched
  status := .open
  matchedLoanId := none
  suggestedLoanId := none
  billRef := none
  payerName := none
  paidAt := none
  createdAt := 0
  resolvedAt := none
  resolvedByUserId := none

/-- The book with the receipt in suspense. -/
def receiptBook : Db := { fourWeekBook with suspense := [unmatchedEntry] }

/-- The receipt is allocated to the loan as SUS-0, and none of it is left over. -/
theorem allocation_conserves_iff_whole : receiptBook.suspense[0]? = some unmatchedEntry ∧
    (unmatchedEntry.status = .open ∨ unmatchedEntry.status = .pendingApproval) ∧
    0 < unmatchedEntry.amount ∧
    KeepsMoney receiptBook 0 unmatchedEntry 0 7 0
      (allocated receiptBook 1 0 unmatchedEntry 0 7 0) := by
  have hentry : receiptBook.suspense[0]? = some unmatchedEntry := rfl
  have hstatus : unmatchedEntry.status = .open ∨
      unmatchedEntry.status = .pendingApproval := .inl rfl
  have hamount : 0 < unmatchedEntry.amount := by decide
  refine ⟨hentry, hstatus, hamount, (allocation_conserves_iff hentry hstatus hamount).mpr ?_⟩
  intro loan hloan _
  obtain rfl : fourWeekLoan = loan := Option.some.inj hloan
  refine ⟨by decide, by decide, fun _ => ?_⟩
  decide

/-- The book in which a repayment was entered by hand under the reference SUS-0. -/
def takenBook : Db :=
  { receiptBook with repayments := [⟨1, 0, 1000, 1000, 0, 0, 0, "manual_bank", some "SUS-0"⟩] }

/-- The allocation of the receipt is taken for a duplicate of that repayment: nothing is
applied or parked, and the entry is closed as allocated. -/
theorem allocation_swallows :
    takenBook.suspense[0]? = some unmatchedEntry ∧ loanRow takenBook 1 0 = some fourWeekLoan ∧
      ¬ KeepsMoney takenBook 0 unmatchedEntry 0 7 0
        (allocated takenBook 1 0 unmatchedEntry 0 7 0) := by
  refine ⟨rfl, rfl, ?_⟩
  have hrows : (allocated takenBook 1 0 unmatchedEntry 0 7 0).repayments = takenBook.repayments ∧
      (allocated takenBook 1 0 unmatchedEntry 0 7 0).suspense =
        [unmatchedEntry.allocatedTo 0 7 0] := by decide
  rintro (hsame | ⟨repayments, rows, hrepayments, hsuspense, hsum⟩)
  · rw [hsame] at hrows
    exact absurd hrows.2 (by decide)
  · have hnone : repayments = [] := by simpa [hrows.1] using hrepayments
    have hlength := congrArg List.length (hrows.2.symm.trans hsuspense)
    have hempty : rows = [] := by
      simpa [takenBook, receiptBook, List.length_eq_zero_iff] using hlength
    subst hnone hempty
    exact absurd hsum (by decide)

end FinylDcp
