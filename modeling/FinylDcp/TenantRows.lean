import FinylDcp.DecisionPostings
import FinylDcp.LoanLifecycle
import FinylDcp.TenantIsolation

/-!
# Requests keep to the rows of their tenant

The tables of the platform hold the rows of every tenant side by side. A request, a callback or
a job is for one tenant, and the rows of the others are where and what they were when it is done.
-/
namespace FinylDcp
open Db Tables Text

namespace Tables

section SameElsewhere

variable {α : Type*} {mine : α → Bool} {l l' : List α} {i : ℕ}

/-- A row in its place, left as it is or mine before and after. -/
theorem SameElsewhere.modify {f : α → α}
    (h : ∀ x ∈ l[i]?, f x = x ∨ (mine x = true ∧ mine (f x) = true)) :
    SameElsewhere mine l (l.modify i f) := by
  intro j
  by_cases hij : i = j
  · subst hij
    rw [List.getElem?_modify_eq]
    cases hrow : l[i]? with
    | none => rfl
    | some x =>
      show (some (f x)).filter _ = (some x).filter _
      obtain hsame | ⟨hx, hfx⟩ := h x hrow
      · rw [hsame]
      · rw [Option.filter_some_neg (by simp [hfx]), Option.filter_some_neg (by simp [hx])]
  · rw [List.getElem?_modify_ne _ _ hij]

/-- Every row in its place, left as it is or mine before and after. -/
theorem SameElsewhere.map {f : α → α}
    (h : ∀ x, f x = x ∨ (mine x = true ∧ mine (f x) = true)) :
    SameElsewhere mine l (l.map f) := by
  intro i
  rw [List.getElem?_map]
  cases l[i]? with
  | none => rfl
  | some x =>
    rw [Option.map_some]
    obtain hsame | ⟨hx, hfx⟩ := h x
    · rw [hsame]
    · rw [Option.filter_some_neg (by simp [hfx]), Option.filter_some_neg (by simp [hx])]

/-- A place with a row of mine has none of another. -/
theorem SameElsewhere.own (h : SameElsewhere mine l l') (hmine : ∀ x ∈ l[i]?, mine x = true) :
    ∀ x ∈ l'[i]?, mine x = true := by
  intro x hx
  have hnone : (l[i]?).filter (fun x => !mine x) = none := by
    rw [Option.filter_eq_none_iff]
    intro y hy
    simp [hmine y hy]
  have hrow : (l'[i]?).filter (fun x => !mine x) = none := (h i).trans hnone
  simpa using Option.filter_eq_none_iff.mp hrow x hx

/-- The rows of one owner stand where they stood, and no other of its came. -/
def SameRows (ownerOf : α → ℕ) (owner : ℕ) (before after : List α) : Prop :=
  ∀ i : ℕ, (after[i]?).filter (fun x => ownerOf x = owner) =
    (before[i]?).filter (fun x => ownerOf x = owner)

section SameRows

variable {ownerOf : α → ℕ} {owner other : ℕ} {l'' : List α}

theorem SameRows.refl (l : List α) : SameRows ownerOf owner l l := fun _ => rfl

theorem SameRows.trans (h : SameRows ownerOf owner l l') (h' : SameRows ownerOf owner l' l'') :
    SameRows ownerOf owner l l'' := fun i => (h' i).trans (h i)

/-- Rows of one owner stay where the rows of another change. -/
theorem SameElsewhere.sameRows (h : SameElsewhere (fun x => ownerOf x = other) l l')
    (hother : other ≠ owner) : SameRows ownerOf owner l l' := by
  have hfilter : ∀ o : Option α, o.filter (fun x => ownerOf x = owner) =
      (o.filter (fun x => !decide (ownerOf x = other))).filter (fun x => ownerOf x = owner) := by
    intro o
    cases o with
    | none => rfl
    | some x =>
      by_cases hx : ownerOf x = owner
      · rw [Option.filter_some_pos (p := fun x => !decide (ownerOf x = other))]
        rw [hx]
        simpa using hother.symm
      · rw [Option.filter_some_neg (by simpa using hx), Option.filter_filter]
        refine (Option.filter_some_neg ?_).symm
        simp [hx]
  intro i
  rw [hfilter, h i, ← hfilter]

end SameRows

end SameElsewhere

end Tables

/-- Among the loans, repayments, suspense entries, transactions, requests and settings, the rows
of all tenants but one are as they were. -/
structure Confined (tenantId : ℕ) (before after : Db) : Prop extends
    OthersUntouched tenantId before after where
  pending : SameElsewhere (fun p : PendingApproval => p.tenantId = tenantId)
    before.pending after.pending
  settings : SameElsewhere (fun c : PaymentsConfig => c.tenantId = tenantId)
    before.paymentsConfigs after.paymentsConfigs

namespace Confined

variable {tenantId : ℕ} {db db' db'' : Db}

theorem refl (tenantId : ℕ) (db : Db) : Confined tenantId db db :=
  ⟨.refl tenantId db, .refl _, .refl _⟩

theorem trans (h : Confined tenantId db db') (h' : Confined tenantId db' db'') :
    Confined tenantId db db'' where
  loans := h.loans.trans h'.loans
  repayments := h.repayments.trans h'.repayments
  suspense := h.suspense.trans h'.suspense
  transactions := h.transactions.trans h'.transactions
  pending := h.pending.trans h'.pending
  settings := h.settings.trans h'.settings

theorem ofLoans {loans : List Loan}
    (h : SameElsewhere (fun l : Loan => l.tenantId = tenantId) db.loans loans) :
    Confined tenantId db { db with loans := loans } :=
  { Confined.refl tenantId db with loans := h }

theorem ofSuspense {suspense : List SuspenseEntry}
    (h : SameElsewhere (fun e : SuspenseEntry => e.tenantId = tenantId) db.suspense suspense) :
    Confined tenantId db { db with suspense := suspense } :=
  { Confined.refl tenantId db with suspense := h }

theorem ofTransactions {txns : List PaymentTransaction}
    (h : SameElsewhere (fun t : PaymentTransaction => t.tenantId = tenantId)
      db.transactions txns) : Confined tenantId db { db with transactions := txns } :=
  { Confined.refl tenantId db with transactions := h }

theorem ofPending {pending : List PendingApproval}
    (h : SameElsewhere (fun p : PendingApproval => p.tenantId = tenantId) db.pending pending) :
    Confined tenantId db { db with pending := pending } :=
  { Confined.refl tenantId db with pending := h }

theorem ofSettings {configs : List PaymentsConfig}
    (h : SameElsewhere (fun c : PaymentsConfig => c.tenantId = tenantId)
      db.paymentsConfigs configs) : Confined tenantId db { db with paymentsConfigs := configs } :=
  { Confined.refl tenantId db with settings := h }

/-- The other tables are nobody's here. -/
theorem aside (db : Db) (products : List Product) (borrowers : List Borrower)
    (logs : List LoanActiveLockLog) : Confined tenantId db { db with
      products := products, borrowers := borrowers, lockLogs := logs } :=
  { Confined.refl tenantId db with }

variable {i : ℕ}

theorem updateLoan {f : Loan → Loan}
    (h : ∀ l ∈ db.loans[i]?, f l = l ∨ (l.tenantId = tenantId ∧ (f l).tenantId = tenantId)) :
    Confined tenantId db (db.updateLoan i f) :=
  ofLoans (.modify fun l hl => by simpa using h l hl)

theorem updateSuspense {f : SuspenseEntry → SuspenseEntry}
    (h : ∀ e ∈ db.suspense[i]?, f e = e ∨ (e.tenantId = tenantId ∧ (f e).tenantId = tenantId)) :
    Confined tenantId db (db.updateSuspense i f) :=
  ofSuspense (.modify fun e he => by simpa using h e he)

theorem updateTransaction {f : PaymentTransaction → PaymentTransaction}
    (h : ∀ t ∈ db.transactions[i]?, t.tenantId = tenantId)
    (hf : ∀ t, (f t).tenantId = t.tenantId) : Confined tenantId db (db.updateTransaction i f) := by
  refine ofTransactions (.modify fun t ht => .inr ?_)
  rw [decide_eq_true_eq, decide_eq_true_eq, hf]
  exact ⟨h t ht, h t ht⟩

theorem decided {status : ApprovalStatus} {checkerId : ℕ}
    (h : ∀ p ∈ db.pending[i]?, p.tenantId = tenantId) :
    Confined tenantId db (FinylDcp.decided db i status checkerId) := by
  refine ofPending (.modify fun p hp => .inr ?_)
  rw [decide_eq_true_eq]
  exact ⟨h p hp, h p hp⟩

theorem addTransaction {t : PaymentTransaction} (h : t.tenantId = tenantId) :
    Confined tenantId db { db with transactions := db.transactions ++ [t] } := by
  refine ofTransactions (.append _ fun t' ht' => ?_)
  rw [List.mem_singleton.mp ht', decide_eq_true_eq]
  exact h

theorem addRequest {p : PendingApproval} (h : p.tenantId = tenantId) :
    Confined tenantId db { db with pending := db.pending ++ [p] } := by
  refine ofPending (.append _ fun p' hp' => ?_)
  rw [List.mem_singleton.mp hp', decide_eq_true_eq]
  exact h

theorem ownTransaction (h : Confined tenantId db db')
    (hown : ∀ t ∈ db.transactions[i]?, t.tenantId = tenantId) :
    ∀ t ∈ db'.transactions[i]?, t.tenantId = tenantId := by
  intro t ht
  have hmine := h.transactions.own (fun t' ht' => decide_eq_true (hown t' ht')) t ht
  exact of_decide_eq_true hmine

theorem ownEntry (h : Confined tenantId db db')
    (hown : ∀ e ∈ db.suspense[i]?, e.tenantId = tenantId) :
    ∀ e ∈ db'.suspense[i]?, e.tenantId = tenantId := by
  intro e he
  have hmine := h.suspense.own (fun e' he' => decide_eq_true (hown e' he')) e he
  exact of_decide_eq_true hmine

theorem ownRequest (h : Confined tenantId db db')
    (hown : ∀ p ∈ db.pending[i]?, p.tenantId = tenantId) :
    ∀ p ∈ db'.pending[i]?, p.tenantId = tenantId := by
  intro p hp
  have hmine := h.pending.own (fun p' hp' => decide_eq_true (hown p' hp')) p hp
  exact of_decide_eq_true hmine

end Confined

/-- A row of the tenant is one, if the place is not empty. -/
theorem own_of_row {α : Type*} (tenantOf : α → ℕ) {tenantId : ℕ} {row : Option α} {x : α}
    (h : row = some x) (hx : tenantOf x = tenantId) : ∀ y ∈ row, tenantOf y = tenantId := by
  intro y hy
  rw [← hx, Option.some.inj (h.symm.trans hy)]

section Requests

variable {tenantId : ℕ} {db saved : Db}

theorem overdueAlert_confined (products : List Product) (today : ℤ) (loan : Loan) :
    (overdueAlert products tenantId today loan).1 = loan ∨ (loan.tenantId = tenantId ∧
      (overdueAlert products tenantId today loan).1.tenantId = tenantId) := by
  have hkeeps := (overdueAlert_keeps products tenantId today loan).tenant
  by_cases hmine : loan.tenantId = tenantId
  · exact .inr ⟨hmine, hkeeps.trans hmine⟩
  · refine .inl ?_
    unfold overdueAlert
    rw [if_neg]
    simp [Loan.pastDue, hmine]

theorem defaultLoan_confined (cutoff : ℤ) (loan : Loan) :
    defaultLoan tenantId cutoff loan = loan ∨ (loan.tenantId = tenantId ∧
      (defaultLoan tenantId cutoff loan).tenantId = tenantId) := by
  have hkeeps := (defaultLoan_keeps tenantId cutoff loan).tenant
  by_cases hmine : loan.tenantId = tenantId
  · exact .inr ⟨hmine, hkeeps.trans hmine⟩
  · refine .inl ?_
    unfold defaultLoan
    rw [if_neg]
    simp [Loan.pastDue, hmine]

/-- The tenant whose loans or settings upkeep is about. -/
def Upkeep.tenant (db : Db) : Upkeep → Option ℕ
  | settings tenantId _ _ => some tenantId
  | penalty loanId => (db.loans[loanId]?).map (·.tenantId)
  | overdueAlerts tenantId _ => some tenantId
  | defaulting tenantId _ _ => some tenantId

theorem setPaymentSettings_confined {order early : Option String}
    (h : setPaymentSettings db tenantId order early = .ok saved) : Confined tenantId db saved := by
  simp only [setPaymentSettings] at h
  split_ifs at h
  split at h
  · cases h
    refine .ofSettings (.append _ fun c hc => ?_)
    rw [List.mem_singleton.mp hc, decide_eq_true_eq]
  · rename_i i hi
    cases h
    refine .ofSettings (.modify fun c hc => .inr ?_)
    obtain ⟨hlt, hfound, -⟩ := List.findIdx?_eq_some_iff_getElem.mp hi
    obtain ⟨-, rfl⟩ := List.getElem?_eq_some_iff.mp hc
    exact ⟨hfound, hfound⟩

theorem upkeep_confined {u : Upkeep} (h : ∀ t, u.tenant db = some t → t = tenantId) :
    Confined tenantId db (u.apply db) := by
  cases u with
  | settings tenantId' order early =>
    obtain rfl := h tenantId' rfl
    simp only [Upkeep.apply]
    split
    · exact setPaymentSettings_confined ‹_›
    · exact .refl tenantId' db
  | penalty loanId =>
    refine .updateLoan fun l hl => .inr ?_
    have hmine : l.tenantId = tenantId :=
      h l.tenantId (by simp [Upkeep.tenant, Option.mem_def.mp hl])
    exact ⟨hmine, (accrueOverduePenalty_keeps _ l).tenant.trans hmine⟩
  | overdueAlerts tenantId' today =>
    obtain rfl := h tenantId' rfl
    refine .ofLoans ?_
    rw [List.map_map]
    exact .map fun l => by simpa using overdueAlert_confined db.products today l
  | defaulting tenantId' today graceDays =>
    obtain rfl := h tenantId' rfl
    exact .ofLoans (.map fun l => by simpa using defaultLoan_confined (today - graceDays) l)

theorem decideLoan_confined {loanId : ℕ} {decider : LoanDecider} {action : String}
    (h : decideLoan db tenantId loanId decider action = .ok saved) :
    Confined tenantId db saved := by
  simp only [decideLoan] at h
  split at h
  · cases h
  rename_i loan hloan
  obtain ⟨hrow, hmine⟩ := loanRow_eq_some hloan
  have hdecided : ∀ status : LoanStatus, Confined tenantId db
      (db.updateLoan loanId (fun l => { l with status := status })) := by
    intro status
    refine .updateLoan fun l hl => .inr ?_
    obtain rfl := Option.some.inj (hrow.symm.trans hl)
    exact ⟨hmine, hmine⟩
  split at h
  · cases h
  split at h
  · cases h
  split at h
  · cases h
  split at h
  · obtain ⟨-, rfl⟩ := Db.commit_eq_ok.mp h
    exact hdecided .rejected
  split at h
  · cases h
    exact .refl tenantId db
  split at h
  · cases h
  · obtain ⟨-, rfl⟩ := Db.commit_eq_ok.mp h
    exact hdecided .approved

theorem transitionLoan_confined {loanId : ℕ} {seesLoan : Bool} {status : String} {now : ℤ}
    (h : transitionLoan db tenantId loanId seesLoan status now = .ok saved) :
    Confined tenantId db saved := by
  simp only [transitionLoan] at h
  split at h
  · cases h
  rename_i loan hloan
  obtain ⟨hrow, hmine⟩ := loanRow_eq_some hloan
  split at h
  · cases h
  split at h
  · cases h
  · cases h
  · cases h
  · split at h
    · cases h
    obtain ⟨-, rfl⟩ := Db.commit_eq_ok.mp h
    obtain ⟨logs, borrowers, hreleased⟩ :=
      releaseActiveLock_db db loanId { loan with status := .paid } now
    rw [hreleased]
    refine (Confined.aside db db.products borrowers logs).trans (.updateLoan fun l hl => .inr ?_)
    obtain rfl := Option.some.inj (hrow.symm.trans hl)
    rw [Loan.flush_loaded]
    exact ⟨hmine, hmine⟩
  · obtain ⟨-, rfl⟩ := Db.commit_eq_ok.mp h
    refine .updateLoan fun l hl => .inr ?_
    obtain rfl := Option.some.inj (hrow.symm.trans hl)
    exact ⟨hmine, hmine⟩

theorem applyForLoan_confined {catalogue : Catalogue} {applicant : Applicant}
    {body : LoanApplication} {year : ℤ} {out : Db × ℕ}
    (h : applyForLoan db catalogue tenantId applicant body year = .ok out) :
    Confined tenantId db out.1 := by
  obtain ⟨borrower, product, -, -, -, -, hdb⟩ := applyForLoan_eq_ok h
  rw [hdb]
  refine .ofLoans (.append _ fun l hl => ?_)
  rw [List.mem_singleton.mp hl, decide_eq_true_eq]
  rfl

theorem recordSuspense_confined (db : Db) {x : Receipt} (now : ℤ) (h : x.tenantId = tenantId) :
    Confined tenantId db (recordSuspense db x now).1 :=
  .ofSuspense (park_untouched db.suspense now h)

theorem payLoan_confined {loanId : ℕ} {loan : Loan} {p : Payment} {out : Db × ApplyResult}
    (hrow : db.loans[loanId]? = some loan) (hp : p.tenantId = tenantId)
    (h : payLoan db loanId loan p = .ok out) : Confined tenantId db out.1 := by
  have hbooks := payLoan_untouched hrow ((payLoan_tenant h).trans hp) hp h
  refine { hbooks with pending := ?_, settings := ?_ }
  · rw [(payLoan_grows h).2.1]
    exact .refl _
  · obtain ⟨-, hdb, -⟩ | ⟨-, -, hdb, -⟩ | ⟨-, -, ⟨logs, borrowers, hdb⟩, -⟩ := payLoan_cases hrow h
    · rw [hdb]
      exact .refl _
    · rw [hdb]
      exact .refl _
    · rw [hdb]
      exact .refl _

theorem allocateEntry_confined {entryId loanId resolverUserId : ℕ} {entry : SuspenseEntry}
    {loan : Loan} {now : ℤ} {out : Db × ApplyResult} (hentry : db.suspense[entryId]? = some entry)
    (hmine : entry.tenantId = tenantId) (hrow : db.loans[loanId]? = some loan)
    (h : allocateEntry db tenantId entryId entry loanId loan resolverUserId now = .ok out) :
    Confined tenantId db out.1 := by
  simp only [allocateEntry] at h
  split at h
  · cases h
  obtain ⟨paid, hpaid, hout⟩ := map_eq_ok.mp h
  have hconfined : Confined tenantId db paid.1 := payLoan_confined hrow rfl hpaid
  have hown := hconfined.ownEntry (own_of_row _ hentry hmine)
  rw [← hout]
  exact hconfined.trans (.updateSuspense fun e he => .inr ⟨hown e he, hown e he⟩)

theorem parkSuspense_confined {entryId : ℕ} {entry : SuspenseEntry} {p : PendingApproval}
    (hentry : db.suspense[entryId]? = some entry) (hmine : entry.tenantId = tenantId)
    (hp : p.tenantId = tenantId) : Confined tenantId db (parkSuspense db entryId p).1 := by
  have hown : ∀ e ∈ db.suspense[entryId]?, e.tenantId = tenantId := own_of_row _ hentry hmine
  have hheld : Confined tenantId db (db.updateSuspense entryId fun e =>
      { e with status := .pendingApproval }) :=
    .updateSuspense fun e he => .inr ⟨hown e he, hown e he⟩
  exact hheld.trans (.addRequest hp)

theorem allocateSuspense_confined {makerId entryId loanId : ℕ} {needsChecker : Bool} {now : ℤ}
    {out : Db × Reply}
    (h : allocateSuspense db tenantId makerId entryId loanId needsChecker now = .ok out) :
    Confined tenantId db out.1 := by
  obtain ⟨found, hfound, h⟩ := bind_eq_ok.mp h
  split at h
  · cases h
    exact .refl tenantId db
  rename_i entry
  obtain ⟨hentry, hmine, -⟩ := openEntry_eq_some hfound
  obtain ⟨-, -, h⟩ := bind_eq_ok.mp h
  split at h
  · cases h
  rename_i loan hloan
  obtain ⟨-, -, h⟩ := bind_eq_ok.mp h
  split at h
  · obtain ⟨-, rfl⟩ := commitWith_eq_ok.mp h
    exact parkSuspense_confined hentry hmine rfl
  · obtain ⟨paid, hpaid, h⟩ := bind_eq_ok.mp h
    obtain ⟨-, rfl⟩ := commitWith_eq_ok.mp h
    exact allocateEntry_confined hentry hmine (loanRow_eq_some hloan).1 hpaid

theorem refundSuspense_confined {makerId entryId : ℕ} {phone note : Option String}
    (h : refundSuspense db tenantId makerId entryId phone note = .ok saved) :
    Confined tenantId db saved := by
  obtain ⟨found, hfound, h⟩ := bind_eq_ok.mp h
  split at h
  · cases h
    exact .refl tenantId db
  rename_i entry
  obtain ⟨hentry, hmine, -⟩ := openEntry_eq_some hfound
  obtain ⟨parked, hparked, h⟩ := bind_eq_ok.mp h
  obtain ⟨-, rfl⟩ := Db.commit_eq_ok.mp h
  obtain ⟨sendTo, -, hparked⟩ := bind_eq_ok.mp hparked
  obtain ⟨-, -, hparked⟩ := bind_eq_ok.mp hparked
  cases hparked
  exact parkSuspense_confined hentry hmine rfl

theorem reverseSuspense_confined {makerId entryId : ℕ} {note : Option String}
    (h : reverseSuspense db tenantId makerId entryId note = .ok saved) :
    Confined tenantId db saved := by
  obtain ⟨found, hfound, h⟩ := bind_eq_ok.mp h
  split at h
  · cases h
    exact .refl tenantId db
  rename_i entry
  obtain ⟨hentry, hmine, -⟩ := openEntry_eq_some hfound
  obtain ⟨parked, hparked, h⟩ := bind_eq_ok.mp h
  obtain ⟨-, rfl⟩ := Db.commit_eq_ok.mp h
  simp only [parkSuspenseReversal] at hparked
  split at hparked
  · cases hparked
  split at hparked
  · cases hparked
  · cases hparked
    exact parkSuspense_confined hentry hmine rfl

theorem refundPayment_confined {makerId loanId : ℕ} {phone : Option String} {amount : Option ℤ}
    {reason : Option String}
    (h : refundPayment db tenantId makerId loanId phone amount reason = .ok saved) :
    Confined tenantId db saved := by
  simp only [refundPayment] at h
  split at h
  · cases h
  split at h
  · cases h
  split at h
  · cases h
  split at h
  · cases h
  split at h
  · cases h
  split at h
  · cases h
  · obtain ⟨-, rfl⟩ := Db.commit_eq_ok.mp h
    exact .addRequest rfl

theorem processC2bCallback_confined {shortcodeToTenant : String → Option ℕ} {cb : C2BCallback}
    {freshRef : String} {now : ℤ} {out : Db × Reply}
    (htenant : c2bTenant db shortcodeToTenant cb = .ok tenantId)
    (h : processC2bCallback db shortcodeToTenant cb freshRef now = .ok out) :
    Confined tenantId db out.1 := by
  simp only [processC2bCallback, htenant] at h
  change (if _ then _ else _) = _ at h
  split at h
  · cases h
    exact .refl tenantId db
  split at h
  · obtain ⟨-, rfl⟩ := commitWith_eq_ok.mp h
    let receipt := cb.receipt tenantId (matchReference db tenantId cb.billRefNumber cb.msisdn)
      freshRef
    have hparked : Confined tenantId db (recordSuspense db receipt now).1 :=
      recordSuspense_confined db now rfl
    exact hparked.trans (.addTransaction rfl)
  split at h
  · cases h
  · rename_i loan hloan
    obtain ⟨paid, hpaid, h⟩ := bind_eq_ok.mp h
    have hconfined : Confined tenantId db paid.1 :=
      payLoan_confined (loanRow_eq_some hloan).1 rfl hpaid
    split at h
    · cases h
      exact .refl tenantId db
    · obtain ⟨-, rfl⟩ := commitWith_eq_ok.mp h
      exact hconfined.trans (.addTransaction rfl)

theorem processStkCallback_confined {cb : StkCallback} {freshRef : String} {now : ℤ}
    {out : Db × Reply} (htenant : ∀ t ∈ stkTransaction db cb, t.tenantId = tenantId)
    (h : processStkCallback db cb freshRef now = .ok out) : Confined tenantId db out.1 := by
  simp only [processStkCallback] at h
  split at h
  · cases h
    exact .refl tenantId db
  rename_i checkoutId hcheckout
  split at h
  · cases h
  rename_i txnId hfound
  split at h
  · cases h
  rename_i txn htxn
  have hmine : txn.tenantId = tenantId := by
    refine htenant txn ?_
    rw [Option.mem_def, stkTransaction, hcheckout]
    exact find?_of_findIdx? hfound htxn
  have hown := own_of_row PaymentTransaction.tenantId htxn hmine
  split at h
  · cases h
    exact .refl tenantId db
  split at h
  · obtain ⟨-, rfl⟩ := commitWith_eq_ok.mp h
    exact .updateTransaction hown fun _ => rfl
  have hpaid : ∀ ref, Confined tenantId db (stkPaid db txnId ref) :=
    fun ref => .updateTransaction hown fun _ => rfl
  split at h
  · rename_i loanId loan hheld
    split at h
    · obtain ⟨paid, hpay, h⟩ := bind_eq_ok.mp h
      obtain ⟨-, rfl⟩ := commitWith_eq_ok.mp h
      obtain ⟨-, hrow, -⟩ := loanOf_eq_some hheld
      exact (hpaid _).trans (payLoan_confined hrow hmine hpay)
    · obtain ⟨-, rfl⟩ := commitWith_eq_ok.mp h
      exact hpaid _
  · obtain ⟨-, rfl⟩ := commitWith_eq_ok.mp h
    exact hpaid _

theorem recordManualPayment_confined {makerId : ℕ} {body : ManualPaymentIn} {needsChecker : Bool}
    {freshRef : String} {now : ℤ} {out : Db × Reply}
    (h : recordManualPayment db tenantId makerId body needsChecker freshRef now = .ok out) :
    Confined tenantId db out.1 := by
  obtain ⟨entry, hentry, h⟩ := bind_eq_ok.mp h
  split at h
  · obtain ⟨-, rfl⟩ := commitWith_eq_ok.mp h
    exact .addRequest rfl
  · obtain ⟨paid, hpaid, h⟩ := bind_eq_ok.mp h
    obtain ⟨-, rfl⟩ := commitWith_eq_ok.mp h
    simp only [applyManual] at hpaid
    split at hpaid
    · cases hpaid
    exact payLoan_confined (validateManualPayment_eq_ok hentry).1 rfl hpaid

theorem reconcilePayment_confined {makerId loanId : ℕ} {amount : ℤ} {mpesaRef : Option String}
    {needsChecker : Bool} {freshRef : String} {now : ℤ} {out : Db × Reply}
    (h : reconcilePayment db tenantId makerId loanId amount mpesaRef needsChecker freshRef now =
      .ok out) : Confined tenantId db out.1 := by
  simp only [reconcilePayment] at h
  split at h
  · cases h
  split at h
  · cases h
  rename_i loan hloan
  split at h
  · cases h
    exact .refl tenantId db
  obtain ⟨-, -, h⟩ := bind_eq_ok.mp h
  obtain ⟨-, -, h⟩ := bind_eq_ok.mp h
  split at h
  · obtain ⟨-, rfl⟩ := commitWith_eq_ok.mp h
    exact .addRequest rfl
  · obtain ⟨paid, hpaid, h⟩ := bind_eq_ok.mp h
    obtain ⟨-, rfl⟩ := commitWith_eq_ok.mp h
    exact payLoan_confined (loanRow_eq_some hloan).1 rfl hpaid

end Requests

end FinylDcp
