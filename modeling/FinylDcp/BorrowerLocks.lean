import FinylDcp.LoanLifecycle

/-!
# The lock of a borrower

A payout that succeeds locks the record of the borrower and opens a row in the log of the loan.
When the loan is settled its row is closed, and the borrower is unlocked unless a query over the
borrower's other loans finds one that keeps the lock.
-/
namespace FinylDcp
open Tables

/-- `ACTIVE_LOAN_STATUSES`, of the statuses that a loan takes. -/
def LoanStatus.keepsLock (status : LoanStatus) : Bool := status = .active || status = .overdue

/-- Another loan of the borrower has such a status. -/
def otherLoan (db : Db) (loanId : ℕ) (loan : Loan) (p : LoanStatus → Bool) : Bool :=
  db.loans.zipIdx.any (fun x => x.1.tenantId = loan.tenantId && x.1.borrowerId = loan.borrowerId &&
    x.2 ≠ loanId && p x.1.status)

/-- How many rows of the log are open for a loan. -/
def openLogs (logs : List LoanActiveLockLog) (loanId : ℕ) : ℕ :=
  (logs.filter (fun g => g.loanId = loanId && g.unlockAt.isNone)).length

/-- The borrower of a loan that is collected on is locked, and the log of a loan has one open
row while it is collected on and none otherwise. -/
structure LocksSound (db : Db) : Prop where
  locked : ∀ (i : ℕ) (loan : Loan), db.loans[i]? = some loan → loan.status.collectible = true →
    ∃ b, db.borrowers[loan.borrowerId]? = some b ∧ b.editLocked = true
  logged : ∀ (i : ℕ) (loan : Loan), db.loans[i]? = some loan →
    openLogs db.lockLogs i = if loan.status.collectible then 1 else 0

/-- A loan is its borrower's, in one tenant, and the log is of loans that there are. -/
structure Rooted (db : Db) : Prop where
  owned : ∀ (i : ℕ) (loan : Loan), db.loans[i]? = some loan →
    ∃ b, db.borrowers[loan.borrowerId]? = some b ∧ b.tenantId = loan.tenantId
  logs : ∀ g ∈ db.lockLogs, g.loanId < db.loans.length

/-- The loan leaves no defaulted loan of its borrower behind as the last that is collected on. -/
def LeavesNoDefault (db : Db) (loanId : ℕ) (loan : Loan) : Prop :=
  otherLoan db loanId loan (fun status => status = .defaulted) = true →
    otherLoan db loanId loan LoanStatus.keepsLock = true

instance (db : Db) (loanId : ℕ) (loan : Loan) : Decidable (LeavesNoDefault db loanId loan) := by
  unfold LeavesNoDefault
  infer_instance

section Release

variable {db : Db} {loanId : ℕ} {loan : Loan}

theorem otherLoan_iff {p : LoanStatus → Bool} : otherLoan db loanId loan p = true ↔
    ∃ i l, db.loans[i]? = some l ∧ i ≠ loanId ∧ l.tenantId = loan.tenantId ∧
      l.borrowerId = loan.borrowerId ∧ p l.status = true := by
  simp only [otherLoan, List.any_eq_true, Bool.and_eq_true, decide_eq_true_eq]
  constructor
  · rintro ⟨x, hx, ⟨⟨htenant, hborrower⟩, hid⟩, hstatus⟩
    exact ⟨x.2, x.1, List.mem_zipIdx_iff_getElem?.mp hx, hid, htenant, hborrower, hstatus⟩
  · rintro ⟨i, l, hl, hid, htenant, hborrower, hstatus⟩
    exact ⟨(l, i), List.mem_zipIdx_iff_getElem?.mpr hl, ⟨⟨htenant, hborrower⟩, hid⟩, hstatus⟩

/-- The release closes one row of the loan's log. -/
theorem openLogs_release (now : ℤ) (id : ℕ) :
    openLogs (releaseActiveLock db loanId loan now).1.lockLogs id =
      if id = loanId then openLogs db.lockLogs id - 1 else openLogs db.lockLogs id := by
  simp only [releaseActiveLock]
  cases hlast : (db.lockLogs.zipIdx.filter
      (fun x => x.1.loanId = loanId && x.1.unlockAt.isNone)).getLast? with
  | none =>
    have hnone : openLogs db.lockLogs loanId = 0 := by
      rw [openLogs, List.length_eq_zero_iff, List.filter_eq_nil_iff]
      intro g hg hopen
      obtain ⟨i, hi⟩ := List.mem_iff_getElem?.mp hg
      have hmem : (g, i) ∈ db.lockLogs.zipIdx.filter
          (fun x => x.1.loanId = loanId && x.1.unlockAt.isNone) :=
        List.mem_filter.mpr ⟨List.mem_zipIdx_iff_getElem?.mpr hi, hopen⟩
      rw [List.getLast?_eq_none_iff.mp hlast] at hmem
      cases hmem
    dsimp only
    split_ifs with hid
    · rw [hid, hnone]
    · rfl
  | some x =>
    obtain ⟨hx, hopen⟩ := List.mem_filter.mp (List.mem_of_getLast? hlast)
    have hrow := List.mem_zipIdx_iff_getElem?.mp hx
    have hcount := length_filter_modify
      (fun g : LoanActiveLockLog => g.loanId = id && g.unlockAt.isNone)
      (fun l => { l with unlockAt := some now, unlockReason := some s!"loan->{loan.status.label}" })
      hrow
    simp only [Bool.and_eq_true, decide_eq_true_eq] at hopen
    simp only [openLogs] at hcount ⊢
    by_cases hid : id = loanId
    · subst hid
      simp only [hopen.1, hopen.2, decide_true, Bool.and_self, if_true, Option.isNone_some,
        Bool.and_false, Bool.false_eq_true, if_false] at hcount ⊢
      omega
    · have hother : x.1.loanId ≠ id := fun hsame => hid (hsame.symm.trans hopen.1)
      simp only [hother, decide_false, Bool.false_and, Bool.false_eq_true, if_false] at hcount
      rw [if_neg hid]
      exact hcount

theorem releaseActiveLock_borrowers (now : ℤ) : (releaseActiveLock db loanId loan now).1.borrowers =
    if otherLoan db loanId loan LoanStatus.keepsLock then db.borrowers
    else db.borrowers.modify loan.borrowerId (fun b => { b with
      editLocked := false, editLockedReason := none }) :=
  rfl

/-- The row of a borrower after some borrower's lock is set. -/
theorem borrower_locked {borrowers : List Borrower} {i j : ℕ} {b : Borrower} {locked : Bool}
    {reason : Option String} (h : borrowers[i]? = some b) :
    (borrowers.modify j
      (fun b => { b with editLocked := locked, editLockedReason := reason }))[i]? =
      some (if j = i then { b with editLocked := locked, editLockedReason := reason } else b) := by
  rw [List.getElem?_modify, h]
  split_ifs <;> rfl

end Release

section Effects

variable {db db' : Db} {settled : Option ℕ}

/-- What a step does not change of a loan. -/
def Loan.belongs (l : Loan) : ℕ × ℕ := (l.tenantId, l.borrowerId)

theorem Loan.Moves.belongs {l l' : Loan} (h : l.Moves l') : l'.belongs = l.belongs := by
  cases h <;> rfl

/-- A move neither begins nor ends the time that a loan is collected on. -/
theorem Loan.Moves.collectible {l l' : Loan} (h : l.Moves l') :
    l'.status.collectible = l.status.collectible := by
  cases h with
  | same => rfl
  | reduced => rfl
  | decided status h hstatus =>
    have hbefore : l.status.collectible = false := by
      cases hs : l.status <;> simp [hs, LoanStatus.undecided] at h <;> rfl
    rw [hbefore]
    obtain rfl | rfl | rfl := hstatus <;> rfl
  | taken product actorUserId h => rw [h]; rfl
  | reverted h => rw [h]; rfl
  | fallsOverdue penalty h hpenalty => rw [h]; rfl
  | defaults h => obtain h | h := h <;> rw [h] <;> rfl

/-- A row after one row was replaced. -/
theorem row_of_set {loans : List Loan} {i j : ℕ} {next l : Loan}
    (h : (loans.set j next)[i]? = some l) : (i = j ∧ l = next) ∨ (i ≠ j ∧ loans[i]? = some l) := by
  rw [List.getElem?_set] at h
  split_ifs at h with hij hlt
  · exact .inl ⟨hij.symm, (Option.some.inj h).symm⟩
  · exact .inr ⟨fun hji => hij hji.symm, h⟩

theorem openLogs_append (logs : List LoanActiveLockLog) (tenantId loanId id : ℕ) :
    openLogs (logs ++ [⟨tenantId, loanId, none, none⟩]) id =
      openLogs logs id + if loanId = id then 1 else 0 := by
  rw [openLogs, List.filter_append, List.length_append, openLogs]
  by_cases hid : loanId = id <;> simp [hid]

/-- A row of the log is closed, never lost. -/
theorem releaseActiveLock_logIds (db : Db) (loanId : ℕ) (loan : Loan) (now : ℤ) :
    (releaseActiveLock db loanId loan now).1.lockLogs.map (·.loanId) =
      db.lockLogs.map (·.loanId) := by
  simp only [releaseActiveLock]
  split
  · refine map_modify_of_eq _ (fun g => ?_) _ _
    rfl
  · rfl

theorem Rooted.effect (h : Rooted db) (heffect : LifeEffect db settled db') : Rooted db' := by
  cases heffect with
  | moves hloans hborrowers hlogs =>
    refine ⟨fun i l' hl' => ?_, fun g hg => ?_⟩
    · obtain ⟨l, hl, hmoves⟩ := getElem?_of_forall₂ hloans hl'
      have hsame := hmoves.belongs
      simp only [Loan.belongs, Prod.mk.injEq] at hsame
      rw [hborrowers, hsame.1, hsame.2]
      exact h.owned i l hl
    · rw [hlogs] at hg
      rw [← hloans.length_eq]
      exact h.logs g hg
  | activates loanId loan product today hrow hstatus hproduct hproducts hloans hborrowers hlogs =>
    have hlength : db'.loans.length = db.loans.length := by rw [hloans, List.length_set]
    have howned : ∀ (i : ℕ) (l : Loan), db.loans[i]? = some l →
        ∃ b, db'.borrowers[l.borrowerId]? = some b ∧ b.tenantId = l.tenantId := by
      intro i l hl
      obtain ⟨b, hb, htenant⟩ := h.owned i l hl
      rw [hborrowers, borrower_locked hb]
      refine ⟨_, rfl, ?_⟩
      split_ifs <;> exact htenant
    refine ⟨fun i l hl => ?_, fun g hg => ?_⟩
    · rw [hloans] at hl
      obtain ⟨-, rfl⟩ | ⟨-, hl⟩ := row_of_set hl
      · exact howned loanId loan hrow
      · exact howned i l hl
    · rw [hlength]
      rw [hlogs] at hg
      obtain hg | hg := List.mem_append.mp hg
      · exact h.logs g hg
      · obtain rfl := List.mem_singleton.mp hg
        exact (List.getElem?_eq_some_iff.mp hrow).1
  | settles loanId loan paid now hrow hopen hpaid hloans hborrowers hlogs =>
    have hlength : db'.loans.length = db.loans.length := by rw [hloans, List.length_set]
    have howned : ∀ (i : ℕ) (l : Loan), db.loans[i]? = some l →
        ∃ b, db'.borrowers[l.borrowerId]? = some b ∧ b.tenantId = l.tenantId := by
      intro i l hl
      obtain ⟨b, hb, htenant⟩ := h.owned i l hl
      rw [hborrowers, releaseActiveLock_borrowers]
      split_ifs
      · exact ⟨b, hb, htenant⟩
      · rw [borrower_locked hb]
        refine ⟨_, rfl, ?_⟩
        split_ifs <;> exact htenant
    refine ⟨fun i l hl => ?_, fun g hg => ?_⟩
    · rw [hloans] at hl
      obtain ⟨-, rfl⟩ | ⟨-, hl⟩ := row_of_set hl
      · obtain ⟨balance, rebate, at_, -, rfl⟩ := hpaid
        exact howned loanId loan hrow
      · exact howned i l hl
    · rw [hlength]
      have hid : g.loanId ∈ db.lockLogs.map (·.loanId) := by
        rw [← releaseActiveLock_logIds db loanId { loan with status := .paid } now, ← hlogs]
        exact List.mem_map_of_mem hg
      obtain ⟨g', hg', hsame⟩ := List.mem_map.mp hid
      exact hsame ▸ h.logs g' hg'

theorem LocksSound.moves (h : LocksSound db) (hloans : List.Forall₂ Loan.Moves db.loans db'.loans)
    (hborrowers : db'.borrowers = db.borrowers) (hlogs : db'.lockLogs = db.lockLogs) :
    LocksSound db' := by
  constructor
  · intro i l' hl' hopen
    obtain ⟨l, hl, hmoves⟩ := getElem?_of_forall₂ hloans hl'
    have hsame := hmoves.belongs
    simp only [Loan.belongs, Prod.mk.injEq] at hsame
    rw [hborrowers, hsame.2]
    exact h.locked i l hl (hmoves.collectible.symm.trans hopen)
  · intro i l' hl'
    obtain ⟨l, hl, hmoves⟩ := getElem?_of_forall₂ hloans hl'
    rw [hlogs, hmoves.collectible]
    exact h.logged i l hl

theorem LocksSound.activates (h : LocksSound db) (hrooted : Rooted db) {loanId : ℕ} {loan : Loan}
    {product : Product} {today : ℤ} {reason : String} (hrow : db.loans[loanId]? = some loan)
    (hstatus : loan.status = .processing)
    (hloans : db'.loans = db.loans.set loanId (activate loan product today))
    (hborrowers : db'.borrowers = db.borrowers.modify loan.borrowerId (fun b => { b with
      editLocked := true, editLockedReason := some reason }))
    (hlogs : db'.lockLogs = db.lockLogs ++ [⟨loan.tenantId, loanId, none, none⟩]) :
    LocksSound db' := by
  constructor
  · intro i l hl hopen
    rw [hloans] at hl
    rw [hborrowers]
    obtain ⟨-, rfl⟩ | ⟨-, hl⟩ := row_of_set hl
    · obtain ⟨b, hb, -⟩ := hrooted.owned loanId loan hrow
      exact ⟨_, borrower_locked hb, by simp [activate]⟩
    · obtain ⟨b, hb, hlocked⟩ := h.locked i l hl hopen
      refine ⟨_, borrower_locked hb, ?_⟩
      split_ifs
      · rfl
      · exact hlocked
  · intro i l hl
    rw [hloans] at hl
    rw [hlogs, openLogs_append]
    obtain ⟨rfl, rfl⟩ | ⟨hi, hl⟩ := row_of_set hl
    · have hbefore := h.logged i loan hrow
      rw [hstatus] at hbefore
      simp [hbefore, activate, LoanStatus.collectible]
    · rw [if_neg (Ne.symm hi), add_zero]
      exact h.logged i l hl

/-- A settlement keeps the locks sound exactly when it leaves no defaulted loan behind. -/
theorem LocksSound.settles (h : LocksSound db) (hrooted : Rooted db) {loanId : ℕ} {loan paid : Loan}
    {now : ℤ} (hrow : db.loans[loanId]? = some loan) (hopen : loan.status.collectible = true)
    (hpaid : loan.Settles paid) (hloans : db'.loans = db.loans.set loanId paid)
    (hborrowers : db'.borrowers =
      (releaseActiveLock db loanId { loan with status := .paid } now).1.borrowers)
    (hlogs : db'.lockLogs =
      (releaseActiveLock db loanId { loan with status := .paid } now).1.lockLogs) :
    LocksSound db' ↔ LeavesNoDefault db loanId loan := by
  have hclosed : paid.status.collectible = false := by
    obtain ⟨balance, rebate, at_, -, rfl⟩ := hpaid
    rfl
  have hother : ∀ {i : ℕ} {l : Loan}, i ≠ loanId → db.loans[i]? = some l →
      db'.loans[i]? = some l := by
    intro i l hi hl
    rw [hloans, List.getElem?_set_ne (Ne.symm hi), hl]
  constructor
  · intro hsound hdefaulted
    by_contra hnone
    obtain ⟨i, l, hl, hi, -, hborrower, hstatus⟩ := otherLoan_iff.mp hdefaulted
    have hopen' : l.status.collectible = true := by
      rw [of_decide_eq_true hstatus]
      rfl
    obtain ⟨b, hb, hlocked⟩ := hsound.locked i l (hother hi hl) hopen'
    obtain ⟨b₀, hb₀, -⟩ := h.locked i l hl hopen'
    rw [hborrowers, releaseActiveLock_borrowers, if_neg (by exact hnone), borrower_locked hb₀,
      if_pos hborrower.symm] at hb
    obtain rfl := Option.some.inj hb
    cases hlocked
  · intro hspares
    constructor
    · intro i l hl hopen'
      rw [hloans] at hl
      obtain ⟨-, rfl⟩ | ⟨hi, hl⟩ := row_of_set hl
      · rw [hclosed] at hopen'
        cases hopen'
      obtain ⟨b, hb, hlocked⟩ := h.locked i l hl hopen'
      rw [hborrowers, releaseActiveLock_borrowers]
      split_ifs with hkeeps
      · exact ⟨b, hb, hlocked⟩
      rw [borrower_locked hb]
      have hother : loan.borrowerId ≠ l.borrowerId := by
        intro hsame
        have htenant : l.tenantId = loan.tenantId := by
          obtain ⟨b₁, hb₁, hl₁⟩ := hrooted.owned i l hl
          obtain ⟨b₂, hb₂, hl₂⟩ := hrooted.owned loanId loan hrow
          rw [hsame] at hb₂
          obtain rfl := Option.some.inj (hb₁.symm.trans hb₂)
          exact hl₁.symm.trans hl₂
        have hfound : ∀ p : LoanStatus → Bool, p l.status = true →
            otherLoan db loanId loan p = true :=
          fun p hp => otherLoan_iff.mpr ⟨i, l, hl, hi, htenant, hsame.symm, hp⟩
        refine hkeeps ?_
        cases hstatus : l.status with
        | active => exact hfound _ (by rw [hstatus]; rfl)
        | overdue => exact hfound _ (by rw [hstatus]; rfl)
        | defaulted => exact hspares (hfound _ (by rw [hstatus]; rfl))
        | _ => simp [hstatus, LoanStatus.collectible] at hopen'
      exact ⟨b, by rw [if_neg (by exact hother)], hlocked⟩
    · intro i l hl
      rw [hloans] at hl
      rw [hlogs, openLogs_release]
      obtain ⟨rfl, rfl⟩ | ⟨hi, hl⟩ := row_of_set hl
      · rw [if_pos rfl, h.logged i loan hrow, hopen, hclosed]
        rfl
      · rw [if_neg hi]
        exact h.logged i l hl

/-- An event keeps the locks sound exactly when it settles no loan that leaves a defaulted one
behind. -/
theorem LocksSound.effect_iff (h : LocksSound db) (hrooted : Rooted db)
    (heffect : LifeEffect db settled db') :
    LocksSound db' ↔ ∀ loanId ∈ settled, ∀ loan ∈ db.loans[loanId]?,
      LeavesNoDefault db loanId loan := by
  cases heffect with
  | moves hloans hborrowers hlogs => exact iff_of_true (h.moves hloans hborrowers hlogs) (by simp)
  | activates loanId loan product today hrow hstatus hproduct hproducts hloans hborrowers hlogs =>
    exact iff_of_true (h.activates hrooted hrow hstatus hloans hborrowers hlogs) (by simp)
  | settles loanId loan paid now hrow hopen hpaid hloans hborrowers hlogs =>
    rw [h.settles hrooted hrow hopen hpaid hloans hborrowers hlogs]
    simp [hrow]

variable {catalogue : Catalogue} {tenantId : ℕ} {applicant : Applicant} {body : LoanApplication}
  {year : ℤ} {out : Db × ℕ}

theorem Rooted.applied (h : Rooted db)
    (happlied : applyForLoan db catalogue tenantId applicant body year = .ok out) :
    Rooted out.1 := by
  obtain ⟨b, product, hb, htenant, -, -, hdb⟩ := applyForLoan_eq_ok happlied
  rw [hdb]
  refine ⟨fun i l hl => ?_, fun g hg => ?_⟩
  · rw [List.getElem?_append] at hl
    split_ifs at hl with hi
    · exact h.owned i l hl
    · obtain rfl := List.mem_singleton.mp (List.mem_of_getElem? hl)
      exact ⟨b, hb, htenant⟩
  · rw [List.length_append]
    exact Nat.lt_add_right 1 (h.logs g hg)

/-- A new loan is not collected on and has no log. -/
theorem LocksSound.applied (h : LocksSound db) (hrooted : Rooted db)
    (happlied : applyForLoan db catalogue tenantId applicant body year = .ok out) :
    LocksSound out.1 := by
  obtain ⟨b, product, -, -, -, -, hdb⟩ := applyForLoan_eq_ok happlied
  rw [hdb]
  constructor
  · intro i l hl hopen
    rw [List.getElem?_append] at hl
    split_ifs at hl with hi
    · exact h.locked i l hl hopen
    · obtain rfl := List.mem_singleton.mp (List.mem_of_getElem? hl)
      cases hopen
  · intro i l hl
    rw [List.getElem?_append] at hl
    split_ifs at hl with hi
    · exact h.logged i l hl
    · obtain rfl := List.mem_singleton.mp (List.mem_of_getElem? hl)
      have hnone : openLogs db.lockLogs i = 0 := by
        rw [openLogs, List.length_eq_zero_iff, List.filter_eq_nil_iff]
        intro g hg hopen
        simp only [Bool.and_eq_true, decide_eq_true_eq] at hopen
        have hlt := hrooted.logs g hg
        omega
      exact hnone

end Effects

end FinylDcp
