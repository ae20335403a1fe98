import FinylDcp.OverdueJobs
import FinylDcp.PaymentEffects
import FinylDcp.Runs
import FinylDcp.Tables

/-!
# The overdue job beside payments

The job reads the loans that are due without a lock, changes its objects of them, and
writes the changed columns as they are in its objects. A write holds the row until the
job's commit; before it, payments lock the row, apply and commit. A payment that falls
between the job's read and its write is what the job does not see.
-/
namespace FinylDcp
open Runs

/-- A loan object of the job's session: as it was read or last written, and as it is. -/
structure LoanObject where
  id : ℕ
  loaded : Loan
  now : Loan
  deriving DecidableEq, Repr

/-- What a pass does to each loan it found. -/
inductive SweepTask
  | alert (id : ℕ)
  | default (id : ℕ)
  deriving DecidableEq, Repr

def SweepTask.id : SweepTask → ℕ
  | alert id => id
  | default id => id

/-- The database and the job's session: its objects, what is left of the pass, the objects
to be written and the rows it holds. Of the past: what payments took off each balance, what
the job put on it, and the loans a payment brought to zero. -/
structure OverdueBatch where
  db : Db
  objects : List LoanObject
  todo : List SweepTask
  dirty : List ℕ
  held : List ℕ
  paid : List (ℕ × ℤ)
  charged : List (ℕ × ℤ)
  cleared : List ℕ

inductive BatchStep
  | pay (loanId : ℕ) (p : Payment)
  | findOverdue (tenantId : ℕ) (today : ℤ)
  | findDefaulting (tenantId : ℕ) (today graceDays : ℤ)
  | next
  | write
  | commit

namespace OverdueBatch

/-- No job is running. -/
def start (db : Db) : OverdueBatch := ⟨db, [], [], [], [], [], [], []⟩

/-- The object of a loan the session holds. -/
def object (s : OverdueBatch) (id : ℕ) : Option LoanObject := s.objects.find? (fun o => o.id = id)

/-- The ids of the loans a query finds. -/
def found (s : OverdueBatch) (tenantId : ℕ) (limit : ℤ) : List ℕ :=
  (s.db.loans.zipIdx.filter (fun x => x.1.pastDue tenantId limit)).map (·.2)

/-- Load the rows of a query: an object the session holds already is not refreshed. -/
def load (s : OverdueBatch) (ids : List ℕ) : List LoanObject :=
  s.objects ++ ids.filterMap (fun id =>
    if (s.object id).isSome then none else (s.db.loans[id]?).map (fun row => ⟨id, row, row⟩))

/-- The object of a loan after its turn in the pass. -/
def changed (s : OverdueBatch) (o : LoanObject) : SweepTask → Loan
  | .alert _ =>
    if o.now.status = .active then
      (accrueOverduePenalty s.db.products[o.now.productId]? { o.now with status := .overdue }).1
    else o.now
  | .default _ => { o.now with status := .defaulted }

/-- Change an object of the session. -/
def setObject (s : OverdueBatch) (id : ℕ) (f : LoanObject → LoanObject) : List LoanObject :=
  s.objects.map (fun o => if o.id = id then f o else o)

/-- A payment waits while the job holds its row. -/
def pay (s : OverdueBatch) (loanId : ℕ) (p : Payment) : OverdueBatch :=
  if loanId ∈ s.held then s
  else
    match s.db.loans[loanId]? with
    | none => s
    | some before =>
      let db := receivePayment s.db loanId p
      match db.loans[loanId]? with
      | none => s
      | some after => { s with
          db := db
          paid := s.paid ++ [(loanId, before.outstandingBalance - after.outstandingBalance)]
          cleared := if 0 < before.outstandingBalance && after.outstandingBalance ≤ 0 then
            s.cleared ++ [loanId] else s.cleared }

/-- Write the changed columns of an object to its row. -/
def writeObject (s : OverdueBatch) (o : LoanObject) (rest : List ℕ) : OverdueBatch :=
  { s with
    db := s.db.flushLoan o.id o.loaded o.now
    objects := s.setObject o.id (fun o => { o with loaded := o.now })
    dirty := rest
    held := s.held ++ [o.id]
    charged := s.charged ++ [(o.id, o.now.outstandingBalance - o.loaded.outstandingBalance)] }

/-- A pass takes its loans one by one; what it changed is written at a flush, which a
message sent in between brings about, or at the commit. -/
def step (s : OverdueBatch) : BatchStep → OverdueBatch
  | .pay loanId p => s.pay loanId p
  | .findOverdue tenantId today =>
    if s.todo = [] then
      let ids := s.found tenantId today
      { s with objects := s.load ids, todo := ids.map SweepTask.alert }
    else s
  | .findDefaulting tenantId today graceDays =>
    if s.todo = [] then
      let ids := s.found tenantId (today - graceDays)
      { s with objects := s.load ids, todo := ids.map SweepTask.default }
    else s
  | .next =>
    match s.todo with
    | [] => s
    | task :: rest =>
      match s.object task.id with
      | none => { s with todo := rest }
      | some o => { s with
          objects := s.setObject task.id (fun o => { o with now := s.changed o task })
          todo := rest
          dirty := s.dirty.filter (· ≠ task.id) ++
            if s.changed o task = o.loaded then [] else [task.id] }
  | .write =>
    match s.dirty with
    | [] => s
    | id :: rest =>
      match s.object id with
      | none => { s with dirty := rest }
      | some o => s.writeObject o rest
  | .commit =>
    if s.todo = [] ∧ s.dirty = [] then { s with objects := [], held := [] } else s

end OverdueBatch

/-- The amounts booked for a loan. -/
def booked (xs : List (ℕ × ℤ)) (id : ℕ) : ℤ := ((xs.filter (fun x => x.1 = id)).map (·.2)).sum

@[simp] theorem booked_append (xs : List (ℕ × ℤ)) (id other : ℕ) (x : ℤ) :
    booked (xs ++ [(other, x)]) id = booked xs id + if other = id then x else 0 := by
  by_cases hid : other = id
  · simp [booked, hid]
  · simp [booked, hid]

/-- Every payment taken since the start is in the balance of its loan, beside the penalties
the job has written; and a loan a payment brought to zero is paid. -/
structure NothingLost (start : Db) (s : OverdueBatch) : Prop where
  balance : ∀ i row₀, start.loans[i]? = some row₀ → ∀ row ∈ s.db.loans[i]?,
    row.outstandingBalance = row₀.outstandingBalance + booked s.charged i - booked s.paid i
  cleared : ∀ i ∈ s.cleared, ∀ row ∈ s.db.loans[i]?, row.status = .paid

/-- The object the job writes next is up to date with the payments where it matters: no
payment has changed a balance the job changes, or brought to zero a loan whose status it
changes. -/
def UpToDate (s : OverdueBatch) : BatchStep → Prop
  | .write => ∀ id ∈ s.dirty.head?, ∀ o ∈ s.object id, ∀ row ∈ s.db.loans[o.id]?,
      (o.now.outstandingBalance ≠ o.loaded.outstandingBalance →
        row.outstandingBalance = o.loaded.outstandingBalance) ∧
      (o.now.status ≠ o.loaded.status → o.id ∉ s.cleared)
  | _ => True

instance (s : OverdueBatch) : (a : BatchStep) → Decidable (UpToDate s a)
  | .write => inferInstanceAs (Decidable (∀ id ∈ s.dirty.head?, ∀ o ∈ s.object id,
      ∀ row ∈ s.db.loans[o.id]?, (o.now.outstandingBalance ≠ o.loaded.outstandingBalance →
        row.outstandingBalance = o.loaded.outstandingBalance) ∧
      (o.now.status ≠ o.loaded.status → o.id ∉ s.cleared)))
  | .pay _ _ | .findOverdue _ _ | .findDefaulting _ _ _ | .next | .commit => isTrue trivial

/-- No loan comes or goes, and the job makes no loan paid. -/
structure BatchSound (start : Db) (s : OverdueBatch) : Prop where
  length : s.db.loans.length = start.loans.length
  statuses : ∀ o ∈ s.objects, o.now.status ≠ o.loaded.status → o.now.status ≠ .paid

section Payments

variable {db : Db} {loanId : ℕ} {before : Loan} {p : Payment}

/-- A payment leaves the rows of other loans. -/
theorem receivePayment_other (hbefore : db.loans[loanId]? = some before) {i : ℕ} (hi : i ≠ loanId) :
    (receivePayment db loanId p).loans[i]? = db.loans[i]? := by
  obtain ⟨-, hsame⟩ | ⟨-, -, hsame⟩ | ⟨-, -, logs, borrowers, hsame⟩ :=
    receivePayment_cases (p := p) hbefore
  · rw [hsame]
  · rw [hsame]
    rfl
  · rw [hsame]
    exact List.getElem?_set_ne (Ne.symm hi)

/-- A payment leaves its own loan, one it does not apply to, or one that is paid where
nothing is left. -/
theorem receivePayment_own (hbefore : db.loans[loanId]? = some before) :
    ∃ after, (receivePayment db loanId p).loans[loanId]? = some after ∧
      (after = before ∨ (before.status.collectible = true ∧
        (after.outstandingBalance ≤ 0 → after.status = .paid))) := by
  obtain ⟨-, hsame⟩ | ⟨-, -, hsame⟩ | ⟨-, hcoll, logs, borrowers, hsame⟩ :=
    receivePayment_cases (p := p) hbefore
  · rw [hsame]
    exact ⟨before, hbefore, .inl rfl⟩
  · rw [hsame]
    exact ⟨before, hbefore, .inl rfl⟩
  · rw [hsame]
    refine ⟨_, List.getElem?_set_self (List.getElem?_eq_some_iff.mp hbefore).1, .inr ⟨hcoll, ?_⟩⟩
    intro hzero
    unfold settled at hzero ⊢
    dsimp only at hzero ⊢
    by_cases hpaid :
      ((book before (divisionOf db loanId before p) p.paidOn).outstandingBalance ≤ 0 &&
        (book before (divisionOf db loanId before p) p.paidOn).status.collectible) = true
    · rw [if_pos hpaid]
    · rw [if_neg hpaid] at hzero
      have hbooked : (book before (divisionOf db loanId before p) p.paidOn).status.collectible =
          true := by
        rw [book_eq]
        exact hcoll
      rw [hbooked, Bool.and_true, decide_eq_true_eq] at hpaid
      exact absurd hzero hpaid

theorem receivePayment_length : (receivePayment db loanId p).loans.length = db.loans.length := by
  cases hbefore : db.loans[loanId]? with
  | none => simp [receivePayment, hbefore]
  | some before =>
    obtain ⟨-, hsame⟩ | ⟨-, -, hsame⟩ | ⟨-, -, logs, borrowers, hsame⟩ :=
      receivePayment_cases (p := p) hbefore
    · rw [hsame]
    · rw [hsame]
      rfl
    · rw [hsame]
      exact List.length_set

end Payments

namespace OverdueBatch

variable {start : Db} {s : OverdueBatch}

/-- A payment is booked as what it takes off the balance. -/
theorem pay_nothingLost (h : NothingLost start s) (loanId : ℕ) (p : Payment) :
    NothingLost start (s.pay loanId p) := by
  simp only [pay]
  split
  · exact h
  split
  · exact h
  rename_i before hbefore
  split
  · exact h
  rename_i after hafter
  obtain ⟨after', hafter', hown⟩ := receivePayment_own (p := p) hbefore
  obtain rfl := Option.some.inj (hafter.symm.trans hafter')
  constructor
  · intro i row₀ hrow₀ row hrow
    show row.outstandingBalance = row₀.outstandingBalance + booked s.charged i -
      booked (s.paid ++ [(loanId, before.outstandingBalance - after.outstandingBalance)]) i
    rw [booked_append]
    by_cases hi : loanId = i
    · subst hi
      rw [hafter] at hrow
      obtain rfl := Option.some.inj hrow
      have hkept := h.balance loanId row₀ hrow₀ before hbefore
      rw [if_pos rfl]
      omega
    · rw [Option.mem_def, receivePayment_other hbefore (Ne.symm hi)] at hrow
      have hkept := h.balance i row₀ hrow₀ row hrow
      rw [if_neg hi]
      omega
  · intro i hi row hrow
    by_cases hid : i = loanId
    · subst hid
      rw [hafter] at hrow
      obtain rfl := Option.some.inj hrow
      by_cases hzero : 0 < before.outstandingBalance ∧ after.outstandingBalance ≤ 0
      · rcases hown with rfl | ⟨-, hpaid⟩
        · omega
        · exact hpaid hzero.2
      · have hold : i ∈ s.cleared := by
          simpa [hzero] using hi
        have hpaid := h.cleared i hold before hbefore
        rcases hown with rfl | ⟨hcoll, -⟩
        · exact hpaid
        · rw [hpaid] at hcoll
          cases hcoll
    · have hold : i ∈ s.cleared := by
        split_ifs at hi
        · exact (List.mem_append.mp hi).resolve_right fun hmem => hid (List.mem_singleton.mp hmem)
        · exact hi
      rw [Option.mem_def, receivePayment_other hbefore hid] at hrow
      exact h.cleared i hold row hrow

/-- Writing an object loses nothing exactly when the object is up to date. -/
theorem writeObject_nothingLost (hs : BatchSound start s) (h : NothingLost start s) {o : LoanObject}
    (ho : o ∈ s.objects) (rest : List ℕ) : NothingLost start (s.writeObject o rest) ↔
      ∀ row ∈ s.db.loans[o.id]?,
        (o.now.outstandingBalance ≠ o.loaded.outstandingBalance →
          row.outstandingBalance = o.loaded.outstandingBalance) ∧
        (o.now.status ≠ o.loaded.status → o.id ∉ s.cleared) := by
  have hother : ∀ i, i ≠ o.id → (s.writeObject o rest).db.loans[i]? = s.db.loans[i]? :=
    fun i hi => List.getElem?_modify_ne _ _ (Ne.symm hi)
  have hcharged : ∀ i, booked (s.writeObject o rest).charged i = booked s.charged i +
      if o.id = i then o.now.outstandingBalance - o.loaded.outstandingBalance else 0 :=
    fun i => booked_append s.charged i o.id _
  have hpaid : (s.writeObject o rest).paid = s.paid := rfl
  have hcleared : (s.writeObject o rest).cleared = s.cleared := rfl
  cases hrow : s.db.loans[o.id]? with
  | none =>
    refine iff_of_true ⟨fun i row₀ hrow₀ row hi => ?_, fun i hmem row hi => ?_⟩ (by simp)
    · have hlt : i < s.db.loans.length := by
        rw [hs.length]
        exact (List.getElem?_eq_some_iff.mp hrow₀).1
      have hne : i ≠ o.id := by
        rintro rfl
        have hnone := List.getElem?_eq_none_iff.mp hrow
        omega
      rw [Option.mem_def, hother i hne] at hi
      rw [hcharged, if_neg (Ne.symm hne), hpaid, h.balance i row₀ hrow₀ row hi, add_zero]
    · by_cases hne : i = o.id
      · subst hne
        rw [Option.mem_def, OverdueBatch.writeObject, Db.flushLoan, List.getElem?_modify_eq,
          hrow] at hi
        cases hi
      · rw [Option.mem_def, hother i hne] at hi
        exact h.cleared i (hcleared ▸ hmem) row hi
  | some row =>
    have hnew : (s.writeObject o rest).db.loans[o.id]? = some (row.flush o.loaded o.now) := by
      rw [OverdueBatch.writeObject, Db.flushLoan, List.getElem?_modify_eq, hrow]
      rfl
    have hlt : o.id < start.loans.length := by
      rw [← hs.length]
      exact (List.getElem?_eq_some_iff.mp hrow).1
    have hold := h.balance o.id _ (List.getElem?_eq_getElem hlt) row hrow
    simp only [Option.mem_def, Option.some.injEq, forall_eq']
    constructor
    · intro hnext
      refine ⟨fun hchanged => ?_, fun hchanged hmem => ?_⟩
      · have hbalance := hnext.balance o.id _ (List.getElem?_eq_getElem hlt) _ hnew
        rw [hcharged, if_pos rfl, hpaid] at hbalance
        simp only [Loan.flush, flushColumn, if_neg hchanged] at hbalance
        omega
      · have hstatus := hnext.cleared o.id (hcleared ▸ hmem) _ hnew
        simp only [Loan.flush, flushColumn, if_neg hchanged] at hstatus
        exact hs.statuses o ho hchanged hstatus
    · rintro ⟨hbalance, hstatus⟩
      refine ⟨fun i row₀ hrow₀ row' hrow' => ?_, fun i hmem row' hrow' => ?_⟩
      · rw [hcharged, hpaid]
        by_cases hi : o.id = i
        · subst hi
          obtain rfl := Option.some.inj (hnew.symm.trans hrow')
          obtain rfl := Option.some.inj ((List.getElem?_eq_getElem hlt).symm.trans hrow₀)
          rw [if_pos rfl]
          simp only [Loan.flush, flushColumn]
          split_ifs with hsame
          · omega
          · have hread := hbalance hsame
            omega
        · rw [Option.mem_def, hother i (Ne.symm hi)] at hrow'
          rw [if_neg hi, add_zero]
          exact h.balance i row₀ hrow₀ row' hrow'
      · by_cases hi : i = o.id
        · subst hi
          obtain rfl := Option.some.inj (hnew.symm.trans hrow')
          have hpaidRow := h.cleared o.id (hcleared ▸ hmem) row hrow
          simp only [Loan.flush, flushColumn]
          split_ifs with hsame
          · exact hpaidRow
          · exact absurd (hcleared ▸ hmem) (hstatus hsame)
        · rw [Option.mem_def, hother i hi] at hrow'
          exact h.cleared i (hcleared ▸ hmem) row' hrow'

theorem start_sound (start : Db) : BatchSound start (OverdueBatch.start start) :=
  ⟨rfl, fun _ ho => absurd ho List.not_mem_nil⟩

theorem start_nothingLost (start : Db) : NothingLost start (OverdueBatch.start start) := by
  constructor
  · intro i row₀ hrow₀ row hrow
    obtain rfl := Option.some.inj (hrow₀.symm.trans hrow)
    simp [OverdueBatch.start, booked]
  · exact fun i hi => absurd hi List.not_mem_nil

/-- What is loaded is as it was read. -/
theorem load_statuses (h : BatchSound start s) (ids : List ℕ) :
    ∀ o ∈ s.load ids, o.now.status ≠ o.loaded.status → o.now.status ≠ .paid := by
  intro o ho
  rcases List.mem_append.mp ho with hold | hnew
  · exact h.statuses o hold
  · obtain ⟨id, -, hid⟩ := List.mem_filterMap.mp hnew
    split_ifs at hid
    obtain ⟨row, -, rfl⟩ := Option.map_eq_some_iff.mp hid
    exact fun hne => absurd rfl hne

/-- A turn makes a loan overdue or defaulted, or leaves its status. -/
theorem changed_status (s : OverdueBatch) (o : LoanObject) (task : SweepTask) :
    (s.changed o task).status = o.now.status ∨ (s.changed o task).status = .overdue ∨
      (s.changed o task).status = .defaulted := by
  cases task with
  | alert id =>
    simp only [changed]
    split_ifs
    · rw [accrueOverduePenalty_loan]
      exact .inr (.inl rfl)
    · exact .inl rfl
  | default id => exact .inr (.inr rfl)

/-- Every step keeps the session sound. -/
theorem step_sound (h : BatchSound start s) (a : BatchStep) : BatchSound start (s.step a) := by
  cases a with
  | pay loanId p =>
    simp only [step, pay]
    split
    · exact h
    split
    · exact h
    split
    · exact h
    · exact ⟨receivePayment_length.trans h.length, h.statuses⟩
  | findOverdue tenantId today =>
    simp only [step]
    split_ifs
    · exact ⟨h.length, load_statuses h _⟩
    · exact h
  | findDefaulting tenantId today graceDays =>
    simp only [step]
    split_ifs
    · exact ⟨h.length, load_statuses h _⟩
    · exact h
  | next =>
    simp only [step]
    split
    · exact h
    rename_i task rest _
    split
    · exact ⟨h.length, h.statuses⟩
    refine ⟨h.length, fun x hx hne => ?_⟩
    obtain ⟨y, hy, rfl⟩ := List.mem_map.mp hx
    split_ifs at hne ⊢
    · rcases s.changed_status y task with hsame | hoverdue | hdefaulted
      · simp only [hsame] at hne ⊢
        exact h.statuses y hy hne
      · simp only [hoverdue]
        decide
      · simp only [hdefaulted]
        decide
    · exact h.statuses y hy hne
  | write =>
    simp only [step]
    split
    · exact h
    split
    · exact ⟨h.length, h.statuses⟩
    rename_i o _
    refine ⟨(List.length_modify _ _ _).trans h.length, fun x hx hne => ?_⟩
    obtain ⟨y, hy, rfl⟩ := List.mem_map.mp hx
    split_ifs at hne ⊢
    · exact absurd rfl hne
    · exact h.statuses y hy hne
  | commit =>
    simp only [step]
    split_ifs
    · exact ⟨h.length, fun o ho => absurd ho List.not_mem_nil⟩
    · exact h

/-- A step loses nothing exactly when it writes no object that is out of date. -/
theorem step_nothingLost (hs : BatchSound start s) (h : NothingLost start s) (a : BatchStep) :
    NothingLost start (s.step a) ↔ UpToDate s a := by
  cases a with
  | pay loanId p => exact iff_of_true (pay_nothingLost h loanId p) trivial
  | findOverdue tenantId today =>
    refine iff_of_true ?_ trivial
    simp only [step]
    split_ifs
    · exact ⟨h.balance, h.cleared⟩
    · exact h
  | findDefaulting tenantId today graceDays =>
    refine iff_of_true ?_ trivial
    simp only [step]
    split_ifs
    · exact ⟨h.balance, h.cleared⟩
    · exact h
  | next =>
    refine iff_of_true ?_ trivial
    simp only [step]
    split
    · exact h
    split
    · exact ⟨h.balance, h.cleared⟩
    · exact ⟨h.balance, h.cleared⟩
  | write =>
    simp only [step, UpToDate]
    split
    · rename_i hnone
      simpa [hnone] using h
    rename_i id rest hdirty
    split
    · rename_i hnone
      refine iff_of_true ⟨h.balance, h.cleared⟩ ?_
      simp [hdirty, hnone]
    · rename_i o ho
      rw [writeObject_nothingLost hs h (List.mem_of_find?_eq_some ho) rest]
      simp [hdirty, ho]
  | commit =>
    refine iff_of_true ?_ trivial
    simp only [step]
    split_ifs
    · exact ⟨h.balance, h.cleared⟩
    · exact h

end OverdueBatch

/-- Whatever payments come between the job's steps, none is lost and no cleared loan is
anything but paid, in every state, exactly when every object the job writes is up to date
with the payments. -/
theorem overdue_job_loses_no_payment (start : Db) (steps : List BatchStep) :
    Always OverdueBatch.step (NothingLost start) (OverdueBatch.start start) steps ↔
      AllSteps OverdueBatch.step UpToDate (OverdueBatch.start start) steps := by
  have hkeeps : ∀ s a, BatchSound start s → BatchSound start (OverdueBatch.step s a) :=
    fun _ a h => OverdueBatch.step_sound h a
  have hsound : Always OverdueBatch.step (BatchSound start) (OverdueBatch.start start) steps :=
    fun as _ => invariant_run_of_step hkeeps as (OverdueBatch.start_sound start)
  have hboth : Always OverdueBatch.step (fun s => BatchSound start s ∧ NothingLost start s)
      (OverdueBatch.start start) steps ↔
      AllSteps OverdueBatch.step UpToDate (OverdueBatch.start start) steps :=
    always_iff_allSteps
      (fun s a hinv => ⟨fun hnext => (OverdueBatch.step_nothingLost hinv.1 hinv.2 a).mp hnext.2,
        fun hok => ⟨hkeeps s a hinv.1,
          (OverdueBatch.step_nothingLost hinv.1 hinv.2 a).mpr hok⟩⟩)
      ⟨OverdueBatch.start_sound start, OverdueBatch.start_nothingLost start⟩
  rw [← hboth]
  exact ⟨fun h as has => ⟨hsound as has, h as has⟩, fun h as has => (h as has).2⟩

/-- A borrower pays the whole loan after the job has read it as due: the job writes the
balance it read, with a penalty, and the loan is overdue again. -/
theorem paid_loan_overdue_again : ¬ Always OverdueBatch.step (NothingLost fourWeekBook)
    (OverdueBatch.start fourWeekBook)
    [.findOverdue 1 30, .pay 0 (paybillPayment 1100000 "QA1" 30), .next, .write, .commit] := by
  intro h
  have hlast := h.last.cleared 0
  have hcleared : 0 ∈ (run OverdueBatch.step (OverdueBatch.start fourWeekBook)
      [.findOverdue 1 30, .pay 0 (paybillPayment 1100000 "QA1" 30), .next, .write,
        .commit]).cleared := by
    decide +kernel
  have hoverdue : ((run OverdueBatch.step (OverdueBatch.start fourWeekBook)
      [.findOverdue 1 30, .pay 0 (paybillPayment 1100000 "QA1" 30), .next, .write,
        .commit]).db.loans[0]?).map (·.status) = some .overdue := by
    decide +kernel
  obtain ⟨row, hrow, hstatus⟩ := Option.map_eq_some_iff.mp hoverdue
  rw [hlast hcleared row hrow] at hstatus
  cases hstatus

end FinylDcp
