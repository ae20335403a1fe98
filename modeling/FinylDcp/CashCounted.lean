import FinylDcp.ReceiptsBooked
import FinylDcp.UploadOutcomes

/-!
# Cash counted over a run

The receipts that come in at an office are listed as they come, each reference once. Where every
event is booked at what it is, what the books have as received is what the list adds up to, and
cash moves by that less what was paid out.
-/
namespace FinylDcp
open Db Runs Tables

/-- The delivery that an event is. -/
def OfficeEvent.delivery : OfficeEvent → Option ((String → Option ℕ) × Delivery)
  | .receive shortcodeToTenant d => some (shortcodeToTenant, d)
  | .money (.allocate tenantId makerId entryId loanId needsChecker now) =>
    some (fun _ => none, .allocate tenantId makerId entryId loanId needsChecker now)
  | .money (.decide tenantId pendingId action checker freshRef _ _ now) =>
    some (fun _ => none, .decide tenantId pendingId action checker freshRef now)
  | _ => none

/-- The receipt that an event would bring. -/
def OfficeEvent.brings (db : Db) : OfficeEvent → Option Acceptance
  | .money (.park x _) => some ⟨x.tenantId, x.ref.getD "", x.amount⟩
  | e => e.delivery.bind (fun x => x.2.brings x.1 db)

/-- The receipt that an event brings, if it goes through. -/
def OfficeEvent.receipt (db : Db) : OfficeEvent → Option Acceptance
  | .money (.park x now) => (recordSuspense db x now).1.commit.toOption.map (fun _ =>
      ⟨x.tenantId, x.ref.getD "", x.amount⟩)
  | e => e.delivery.bind (fun x => (deliver x.1 db x.2).toOption.bind (fun out =>
      x.2.receipt x.1 db out.2))

/-- The office, and the receipts that came in, each reference once. -/
structure Takings where
  office : Office
  receipts : List Acceptance

/-- The reference came in before. -/
def Takings.Known (s : Takings) (r : Acceptance) : Prop :=
  r.ref ≠ "" ∧ ∃ a ∈ s.receipts, a.tenantId = r.tenantId ∧ a.ref = r.ref

instance (s : Takings) (r : Acceptance) : Decidable (s.Known r) := by
  unfold Takings.Known
  infer_instance

def Takings.step (s : Takings) (e : OfficeEvent) : Takings :=
  ⟨s.office.step e, s.receipts ++ (e.receipt s.office.db).toList.filter (fun r => ¬ s.Known r)⟩

/-- What a tenant received. -/
def received (receipts : List Acceptance) (tenantId : ℕ) : ℤ :=
  (receipts.map (fun r => if r.tenantId = tenantId then r.amount else 0)).sum

/-- Cash moved by what was received less what was paid out, over days that cover everything. -/
def Takings.CashMoved (s : Takings) : Prop :=
  ∀ (coa : String → Option String) (tenantId : ℕ) (w : GlWindow), w.Spans s.office.db →
    netOn .cash (glLines coa s.office.db tenantId w) =
      received s.receipts tenantId - paidOut s.office.db tenantId

/-- The books carry the receipt that an event brings; money parked by hand is looked for among
what is parked only. -/
def OfficeEvent.OnBooks (db : Db) (r : Acceptance) : OfficeEvent → Prop
  | .money (.park ..) => r.ref ≠ "" ∧ Parked db r.tenantId r.ref
  | _ => Carried db r.tenantId r.ref

instance (db : Db) (r : Acceptance) (e : OfficeEvent) : Decidable (e.OnBooks db r) := by
  unfold OfficeEvent.OnBooks
  split <;> infer_instance

/-- An answer or result comes in time. -/
def OfficeEvent.Timely (s : Office) : OfficeEvent → Prop
  | .money m => FinylDcp.Timely s.db s.desk.calls m
  | _ => True

instance (s : Office) (e : OfficeEvent) : Decidable (e.Timely s) := by
  unfold OfficeEvent.Timely
  split <;> infer_instance

/-- An event comes in time, draws a new reference, and hands over only payments that are taken
whole; and the books carry the receipt it brings exactly when its reference came in before. -/
structure Takings.Counts (s : Takings) (e : OfficeEvent) : Prop where
  timely : e.Timely s.office
  drawn : ∀ x ∈ e.delivery, DrawsNew s.office.db x.2
  whole : ∀ x ∈ e.delivery, ∀ h ∈ handed x.1 s.office.db x.2, h.Whole
  known : ∀ r ∈ e.brings s.office.db, s.Known r ↔ e.OnBooks s.office.db r

instance (s : Takings) (e : OfficeEvent) : Decidable (s.Counts e) :=
  decidable_of_iff (e.Timely s.office ∧ (∀ x ∈ e.delivery, DrawsNew s.office.db x.2) ∧
      (∀ x ∈ e.delivery, ∀ h ∈ handed x.1 s.office.db x.2, h.Whole) ∧
      ∀ r ∈ e.brings s.office.db, (s.Known r ↔ e.OnBooks s.office.db r))
    ⟨fun h => ⟨h.1, h.2.1, h.2.2.1, h.2.2.2⟩, fun h => ⟨h.timely, h.drawn, h.whole, h.known⟩⟩

section Quiet

variable {db db' : Db} {flow : Flow}

/-- A row that stays out of the loans is booked as before. -/
theorem heldFor_of_waiting (tenantId : ℕ) {e e' : SuspenseEntry}
    (htenant : e'.tenantId = e.tenantId) (hamount : e'.amount = e.amount)
    (hbefore : e.status ≠ .allocated) (hafter : e'.status ≠ .allocated) :
    heldFor tenantId e' = heldFor tenantId e := by
  simp [heldFor, htenant, hamount, hbefore, hafter]

theorem not_allocated_of_unresolved {e : SuspenseEntry} (h : e.status.resolved = false) :
    e.status ≠ .allocated := by
  rintro hallocated
  rw [hallocated] at h
  cases h

/-- A posting that is neither late nor inward books nothing. -/
theorem Posting.booksNothing (h : Posting db flow db') (hlate : flow ≠ .late)
    (hinward : flow ≠ .inward) (tenantId : ℕ) : bookedIn db' tenantId = bookedIn db tenantId := by
  have hrows : ∀ (i : ℕ) (f : SuspenseEntry → SuspenseEntry), (∀ e, db.suspense[i]? = some e →
      heldFor tenantId (f e) = heldFor tenantId e) →
      (db.repayments.map (repaidTo tenantId)).sum +
          ((db.suspense.modify i f).map (heldFor tenantId)).sum = bookedIn db tenantId :=
    fun i f hf => by rw [map_modify_of_row _ hf, bookedIn]
  cases h with
  | moved entryId f hmoves =>
    refine hrows entryId f fun e he => ?_
    obtain hsame | ⟨hwaiting, hwaiting', hterms⟩ := hmoves e he
    · rw [hsame]
    · exact heldFor_of_waiting tenantId (congrArg SuspenseEntry.tenantId hterms :)
        (congrArg SuspenseEntry.amount hterms :) (not_allocated_of_unresolved hwaiting)
        (not_allocated_of_unresolved hwaiting')
  | reversalSent pendingId p entryId entry ack now hp htype hlocked =>
    refine hrows entryId _ fun e he => ?_
    obtain rfl := Option.some.inj (hlocked.row.symm.trans he)
    exact heldFor_of_waiting tenantId rfl rfl (by simp [hlocked.held]) (by simp)
  | refunded txnId row f entryId now hrow hset htype hsource =>
    refine hrows entryId _ fun e he => ?_
    have hwaits := not_allocated_of_unresolved (unresolved_of_row he (timed_eq_late hlate))
    split_ifs
    · exact heldFor_of_waiting tenantId rfl rfl hwaits (by simp)
    · rfl
  | reversalSettled txnId row entryId now isReversed hrow htype hopen hsource =>
    refine hrows entryId _ fun e he => ?_
    have hwaits := not_allocated_of_unresolved (unresolved_of_row he (timed_eq_late hlate))
    split_ifs
    · rfl
    · exact heldFor_of_waiting tenantId rfl rfl hwaits (by simp)
    · exact heldFor_of_waiting tenantId rfl rfl hwaits (by simp)
  | parked x now => exact absurd rfl hinward
  | paid loanId loan p hrow haccepts hcollectible => exact absurd rfl hinward
  | allocated entryId entry loanId userId now hrow hheld => exact absurd rfl hinward
  | _ => rfl

/-- A chain of such postings books nothing. -/
theorem Postings.booksNothing {allowed : Flow → Prop} (h : Postings allowed db db')
    (hallowed : ∀ flow, allowed flow → flow ≠ .late ∧ flow ≠ .inward) (tenantId : ℕ) :
    bookedIn db' tenantId = bookedIn db tenantId :=
  @keeps allowed db db' (fun x => bookedIn x tenantId = bookedIn db tenantId) h
    (fun hflow hposting hbooked => (hposting.booksNothing (hallowed _ hflow).1
      (hallowed _ hflow).2 tenantId).trans hbooked) rfl

end Quiet

section Events

variable {s : Office} {e : OfficeEvent}

theorem receipt_of_delivery {db : Db} {x : (String → Option ℕ) × Delivery}
    (hx : e.delivery = some x) : e.receipt db = (deliver x.1 db x.2).toOption.bind (fun out =>
      x.2.receipt x.1 db out.2) := by
  cases e with
  | receive shortcodeToTenant d =>
    cases hx
    rfl
  | money m =>
    cases m with
    | allocate => cases hx; rfl
    | decide => cases hx; rfl
    | _ => cases hx
  | _ => cases hx

theorem OfficeEvent.receipt_brings {db : Db} {r : Acceptance} (h : e.receipt db = some r) :
    e.brings db = some r := by
  have hdelivery : (e.delivery.bind fun x => (deliver x.1 db x.2).toOption.bind fun out =>
      x.2.receipt x.1 db out.2) = some r →
        (e.delivery.bind fun x => x.2.brings x.1 db) = some r := by
    intro hsome
    obtain ⟨x, hx, hsome⟩ := Option.bind_eq_some_iff.mp hsome
    obtain ⟨out, -, hsome⟩ := Option.bind_eq_some_iff.mp hsome
    rw [hx]
    exact Delivery.receipt_brings hsome
  cases e with
  | money m =>
    cases m with
    | park x now =>
      obtain ⟨-, -, hr⟩ := Option.map_eq_some_iff.mp h
      exact congrArg some hr
    | _ => exact hdelivery h
  | _ => exact hdelivery h

theorem onBooks_of_delivery {db : Db} {r : Acceptance} {x : (String → Option ℕ) × Delivery}
    (hx : e.delivery = some x) : e.OnBooks db r ↔ Carried db r.tenantId r.ref := by
  cases e with
  | receive shortcodeToTenant d => rfl
  | money m =>
    cases m with
    | allocate => rfl
    | decide => rfl
    | _ => cases hx
  | _ => cases hx

theorem OfficeEvent.Timely.not_late (h : e.Timely s) : ¬ e.Allows s .late := by
  cases e with
  | money m => exact not_not.mpr h
  | _ => exact id

/-- What the receipt of an event adds to a tenant's books. -/
def OfficeEvent.adds (db : Db) (e : OfficeEvent) (tenantId : ℕ) : ℤ :=
  ((e.receipt db).map (fun r =>
    if r.tenantId = tenantId ∧ ¬ e.OnBooks db r then r.amount else 0)).getD 0

/-- An event that commits what its delivery does, or books nothing. -/
theorem booked_of_delivery {x : (String → Option ℕ) × Delivery} (tenantId : ℕ)
    (hx : e.delivery = some x) (hnew : DrawsNew s.db x.2)
    (hwhole : ∀ h ∈ handed x.1 s.db x.2, h.Whole)
    (hdone : ∀ out, deliver x.1 s.db x.2 = .ok out → (s.step e).db = out.1)
    (hfailed : (deliver x.1 s.db x.2).toOption = none →
      bookedIn (s.step e).db tenantId = bookedIn s.db tenantId) :
    bookedIn (s.step e).db tenantId = bookedIn s.db tenantId + e.adds s.db tenantId := by
  simp only [OfficeEvent.adds, receipt_of_delivery hx, onBooks_of_delivery hx]
  cases hout : deliver x.1 s.db x.2 with
  | error failure =>
    rw [hfailed (by rw [hout]; rfl)]
    exact (add_zero _).symm
  | ok out =>
    rw [hdone out hout]
    exact deliver_booked tenantId hnew hwhole hout

theorem decideInward_eq_ok {db : Db} {tenantId pendingId : ℕ} {action : String} {checker : Checker}
    {freshRef : String} {now : ℤ} {out : Db × Reply}
    (h : decideInward db tenantId pendingId action checker freshRef now = .ok out) :
    (db.pending[pendingId]?).any (fun p => p.actionType.inward) = true ∧
      ∃ begun, beginDecision db tenantId pendingId action checker freshRef now = .ok begun ∧
        out.1 = begun.1 := by
  simp only [decideInward] at h
  split at h
  · rename_i hinward
    obtain ⟨begun, hbegun, rfl⟩ := map_eq_ok.mp h
    exact ⟨hinward, begun, hbegun, rfl⟩
  · cases h

/-- A decision on an inward request runs to its end. -/
theorem inward_finishes {db : Db} {tenantId pendingId : ℕ} {action : String} {checker : Checker}
    {freshRef : String} {now : ℤ} {begun : Db × Progress}
    (hinward : (db.pending[pendingId]?).any (fun p => p.actionType.inward) = true)
    (h : beginDecision db tenantId pendingId action checker freshRef now = .ok begun) :
    ∃ payment, begun.2 = .finished payment := by
  have hbegins := beginDecision_begins h
  cases hbegins with
  | finishes db' payment => exact ⟨payment, rfl⟩
  | pays db' p hp htype => simp [hp.row, htype, ActionType.inward] at hinward
  | refunds db' p hp htype =>
    obtain htype | htype := htype <;> simp [hp.row, htype, ActionType.inward] at hinward
  | reverses p hp htype => simp [hp.row, htype, ActionType.inward] at hinward

/-- An allocation at the desk. -/
theorem allocate_booked {t makerId entryId loanId : ℕ} {needsChecker : Bool} {now : ℤ}
    (tenantId : ℕ) (hnew : DrawsNew s.db (.allocate t makerId entryId loanId needsChecker now))
    (hwhole : ∀ h ∈ handed (fun _ => none) s.db
      (.allocate t makerId entryId loanId needsChecker now), h.Whole) :
    bookedIn (s.step (.money (.allocate t makerId entryId loanId needsChecker now))).db tenantId =
      bookedIn s.db tenantId +
        (OfficeEvent.money (.allocate t makerId entryId loanId needsChecker now)).adds s.db
          tenantId := by
  have hstep : (s.step (.money (.allocate t makerId entryId loanId needsChecker now))).db =
    (s.desk.step (.allocate t makerId entryId loanId needsChecker now)).db := rfl
  refine booked_of_delivery tenantId rfl hnew hwhole (fun out hout => ?_) fun hfailed => ?_
  · replace hout : allocateSuspense s.desk.db t makerId entryId loanId needsChecker now = .ok out :=
      hout
    obtain ⟨db, reply⟩ := out
    rw [hstep]
    simp only [MoneyDesk.step, hout]
    cases reply <;> rfl
  · replace hfailed : (allocateSuspense s.desk.db t makerId entryId loanId needsChecker
        now).toOption = none := hfailed
    rw [hstep]
    simp only [MoneyDesk.step]
    cases hout : allocateSuspense s.desk.db t makerId entryId loanId needsChecker now with
    | error failure => rfl
    | ok out => simp [hout, Except.toOption] at hfailed

/-- A decision at the desk: only one on an inward request books anything. -/
theorem decide_booked {t pendingId : ℕ} {action : String} {checker : Checker}
    {freshRef receipt : String} {reply : B2cReply} {now : ℤ} (tenantId : ℕ)
    (hnew : DrawsNew s.db (.decide t pendingId action checker freshRef now))
    (hwhole : ∀ h ∈ handed (fun _ => none) s.db
      (.decide t pendingId action checker freshRef now), h.Whole) :
    bookedIn (s.step (.money (.decide t pendingId action checker freshRef reply receipt now))).db
        tenantId =
      bookedIn s.db tenantId +
        (OfficeEvent.money (.decide t pendingId action checker freshRef reply receipt now)).adds
          s.db tenantId := by
  refine booked_of_delivery tenantId rfl hnew hwhole (fun out hout => ?_) fun hfailed => ?_
  · obtain ⟨hinward, begun, hbegun, hdb⟩ := decideInward_eq_ok hout
    obtain ⟨payment, hpayment⟩ := inward_finishes hinward hbegun
    obtain ⟨db, progress⟩ := begun
    obtain rfl : progress = .finished payment := hpayment
    rw [hdb]
    show (s.desk.step _).db = db
    simp only [MoneyDesk.step, show beginDecision s.desk.db t pendingId action checker freshRef
      now = .ok (db, .finished payment) from hbegun]
    rfl
  by_cases hinward : (s.db.pending[pendingId]?).any (fun p => p.actionType.inward) = true
  · have hstays : (s.desk.step (.decide t pendingId action checker freshRef reply receipt
        now)).db = s.desk.db := by
      simp only [MoneyDesk.step]
      cases hbegun : beginDecision s.desk.db t pendingId action checker freshRef now with
      | error failure => rfl
      | ok begun =>
        have hdone : (decideInward s.db t pendingId action checker freshRef now).toOption = none :=
          hfailed
        simp [decideInward, hinward, show beginDecision s.db t pendingId action checker freshRef
          now = .ok begun from hbegun, Except.map, Except.toOption] at hdone
    exact congrArg (fun db => bookedIn db tenantId) hstays
  · have hposted := @decide_postings (fun flow => flow ≠ .late ∧ flow ≠ .inward) s.desk
      ⟨by simp, by simp⟩ t pendingId action checker freshRef reply receipt now
      (fun hkind => absurd hkind hinward) fun _ _ => ⟨by simp, by simp⟩
    exact hposted.booksNothing (fun _ hflow => hflow) tenantId

/-- Money parked by hand. -/
theorem park_booked (tenantId : ℕ) (x : Receipt) (now : ℤ) :
    bookedIn (s.step (.money (.park x now))).db tenantId = bookedIn s.db tenantId +
      (OfficeEvent.money (.park x now)).adds s.db tenantId := by
  have hstep : (s.step (.money (.park x now))).db =
    (s.desk.saved (recordSuspense s.db x now).1.commit).db := rfl
  rw [hstep]
  cases hcommit : (recordSuspense s.db x now).1.commit with
  | error failure =>
    simp only [OfficeEvent.adds, OfficeEvent.receipt, hcommit, Except.toOption]
    exact (add_zero _).symm
  | ok db =>
    obtain ⟨-, rfl⟩ := Db.commit_eq_ok.mp hcommit
    simp only [OfficeEvent.adds, OfficeEvent.receipt, hcommit, Except.toOption, Option.map_some,
      Option.getD_some]
    exact recordSuspense_booked tenantId x now

/-- What every event adds to a tenant's books: the receipt it brings, unless they carry it. -/
theorem Office.Sound.booked (hs : s.Sound) (tenantId : ℕ) (htimely : e.Timely s)
    (hnew : ∀ x ∈ e.delivery, DrawsNew s.db x.2)
    (hwhole : ∀ x ∈ e.delivery, ∀ h ∈ handed x.1 s.db x.2, h.Whole) :
    bookedIn (s.step e).db tenantId = bookedIn s.db tenantId + e.adds s.db tenantId := by
  have hquiet : e.takesIn = false → e.receipt s.db = none →
      bookedIn (s.step e).db tenantId = bookedIn s.db tenantId + e.adds s.db tenantId := by
    intro htakes hnone
    rw [OfficeEvent.adds, hnone, (hs.postings e).booksNothing (fun flow hflow => ?_) tenantId]
    · exact (add_zero _).symm
    · refine ⟨fun hlate => htimely.not_late (hlate ▸ hflow), fun hinward => ?_⟩
      rw [hinward] at hflow
      exact absurd hflow (by simp [OfficeEvent.Allows, htakes])
  cases e with
  | receive shortcodeToTenant d =>
    have hstep : (s.step (.receive shortcodeToTenant d)).db =
      (s.saved ((deliver shortcodeToTenant s.db d).map (·.1))).db := rfl
    refine booked_of_delivery tenantId rfl (hnew _ rfl) (hwhole _ rfl) (fun out hout => ?_)
      fun hfailed => ?_
    · rw [hstep, show deliver shortcodeToTenant s.db d = .ok out from hout]
      rfl
    · rw [hstep]
      cases hout : deliver shortcodeToTenant s.db d with
      | error failure => rfl
      | ok out => simp [hout, Except.toOption] at hfailed
  | money m =>
    cases m with
    | park x now => exact park_booked tenantId x now
    | allocate tenantId' makerId entryId loanId needsChecker now =>
      exact allocate_booked tenantId (hnew _ rfl) (hwhole _ rfl)
    | decide tenantId' pendingId action checker freshRef reply receipt now =>
      exact decide_booked tenantId (hnew _ rfl) (hwhole _ rfl)
    | _ => exact hquiet rfl rfl
  | _ => exact hquiet rfl rfl

end Events

/-- An entry of a file as a manual entry at the office. -/
def UploadJob.enters (job : UploadJob) (body : ManualPaymentIn) : OfficeEvent :=
  .receive (fun _ => none)
    (.manual job.tenantId job.makerId body (job.needsChecker body.amount) "" job.now)

/-- Rows entered singly are manual entries one after the other. -/
theorem SinglyEntered.office {job : UploadJob} {db db' : Db} {line : ℕ} {rows : List FileRow}
    {os : List RowOutcome} (h : SinglyEntered job db line rows os db') {s : Office}
    (hs : s.db = db) :
    ∃ entries : List ManualPaymentIn,
      run Office.step s (entries.map job.enters) = s.withDb db' := by
  induction h generalizing s with
  | nil db line =>
    subst hs
    exact ⟨[], rfl⟩
  | @cons db mid db' line row rows o os hline hsame hrest ih =>
    subst hs
    have hentered : ∀ (e : FileEntry) (loanId : ℕ) (reply : Reply),
        recordManualPayment s.db job.tenantId job.makerId (e.single job line loanId)
          (job.needsChecker e.amount) "" job.now = .ok (mid, reply) →
        s.step (job.enters (e.single job line loanId)) = s.withDb mid := by
      intro e loanId reply hrecorded
      have hdelivered : deliver (fun _ => none) s.db (.manual job.tenantId job.makerId
          (e.single job line loanId) (job.needsChecker e.amount) "" job.now) = .ok (mid, reply) :=
        hrecorded
      simp only [UploadJob.enters, Office.step, FileEntry.single] at hdelivered ⊢
      rw [hdelivered]
      rfl
    have haccepted : ∀ body : ManualPaymentIn, s.step (job.enters body) = s.withDb mid →
        ∃ entries : List ManualPaymentIn,
          run Office.step s (entries.map job.enters) = s.withDb db' := by
      intro body hstep
      obtain ⟨entries, hentries⟩ := @ih (s.withDb mid) rfl
      exact ⟨body :: entries, by rw [List.map_cons, run_cons, hstep, hentries]; rfl⟩
    cases o with
    | parked line' reference loanId pendingId =>
      obtain ⟨e, -, -, hrecorded⟩ := hsame
      exact haccepted _ (hentered e loanId _ hrecorded)
    | applied line' reference loanId amount =>
      obtain ⟨e, result, -, -, hrecorded, -⟩ := hsame
      exact haccepted _ (hentered e loanId _ hrecorded)
    | unmatched line' account amount reference reason =>
      obtain rfl : mid = s.db := hsame
      exact ih rfl
    | duplicate line' reference reason =>
      obtain rfl : mid = s.db := hsame
      exact ih rfl
    | error line' text =>
      obtain rfl : mid = s.db := hsame
      exact ih rfl

/-- A file of payments that goes through is the manual entries it stands for: a run with files is
a run of the office. -/
theorem paymentUpload_office {s : Office} {job : UploadJob} {file : PaymentFile}
    {out : Db × UploadGroups} (hindexed : s.db.indexed = true) (hstorable : s.db.storable = true)
    (h : paymentUpload s.db job file = .ok out) :
    ∃ entries : List ManualPaymentIn,
      run Office.step s (entries.map job.enters) = s.withDb out.1 := by
  obtain ⟨done, hdone, hrest⟩ := bind_eq_ok.mp h
  obtain ⟨os, hrows⟩ := (@uploadRows_spec job ⟨s.db, [], []⟩ 2 (file.rows.take maxRows) hindexed
    hstorable).2 done hdone
  split at hrest
  · cases hrest
  · obtain ⟨saved, hsaved, hout⟩ := bind_eq_ok.mp hrest
    obtain ⟨-, rfl⟩ := Db.commit_eq_ok.mp hsaved
    cases hout
    exact hrows.singly.office rfl

theorem received_append (xs ys : List Acceptance) (tenantId : ℕ) :
    received (xs ++ ys) tenantId = received xs tenantId + received ys tenantId := by
  simp [received]

/-- What an event adds to the books is what it adds to the list. -/
theorem Takings.Counts.adds {s : Takings} {e : OfficeEvent} (h : s.Counts e) (tenantId : ℕ) :
    received (s.step e).receipts tenantId =
      received s.receipts tenantId + e.adds s.office.db tenantId := by
  rw [step, received_append]
  congr 1
  cases hbrings : e.receipt s.office.db with
  | none => simp [OfficeEvent.adds, hbrings, received]
  | some r =>
    have hknown := h.known r (OfficeEvent.receipt_brings hbrings)
    by_cases hcame : s.Known r
    · have hcarried : e.OnBooks s.office.db r := hknown.mp hcame
      simp [OfficeEvent.adds, hbrings, received, hcame, hcarried]
    · have hcarried : ¬ e.OnBooks s.office.db r := fun hthis => hcame (hknown.mpr hthis)
      simp [OfficeEvent.adds, hbrings, received, hcame, hcarried]

/-- Books that have as received what came in, and account for what was paid back. -/
structure Takings.Booked (s : Takings) : Prop where
  sound : s.office.Sound
  returned : s.office.db.Returned
  booked : ∀ tenantId, bookedIn s.office.db tenantId = received s.receipts tenantId

/-- An event that counts keeps the books so. -/
theorem Takings.Booked.step {s : Takings} {e : OfficeEvent} (hs : s.Booked) (h : s.Counts e) :
    (s.step e).Booked where
  sound := hs.sound.step e
  returned := (hs.sound.postings e).keeps (fun {a b flow} hflow hposting hreturned =>
    hposting.returned (fun hlate => h.timely.not_late (hlate ▸ hflow)) hreturned) hs.returned
  booked tenantId := by
    rw [h.adds tenantId, ← hs.booked tenantId]
    exact hs.sound.booked tenantId h.timely h.drawn h.whole

/-- Ledger cash equals cash moved: after every step of a run from an unused database whose
events all count, the net movement on cash is what was received less what was paid out. -/
theorem cash_moves {db : Db} (catalogue : Catalogue) (hdb : db.Unused) (es : List OfficeEvent)
    (h : AllSteps Takings.step Takings.Counts ⟨.opening db catalogue, []⟩ es) :
    Always Takings.step Takings.CashMoved ⟨.opening db catalogue, []⟩ es := by
  intro bs hbs coa tenantId w hw
  have hstart : Takings.Booked ⟨.opening db catalogue, []⟩ :=
    ⟨Office.opening_sound db catalogue, hdb.returned, fun t => by
      simp [bookedIn, received, Office.opening, Office.db, hdb.repayments, hdb.suspense]⟩
  have hbooked := invariant_run (fun _ _ hs hcounts => hs.step hcounts) hstart (h.of_prefix hbs)
  rw [netOn_cash hbooked.returned hw, hbooked.booked tenantId]

/-- Ten thousand shillings are lent and paid out. -/
def lentOut : List OfficeEvent :=
  [.apply 1 ⟨true, .ok ()⟩ ⟨0, 0, 1000000⟩ 2026,
    .decideLoan 1 0 ⟨true, true, none, none⟩ "approve", .disburse 1 7 0 false none 0,
    .answerPayout 0 (acknowledged "AG_1"), .money (.result (resultOf "AG_1" "0" "QK1") 0)]

/-- A confirmation for no loan comes twice and is allocated, an entry settles the loan early with
money left over, and that is sent back in whole shillings. -/
def settledAndRefunded : List OfficeEvent := lentOut ++
  [.receive (fun _ => some 1) (.c2b (paybillConfirmation "QA1" "FL/9" 250000 5) "C2B-1" 432100),
    .receive (fun _ => some 1) (.c2b (paybillConfirmation "QA1" "FL/9" 250000 5) "C2B-2" 432200),
    .money (.allocate 1 7 0 0 false 518400),
    .receive (fun _ => none) (.manual 1 7 (statementLine "QA2" 900000 12) false "MAN-1" 1036900),
    .money (.refund 1 7 1 (some "254700000001") (some "Asked by phone")),
    .money (.decide 1 0 "approve" ⟨8, true, [], []⟩ "" (acknowledged "AG_2") "" 1123200),
    .money (.answer 0 (acknowledged "AG_2") "" 1123200),
    .money (.result (resultOf "AG_2" "0" "QK2") 1123300)]

theorem cash_moves_refunded :
    Always Takings.step Takings.CashMoved ⟨.opening (openMarket 10) openCatalogue, []⟩
      settledAndRefunded :=
  cash_moves openCatalogue ⟨rfl, rfl, rfl, rfl, rfl⟩ settledAndRefunded (by decide +kernel)

/-- Under the proportional split 10,900 paid on day 27 pays most of the interest. An entry then
dated day 1 settles the loan early: nothing is left to pay, and the interest paid ahead is owed
back. It is parked like money that came in, and the journal counts it as cash. -/
def settledLate : List OfficeEvent := lentOut ++
  [.receive (fun _ => none) (.upkeep (.settings 1 (some "proportional") none)),
    .receive (fun _ => some 1)
      (.c2b (paybillConfirmation "QA1" "FL/FY2026/1/1" 1090000 27) "C2B-1" 2332900),
    .receive (fun _ => none) (.manual 1 7 (statementLine "QA2" 50000 1) false "MAN-1" 2333000)]

theorem interest_refund_counts_as_cash :
    let start : Takings := ⟨.opening (openMarket 10) openCatalogue, []⟩
    let s := run Takings.step start settledLate
    (openMarket 10).Unused ∧ GlWindow.Spans ⟨0, 60⟩ s.office.db ∧
    netOn .cash (glLines (fun _ => none) s.office.db 1 ⟨0, 60⟩) = 226429 ∧
    received s.receipts 1 - paidOut s.office.db 1 = 140000 ∧
    ¬ Always Takings.step Takings.CashMoved start settledLate := by
  intro start s
  have hspans : GlWindow.Spans ⟨0, 60⟩ s.office.db :=
    ⟨by decide +kernel, by decide +kernel, by decide +kernel, by decide +kernel⟩
  have hcash : netOn .cash (glLines (fun _ => none) s.office.db 1 ⟨0, 60⟩) = 226429 := by
    decide +kernel
  have hmoved : received s.receipts 1 - paidOut s.office.db 1 = 140000 := by decide +kernel
  refine ⟨⟨rfl, rfl, rfl, rfl, rfl⟩, hspans, hcash, hmoved, fun h => ?_⟩
  have hend := h.last (fun _ => none) 1 ⟨0, 60⟩ hspans
  rw [hcash, hmoved] at hend
  exact absurd hend (by decide)

end FinylDcp
