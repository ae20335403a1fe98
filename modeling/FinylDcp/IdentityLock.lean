import FinylDcp.ClientUpdates

/-!
# Locked identities

While a loan of a client is collected on, the identity of the client changes by an approved
request only. The lock that this rests on is set for each loan and released for each loan, over
any number of loans of one borrower.
-/
namespace FinylDcp
open Runs Tables

/-- What happens to loans, to applications, and to the records of clients. -/
inductive RegistryEvent
  | life (e : LifeEvent)
  | apply (catalogue : Catalogue) (tenantId : ℕ) (applicant : Applicant) (body : LoanApplication)
      (year : ℤ)
  | edit (e : ClientEditEvent)
  | updateClient (editor : ClientEditor) (clientId : ℕ) (body : ClientCreate)
  | updateBorrower (editor : ClientEditor) (clientId : ℕ) (references : Except Failure Unit)
      (body : ClientCreate)

/-- The phones that the requests of the desk have changed. -/
def syncPhones (clients : List ClientRecord) (db : Db) : Db :=
  { db with borrowers := db.borrowers.mapIdx (fun i b =>
      { b with phone := ((clients[i]?).bind (·.phone)).getD b.phone }) }

namespace Registry

/-- A request that fails changes nothing. -/
def saved (s : Registry) : Except Failure Registry → Registry
  | .ok s' => s'
  | .error _ => s

def step (s : Registry) : RegistryEvent → Registry
  | .life e => { s with db := e.apply s.db }
  | .apply catalogue tenantId applicant body year =>
    s.saved ((applyForLoan s.db catalogue tenantId applicant body year).map
      (fun out => { s with db := out.1 }))
  | .edit e => { db := syncPhones (s.desk.step e).clients s.db, desk := s.desk.step e }
  | .updateClient editor clientId body => s.saved (s.updateClient editor clientId body)
  | .updateBorrower editor clientId references body =>
    s.saved (s.updateBorrower editor clientId references body)

/-- A loan of the client is collected on. -/
def Live (s : Registry) (clientId : ℕ) : Prop :=
  ∃ loan ∈ s.db.loans, loan.borrowerId = clientId ∧ loan.status.collectible = true

/-- A field of a client as it is compared and shown. -/
def shown (s : Registry) (clientId : ℕ) (field : String) : String :=
  (s.desk.column clientId field).getD ""

/-- The locks of the loans are sound, and a client with such a loan keeps the locked fields:
an update that would change one is refused. -/
structure Guarded (s : Registry) : Prop where
  locks : LocksSound s.db
  refuses : ∀ (editor : ClientEditor) (tenantId clientId : ℕ) (body : ClientCreate)
    (client : ClientRecord), s.Live clientId → s.client tenantId clientId = some client →
      body.changedLocked client ≠ [] → ∀ s', s.updateClient editor clientId body ≠ .ok s'

/-- A step changes a locked field of a client with such a loan only by approving a request
about the client. -/
def IdentityKept (s : Registry) (e : RegistryEvent) : Prop :=
  ∀ (clientId : ℕ) (field : String), field ∈ lockedFields → s.Live clientId →
    (s.step e).shown clientId field ≠ s.shown clientId field →
      ∃ user xTenantId id req, e = .edit (.approve user xTenantId id) ∧
        s.desk.requests[id]? = some req ∧ req.clientId = clientId ∧
        ((s.step e).desk.requests[id]?).map (·.status) = some .approved

/-- No event settles a loan that leaves a defaulted loan of its borrower as the only kind that
is collected on. -/
def Spares (s : Registry) : RegistryEvent → Prop
  | .life e => ∀ loanId ∈ e.settled s.db, ∀ loan ∈ s.db.loans[loanId]?,
      LeavesNoDefault s.db loanId loan
  | _ => True

instance Spares.decidable (s : Registry) : (e : RegistryEvent) → Decidable (s.Spares e)
  | .life e => inferInstanceAs (Decidable (∀ loanId ∈ e.settled s.db,
      ∀ loan ∈ s.db.loans[loanId]?, LeavesNoDefault s.db loanId loan))
  | .apply .. | .edit _ | .updateClient .. | .updateBorrower .. => isTrue trivial

variable {s s' : Registry}

/-- The rows of borrowers keep their tenants and their locks. -/
def SameLocks (db db' : Db) : Prop :=
  db'.loans = db.loans ∧ db'.lockLogs = db.lockLogs ∧ ∀ (i : ℕ) (b : Borrower),
    db.borrowers[i]? = some b → ∃ b', db'.borrowers[i]? = some b' ∧ b'.tenantId = b.tenantId ∧
      b'.editLocked = b.editLocked

theorem SameLocks.rooted {db db' : Db} (h : SameLocks db db') (hrooted : Rooted db) :
    Rooted db' := by
  obtain ⟨hloans, hlogs, hborrowers⟩ := h
  refine ⟨fun i l hl => ?_, fun g hg => ?_⟩
  · obtain ⟨b, hb, htenant⟩ := hrooted.owned i l (hloans ▸ hl)
    obtain ⟨b', hb', hsame, -⟩ := hborrowers _ b hb
    exact ⟨b', hb', hsame.trans htenant⟩
  · rw [hloans]
    exact hrooted.logs g (hlogs ▸ hg)

theorem SameLocks.sound {db db' : Db} (h : SameLocks db db') (hsound : LocksSound db) :
    LocksSound db' := by
  obtain ⟨hloans, hlogs, hborrowers⟩ := h
  refine ⟨fun i l hl hopen => ?_, fun i l hl => ?_⟩
  · obtain ⟨b, hb, hlocked⟩ := hsound.locked i l (hloans ▸ hl) hopen
    obtain ⟨b', hb', -, hsame⟩ := hborrowers _ b hb
    exact ⟨b', hb', hsame.trans hlocked⟩
  · rw [hlogs]
    exact hsound.logged i l (hloans ▸ hl)

theorem sameLocks_syncPhones (clients : List ClientRecord) (db : Db) :
    SameLocks db (syncPhones clients db) := by
  refine ⟨rfl, rfl, fun i b hb => ?_⟩
  rw [syncPhones, List.getElem?_mapIdx, hb]
  exact ⟨_, rfl, rfl, rfl⟩

theorem sameLocks_save {clientId : ℕ} {record : ClientRecord}
    (h : s.save clientId record = .ok s') :
    SameLocks s.db s'.db := by
  obtain ⟨phone, rfl⟩ := save_eq_ok h
  refine ⟨rfl, rfl, fun i b hb => ?_⟩
  rw [List.getElem?_modify, hb]
  refine ⟨_, rfl, ?_⟩
  split_ifs <;> exact ⟨rfl, rfl⟩

/-- A client with a loan that is collected on has a locked record. -/
theorem recordLocked_of_live (hsound : LocksSound s.db) {clientId : ℕ} (h : s.Live clientId)
    (tenantId : ℕ) : s.recordLocked tenantId clientId = true := by
  obtain ⟨loan, hloan, rfl, hopen⟩ := h
  obtain ⟨i, hi⟩ := List.mem_iff_getElem?.mp hloan
  obtain ⟨b, hb, hlocked⟩ := hsound.locked i loan hi hopen
  simp [recordLocked, hb, hlocked]

theorem guarded_iff : s.Guarded ↔ LocksSound s.db := by
  refine ⟨fun h => h.locks, fun hsound => ⟨hsound, ?_⟩⟩
  intro editor tenantId clientId body client hlive hclient hchanged s' hok
  obtain ⟨tenantId', client', hclient', hfree, -⟩ := updateClient_updated hok
  obtain rfl : client = client' := by
    have hrow := (Option.filter_eq_some_iff.mp hclient).1
    have hrow' := (Option.filter_eq_some_iff.mp hclient').1
    exact Option.some.inj (hrow.symm.trans hrow')
  have hlocked := recordLocked_of_live hsound hlive tenantId'
  rw [hfree hchanged] at hlocked
  cases hlocked

/-- What a step does to the locks: what an event of a loan does, a new loan, or nothing. -/
inductive Turn (s : Registry) : RegistryEvent → Registry → Prop
  | lives (e : LifeEvent) : Turn s (.life e) { s with db := e.apply s.db }
  | applies {catalogue : Catalogue} {tenantId : ℕ} {applicant : Applicant} {body : LoanApplication}
      {year : ℤ} {out : Db × ℕ} (e : RegistryEvent) (hother : ∀ life, e ≠ .life life)
      (happlied : applyForLoan s.db catalogue tenantId applicant body year = .ok out) :
      Turn s e { s with db := out.1 }
  | same (e : RegistryEvent) (hother : ∀ life, e ≠ .life life) (s' : Registry)
      (hsame : SameLocks s.db s'.db) : Turn s e s'

theorem turn_saved {e : RegistryEvent} (hother : ∀ life, e ≠ .life life)
    {x : Except Failure Registry}
    (h : ∀ s', x = .ok s' → SameLocks s.db s'.db) : s.Turn e (s.saved x) := by
  cases x with
  | ok s' => exact .same e hother s' (h s' rfl)
  | error failure => exact .same e hother s ⟨rfl, rfl, fun i b hb => ⟨b, hb, rfl, rfl⟩⟩

theorem step_turn (s : Registry) (e : RegistryEvent) : s.Turn e (s.step e) := by
  cases e with
  | life e => exact .lives e
  | apply catalogue tenantId applicant body year =>
    simp only [step]
    cases happlied : applyForLoan s.db catalogue tenantId applicant body year with
    | error failure => exact turn_saved (by simp) (by simp [Except.map])
    | ok out => exact .applies _ (by simp) happlied
  | edit e => exact .same _ (by simp) _ (sameLocks_syncPhones _ s.db)
  | updateClient editor clientId body =>
    refine turn_saved (by simp) fun s' hok => ?_
    obtain ⟨tenantId, client, -, -, hsaved⟩ := updateClient_updated hok
    exact sameLocks_save hsaved
  | updateBorrower editor clientId references body =>
    refine turn_saved (by simp) fun s' hok => ?_
    obtain ⟨tenantId, client, -, -, hsaved⟩ := updateBorrower_updated hok
    exact sameLocks_save hsaved

/-- What holds in every state that is reached while the registry is guarded. -/
structure Sound (s : Registry) : Prop where
  rooted : Rooted s.db
  guarded : s.Guarded

theorem Turn.rooted {e : RegistryEvent} (h : s.Turn e s') (hrooted : Rooted s.db) :
    Rooted s'.db := by
  cases h with
  | lives e => exact hrooted.effect (life_effect s.db e)
  | applies e hother happlied => exact hrooted.applied happlied
  | same e hother s' hsame => exact hsame.rooted hrooted

/-- A step keeps the registry guarded exactly when it spares the defaulted. -/
theorem guarded_step (e : RegistryEvent) (h : s.Sound) : (s.step e).Guarded ↔ s.Spares e := by
  have hlocks := guarded_iff.mp h.guarded
  have hspares : (∀ life, e ≠ .life life) → s.Spares e := by
    intro hother
    cases e with
    | life e => exact absurd rfl (hother e)
    | _ => trivial
  have hturn := step_turn s e
  rw [guarded_iff]
  generalize s.step e = s' at hturn
  cases hturn with
  | lives e => exact hlocks.effect_iff h.rooted (life_effect s.db e)
  | applies e hother happlied =>
    exact iff_of_true (hlocks.applied h.rooted happlied) (hspares hother)
  | same e hother s' hsame => exact iff_of_true (hsame.sound hlocks) (hspares hother)

theorem IdentityKept.of_desk {e : RegistryEvent} (h : (s.step e).desk.clients = s.desk.clients) :
    s.IdentityKept e := by
  intro clientId field hfield hlive hchanged
  refine absurd ?_ hchanged
  rw [shown, ClientDesk.column, h]
  rfl

/-- An update that went through keeps the locked fields of a client with such a loan. -/
theorem Updated.shown {clientId : ℕ} {body : ClientCreate} (hsound : LocksSound s.db)
    (h : s.Updated clientId body s') {id : ℕ} {field : String} (hfield : field ∈ lockedFields)
    (hlive : s.Live id) : s'.shown id field = s.shown id field := by
  obtain ⟨tenantId, client, hclient, hfree, hsaved⟩ := h
  obtain ⟨phone, rfl⟩ := save_eq_ok hsaved
  have hrow := (Option.filter_eq_some_iff.mp hclient).1
  have hlt := (List.getElem?_eq_some_iff.mp hrow).1
  simp only [Registry.shown, ClientDesk.column]
  by_cases hid : clientId = id
  · subst hid
    have hkeeps : body.changedLocked client = [] := by
      by_contra hchanged
      have hlocked := recordLocked_of_live hsound hlive tenantId
      rw [hfree hchanged] at hlocked
      cases hlocked
    rw [List.getElem?_set_self hlt, hrow]
    exact ClientCreate.keeps_locked hkeeps hfield
  · rw [List.getElem?_set_ne hid]

theorem identityKept_edit (e : ClientEditEvent) : s.IdentityKept (.edit e) := by
  cases e with
  | permissions overrides => exact .of_desk rfl
  | modules modules known => exact .of_desk rfl
  | request user xTenantId clientId body =>
    refine .of_desk ?_
    simp only [step, ClientDesk.step]
    cases hout : s.desk.createEditRequest user xTenantId clientId body with
    | error failure => rfl
    | ok desk =>
      obtain ⟨req, -, rfl⟩ := ClientDesk.createEditRequest_eq_ok hout
      rfl
  | reject user xTenantId requestId reason =>
    refine .of_desk ?_
    simp only [step, ClientDesk.step]
    cases hout : s.desk.rejectEditRequest user xTenantId requestId reason with
    | error failure => rfl
    | ok desk =>
      obtain rfl := ClientDesk.rejectEditRequest_eq_ok hout
      rfl
  | approve user xTenantId requestId =>
    cases hout : s.desk.approveEditRequest user xTenantId requestId with
    | error failure =>
      refine .of_desk ?_
      simp only [step, ClientDesk.step, hout, ClientDesk.saved]
    | ok desk =>
      obtain ⟨req, client, hreq, -, -, -, hclient, -, rfl⟩ :=
        ClientDesk.approveEditRequest_eq_ok.mp hout
      intro clientId field hfield hlive hchanged
      have hstep : (s.step (.edit (.approve user xTenantId requestId))).desk = { s.desk with
          clients := s.desk.clients.set req.clientId (client.applyChanges req.fieldChanges)
          requests := s.desk.requests.modify requestId (fun r => { r with
            status := .approved, approvedBy := some user.id }) } := by
        simp only [step, ClientDesk.step, hout, ClientDesk.saved]
      refine ⟨user, xTenantId, requestId, req, rfl, hreq, ?_, ?_⟩
      · by_contra hother
        refine hchanged ?_
        rw [shown, ClientDesk.column, hstep, List.getElem?_set_ne hother]
        rfl
      · rw [hstep, List.getElem?_modify, hreq]
        simp

theorem identityKept_step (e : RegistryEvent) (h : s.Guarded) : s.IdentityKept e := by
  cases e with
  | life e => exact .of_desk rfl
  | apply catalogue tenantId applicant body year =>
    refine .of_desk ?_
    simp only [step]
    cases applyForLoan s.db catalogue tenantId applicant body year <;> rfl
  | edit e => exact identityKept_edit e
  | updateClient editor clientId body =>
    cases hok : s.updateClient editor clientId body with
    | error failure => exact .of_desk (by simp only [step, hok, saved])
    | ok s' =>
      intro id field hfield hlive hchanged
      have hstep : s.step (.updateClient editor clientId body) = s' := by
        simp only [step, hok, saved]
      rw [hstep] at hchanged
      exact absurd ((updateClient_updated hok).shown h.locks hfield hlive) hchanged
  | updateBorrower editor clientId references body =>
    cases hok : s.updateBorrower editor clientId references body with
    | error failure => exact .of_desk (by simp only [step, hok, saved])
    | ok s' =>
      intro id field hfield hlive hchanged
      have hstep : s.step (.updateBorrower editor clientId references body) = s' := by
        simp only [step, hok, saved]
      rw [hstep] at hchanged
      exact absurd ((updateBorrower_updated hok).shown h.locks hfield hlive) hchanged

/-- From a book without loans on, in every run: the locks are sound, updates of locked fields
are refused, and identities change by approved requests only, exactly when no loan is settled
that leaves a defaulted loan of its borrower as the only kind that is collected on. -/
theorem identity_lock_iff (start : Registry) (hloans : start.db.loans = [])
    (hlogs : start.db.lockLogs = []) (events : List RegistryEvent) :
    (Always step Guarded start events ∧ AllSteps step IdentityKept start events) ↔
      AllSteps step Spares start events := by
  have hrooted : Rooted start.db := ⟨by simp [hloans], by simp [hlogs]⟩
  have hguarded : start.Guarded := guarded_iff.mpr ⟨by simp [hloans], by simp [hloans]⟩
  have hroots : ∀ done, Rooted (run step start done).db := fun done =>
    @invariant_run_of_step _ _ step (fun s => Rooted s.db) (fun s e hs => (step_turn s e).rooted hs)
      start done hrooted
  have hiff : Always step Sound start events ↔ AllSteps step Spares start events := by
    refine always_iff_allSteps (fun s e hs => ?_) ⟨hrooted, hguarded⟩
    rw [← guarded_step e hs]
    exact ⟨fun h => h.guarded, fun h => ⟨(step_turn s e).rooted hs.rooted, h⟩⟩
  constructor
  · rintro ⟨halways, -⟩
    exact hiff.mp fun done hdone => ⟨hroots done, halways done hdone⟩
  · intro hspares
    refine ⟨fun done hdone => (hiff.mpr hspares done hdone).guarded, ?_⟩
    refine allSteps_of_invariant (fun s e (hs : s.Sound) hok => ?_) ⟨hrooted, hguarded⟩ hspares
    exact ⟨⟨(step_turn s e).rooted hs.rooted, (guarded_step e hs).mpr hok⟩,
      identityKept_step e hs.guarded⟩

/-- A client who has no loan yet, and may take two. -/
def freshRegistry : Registry where
  db := { fourWeekBook with
    borrowers := [⟨1, "254700000001", some "1000009", false, none⟩], loans := [], lockLogs := [] }
  desk := ⟨[⟨1, some "Asha", some "Otieno", some "254700000001", none, some "11112222",
    some "1990-01-01", none⟩], [], [], [], no_modules_known⟩

/-- A loan of ten thousand shillings is applied for, approved and paid out. -/
def lend (loanId : ℕ) (conversationId : String) : List RegistryEvent :=
  [.apply ⟨[⟨1, true, 100000, 5000000⟩], [⟨"approved", [2]⟩]⟩ 1 ⟨true, .ok ()⟩ ⟨0, 0, 1000000⟩ 2026,
    .life (.decide 1 loanId DecisionDesk.manager "approve"), .life (.disburse 1 loanId 7 0),
    .life (.answer 1 loanId loanId (sendB2c (acknowledged conversationId))),
    .life (.result (resultOf conversationId "0" ("R" ++ conversationId)) 0)]

/-- A branch manager enters another phone number. -/
def enterPhone : RegistryEvent :=
  .updateClient ⟨⟨7, 1, "branch_manager"⟩, none, true, true⟩ 0
    ⟨"11112222", some "254799999999", "Asha", "Otieno", some "1990-01-01", none⟩

/-- Two loans, one of which defaults; the defaulted one is paid first. -/
def defaultedPaidFirst : List RegistryEvent :=
  lend 0 "AG_1" ++ lend 1 "AG_2" ++ [.life (.transition 1 0 true "defaulted" 0), enterPhone,
    .life (.payment 0 (paybillPayment 1100000 "QA1" 30)), enterPhone,
    .life (.payment 1 (paybillPayment 1100000 "QA2" 30)), enterPhone]

theorem identity_lock_iff_paid : freshRegistry.db.loans = [] ∧ freshRegistry.db.lockLogs = [] ∧
    (Always step Guarded freshRegistry defaultedPaidFirst ∧
      AllSteps step IdentityKept freshRegistry defaultedPaidFirst) :=
  ⟨rfl, rfl, (identity_lock_iff freshRegistry rfl rfl _).mpr (by decide +kernel)⟩

/-- Two loans, one of which defaults; the other is paid. -/
def defaultedLeftBehind : List RegistryEvent :=
  lend 0 "AG_1" ++ lend 1 "AG_2" ++ [.life (.transition 1 0 true "defaulted" 0),
    .life (.payment 1 (paybillPayment 1100000 "QA2" 30)), enterPhone]

/-- The borrower of the defaulted loan is unlocked by the settlement of the other loan, and a
manager changes the phone number. -/
theorem defaulted_borrower_unlocked :
    ¬ (Always step Guarded freshRegistry defaultedLeftBehind ∧
        AllSteps step IdentityKept freshRegistry defaultedLeftBehind) ∧
      (run step freshRegistry defaultedLeftBehind).db.loans.map (·.status) = [.defaulted, .paid] ∧
      (run step freshRegistry defaultedLeftBehind).db.borrowers.map (·.editLocked) = [false] ∧
      freshRegistry.shown 0 "phone" = "254700000001" ∧
      (run step freshRegistry defaultedLeftBehind).shown 0 "phone" = "254799999999" := by
  have hloan : ((run step freshRegistry defaultedLeftBehind).db.loans[0]?).map
      (fun l => (l.borrowerId, l.status.collectible)) = some (0, true) := by decide +kernel
  have hborrower : ((run step freshRegistry defaultedLeftBehind).db.borrowers[0]?).map
      (·.editLocked) = some false := by decide +kernel
  refine ⟨?_, by decide +kernel, by decide +kernel, by decide +kernel, by decide +kernel⟩
  rintro ⟨hguarded, -⟩
  obtain ⟨loan, hrow, hloan⟩ := Option.map_eq_some_iff.mp hloan
  simp only [Prod.mk.injEq] at hloan
  obtain ⟨b, hb, hlocked⟩ := hguarded.last.locks.locked 0 loan hrow hloan.2
  rw [hloan.1] at hb
  rw [hb, Option.map_some, hlocked] at hborrower
  cases hborrower

end Registry

end FinylDcp
