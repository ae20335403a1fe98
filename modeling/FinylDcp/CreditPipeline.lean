import FinylDcp.ClientApprovals

/-!
# From a client to a loan

What stands between a client at the counter and money: a loan is applied for by a user with the
permission, for a client whose profile was approved, and it is decided on with authority. A loan
keeps its client, its product and its principal through everything.
-/
namespace FinylDcp
open Runs Tables

/-- What a loan is from its application on. -/
structure Loan.SameTerms (l l' : Loan) : Prop where
  tenantId : l'.tenantId = l.tenantId
  borrowerId : l'.borrowerId = l.borrowerId
  productId : l'.productId = l.productId
  principal : l'.principal = l.principal

theorem Loan.SameTerms.refl (l : Loan) : l.SameTerms l := ⟨rfl, rfl, rfl, rfl⟩

theorem Loan.SameTerms.symm {l l' : Loan} (h : l.SameTerms l') : l'.SameTerms l :=
  ⟨h.tenantId.symm, h.borrowerId.symm, h.productId.symm, h.principal.symm⟩

theorem Loan.SameTerms.trans {a b c : Loan} (h : a.SameTerms b) (h' : b.SameTerms c) :
    a.SameTerms c :=
  ⟨h'.tenantId.trans h.tenantId, h'.borrowerId.trans h.borrowerId,
    h'.productId.trans h.productId, h'.principal.trans h.principal⟩

theorem Loan.Step.sameTerms {l l' : Loan} (h : l.Step l') : l.SameTerms l' := by
  cases h with
  | moves hmoves => cases hmoves <;> exact ⟨rfl, rfl, rfl, rfl⟩
  | activates product today hstatus hactive =>
    subst hactive
    exact ⟨rfl, rfl, rfl, rfl⟩
  | settles hopen hsettles =>
    obtain ⟨balance, rebate, at_, -, rfl⟩ := hsettles
    exact ⟨rfl, rfl, rfl, rfl⟩

/-- The gates of an application: the profile of the client is approved, the amount is within the
bounds of a product that the tenant offers, and each loan but the first comes with its survey. -/
structure Gates (db : Db) (catalogue : Catalogue) (tenantId : ℕ) (applicant : Applicant)
    (body : LoanApplication) : Prop where
  client : ∃ b, db.borrowers[body.borrowerId]? = some b ∧ b.tenantId = tenantId
  sees : applicant.seesClient = true
  approved : (catalogue.profiles[body.borrowerId]?).map (·.status) = some "approved"
  offered : ∃ listing, catalogue.listings[body.productId]? = some listing ∧
    listing.tenantId = tenantId ∧ listing.active = true ∧
    listing.minAmount ≤ body.principal ∧ body.principal ≤ listing.maxAmount
  surveyed : 2 ≤ (db.loans.filter (fun l => l.borrowerId = body.borrowerId)).length + 1 →
    ∃ profile, catalogue.profiles[body.borrowerId]? = some profile ∧
      (db.loans.filter (fun l => l.borrowerId = body.borrowerId)).length + 1 ∈
        profile.surveyedCycles

theorem applyForLoan_gates {db : Db} {catalogue : Catalogue} {tenantId : ℕ}
    {applicant : Applicant} {body : LoanApplication} {year : ℤ} {out : Db × ℕ}
    (h : applyForLoan db catalogue tenantId applicant body year = .ok out) :
    Gates db catalogue tenantId applicant body := by
  simp only [applyForLoan] at h
  split at h
  · rename_i borrower profile hborrower hprofile
    obtain ⟨u, hsees, h⟩ := bind_eq_ok.mp h
    obtain ⟨-, -, h⟩ := bind_eq_ok.mp h
    obtain ⟨u, happroved, h⟩ := bind_eq_ok.mp h
    split at h
    · rename_i product listing hproduct hlisting
      obtain ⟨u, hbounds, h⟩ := bind_eq_ok.mp h
      obtain ⟨u, hsurvey, h⟩ := bind_eq_ok.mp h
      obtain ⟨hborrower, htenant⟩ := Option.filter_eq_some_iff.mp hborrower
      obtain ⟨hlisting, hoffered⟩ := Option.filter_eq_some_iff.mp hlisting
      have hsurveyed := refuseIf_eq_ok.mp hsurvey
      have hwithin := refuseIf_eq_ok.mp hbounds
      simp only [Bool.and_eq_true, decide_eq_true_eq] at hoffered
      refine ⟨⟨borrower, hborrower, by simpa using htenant⟩,
        by simpa using refuseIf_eq_ok.mp hsees, ?_,
        ⟨listing, hlisting, hoffered.1, hoffered.2, by omega, by omega⟩,
        fun hrepeat => ⟨profile, hprofile, ?_⟩⟩
      · rw [hprofile]
        simpa using refuseIf_eq_ok.mp happroved
      · simpa [hrepeat] using hsurveyed
    · cases h
  · cases h

namespace CreditDesk

/-- An application for the terms of a loan: with the permission, and past every gate. -/
structure Applied (desk : CreditDesk) (caller : Caller) (body : LoanApplication)
    (user : StaffedUser) (l : Loan) : Prop where
  permitted : desk.Permitted caller "loans.create" user l.tenantId
  gates : ∃ applicant : Applicant, applicant.seesClient = (desk.scope user).canSeeClient
      ((desk.clients[body.borrowerId]?).getD ⟨none, none⟩) ∧
    Gates desk.db desk.catalogue l.tenantId applicant body
  borrowerId : l.borrowerId = body.borrowerId
  productId : l.productId = body.productId
  principal : l.principal = body.principal

theorem Applied.of_sameTerms {desk : CreditDesk} {caller : Caller} {body : LoanApplication}
    {user : StaffedUser} {l l' : Loan} (h : desk.Applied caller body user l)
    (hsame : l.SameTerms l') : desk.Applied caller body user l' where
  permitted := hsame.tenantId ▸ h.permitted
  gates := hsame.tenantId ▸ h.gates
  borrowerId := hsame.borrowerId.trans h.borrowerId
  productId := hsame.productId.trans h.productId
  principal := hsame.principal.trans h.principal

/-- What an event makes of the loans: the ones there are keep their terms, and one that is new
waits for a decision and was applied for. -/
structure Keeps (desk desk' : CreditDesk) (event : CreditEvent) : Prop where
  kept : ∀ (i : ℕ) (l' : Loan), i < desk.db.loans.length → desk'.db.loans[i]? = some l' →
    ∃ l, desk.db.loans[i]? = some l ∧ l.SameTerms l'
  stays : desk.db.loans.length ≤ desk'.db.loans.length
  fresh : ∀ (i : ℕ) (l' : Loan), desk.db.loans.length ≤ i → desk'.db.loans[i]? = some l' →
    i = desk.db.loans.length ∧ l'.status.passed = false ∧
    ∃ caller lendingEnabled body requestedStaffId year user,
      event = .apply caller lendingEnabled body requestedStaffId year ∧
      desk.Applied caller body user l'

variable {desk desk' : CreditDesk} {event : CreditEvent}

theorem Keeps.of_loans (h : desk'.db.loans = desk.db.loans) : desk.Keeps desk' event where
  kept _ l' _ hl' := ⟨l', h ▸ hl', .refl l'⟩
  stays := (congrArg List.length h).ge
  fresh i l' hi hl' := by
    rw [h, List.getElem?_eq_none hi] at hl'
    cases hl'

theorem Keeps.of_life {e : LifeEvent} (h : desk'.db = e.apply desk.db) :
    desk.Keeps desk' event where
  kept i l' hi hl' := by
    obtain ⟨l'', hl'', hstep⟩ := life_step e (List.getElem?_eq_getElem hi)
    rw [← h] at hl''
    obtain rfl := Option.some.inj (hl'.symm.trans hl'')
    exact ⟨_, List.getElem?_eq_getElem hi, hstep.sameTerms⟩
  stays := by rw [h, life_length]
  fresh i l' hi hl' := by
    rw [h, List.getElem?_eq_none ((life_length ..).trans_le hi)] at hl'
    cases hl'

theorem applyAs_keeps {caller : Caller} {lendingEnabled : Bool} {body : LoanApplication}
    {requestedStaffId : Option ℕ} {year : ℤ}
    (h : desk.applyAs caller lendingEnabled body requestedStaffId year = .ok desk') :
    desk.Keeps desk' (.apply caller lendingEnabled body requestedStaffId year) := by
  obtain ⟨⟨user, tenantId⟩, hlogged, h⟩ := bind_eq_ok.mp h
  obtain ⟨⟨db, id⟩, happlied, h⟩ := bind_eq_ok.mp h
  obtain rfl := Except.ok.inj h
  have hgates := applyForLoan_gates happlied
  obtain ⟨borrower, product, -, -, -, -, hdb⟩ := applyForLoan_eq_ok happlied
  obtain rfl : db = _ := hdb
  refine ⟨fun i l' hi hl' => ?_, by simp, fun i l' hi hl' => ?_⟩
  · dsimp only at hl'
    rw [List.getElem?_append_left hi] at hl'
    exact ⟨l', hl', .refl l'⟩
  · dsimp only at hl'
    have hlt := (List.getElem?_eq_some_iff.mp hl').1
    rw [List.length_append, List.length_singleton] at hlt
    rw [List.getElem?_append_right hi] at hl'
    obtain rfl := List.mem_singleton.mp (List.mem_of_getElem? hl')
    exact ⟨by omega, rfl, caller, lendingEnabled, body, requestedStaffId, year, user, rfl,
      permitted_of_authorise hlogged, ⟨_, rfl, hgates⟩, rfl, rfl, rfl⟩

theorem decideAs_keeps (caller : Caller) (loanId : ℕ) (action : String) :
    desk.Keeps (desk.decideAs caller loanId action).1 event := by
  unfold decideAs
  split
  · exact .of_loans rfl
  rename_i user tenantId hlogged
  dsimp only
  generalize desk.decider user tenantId _ = decider
  split
  · rename_i db hdecided
    refine @Keeps.of_life _ _ _ (.decide tenantId loanId decider action) ?_
    simp only [LifeEvent.apply, hdecided, Db.saved]
  · exact .of_loans rfl
  · exact .of_loans rfl

/-- What any event makes of the loans. -/
theorem step_keeps (desk : CreditDesk) (event : CreditEvent) :
    desk.Keeps (desk.step event) event := by
  cases event with
  | access call => exact .of_loans rfl
  | apply caller lendingEnabled body requestedStaffId year =>
    simp only [step]
    cases h : desk.applyAs caller lendingEnabled body requestedStaffId year with
    | ok desk' => exact applyAs_keeps h
    | error failure => exact .of_loans rfl
  | reassign caller lendingEnabled loanId staffId =>
    simp only [step]
    cases h : desk.reassignAs caller lendingEnabled loanId staffId with
    | ok desk' =>
      obtain ⟨⟨user, tenantId⟩, -, h⟩ := bind_eq_ok.mp h
      dsimp only at h
      split at h
      · obtain ⟨-, -, h⟩ := bind_eq_ok.mp h
        obtain ⟨-, -, h⟩ := bind_eq_ok.mp h
        obtain rfl := Except.ok.inj h
        exact .of_loans rfl
      · cases h
    | error failure => exact .of_loans rfl
  | decide caller loanId action => exact decideAs_keeps caller loanId action
  | life e =>
    simp only [step]
    split
    · exact .of_loans rfl
    · exact .of_life rfl

end CreditDesk

namespace OnboardingDesk

variable {desk : OnboardingDesk}

/-- What happens to clients and leads leaves the loans as they are, and where they are placed. -/
theorem step_loans (desk : OnboardingDesk) {e : OnboardingEvent} (he : ∀ event, e ≠ .credit event) :
    (desk.step e).credit.db.loans = desk.credit.db.loans ∧
      (desk.step e).credit.placements = desk.credit.placements := by
  have heffect := desk.step_effect e
  generalize desk.step e = desk' at heffect
  cases heffect with
  | refused => exact ⟨rfl, rfl⟩
  | credit event hcredit => exact absurd hcredit (he event)
  | products db catalogue hborrowers hloans hprofiles => exact ⟨hloans, rfl⟩
  | registered record status place file draws desk' hinserted hstatus =>
    obtain ⟨number, phone, -, hdb, -, hplacements, -⟩ := insertClient_eq_ok hinserted
    exact ⟨by rw [hdb], hplacements⟩
  | rewritten registry clientId branchId rewrite status hborrowers hloans hrewrite hstatus =>
    exact ⟨hloans, rfl⟩
  | surveyed clientId cycle => exact ⟨rfl, rfl⟩
  | decided caller clientId action user tenantId hdecided hauthority => exact ⟨rfl, rfl⟩
  | leadAdded lead hverdict hfresh => exact ⟨rfl, rfl⟩
  | leadEdited leadId lead lead' hrow hsame => exact ⟨rfl, rfl⟩
  | leadDecided caller leadId verdict lead lead' user tenantId hverdict hpermitted hrow hown
      hstatus hby hclient => exact ⟨rfl, rfl⟩
  | conversion caller crmEnabled leadId nationalId dateOfBirth draws decision now user tenantId
      lead record file onboarded hconverts hpermitted hrow hown hverdict hfresh htenant hphone
      hinserted =>
    obtain ⟨number, phone, -, hdb, -, hplacements, -⟩ := insertClient_eq_ok hinserted
    exact ⟨by simp only [hdb], hplacements⟩

theorem placed_step (h : desk.credit.Placed) (e : OnboardingEvent) :
    (desk.step e).credit.Placed := by
  by_cases he : ∃ event, e = .credit event
  · obtain ⟨event, rfl⟩ := he
    exact (CreditDesk.step_passes h event).placed
  · obtain ⟨hloans, hplacements⟩ := desk.step_loans (not_exists.mp he)
    rw [CreditDesk.Placed, hloans, hplacements]
    exact h

/-- The desk has the loan. -/
def HasLoan (i : ℕ) (desk : OnboardingDesk) : Prop := i < desk.credit.db.loans.length

/-- The event is the application for the loan. -/
def AppliesFor (i : ℕ) (desk : OnboardingDesk) (e : OnboardingEvent) : Prop :=
  i = desk.credit.db.loans.length ∧
    ∃ l caller lendingEnabled body requestedStaffId year user,
      e = .credit (.apply caller lendingEnabled body requestedStaffId year) ∧
      (desk.step e).credit.db.loans[i]? = some l ∧ l.status.passed = false ∧
      desk.credit.Applied caller body user l

theorem hasLoan_step {i : ℕ} (e : OnboardingEvent) (h : HasLoan i (desk.step e)) :
    HasLoan i desk ∨ AppliesFor i desk e := by
  obtain hold | hnew := Nat.lt_or_ge i desk.credit.db.loans.length
  · exact .inl hold
  · right
    have hrow := List.getElem?_eq_getElem h
    by_cases he : ∃ event, e = .credit event
    · obtain ⟨event, rfl⟩ := he
      obtain ⟨hi, hpassed, caller, lendingEnabled, body, requestedStaffId, year, user, rfl,
        happlied⟩ :=
        (desk.credit.step_keeps event).fresh i _ hnew hrow
      exact ⟨hi, _, caller, lendingEnabled, body, requestedStaffId, year, user, rfl, hrow, hpassed,
        happlied⟩
    · rw [HasLoan, (desk.step_loans (not_exists.mp he)).1] at h
      omega

/-- A loan that there is keeps its terms. -/
theorem terms_run {i : ℕ} {l : Loan} (events : List OnboardingEvent)
    (hl : desk.credit.db.loans[i]? = some l) :
    ∃ l', (run step desk events).credit.db.loans[i]? = some l' ∧ l.SameTerms l' := by
  refine @invariant_run_of_step _ _ step
    (fun d => ∃ l', d.credit.db.loans[i]? = some l' ∧ l.SameTerms l') ?_ desk events
    ⟨l, hl, .refl l⟩
  rintro d e ⟨l', hl', hsame⟩
  by_cases he : ∃ event, e = .credit event
  · obtain ⟨event, rfl⟩ := he
    have hkeeps := d.credit.step_keeps event
    have hlt := (List.getElem?_eq_some_iff.mp hl').1
    have hrow := List.getElem?_eq_getElem (hlt.trans_le hkeeps.stays)
    obtain ⟨l'', hl'', hkept⟩ := hkeeps.kept i _ hlt hrow
    obtain rfl := Option.some.inj (hl'.symm.trans hl'')
    exact ⟨_, hrow, hsame.trans hkept⟩
  · rw [(d.step_loans (not_exists.mp he)).1]
    exact ⟨l', hl', hsame⟩

/-- The loan is past its application, and names who took it there. -/
def Passed (i : ℕ) (by_ : Option ℕ) (desk : OnboardingDesk) : Prop :=
  ∃ l, desk.credit.db.loans[i]? = some l ∧ l.status.passed = true ∧
    desk.credit.approvedBy i = by_

/-- The event is the decision that takes the loan past its application. -/
def DecidesOn (i : ℕ) (by_ : Option ℕ) (desk : OnboardingDesk) (e : OnboardingEvent) : Prop :=
  ∃ caller action user tenantId loan, e = .credit (.decide caller i action) ∧
    desk.credit.Authorised caller i loan user tenantId ∧ by_ = some caller.actorId

theorem passed_step {i : ℕ} {by_ : Option ℕ} (hplaced : desk.credit.Placed) (e : OnboardingEvent)
    (h : Passed i by_ (desk.step e)) : Passed i by_ desk ∨ DecidesOn i by_ desk e := by
  obtain ⟨l', hl', hpassed, hby⟩ := h
  by_cases he : ∃ event, e = .credit event
  · obtain ⟨event, rfl⟩ := he
    obtain ⟨l, hl, hbefore, -, -, hsame⟩ |
      ⟨caller, action, user, tenantId, loan, rfl, hauthorised, -, hnamed⟩ :=
      (CreditDesk.step_passes hplaced event).passes i l' hl' hpassed
    · exact .inl ⟨l, hl, hbefore, hsame.symm.trans hby⟩
    · exact .inr ⟨caller, action, user, tenantId, loan, rfl, hauthorised, hby.symm.trans hnamed⟩
  · obtain ⟨hloans, hplacements⟩ := desk.step_loans (not_exists.mp he)
    refine .inl ⟨l', hloans ▸ hl', hpassed, ?_⟩
    rw [← hby, CreditDesk.approvedBy, CreditDesk.approvedBy, hplacements]

/-- The way of a loan through a run. It was applied for, for a client whose profile had been
approved, before the run or in it; and a decision with authority on the principal applied for took
it past its application. -/
def PassedGates (desk : OnboardingDesk) (events : List OnboardingEvent) (i : ℕ) (l : Loan) : Prop :=
  ∃ early application middle decision later, events =
      early ++ application :: (middle ++ decision :: later) ∧
    (∃ caller lendingEnabled body requestedStaffId year user,
      application = .credit (.apply caller lendingEnabled body requestedStaffId year) ∧
      (run step desk early).credit.Applied caller body user l) ∧
    (∃ by_, ApprovedAs l.borrowerId by_ desk ∨ ∃ before gate after,
      early = before ++ gate :: after ∧ Approves l.borrowerId by_ (run step desk before) gate) ∧
    ∃ caller action user loan, decision = .credit (.decide caller i action) ∧
      (run step desk (early ++ application :: middle)).credit.Authorised caller i loan user
        l.tenantId ∧ l.SameTerms loan ∧
      (run step desk events).credit.approvedBy i = some caller.actorId

end OnboardingDesk

open OnboardingDesk in
/-- Over any run of registrations, updates, leads, decisions, access management and everything
that happens to loans and money: each loan that came in the run and is past its application at the
end was applied for with permission, within the bounds of its product and with the survey of its
cycle, for a client whose profile had been approved by somebody who could approve it; a decision
after that, with authority and within the limit of who decided, approved the loan on the same
terms; and the loan still names who decided. -/
theorem loans_pass_every_gate (desk : OnboardingDesk) (haligned : desk.Aligned)
    (hplaced : desk.credit.Placed) (events : List OnboardingEvent) (i : ℕ) (l : Loan)
    (hl : (run OnboardingDesk.step desk events).credit.db.loans[i]? = some l)
    (hpassed : l.status.passed = true) (hnew : desk.credit.db.loans.length ≤ i) :
    desk.PassedGates events i l := by
  have hthere := (List.getElem?_eq_some_iff.mp hl).1
  obtain hold | ⟨early, application, rest, rfl, hi, l₀, caller, lendingEnabled, body,
    requestedStaffId, year, user, rfl, hrow, hwaits, happlied⟩ :=
    @origin_run _ _ OnboardingDesk.step (fun _ => True) (HasLoan i) (AppliesFor i)
      (fun _ _ _ => trivial) (fun _ e _ h => hasLoan_step e h) desk events trivial hthere
  · exact absurd hold (not_lt.mpr hnew)
  set application : OnboardingEvent :=
    .credit (.apply caller lendingEnabled body requestedStaffId year)
  have hafter (later : List OnboardingEvent) :
      run OnboardingDesk.step desk (early ++ application :: later) =
        run OnboardingDesk.step ((run OnboardingDesk.step desk early).step application) later := by
    rw [run_append, run_cons]
  have hearly : (run OnboardingDesk.step desk early).credit.Placed :=
    @invariant_run_of_step _ _ OnboardingDesk.step (fun d => d.credit.Placed)
      (fun _ e h => placed_step h e) desk early hplaced
  have hterms : l₀.SameTerms l := by
    obtain ⟨l', hl', hsame⟩ := terms_run rest hrow
    rw [← hafter, hl] at hl'
    obtain rfl := Option.some.inj hl'
    exact hsame
  have hgate := @origin_run _ _ OnboardingDesk.step Aligned
    (ApprovedAs l.borrowerId ((run OnboardingDesk.step desk early).approvedBy l.borrowerId))
    (Approves l.borrowerId ((run OnboardingDesk.step desk early).approvedBy l.borrowerId))
    (fun _ e h => h.step e) (fun _ e h h' => approved_step h e h') desk early haligned
  obtain ⟨l₁, hl₁, hbefore, -⟩ | ⟨middle, decision, later, rfl, decider, action, approver, tenantId,
    loan, rfl, hauthorised, hby⟩ :=
    @origin_run _ _ OnboardingDesk.step (fun d => d.credit.Placed)
      (Passed i ((run OnboardingDesk.step desk (early ++ application :: rest)).credit.approvedBy i))
      (DecidesOn i
        ((run OnboardingDesk.step desk (early ++ application :: rest)).credit.approvedBy i))
      (fun _ e h => placed_step h e) (fun _ e h h' => passed_step h e h') _ rest
      (placed_step hearly application) ⟨l, by rw [← hafter]; exact hl, hpassed, by rw [← hafter]⟩
  · obtain rfl := Option.some.inj (hrow.symm.trans hl₁)
    rw [hwaits] at hbefore
    cases hbefore
  have happliedNow := happlied.of_sameTerms hterms
  obtain ⟨applicant, -, hgates⟩ := happliedNow.gates
  refine ⟨early, application, middle, _, later, rfl, ?_, ?_, decider, action, approver, loan, rfl,
    ?_⟩
  · exact ⟨caller, lendingEnabled, body, requestedStaffId, year, user, rfl, happliedNow⟩
  · refine ⟨_, hgate ⟨?_, rfl⟩⟩
    rw [happliedNow.borrowerId]
    exact hgates.approved
  · obtain ⟨hloan, hown⟩ := loanRow_eq_some hauthorised.row
    obtain ⟨l', hl', hsame⟩ := terms_run middle hrow
    obtain rfl := Option.some.inj (hl'.symm.trans hloan)
    have hterms' : l.SameTerms l' := hterms.symm.trans hsame
    obtain rfl : tenantId = l.tenantId := hown.symm.trans hterms'.tenantId
    rw [hafter]
    exact ⟨hauthorised, hterms', hby⟩

/-- The manager approves the client, the survey of the second cycle is taken, the officer applies
for 20,000.00, and the manager approves the loan. -/
def frontDay : List OnboardingEvent := [
  .decideClient ⟨0, none⟩ 0 "approve",
  .submitSurvey ⟨1, none⟩ true 0,
  .credit (.apply ⟨1, none⟩ true ⟨0, 0, 2000000⟩ none 2026),
  .credit (.decide ⟨0, none⟩ 1 "approve")]

theorem frontDay_passed_gates : ∃ l, frontDesk.PassedGates frontDay 1 l := by
  have happroved : ((run OnboardingDesk.step frontDesk frontDay).credit.db.loans[1]?).any
      (·.status.passed) = true := by
    decide
  obtain ⟨l, hl, hpassed⟩ := (Option.any_eq_true _ _).mp happroved
  exact ⟨l, loans_pass_every_gate frontDesk ⟨rfl, rfl⟩ rfl frontDay 1 l hl hpassed le_rfl⟩

end FinylDcp
