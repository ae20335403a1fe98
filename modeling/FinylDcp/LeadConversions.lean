import FinylDcp.ClientApprovals

/-!
# Leads that become clients

A lead becomes a client once, after a branch manager let it through, and the client it becomes is
a draft that needs the approval of every other client. No two leads become the same client.
-/
namespace FinylDcp
open Runs Tables Text

namespace OnboardingDesk

variable {desk desk' : OnboardingDesk}

/-- The event makes a client of the lead: one of its tenant that a branch manager let through and
that is no client yet. The client is new, has the phone of the lead, and its profile is a
draft. -/
inductive Converts (leadId clientId : ℕ) (desk : OnboardingDesk) : OnboardingEvent → Prop
  | intro {caller : Caller} {crmEnabled : Bool} {nationalId : String}
    {dateOfBirth : Option (Option Calendar.Date)} {draws : Fin 50 → Fin 900000}
    {kyc : KycInputs} {now : ℤ} (user : StaffedUser) (tenantId : ℕ) (lead : CrmLead)
    (b : Borrower) (permitted : desk.credit.Permitted caller "clients.create" user tenantId)
    (row : desk.leads[leadId]? = some lead) (own : lead.tenantId = tenantId)
    (letThrough : lead.bmApprovalStatus = some .approved)
    (fresh : lead.convertedToClientId = none) (new : clientId = desk.borrowers.length)
    (client : (desk.step (.convertToOnboarding caller crmEnabled leadId nationalId dateOfBirth
      draws kyc now)).borrowers[clientId]? = some b)
    (same : b.tenantId = tenantId ∧ b.phone = lead.phone.getD "")
    (draft : desk.Aligned → (desk.step (.convertToOnboarding caller crmEnabled leadId nationalId
      dateOfBirth draws kyc now)).profileStatus clientId = some "draft") :
    Converts leadId clientId desk (.convertToOnboarding caller crmEnabled leadId nationalId
      dateOfBirth draws kyc now)

/-- What an event does to the leads. -/
inductive LeadChange (desk : OnboardingDesk) (e : OnboardingEvent) (desk' : OnboardingDesk) : Prop
  | kept (hborrowers : desk.borrowers.length ≤ desk'.borrowers.length)
    (hleads : desk'.leads = desk.leads)
  | added (lead : CrmLead) (hborrowers : desk'.borrowers.length = desk.borrowers.length)
    (hverdict : lead.bmApprovalStatus = none) (hfresh : lead.convertedToClientId = none)
    (hleads : desk'.leads = desk.leads ++ [lead])
  | edited (leadId : ℕ) (lead lead' : CrmLead)
    (hborrowers : desk'.borrowers.length = desk.borrowers.length)
    (hrow : desk.leads[leadId]? = some lead) (hsame : lead.SameStanding lead')
    (hleads : desk'.leads = desk.leads.set leadId lead')
  | decided (caller : Caller) (leadId : ℕ) (verdict : BmApproval) (lead lead' : CrmLead)
    (user : StaffedUser) (tenantId : ℕ) (he : e.verdict = some (caller, leadId, verdict))
    (hpermitted : desk.credit.Permitted caller "clients.approve" user tenantId)
    (hborrowers : desk'.borrowers.length = desk.borrowers.length)
    (hrow : desk.leads[leadId]? = some lead) (hown : lead.tenantId = tenantId)
    (hstatus : lead'.bmApprovalStatus = some verdict)
    (hby : lead'.bmApprovedBy = some caller.actorId)
    (hclient : lead'.convertedToClientId = lead.convertedToClientId)
    (hleads : desk'.leads = desk.leads.set leadId lead')
  | converted (leadId : ℕ) (lead lead' : CrmLead)
    (hconverts : Converts leadId desk.borrowers.length desk e)
    (hborrowers : desk'.borrowers.length = desk.borrowers.length + 1)
    (hrow : desk.leads[leadId]? = some lead) (hfresh : lead.convertedToClientId = none)
    (hstatus : lead'.bmApprovalStatus = lead.bmApprovalStatus)
    (hby : lead'.bmApprovedBy = lead.bmApprovedBy)
    (hclient : lead'.convertedToClientId = some desk.borrowers.length)
    (hleads : desk'.leads = desk.leads.set leadId lead')

/-- What a conversion makes of a lead. -/
theorem conversion_change {caller : Caller} {crmEnabled : Bool} {leadId : ℕ} {nationalId : String}
    {dateOfBirth : Option (Option Calendar.Date)} {draws : Fin 50 → Fin 900000}
    {kyc : KycInputs} {now : ℤ} {user : StaffedUser} {tenantId : ℕ} {lead : CrmLead}
    {record : ClientRecord} {file : ClientFile} {onboarded : OnboardingDesk}
    (hstep : desk.step (.convertToOnboarding caller crmEnabled leadId nationalId dateOfBirth draws
      kyc now) = { onboarded with
        leads := desk.leads.set leadId (converted lead desk.borrowers.length now
          (kyc.decision tenantId desk.borrowers.length dateOfBirth.join)) })
    (hpermitted : desk.credit.Permitted caller "clients.create" user tenantId)
    (hrow : desk.leads[leadId]? = some lead) (hown : lead.tenantId = tenantId)
    (hverdict : lead.bmApprovalStatus = some .approved)
    (hfresh : lead.convertedToClientId = none) (htenant : record.tenantId = tenantId)
    (hphone : record.phone = some (lead.phone.getD ""))
    (hinserted : desk.insertClient record "draft" ⟨none, none⟩ file draws = .ok onboarded) :
    desk.LeadChange (.convertToOnboarding caller crmEnabled leadId nationalId dateOfBirth draws
      kyc now) { onboarded with
        leads := desk.leads.set leadId (converted lead desk.borrowers.length now
          (kyc.decision tenantId desk.borrowers.length dateOfBirth.join)) } := by
  obtain ⟨number, phone, hgiven, hdb, hcatalogue, -⟩ := insertClient_eq_ok hinserted
  obtain rfl := Option.some.inj (hphone.symm.trans hgiven)
  have hborrowers : onboarded.borrowers = desk.borrowers ++
      [⟨tenantId, lead.phone.getD "", some number, false, none⟩] := by
    simp [borrowers, hdb, htenant]
  refine .converted leadId lead (converted lead desk.borrowers.length now
      (kyc.decision tenantId desk.borrowers.length dateOfBirth.join))
    (.intro user tenantId lead ⟨tenantId, lead.phone.getD "", some number, false, none⟩ hpermitted
      hrow hown hverdict hfresh rfl ?_ ⟨rfl, rfl⟩ fun haligned => ?_) ?_ hrow hfresh rfl rfl rfl rfl
  · rw [hstep]
    show onboarded.borrowers[_]? = _
    rw [hborrowers]
    exact List.getElem?_concat_length
  · rw [hstep, ← haligned.profiles]
    show (onboarded.credit.catalogue.profiles[_]?).map _ = _
    rw [hcatalogue]
    simp
  · show onboarded.borrowers.length = _
    rw [hborrowers, List.length_append]
    rfl

/-- What any event does to the leads. -/
theorem step_leads (desk : OnboardingDesk) (e : OnboardingEvent) :
    desk.LeadChange e (desk.step e) := by
  have heffect := desk.step_effect e
  generalize hstep : desk.step e = desk' at heffect
  cases heffect with
  | refused => exact .kept le_rfl rfl
  | credit event he => exact .kept (desk.credit.step_clients event).2.2.ge rfl
  | products db catalogue hborrowers hloans hprofiles =>
    exact .kept (congrArg List.length hborrowers).ge rfl
  | registered record status place file draws desk' hinserted hstatus =>
    obtain ⟨number, phone, -, hdb, -, -, -, -, -, hleads⟩ := insertClient_eq_ok hinserted
    exact .kept (by simp [borrowers, hdb]) hleads
  | rewritten registry clientId branchId rewrite status hborrowers hloans hrewrite hstatus =>
    exact .kept hborrowers.ge rfl
  | surveyed clientId cycle => exact .kept le_rfl rfl
  | decided caller clientId action user tenantId he hauthority => exact .kept le_rfl rfl
  | leadAdded lead hverdict hfresh => exact .added lead rfl hverdict hfresh rfl
  | leadEdited leadId lead lead' hrow hsame => exact .edited leadId lead lead' rfl hrow hsame rfl
  | leadDecided caller leadId verdict lead lead' user tenantId he hpermitted hrow hown hstatus hby
      hclient =>
    exact .decided caller leadId verdict lead lead' user tenantId he hpermitted rfl hrow hown
      hstatus hby hclient rfl
  | conversion caller crmEnabled leadId nationalId dateOfBirth draws kyc now user tenantId
      lead record file onboarded he hpermitted hrow hown hverdict hfresh htenant hphone hinserted =>
    subst he
    exact conversion_change hstep hpermitted hrow hown hverdict hfresh htenant hphone hinserted

/-- Leads that became clients became clients that there are, no two of them the same. -/
structure LeadsSound (desk : OnboardingDesk) : Prop where
  known : ∀ lead ∈ desk.leads, ∀ clientId ∈ lead.convertedToClientId,
    clientId < desk.borrowers.length
  distinct : ∀ (i j : ℕ) (l l' : CrmLead) (clientId : ℕ), desk.leads[i]? = some l →
    desk.leads[j]? = some l' → l.convertedToClientId = some clientId →
    l'.convertedToClientId = some clientId → i = j

/-- Leads with the clients they had. -/
theorem LeadsSound.of_clients (h : desk.LeadsSound)
    (hborrowers : desk.borrowers.length ≤ desk'.borrowers.length)
    (hclients : ∀ (i : ℕ) (l' : CrmLead), desk'.leads[i]? = some l' →
      l'.convertedToClientId = none ∨
        ∃ l, desk.leads[i]? = some l ∧ l'.convertedToClientId = l.convertedToClientId) :
    desk'.LeadsSound where
  known l' hl' clientId hc := by
    obtain ⟨i, hi⟩ := List.mem_iff_getElem?.mp hl'
    obtain hnone | ⟨l, hl, hsame⟩ := hclients i l' hi
    · rw [hnone] at hc
      cases hc
    · rw [hsame] at hc
      exact (h.known l (List.mem_of_getElem? hl) clientId hc).trans_le hborrowers
  distinct i j l l' clientId hi hj hl hl' := by
    obtain hnone | ⟨m, hm, hsame⟩ := hclients i l hi
    · rw [hnone] at hl
      cases hl
    obtain hnone | ⟨m', hm', hsame'⟩ := hclients j l' hj
    · rw [hnone] at hl'
      cases hl'
    exact h.distinct i j m m' clientId hm hm' (hsame.symm.trans hl) (hsame'.symm.trans hl')

/-- A lead after a row of the leads is set. -/
theorem lead_of_set {leadId i : ℕ} {lead l' : CrmLead}
    (h : (desk.leads.set leadId lead)[i]? = some l') :
    (leadId = i ∧ l' = lead) ∨ (leadId ≠ i ∧ desk.leads[i]? = some l') := by
  by_cases hi : leadId = i
  · subst hi
    rw [List.getElem?_set, if_pos rfl] at h
    split_ifs at h
    exact .inl ⟨rfl, (Option.some.inj h).symm⟩
  · rw [List.getElem?_set_ne hi] at h
    exact .inr ⟨hi, h⟩

theorem LeadsSound.step (h : desk.LeadsSound) (e : OnboardingEvent) : (desk.step e).LeadsSound := by
  have hset {desk' : OnboardingDesk} {leadId : ℕ} {lead lead' : CrmLead}
      (hborrowers : desk'.borrowers.length = desk.borrowers.length)
      (hrow : desk.leads[leadId]? = some lead)
      (hclient : lead'.convertedToClientId = lead.convertedToClientId)
      (hleads : desk'.leads = desk.leads.set leadId lead') : desk'.LeadsSound := by
    refine h.of_clients hborrowers.ge fun i l' hl' => .inr ?_
    rw [hleads] at hl'
    obtain ⟨rfl, rfl⟩ | ⟨-, hl⟩ := lead_of_set hl'
    · exact ⟨lead, hrow, hclient⟩
    · exact ⟨l', hl, rfl⟩
  have hchange := desk.step_leads e
  generalize desk.step e = desk' at hchange
  cases hchange with
  | kept hborrowers hleads =>
    exact h.of_clients hborrowers fun i l' hl' => .inr ⟨l', hleads ▸ hl', rfl⟩
  | added lead hborrowers hverdict hfresh hleads =>
    refine h.of_clients hborrowers.ge fun i l' hl' => ?_
    rw [hleads, List.getElem?_append] at hl'
    split_ifs at hl' with hold
    · exact .inr ⟨l', hl', rfl⟩
    · obtain rfl := List.mem_singleton.mp (List.mem_of_getElem? hl')
      exact .inl hfresh
  | edited leadId lead lead' hborrowers hrow hsame hleads =>
    exact hset hborrowers hrow hsame.client hleads
  | decided caller leadId verdict lead lead' user tenantId he hpermitted hborrowers hrow hown
      hstatus hby hclient hleads => exact hset hborrowers hrow hclient hleads
  | converted leadId lead lead' hconverts hborrowers hrow hfresh hstatus hby hclient hleads =>
    have hknown : ∀ (i : ℕ) (l : CrmLead), desk.leads[i]? = some l →
        l.convertedToClientId ≠ some desk.borrowers.length := fun i l hl hc =>
      lt_irrefl _ (h.known l (List.mem_of_getElem? hl) _ hc)
    refine ⟨fun l' hl' clientId hc => ?_, fun i j l l' clientId hi hj hl hl' => ?_⟩
    · obtain ⟨i, hi⟩ := List.mem_iff_getElem?.mp hl'
      rw [hleads] at hi
      obtain ⟨rfl, rfl⟩ | ⟨-, hold⟩ := lead_of_set hi
      · obtain rfl := Option.some.inj (hclient.symm.trans hc)
        rw [hborrowers]
        exact Nat.lt_succ_self _
      · have hlt := h.known l' (List.mem_of_getElem? hold) clientId hc
        omega
    · rw [hleads] at hi hj
      obtain ⟨rfl, rfl⟩ | ⟨hne, hold⟩ := lead_of_set hi
      · obtain ⟨rfl, rfl⟩ | ⟨-, hold'⟩ := lead_of_set hj
        · rfl
        · obtain rfl := Option.some.inj (hclient.symm.trans hl)
          exact absurd hl' (hknown j l' hold')
      · obtain ⟨rfl, rfl⟩ | ⟨-, hold'⟩ := lead_of_set hj
        · obtain rfl := Option.some.inj (hclient.symm.trans hl')
          exact absurd hl (hknown i l hold)
        · exact h.distinct i j l l' clientId hold hold' hl hl'

/-- The lead is the client. -/
def ClientOf (leadId clientId : ℕ) (desk : OnboardingDesk) : Prop :=
  ∃ lead, desk.leads[leadId]? = some lead ∧ lead.convertedToClientId = some clientId

/-- A branch manager let the lead through, and it names whom. -/
def LetThrough (leadId : ℕ) (by_ : Option ℕ) (desk : OnboardingDesk) : Prop :=
  ∃ lead, desk.leads[leadId]? = some lead ∧ lead.bmApprovalStatus = some .approved ∧
    lead.bmApprovedBy = by_

/-- The event lets the lead through: the word of a user who may approve clients. -/
def LetsThrough (leadId : ℕ) (by_ : Option ℕ) (desk : OnboardingDesk) (e : OnboardingEvent) :
    Prop :=
  ∃ caller user tenantId, e.verdict = some (caller, leadId, .approved) ∧
    desk.credit.Permitted caller "clients.approve" user tenantId ∧ by_ = some caller.actorId

theorem clientOf_step {leadId clientId : ℕ} (e : OnboardingEvent)
    (h : ClientOf leadId clientId (desk.step e)) :
    ClientOf leadId clientId desk ∨ Converts leadId clientId desk e := by
  obtain ⟨l', hl', hc⟩ := h
  have hchange := desk.step_leads e
  generalize desk.step e = desk' at hchange hl'
  cases hchange with
  | kept hborrowers hleads => exact .inl ⟨l', hleads ▸ hl', hc⟩
  | added lead hborrowers hverdict hfresh hleads =>
    rw [hleads, List.getElem?_append] at hl'
    split_ifs at hl' with hold
    · exact .inl ⟨l', hl', hc⟩
    · obtain rfl := List.mem_singleton.mp (List.mem_of_getElem? hl')
      rw [hfresh] at hc
      cases hc
  | edited id lead lead' hborrowers hrow hsame hleads =>
    rw [hleads] at hl'
    obtain ⟨rfl, rfl⟩ | ⟨-, hold⟩ := lead_of_set hl'
    · exact .inl ⟨lead, hrow, hsame.client.symm.trans hc⟩
    · exact .inl ⟨l', hold, hc⟩
  | decided caller id verdict lead lead' user tenantId he hpermitted hborrowers hrow hown hstatus
      hby hclient hleads =>
    rw [hleads] at hl'
    obtain ⟨rfl, rfl⟩ | ⟨-, hold⟩ := lead_of_set hl'
    · exact .inl ⟨lead, hrow, hclient.symm.trans hc⟩
    · exact .inl ⟨l', hold, hc⟩
  | converted id lead lead' hconverts hborrowers hrow hfresh hstatus hby hclient hleads =>
    rw [hleads] at hl'
    obtain ⟨rfl, rfl⟩ | ⟨-, hold⟩ := lead_of_set hl'
    · obtain rfl := Option.some.inj (hclient.symm.trans hc)
      exact .inr hconverts
    · exact .inl ⟨l', hold, hc⟩

theorem letThrough_step {leadId : ℕ} {by_ : Option ℕ} (e : OnboardingEvent)
    (h : LetThrough leadId by_ (desk.step e)) :
    LetThrough leadId by_ desk ∨ LetsThrough leadId by_ desk e := by
  obtain ⟨l', hl', hthrough, hname⟩ := h
  have hchange := desk.step_leads e
  generalize desk.step e = desk' at hchange hl'
  cases hchange with
  | kept hborrowers hleads => exact .inl ⟨l', hleads ▸ hl', hthrough, hname⟩
  | added lead hborrowers hverdict hfresh hleads =>
    rw [hleads, List.getElem?_append] at hl'
    split_ifs at hl' with hold
    · exact .inl ⟨l', hl', hthrough, hname⟩
    · obtain rfl := List.mem_singleton.mp (List.mem_of_getElem? hl')
      rw [hverdict] at hthrough
      cases hthrough
  | edited id lead lead' hborrowers hrow hsame hleads =>
    rw [hleads] at hl'
    obtain ⟨rfl, rfl⟩ | ⟨-, hold⟩ := lead_of_set hl'
    · exact .inl ⟨lead, hrow, hsame.status.symm.trans hthrough, hsame.decider.symm.trans hname⟩
    · exact .inl ⟨l', hold, hthrough, hname⟩
  | decided caller id verdict lead lead' user tenantId he hpermitted hborrowers hrow hown hstatus
      hby hclient hleads =>
    rw [hleads] at hl'
    obtain ⟨rfl, rfl⟩ | ⟨-, hold⟩ := lead_of_set hl'
    · obtain rfl := Option.some.inj (hstatus.symm.trans hthrough)
      exact .inr ⟨caller, user, tenantId, he, hpermitted, hname.symm.trans hby⟩
    · exact .inl ⟨l', hold, hthrough, hname⟩
  | converted id lead lead' hconverts hborrowers hrow hfresh hstatus hby hclient hleads =>
    rw [hleads] at hl'
    obtain ⟨rfl, rfl⟩ | ⟨-, hold⟩ := lead_of_set hl'
    · exact .inl ⟨lead, hrow, hstatus.symm.trans hthrough, hby.symm.trans hname⟩
    · exact .inl ⟨l', hold, hthrough, hname⟩

/-- Clients stay. -/
theorem client_known_step {clientId : ℕ} (h : clientId < desk.borrowers.length)
    (e : OnboardingEvent) : clientId < (desk.step e).borrowers.length := by
  cases desk.step_change e with
  | kept hborrowers => rwa [hborrowers]
  | added status file hborrowers =>
    rw [hborrowers]
    exact h.trans (Nat.lt_succ_self _)
  | decided caller decidedId action user tenantId he hauthority hborrowers => rwa [hborrowers]

/-- A client that there is and whose profile is not approved gets approved in a decision. -/
theorem approved_later {clientId : ℕ} {events : List OnboardingEvent} (haligned : desk.Aligned)
    (hknown : clientId < desk.borrowers.length)
    (hstatus : desk.profileStatus clientId ≠ some "approved")
    (h : (run step desk events).profileStatus clientId = some "approved") :
    ∃ early caller later user tenantId,
      events = early ++ .decideClient caller clientId "approve" :: later ∧
      (run step desk early).ClientAuthority caller clientId user tenantId := by
  obtain ⟨happroved, -⟩ | ⟨early, e, later, rfl, hbrought⟩ :=
    @origin_run _ _ step Aligned (ApprovedAs clientId ((run step desk events).approvedBy clientId))
      (Approves clientId ((run step desk events).approvedBy clientId)) (fun _ e hs => hs.step e)
      (fun _ e hs => approved_step hs e) desk events haligned ⟨h, rfl⟩
  · exact absurd happroved hstatus
  · have hstill : clientId < (run step desk early).borrowers.length :=
      @invariant_run_of_step _ _ step (fun d => clientId < d.borrowers.length)
        (fun _ e h => client_known_step h e) desk early hknown
    cases hbrought with
    | registered caller user tenantId hnew he hself =>
      exact absurd hnew hstill.ne
    | decided caller user tenantId hauthority hby =>
      exact ⟨early, caller, later, user, tenantId, rfl, hauthority⟩

/-- The run made a client of the lead: in one conversion, after a branch manager let the lead
through, before the run or in it. If the client's profile is approved at the end, a decision after
the conversion approved it. -/
def ConvertedIn (desk : OnboardingDesk) (events : List OnboardingEvent) (leadId clientId : ℕ) :
    Prop :=
  ∃ early e later, events = early ++ e :: later ∧
    Converts leadId clientId (run step desk early) e ∧
    (∃ by_, LetThrough leadId by_ desk ∨ ∃ before verdict after,
      early = before ++ verdict :: after ∧ LetsThrough leadId by_ (run step desk before) verdict) ∧
    ((run step desk events).profileStatus clientId = some "approved" →
      ∃ between caller after user tenantId,
        later = between ++ .decideClient caller clientId "approve" :: after ∧
        (run step desk (early ++ e :: between)).ClientAuthority caller clientId user tenantId)

theorem convertedIn_of_origin {early later : List OnboardingEvent} {e : OnboardingEvent}
    {leadId clientId : ℕ} (haligned : desk.Aligned)
    (hconverts : Converts leadId clientId (run step desk early) e) :
    desk.ConvertedIn (early ++ e :: later) leadId clientId := by
  have hearly : (run step desk early).Aligned :=
    @invariant_run_of_step _ _ step Aligned (fun _ e h => h.step e) desk early haligned
  refine ⟨early, e, later, rfl, hconverts, ?_, fun happroved => ?_⟩
  · cases hconverts with
    | intro user tenantId lead b permitted row own letThrough fresh new client same draft =>
      refine ⟨lead.bmApprovedBy, ?_⟩
      exact @origin_run _ _ step (fun _ => True) (LetThrough leadId lead.bmApprovedBy)
        (LetsThrough leadId lead.bmApprovedBy) (fun _ _ _ => trivial)
        (fun _ e _ h => letThrough_step e h) desk early trivial ⟨lead, row, letThrough, rfl⟩
  · have hsplit : early ++ e :: later = (early ++ [e]) ++ later := by simp
    rw [hsplit, run_append, run_concat] at happroved
    have hafter : clientId < ((run step desk early).step e).borrowers.length ∧
        ((run step desk early).step e).profileStatus clientId = some "draft" := by
      cases hconverts with
      | intro user tenantId lead b permitted row own letThrough fresh new client same draft =>
        exact ⟨(List.getElem?_eq_some_iff.mp client).1, draft hearly⟩
    obtain ⟨between, caller, after, user, tenantId, rfl, hauthority⟩ :=
      approved_later (hearly.step e) hafter.1 (by rw [hafter.2]; decide) happroved
    refine ⟨between, caller, after, user, tenantId, rfl, ?_⟩
    have hrun : run step desk (early ++ e :: between) =
        run step ((run step desk early).step e) between := by
      rw [run_append, run_cons]
    rwa [hrun]

end OnboardingDesk

open OnboardingDesk in
/-- Over any run of registrations, updates, leads, decisions, access management and everything
that happens to loans and money: no two leads become the same client, and each lead that is a
client was that client at the start or became it in one conversion of the run, after a branch
manager let the lead through; and a client that came so into the books has an approved profile
only by a decision on the client after its conversion. -/
theorem leads_converted_once (desk : OnboardingDesk) (haligned : desk.Aligned)
    (hsound : desk.LeadsSound) (events : List OnboardingEvent) :
    (run OnboardingDesk.step desk events).LeadsSound ∧
      ∀ leadId clientId, ClientOf leadId clientId (run OnboardingDesk.step desk events) →
        ClientOf leadId clientId desk ∨ desk.ConvertedIn events leadId clientId := by
  refine ⟨@invariant_run_of_step _ _ OnboardingDesk.step LeadsSound (fun _ e h => h.step e) desk
    events hsound, fun leadId clientId h => ?_⟩
  obtain hbefore | ⟨early, e, later, rfl, hconverts⟩ :=
    @origin_run _ _ OnboardingDesk.step (fun _ => True) (ClientOf leadId clientId)
      (Converts leadId clientId) (fun _ _ _ => trivial) (fun _ e _ h => clientOf_step e h) desk
      events trivial h
  · exact .inl hbefore
  · exact .inr (convertedIn_of_origin haligned hconverts)

/-- A tenant without preferences of its own and without records of the client. -/
def noKycRecords : KycInputs := ⟨none, ⟨[], [], [], [], []⟩, ⟨2026, 9, 15, by decide, by decide⟩⟩

theorem frontDesk_converted : frontDesk.ConvertedIn
    [.convertToOnboarding ⟨1, none⟩ true 0 "12345679" none (fun _ => 1) noKycRecords 0] 0 1 := by
  have hsound : frontDesk.LeadsSound := by
    have hrow (i : ℕ) (l : CrmLead) (hi : frontDesk.leads[i]? = some l) :
        l.convertedToClientId = none := by
      obtain rfl := List.mem_singleton.mp (List.mem_of_getElem? hi)
      rfl
    refine ⟨fun l hl clientId hc => ?_, fun i j l l' clientId hi hj hl hl' => ?_⟩
    · obtain ⟨i, hi⟩ := List.mem_iff_getElem?.mp hl
      rw [hrow i l hi] at hc
      cases hc
    · rw [hrow i l hi] at hl
      cases hl
  have hnow : ((run OnboardingDesk.step frontDesk [.convertToOnboarding ⟨1, none⟩ true 0 "12345679"
      none (fun _ => 1) noKycRecords 0]).leads[0]?).bind (·.convertedToClientId) = some 1 := by
    decide
  obtain ⟨lead, hlead, hclient⟩ | hconverted := (leads_converted_once frontDesk ⟨rfl, rfl⟩ hsound
    [.convertToOnboarding ⟨1, none⟩ true 0 "12345679" none (fun _ => 1) noKycRecords 0]).2 0 1
      (Option.bind_eq_some_iff.mp hnow)
  · obtain rfl := Option.some.inj hlead
    cases hclient
  · exact hconverted

end FinylDcp
