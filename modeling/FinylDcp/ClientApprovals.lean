import FinylDcp.OnboardingEffects

/-!
# Who approved a client

A profile is approved by a decision of somebody who may decide on clients and sees this one, or
from the start, where whoever registered the client could have approved it. Nothing else that
happens to clients, leads, loans and money approves a profile.
-/
namespace FinylDcp
open Runs Tables Text

namespace OnboardingDesk

variable {desk desk' : OnboardingDesk}

/-- The rows of a client stand side by side. -/
structure Aligned (desk : OnboardingDesk) : Prop where
  profiles : desk.credit.catalogue.profiles.length = desk.borrowers.length
  files : desk.files.length = desk.borrowers.length

/-- What an event does to the profiles: approves none, adds a client, or is a decision. -/
inductive ClientChange (desk : OnboardingDesk) (e : OnboardingEvent) (desk' : OnboardingDesk) :
    Prop
  | kept (hborrowers : desk'.borrowers.length = desk.borrowers.length)
    (hprofiles : desk'.credit.catalogue.profiles.length = desk.credit.catalogue.profiles.length)
    (hfiles : desk'.files.length = desk.files.length)
    (hstatus : ∀ i, desk'.profileStatus i = some "approved" →
      desk.profileStatus i = some "approved")
    (hby : ∀ i, desk'.approvedBy i = desk.approvedBy i)
  | added (status : String) (file : ClientFile)
    (hborrowers : desk'.borrowers.length = desk.borrowers.length + 1)
    (hprofiles : desk'.credit.catalogue.profiles =
      desk.credit.catalogue.profiles ++ [⟨status, []⟩])
    (hfiles : desk'.files = desk.files ++ [file])
    (hstatus : status = "approved" → ∃ caller user tenantId, e.registration = some caller ∧
      desk.SelfApproving caller user tenantId)
  | decided (caller : Caller) (clientId : ℕ) (action : String) (user : StaffedUser)
    (tenantId : ℕ) (he : e = .decideClient caller clientId action)
    (hauthority : desk.ClientAuthority caller clientId user tenantId)
    (hborrowers : desk'.borrowers.length = desk.borrowers.length)
    (hprofiles : desk'.credit.catalogue.profiles = desk.credit.catalogue.profiles.modify clientId
      (fun p => { p with status := if action = "approve" then "approved" else "rejected" }))
    (hfiles : desk'.files = desk.files.modify clientId (fun file =>
      if action = "approve" then { file with approvedByUserId := some caller.actorId }
      else file))

/-- An event that leaves profiles, files and borrowers. -/
theorem ClientChange.aside {e : OnboardingEvent}
    (hborrowers : desk'.borrowers.length = desk.borrowers.length)
    (hprofiles : desk'.credit.catalogue.profiles = desk.credit.catalogue.profiles)
    (hfiles : desk'.files = desk.files) : desk.ClientChange e desk' :=
  .kept hborrowers (by rw [hprofiles]) (by rw [hfiles])
    (fun i h => by rwa [profileStatus, hprofiles] at h) (fun i => by rw [approvedBy, hfiles]; rfl)

/-- A rewritten client: no status becomes an approval. -/
theorem rewriteClient_change {registry : Registry} {clientId : ℕ} {branchId : Option ℕ}
    {rewrite : ClientFile → ClientFile} {status : String → String} {e : OnboardingEvent}
    (hborrowers : registry.db.borrowers.length = desk.borrowers.length)
    (hrewrite : ∀ file, (rewrite file).approvedByUserId = file.approvedByUserId)
    (hstatus : ∀ s, status s = "approved" → s = "approved") :
    desk.ClientChange e (desk.rewriteClient registry clientId branchId rewrite status) := by
  refine .kept hborrowers (List.length_modify ..) (List.length_modify ..) (fun i h => ?_)
    fun i => ?_
  · simp only [profileStatus, rewriteClient, List.getElem?_modify] at h ⊢
    cases hrow : desk.credit.catalogue.profiles[i]? with
    | none => simp [hrow] at h
    | some p =>
      simp only [hrow, Option.map_eq_map, Option.map_some] at h ⊢
      split_ifs at h
      · exact congrArg some (hstatus _ (Option.some.inj h))
      · exact h
  · simp only [approvedBy, rewriteClient, List.getElem?_modify]
    cases desk.files[i]? with
    | none => rfl
    | some file =>
      simp only [Option.map_eq_map, Option.map_some, Option.bind_some]
      split_ifs
      · exact hrewrite file
      · rfl

/-- What any event does to the profiles. -/
theorem step_change (desk : OnboardingDesk) (e : OnboardingEvent) :
    desk.ClientChange e (desk.step e) := by
  have heffect := desk.step_effect e
  generalize desk.step e = desk' at heffect
  cases heffect with
  | refused => exact .aside rfl rfl rfl
  | credit event he =>
    obtain ⟨hcatalogue, -, hborrowers⟩ := desk.credit.step_clients event
    exact .aside hborrowers (by rw [hcatalogue]) rfl
  | products db catalogue hborrowers hloans hprofiles =>
    exact .aside (congrArg List.length hborrowers) hprofiles rfl
  | registered record status place file draws desk' hinserted hstatus =>
    obtain ⟨number, phone, -, hdb, hcatalogue, -, -, -, hfiles, -⟩ := insertClient_eq_ok hinserted
    exact .added status file (by simp [borrowers, hdb]) (by rw [hcatalogue]) hfiles hstatus
  | rewritten registry clientId branchId rewrite status hborrowers hloans hrewrite hstatus =>
    exact rewriteClient_change hborrowers hrewrite hstatus
  | surveyed clientId cycle =>
    refine .kept rfl (List.length_modify ..) rfl (fun i hi => ?_) fun i => rfl
    simp only [profileStatus, List.getElem?_modify] at hi ⊢
    cases hrow : desk.credit.catalogue.profiles[i]? with
    | none => simp [hrow] at hi
    | some p =>
      simp only [hrow, Option.map_eq_map, Option.map_some] at hi ⊢
      split_ifs at hi <;> exact hi
  | decided caller clientId action user tenantId he hauthority =>
    exact .decided caller clientId action user tenantId he hauthority rfl rfl rfl
  | leadAdded lead hverdict hfresh => exact .aside rfl rfl rfl
  | leadEdited leadId lead lead' hrow hsame => exact .aside rfl rfl rfl
  | leadDecided caller leadId verdict lead lead' user tenantId he hpermitted hrow hown hstatus hby
      hclient => exact .aside rfl rfl rfl
  | conversion caller crmEnabled leadId nationalId dateOfBirth draws decision now user tenantId
      lead record file onboarded he hpermitted hrow hown hverdict hfresh htenant hphone hinserted =>
    obtain ⟨number, phone, -, hdb, hcatalogue, -, -, -, hfiles, -⟩ := insertClient_eq_ok hinserted
    exact .added "draft" file (by simp [borrowers, hdb]) (by rw [hcatalogue]) hfiles
      fun hdraft => absurd hdraft (by decide)

theorem Aligned.step (h : desk.Aligned) (e : OnboardingEvent) : (desk.step e).Aligned := by
  cases desk.step_change e with
  | kept hborrowers hprofiles hfiles hstatus hby =>
    exact ⟨by rw [hprofiles, hborrowers, h.profiles], by rw [hfiles, hborrowers, h.files]⟩
  | added status file hborrowers hprofiles hfiles hstatus =>
    exact ⟨by simp [hprofiles, hborrowers, h.profiles], by simp [hfiles, hborrowers, h.files]⟩
  | decided caller clientId action user tenantId he hauthority hborrowers hprofiles hfiles =>
    exact ⟨by simp [hprofiles, hborrowers, h.profiles], by simp [hfiles, hborrowers, h.files]⟩

/-- The profile is approved, and names who approved it, if anybody. -/
def ApprovedAs (clientId : ℕ) (by_ : Option ℕ) (desk : OnboardingDesk) : Prop :=
  desk.profileStatus clientId = some "approved" ∧ desk.approvedBy clientId = by_

/-- The event approves the profile: it registers the client for a user who could have approved
it, or is the decision of a user with authority, whom the profile then names. -/
inductive Approves (clientId : ℕ) (by_ : Option ℕ) (desk : OnboardingDesk) : OnboardingEvent → Prop
  | registered {e : OnboardingEvent} (caller : Caller) (user : StaffedUser) (tenantId : ℕ)
    (hnew : clientId = desk.borrowers.length) (he : e.registration = some caller)
    (hself : desk.SelfApproving caller user tenantId) : Approves clientId by_ desk e
  | decided (caller : Caller) (user : StaffedUser) (tenantId : ℕ)
    (hauthority : desk.ClientAuthority caller clientId user tenantId)
    (hby : by_ = some caller.actorId) :
    Approves clientId by_ desk (.decideClient caller clientId "approve")

/-- An event under which a profile is approved approves it, or it was so before. -/
theorem approved_step {clientId : ℕ} {by_ : Option ℕ} (haligned : desk.Aligned)
    (e : OnboardingEvent) (h : ApprovedAs clientId by_ (desk.step e)) :
    ApprovedAs clientId by_ desk ∨ Approves clientId by_ desk e := by
  obtain ⟨hstatus', hby'⟩ := h
  have hchange := desk.step_change e
  generalize desk.step e = desk' at hchange hstatus' hby'
  cases hchange with
  | kept hborrowers hprofiles hfiles hstatus hby =>
    exact .inl ⟨hstatus clientId hstatus', (hby clientId).symm.trans hby'⟩
  | added status file hborrowers hprofiles hfiles hstatus =>
    rw [profileStatus, hprofiles, List.getElem?_append] at hstatus'
    split_ifs at hstatus' with hold
    · left
      refine ⟨hstatus', ?_⟩
      rw [← hby', approvedBy, approvedBy, hfiles,
        List.getElem?_append_left (by rw [haligned.files, ← haligned.profiles]; exact hold)]
    · right
      obtain ⟨p, hp, happroved⟩ := Option.map_eq_some_iff.mp hstatus'
      obtain ⟨hindex, hrow⟩ := List.getElem?_eq_some_iff.mp hp
      have hnew : clientId = desk.borrowers.length := by
        rw [← haligned.profiles]
        simp only [List.length_singleton] at hindex
        omega
      have hgiven : p.status = status := by
        rw [← hrow]
        simp
      obtain ⟨caller, user, tenantId, he, hself⟩ := hstatus (hgiven.symm.trans happroved)
      exact .registered caller user tenantId hnew he hself
  | decided caller decidedId action user tenantId he hauthority hborrowers hprofiles hfiles =>
    simp only [profileStatus, hprofiles, List.getElem?_modify] at hstatus'
    simp only [approvedBy, hfiles, List.getElem?_modify] at hby'
    by_cases hid : decidedId = clientId
    · subst hid
      obtain ⟨b, hb, -⟩ := hauthority.row
      have hlt := (List.getElem?_eq_some_iff.mp hb).1
      rw [List.getElem?_eq_getElem (haligned.profiles ▸ hlt)] at hstatus'
      rw [List.getElem?_eq_getElem (haligned.files ▸ hlt)] at hby'
      by_cases haction : action = "approve"
      · subst haction he
        right
        refine .decided caller user tenantId hauthority ?_
        simpa using hby'.symm
      · simp [haction] at hstatus'
    · left
      refine ⟨?_, ?_⟩
      · simpa [profileStatus, hid] using hstatus'
      · simpa [approvedBy, hid] using hby'

end OnboardingDesk

open OnboardingDesk in
/-- Over any run of registrations, updates, leads, decisions, access management and everything
that happens to loans and money: each client whose profile is approved had it approved at the
start, or was registered in the run by a user who may approve clients and is no front-line
officer, or was approved in a decision of the run by a user who then held the permission, whose
role approved clients at the tenant and who saw the client; and the client names that user
still. -/
theorem clients_approved_with_authority (desk : OnboardingDesk) (haligned : desk.Aligned)
    (events : List OnboardingEvent) (clientId : ℕ)
    (h : (run OnboardingDesk.step desk events).profileStatus clientId = some "approved") :
    let by_ := (run OnboardingDesk.step desk events).approvedBy clientId
    ApprovedAs clientId by_ desk ∨
      ∃ early e later, events = early ++ e :: later ∧
        Approves clientId by_ (run OnboardingDesk.step desk early) e :=
  origin_run (fun _ e hs => hs.step e) (fun _ e hs => approved_step hs e) haligned ⟨h, rfl⟩

/-- A branch with its manager and an officer, a client that waits for an approver, and a lead that
the manager let through. -/
def frontDesk : OnboardingDesk where
  credit := { branchDesk with
    access := { branchDesk.access with
      users := branchDesk.access.users ++ [⟨⟨"officer@dcp.example", "", "relationship_officer",
        some 1, true, false, false, 0, none, 0⟩, "Relationship Officer", some 0, some 0, none⟩] }
    catalogue := ⟨[⟨1, true, 100000, 5000000⟩], [⟨"pending_approval", []⟩]⟩
    clients := [⟨some 0, some 0⟩] }
  records := [⟨1, some "Amina", some "Kiptoo", some "254700000001", none, some "12345678", none,
    none⟩]
  files := [⟨some 0, none, "draft", none, false, none⟩]
  leads := [
    { tenantId := 1
      name := "Otieno Wekesa"
      phone := some "254711000000"
      sector := some "retail"
      regionId := some 0
      stage := "contacted"
      stageDetail := "warm"
      assignedStaffId := none
      estimatedLoanAmount := 1000000
      bmApprovalStatus := some .approved
      bmApprovedBy := some 0
      bmApprovedAt := some 0
      bmRejectionReason := none
      convertedToClientId := none
      conversionTriggeredAt := none
      conversionValidations := none }]

theorem frontDesk_client_approved : ∃ early e later,
    [OnboardingEvent.decideClient ⟨0, none⟩ 0 "approve"] = early ++ e :: later ∧
    OnboardingDesk.Approves 0 (some 0) (run OnboardingDesk.step frontDesk early) e := by
  obtain ⟨hstatus, -⟩ | happroved := clients_approved_with_authority frontDesk ⟨rfl, rfl⟩
    [.decideClient ⟨0, none⟩ 0 "approve"] 0 (by decide)
  · exact absurd hstatus (by decide)
  · exact happroved

end FinylDcp
