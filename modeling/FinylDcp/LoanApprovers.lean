import FinylDcp.LoanApprovals

/-!
# Approvers and their queue

Who can be made an approver of loans, whatever a tenant configures, and that the queue which an
approver is shown is exactly what the approver can decide on.
-/
namespace FinylDcp
open Db Runs Tables

/-- A role that a tenant can make an approver, or that is one by default: it holds the permission
in the catalogue, without the overrides of the tenant, and is not the front line. -/
def CanApprove (approvalType role : String) : Prop :=
  role ≠ "relationship_officer" ∧
    (approvalTypePermission approvalType).any (fun perm => hasPermission role perm) = true

theorem canApprove_of_eligible {approvalType role : String}
    (h : role ∈ eligibleApproverRoles approvalType) : CanApprove approvalType role := by
  unfold eligibleApproverRoles at h
  unfold CanApprove
  cases hperm : approvalTypePermission approvalType with
  | none => simp [hperm] at h
  | some perm =>
    rw [hperm] at h
    have hrole := (List.mem_filter.mp h).2
    simp only [Bool.and_eq_true, decide_eq_true_eq] at hrole
    exact ⟨hrole.1.1.2, hrole.2⟩

/-- Only eligible roles have a row among the approvers. -/
def AccessDesk.ApproversEligible (desk : AccessDesk) : Prop :=
  ∀ row ∈ desk.settings.rows, row.role ∈ eligibleApproverRoles row.approvalType

theorem AccessDesk.ApproversEligible.step {desk : AccessDesk} (h : desk.ApproversEligible)
    (call : AccessCall) : (desk.step call).ApproversEligible := by
  obtain hsame | ⟨actor, tenantId, -, -, -, hhandle⟩ := desk.step_cases call
  · rw [hsame]
    exact h
  have hchange := handle_change hhandle
  generalize desk.step call = desk' at hchange
  cases hchange with
  | approver row htenant hrole =>
    intro r hr
    obtain rfl | hold := of_mem_upsert hr
    · exact hrole
    · exact h r hold
  | _ => exact h

theorem AccessDesk.ApproversEligible.canApprove {desk : AccessDesk} (h : desk.ApproversEligible)
    {tenantId : ℕ} {approvalType role : String}
    (henabled : approverEnabled desk.settings.rows tenantId approvalType role = true) :
    role = "super_admin" ∨ CanApprove approvalType role := by
  unfold approverEnabled at henabled
  split at henabled
  · rename_i hadmin
    exact .inl hadmin
  right
  split at henabled
  · rename_i row hrow
    have hkey := List.find?_some hrow
    simp only [Bool.and_eq_true, decide_eq_true_eq] at hkey
    obtain ⟨⟨-, rfl⟩, rfl⟩ := hkey
    exact canApprove_of_eligible (h row (List.mem_of_find?_eq_some hrow))
  · simpa [defaultApproverEnabled, CanApprove] using henabled

theorem CreditDesk.access_step (desk : CreditDesk) (event : CreditEvent) :
    (desk.step event).access = desk.access ∨
      ∃ call, event = .access call ∧ (desk.step event).access = desk.access.step call := by
  cases event with
  | access call => exact .inr ⟨call, rfl, rfl⟩
  | apply caller lendingEnabled body requestedStaffId year =>
    left
    simp only [step]
    cases h : desk.applyAs caller lendingEnabled body requestedStaffId year with
    | ok desk' =>
      obtain ⟨⟨user, tenantId⟩, -, h⟩ := bind_eq_ok.mp h
      obtain ⟨⟨db, id⟩, -, h⟩ := bind_eq_ok.mp h
      obtain rfl := Except.ok.inj h
      rfl
    | error failure => rfl
  | reassign caller lendingEnabled loanId staffId =>
    left
    simp only [step]
    cases h : desk.reassignAs caller lendingEnabled loanId staffId with
    | ok desk' =>
      obtain ⟨⟨user, tenantId⟩, -, h⟩ := bind_eq_ok.mp h
      dsimp only at h
      split at h
      · obtain ⟨-, -, h⟩ := bind_eq_ok.mp h
        obtain ⟨-, -, h⟩ := bind_eq_ok.mp h
        obtain rfl := Except.ok.inj h
        rfl
      · cases h
    | error failure => rfl
  | decide caller loanId action =>
    left
    simp only [step, decideAs]
    split
    · rfl
    split <;> rfl
  | life e =>
    left
    simp only [step]
    split <;> rfl

/-- Whatever the tenants configure over a run, and whatever permissions they give to their roles:
only the six roles that hold the permission in the catalogue approve loans, so that no front-line
officer and no role of a tenant's own ever does. -/
theorem only_approvers_approve (desk : CreditDesk) (hstart : desk.access.ApproversEligible)
    (events : List CreditEvent) {caller : Caller} {loanId tenantId : ℕ} {loan : Loan}
    {user : StaffedUser}
    (h : (run CreditDesk.step desk events).Authorised caller loanId loan user tenantId) :
    user.account.role ∈ ["super_admin", "tenant_admin", "branch_manager", "regional_manager",
      "hq_credit_committee", "director"] := by
  have heligible : (run CreditDesk.step desk events).access.ApproversEligible := by
    refine @invariant_run_of_step _ _ CreditDesk.step (fun d => d.access.ApproversEligible)
      (fun d event hd => ?_) _ events hstart
    obtain hsame | ⟨call, -, hcall⟩ := d.access_step event
    · rw [hsame]
      exact hd
    · rw [hcall]
      exact hd.step call
  obtain hadmin | ⟨-, hholds⟩ := heligible.canApprove h.approver
  · simp [hadmin]
  have hholds : hasPermission user.account.role "loans.approve" = true := hholds
  generalize user.account.role = role at hholds
  unfold hasPermission rolePermissions at hholds
  split at hholds
  all_goals try decide
  all_goals exact absurd hholds (by decide)

/-- The branch with a super admin and a system administrator of the tenant. -/
def configuredDesk : CreditDesk := { branchDesk with
  access := { branchDesk.access with
    users := branchDesk.access.users ++ [
      ⟨⟨"root@finyl.example", "", "super_admin", none, true, false, false, 0, none, 0⟩,
        "Super Admin", none, none, none⟩,
      ⟨⟨"admin@dcp.example", "", "system_admin", some 1, true, false, false, 0, none, 0⟩,
        "System Administrator", none, none, none⟩] } }

/-- The super admin gives the tenant a role of its own that may approve loans, and the system
administrator turns the branch managers on as approvers and raises their limit. -/
def configuration : List CreditEvent :=
  [.access ⟨1, some 1, .createRole "field_lead" "Field lead"⟩,
    .access ⟨1, some 1, .setRolePermission "field_lead" "loans.approve" true⟩,
    .access ⟨2, none, .setOwnApprover "loan" "branch_manager" true⟩,
    .access ⟨2, none, .upsertOwnThreshold "role" "branch_manager" "loan_approval" 6000000⟩]

theorem only_approvers_approve_configured :
    (run CreditDesk.step configuredDesk configuration).access.customRoles.rows =
      [⟨1, "field_lead", "Field lead"⟩] ∧
    (run CreditDesk.step configuredDesk configuration).access.settings.rows =
      [⟨1, "loan", "branch_manager", true⟩] ∧
    "branch_manager" ∈ ["super_admin", "tenant_admin", "branch_manager", "regional_manager",
      "hq_credit_committee", "director"] := by
  have hsigned : (run CreditDesk.step configuredDesk configuration).Authorised ⟨0, none⟩ 0
      waitingApplication
      ⟨⟨"manager@dcp.example", "", "branch_manager", some 1, true, false, false, 0, none, 0⟩,
        "Branch Manager", none, some 0, none⟩ 1 := by
    refine ⟨rfl, rfl, .inr (by decide), rfl, rfl, rfl, fun placement hplacement => ?_,
      fun most hmost => ?_⟩
    · obtain rfl := Option.some.inj hplacement
      rfl
    · obtain rfl := Option.some.inj hmost
      decide
  exact ⟨by decide, by decide, only_approvers_approve configuredDesk
    (fun row hrow => absurd hrow List.not_mem_nil) configuration hsigned⟩

/-- The next level above a role: of the enabled tiers that are higher the lowest, where none is
higher the highest, and without enabled tiers that of the fixed ladder. -/
structure NextLevel (settings : List ApproverSetting) (tenantId : ℕ) (role level : String) :
    Prop where
  ladder : enabledLoanTiers settings tenantId = [] → level = (escalationLadder role).getD "hq"
  lowest : ∀ tier ∈ enabledLoanTiers settings tenantId, tierOf role < tierOf tier.1 →
    ∃ next ∈ enabledLoanTiers settings tenantId, level = next.2 ∧ tierOf role < tierOf next.1 ∧
      tierOf next.1 ≤ tierOf tier.1
  highest : (∀ tier ∈ enabledLoanTiers settings tenantId, tierOf tier.1 ≤ tierOf role) →
    ∀ tier ∈ enabledLoanTiers settings tenantId,
      ∃ next ∈ enabledLoanTiers settings tenantId, level = next.2 ∧ tierOf tier.1 ≤ tierOf next.1

theorem enabledLoanTiers_sorted (settings : List ApproverSetting) (tenantId : ℕ) :
    (enabledLoanTiers settings tenantId).Pairwise (fun a b => tierOf a.1 < tierOf b.1) := by
  have hall : loanTiers.Pairwise (fun a b => tierOf a.1 < tierOf b.1) := by decide
  exact hall.filter _

theorem nextEscalationLevel_spec (settings : List ApproverSetting) (tenantId : ℕ) (role : String) :
    NextLevel settings tenantId role (nextEscalationLevel settings tenantId role) := by
  have hsorted := enabledLoanTiers_sorted settings tenantId
  unfold nextEscalationLevel
  generalize htiers : enabledLoanTiers settings tenantId = tiers at hsorted ⊢
  split
  · rename_i hnone
    obtain rfl := List.getLast?_eq_none_iff.mp hnone
    exact ⟨fun _ => rfl, by simp [htiers], by simp [htiers]⟩
  rename_i highest hlast
  obtain ⟨below, rfl⟩ := List.getLast?_eq_some_iff.mp hlast
  split
  · rename_i next hnext
    obtain ⟨habove, early, late, hsplit, hearly⟩ := List.find?_eq_some_iff_append.mp hnext
    have hmem : next ∈ below ++ [highest] := by simp [hsplit]
    simp only [decide_eq_true_eq, Bool.not_eq_true', decide_eq_false_iff_not,
      not_lt] at habove hearly
    refine ⟨by simp [htiers], fun tier htier hhigher => ?_, fun hall => ?_⟩
    · rw [htiers] at htier ⊢
      refine ⟨next, hmem, rfl, habove, ?_⟩
      rw [hsplit, List.mem_append, List.mem_cons] at htier
      obtain hin | rfl | hin := htier
      · exact absurd hhigher (not_lt.mpr (hearly tier hin))
      · exact le_refl _
      · rw [hsplit, List.pairwise_append, List.pairwise_cons] at hsorted
        exact (hsorted.2.1.1 tier hin).le
    · exact absurd (hall next (htiers ▸ hmem)) (not_le.mpr habove)
  · rename_i hnone
    rw [List.find?_eq_none] at hnone
    refine ⟨by simp [htiers], fun tier htier hhigher => ?_, fun _ tier htier => ?_⟩
    · exact absurd hhigher (by simpa using hnone tier (htiers ▸ htier))
    · rw [htiers] at htier ⊢
      refine ⟨highest, by simp, rfl, ?_⟩
      obtain hin | hin := List.mem_append.mp htier
      · exact ((List.pairwise_append.mp hsorted).2.2 tier hin highest (by simp)).le
      · rw [List.mem_singleton.mp hin]

theorem UserScope.applyLoan_eq (scope : UserScope) (loan : LoanPlacement) :
    scope.applyLoan loan = scope.canSeeLoan loan := by
  unfold applyLoan canSeeLoan canSee
  cases scope.staffId with
  | none => rfl
  | some staffId => cases loan.staffId <;> simp

namespace CreditDesk

variable {desk : CreditDesk}

/-- A loan of the queue: one of the tenant that waits and that the user sees. -/
theorem mem_pendingLoans {caller : Caller} {user : StaffedUser} {tenantId : ℕ}
    {rows : List QueuedLoan}
    (hlogged : desk.authorise caller [] "loans.approve" = .ok (user, tenantId))
    (hqueue : desk.pendingLoans caller = .ok rows) {q : QueuedLoan} :
    q ∈ rows ↔ ∃ loan placement, loanRow desk.db tenantId q.loanId = some loan ∧
      loan.status.undecided = true ∧ desk.placements[q.loanId]? = some placement ∧
      (desk.scope user).canSeeLoan placement = true ∧
      q.approvalLimit = loanApprovalLimit desk.access.thresholds.rows tenantId user ∧
      q.overLimit = q.approvalLimit.any (fun most => most < loan.principal) := by
  simp only [pendingLoans, hlogged] at hqueue
  obtain rfl := Except.ok.inj hqueue
  simp only [List.mem_map, List.mem_filter, List.mem_reverse, List.mem_range, Bool.and_eq_true]
  constructor
  · rintro ⟨loanId, ⟨hlt, hwaits, hsees⟩, rfl⟩
    obtain ⟨loan, hloan, hundecided⟩ := (Option.any_eq_true _ _).mp hwaits
    obtain ⟨placement, hplacement, hsees⟩ := (Option.any_eq_true _ _).mp hsees
    refine ⟨loan, placement, hloan, ?_, hplacement, ?_, rfl, ?_⟩
    · simp only [Bool.or_eq_true, decide_eq_true_eq] at hundecided
      obtain h | h := hundecided <;> rw [h] <;> rfl
    · rwa [UserScope.applyLoan_eq] at hsees
    · simp [(loanRow_eq_some hloan).1]
  · rintro ⟨loan, placement, hloan, hundecided, hplacement, hsees, hlimit, hover⟩
    obtain ⟨hrow, -⟩ := loanRow_eq_some hloan
    refine ⟨q.loanId, ⟨(List.getElem?_eq_some_iff.mp hrow).1, ?_, ?_⟩, ?_⟩
    · cases hstatus : loan.status <;> simp [hloan, hstatus, LoanStatus.undecided] at hundecided ⊢
    · rw [hplacement, Option.any_some, UserScope.applyLoan_eq, hsees]
    · obtain ⟨loanId, approvalLimit, overLimit⟩ := q
      simp only at hrow hlimit hover ⊢
      rw [← hlimit, hover, hrow]
      simp

section Outcomes

variable {caller : Caller} {user : StaffedUser} {tenantId loanId : ℕ} {action : String}
  {placement : LoanPlacement}

theorem decideAs_ok {db : Db}
    (hlogged : desk.authorise caller [] "loans.approve" = .ok (user, tenantId))
    (hplacement : desk.placements[loanId]? = some placement)
    (h : decideLoan desk.db tenantId loanId (desk.decider user tenantId placement) action =
      .ok db) :
    (desk.decideAs caller loanId action).2 = .ok () ∧
      (desk.decideAs caller loanId action).1.db = db := by
  simp [decideAs, hlogged, hplacement, h]

theorem decideAs_over {detail : String}
    (hlogged : desk.authorise caller [] "loans.approve" = .ok (user, tenantId))
    (hplacement : desk.placements[loanId]? = some placement)
    (h : decideLoan desk.db tenantId loanId (desk.decider user tenantId placement) action =
      .error (.http 409 detail)) :
    desk.decideAs caller loanId action =
      ({ desk with placements := desk.placements.set loanId { placement with
        escalationLevel := (desk.decider user tenantId placement).nextLevel } },
        .error (.http 409 detail)) := by
  simp [decideAs, hlogged, hplacement, h]

theorem decideAs_refused {status : ℕ} {detail : String} (hstatus : status ≠ 409)
    (hlogged : desk.authorise caller [] "loans.approve" = .ok (user, tenantId))
    (hplacement : (desk.placements[loanId]?).getD ⟨none, none, none, none⟩ = placement)
    (h : decideLoan desk.db tenantId loanId (desk.decider user tenantId placement) action =
      .error (.http status detail)) :
    desk.decideAs caller loanId action = (desk, .error (.http status detail)) := by
  simp [decideAs, hlogged, hplacement, h, hstatus]

end Outcomes

theorem loanDecision_over {loan : Loan} {decider : LoanDecider} {action : String} {most : ℤ}
    (hsees : decider.seesLoan = true) (hundecided : loan.status.undecided = true)
    (happrover : decider.approver = true) (hreject : action ≠ "reject")
    (hescalate : action ≠ "escalate") (hlimit : decider.limit = some most)
    (hover : most < loan.principal) :
    ∃ detail, loanDecision loan decider action = .error (.http 409 detail) := by
  have hsome : decider.limit.filter (fun limit => limit < loan.principal) = some most := by
    rw [Option.filter_eq_some_iff]
    exact ⟨hlimit, by simpa using hover⟩
  simp [loanDecision, hsees, hundecided, happrover, hreject, hescalate, hsome]

theorem loanDecision_within {loan : Loan} {decider : LoanDecider} {action : String}
    (hsees : decider.seesLoan = true) (hundecided : loan.status.undecided = true)
    (happrover : decider.approver = true) (hreject : action ≠ "reject")
    (hescalate : action ≠ "escalate") (hlimit : ∀ most ∈ decider.limit, loan.principal ≤ most) :
    loanDecision loan decider action = .ok (some .approved) := by
  have hnone : decider.limit.filter (fun limit => limit < loan.principal) = none := by
    rw [Option.filter_eq_none_iff]
    simpa using hlimit
  simp [loanDecision, hsees, hundecided, happrover, hreject, hescalate, hnone]

section Queue

variable {caller : Caller} {rows : List QueuedLoan} {user : StaffedUser} {tenantId : ℕ}
  (hlogged : desk.authorise caller [] "loans.approve" = .ok (user, tenantId))
  (hqueue : desk.pendingLoans caller = .ok rows)
include hlogged hqueue

/-- The latest application stands first. -/
theorem pendingLoans_descending : (rows.map QueuedLoan.loanId).Pairwise (· > ·) := by
  simp only [pendingLoans, hlogged] at hqueue
  obtain rfl := Except.ok.inj hqueue
  rw [List.map_map]
  refine List.Pairwise.map _ (fun _ _ h => h) (List.Pairwise.filter _ ?_)
  exact List.pairwise_reverse.mpr List.pairwise_lt_range

/-- What is not in the queue is not there, not in the scope of the user or decided already. -/
theorem unqueued_refused (hplaced : desk.Placed) {loanId : ℕ} {action : String}
    (hnot : loanId ∉ rows.map QueuedLoan.loanId) :
    ∃ failure, desk.decideAs caller loanId action = (desk, .error failure) := by
  cases hloan : loanRow desk.db tenantId loanId with
  | none =>
    refine ⟨_, @decideAs_refused _ _ _ _ _ _ _ 404 "Loan not found" (by decide) hlogged rfl ?_⟩
    rw [decideLoan_eq, hloan]
  | some loan =>
    have hlt : loanId < desk.placements.length :=
      hplaced ▸ (List.getElem?_eq_some_iff.mp (loanRow_eq_some hloan).1).1
    have hplacement := List.getElem?_eq_getElem hlt
    have hgiven : (desk.placements[loanId]?).getD ⟨none, none, none, none⟩ =
        desk.placements[loanId] := by rw [hplacement]; rfl
    by_cases hsees : (desk.scope user).canSeeLoan desk.placements[loanId] = true
    swap
    · refine ⟨_, @decideAs_refused _ _ _ _ _ _ _ 403 "Loan is outside your scope"
        (by decide) hlogged hgiven ?_⟩
      simp only [decideLoan_eq, hloan, loanDecision, decider, hsees, Except.bind]
      rfl
    by_cases hundecided : loan.status.undecided = true
    swap
    · refine ⟨_, @decideAs_refused _ _ _ _ _ _ _ 400
        s!"Loan is '{loan.status.label}' and cannot be decided" (by decide) hlogged hgiven ?_⟩
      simp only [decideLoan_eq, hloan, loanDecision, decider, hsees, hundecided, Except.bind]
      rfl
    let q : QueuedLoan := ⟨loanId, loanApprovalLimit desk.access.thresholds.rows tenantId user,
      (loanApprovalLimit desk.access.thresholds.rows tenantId user).any
        (fun most => most < loan.principal)⟩
    have hq : q ∈ rows := by
      rw [mem_pendingLoans hlogged hqueue]
      exact ⟨loan, _, hloan, hundecided, hplacement, hsees, rfl, rfl⟩
    exact absurd (List.mem_map.mpr ⟨q, hq, rfl⟩) hnot

variable {q : QueuedLoan} {action : String} (hq : q ∈ rows) (happrover : approverEnabled
  desk.access.settings.rows tenantId "loan" user.account.role = true)
  (hreject : action ≠ "reject") (hescalate : action ≠ "escalate")
include hq happrover hreject hescalate

/-- A loan that the queue marks goes to the next level. -/
theorem queued_over (hmarked : q.overLimit = true) :
    (∃ detail, (desk.decideAs caller q.loanId action).2 = .error (.http 409 detail)) ∧
      (desk.decideAs caller q.loanId action).1.db = desk.db ∧
      ∃ level, ((desk.decideAs caller q.loanId action).1.placements[q.loanId]?).bind
          (·.escalationLevel) = some level ∧
        NextLevel desk.access.settings.rows tenantId user.account.role level := by
  obtain ⟨loan, placement, hloan, hundecided, hplacement, hsees, hlimit, hover⟩ :=
    (mem_pendingLoans hlogged hqueue).mp hq
  have hlt := (List.getElem?_eq_some_iff.mp hplacement).1
  rw [hlimit] at hover
  obtain ⟨most, hmost, hmore⟩ := (Option.any_eq_true _ _).mp (hover ▸ hmarked)
  obtain ⟨detail, hdecision⟩ := @loanDecision_over loan (desk.decider user tenantId placement)
    action most hsees hundecided happrover hreject hescalate hmost (by simpa using hmore)
  have hout := @decideAs_over desk _ _ _ _ action _ detail hlogged hplacement (by
    rw [decideLoan_eq, hloan]
    simp only [hdecision]
    rfl)
  refine ⟨⟨detail, by rw [hout]⟩, by rw [hout],
    nextEscalationLevel desk.access.settings.rows tenantId user.account.role, ?_,
    nextEscalationLevel_spec _ _ _⟩
  rw [hout]
  simp [hlt, decider]

/-- A loan that the queue does not mark is approved. -/
theorem queued_within (hindexed : desk.db.indexed = true) (hmarked : ¬ q.overLimit = true) :
    (desk.decideAs caller q.loanId action).2 = .ok () ∧
      ((desk.decideAs caller q.loanId action).1.db.loans[q.loanId]?).map (·.status) =
        some .approved := by
  obtain ⟨loan, placement, hloan, hundecided, hplacement, hsees, hlimit, hover⟩ :=
    (mem_pendingLoans hlogged hqueue).mp hq
  have hrow := (loanRow_eq_some hloan).1
  rw [hlimit] at hover
  have hwithin : ∀ most ∈ (desk.decider user tenantId placement).limit,
      loan.principal ≤ most := by
    simp only [hover, Bool.not_eq_true, Option.any_eq_false, decide_eq_false_iff_not,
      not_lt] at hmarked
    exact hmarked
  have hdecision := @loanDecision_within loan (desk.decider user tenantId placement) action
    hsees hundecided happrover hreject hescalate hwithin
  have hout := @decideAs_ok desk _ _ _ _ action _ _ hlogged hplacement (by
    rw [decideLoan_eq, hloan]
    simp only [hdecision]
    exact Db.commit_eq_ok.mpr ⟨hindexed, rfl⟩)
  refine ⟨hout.1, ?_⟩
  rw [hout.2]
  simp [Db.updateLoan, hrow]

end Queue

/-- The queue of an approver agrees with the decisions. What is not in it cannot be decided: the
request is refused and nothing changes. What is in it a user whose role approves loans there can
approve exactly where the queue does not mark it; where it does, the approval is refused and the
loan goes to the next level. -/
theorem queue_agrees (hplaced : desk.Placed) (hindexed : desk.db.indexed = true) {caller : Caller}
    {rows : List QueuedLoan} (hqueue : desk.pendingLoans caller = .ok rows) :
    (rows.map QueuedLoan.loanId).Pairwise (· > ·) ∧
    (∀ loanId action, loanId ∉ rows.map QueuedLoan.loanId →
      ∃ failure, desk.decideAs caller loanId action = (desk, .error failure)) ∧
    ∃ user tenantId, desk.authorise caller [] "loans.approve" = .ok (user, tenantId) ∧
      (approverEnabled desk.access.settings.rows tenantId "loan" user.account.role = true →
        ∀ q ∈ rows, ∀ action, action ≠ "reject" → action ≠ "escalate" →
          let out := desk.decideAs caller q.loanId action
          if q.overLimit then
            (∃ detail, out.2 = .error (.http 409 detail)) ∧ out.1.db = desk.db ∧
              ∃ level, (out.1.placements[q.loanId]?).bind (·.escalationLevel) = some level ∧
                NextLevel desk.access.settings.rows tenantId user.account.role level
          else out.2 = .ok () ∧ (out.1.db.loans[q.loanId]?).map (·.status) = some .approved) := by
  obtain ⟨⟨user, tenantId⟩, hlogged, -⟩ := bind_eq_ok.mp hqueue
  refine ⟨pendingLoans_descending hlogged hqueue,
    fun loanId action hnot => unqueued_refused hlogged hqueue hplaced hnot, user, tenantId, hlogged,
    fun happrover q hq action hreject hescalate => ?_⟩
  split
  · rename_i hmarked
    exact queued_over hlogged hqueue hq happrover hreject hescalate hmarked
  · rename_i hmarked
    exact queued_within hlogged hqueue hq happrover hreject hescalate hindexed hmarked

/-- The branch with three applications: one of the manager's size, one beyond it and one that is
decided. -/
def queueDesk : CreditDesk := { branchDesk with
  db := { branchDesk.db with loans := [waitingApplication,
    { waitingApplication with principal := 6000000 },
    { waitingApplication with status := .approved }] }
  placements := List.replicate 3 ⟨none, some 0, none, none⟩ }

theorem queue_agrees_with_manager :
    queueDesk.pendingLoans ⟨0, none⟩ = .ok [⟨1, some 5000000, true⟩, ⟨0, some 5000000, false⟩] ∧
    (queueDesk.decideAs ⟨0, none⟩ 0 "approve").2 = .ok () ∧
    (∃ detail, (queueDesk.decideAs ⟨0, none⟩ 1 "approve").2 = .error (.http 409 detail)) ∧
    ∃ failure, queueDesk.decideAs ⟨0, none⟩ 2 "approve" = (queueDesk, .error failure) := by
  have hqueue : queueDesk.pendingLoans ⟨0, none⟩ =
      .ok [⟨1, some 5000000, true⟩, ⟨0, some 5000000, false⟩] := rfl
  obtain ⟨-, hothers, user, tenantId, hlogged, hqueued⟩ :=
    @queue_agrees queueDesk rfl rfl _ _ hqueue
  obtain ⟨rfl, rfl⟩ := Prod.mk.inj (Except.ok.inj hlogged)
  have hwithin := hqueued rfl ⟨0, some 5000000, false⟩ (by decide) "approve" (by decide) (by decide)
  have hover := hqueued rfl ⟨1, some 5000000, true⟩ (by decide) "approve" (by decide) (by decide)
  exact ⟨hqueue, hwithin.1, hover.1, hothers 2 "approve" (by decide)⟩

end CreditDesk

end FinylDcp
