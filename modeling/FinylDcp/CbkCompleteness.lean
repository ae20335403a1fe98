import FinylDcp.CbkSubmissions

/-!
# Completeness of the monthly submissions

The job passes a tenant over as soon as anything is logged for the month. That is right for a
tenant whose five datasets have gone through, and for no other.
-/
namespace FinylDcp
open FinylDcp.Calendar FinylDcp.Runs FinylDcp.Traces

/-- The names under which a dataset is logged. -/
def Dataset.names (key : Dataset) : List String := [key.label, key.label ++ " (Nil)"]

/-- A result or a row says that the dataset was submitted. -/
def DatasetResult.delivers (key : Dataset) (r : DatasetResult) : Prop :=
  r.name ∈ key.names ∧ r.status = "submitted"

/-- The log has the dataset of the tenant's month as submitted. -/
def Submitted (logs : List CbkSubmissionLog) (tenantId : ℕ) (month : Date) (key : Dataset) :
    Prop :=
  ∃ row ∈ logs, row.tenantId = tenantId ∧ row.reportingMonth = month ∧
    row.datasetName ∈ key.names ∧ row.status = "submitted"

instance (logs : List CbkSubmissionLog) (tenantId : ℕ) (month : Date) (key : Dataset) :
    Decidable (Submitted logs tenantId month key) :=
  inferInstanceAs (Decidable (∃ row ∈ logs, row.tenantId = tenantId ∧ row.reportingMonth = month ∧
    row.datasetName ∈ key.names ∧ row.status = "submitted"))

/-- One of the visits submitted the dataset for the tenant. -/
def VisitDelivers (visits : List TenantVisit) (tenantId : ℕ) (key : Dataset) : Prop :=
  ∃ visit ∈ visits, visit.tenantId = tenantId ∧ ∃ r ∈ visit.results, r.delivers key

/-- The bank has taken the dataset of the tenant's month. -/
def Delivered (events : List CbkEvent) (tenantId : ℕ) (month : Date) (key : Dataset) : Prop :=
  ∃ e ∈ cbkTrace events, e.2.month = month ∧ VisitDelivers e.2.visits tenantId key

section Logs

variable {tenantId tid : ℕ} {month reportingMonth : Date} {key : Dataset}

theorem submitted_append (logs rows : List CbkSubmissionLog) :
    Submitted (logs ++ rows) tenantId month key ↔
      Submitted logs tenantId month key ∨ Submitted rows tenantId month key := by
  simp only [Submitted, List.mem_append, or_and_right, exists_or]

theorem logged_append (logs rows : List CbkSubmissionLog) :
    logged (logs ++ rows) tenantId month =
      (logged logs tenantId month || logged rows tenantId month) := by
  simp [logged]

/-- The log row of a dataset says what its result says. -/
theorem submitted_datasetLog (submittedBy : Option ℕ) (outcome : Dataset → DatasetOutcome)
    (k : Dataset) :
    Submitted [datasetLog tid reportingMonth submittedBy outcome k] tenantId month key ↔
      tid = tenantId ∧ reportingMonth = month ∧
        ∃ r ∈ (datasetResult outcome k).toList, r.delivers key := by
  simp only [Submitted, datasetLog, datasetResult, DatasetResult.delivers, List.mem_singleton,
    exists_eq_left]
  cases outcome k <;> simp

theorem logged_datasetLog (submittedBy : Option ℕ) (outcome : Dataset → DatasetOutcome)
    (k : Dataset) :
    logged [datasetLog tid reportingMonth submittedBy outcome k] tenantId month =
      (tid = tenantId && reportingMonth = month) := by
  simp only [logged, datasetLog, List.any_cons, List.any_nil, Bool.or_false]
  cases outcome k <;> rfl

/-- The datasets that a submission delivers are those that its log rows add. -/
theorem submitted_submitDatasets (submittedBy : Option ℕ) (outcome : Dataset → DatasetOutcome)
    (keys : List Dataset) (logs : List CbkSubmissionLog) :
    Submitted (submitDatasets tid reportingMonth submittedBy outcome logs keys).2 tenantId month
        key ↔
      Submitted logs tenantId month key ∨ (tid = tenantId ∧ reportingMonth = month ∧
        ∃ r ∈ (submitDatasets tid reportingMonth submittedBy outcome logs keys).1,
          r.delivers key) := by
  induction keys generalizing logs with
  | nil => simp [submitDatasets]
  | cons k keys ih =>
    simp only [submitDatasets]
    split
    · simp only [ih, submitted_append, submitted_datasetLog, List.mem_append, or_and_right,
        exists_or]
      rw [or_assoc, and_or_left, and_or_left]
    · simp only [submitted_append, submitted_datasetLog]

/-- A submission leaves something logged for its tenant and month, and nothing new for
others. -/
theorem logged_submitDatasets (submittedBy : Option ℕ) (outcome : Dataset → DatasetOutcome)
    (keys : List Dataset) (logs : List CbkSubmissionLog) (hother : tid ≠ tenantId) :
    logged (submitDatasets tid reportingMonth submittedBy outcome logs keys).2 tenantId month =
      logged logs tenantId month := by
  induction keys generalizing logs with
  | nil => rfl
  | cons k keys ih =>
    have hrow : logged (logs ++ [datasetLog tid reportingMonth submittedBy outcome k]) tenantId
        month = logged logs tenantId month := by
      simp [logged_append, logged_datasetLog, hother]
    simp only [submitDatasets]
    split
    · exact (ih _).trans hrow
    · exact hrow

theorem submitted_nilSubmission (submittedBy : Option ℕ) (k : Dataset) (outcome : DatasetOutcome)
    (logs : List CbkSubmissionLog) :
    Submitted (nilSubmission logs tid reportingMonth submittedBy k outcome).2 tenantId month
        key ↔
      Submitted logs tenantId month key ∨ (tid = tenantId ∧ reportingMonth = month ∧
        ∃ r ∈ (nilSubmission logs tid reportingMonth submittedBy k outcome).1,
          r.delivers key) := by
  cases outcome <;> simp [nilSubmission, Submitted, DatasetResult.delivers]

/-- The same for the visits of a tick. -/
theorem submitted_visitTenants (outcome : ℕ → Dataset → DatasetOutcome) (tids : List ℕ)
    (logs : List CbkSubmissionLog) :
    Submitted (visitTenants reportingMonth outcome logs tids).2 tenantId month key ↔
      Submitted logs tenantId month key ∨ (reportingMonth = month ∧
        VisitDelivers (visitTenants reportingMonth outcome logs tids).1 tenantId key) := by
  induction tids generalizing logs with
  | nil => simp [visitTenants, VisitDelivers]
  | cons t tids ih =>
    simp only [visitTenants]
    split
    · simp only [ih, VisitDelivers, List.exists_mem_cons_iff, List.not_mem_nil, false_and,
        exists_false, and_false, false_or]
    · simp only [ih, runMonthlySubmission, submitted_submitDatasets, VisitDelivers,
        List.exists_mem_cons_iff]
      rw [or_assoc, and_or_left, and_left_comm]

theorem tenant_of_visit {visit : TenantVisit} (outcome : ℕ → Dataset → DatasetOutcome)
    {tids : List ℕ} (logs : List CbkSubmissionLog)
    (h : visit ∈ (visitTenants month outcome logs tids).1) : visit.tenantId ∈ tids := by
  induction tids generalizing logs with
  | nil => nomatch h
  | cons t tids ih =>
    simp only [visitTenants] at h
    split at h
    · obtain rfl | h := List.mem_cons.mp h
      · exact List.mem_cons_self
      · exact List.mem_cons_of_mem _ (ih logs h)
    · obtain rfl | h := List.mem_cons.mp h
      · exact List.mem_cons_self
      · exact List.mem_cons_of_mem _ (ih _ h)

/-- A tick submits for the tenants that have nothing logged, and passes the others over. -/
theorem visited_iff (outcome : ℕ → Dataset → DatasetOutcome) {tids : List ℕ}
    (hnodup : tids.Nodup) (logs : List CbkSubmissionLog) (htid : tid ∈ tids) :
    (∃ results, ⟨tid, false, results⟩ ∈ (visitTenants month outcome logs tids).1) ↔
      logged logs tid month = false := by
  induction tids generalizing logs with
  | nil => nomatch htid
  | cons t tids ih =>
    rw [List.nodup_cons] at hnodup
    simp only [visitTenants]
    by_cases hfirst : t = tid
    · subst hfirst
      split
      · next hlogged =>
        refine iff_of_false ?_ (by rw [hlogged]; nofun)
        rintro ⟨results, hvisit⟩
        obtain heq | hvisit := List.mem_cons.mp hvisit
        · nomatch heq
        · exact hnodup.1 (tenant_of_visit outcome logs hvisit)
      · next hlogged =>
        exact iff_of_true ⟨_, List.mem_cons_self⟩ (Bool.eq_false_iff.mpr hlogged)
    · have hmem : tid ∈ tids := (List.mem_cons.mp htid).resolve_left (Ne.symm hfirst)
      have hrest : ∀ (visit : TenantVisit) (visits : List TenantVisit), visit.tenantId = t →
          ((∃ results, ⟨tid, false, results⟩ ∈ visit :: visits) ↔
            ∃ results, ⟨tid, false, results⟩ ∈ visits) := by
        rintro visit visits rfl
        refine exists_congr fun results => List.mem_cons.trans (or_iff_right ?_)
        rintro rfl
        exact hfirst rfl
      split
      · rw [hrest _ _ rfl]
        exact ih hnodup.2 logs hmem
      · rw [hrest _ _ rfl, ih hnodup.2 _ hmem]
        exact Eq.congr_left (logged_submitDatasets none (outcome t) datasetSequence logs hfirst)

end Logs

/-- What an event adds to the submitted datasets is what its visits deliver. -/
theorem submitted_step (logs : List CbkSubmissionLog) (event : CbkEvent) (tenantId : ℕ)
    (month : Date) (key : Dataset) :
    Submitted (after cbkStep logs event) tenantId month key ↔
      Submitted logs tenantId month key ∨ ((cbkStep logs event).1.month = month ∧
        VisitDelivers (cbkStep logs event).1.visits tenantId key) := by
  cases event with
  | tick today enabled outcome =>
    simp only [after, cbkStep, runCbkMonthlyGdiSubmit]
    split
    · exact submitted_visitTenants outcome enabled.ids logs
    · simp [VisitDelivers]
  | submit tid reportingMonth userId outcome =>
    simp only [after, cbkStep, runMonthlySubmission, submitted_submitDatasets, VisitDelivers,
      List.mem_singleton, exists_eq_left]
    rw [and_left_comm]
  | nil tid reportingMonth userId k outcome =>
    simp only [after, cbkStep, submitted_nilSubmission, VisitDelivers, List.mem_singleton,
      exists_eq_left]
    rw [and_left_comm]

/-- The log shows as submitted what the bank has taken. -/
theorem submitted_iff_delivered (events : List CbkEvent) (tenantId : ℕ) (month : Date)
    (key : Dataset) :
    Submitted (cbkLogs events) tenantId month key ↔ Delivered events tenantId month key := by
  induction events using List.reverseRecOn with
  | nil => simp [Submitted, Delivered, trace]
  | append_singleton events event ih =>
    have htrace : cbkTrace (events ++ [event]) =
        cbkTrace events ++ [(event, (cbkStep (cbkLogs events) event).1)] := trace_concat _ _ _ _
    rw [cbkLogs, run_concat, submitted_step, ih, Delivered, Delivered, htrace]
    simp only [List.mem_append, List.mem_singleton, or_and_right, exists_or, exists_eq_left]

/-- In the window, every tenant with the module is submitted for unless its five datasets of
the month before have been delivered. -/
def SkipsOnlyFiled (events : List CbkEvent) : Prop :=
  ∀ early today enabled outcome later,
    events = early ++ .tick today enabled outcome :: later → inFilingWindow today = true →
    ∀ tid ∈ enabled.ids,
      (∃ results, ⟨tid, false, results⟩ ∈
        (cbkStep (cbkLogs early) (.tick today enabled outcome)).1.visits) ∨
      ∀ key, Delivered early tid (lastMonth today) key

/-- At a tick in the window, a tenant that has anything logged for the month before has its
five datasets logged as submitted. -/
def LoggedMeansFiled (logs : List CbkSubmissionLog) : CbkEvent → Prop
  | .tick today enabled _ =>
    inFilingWindow today = true → ∀ tid ∈ enabled.ids, logged logs tid (lastMonth today) = true →
      ∀ key, Submitted logs tid (lastMonth today) key
  | _ => True

/-- The job passes over only filed tenants exactly when whatever is logged for a tenant's month
at a tick is a complete submission. -/
theorem skips_only_filed (events : List CbkEvent) :
    SkipsOnlyFiled events ↔ AllSteps (after cbkStep) LoggedMeansFiled [] events := by
  rw [allSteps_iff_split]
  have htick : ∀ early today (enabled : EnabledTenants) outcome tid,
      inFilingWindow today = true → tid ∈ enabled.ids →
      ((∃ results, ⟨tid, false, results⟩ ∈
        (cbkStep (cbkLogs early) (.tick today enabled outcome)).1.visits) ↔
          logged (cbkLogs early) tid (lastMonth today) = false) := by
    intro early today enabled outcome tid hwindow htid
    simp only [cbkStep, runCbkMonthlyGdiSubmit, hwindow, if_true]
    exact visited_iff outcome enabled.nodup (cbkLogs early) htid
  constructor
  · rintro h early event later rfl
    cases event with
    | submit tid reportingMonth userId outcome => trivial
    | nil tid reportingMonth userId k outcome => trivial
    | tick today enabled outcome =>
      intro hwindow tid htid hlogged key
      obtain hvisited | hfiled := h early today enabled outcome later rfl hwindow tid htid
      · rw [htick early today enabled outcome tid hwindow htid, hlogged] at hvisited
        nomatch hvisited
      · exact (submitted_iff_delivered early tid _ key).mpr (hfiled key)
  · rintro h early today enabled outcome later rfl hwindow tid htid
    rw [htick early today enabled outcome tid hwindow htid]
    by_cases hlogged : logged (cbkLogs early) tid (lastMonth today) = true
    · right
      intro key
      exact (submitted_iff_delivered early tid _ key).mp
        (h early _ later rfl hwindow tid htid hlogged key)
    · exact .inl (Bool.eq_false_iff.mpr hlogged)

/-- The bank is down on Thursday, 5 February 2026, and up on Friday. -/
def februaryTicks : List CbkEvent :=
  [.tick (date 2026 2 5) ⟨[1], by decide⟩ (fun _ _ => .failed 3 "timed out"),
    .tick (date 2026 2 6) ⟨[1], by decide⟩ (fun _ _ => .answered 3 200 none)]

/-- The job passes the tenant over on Friday, with none of its datasets submitted. -/
theorem failed_month_skipped : ¬ SkipsOnlyFiled februaryTicks := by
  intro h
  obtain ⟨results, hvisited⟩ | hfiled := h (februaryTicks.take 1) _ _ _ [] rfl (by decide)
    1 (by decide)
  · have hvisits : (cbkStep (cbkLogs (februaryTicks.take 1)) (.tick
        (date 2026 2 6) ⟨[1], by decide⟩
        (fun _ _ => .answered 3 200 none))).1.visits = [⟨1, true, []⟩] := by
      decide
    rw [hvisits] at hvisited
    nomatch hvisited
  · have hsubmitted := (submitted_iff_delivered _ _ _ _).mpr (hfiled .customer)
    exact absurd hsubmitted (by decide)

end FinylDcp
