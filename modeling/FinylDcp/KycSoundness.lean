import FinylDcp.KycDecisions

/-!
# Soundness of the KYC decision

The decision against the checks that the tenant made mandatory and what the client's records say
of each.
-/
namespace FinylDcp
open FinylDcp.Calendar

/-- The switch of a check. -/
def TenantValidationPrefs.switch (p : TenantValidationPrefs) : KycCheck → Bool
  | .age => p.ageCheckMandatory
  | .mpesa => p.mpesaValidationMandatory
  | .face => p.faceValidationMandatory
  | .altPhone => p.altPhoneValidationMandatory
  | .crb => p.crbCheckMandatory
  | .guarantor => p.guarantorValidationMandatory
  | .ocr => p.ocrMandatory

/-- The preferences with one more check mandatory. -/
def TenantValidationPrefs.require (p : TenantValidationPrefs) : KycCheck → TenantValidationPrefs
  | .age => { p with ageCheckMandatory := true }
  | .mpesa => { p with mpesaValidationMandatory := true }
  | .face => { p with faceValidationMandatory := true }
  | .altPhone => { p with altPhoneValidationMandatory := true }
  | .crb => { p with crbCheckMandatory := true }
  | .guarantor => { p with guarantorValidationMandatory := true }
  | .ocr => { p with ocrMandatory := true }

/-- Without a row of its own a tenant has the defaults of the columns. -/
def Mandatory (prefs : Option TenantValidationPrefs) (check : KycCheck) : Prop :=
  (prefs.getD {}).switch check = true

instance (prefs : Option TenantValidationPrefs) (check : KycCheck) :
    Decidable (Mandatory prefs check) := inferInstanceAs (Decidable (_ = true))

/-- The eighteenth birthday has come. -/
def Adult (today dob : Date) : Prop :=
  dob.year + 18 < today.year ∨ dob.year + 18 = today.year ∧
    (dob.month < today.month ∨ dob.month = today.month ∧ dob.day ≤ today.day)

theorem adult_iff (today dob : Date) : 18 ≤ ageYears today dob ↔ Adult today dob := by
  simp only [ageYears, Adult]
  split <;> omega

section Client

variable (book : KycBook) (tenantId clientId : ℕ) (today : Date) (borrower : KycBorrower)

/-- The client's records satisfy a check. -/
def Satisfied : KycCheck → Prop
  | .age => ∃ dob, borrower.dateOfBirth = some dob ∧ Adult today dob
  | .mpesa => borrower.mpesaValidated = true
  | .face => ∃ f, book.latestFace tenantId clientId = some f ∧ f.result = .pass
  | .altPhone => borrower.altPhoneValidated = true
  | .crb => ∃ c, book.latestCrb tenantId clientId = some c ∧ c.status = some .ok
  | .guarantor => ∃ g ∈ book.guarantors, g.tenantId = tenantId ∧ g.clientId = clientId ∧
      g.kycStatus = "validated"
  | .ocr => ∃ d ∈ book.clientDocuments, d.tenantId = tenantId ∧ d.clientId = clientId ∧
      d.ocrApplied = true

/-- The latest face validation waits for a reviewer. -/
def UnderReview : Prop :=
  ∃ f, book.latestFace tenantId clientId = some f ∧ f.result = .manualReview

/-- The check is mandatory, and the client's records do not satisfy it. -/
def OpenItem (prefs : Option TenantValidationPrefs) (check : KycCheck) : Prop :=
  Mandatory prefs check ∧ ¬ Satisfied book tenantId clientId today borrower check

/-- The one open item is a face validation that waits for a reviewer. -/
def SoleReview (prefs : Option TenantValidationPrefs) : Prop :=
  UnderReview book tenantId clientId ∧
    ∀ check, OpenItem book tenantId clientId today borrower prefs check ↔ check = .face

/-- The decision is the one that the open items call for. -/
structure KycDecision.Right (prefs : Option TenantValidationPrefs) (d : KycDecision) : Prop where
  pass : d.decision = .pass ↔
    ∀ check, Mandatory prefs check → Satisfied book tenantId clientId today borrower check
  escalate : d.decision = .escalate ↔ SoleReview book tenantId clientId today borrower prefs
  fail : d.decision = .fail ↔ ¬ SoleReview book tenantId clientId today borrower prefs ∧
    ∃ check, OpenItem book tenantId clientId today borrower prefs check

end Client

/-- Of each client of the tenant a decision is returned, the right one; and what does not pass does
not pass with one more check mandatory. -/
structure KycSound (prefs : Option TenantValidationPrefs) (book : KycBook) (tenantId clientId : ℕ)
    (today : Date) : Prop where
  decides : ∀ borrower, book.client tenantId clientId = some borrower →
    ∃ d, evaluate prefs book tenantId clientId today = .ok d ∧
      d.Right book tenantId clientId today borrower prefs
  monotone : ∀ check d,
    evaluate (some ((prefs.getD {}).require check)) book tenantId clientId today = .ok d →
    d.decision = .pass →
      ∃ d', evaluate prefs book tenantId clientId today = .ok d' ∧ d'.decision = .pass

/-- The outcome fails the client. -/
def KycOutcome.hard (o : KycOutcome) : Bool := o.reason.any isHardFail

section Outcomes

variable {outcomes : List KycOutcome}

theorem hardFail_eq_nil :
    (outcomes.filterMap (·.reason)).filter isHardFail = [] ↔ ¬ ∃ o ∈ outcomes, o.hard = true := by
  simp only [List.filter_eq_nil_iff, List.mem_filterMap, KycOutcome.hard, Option.any_eq_true]
  constructor
  · rintro h ⟨o, ho, r, hr, hard⟩
    exact h r ⟨o, ho, hr⟩ hard
  · rintro h r ⟨o, ho, hr⟩ hard
    exact h ⟨o, ho, r, hr, hard⟩

theorem decideKyc_fail_iff :
    (decideKyc outcomes).decision = .fail ↔ ∃ o ∈ outcomes, o.hard = true := by
  rw [← not_iff_not, ← hardFail_eq_nil, decideKyc]
  split
  next h => simp [h]
  next h => split <;> simp [not_not.mp h]

theorem decideKyc_escalate_iff :
    (decideKyc outcomes).decision = .escalate ↔
      (¬ ∃ o ∈ outcomes, o.hard = true) ∧ ∃ o ∈ outcomes, o.escalate = true := by
  rw [← hardFail_eq_nil, decideKyc]
  split
  next h => simp [h]
  next h =>
    rw [and_iff_right (not_not.mp h), ← List.any_eq_true]
    split
    next hany => simp [hany]
    next hany => simp [hany]

end Outcomes

theorem ageOutcome_hard (today : Date) (borrower : KycBorrower) :
    (ageOutcome today borrower).hard = true ↔
      ¬ ∃ dob, borrower.dateOfBirth = some dob ∧ Adult today dob := by
  have hreason : isHardFail "age_below_18_or_unknown" = true := by decide
  simp only [← adult_iff]
  cases hdob : borrower.dateOfBirth with
  | none => simp [KycOutcome.hard, ageOutcome, hdob, hreason]
  | some dob => by_cases hage : 18 ≤ ageYears today dob <;>
      simp [KycOutcome.hard, ageOutcome, hdob, hage, hreason]

theorem flagOutcome_hard {name reason : String} (hreason : isHardFail reason = true) (ok : Bool) :
    (flagOutcome name reason ok).hard = true ↔ ¬ ok = true := by
  cases ok <;> simp [KycOutcome.hard, flagOutcome, hreason]

/-- Of a face validation the outcome reads the result alone. -/
theorem faceOutcome_some (f : FaceValidationLog) :
    faceOutcome (some f) = faceOutcome (some ⟨0, 0, f.result, 0⟩) := rfl

theorem faceOutcome_hard (fv : Option FaceValidationLog) :
    (faceOutcome fv).hard = true ↔
      ¬ (∃ f, fv = some f ∧ f.result = .pass) ∧ ¬ ∃ f, fv = some f ∧ f.result = .manualReview := by
  cases fv with
  | none => simpa using (by decide : (faceOutcome none).hard = true)
  | some f =>
    rw [faceOutcome_some]
    simp only [Option.some.injEq, exists_eq_left']
    cases f.result <;> decide

theorem faceOutcome_escalate (fv : Option FaceValidationLog) :
    (faceOutcome fv).escalate = true ↔ ∃ f, fv = some f ∧ f.result = .manualReview := by
  cases fv with
  | none => simpa using (by decide : (faceOutcome none).escalate = false)
  | some f =>
    rw [faceOutcome_some]
    simp only [Option.some.injEq, exists_eq_left']
    cases f.result <;> decide

section Evaluate

variable {prefs : Option TenantValidationPrefs} {book : KycBook} {tenantId clientId : ℕ}
  {today : Date} {borrower : KycBorrower}

/-- A mandatory check that fails the client: neither is it satisfied, nor does it wait for a
reviewer. The bureau and OCR are not among them. -/
def HardItem (book : KycBook) (tenantId clientId : ℕ) (today : Date) (borrower : KycBorrower)
    (prefs : Option TenantValidationPrefs) (check : KycCheck) : Prop :=
  check ≠ .crb ∧ check ≠ .ocr ∧ OpenItem book tenantId clientId today borrower prefs check ∧
    ¬ (check = .face ∧ UnderReview book tenantId clientId)

theorem mandatory_iff (check : KycCheck) :
    Mandatory prefs check ↔
      (prefs.map (·.switch check)).getD (({} : TenantValidationPrefs).switch check) = true := by
  cases prefs <;> rfl

theorem exists_check_iff {p : KycCheck → Prop} :
    (∃ check, p check) ↔ p .age ∨ p .mpesa ∨ p .face ∨ p .altPhone ∨ p .guarantor ∨ p .crb ∨
      p .ocr := by
  constructor
  · rintro ⟨check, h⟩
    cases check <;> simp [h]
  · rintro (h | h | h | h | h | h | h) <;> exact ⟨_, h⟩

theorem exists_ran_iff {p : KycOutcome → Prop} {runs : List (Bool × KycOutcome)} :
    (∃ o ∈ (runs.filter (·.1)).map (·.2), p o) ↔ ∃ r ∈ runs, r.1 = true ∧ p r.2 := by
  simp only [List.mem_map, List.mem_filter]
  constructor
  · rintro ⟨_, ⟨r, ⟨hr, hrun⟩, rfl⟩, hp⟩
    exact ⟨r, hr, hrun, hp⟩
  · rintro ⟨r, hr, hrun, hp⟩
    exact ⟨r.2, ⟨r, ⟨hr, hrun⟩, rfl⟩, hp⟩

theorem guaranteed_iff (today : Date) (borrower : KycBorrower) :
    book.guaranteed tenantId clientId = true ↔
      Satisfied book tenantId clientId today borrower .guarantor := by
  simp only [KycBook.guaranteed, Satisfied, List.any_eq_true, decide_eq_true_eq]

/-- Some outcome of the run fails the client exactly when a mandatory check does. -/
theorem exists_hard_iff :
    (∃ o ∈ ((kycRuns prefs book tenantId clientId today borrower).filter (·.1)).map (·.2),
        o.hard = true) ↔
      ∃ check, HardItem book tenantId clientId today borrower prefs check := by
  have hflag : isHardFail "mpesa_not_validated" = true ∧
      isHardFail "alt_phone_not_validated" = true ∧
      isHardFail "guarantor_not_validated" = true := by decide
  rw [exists_ran_iff, exists_check_iff]
  simp only [kycRuns, List.exists_mem_cons_iff, List.not_mem_nil, false_and, exists_false, or_false,
    mpesaOutcome, altPhoneOutcome, guarantorOutcome, ageOutcome_hard, faceOutcome_hard,
    flagOutcome_hard hflag.1, flagOutcome_hard hflag.2.1, flagOutcome_hard hflag.2.2,
    guaranteed_iff today borrower]
  simp only [HardItem, OpenItem, mandatory_iff, UnderReview, Satisfied,
    TenantValidationPrefs.switch,
    ne_eq, reduceCtorEq, not_false_eq_true, not_true_eq_false, true_and, false_and, and_true,
    or_false, and_assoc]

/-- A reviewer is asked for exactly when the face check is mandatory and waits for one. -/
theorem exists_escalate_iff :
    (∃ o ∈ ((kycRuns prefs book tenantId clientId today borrower).filter (·.1)).map (·.2),
        o.escalate = true) ↔ Mandatory prefs .face ∧ UnderReview book tenantId clientId := by
  rw [exists_ran_iff]
  simp [kycRuns, ageOutcome, mpesaOutcome, altPhoneOutcome, guarantorOutcome, flagOutcome,
    faceOutcome_escalate, mandatory_iff, UnderReview, TenantValidationPrefs.switch]

theorem SoleReview.mandatory_face
    (h : SoleReview book tenantId clientId today borrower prefs) : Mandatory prefs .face :=
  ((h.2 .face).mpr rfl).1

/-- What waits for a reviewer has not passed. -/
theorem UnderReview.not_satisfied (h : UnderReview book tenantId clientId) :
    ¬ Satisfied book tenantId clientId today borrower .face := by
  rintro ⟨f, hf, hpass⟩
  obtain ⟨g, hg, hreview⟩ := h
  rw [hf] at hg
  cases hg
  rw [hpass] at hreview
  cases hreview

/-- The decision on a client of the tenant, when the bureau is not asked. -/
theorem evaluate_eq (today : Date) (hclient : book.client tenantId clientId = some borrower)
    (hcrb : ¬ Mandatory prefs .crb) :
    ∃ d, evaluate prefs book tenantId clientId today = .ok d ∧
      (d.decision = .fail ↔ ∃ check, HardItem book tenantId clientId today borrower prefs check) ∧
      (d.decision = .escalate ↔
        (¬ ∃ check, HardItem book tenantId clientId today borrower prefs check) ∧
          Mandatory prefs .face ∧ UnderReview book tenantId clientId) := by
  have hreq : ¬ (prefs.map (·.crbCheckMandatory)).getD false = true :=
    mt (mandatory_iff .crb).mpr hcrb
  refine ⟨_, by rw [evaluate, hclient]; exact if_neg hreq, ?_, ?_⟩
  · rw [decideKyc_fail_iff, exists_hard_iff]
  · rw [decideKyc_escalate_iff, exists_hard_iff, exists_escalate_iff]

theorem evaluate_crb (hclient : book.client tenantId clientId = some borrower)
    (hcrb : Mandatory prefs .crb) :
    evaluate prefs book tenantId clientId today = .error noBorrowerId := by
  rw [evaluate, hclient]
  exact if_pos ((mandatory_iff .crb).mp hcrb)

theorem evaluate_unknown (hclient : book.client tenantId clientId = none) :
    evaluate prefs book tenantId clientId today = .ok ⟨.fail, ["client_not_found"], []⟩ := by
  rw [evaluate, hclient]
  rfl

/-- A mandatory check that is open fails the client, unless it is the bureau's, OCR or a face
validation that waits for a reviewer. -/
theorem OpenItem.cases {check : KycCheck}
    (h : OpenItem book tenantId clientId today borrower prefs check) :
    HardItem book tenantId clientId today borrower prefs check ∨ check = .crb ∨ check = .ocr ∨
      check = .face ∧ UnderReview book tenantId clientId := by
  by_cases hcrb : check = .crb
  · exact .inr (.inl hcrb)
  by_cases hocr : check = .ocr
  · exact .inr (.inr (.inl hocr))
  by_cases hreview : check = .face ∧ UnderReview book tenantId clientId
  · exact .inr (.inr (.inr hreview))
  · exact .inl ⟨hcrb, hocr, h, hreview⟩

/-- The decision passes exactly when the bureau is not asked and all mandatory checks but OCR are
satisfied. -/
theorem evaluate_pass_iff :
    (∃ d, evaluate prefs book tenantId clientId today = .ok d ∧ d.decision = .pass) ↔
      ∃ borrower, book.client tenantId clientId = some borrower ∧ ¬ Mandatory prefs .crb ∧
        ∀ check, OpenItem book tenantId clientId today borrower prefs check → check = .ocr := by
  cases hclient : book.client tenantId clientId with
  | none => simp [evaluate_unknown hclient]
  | some borrower =>
    simp only [Option.some.injEq, exists_eq_left']
    by_cases hcrb : Mandatory prefs .crb
    · simp [evaluate_crb hclient hcrb, hcrb]
    · obtain ⟨d, hd, hfail, hescalate⟩ := evaluate_eq today hclient hcrb
      simp only [hd, Except.ok.injEq, exists_eq_left', hcrb, not_false_eq_true, true_and]
      constructor
      · intro hpass check hopen
        rw [hpass] at hfail hescalate
        obtain hhard | rfl | hocr | ⟨rfl, hreview⟩ := hopen.cases
        · cases hfail.mpr ⟨check, hhard⟩
        · exact absurd hopen.1 hcrb
        · exact hocr
        · by_cases hhard : ∃ check, HardItem book tenantId clientId today borrower prefs check
          · cases hfail.mpr hhard
          · cases hescalate.mpr ⟨hhard, hopen.1, hreview⟩
      · intro hall
        cases hdec : d.decision with
        | pass => rfl
        | fail =>
          obtain ⟨check, hcheck⟩ := hfail.mp hdec
          exact absurd (hall check hcheck.2.2.1) hcheck.2.1
        | escalate =>
          obtain ⟨-, hface, hreview⟩ := hescalate.mp hdec
          cases hall .face ⟨hface, hreview.not_satisfied⟩

theorem Mandatory.require {check : KycCheck} (h : Mandatory prefs check) (added : KycCheck) :
    Mandatory (some ((prefs.getD {}).require added)) check := by
  simp only [Mandatory, Option.getD_some] at h ⊢
  cases added <;> cases check <;> first | rfl | exact h

/-- With one more check mandatory no more clients pass. -/
theorem evaluate_require {added : KycCheck}
    (h : ∃ d, evaluate (some ((prefs.getD {}).require added)) book tenantId clientId today = .ok d ∧
      d.decision = .pass) :
    ∃ d, evaluate prefs book tenantId clientId today = .ok d ∧ d.decision = .pass := by
  obtain ⟨borrower, hclient, hcrb, hall⟩ := evaluate_pass_iff.mp h
  exact evaluate_pass_iff.mpr ⟨borrower, hclient, fun hold => hcrb (hold.require added),
    fun check hopen => hall check ⟨hopen.1.require added, hopen.2⟩⟩

/-- The decision is right when the bureau is not asked and OCR does not decide. -/
theorem right_of_ready (hclient : book.client tenantId clientId = some borrower)
    (hcrb : ¬ Mandatory prefs .crb)
    (hocr : OpenItem book tenantId clientId today borrower prefs .ocr →
      ∃ check, HardItem book tenantId clientId today borrower prefs check) :
    ∃ d, evaluate prefs book tenantId clientId today = .ok d ∧
      d.Right book tenantId clientId today borrower prefs := by
  obtain ⟨d, hd, hfail, hescalate⟩ := evaluate_eq today hclient hcrb
  have hescalate' : d.decision = .escalate ↔
      SoleReview book tenantId clientId today borrower prefs := by
    rw [hescalate]
    constructor
    · rintro ⟨hhard, hface, hreview⟩
      refine ⟨hreview, fun check => ⟨fun hopen => ?_, ?_⟩⟩
      · obtain hitem | rfl | rfl | ⟨hcheck, -⟩ := hopen.cases
        · exact absurd ⟨check, hitem⟩ hhard
        · exact absurd hopen.1 hcrb
        · exact absurd (hocr hopen) hhard
        · exact hcheck
      · rintro rfl
        exact ⟨hface, hreview.not_satisfied⟩
    · intro hsole
      refine ⟨?_, hsole.mandatory_face, hsole.1⟩
      rintro ⟨check, hitem⟩
      exact hitem.2.2.2 ⟨(hsole.2 check).mp hitem.2.2.1, hsole.1⟩
  have hfail' : d.decision = .fail ↔
      ¬ SoleReview book tenantId clientId today borrower prefs ∧
        ∃ check, OpenItem book tenantId clientId today borrower prefs check := by
    constructor
    · intro hdec
      obtain ⟨check, hitem⟩ := hfail.mp hdec
      refine ⟨fun hsole => ?_, check, hitem.2.2.1⟩
      rw [← hescalate', hdec] at hsole
      cases hsole
    · rintro ⟨hsole, check, hopen⟩
      rw [hfail]
      by_contra hhard
      obtain hitem | rfl | rfl | ⟨rfl, hreview⟩ := hopen.cases
      · exact hhard ⟨check, hitem⟩
      · exact hcrb hopen.1
      · exact hhard (hocr hopen)
      · exact hsole (hescalate'.mp (hescalate.mpr ⟨hhard, hopen.1, hreview⟩))
  refine ⟨d, hd, ⟨?_, hescalate', hfail'⟩⟩
  have hclosed : (∀ check, Mandatory prefs check →
      Satisfied book tenantId clientId today borrower check) ↔
      ¬ ∃ check, OpenItem book tenantId clientId today borrower prefs check := by
    simp only [OpenItem, not_exists, not_and, not_not]
  rw [hclosed]
  constructor
  · rintro hpass hopen
    by_cases hsole : SoleReview book tenantId clientId today borrower prefs
    · cases hpass.symm.trans (hescalate'.mpr hsole)
    · cases hpass.symm.trans (hfail'.mpr ⟨hsole, hopen⟩)
  · intro hnone
    cases hdec : d.decision with
    | pass => rfl
    | fail => exact absurd (hfail'.mp hdec).2 hnone
    | escalate =>
      have hsole := hescalate'.mp hdec
      exact absurd ⟨.face, (hsole.2 .face).mpr rfl⟩ hnone

end Evaluate

/-- Decisions are right and monotone for a client exactly when the bureau's check is not mandatory
and OCR, where it is mandatory, is satisfied or comes with another check that fails the client. -/
theorem kyc_sound_iff (prefs : Option TenantValidationPrefs) (book : KycBook)
    (tenantId clientId : ℕ) (today : Date) :
    KycSound prefs book tenantId clientId today ↔
      ∀ borrower, book.client tenantId clientId = some borrower →
        ¬ Mandatory prefs .crb ∧
          (Mandatory prefs .ocr → Satisfied book tenantId clientId today borrower .ocr ∨
            ∃ check, HardItem book tenantId clientId today borrower prefs check) := by
  constructor
  · intro h borrower hclient
    obtain ⟨d, hd, hright⟩ := h.decides borrower hclient
    have hcrb : ¬ Mandatory prefs .crb := by
      intro hcrb
      rw [evaluate_crb hclient hcrb] at hd
      cases hd
    refine ⟨hcrb, fun hocr => or_iff_not_imp_left.mpr fun hopen => ?_⟩
    obtain ⟨d', hd', hfail, -⟩ := evaluate_eq today hclient hcrb
    rw [hd] at hd'
    cases hd'
    refine hfail.mp (hright.fail.mpr ⟨fun hsole => ?_, .ocr, hocr, hopen⟩)
    cases (hsole.2 .ocr).mp ⟨hocr, hopen⟩
  · intro h
    refine ⟨fun borrower hclient => ?_, fun added d hd hpass => evaluate_require ⟨d, hd, hpass⟩⟩
    obtain ⟨hcrb, hocr⟩ := h borrower hclient
    refine right_of_ready hclient hcrb fun hopen => ?_
    exact (hocr hopen.1).resolve_left hopen.2

/-- A client of age and with a validated wallet, whose one bureau enquiry came to an error. -/
def unscoredClient : KycBook where
  borrowers := [⟨1, some (date 1990 5 4), true, false⟩]
  faceValidationLogs := []
  crbChecks := [⟨1, 0, some .error⟩]
  guarantors := []
  clientDocuments := [⟨1, 0, true⟩]

/-- With the bureau's check mandatory no decision is returned. -/
theorem crb_decision_fails :
    ¬ KycSound (some { crbCheckMandatory := true }) unscoredClient 1 0
      (date 2026 7 1) := by
  intro h
  obtain ⟨d, hd, -⟩ := h.decides _ rfl
  cases hd

end FinylDcp
