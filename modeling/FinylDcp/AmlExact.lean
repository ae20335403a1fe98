import FinylDcp.AmlScan
import Mathlib.Data.List.Dedup

/-!
# What the AML scan flags

The scan against the definition of its three patterns as windows of time that hold enough
payments, or enough money.
-/
namespace FinylDcp
open FinylDcp.Windows

/-- The payments of a tenant on a loan. -/
def AmlBook.paymentsOn (b : AmlBook) (tenantId loanId : ℕ) : List AmlRepayment :=
  b.repayments.filter (fun r => r.tenantId = tenantId ∧ r.loanId = loanId)

/-- At least `n` of the payments fall within some window of a length. -/
def SomeWithin (n : ℕ) (span : ℤ) (payments : List AmlRepayment) : Prop :=
  ∃ t, n ≤ payments.countP (fun r => t ≤ r.paymentDate ∧ r.paymentDate ≤ t + span)

/-- The pattern that a type of flag stands for. -/
def AmlFlagType.Pattern (payments : List AmlRepayment) : AmlFlagType → Prop
  | .structuring =>
    SomeWithin 3 (hours 48) (payments.filter (fun r => 800000 ≤ r.amount ∧ r.amount < 1000000))
  | .rapidSmallRepayments =>
    SomeWithin 5 (hours 24) (payments.filter (fun r => r.amount < 200000))
  | .velocity =>
    ∃ t, 10000000 < windowTotal AmlRepayment.paymentDate AmlRepayment.amount (hours 24) payments t

/-- The loan has a flag of the type from before. -/
def AmlBook.Flagged (b : AmlBook) (tenantId loanId : ℕ) (rule : AmlFlagType) : Prop :=
  ∃ f ∈ b.flags, f.tenantId = tenantId ∧ f.key = (loanId, rule)

/-- The scan flags on the loan just what matches a pattern and had no flag, and a second scan
flags nothing more on it. -/
structure AmlExact (b : AmlBook) (tenantId loanId : ℕ) (now : ℤ) : Prop where
  flags : ∀ rule, ¬ b.Flagged tenantId loanId rule →
    ((∃ f ∈ b.scan tenantId now, f.key = (loanId, rule)) ↔
      rule.Pattern (b.paymentsOn tenantId loanId))
  again : ∀ later, ∀ f ∈ (b.afterScan tenantId now).scan tenantId later, f.loanId ≠ loanId

section Added

variable {s : ScanState} {fs : List AmlFlag} {k : ℕ × AmlFlagType}

/-- Of each loan and type that had no flag, a flag is added if one was found. -/
theorem exists_created_addFlags :
    (∃ f ∈ (fs.foldl ScanState.addFlag s).created, f.key = k) ↔
      (∃ f ∈ s.created, f.key = k) ∨ k ∉ s.existing ∧ ∃ f ∈ fs, f.key = k := by
  induction fs generalizing s with
  | nil => simp
  | cons f fs ih =>
    rw [List.foldl_cons, ih, ScanState.addFlag]
    by_cases hmem : f.key ∈ s.existing
    · rw [if_pos hmem, List.exists_mem_cons_iff]
      refine or_congr_right (and_congr_right fun hk => (or_iff_right ?_).symm)
      rintro rfl
      exact hk hmem
    · have hlast : (∃ g ∈ s.created ++ [f], g.key = k) ↔ (∃ g ∈ s.created, g.key = k) ∨
          f.key = k := by
        simp [or_and_right, exists_or]
      rw [if_neg hmem, hlast, List.exists_mem_cons_iff, List.mem_cons]
      by_cases hk : f.key = k
      · subst hk
        simp [hmem]
      · have hne : k ≠ f.key := Ne.symm hk
        simp only [hk, hne, or_false, false_or]

theorem mem_of_mem_created_addFlags {f : AmlFlag}
    (h : f ∈ (fs.foldl ScanState.addFlag s).created) : f ∈ s.created ∨ f ∈ fs := by
  induction fs generalizing s with
  | nil => exact .inl h
  | cons g fs ih =>
    obtain hs | hfs := ih h
    · rw [ScanState.addFlag] at hs
      split at hs
      next => exact .inl hs
      next =>
        obtain hs | hg := List.mem_append.mp hs
        · exact .inl hs
        · exact .inr (List.mem_cons.mpr (.inl (List.mem_singleton.mp hg)))
    · exact .inr (List.mem_cons_of_mem _ hfs)

end Added

/-- The row of a repayment. -/
def AmlBook.row (b : AmlBook) (r : AmlRepayment) : AmlRow :=
  ⟨r.loanId, b.loans.getD r.loanId 0, r.amount, r.paymentDate⟩

theorem AmlBook.rows_perm (b : AmlBook) (tenantId : ℕ) :
    (b.rows tenantId).Perm
      ((b.repayments.filter (fun r => r.tenantId = tenantId)).map b.row) := by
  refine (List.perm_insertionSort _ _).trans (.of_eq ?_)
  rw [← List.filterMap_eq_map]
  refine List.filterMap_congr fun r hr => ?_
  have hlt := b.loans_known r (List.mem_of_mem_filter hr)
  rw [Function.comp_apply, AmlBook.row, List.getElem?_eq_getElem hlt,
    List.getD_eq_getElem _ _ hlt, Option.map_some]

theorem AmlBook.group_perm (b : AmlBook) (tenantId loanId : ℕ) :
    (group (b.rows tenantId) loanId).Perm ((b.paymentsOn tenantId loanId).map b.row) := by
  refine (List.perm_insertionSort _ _).trans (((b.rows_perm tenantId).filter _).trans (.of_eq ?_))
  rw [List.filter_map, List.filter_filter, AmlBook.paymentsOn]
  congr 1
  refine List.filter_congr fun r _ => ?_
  simp [AmlBook.row, Bool.and_comm]

/-- Enough of the selected rows come close to one another exactly when a window holds as many
of them. -/
theorem closeDates_iff (rows : List AmlRow) (n : ℕ) (span : ℤ) :
    (n + 1 ≤ rows.length ∧ closeRun n span (sortedDates rows) = true) ↔
      ∃ t, n + 1 ≤ rows.countP (fun x => t ≤ x.paymentDate ∧ x.paymentDate ≤ t + span) := by
  have hsorted : (sortedDates rows).Pairwise (· ≤ ·) := List.pairwise_insertionSort _ _
  have hcount : ∀ t, (sortedDates rows).countP (fun x => t ≤ x ∧ x ≤ t + span) =
      rows.countP (fun x => t ≤ x.paymentDate ∧ x.paymentDate ≤ t + span) := by
    intro t
    rw [sortedDates, (List.perm_insertionSort _ _).countP_eq, List.countP_map]
    rfl
  rw [closeRun_iff hsorted]
  simp only [hcount, Nat.succ_le_iff]
  constructor
  · exact fun h => h.2
  · rintro ⟨t, ht⟩
    exact ⟨ht.trans_le List.countP_le_length, t, ht⟩

theorem structuring_iff (grp : List AmlRow) :
    (structuringDetails grp).isSome ↔ ∃ t, 3 ≤ (grp.filter inStructuringRange).countP
      (fun x => t ≤ x.paymentDate ∧ x.paymentDate ≤ t + hours 48) := by
  rw [← closeDates_iff (grp.filter inStructuringRange) 2, structuringDetails]
  split <;> simp_all

theorem rapid_iff (grp : List AmlRow) :
    (rapidDetails grp).isSome ↔ ∃ t, 5 ≤ (grp.filter isSmall).countP
      (fun x => t ≤ x.paymentDate ∧ x.paymentDate ≤ t + hours 24) := by
  rw [← closeDates_iff (grp.filter isSmall) 4, rapidDetails]
  split <;> simp_all

theorem velocity_iff (grp : List AmlRow) :
    (velocityDetails grp).isSome ↔ 2 ≤ grp.length ∧
      ∃ t, 10000000 < windowTotal AmlRow.paymentDate AmlRow.amount (hours 24) grp t := by
  rw [← exists_windowTotal_iff, velocityDetails]
  by_cases hlen : 2 ≤ grp.length
  · rw [if_pos hlen, Option.isSome_map, List.find?_isSome, and_iff_right hlen]
    exact exists_congr fun x => and_congr_right fun _ => decide_eq_true_iff
  · simp [hlen]

/-- The flags that the scan goes through. -/
def AmlBook.found (b : AmlBook) (tenantId : ℕ) (now : ℤ) : List AmlFlag :=
  (groupKeys (b.rows tenantId)).flatMap (fun loanId =>
    amlRules.filterMap (foundFlag tenantId now loanId (group (b.rows tenantId) loanId)))

/-- The flags of the tenant, by loan and type, as the scan reads them. -/
def AmlBook.existing (b : AmlBook) (tenantId : ℕ) : List (ℕ × AmlFlagType) :=
  (b.flags.filter (fun f => f.tenantId = tenantId)).map (·.key)

section Book

variable {b : AmlBook} {tenantId loanId : ℕ} {now : ℤ} {rule : AmlFlagType}

theorem AmlBook.scan_eq :
    b.scan tenantId now =
      ((b.found tenantId now).foldl ScanState.addFlag ⟨b.existing tenantId, []⟩).created := by
  rw [AmlBook.found, List.foldl_flatMap]
  rfl

theorem AmlBook.mem_existing : (loanId, rule) ∈ b.existing tenantId ↔
    b.Flagged tenantId loanId rule := by
  simp only [AmlBook.existing, AmlBook.Flagged, List.mem_map, List.mem_filter, decide_eq_true_eq,
    and_assoc]

theorem details_nil (rule : AmlFlagType) : rule.details [] = none := by
  cases rule <;> rfl

theorem mem_amlRules (rule : AmlFlagType) : rule ∈ amlRules := by
  cases rule <;> decide

theorem foundFlag_key {grp : List AmlRow} {f : AmlFlag}
    (h : foundFlag tenantId now loanId grp rule = some f) :
    f.tenantId = tenantId ∧ f.key = (loanId, rule) := by
  obtain ⟨details, -, rfl⟩ := Option.map_eq_some_iff.mp h
  exact ⟨rfl, rfl⟩

/-- A flag is found on a loan when the rule finds its pattern in the loan's group. -/
theorem AmlBook.exists_found :
    (∃ f ∈ b.found tenantId now, f.key = (loanId, rule)) ↔
      (rule.details (group (b.rows tenantId) loanId)).isSome := by
  constructor
  · rintro ⟨f, hf, hkey⟩
    obtain ⟨id, -, hf⟩ := List.mem_flatMap.mp hf
    obtain ⟨rule', -, hsome⟩ := List.mem_filterMap.mp hf
    obtain ⟨rfl, rfl⟩ := Prod.mk.inj ((foundFlag_key hsome).2.symm.trans hkey)
    obtain ⟨details, hdetails, -⟩ := Option.map_eq_some_iff.mp hsome
    exact Option.isSome_of_eq_some hdetails
  · intro h
    obtain ⟨details, hdetails⟩ := Option.isSome_iff_exists.mp h
    have hkey : loanId ∈ groupKeys (b.rows tenantId) := by
      have hne : group (b.rows tenantId) loanId ≠ [] := by
        intro hnil
        rw [hnil, details_nil] at hdetails
        cases hdetails
      obtain ⟨x, hx⟩ := List.exists_mem_of_ne_nil _ hne
      obtain ⟨hx, hid⟩ := List.mem_filter.mp ((List.perm_insertionSort _ _).mem_iff.mp hx)
      rw [groupKeys, (List.perm_insertionSort _ _).mem_iff, List.mem_dedup]
      exact List.mem_map.mpr ⟨x, hx, of_decide_eq_true hid⟩
    obtain ⟨f, hf⟩ : ∃ f, foundFlag tenantId now loanId (group (b.rows tenantId) loanId) rule =
        some f := ⟨_, Option.map_eq_some_iff.mpr ⟨details, hdetails, rfl⟩⟩
    have hmem := List.mem_filterMap.mpr ⟨rule, mem_amlRules rule, hf⟩
    exact ⟨f, List.mem_flatMap.mpr ⟨loanId, hkey, hmem⟩, (foundFlag_key hf).2⟩

theorem AmlBook.tenant_of_mem_found {f : AmlFlag} (h : f ∈ b.found tenantId now) :
    f.tenantId = tenantId := by
  obtain ⟨id, -, hf⟩ := List.mem_flatMap.mp h
  obtain ⟨rule, -, hsome⟩ := List.mem_filterMap.mp hf
  exact (foundFlag_key hsome).1

/-- A scan flags what it finds and what had no flag. -/
theorem AmlBook.exists_scan :
    (∃ f ∈ b.scan tenantId now, f.key = (loanId, rule)) ↔ ¬ b.Flagged tenantId loanId rule ∧
      (rule.details (group (b.rows tenantId) loanId)).isSome := by
  rw [AmlBook.scan_eq, exists_created_addFlags, AmlBook.mem_existing, AmlBook.exists_found]
  simp

/-- After a scan there is a flag for whatever the scan finds. -/
theorem AmlBook.flagged_afterScan
    (h : (rule.details (group (b.rows tenantId) loanId)).isSome) :
    (b.afterScan tenantId now).Flagged tenantId loanId rule := by
  by_cases hold : b.Flagged tenantId loanId rule
  · obtain ⟨f, hf, hkey⟩ := hold
    exact ⟨f, List.mem_append_left _ hf, hkey⟩
  · obtain ⟨f, hf, hkey⟩ := AmlBook.exists_scan.mpr ⟨hold, h⟩
    have hfound := hf
    rw [AmlBook.scan_eq] at hfound
    obtain hnil | hfound := mem_of_mem_created_addFlags hfound
    · cases hnil
    · exact ⟨f, List.mem_append_right _ hf, AmlBook.tenant_of_mem_found hfound, hkey⟩

/-- A second scan of the same repayments flags nothing. -/
theorem AmlBook.scan_afterScan (later : ℤ) :
    (b.afterScan tenantId now).scan tenantId later = [] := by
  refine List.eq_nil_iff_forall_not_mem.mpr fun f hf => ?_
  have hkey : f.key = (f.loanId, f.flagType) := rfl
  obtain ⟨hnot, hsome⟩ := AmlBook.exists_scan.mp ⟨f, hf, hkey⟩
  exact hnot (AmlBook.flagged_afterScan hsome)

end Book

section Payments

variable (b : AmlBook) (tenantId loanId : ℕ)

/-- A selection of a loan's rows counts like that of its payments. -/
theorem AmlBook.countP_group {p : AmlRow → Bool} {q : AmlRepayment → Bool}
    (hp : ∀ r, p (b.row r) = q r) (t span : ℤ) :
    ((group (b.rows tenantId) loanId).filter p).countP
        (fun x => t ≤ x.paymentDate ∧ x.paymentDate ≤ t + span) =
      ((b.paymentsOn tenantId loanId).filter q).countP
        (fun r => t ≤ r.paymentDate ∧ r.paymentDate ≤ t + span) := by
  have hcomp : p ∘ b.row = q := funext hp
  rw [((b.group_perm tenantId loanId).filter p).countP_eq, List.filter_map, List.countP_map, hcomp]
  rfl

theorem AmlBook.windowTotal_group (t span : ℤ) :
    windowTotal AmlRow.paymentDate AmlRow.amount span (group (b.rows tenantId) loanId) t =
      windowTotal AmlRepayment.paymentDate AmlRepayment.amount span
        (b.paymentsOn tenantId loanId) t := by
  rw [windowTotal, (((b.group_perm tenantId loanId).filter _).map _).sum_eq, List.filter_map,
    List.map_map]
  rfl

/-- A rule finds its pattern in a loan's group when the payments show it, but for the velocity
of a single payment. -/
theorem AmlBook.details_iff (rule : AmlFlagType) :
    (rule.details (group (b.rows tenantId) loanId)).isSome ↔
      rule.Pattern (b.paymentsOn tenantId loanId) ∧
        (rule = .velocity → 2 ≤ (b.paymentsOn tenantId loanId).length) := by
  have hlen : (group (b.rows tenantId) loanId).length = (b.paymentsOn tenantId loanId).length := by
    rw [(b.group_perm tenantId loanId).length_eq, List.length_map]
  cases rule with
  | structuring =>
    have hrange : ∀ r, inStructuringRange (b.row r) =
        decide (800000 ≤ r.amount ∧ r.amount < 1000000) := fun r => by
      simp [inStructuringRange, structLo, reportThreshold, AmlBook.row]
    simp only [AmlFlagType.details, structuring_iff, b.countP_group tenantId loanId hrange,
      AmlFlagType.Pattern, SomeWithin, reduceCtorEq, false_implies, and_true]
  | rapidSmallRepayments =>
    have hsmall : ∀ r, isSmall (b.row r) = decide (r.amount < 200000) := fun _ => rfl
    simp only [AmlFlagType.details, rapid_iff, b.countP_group tenantId loanId hsmall,
      AmlFlagType.Pattern, SomeWithin, reduceCtorEq, false_implies, and_true]
  | velocity =>
    simp only [AmlFlagType.details, velocity_iff, b.windowTotal_group, hlen, AmlFlagType.Pattern,
      true_implies, and_comm]

end Payments

/-- A single payment shows velocity when it is above 100,000. -/
theorem velocity_singleton (r : AmlRepayment) :
    AmlFlagType.Pattern [r] .velocity ↔ 10000000 < r.amount := by
  have hday : 0 ≤ hours 24 := by decide
  constructor
  · rintro ⟨t, ht⟩
    rw [windowTotal] at ht
    by_cases hin : t ≤ r.paymentDate ∧ r.paymentDate ≤ t + hours 24
    · simpa [hin] using ht
    · simp [hin] at ht
  · intro h
    refine ⟨r.paymentDate, ?_⟩
    simpa [windowTotal, hday] using h

/-- The scan is exact on a loan, and idempotent, unless the loan's only payment is above 100,000
and had no velocity flag before. -/
theorem aml_exact_iff (b : AmlBook) (tenantId loanId : ℕ) (now : ℤ) :
    AmlExact b tenantId loanId now ↔
      (∀ r, b.paymentsOn tenantId loanId = [r] → 10000000 < r.amount →
        b.Flagged tenantId loanId .velocity) := by
  constructor
  · intro h r hone hlarge
    by_contra hnot
    have hfound := (h.flags .velocity hnot).mpr (by
      rw [hone]
      exact (velocity_singleton r).mpr hlarge)
    have htwo :=
      ((b.details_iff tenantId loanId .velocity).mp (AmlBook.exists_scan.mp hfound).2).2 rfl
    rw [hone] at htwo
    exact absurd htwo (Nat.not_succ_le_self 1)
  · intro h
    refine ⟨fun rule hnot => ?_, fun later => by simp [b.scan_afterScan]⟩
    rw [AmlBook.exists_scan, b.details_iff, and_iff_right hnot]
    refine and_iff_left_of_imp fun hpattern hrule => ?_
    subst hrule
    match hpay : b.paymentsOn tenantId loanId with
    | [] =>
      rw [hpay] at hpattern
      obtain ⟨t, ht⟩ := hpattern
      exact absurd ht (Nat.not_lt_zero _)
    | [r] =>
      rw [hpay, velocity_singleton] at hpattern
      exact absurd (h r hpay hpattern) hnot
    | _ :: _ :: _ => exact Nat.le_add_left 2 _

/-- One payment of 150,000 on a loan. -/
def lumpSum : AmlBook where
  loans := [7]
  repayments := [⟨1, 0, 15000000, 0⟩]
  flags := []
  loans_known := by decide

/-- The scan passes over a single payment above the threshold. -/
theorem lump_sum_unflagged : ¬ AmlExact lumpSum 1 0 0 := by
  intro h
  have hpattern : AmlFlagType.Pattern (lumpSum.paymentsOn 1 0) .velocity := ⟨0, by decide⟩
  have hunflagged : ¬ lumpSum.Flagged 1 0 .velocity := fun ⟨_, hf, _⟩ => List.not_mem_nil hf
  obtain ⟨f, hf, -⟩ := (h.flags .velocity hunflagged).mpr hpattern
  have hnone : lumpSum.scan 1 0 = [] := by decide
  rw [hnone] at hf
  exact List.not_mem_nil hf

end FinylDcp
