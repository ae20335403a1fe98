import FinylDcp.GeneralLedger
import FinylDcp.OfficeBooks

/-!
# The journal over adjoining windows

The lines of a window are those of its first days and those of the rest. What of a repayment's
fees is the price's depends on the fees collected before; the count that a window starts with is
what the window before it ends with.
-/
namespace FinylDcp
open Tables

section Moments

variable {a b c t : ℤ}

theorem covers_iff {w : GlWindow} :
    w.covers t = true ↔ w.dfrom * 86400 ≤ t ∧ t ≤ w.dto * 86400 + 86399 := by
  simp only [GlWindow.covers, Bool.and_eq_true, decide_eq_true_eq]
  rfl

/-- A moment of the window is of its first days or of the rest. -/
theorem covers_split (hab : a ≤ b) (hbc : b < c) (t : ℤ) :
    (GlWindow.mk a c).covers t =
      ((GlWindow.mk a b).covers t || (GlWindow.mk (b + 1) c).covers t) := by
  rw [Bool.eq_iff_iff, Bool.or_eq_true, covers_iff, covers_iff, covers_iff]
  dsimp only
  omega

theorem covers_lt {s : ℤ} (hs : (GlWindow.mk a b).covers s = true)
    (ht : (GlWindow.mk (b + 1) c).covers t = true) : s < t := by
  rw [covers_iff] at hs ht
  dsimp only at hs ht
  omega

theorem covers_disjoint (h : (GlWindow.mk a b).covers t = true) :
    (GlWindow.mk (b + 1) c).covers t = false :=
  Bool.eq_false_iff.mpr fun h' => lt_irrefl t (covers_lt h h')

end Moments

section Windows

variable {coa : String → Option String} {db : Db} {tenantId : ℕ} {a b c : ℤ}

theorem settledIn_perm (type : TransactionType) (hab : a ≤ b) (hbc : b < c) :
    (settledIn db tenantId type ⟨a, c⟩).Perm
      (settledIn db tenantId type ⟨a, b⟩ ++ settledIn db tenantId type ⟨b + 1, c⟩) := by
  have hsplit : settledIn db tenantId type ⟨a, c⟩ = db.transactions.zipIdx.filter (fun x =>
      (x.1.tenantId = tenantId && x.1.type = type && x.1.status = .success &&
        (GlWindow.mk a b).covers x.1.createdAt) ||
      (x.1.tenantId = tenantId && x.1.type = type && x.1.status = .success &&
        (GlWindow.mk (b + 1) c).covers x.1.createdAt)) :=
    List.filter_congr fun x _ => by rw [covers_split hab hbc, Bool.and_or_distrib_left]
  rw [hsplit]
  refine filter_or_perm fun x _ hx => ?_
  rw [Bool.and_eq_true] at hx
  rw [covers_disjoint hx.2, Bool.and_false]

theorem repaymentsIn_append (hab : a ≤ b) (hbc : b < c) :
    repaymentsIn db tenantId ⟨a, c⟩ =
      repaymentsIn db tenantId ⟨a, b⟩ ++ repaymentsIn db tenantId ⟨b + 1, c⟩ := by
  have hsplit : db.repayments.zipIdx.filter (fun x => x.1.tenantId = tenantId &&
      (GlWindow.mk a c).covers x.1.paymentDate) = db.repayments.zipIdx.filter (fun x =>
      (x.1.tenantId = tenantId && (GlWindow.mk a b).covers x.1.paymentDate) ||
      (x.1.tenantId = tenantId && (GlWindow.mk (b + 1) c).covers x.1.paymentDate)) :=
    List.filter_congr fun x _ => by rw [covers_split hab hbc, Bool.and_or_distrib_left]
  rw [repaymentsIn, hsplit]
  refine insertionSort_filter_or fun x y hx hy => ?_
  rw [Bool.and_eq_true] at hx hy
  have hlt := covers_lt hx.2 hy.2
  exact ⟨hlt.le, not_le.mpr hlt⟩

theorem parkedLines_append (hab : a ≤ b) (hbc : b < c) (e : SuspenseEntry) (id : ℕ) :
    parkedLines coa ⟨a, c⟩ e id =
      parkedLines coa ⟨a, b⟩ e id ++ parkedLines coa ⟨b + 1, c⟩ e id := by
  simp only [parkedLines, covers_split hab hbc]
  by_cases hfirst : (GlWindow.mk a b).covers e.createdAt = true
  · simp [hfirst, covers_disjoint hfirst]
  · simp [hfirst]

theorem disposedLines_append (hab : a ≤ b) (hbc : b < c) (e : SuspenseEntry) (id : ℕ) :
    disposedLines coa db tenantId ⟨a, c⟩ e id =
      disposedLines coa db tenantId ⟨a, b⟩ e id ++
        disposedLines coa db tenantId ⟨b + 1, c⟩ e id := by
  cases hresolved : e.resolvedAt with
  | none => simp [disposedLines, hresolved]
  | some resolvedAt =>
    simp only [disposedLines, hresolved, covers_split hab hbc]
    by_cases hfirst : (GlWindow.mk a b).covers resolvedAt = true
    · simp [hfirst, covers_disjoint hfirst]
    · simp [hfirst]

/-- What counts as collected of a loan's fees. -/
def collected (db : Db) (tenantId : ℕ) (start : ℤ) (feePaid : ℕ → Option ℤ) (loanId : ℕ) : ℤ :=
  (feePaid loanId).getD (feesPaidBefore db tenantId loanId start)

/-- The fees of a loan among some repayments. -/
def feesOf (loanId : ℕ) (rows : List (Repayment × ℕ)) : ℤ :=
  ((rows.filter (fun x => x.1.loanId = loanId)).map (fun x => x.1.split.fees)).sum

theorem feesOf_cons (loanId : ℕ) (x : Repayment × ℕ) (rows : List (Repayment × ℕ)) :
    feesOf loanId (x :: rows) = (if x.1.loanId = loanId then x.1.split.fees else 0) +
      feesOf loanId rows := by
  by_cases h : x.1.loanId = loanId <;> simp [feesOf, h]

theorem collected_update (start : ℤ) (feePaid : ℕ → Option ℤ) (loanId : ℕ) (fee : ℤ) (id : ℕ) :
    collected db tenantId start (Function.update feePaid loanId
        (some (collected db tenantId start feePaid loanId + fee))) id =
      collected db tenantId start feePaid id + if loanId = id then fee else 0 := by
  by_cases h : loanId = id
  · subst h
    simp [collected]
  · simp [collected, Function.update_of_ne (Ne.symm h), h]

theorem repaymentLines_cons (start : ℤ) (feePaid : ℕ → Option ℤ) (r : Repayment) (id : ℕ)
    (rows : List (Repayment × ℕ)) :
    repaymentLines coa db tenantId start feePaid ((r, id) :: rows) =
      receivedLines coa r id ++
        if 0 < r.split.fees then
          feeLines coa (r.glEvent id) (loanFeeInfo db tenantId r.loanId)
              (collected db tenantId start feePaid r.loanId) r.split.fees ++
            repaymentLines coa db tenantId start (Function.update feePaid r.loanId
              (some (collected db tenantId start feePaid r.loanId + r.split.fees))) rows
        else repaymentLines coa db tenantId start feePaid rows := rfl

/-- The lines depend on what was collected alone. -/
theorem repaymentLines_congr {start start' : ℤ} {feePaid feePaid' : ℕ → Option ℤ}
    (h : ∀ id, collected db tenantId start feePaid id = collected db tenantId start' feePaid' id)
    (rows : List (Repayment × ℕ)) :
    repaymentLines coa db tenantId start feePaid rows =
      repaymentLines coa db tenantId start' feePaid' rows := by
  induction rows generalizing feePaid feePaid' with
  | nil => rfl
  | cons x rows ih =>
    obtain ⟨r, id⟩ := x
    rw [repaymentLines_cons, repaymentLines_cons, ih h]
    by_cases hfee : 0 < r.split.fees
    · have hnext : ∀ id',
          collected db tenantId start (Function.update feePaid r.loanId
            (some (collected db tenantId start feePaid r.loanId + r.split.fees))) id' =
          collected db tenantId start' (Function.update feePaid' r.loanId
            (some (collected db tenantId start' feePaid' r.loanId + r.split.fees))) id' :=
        fun id' => by rw [collected_update, collected_update, h]
      rw [if_pos hfee, if_pos hfee, ih hnext, h r.loanId]
    · rw [if_neg hfee, if_neg hfee]

/-- The lines of more repayments go on from what the first ones leave as collected. -/
theorem repaymentLines_append (start : ℤ) (feePaid : ℕ → Option ℤ)
    {xs : List (Repayment × ℕ)} (hxs : ∀ x ∈ xs, 0 ≤ x.1.split.fees)
    (ys : List (Repayment × ℕ)) :
    ∃ feePaid', repaymentLines coa db tenantId start feePaid (xs ++ ys) =
        repaymentLines coa db tenantId start feePaid xs ++
          repaymentLines coa db tenantId start feePaid' ys ∧
      ∀ id, collected db tenantId start feePaid' id =
        collected db tenantId start feePaid id + feesOf id xs := by
  induction xs generalizing feePaid with
  | nil => exact ⟨feePaid, rfl, fun id => (add_zero _).symm⟩
  | cons x xs ih =>
    obtain ⟨r, id⟩ := x
    obtain ⟨hr, hxs⟩ := List.forall_mem_cons.mp hxs
    rw [List.cons_append, repaymentLines_cons, repaymentLines_cons]
    by_cases hfee : 0 < r.split.fees
    · obtain ⟨feePaid', hlines, hpaid⟩ := ih (Function.update feePaid r.loanId
        (some (collected db tenantId start feePaid r.loanId + r.split.fees))) hxs
      refine ⟨feePaid', ?_, fun id' => ?_⟩
      · rw [if_pos hfee, if_pos hfee, hlines]
        simp only [List.append_assoc]
      · rw [hpaid, collected_update, feesOf_cons, add_assoc]
    · obtain ⟨feePaid', hlines, hpaid⟩ := ih feePaid hxs
      have hzero : r.split.fees = 0 := le_antisymm (not_lt.mp hfee) hr
      refine ⟨feePaid', ?_, fun id' => ?_⟩
      · rw [if_neg hfee, if_neg hfee, hlines, List.append_assoc]
      · rw [hpaid, feesOf_cons, hzero, ite_self, zero_add]

end Windows

theorem Repayment.Divided.split_eq {r : Repayment} (h : r.Divided) :
    r.split = ⟨r.interestComponent, r.feeComponent, r.principalComponent⟩ := if_pos h.total

section Divided

variable {coa : String → Option String} {db : Db} {tenantId : ℕ} {a b c : ℤ}
  (hdivided : ∀ r ∈ db.repayments, r.Divided)

/-- The sums over numbered rows are those over the rows. -/
theorem sum_zipIdx {α : Type*} (p : α → Bool) (f : α → ℤ) (l : List α) :
    ((l.zipIdx.filter (fun x => p x.1)).map (fun x => f x.1)).sum = ((l.filter p).map f).sum := by
  have hrows : (l.zipIdx.filter (fun x => p x.1)).map Prod.fst = l.filter p := by
    have hcomp : (fun x : α × ℕ => p x.1) = p ∘ Prod.fst := rfl
    rw [hcomp, ← List.filter_map, List.zipIdx_map_fst]
  rw [← hrows, List.map_map]
  rfl

include hdivided in
/-- The fees collected before the rest of a window: those before it and those of its first
days. -/
theorem feesPaidBefore_next (hab : a ≤ b) (loanId : ℕ) :
    feesPaidBefore db tenantId loanId (GlWindow.mk (b + 1) c).start =
      feesPaidBefore db tenantId loanId (GlWindow.mk a b).start +
        feesOf loanId (repaymentsIn db tenantId ⟨a, b⟩) := by
  have hwindow : feesOf loanId (repaymentsIn db tenantId ⟨a, b⟩) =
      ((db.repayments.filter (fun r => r.loanId = loanId && (r.tenantId = tenantId &&
        (GlWindow.mk a b).covers r.paymentDate))).map (·.feeComponent)).sum := by
    rw [feesOf, repaymentsIn,
      (((List.perm_insertionSort _ _).filter _).map _).sum_eq, List.filter_filter,
      sum_zipIdx (fun r : Repayment => r.loanId = loanId && (r.tenantId = tenantId &&
        (GlWindow.mk a b).covers r.paymentDate)) (fun r => r.split.fees)]
    refine congrArg List.sum (List.map_congr_left fun r hr => ?_)
    rw [(hdivided r (List.mem_of_mem_filter hr)).split_eq]
  have hsplit : db.repayments.filter (fun r => r.tenantId = tenantId && r.loanId = loanId &&
      r.paymentDate < (GlWindow.mk (b + 1) c).start) = db.repayments.filter (fun r =>
      (r.tenantId = tenantId && r.loanId = loanId && r.paymentDate < (GlWindow.mk a b).start) ||
      (r.loanId = loanId && (r.tenantId = tenantId &&
        (GlWindow.mk a b).covers r.paymentDate))) := by
    refine List.filter_congr fun r _ => ?_
    rw [Bool.eq_iff_iff]
    simp only [Bool.and_eq_true, Bool.or_eq_true, decide_eq_true_eq, covers_iff]
    simp only [GlWindow.start]
    omega
  have hapart : ∀ r ∈ db.repayments, (r.tenantId = tenantId && r.loanId = loanId &&
      r.paymentDate < (GlWindow.mk a b).start) = true → (r.loanId = loanId &&
      (r.tenantId = tenantId && (GlWindow.mk a b).covers r.paymentDate)) = false := by
    intro r _ hr
    rw [Bool.eq_false_iff]
    intro hcovers
    simp only [Bool.and_eq_true, decide_eq_true_eq, covers_iff] at hr hcovers
    simp only [GlWindow.start] at hr
    omega
  rw [hwindow, feesPaidBefore, hsplit, ((filter_or_perm hapart).map _).sum_eq, List.map_append,
    List.sum_append]
  rfl

include hdivided in
theorem repaymentLines_window (hab : a ≤ b) (hbc : b < c) :
    repaymentLines coa db tenantId (GlWindow.mk a c).start (fun _ => none)
        (repaymentsIn db tenantId ⟨a, c⟩) =
      repaymentLines coa db tenantId (GlWindow.mk a b).start (fun _ => none)
          (repaymentsIn db tenantId ⟨a, b⟩) ++
        repaymentLines coa db tenantId (GlWindow.mk (b + 1) c).start (fun _ => none)
          (repaymentsIn db tenantId ⟨b + 1, c⟩) := by
  have hfees : ∀ x ∈ repaymentsIn db tenantId ⟨a, b⟩, 0 ≤ x.1.split.fees := by
    intro x hx
    rw [repaymentsIn, List.mem_insertionSort] at hx
    have hr := hdivided x.1 (List.fst_mem_of_mem_zipIdx (List.mem_of_mem_filter hx))
    rw [hr.split_eq]
    exact hr.fees
  obtain ⟨feePaid', hlines, hpaid⟩ := @repaymentLines_append coa db tenantId
    (GlWindow.mk a b).start (fun _ => none) _ hfees (repaymentsIn db tenantId ⟨b + 1, c⟩)
  rw [repaymentsIn_append hab hbc]
  refine hlines.trans (congrArg _ (repaymentLines_congr (fun id => ?_) _))
  rw [hpaid]
  exact (feesPaidBefore_next hdivided hab id).symm

end Divided

section Journal

variable {coa : String → Option String} {db : Db} {tenantId : ℕ} {a b c : ℤ}

/-- What moves on and off suspense on the days of a window. -/
theorem suspenseLines_perm (hab : a ≤ b) (hbc : b < c) (entries : List (SuspenseEntry × ℕ)) :
    (entries.flatMap (fun x => parkedLines coa ⟨a, c⟩ x.1 x.2 ++
        disposedLines coa db tenantId ⟨a, c⟩ x.1 x.2)).Perm
      (entries.flatMap (fun x => parkedLines coa ⟨a, b⟩ x.1 x.2 ++
          disposedLines coa db tenantId ⟨a, b⟩ x.1 x.2) ++
        entries.flatMap (fun x => parkedLines coa ⟨b + 1, c⟩ x.1 x.2 ++
          disposedLines coa db tenantId ⟨b + 1, c⟩ x.1 x.2)) := by
  induction entries with
  | nil => exact .refl _
  | cons x entries ih =>
    rw [List.perm_iff_count] at ih ⊢
    intro line
    have hrest := ih line
    simp only [List.flatMap_cons, parkedLines_append hab hbc, disposedLines_append hab hbc,
      List.count_append] at hrest ⊢
    omega

/-- The lines of a window are those of its first days and those of the rest. -/
theorem glLines_perm (hdivided : ∀ r ∈ db.repayments, r.Divided) (hab : a ≤ b) (hbc : b < c) :
    (glLines coa db tenantId ⟨a, c⟩).Perm
      (glLines coa db tenantId ⟨a, b⟩ ++ glLines coa db tenantId ⟨b + 1, c⟩) := by
  have hpayouts := (@settledIn_perm db tenantId a b c .b2c hab hbc).flatMap_right
    (fun x => disbursementLines coa x.1 x.2)
  have hrefunds := ((@settledIn_perm db tenantId a b c .refund hab hbc).filter
    (fun x => x.1.rawPayload.suspenseId.isNone)).flatMap_right (fun x => refundLines coa x.1 x.2)
  have hsuspense := @suspenseLines_perm coa db tenantId a b c hab hbc (entriesOf db tenantId)
  rw [List.filter_append, List.flatMap_append, List.perm_iff_count] at hrefunds
  rw [List.flatMap_append, List.perm_iff_count] at hpayouts
  rw [List.perm_iff_count] at hsuspense ⊢
  intro line
  have hpayouts := hpayouts line
  have hrefunds := hrefunds line
  have hsuspense := hsuspense line
  simp only [glLines, List.count_append, (List.perm_insertionSort _ _).count_eq,
    repaymentLines_window hdivided hab hbc] at hpayouts hrefunds hsuspense ⊢
  omega

end Journal

end FinylDcp
