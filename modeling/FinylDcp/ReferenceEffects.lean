import FinylDcp.PaymentReferences

/-!
# What a delivery does to the references

The ways a delivery changes repayments and suspense rows, and what each does to the
money recorded for a reference. `Ledgered` is the invariant the run keeps: an accepted
reference has a row that the check sees, and no more money than was received.
-/
namespace FinylDcp
open Tables Text

/-- What the accounting of references sees of a suspense row. -/
def SuspenseEntry.face (e : SuspenseEntry) : ℕ × Option String × SuspenseReason × ℤ × Bool :=
  (e.tenantId, e.mpesaRef, e.reason, e.amount, e.status = .allocated)

/-- A row as an allocation leaves it. -/
def SuspenseEntry.IsAllocated (e e' : SuspenseEntry) : Prop :=
  e'.face = (e.tenantId, e.mpesaRef, e.reason, e.amount, true)

/-- The ways a delivery changes repayments and suspense rows, and the acceptance that
goes with each. -/
inductive Effect (db db' : Db) : Option Acceptance → Prop
  | kept (hrepayments : db'.repayments = db.repayments)
      (hsuspense : db'.suspense.map SuspenseEntry.face = db.suspense.map SuspenseEntry.face) :
      Effect db db' none
  | parkedWhole (x : Receipt) (now : ℤ) (ref : Option String) (hreason : x.reason.ofRest = false)
      (href : ∀ r ∈ ref, nonEmpty x.ref = some r)
      (hnew : ∀ r, nonEmpty x.ref = some r → ¬ Repaid db x.tenantId r ∧ ¬ Parked db x.tenantId r)
      (hrepayments : db'.repayments = db.repayments)
      (hsuspense : db'.suspense = db.suspense ++ [x.entry now]) :
      Effect db db' (ref.map (fun r => ⟨x.tenantId, r, x.amount⟩))
  | applied (loanId : ℕ) (p : Payment) (d : Division)
      (hnew : p.reference ≠ "" → ¬ Repaid db p.tenantId p.reference ∧
        ¬ Parked db p.tenantId p.reference)
      (hpos : 0 < d.applied) (hle : d.applied ≤ p.amount)
      (hrepayments : db'.repayments = db.repayments ++ repaymentRow loanId p d)
      (hsuspense : db'.suspense = parkRest db.suspense loanId p d) :
      Effect db db' ((nonEmpty (some p.reference)).map (fun r => ⟨p.tenantId, r, p.amount⟩))
  | allocated (loanId : ℕ) (p : Payment) (d : Division) (entryId : ℕ) (entry : SuspenseEntry)
      (mark : SuspenseEntry → SuspenseEntry) (hmark : ∀ e : SuspenseEntry, e.IsAllocated (mark e))
      (hentry : db.suspense[entryId]? = some entry) (htenant : entry.tenantId = p.tenantId)
      (hstatus : entry.status ≠ .allocated) (hamount : p.amount = entry.amount)
      (href : p.reference ≠ "") (hfree : ¬ Repaid db p.tenantId p.reference)
      (hown : entry.mpesaRef = some p.reference ∨ ¬ Parked db p.tenantId p.reference)
      (hpos : 0 < d.applied) (hle : d.applied ≤ p.amount)
      (hrepayments : db'.repayments = db.repayments ++ repaymentRow loanId p d)
      (hsuspense : db'.suspense = (parkRest db.suspense loanId p d).modify entryId mark) :
      Effect db db' (some ⟨p.tenantId, p.reference, p.amount⟩)
  | spent (entryId : ℕ) (entry : SuspenseEntry) (mark : SuspenseEntry → SuspenseEntry)
      (hmark : ∀ e : SuspenseEntry, e.IsAllocated (mark e))
      (hentry : db.suspense[entryId]? = some entry) (hpos : 0 < entry.amount)
      (hrepayments : db'.repayments = db.repayments)
      (hsuspense : db'.suspense = db.suspense.modify entryId mark) :
      Effect db db' none

/-- Every overpayment row belongs to a repayment. -/
def OverpaidTraced (db : Db) : Prop :=
  ∀ e ∈ db.suspense, e.reason = .overpayment →
    ∀ r, e.mpesaRef = some (r ++ "-OVR") → Repaid db e.tenantId r

theorem suffix_injective {r r' : String} : r ++ "-OVR" = r' ++ "-OVR" ↔ r = r' := by
  constructor
  · intro h
    have hlist := congrArg String.toList h
    simp only [String.toList_append, List.append_cancel_right_eq] at hlist
    exact String.toList_inj.mp hlist
  · rintro rfl
    rfl

theorem ne_suffix (r : String) {suffix : String} (hne : suffix ≠ "") : r ≠ r ++ suffix := by
  intro h
  have hlist := congrArg String.toList h
  rw [String.toList_append, List.self_eq_append_right, String.toList_eq_nil_iff] at hlist
  exact hne hlist

/-- What a row counts is seen on its face. -/
theorem parkedFor_congr {tenantId : ℕ} {ref : String} {e e' : SuspenseEntry}
    (h : e'.face = e.face) : parkedFor tenantId ref e' = parkedFor tenantId ref e := by
  simp only [SuspenseEntry.face, Prod.mk.injEq, decide_eq_decide] at h
  obtain ⟨htenant, href, hreason, hamount, hstatus⟩ := h
  simp only [parkedFor, htenant, href, hreason, hamount, ne_eq, hstatus]

theorem sum_parkedFor_congr {tenantId : ℕ} {ref : String} {xs ys : List SuspenseEntry}
    (h : ys.map SuspenseEntry.face = xs.map SuspenseEntry.face) :
    (ys.map (parkedFor tenantId ref)).sum = (xs.map (parkedFor tenantId ref)).sum := by
  induction xs generalizing ys with
  | nil =>
    obtain rfl : ys = [] := by simpa using h
    rfl
  | cons x xs ih =>
    cases ys with
    | nil => simp at h
    | cons y ys =>
      simp only [List.map_cons, List.cons.injEq] at h
      simp only [List.map_cons, List.sum_cons, parkedFor_congr h.1, ih h.2]

/-- An allocated receipt no longer counts; an overpayment row counts as before. -/
theorem parkedFor_allocated (tenantId : ℕ) (ref : String) {e e' : SuspenseEntry}
    (h : e.IsAllocated e') (hpos : 0 < e.amount) :
    parkedFor tenantId ref e' ≤ parkedFor tenantId ref e := by
  simp only [SuspenseEntry.IsAllocated, SuspenseEntry.face, Prod.mk.injEq, decide_eq_true_eq] at h
  obtain ⟨htenant, href, hreason, hamount, hstatus⟩ := h
  simp only [parkedFor, htenant, href, hreason, hamount, hstatus, ne_eq, not_true_eq_false,
    and_false, false_or]
  split_ifs with h1 h2 h2
  · exact le_refl _
  · exact absurd ⟨h1.1, .inr h1.2⟩ h2
  · exact hpos.le
  · exact le_refl _

/-- The rest of a payment counts for its own reference, up to its excess, and for no
other. -/
theorem sum_parkRest (suspense : List SuspenseEntry) (loanId : ℕ) (p : Payment) (d : Division)
    (hle : d.applied ≤ p.amount) (tenantId : ℕ) (ref : String) :
    ((parkRest suspense loanId p d).map (parkedFor tenantId ref)).sum ≤
      (suspense.map (parkedFor tenantId ref)).sum +
        if p.tenantId = tenantId ∧ p.reference = ref then p.amount - d.applied else 0 := by
  obtain ⟨excess, refund, hrows, hover, hrefund⟩ := parkRest_rows suspense loanId p d
  have hcredit : (refund.map (parkedFor tenantId ref)).sum = 0 := by
    obtain rfl | rfl := hrefund
    · rfl
    · simp [parkedFor, Receipt.entry, interestRefundReceipt, SuspenseReason.ofRest]
  have hexcess : (excess.map (parkedFor tenantId ref)).sum ≤
      if p.tenantId = tenantId ∧ p.reference = ref then p.amount - d.applied else 0 := by
    obtain rfl | ⟨-, rfl⟩ := hover
    · simp only [List.map_nil, List.sum_nil]
      split_ifs <;> omega
    · simp [parkedFor, Receipt.entry, overpaymentReceipt, SuspenseReason.ofRest, nonEmpty]
  rw [hrows]
  simp only [List.map_append, List.sum_append, hcredit]
  omega

theorem sum_repaymentRow (loanId : ℕ) (p : Payment) (d : Division) (hpos : 0 < d.applied)
    (tenantId : ℕ) (ref : String) :
    ((repaymentRow loanId p d).map (repaidFor tenantId ref)).sum =
      if p.tenantId = tenantId ∧ p.reference = ref then d.applied else 0 := by
  simp [repaymentRow, hpos, repaidFor]

/-- Nothing is recorded for a reference that no repayment and no row carries. -/
theorem recordedMoney_eq_zero {db : Db} {tenantId : ℕ} {ref : String} (htraced : OverpaidTraced db)
    (hrepaid : ¬ Repaid db tenantId ref) (hparked : ¬ Parked db tenantId ref) :
    recordedMoney db tenantId ref = 0 := by
  have h1 : (db.repayments.map (repaidFor tenantId ref)).sum = 0 :=
    sum_map_eq_zero fun x hx => if_neg fun h => hrepaid ⟨x, hx, h⟩
  have h2 : (db.suspense.map (parkedFor tenantId ref)).sum = 0 := by
    refine sum_map_eq_zero fun e he => if_neg ?_
    rintro ⟨htenant, ⟨href, -, -⟩ | ⟨href, hreason⟩⟩
    · exact hparked ⟨e, he, htenant, href⟩
    · exact hrepaid (htenant ▸ htraced e he hreason ref href)
  rw [recordedMoney, h1, h2, add_zero]

/-- What is recorded for a reference that only one suspense row carries. -/
theorem recordedMoney_eq_entry {db : Db} {tenantId : ℕ} {ref : String} {e : SuspenseEntry}
    (htraced : OverpaidTraced db) (hunique : (db.suspense.filterMap SuspenseEntry.key).Nodup)
    (hrepaid : ¬ Repaid db tenantId ref) (he : e ∈ db.suspense) (htenant : e.tenantId = tenantId)
    (href : e.mpesaRef = some ref) :
    recordedMoney db tenantId ref = parkedFor tenantId ref e := by
  have h1 : (db.repayments.map (repaidFor tenantId ref)).sum = 0 :=
    sum_map_eq_zero fun x hx => if_neg fun h => hrepaid ⟨x, hx, h⟩
  have h2 : (db.suspense.map (parkedFor tenantId ref)).sum = parkedFor tenantId ref e := by
    refine sum_eq_of_unique hunique he (k := (tenantId, ref))
      (by simp [SuspenseEntry.key, href, htenant]) fun y hy hkey => if_neg ?_
    rintro ⟨hty, ⟨hry, -, -⟩ | ⟨hry, hreason⟩⟩
    · exact hkey (by simp [SuspenseEntry.key, hry, hty])
    · exact hrepaid (hty ▸ htraced y hy hreason ref hry)
  rw [recordedMoney, h1, h2, zero_add]

/-- A row moved to a loan counts no longer under its own reference. -/
theorem parkedFor_own {tenantId : ℕ} {ref : String} {e e' : SuspenseEntry} (h : e.IsAllocated e')
    (href : e.mpesaRef = some ref) : parkedFor tenantId ref e' = 0 := by
  simp only [SuspenseEntry.IsAllocated, SuspenseEntry.face, Prod.mk.injEq, decide_eq_true_eq] at h
  obtain ⟨-, href', -, -, hstatus⟩ := h
  refine if_neg ?_
  rintro ⟨-, ⟨-, -, hopen⟩ | ⟨hsuffix, -⟩⟩
  · exact hopen hstatus
  · rw [href', href, Option.some.injEq] at hsuffix
    exact ne_suffix ref (by decide) hsuffix

theorem key_entry (x : Receipt) (now : ℤ) :
    (x.entry now).key = (nonEmpty x.ref).map (fun r => (x.tenantId, r)) := rfl

/-- A reference no row carries is not found. -/
theorem suspenseWithRef_of_new {db : Db} {tenantId : ℕ} {ref : Option String}
    (h : ∀ r, nonEmpty ref = some r → ¬ Parked db tenantId r) :
    suspenseWithRef db.suspense tenantId ref = none := by
  cases hr : nonEmpty ref with
  | none => simp [suspenseWithRef, hr]
  | some r =>
    simp only [suspenseWithRef, hr, Option.bind_some, List.findIdx?_eq_none_iff]
    intro e he
    simpa using fun htenant hkey => h r hr ⟨e, he, htenant, hkey⟩

/-- Parking keeps the references of the suspense account apart. -/
theorem park_unique {suspense : List SuspenseEntry} {x : Receipt} {now : ℤ}
    (h : (suspense.filterMap SuspenseEntry.key).Nodup) :
    ((park suspense x now).1.filterMap SuspenseEntry.key).Nodup := by
  by_cases hfree : suspenseWithRef suspense x.tenantId x.ref = none
  · rw [park_new hfree, List.filterMap_append]
    cases href : nonEmpty x.ref with
    | none =>
      rw [List.filterMap_cons_none (by rw [key_entry, href]; rfl)]
      simpa using h
    | some r =>
      have hkeys : ∀ e ∈ suspense, e.key ≠ some (x.tenantId, r) := by
        intro e he hkey
        simp only [SuspenseEntry.key, Option.map_eq_some_iff, Prod.mk.injEq] at hkey
        obtain ⟨_, hr, htenant, rfl⟩ := hkey
        simp only [suspenseWithRef, href, Option.bind_some, List.findIdx?_eq_none_iff] at hfree
        simpa [htenant, hr] using hfree e he
      rw [List.filterMap_cons_some (by rw [key_entry, href]; rfl)]
      refine List.nodup_append.mpr ⟨h, by simp, fun k hk k' hk' heq => ?_⟩
      obtain ⟨e, he, hkey⟩ := List.mem_filterMap.mp hk
      obtain rfl : k' = (x.tenantId, r) := by simpa using hk'
      exact hkeys e he (hkey.trans (congrArg some heq))
  · rwa [park_known hfree]

theorem parkRest_unique {suspense : List SuspenseEntry} (loanId : ℕ) (p : Payment) (d : Division)
    (h : (suspense.filterMap SuspenseEntry.key).Nodup) :
    ((parkRest suspense loanId p d).filterMap SuspenseEntry.key).Nodup := by
  have hover : ((if 0 < p.amount - d.applied then
      (park suspense (overpaymentReceipt loanId p (p.amount - d.applied)) p.now).1
        else suspense).filterMap SuspenseEntry.key).Nodup := by
    split
    · exact park_unique h
    · exact h
  simp only [parkRest]
  split
  · exact park_unique hover
  · exact hover

/-- The keys are seen on the faces. -/
theorem keys_of_faces {xs ys : List SuspenseEntry}
    (h : ys.map (fun e => (e.tenantId, e.mpesaRef)) = xs.map (fun e => (e.tenantId, e.mpesaRef))) :
    ys.filterMap SuspenseEntry.key = xs.filterMap SuspenseEntry.key := by
  have hkeys : ∀ l : List SuspenseEntry, l.filterMap SuspenseEntry.key =
      (l.map (fun e => (e.tenantId, e.mpesaRef))).filterMap
        (fun k => k.2.map (fun r => (k.1, r))) := by
    intro l
    rw [List.filterMap_map]
    rfl
  rw [hkeys, hkeys, h]

/-- What identifies a suspense row. -/
def SuspenseEntry.identity (e : SuspenseEntry) : ℕ × Option String × SuspenseReason :=
  (e.tenantId, e.mpesaRef, e.reason)

theorem identity_of_allocated {e e' : SuspenseEntry} (h : e.IsAllocated e') :
    e'.identity = e.identity := by
  simp only [SuspenseEntry.IsAllocated, SuspenseEntry.face, Prod.mk.injEq] at h
  simp only [SuspenseEntry.identity, h]

theorem identities_of_faces {xs ys : List SuspenseEntry}
    (h : ys.map SuspenseEntry.face = xs.map SuspenseEntry.face) :
    ys.map SuspenseEntry.identity = xs.map SuspenseEntry.identity := by
  have := congrArg (List.map (fun f => (f.1, f.2.1, f.2.2.1))) h
  rwa [List.map_map, List.map_map] at this

/-- An applied payment is recorded as a repayment. -/
theorem repaid_of_applied {db db' : Db} {loanId : ℕ} {p : Payment} {d : Division}
    (hpos : 0 < d.applied) (h : db'.repayments = db.repayments ++ repaymentRow loanId p d) :
    Repaid db' p.tenantId p.reference := by
  simp [Repaid, h, repaymentRow, hpos]

/-- What is parked of a payment as overpaid traces back to it. -/
theorem parkRest_traced (suspense : List SuspenseEntry) (loanId : ℕ) (p : Payment) (d : Division) :
    ∃ rows, parkRest suspense loanId p d = suspense ++ rows ∧ ∀ e ∈ rows, e.reason = .overpayment →
      ∀ r, e.mpesaRef = some (r ++ "-OVR") → e.tenantId = p.tenantId ∧ r = p.reference := by
  obtain ⟨excess, refund, hrows, hover, hrefund⟩ := parkRest_rows suspense loanId p d
  refine ⟨excess ++ refund, by rw [hrows, List.append_assoc], fun e he hreason r href => ?_⟩
  obtain hmem | hmem := List.mem_append.mp he
  · obtain rfl | ⟨-, rfl⟩ := hover
    · cases hmem
    · obtain rfl := List.mem_singleton.mp hmem
      have hsuffix : some (r ++ "-OVR") = some (p.reference ++ "-OVR") := by
        rw [← href]
        simp [Receipt.entry, overpaymentReceipt, nonEmpty]
      exact ⟨rfl, suffix_injective.mp (Option.some.inj hsuffix)⟩
  · obtain rfl | rfl := hrefund
    · cases hmem
    · obtain rfl := List.mem_singleton.mp hmem
      cases hreason

/-- No effect takes a row away, and every overpayment row it adds belongs to a repayment. -/
theorem Effect.rows {db db' : Db} {a : Option Acceptance} (h : Effect db db' a) :
    ∃ repayments rows, db'.repayments = db.repayments ++ repayments ∧
      db'.suspense.map SuspenseEntry.identity = (db.suspense ++ rows).map SuspenseEntry.identity ∧
      ∀ e ∈ rows, e.reason = .overpayment → ∀ r, e.mpesaRef = some (r ++ "-OVR") →
        Repaid db' e.tenantId r := by
  cases h with
  | kept hrepayments hsuspense =>
    exact ⟨[], [], by simp [hrepayments], by simpa using identities_of_faces hsuspense, by simp⟩
  | parkedWhole x now ref hreason href hnew hrepayments hsuspense =>
    refine ⟨[], [x.entry now], by simp [hrepayments], by rw [hsuspense], fun e he hover => ?_⟩
    obtain rfl := List.mem_singleton.mp he
    have hx : x.reason = .overpayment := hover
    rw [hx] at hreason
    cases hreason
  | applied loanId p d hnew hpos hle hrepayments hsuspense =>
    obtain ⟨rows, hrows, htraced⟩ := parkRest_traced db.suspense loanId p d
    refine ⟨_, rows, hrepayments, by rw [hsuspense, hrows], fun e he hover r href => ?_⟩
    obtain ⟨htenant, rfl⟩ := htraced e he hover r href
    exact htenant ▸ repaid_of_applied hpos hrepayments
  | allocated loanId p d entryId entry mark hmark hentry htenant hstatus hamount href hfree hown
      hpos hle hrepayments hsuspense =>
    obtain ⟨rows, hrows, htraced⟩ := parkRest_traced db.suspense loanId p d
    refine ⟨_, rows, hrepayments, ?_, fun e he hover r hr => ?_⟩
    · rw [hsuspense, hrows, map_modify_of_eq _ fun e => identity_of_allocated (hmark e)]
    · obtain ⟨htenant, rfl⟩ := htraced e he hover r hr
      exact htenant ▸ repaid_of_applied hpos hrepayments
  | spent entryId entry mark hmark hentry hpos hrepayments hsuspense =>
    refine ⟨[], [], by simp [hrepayments], ?_, by simp⟩
    rw [hsuspense, map_modify_of_eq _ fun e => identity_of_allocated (hmark e), List.append_nil]

/-- A row that identifies itself is there after the effect. -/
theorem Effect.mem_suspense {db db' : Db} {a : Option Acceptance} (h : Effect db db' a)
    {e : SuspenseEntry} (he : e ∈ db.suspense) :
    ∃ e' ∈ db'.suspense, e'.identity = e.identity := by
  obtain ⟨-, rows, -, hsuspense, -⟩ := h.rows
  have hmem : e.identity ∈ db'.suspense.map SuspenseEntry.identity :=
    hsuspense ▸ List.mem_map_of_mem (List.mem_append_left _ he)
  obtain ⟨e', he', hid⟩ := List.mem_map.mp hmem
  exact ⟨e', he', hid⟩

theorem Effect.repaid {db db' : Db} {a : Option Acceptance} (h : Effect db db' a) {tenantId : ℕ}
    {ref : String} (hr : Repaid db tenantId ref) : Repaid db' tenantId ref := by
  obtain ⟨repayments, -, hrepayments, -⟩ := h.rows
  obtain ⟨x, hx, hkey⟩ := hr
  exact ⟨x, hrepayments ▸ List.mem_append_left _ hx, hkey⟩

theorem Effect.receipted {db db' : Db} {a : Option Acceptance} (h : Effect db db' a) {tenantId : ℕ}
    {ref : String} (hr : Receipted db tenantId ref) : Receipted db' tenantId ref := by
  obtain ⟨e, he, htenant, href, hreason⟩ := hr
  obtain ⟨e', he', hid⟩ := h.mem_suspense he
  simp only [SuspenseEntry.identity, Prod.mk.injEq] at hid
  exact ⟨e', he', hid.1.trans htenant, hid.2.1.trans href, by rw [hid.2.2, hreason]⟩

theorem Effect.traced {db db' : Db} {a : Option Acceptance} (h : Effect db db' a)
    (htraced : OverpaidTraced db) : OverpaidTraced db' := by
  obtain ⟨-, rows, -, hsuspense, hover⟩ := h.rows
  intro e he hreason r href
  have hmem : e.identity ∈ (db.suspense ++ rows).map SuspenseEntry.identity :=
    hsuspense ▸ List.mem_map_of_mem he
  obtain ⟨e', he', hid⟩ := List.mem_map.mp hmem
  simp only [SuspenseEntry.identity, Prod.mk.injEq] at hid
  rw [← hid.1]
  obtain hold | hnew := List.mem_append.mp he'
  · exact h.repaid (htraced e' hold (hid.2.2.trans hreason) r (hid.2.1.trans href))
  · exact hover e' hnew (hid.2.2.trans hreason) r (hid.2.1.trans href)

theorem Effect.unique {db db' : Db} {a : Option Acceptance} (h : Effect db db' a)
    (hunique : (db.suspense.filterMap SuspenseEntry.key).Nodup) :
    (db'.suspense.filterMap SuspenseEntry.key).Nodup := by
  have hmarked : ∀ (rows : List SuspenseEntry) (entryId : ℕ) (mark : SuspenseEntry → SuspenseEntry),
      (∀ e : SuspenseEntry, e.IsAllocated (mark e)) →
      (rows.modify entryId mark).filterMap SuspenseEntry.key =
        rows.filterMap SuspenseEntry.key := by
    intro rows entryId mark hmark
    refine keys_of_faces (map_modify_of_eq _ (fun e => ?_) rows entryId)
    have hid := identity_of_allocated (hmark e)
    simp only [SuspenseEntry.identity, Prod.mk.injEq] at hid
    simp only [hid.1, hid.2.1]
  cases h with
  | kept hrepayments hsuspense =>
    have hkeys := congrArg (List.map (fun f => (f.1, f.2.1))) hsuspense
    rw [List.map_map, List.map_map] at hkeys
    rwa [keys_of_faces hkeys]
  | parkedWhole x now ref hreason href hnew hrepayments hsuspense =>
    have hfree := suspenseWithRef_of_new fun r hr => (hnew r hr).2
    rw [hsuspense, ← park_new hfree]
    exact park_unique hunique
  | applied loanId p d hnew hpos hle hrepayments hsuspense =>
    rw [hsuspense]
    exact parkRest_unique loanId p d hunique
  | allocated loanId p d entryId entry mark hmark hentry htenant hstatus hamount href hfree hown
      hpos hle hrepayments hsuspense =>
    rw [hsuspense, hmarked _ _ _ hmark]
    exact parkRest_unique loanId p d hunique
  | spent entryId entry mark hmark hentry hpos hrepayments hsuspense =>
    rwa [hsuspense, hmarked _ _ _ hmark]

/-- A recorded reference is one the check sees. -/
def Recorded (db : Db) (tenantId : ℕ) (ref : String) : Prop :=
  Repaid db tenantId ref ∨ Receipted db tenantId ref

theorem Recorded.not_new {db : Db} {tenantId : ℕ} {ref : String} (h : Recorded db tenantId ref)
    (hrepaid : ¬ Repaid db tenantId ref) (hparked : ¬ Parked db tenantId ref) : False :=
  h.elim hrepaid fun hr => hparked hr.parked

/-- An applied payment records its amount under its own reference and nothing under any
other. -/
theorem recordedMoney_applied {db db' : Db} {loanId : ℕ} {p : Payment} {d : Division}
    (hpos : 0 < d.applied) (hle : d.applied ≤ p.amount)
    (hrepayments : db'.repayments = db.repayments ++ repaymentRow loanId p d)
    (hsuspense : db'.suspense = parkRest db.suspense loanId p d) (tenantId : ℕ) (ref : String) :
    recordedMoney db' tenantId ref ≤ recordedMoney db tenantId ref +
      if p.tenantId = tenantId ∧ p.reference = ref then p.amount else 0 := by
  have hrest := sum_parkRest db.suspense loanId p d hle tenantId ref
  simp only [recordedMoney, hrepayments, hsuspense, List.map_append, List.sum_append,
    sum_repaymentRow loanId p d hpos]
  split_ifs at hrest ⊢ <;> omega

/-- Money moved out of suspense is recorded like any payment, less what the entry counted. -/
theorem recordedMoney_allocated {db db' : Db} {loanId entryId : ℕ} {p : Payment} {d : Division}
    {entry : SuspenseEntry} {mark : SuspenseEntry → SuspenseEntry}
    (hentry : db.suspense[entryId]? = some entry) (hpos : 0 < d.applied)
    (hle : d.applied ≤ p.amount)
    (hrepayments : db'.repayments = db.repayments ++ repaymentRow loanId p d)
    (hsuspense : db'.suspense = (parkRest db.suspense loanId p d).modify entryId mark)
    (tenantId : ℕ) (ref : String) :
    recordedMoney db' tenantId ref ≤ recordedMoney db tenantId ref -
      parkedFor tenantId ref entry + parkedFor tenantId ref (mark entry) +
        if p.tenantId = tenantId ∧ p.reference = ref then p.amount else 0 := by
  obtain ⟨rows, hrows, -⟩ := parkRest_traced db.suspense loanId p d
  have hentry' : (parkRest db.suspense loanId p d)[entryId]? = some entry := by
    rw [hrows, List.getElem?_append_left (List.getElem?_eq_some_iff.mp hentry).1, hentry]
  have hrest := sum_parkRest db.suspense loanId p d hle tenantId ref
  simp only [recordedMoney, hrepayments, hsuspense, List.map_append, List.sum_append,
    sum_repaymentRow loanId p d hpos, sum_map_modify (parkedFor tenantId ref) mark hentry']
  split_ifs at hrest ⊢ <;> omega

/-- A receipt counts in full until it is moved to a loan. -/
theorem parkedFor_receipt {tenantId : ℕ} {ref : String} {e : SuspenseEntry}
    (htenant : e.tenantId = tenantId) (href : e.mpesaRef = some ref)
    (hreason : e.reason.ofRest = false) (hstatus : e.status ≠ .allocated) :
    parkedFor tenantId ref e = e.amount :=
  if_pos ⟨htenant, .inl ⟨href, hreason, hstatus⟩⟩

/-- Nothing more is recorded for a reference that is recorded already. -/
theorem Effect.money_kept {db db' : Db} {a : Option Acceptance} (h : Effect db db' a)
    (hunique : (db.suspense.filterMap SuspenseEntry.key).Nodup) (htraced : OverpaidTraced db)
    {tenantId : ℕ} {ref : String} (hne : ref ≠ "") (hr : Recorded db tenantId ref) :
    recordedMoney db' tenantId ref ≤ recordedMoney db tenantId ref := by
  cases h with
  | kept hrepayments hsuspense =>
    simp only [recordedMoney, hrepayments, sum_parkedFor_congr hsuspense, le_refl]
  | parkedWhole x now own hreason href hnew hrepayments hsuspense =>
    have hother : parkedFor tenantId ref (x.entry now) = 0 := by
      refine if_neg ?_
      rintro ⟨rfl, ⟨hown, -, -⟩ | ⟨-, hover⟩⟩
      · exact hr.not_new (hnew ref hown).1 (hnew ref hown).2
      · rw [show (x.entry now).reason = x.reason from rfl] at hover
        rw [hover] at hreason
        cases hreason
    simp [recordedMoney, hrepayments, hsuspense, hother]
  | applied loanId p d hnew hpos hle hrepayments hsuspense =>
    have hother : ¬ (p.tenantId = tenantId ∧ p.reference = ref) := by
      rintro ⟨rfl, rfl⟩
      exact hr.not_new (hnew hne).1 (hnew hne).2
    simpa [hother] using recordedMoney_applied hpos hle hrepayments hsuspense tenantId ref
  | allocated loanId p d entryId entry mark hmark hentry htenant hstatus hamount href hfree hown
      hpos hle hrepayments hsuspense =>
    have hmoney := recordedMoney_allocated hentry hpos hle hrepayments hsuspense tenantId ref
    by_cases hsame : p.tenantId = tenantId ∧ p.reference = ref
    · obtain ⟨rfl, rfl⟩ := hsame
      obtain hrepaid | ⟨e, he, htenant', href', hreason⟩ := hr
      · exact absurd hrepaid hfree
      · have hkey : entry.mpesaRef = some p.reference :=
          hown.resolve_right fun hnone => hnone ⟨e, he, htenant', href'⟩
        have hmem := List.mem_of_getElem? hentry
        obtain rfl : e = entry := eq_of_unique hunique he (List.mem_of_getElem? hentry)
          (k := (p.tenantId, p.reference)) (by simp [SuspenseEntry.key, htenant', href'])
          (by simp [SuspenseEntry.key, htenant, hkey])
        have hbefore := recordedMoney_eq_entry htraced hunique hfree he htenant' href'
        have hreceipt := parkedFor_receipt htenant' href' hreason hstatus
        rw [if_pos ⟨rfl, rfl⟩, parkedFor_own (hmark e) href'] at hmoney
        omega
    · have hless := parkedFor_allocated tenantId ref (hmark entry) (by omega)
      rw [if_neg hsame] at hmoney
      omega
  | spent entryId entry mark hmark hentry hpos hrepayments hsuspense =>
    have hless := parkedFor_allocated tenantId ref (hmark entry) hpos
    simp only [recordedMoney, hrepayments, hsuspense,
      sum_map_modify (parkedFor tenantId ref) mark hentry]
    omega

/-- What an effect records for the reference it accepts is at most what was received. -/
theorem Effect.money_new {db db' : Db} {a : Option Acceptance} (h : Effect db db' a)
    (hunique : (db.suspense.filterMap SuspenseEntry.key).Nodup) (htraced : OverpaidTraced db)
    {x : Acceptance} (hx : x ∈ a) : x.ref ≠ "" ∧ Recorded db' x.tenantId x.ref ∧
      recordedMoney db' x.tenantId x.ref ≤ x.amount := by
  cases h with
  | kept hrepayments hsuspense => cases hx
  | parkedWhole receipt now ref hreason href hnew hrepayments hsuspense =>
    obtain ⟨r, hr, rfl⟩ := Option.map_eq_some_iff.mp hx
    have hown := href r hr
    have hzero := recordedMoney_eq_zero htraced (hnew r hown).1 (hnew r hown).2
    have hcounts : parkedFor receipt.tenantId r (receipt.entry now) = receipt.amount :=
      parkedFor_receipt rfl hown hreason (by simp [Receipt.entry])
    refine ⟨(nonEmpty_eq_some.mp hown).2, .inr ?_, ?_⟩
    · exact ⟨receipt.entry now, by simp [hsuspense], rfl, hown, hreason⟩
    · simp only [recordedMoney, hrepayments, hsuspense, List.map_append, List.sum_append,
        List.map_cons, List.map_nil, List.sum_cons, List.sum_nil, hcounts] at hzero ⊢
      omega
  | applied loanId p d hnew hpos hle hrepayments hsuspense =>
    obtain ⟨r, hr, rfl⟩ := Option.map_eq_some_iff.mp hx
    obtain ⟨hown, href⟩ := nonEmpty_eq_some.mp hr
    obtain rfl := Option.some.inj hown
    have hzero := recordedMoney_eq_zero htraced (hnew href).1 (hnew href).2
    have hmoney := recordedMoney_applied hpos hle hrepayments hsuspense p.tenantId p.reference
    rw [if_pos ⟨rfl, rfl⟩] at hmoney
    exact ⟨href, .inl (repaid_of_applied hpos hrepayments), by dsimp only; omega⟩
  | allocated loanId p d entryId entry mark hmark hentry htenant hstatus hamount href hfree hown
      hpos hle hrepayments hsuspense =>
    obtain rfl := Option.mem_some_iff.mp hx
    have hmoney :=
      recordedMoney_allocated hentry hpos hle hrepayments hsuspense p.tenantId p.reference
    have hmem := List.mem_of_getElem? hentry
    rw [if_pos ⟨rfl, rfl⟩] at hmoney
    refine ⟨href, .inl (repaid_of_applied hpos hrepayments), ?_⟩
    dsimp only
    obtain hkey | hnone := hown
    · rw [recordedMoney_eq_entry htraced hunique hfree hmem htenant hkey,
        parkedFor_own (hmark entry) hkey] at hmoney
      omega
    · have hless := parkedFor_allocated p.tenantId p.reference
        (hmark entry) (by omega)
      rw [recordedMoney_eq_zero htraced hfree hnone] at hmoney
      omega
  | spent entryId entry mark hmark hentry hpos hrepayments hsuspense => cases hx

/-- The books are in order: references in suspense are apart, overpayments belong to a
repayment, and every accepted reference is recorded, within what was received. -/
structure Ledgered (s : Till) : Prop where
  unique : (s.db.suspense.filterMap SuspenseEntry.key).Nodup
  traced : OverpaidTraced s.db
  named : ∀ a ∈ s.accepted, a.ref ≠ ""
  recorded : ∀ a ∈ s.accepted, Recorded s.db a.tenantId a.ref
  money : ∀ a ∈ s.accepted, recordedMoney s.db a.tenantId a.ref ≤ a.amount

/-- Every effect keeps the books in order. -/
theorem Ledgered.step {s : Till} {db' : Db} {a : Option Acceptance} (hs : Ledgered s)
    (h : Effect s.db db' a) : Ledgered ⟨db', s.accepted ++ a.toList⟩ := by
  have hnew := fun x (hx : x ∈ a.toList) =>
    h.money_new hs.unique hs.traced (Option.mem_toList.mp hx)
  refine ⟨h.unique hs.unique, h.traced hs.traced, fun x hx => ?_, fun x hx => ?_, fun x hx => ?_⟩
  all_goals obtain hold | hacc := List.mem_append.mp hx
  · exact hs.named x hold
  · exact (hnew x hacc).1
  · exact (hs.recorded x hold).imp h.repaid h.receipted
  · exact (hnew x hacc).2.1
  · exact (h.money_kept hs.unique hs.traced (hs.named x hold) (hs.recorded x hold)).trans
      (hs.money x hold)
  · exact (hnew x hacc).2.2

end FinylDcp
