import FinylDcp.PaymentRows
import FinylDcp.ReferenceEffects

/-!
# Rows under one reference

What the payments that carry one reference add to the tables, and the trace a callback
leaves in the transaction rows when it commits beside others. Two such traces in
different rows break the unique index.
-/
namespace FinylDcp
open Db Tables Text

/-- A reference of the tenant is recorded, as a repayment or in suspense. -/
def Used (db : Db) (tenantId : ℕ) (ref : String) : Prop :=
  Repaid db tenantId ref ∨ Parked db tenantId ref

/-- What a transaction adds for a tenant under a reference: nothing, its repayment, or its
receipt in suspense. -/
inductive Adds (tenantId : ℕ) (ref : String) (rows : List Repayment)
    (entries : List SuspenseEntry) :
    Prop
  | nothing (hrows : ∀ x ∈ rows, x.tenantId ≠ tenantId)
      (hentries : ∀ e ∈ entries, e.tenantId ≠ tenantId)
  | repayment (x : Repayment) (hrows : rows = [x])
      (hx : x.tenantId = tenantId ∧ x.mpesaRef = some ref)
      (hentries : ∀ e ∈ entries, e.mpesaRef ≠ some ref)
  | receipt (e : SuspenseEntry) (hrows : rows = []) (hentries : entries = [e])
      (he : e.tenantId = tenantId ∧ e.mpesaRef = some ref)

/-- Some of the rows are the tenant's. -/
def Records (tenantId : ℕ) (rows : List Repayment) (entries : List SuspenseEntry) : Prop :=
  (∃ x ∈ rows, x.tenantId = tenantId) ∨ ∃ e ∈ entries, e.tenantId = tenantId

instance (tenantId : ℕ) (rows : List Repayment) (entries : List SuspenseEntry) :
    Decidable (Records tenantId rows entries) := by
  unfold Records
  infer_instance

/-- What records something for the tenant is a repayment or a receipt under the reference. -/
theorem Adds.of_records {tenantId : ℕ} {ref : String} {rows : List Repayment}
    {entries : List SuspenseEntry} (h : Adds tenantId ref rows entries)
    (hrecords : Records tenantId rows entries) :
    (∃ x, rows = [x] ∧ (x.tenantId = tenantId ∧ x.mpesaRef = some ref) ∧
      ∀ e ∈ entries, e.mpesaRef ≠ some ref) ∨
    ∃ e, rows = [] ∧ entries = [e] ∧ e.tenantId = tenantId ∧ e.mpesaRef = some ref := by
  cases h with
  | nothing hrows hentries =>
    obtain ⟨x, hx, htenant⟩ | ⟨e, he, htenant⟩ := hrecords
    · exact absurd htenant (hrows x hx)
    · exact absurd htenant (hentries e he)
  | repayment x hrows hx hentries => exact .inl ⟨x, hrows, hx, hentries⟩
  | receipt e hrows hentries he => exact .inr ⟨e, hrows, hentries, he⟩

/-- The rows of a payment, whatever loan object it was applied to. -/
theorem payLoan_rows {db : Db} {loanId : ℕ} {loan : Loan} {p : Payment} {out : Db × ApplyResult}
    (h : payLoan db loanId loan p = .ok out) : out.1.transactions = db.transactions ∧
    out.1.pending = db.pending ∧
    ((¬ Accepts db loan p ∧ out.1.repayments = db.repayments ∧ out.1.suspense = db.suspense ∧
        out.2.status = .duplicateIgnored) ∨
      (Accepts db loan p ∧ loan.status.collectible = false ∧ out.1.repayments = db.repayments ∧
        out.1.suspense = (park db.suspense (closedLoanReceipt loanId p) p.now).1 ∧
        out.2.status = .suspense ∧ out.2.ref = p.reference) ∨
      (Accepts db loan p ∧ loan.status.collectible = true ∧
        out.1.repayments = db.repayments ++ repaymentRow loanId p (divisionOf db loanId loan p) ∧
        out.1.suspense = parkRest db.suspense loanId p (divisionOf db loanId loan p) ∧
        out.2.status = .applied ∧ out.2.ref = p.reference)) := by
  obtain ⟨applied, hpay, rfl⟩ := map_eq_ok.mp h
  obtain ⟨hacc, hdb, -, hstatus⟩ | ⟨hacc, hcoll, hdb, -, hstatus, href, -⟩ | ⟨hacc, hcoll, rfl⟩ :=
    applyPayment_cases hpay
  · simp only [flushLoan, hdb, true_and]
    exact .inl ⟨hacc, hstatus⟩
  · simp only [flushLoan, hdb, recordSuspense, true_and]
    exact .inr (.inl ⟨hacc, hcoll, hstatus, href⟩)
  · obtain ⟨logs, borrowers, hdb⟩ := applyToOpenLoan_db db loanId loan p
    obtain ⟨hstatus, href, -⟩ := applyToOpenLoan_result db loanId loan p
    simp only [flushLoan, hdb, true_and]
    exact .inr (.inr ⟨hacc, hcoll, hstatus, href⟩)

/-- The rest of a payment never carries the payment's own reference. -/
theorem parkRest_other (suspense : List SuspenseEntry) (loanId : ℕ) (p : Payment) (d : Division) :
    ∃ rest, parkRest suspense loanId p d = suspense ++ rest ∧
      ∀ e ∈ rest, e.tenantId = p.tenantId ∧ e.mpesaRef ≠ some p.reference := by
  obtain ⟨excess, refund, hrows, hover, hrefund⟩ := parkRest_rows suspense loanId p d
  refine ⟨excess ++ refund, by rw [hrows, List.append_assoc], fun e he => ?_⟩
  obtain hmem | hmem := List.mem_append.mp he
  · obtain rfl | ⟨-, rfl⟩ := hover
    · cases hmem
    · obtain rfl := List.mem_singleton.mp hmem
      refine ⟨rfl, fun href => ?_⟩
      have hown : nonEmpty (some (p.reference ++ "-OVR")) = some p.reference := href
      exact ne_suffix p.reference (by decide) (Option.some.inj (nonEmpty_eq_some.mp hown).1).symm
  · obtain rfl | rfl := hrefund
    · cases hmem
    · obtain rfl := List.mem_singleton.mp hmem
      refine ⟨rfl, fun href => ?_⟩
      have hown : nonEmpty (some (p.reference ++ "-INT")) = some p.reference := href
      exact ne_suffix p.reference (by decide) (Option.some.inj (nonEmpty_eq_some.mp hown).1).symm

/-- A new reference is not used, for whichever tenant the payment is. -/
theorem Accepts.unused {db : Db} {loan : Loan} {p : Payment} (h : Accepts db loan p)
    (hsource : p.fromSuspense = false) (href : p.reference ≠ "") :
    ¬ Used db p.tenantId p.reference := by
  obtain ⟨hrepaid, hparked⟩ := (referenceAlreadyUsed_eq_none href).mp h.2.2
  exact not_or.mpr ⟨hrepaid, hparked (by rw [hsource]; rfl)⟩

/-- A payment that finds something to pay adds its repayment or its receipt, or nothing,
as when the reference is used; on an open loan it leaves no receipt. -/
theorem payLoan_adds {db : Db} {loanId : ℕ} {loan : Loan} {p : Payment} {out : Db × ApplyResult}
    (hsource : p.fromSuspense = false) (href : p.reference ≠ "") (tenantId : ℕ)
    (hplace : Accepts db loan p → loan.status.collectible = true → SomethingToPay db loanId loan p)
    (h : payLoan db loanId loan p = .ok out) :
    ∃ rows entries, out.1.repayments = db.repayments ++ rows ∧
      out.1.suspense = db.suspense ++ entries ∧ Adds tenantId p.reference rows entries ∧
      (Records tenantId rows entries → p.tenantId = tenantId ∧ ¬ Used db tenantId p.reference ∧
        out.2.status ≠ .duplicateIgnored ∧ out.2.ref = p.reference) ∧
      ((Accepts db loan p → loan.status.collectible = true) →
        ∀ e ∈ entries, e.mpesaRef ≠ some p.reference) := by
  obtain ⟨-, -, ⟨-, hrows, hentries, -⟩ | ⟨hacc, hcoll, hrows, hentries, hstatus, hout⟩ |
    ⟨hacc, hcoll, hrows, hentries, hstatus, hout⟩⟩ := payLoan_rows h
  · exact ⟨[], [], by simp [hrows], by simp [hentries], .nothing (by simp) (by simp),
      by simp [Records], by simp⟩
  · have hunused := hacc.unused hsource href
    have hnew : suspenseWithRef db.suspense p.tenantId (some p.reference) = none :=
      suspenseWithRef_of_new fun r hr => by
        obtain rfl := Option.some.inj (nonEmpty_eq_some.mp hr).1
        exact fun hparked => hunused (.inr hparked)
    have hown : nonEmpty (some p.reference) = some p.reference := nonEmpty_eq_some.mpr ⟨rfl, href⟩
    refine ⟨[], [(closedLoanReceipt loanId p).entry p.now], by simp [hrows],
      hentries.trans (park_new hnew), ?_, ?_, by simp [hcoll, hacc]⟩
    · by_cases htenant : p.tenantId = tenantId
      · exact .receipt _ rfl rfl ⟨htenant, hown⟩
      · exact .nothing (by simp) (by simpa [Receipt.entry, closedLoanReceipt] using htenant)
    · rintro (⟨x, hx, -⟩ | ⟨e, he, htenant⟩)
      · cases hx
      · obtain rfl := List.mem_singleton.mp he
        obtain rfl : p.tenantId = tenantId := htenant
        exact ⟨rfl, hunused, by simp [hstatus], hout⟩
  · have hunused := hacc.unused hsource href
    have hpos := (applied_pos hacc).mpr (hplace hacc hcoll)
    obtain ⟨rest, hrest, hother⟩ :=
      parkRest_other db.suspense loanId p (divisionOf db loanId loan p)
    have hown : ∀ x ∈ repaymentRow loanId p (divisionOf db loanId loan p), x.tenantId =
        p.tenantId := by
      simp [repaymentRow, hpos]
    refine ⟨_, rest, hrows, hentries.trans hrest, ?_, ?_, fun _ e he => (hother e he).2⟩
    · by_cases htenant : p.tenantId = tenantId
      · exact .repayment _ (if_pos hpos) ⟨htenant, rfl⟩ fun e he => (hother e he).2
      · exact .nothing (fun x hx => hown x hx ▸ htenant) fun e he => (hother e he).1 ▸ htenant
    · intro hrecords
      obtain rfl : p.tenantId = tenantId := by
        obtain ⟨x, hx, htenant⟩ | ⟨e, he, htenant⟩ := hrecords
        · rw [← htenant, hown x hx]
        · rw [← htenant, (hother e he).1]
      exact ⟨rfl, hunused, by simp [hstatus], hout⟩

/-- Rows stay, and those that carry the reference keep it. -/
def Grown (ref : String) (xs ys : List PaymentTransaction) : Prop :=
  ∀ (i : ℕ) (x : PaymentTransaction), xs[i]? = some x →
    ∃ y : PaymentTransaction, ys[i]? = some y ∧ y.kind = x.kind ∧
    (x.mpesaRef = some ref → y.mpesaRef = some ref)

theorem Grown.refl (ref : String) (xs : List PaymentTransaction) : Grown ref xs xs :=
  fun _ x hx => ⟨x, hx, rfl, id⟩

theorem Grown.trans {ref : String} {xs ys zs : List PaymentTransaction} (hxy : Grown ref xs ys)
    (hyz : Grown ref ys zs) : Grown ref xs zs := by
  intro i x hx
  obtain ⟨y, hy, hkind, hkeeps⟩ := hxy i x hx
  obtain ⟨z, hz, hkind', hkeeps'⟩ := hyz i y hy
  exact ⟨z, hz, hkind'.trans hkind, hkeeps' ∘ hkeeps⟩

/-- A session changes no reference of a row but to set this one. -/
def OnlySets (ref : String) (before after : List PaymentTransaction) : Prop :=
  ∀ (i : ℕ) (b a : PaymentTransaction), before[i]? = some b → after[i]? = some a →
    a.kind = b.kind ∧ (a.mpesaRef = b.mpesaRef ∨ a.mpesaRef = some ref)

theorem OnlySets.refl (ref : String) (before : List PaymentTransaction) :
    OnlySets ref before before :=
  fun _ _ _ hb ha => by rw [Option.some.inj (hb.symm.trans ha)]; exact ⟨rfl, .inl rfl⟩

theorem onlySets_append (ref : String) (before rows : List PaymentTransaction) :
    OnlySets ref before (before ++ rows) := by
  intro i b a hb ha
  rw [List.getElem?_append_left (List.getElem?_eq_some_iff.mp hb).1, hb] at ha
  obtain rfl := Option.some.inj ha
  exact ⟨rfl, .inl rfl⟩

theorem onlySets_modify {ref : String} {f : PaymentTransaction → PaymentTransaction}
    (h : ∀ t, (f t).kind = t.kind ∧ ((f t).mpesaRef = t.mpesaRef ∨ (f t).mpesaRef = some ref))
    (before : List PaymentTransaction) (x : ℕ) : OnlySets ref before (before.modify x f) := by
  intro i b a hb ha
  rw [List.getElem?_modify, hb] at ha
  split_ifs at ha
  · obtain rfl := Option.some.inj ha
    exact h b
  · obtain rfl := Option.some.inj ha
    exact ⟨rfl, .inl rfl⟩

theorem flush_kind {row loaded changed : PaymentTransaction} (h : changed.kind = loaded.kind) :
    (row.flush loaded changed).kind = row.kind := by
  simp only [PaymentTransaction.kind, Prod.mk.injEq] at h
  simp [PaymentTransaction.flush, PaymentTransaction.kind, h]

/-- The commit of a session leaves the rows of others in place. -/
theorem grown_merge {ref : String} {before after : List PaymentTransaction}
    (h : OnlySets ref before after) (now : List PaymentTransaction) :
    Grown ref now (mergeRows PaymentTransaction.flush before after now) := by
  intro i row hrow
  refine ⟨_, mergeRows_getElem? _ _ _ hrow, ?_⟩
  split
  · rename_i b a hb ha
    obtain ⟨hkind, hsets⟩ := h i b a hb ha
    refine ⟨flush_kind hkind, fun hkeeps => ?_⟩
    simp only [PaymentTransaction.flush, flushColumn]
    split_ifs with hsame
    · exact hkeeps
    · exact hsets.resolve_left hsame
  · exact ⟨rfl, id⟩

/-- A row of the tenant carries the reference, and no push on the loan can change it. -/
def Marker (tenantId : ℕ) (ref : String) (loan : Option ℕ) (db : Db) : Prop :=
  ∃ (i : ℕ) (row : PaymentTransaction), db.transactions[i]? = some row ∧
    row.tenantId = tenantId ∧ row.mpesaRef = some ref ∧ ¬ (row.type = .stkPush ∧ row.loanId = loan)

theorem Marker.grown {tenantId : ℕ} {ref : String} {loan : Option ℕ} {db db' : Db}
    (h : Marker tenantId ref loan db) (hgrown : Grown ref db.transactions db'.transactions) :
    Marker tenantId ref loan db' := by
  obtain ⟨i, row, hrow, htenant, href, hother⟩ := h
  obtain ⟨row', hrow', hkind, hkeeps⟩ := hgrown i row hrow
  simp only [PaymentTransaction.kind, Prod.mk.injEq] at hkind
  exact ⟨i, row', hrow', hkind.1.trans htenant, hkeeps href, by rwa [hkind.2.1, hkind.2.2]⟩

/-- A callback leaves the reference on a transaction row: a new one, or that of its push. -/
inductive Marks (tenantId : ℕ) (ref : String) (loan : Option ℕ)
    (before after : List PaymentTransaction) : Prop
  | added (row : PaymentTransaction) (hafter : after = before ++ [row])
      (htenant : row.tenantId = tenantId) (href : row.mpesaRef = some ref)
      (htype : row.type ≠ .stkPush)
  | pushed (loanId x : ℕ) (b a : PaymentTransaction) (hloan : loan = some loanId)
      (hbefore : before[x]? = some b) (hafter : after[x]? = some a) (href : a.mpesaRef = some ref)
      (hkind : a.kind = (tenantId, .stkPush, some loanId))

/-- The marked row after the commit: a new one, or one of the loan's pushes. -/
theorem Marks.merge {tenantId : ℕ} {ref : String} {loan : Option ℕ}
    {before after now : List PaymentTransaction} (h : Marks tenantId ref loan before after)
    (hsets : OnlySets ref before after) (hgrown : Grown ref before now) :
    ∃ x row, (mergeRows PaymentTransaction.flush before after now)[x]? = some row ∧
      row.tenantId = tenantId ∧ row.mpesaRef = some ref ∧
      ((now.length ≤ x ∧ row.type ≠ .stkPush) ∨
        ∃ loanId, loan = some loanId ∧ row.kind = (tenantId, .stkPush, some loanId)) := by
  cases h with
  | added row hafter htenant href htype =>
    subst hafter
    exact ⟨now.length, row, mergeRows_new, htenant, href, .inl ⟨le_rfl, htype⟩⟩
  | pushed loanId x b a hloan hbefore hafter href hkind =>
    obtain ⟨n, hn, hkindN, hkeeps⟩ := hgrown x b hbefore
    have hrow := mergeRows_getElem? PaymentTransaction.flush before after hn
    rw [hbefore, hafter] at hrow
    obtain ⟨hkindA, -⟩ := hsets x b a hbefore hafter
    have hkindM : (n.flush b a).kind = (tenantId, .stkPush, some loanId) := by
      rw [flush_kind hkindA, hkindN, ← hkindA, hkind]
    refine ⟨x, _, hrow, ?_, ?_, .inr ⟨loanId, hloan, hkindM⟩⟩
    · exact congrArg Prod.fst hkindM
    · simp only [PaymentTransaction.flush, flushColumn]
      split_ifs with hsame
      · exact hkeeps (hsame.symm.trans href)
      · exact href

/-- Two rows with the reference: the unique index of the transactions is broken. -/
theorem Marker.not_indexed {tenantId : ℕ} {ref : String} {loan : Option ℕ} {before after db : Db}
    (h : Marker tenantId ref loan db)
    (hmarks : Marks tenantId ref loan before.transactions after.transactions)
    (hsets : OnlySets ref before.transactions after.transactions)
    (hgrown : Grown ref before.transactions db.transactions) :
    (Db.merge before after db).indexed ≠ true := by
  intro hindexed
  obtain ⟨i, row, hrow, -, -, -⟩ := id h
  obtain ⟨x, marked, hx, htenant, href, hwhere⟩ := hmarks.merge hsets hgrown
  obtain ⟨j, other, hother, htenant', href', hnot⟩ := h
  obtain ⟨other', hj, hkind, hkeeps⟩ := grown_merge hsets db.transactions j other hother
  simp only [PaymentTransaction.kind, Prod.mk.injEq] at hkind
  obtain ⟨-, hunique, -⟩ := Db.indexed_iff.mp hindexed
  have hsame := index_eq_of_unique hunique hx hj (k := (tenantId, ref))
    (by simp [PaymentTransaction.key, htenant, href])
    (by simp [PaymentTransaction.key, hkind, htenant', hkeeps href'])
  obtain ⟨hlength, -⟩ | ⟨loanId, hloan, hpush⟩ := hwhere
  · have := (List.getElem?_eq_some_iff.mp hother).1
    omega
  · subst hsame
    obtain rfl := Option.some.inj (hx.symm.trans hj)
    simp only [PaymentTransaction.kind, Prod.mk.injEq] at hpush
    exact hnot ⟨hkind.2.1.symm.trans hpush.2.1, by rw [← hkind.2.2, hpush.2.2, hloan]⟩

section Indexes

variable {db : Db} {loanId : ℕ} {loan : Loan} {p : Payment}

theorem park_nodup {suspense : List SuspenseEntry} {x : Receipt} {ref : String} (now : ℤ)
    (h : (suspense.filterMap SuspenseEntry.key).Nodup) (href : x.ref = some ref) (hne : ref ≠ "") :
    ((park suspense x now).1.filterMap SuspenseEntry.key).Nodup := by
  by_cases hfree : suspenseWithRef suspense x.tenantId x.ref = none
  · rw [park_new hfree]
    rw [href] at hfree
    refine nodup_append_row h fun k hk e he hkey => ?_
    have hentry : nonEmpty (some ref) = some ref := nonEmpty_eq_some.mpr ⟨rfl, hne⟩
    have hk' : k = (x.tenantId, ref) := by
      simpa [SuspenseEntry.key, Receipt.entry, href, hentry, eq_comm] using hk
    rw [hk', SuspenseEntry.key, Option.map_eq_some_iff] at hkey
    obtain ⟨r, hr, hpair⟩ := hkey
    obtain ⟨htenant, rfl⟩ := Prod.mk.inj hpair
    exact (suspenseWithRef_eq_none hne).mp hfree e he htenant hr
  · rw [park_known hfree]
    exact h

theorem parkRest_nodup {suspense : List SuspenseEntry} (d : Division)
    (h : (suspense.filterMap SuspenseEntry.key).Nodup) :
    ((parkRest suspense loanId p d).filterMap SuspenseEntry.key).Nodup := by
  have hovr : p.reference ++ "-OVR" ≠ "" := by simp
  have hint : p.reference ++ "-INT" ≠ "" := by simp
  have hexcess : ∀ x, ((park suspense (overpaymentReceipt loanId p x) p.now).1.filterMap
      SuspenseEntry.key).Nodup := fun x => park_nodup p.now h rfl hovr
  simp only [parkRest]
  split_ifs
  · exact park_nodup p.now (hexcess _) rfl hint
  · exact park_nodup p.now h rfl hint
  · exact hexcess _
  · exact h

/-- The rows of a payment under a reference that is not empty keep the indexes of
repayments and suspense entries. -/
theorem payLoan_nodup {out : Db × ApplyResult} (hindexed : db.indexed = true)
    (hne : p.reference ≠ "") (h : payLoan db loanId loan p = .ok out) :
    (out.1.repayments.filterMap Repayment.key).Nodup ∧
      (out.1.suspense.filterMap SuspenseEntry.key).Nodup := by
  obtain ⟨hr, -, hs⟩ := Db.indexed_iff.mp hindexed
  rcases (payLoan_rows h).2.2 with ⟨-, hrep, hsus, -⟩ | ⟨-, -, hrep, hsus, -⟩ |
    ⟨hacc, -, hrep, hsus, -⟩
  · rw [hrep, hsus]
    exact ⟨hr, hs⟩
  · rw [hrep, hsus]
    exact ⟨hr, park_nodup p.now hs rfl hne⟩
  · rw [hrep, hsus]
    refine ⟨?_, parkRest_nodup _ hs⟩
    have hnew := ((referenceAlreadyUsed_eq_none hne).mp hacc.2.2).1
    simp only [repaymentRow]
    split
    · refine nodup_append_row hr fun k hk r hmem hkey => hnew ⟨r, hmem, ?_⟩
      obtain rfl : (p.tenantId, p.reference) = k := by simpa [Repayment.key] using hk
      rw [Repayment.key, Option.map_eq_some_iff] at hkey
      obtain ⟨ref, href, hpair⟩ := hkey
      obtain ⟨htenant, rfl⟩ := Prod.mk.inj hpair
      exact ⟨htenant, href⟩
    · rw [List.append_nil]
      exact hr

end Indexes

end FinylDcp
