import FinylDcp.PaymentColumns
import FinylDcp.PaymentUpload
import FinylDcp.ReferenceRows
import FinylDcp.Runs

/-!
# The outcomes of a batch upload

When a file of payments is read to its end, and what its rows then are: each ends in one
list, and each accepted one does what a single manual entry does.
-/
namespace FinylDcp
open Runs Tables Text

/-- The manual entry an accepted row stands for, on the loan its account names. -/
def FileEntry.single (e : FileEntry) (job : UploadJob) (line loanId : ℕ) : ManualPaymentIn where
  loanId := some loanId
  customerNumber := none
  amount := e.amount
  channel := e.channel
  reference := some e.reference
  paidAt := some (e.paidAt.getD job.now)
  payerName := none
  payerPhone := none
  note := uploadNote job line

/-- A row ended as recorded: an accepted one did what `POST /payments/manual` would do with its
entry, any other changed nothing. -/
def SameAsSingle (job : UploadJob) (db : Db) (line : ℕ) (row : FileRow) (o : RowOutcome)
    (db' : Db) :
    Prop :=
  match o with
  | .parked _ reference loanId pendingId => ∃ e, readRow row line job.now = .entry e ∧
      e.reference = reference ∧ recordManualPayment db job.tenantId job.makerId
        (e.single job line loanId) (job.needsChecker e.amount) "" job.now =
          .ok (db', .awaitingApproval pendingId)
  | .applied _ reference loanId amount => ∃ e result, readRow row line job.now = .entry e ∧
      e.reference = reference ∧ recordManualPayment db job.tenantId job.makerId
        (e.single job line loanId) (job.needsChecker e.amount) "" job.now =
          .ok (db', .payment job.tenantId result) ∧ result.applied = amount
  | _ => db' = db

/-- The rows from a line on, with the outcome of each, as single entries one after the other. -/
inductive SinglyEntered (job : UploadJob) :
    Db → ℕ → List FileRow → List RowOutcome → Db → Prop
  | nil (db : Db) (line : ℕ) : SinglyEntered job db line [] [] db
  | cons {db mid db' : Db} {line : ℕ} {row : FileRow} {rows : List FileRow} {o : RowOutcome}
      {os : List RowOutcome} (hline : o.line = line) (h : SameAsSingle job db line row o mid)
      (hrest : SinglyEntered job mid (line + 1) rows os db') :
      SinglyEntered job db line (row :: rows) (o :: os) db'

/-- A reference is recorded nowhere and waits nowhere. -/
def ReferenceFree (db : Db) (tenantId : ℕ) (ref : String) : Prop :=
  ¬ Repaid db tenantId ref ∧ ¬ Parked db tenantId ref ∧ pendingWithReference db tenantId ref = false

/-- All lists together. -/
def UploadGroups.all (g : UploadGroups) : List RowOutcome :=
  g.parked ++ g.applied ++ g.unmatched ++ g.duplicates ++ g.errors

/-- The file is read to its end: every row up to the limit, and the first one beyond it, is in
one list once; the rows did one after the other what single entries do; and no reference was
accepted that is used already, or twice. -/
def UploadHandled (db : Db) (job : UploadJob) (file : PaymentFile) : Prop :=
  ∃ saved outcomes, paymentUpload db job file = .ok (saved, uploadGroups file outcomes) ∧
    ((uploadGroups file outcomes).all.map (·.line)).Perm
      (List.range' 2 (min (maxRows + 1) file.rows.length)) ∧
    SinglyEntered job db 2 (file.rows.take maxRows) outcomes saved ∧
    (outcomes.filterMap (·.accepted)).Nodup ∧
    ∀ ref ∈ outcomes.filterMap (·.accepted), ReferenceFree db job.tenantId ref

/-- The row gives an account, an amount and a reference. -/
def FileRow.Complete (row : FileRow) : Prop :=
  row.account.isSome = true ∧ row.cell "amount" ≠ "" ∧ row.reference.isSome = true

/-- The open loan an account names. -/
def openLoanNamed (db : Db) (tenantId : ℕ) (account : String) : Option (ℕ × Loan) :=
  ((matchReference db tenantId (some account) none).loan.bind (fun id =>
    (db.loans[id]?).map (fun loan => (id, loan)))).filter (fun found => found.2.status.collectible)

/-- The payment of an entry that needs no second person. -/
def FileEntry.payment (e : FileEntry) (job : UploadJob) : Payment :=
  manualPayment job.tenantId e.amount (e.details job.now) "" job.now

/-- What an entry writes fits its columns: the request, or the rows of the payment. -/
def EntryFits (job : UploadJob) (db : Db) (e : FileEntry) (loanId : ℕ) (loan : Loan) : Prop :=
  if job.needsChecker e.amount then fitsNumeric 14 e.amount = true
  else ReferenceFits db loanId loan (e.payment job) ∧ AmountsFit db loanId loan (e.payment job)

/-- A row at its turn: its amount is a number, its date does not lie before the first moment,
no zero character is sent to the database, and what is written fits. -/
structure RowSound (job : UploadJob) (s : UploadState) (x : FileRow × ℕ) : Prop where
  number : x.1.Complete → readAmount (x.1.cell "amount") ≠ .nan
  date : x.1.Complete → ∀ c, readAmount (x.1.cell "amount") = .cents c → 0 < c →
    parseUploadDate (x.1.cell "date") ≠ .early
  sent : ∀ e, readRow x.1 x.2 job.now = .entry e → e.reference ∉ s.seen →
    sendable e.reference = true ∧
      (ReferenceFree s.db job.tenantId e.reference → sendable e.account = true)
  fits : ∀ e found, readRow x.1 x.2 job.now = .entry e → e.reference ∉ s.seen →
    ReferenceFree s.db job.tenantId e.reference →
      openLoanNamed s.db job.tenantId e.account = some found →
        EntryFits job s.db e found.1 found.2

/-- The upload as steps: a row that raises leaves the state as it is. -/
def uploadStep (job : UploadJob) (s : UploadState) (x : FileRow × ℕ) : UploadState :=
  match uploadRow job s x.2 x.1 with
  | .ok s' => s'
  | .error _ => s

/-- Every row is sound at its turn, and the reader gets to the end. -/
def FileSound (job : UploadJob) (db : Db) (file : PaymentFile) : Prop :=
  AllSteps (uploadStep job) (RowSound job) ⟨db, [], []⟩ ((file.rows.take maxRows).zipIdx 2) ∧
    (file.rows.length ≤ maxRows → file.readError = none)

/-- A row that is not complete, and one that is. -/
theorem readRow_cases (row : FileRow) (line : ℕ) (now : ℤ) :
    (¬ row.Complete ∧ ∃ text, readRow row line now = .error text) ∨
    ∃ account reference, row.Complete ∧ row.reference = some reference ∧ readRow row line now =
      readComplete row line now account (row.cell "amount") reference := by
  cases haccount : row.account with
  | none =>
    exact .inl
      ⟨fun h => by simp [FileRow.Complete, haccount] at h, by simp [readRow, haccount]⟩
  | some account =>
  by_cases hamount : row.cell "amount" = ""
  · exact .inl ⟨fun h => h.2.1 hamount, by simp [readRow, haccount, nonEmpty, hamount]⟩
  cases hreference : row.reference with
  | none =>
    exact .inl ⟨fun h => by simp [FileRow.Complete, hreference] at h,
      by simp [readRow, haccount, nonEmpty, hreference]⟩
  | some reference =>
    have htext : nonEmpty (some (row.cell "amount")) = some (row.cell "amount") :=
      nonEmpty_eq_some.mpr ⟨rfl, hamount⟩
    refine .inr ⟨account, reference, ⟨?_, hamount, ?_⟩, rfl, ?_⟩
    · rw [haccount, Option.isSome_some]
    · rw [hreference, Option.isSome_some]
    · simp only [readRow, haccount, htext, hreference]

/-- What the date and the channel of a row end in. -/
theorem readDated_cases (row : FileRow) (line : ℕ) (now : ℤ) (account reference : String)
    (amount : ℤ) :
    (parseUploadDate (row.cell "date") = .early ∧
      ∃ failure, readDated row line now account reference amount = .raises failure) ∨
    (parseUploadDate (row.cell "date") ≠ .early ∧
      ((∃ text, readDated row line now account reference amount = .error text) ∨
        ∃ paidAt, readDated row line now account reference amount =
            .entry ⟨account, reference, amount, paidAt, row.channel⟩ ∧
          row.channel ∈ manualChannels ∧ ∀ t ∈ paidAt, t ≤ now)) := by
  have hchecked : ∀ paidAt : Option ℤ, (∀ t ∈ paidAt, t ≤ now) →
      ∀ (reading : RowReading) (text : String),
      reading = (if manualChannels.contains row.channel then
        .entry ⟨account, reference, amount, paidAt, row.channel⟩ else .error text) →
      (∃ text, reading = .error text) ∨ ∃ paidAt, reading =
        .entry ⟨account, reference, amount, paidAt, row.channel⟩ ∧
          row.channel ∈ manualChannels ∧ ∀ t ∈ paidAt, t ≤ now := by
    intro paidAt hpaid reading text hreading
    split at hreading
    · rename_i hchannel
      exact .inr ⟨paidAt, hreading, by simpa using hchannel, hpaid⟩
    · exact .inl ⟨_, hreading⟩
  simp only [readDated]
  cases hdate : parseUploadDate (row.cell "date") with
  | early => exact .inl ⟨rfl, _, rfl⟩
  | blank => exact .inr ⟨by simp, hchecked none (by simp) _ _ rfl⟩
  | unread => exact .inr ⟨by simp, .inl ⟨_, rfl⟩⟩
  | time t =>
    refine .inr ⟨by simp, ?_⟩
    by_cases hfuture : now < t
    · simp only [hfuture, if_true]
      exact .inl ⟨_, rfl⟩
    · simp only [hfuture, if_false]
      exact hchecked (some t) (by simpa using hfuture) _ _ rfl

/-- A row by itself raises exactly for an amount that is no number, or a date before the first
moment there is. -/
theorem readRow_raises_iff {row : FileRow} {line : ℕ} {now : ℤ} :
    (∃ failure, readRow row line now = .raises failure) ↔
      row.Complete ∧ (readAmount (row.cell "amount") = .nan ∨
        ∃ c, readAmount (row.cell "amount") = .cents c ∧ 0 < c ∧
          parseUploadDate (row.cell "date") = .early) := by
  obtain ⟨hnot, text, hrow⟩ | ⟨account, reference, hcomplete, -, hrow⟩ := readRow_cases row line now
  · simp [hnot, hrow]
  simp only [hrow, hcomplete, true_and]
  delta readComplete
  cases hamount : readAmount (row.cell "amount") with
  | bad => simp
  | nan => simp
  | cents c =>
    by_cases hpositive : c ≤ 0
    · simp [hpositive, not_lt.mpr hpositive]
    · simp only [hpositive, if_false]
      obtain ⟨hearly, failure, hdated⟩ | ⟨hlate, ⟨text, hdated⟩ | ⟨paidAt, hdated, -⟩⟩ :=
        readDated_cases row line now account reference c
      · simp [hdated, hearly, not_le.mp hpositive]
      · simp [hdated, hlate]
      · simp [hdated, hlate]

/-- An entry is of a complete row, and passed the checks. -/
theorem readRow_entry {row : FileRow} {line : ℕ} {now : ℤ} {e : FileEntry}
    (h : readRow row line now = .entry e) :
    0 < e.amount ∧ row.reference = some e.reference ∧ e.channel ∈ manualChannels ∧
      ∀ t ∈ e.paidAt, t ≤ now := by
  obtain ⟨-, text, hrow⟩ | ⟨account, reference, -, hreference, hrow⟩ := readRow_cases row line now
  · simp [hrow] at h
  rw [hrow] at h
  delta readComplete at h
  split at h
  · cases h
  · cases h
  split at h
  · cases h
  rename_i c _ hpositive
  obtain ⟨-, failure, hdated⟩ | ⟨-, ⟨text, hdated⟩ | ⟨paidAt, hdated, hchannel, hpaid⟩⟩ :=
    readDated_cases row line now account reference c
  · simp [hdated] at h
  · simp [hdated] at h
  · rw [hdated] at h
    cases h
    exact ⟨not_le.mp hpositive, hreference, hchannel, hpaid⟩

theorem openLoanNamed_eq_some {db : Db} {tenantId loanId : ℕ} {account : String} {loan : Loan}
    (h : openLoanNamed db tenantId account = some (loanId, loan)) :
    db.loans[loanId]? = some loan ∧ loan.tenantId = tenantId ∧ loan.status.collectible = true := by
  obtain ⟨hfound, hopen⟩ := Option.filter_eq_some_iff.mp h
  obtain ⟨id, hid, hmap⟩ := Option.bind_eq_some_iff.mp hfound
  obtain ⟨row, hrow, hpair⟩ := Option.map_eq_some_iff.mp hmap
  obtain ⟨rfl, rfl⟩ := Prod.mk.inj hpair
  obtain ⟨matched, hmatched, htenant⟩ := matchReference_tenant hid
  obtain rfl := Option.some.inj (hrow.symm.trans hmatched)
  exact ⟨hrow, htenant, hopen⟩

theorem ensureReferenceFree_cases {db : Db} {tenantId : ℕ} {ref : String} (h : ref ≠ "") :
    (ReferenceFree db tenantId ref ∧ ensureReferenceFree db tenantId (some ref) = .ok ()) ∨
      (¬ ReferenceFree db tenantId ref ∧
        ∃ why, ensureReferenceFree db tenantId (some ref) = .error (.http 409 why)) := by
  have hown : nonEmpty (some ref) = some ref := nonEmpty_eq_some.mpr ⟨rfl, h⟩
  have hused := @referenceAlreadyUsed_eq_none db tenantId ref true h
  simp only [ensureReferenceFree, hown]
  cases hfound : referenceAlreadyUsed db tenantId (some ref) true with
  | some used =>
    refine .inr ⟨fun hfree => ?_, _, rfl⟩
    rw [hused.mpr ⟨hfree.1, fun _ => hfree.2.1⟩] at hfound
    cases hfound
  | none =>
    obtain ⟨hrepaid, hparked⟩ := hused.mp hfound
    cases hwaits : pendingWithReference db tenantId ref with
    | true =>
      refine .inr ⟨fun hfree => ?_, _, rfl⟩
      rw [hfree.2.2] at hwaits
      cases hwaits
    | false => exact .inl ⟨⟨hrepaid, hparked rfl, hwaits⟩, rfl⟩

/-- A reference that is free later was free before the rows were added. -/
theorem ReferenceFree.of_later {db db' : Db} {tenantId : ℕ} {ref : String}
    (h : ReferenceFree db' tenantId ref) (hrepayments : db.repayments <+: db'.repayments)
    (hsuspense : db.suspense <+: db'.suspense) (hpending : db.pending <+: db'.pending) :
    ReferenceFree db tenantId ref := by
  obtain ⟨hrepaid, hparked, hwaits⟩ := h
  refine ⟨fun ⟨r, hr, hof⟩ => hrepaid ⟨r, hrepayments.subset hr, hof⟩,
    fun ⟨e, he, hof⟩ => hparked ⟨e, hsuspense.subset he, hof⟩, ?_⟩
  rw [pendingWithReference, List.any_eq_false] at hwaits ⊢
  exact fun p hp => hwaits p (hpending.subset hp)

theorem strip_uploadNote (job : UploadJob) (line : ℕ) :
    strip (uploadNote job line) = uploadNote job line := by
  have htext : (uploadNote job line).toList =
      "CSV upload ".toList ++ job.fileName.toList ++ ", row ".toList ++ Nat.toDigits 10 line := by
    simp [uploadNote, toString, Nat.repr]
  refine strip_of_ends (fun c hc => ?_) (fun c hc => ?_)
  · rw [htext] at hc
    obtain rfl : 'C' = c := by simpa using hc
    decide
  · rw [htext, List.getLast?_append_of_ne_nil _ Nat.toDigits_ne_nil] at hc
    have hdigit := Nat.isDigit_of_mem_toDigits (by decide) (by decide) (List.mem_of_getLast? hc)
    have hrange : 48 ≤ c.toNat ∧ c.toNat ≤ 57 := by
      simpa [Char.isDigit, UInt32.le_iff_toNat_le] using hdigit
    rw [Bool.eq_false_iff]
    simp only [isSpace, ne_eq, Bool.or_eq_true, Bool.and_eq_true, decide_eq_true_eq]
    omega

/-- An entry, with what its row's checks and the book say of it. -/
structure Enterable (job : UploadJob) (db : Db) (e : FileEntry) (loanId : ℕ) (loan : Loan) :
    Prop where
  amount : 0 < e.amount
  clean : cleanReference (some e.reference) = some e.reference
  channel : e.channel ∈ manualChannels
  paid : ∀ t ∈ e.paidAt, t ≤ job.now
  free : ReferenceFree db job.tenantId e.reference
  row : db.loans[loanId]? = some loan
  tenant : loan.tenantId = job.tenantId
  isOpen : loan.status.collectible = true

namespace Enterable

variable {job : UploadJob} {db : Db} {e : FileEntry} {line loanId : ℕ} {loan : Loan}

theorem reference_ne (h : Enterable job db e loanId loan) : e.reference ≠ "" := by
  have hclean := h.clean
  rw [cleanReference] at hclean
  exact (nonEmpty_eq_some.mp hclean).2

/-- The checks of a single entry let it through. -/
theorem validates (h : Enterable job db e loanId loan) :
    validateManualPayment db job.tenantId (e.single job line loanId) "" job.now =
      .ok { loanId := loanId, loan := loan, amount := e.amount, details := e.details job.now,
            note := uploadNote job line } := by
  have hchannel : lower (strip e.channel) = e.channel := by
    have hall : ∀ c ∈ manualChannels, lower (strip c) = c := by decide
    exact hall _ h.channel
  have hpaid : checkPaidAt (some (e.paidAt.getD job.now)) job.now =
      .ok (e.paidAt.getD job.now) := by
    have hpast : ¬ job.now + 600 < e.paidAt.getD job.now := by
      cases hp : e.paidAt with
      | none => simp
      | some t =>
        have := h.paid t hp
        simp only [Option.getD_some]
        omega
    simp only [checkPaidAt, if_neg hpast]
  have hnote : uploadNote job line ≠ "" := by
    intro hnone
    have := congrArg String.toList hnone
    simp [uploadNote, toString] at this
  have hloan : loanRow db job.tenantId loanId = some loan := by
    simp [loanRow, h.row, h.tenant]
  have hfree : ensureReferenceFree db job.tenantId (some e.reference) = .ok () := by
    obtain ⟨-, hok⟩ | ⟨hnot, -⟩ :=
      @ensureReferenceFree_cases db job.tenantId e.reference h.reference_ne
    · exact hok
    · exact absurd h.free hnot
  have hknown : manualChannels.contains e.channel = true := by simpa using h.channel
  simp only [validateManualPayment, FileEntry.single, hchannel, hknown, h.clean, hpaid,
    strip_uploadNote, resolveManualLoan_named hloan, hfree, FileEntry.details]
  simp [refuseIf, not_le.mpr h.amount, hnote, h.isOpen, bind, Except.bind, pure, Except.pure,
    nonEmpty]

theorem payment_reference (h : Enterable job db e loanId loan) :
    (e.payment job).reference = e.reference := by
  have hown := nonEmpty_eq_some.mpr ⟨rfl, h.reference_ne⟩
  simp only [Payment.reference, FileEntry.payment, manualPayment, FileEntry.details, hown,
    Option.getD_some]

theorem accepts (h : Enterable job db e loanId loan) : Accepts db loan (e.payment job) := by
  refine ⟨h.amount, h.tenant, ?_⟩
  rw [h.payment_reference, referenceAlreadyUsed_eq_none h.reference_ne]
  exact ⟨h.free.1, fun _ => h.free.2.1⟩

end Enterable

/-- What an accepted row leaves. -/
structure RowRecorded (job : UploadJob) (db : Db) (line : ℕ) (row : FileRow) (e : FileEntry)
    (out : Db × RowOutcome) : Prop where
  numbered : out.2.line = line
  same : SameAsSingle job db line row out.2 out.1
  accepted : out.2.accepted = some e.reference
  storable : out.1.storable = true
  indexed : out.1.indexed = true
  grows : db.repayments <+: out.1.repayments ∧ db.suspense <+: out.1.suspense ∧
    db.pending <+: out.1.pending

theorem flushed_eq_ok {α : Type} {out x : Db × α} :
    flushed out = .ok x ↔ out.1.storable = true ∧ x = out := by
  simp only [flushed]
  split_ifs with h <;> simp [h, eq_comm]

section Recording

variable {job : UploadJob} {db : Db} {e : FileEntry} {line loanId : ℕ} {loan : Loan} {row : FileRow}

theorem recordEntry_parked (h : Enterable job db e loanId loan)
    (hchecker : job.needsChecker e.amount = true)
    (hread : readRow row line job.now = .entry e) (hindexed : db.indexed = true)
    (hstorable : db.storable = true) :
    ((∃ out, recordEntry job db line e loanId loan = .ok out) ↔ EntryFits job db e loanId loan) ∧
      ∀ out, recordEntry job db line e loanId loan = .ok out →
        RowRecorded job db line row e out := by
  generalize hout : parkManualPayment db job.tenantId job.makerId loanId e.amount
    (e.details job.now) (some (cut 200 (uploadNote job line))) = parked
  have hsame : ∃ request : PendingApproval, request.amount = e.amount ∧
      parked.1 = { db with pending := db.pending ++ [request] } := ⟨_, rfl, by rw [← hout]; rfl⟩
  obtain ⟨request, hamount, hdb⟩ := hsame
  have hfits : parked.1.storable = true ↔ fitsNumeric 14 e.amount = true := by
    rw [hdb]
    simp only [Db.storable, Db.referencesFit, Db.amountsFit, Bool.and_eq_true] at hstorable ⊢
    simp [hstorable, hamount]
  have hrecord : recordEntry job db line e loanId loan =
      flushed (parked.1, .parked line e.reference loanId parked.2) := by
    simp only [recordEntry, writeEntry, hchecker, if_true, hout]
    rfl
  rw [hrecord]
  constructor
  · simp [flushed_eq_ok, EntryFits, hchecker, hfits]
  · intro out hok
    obtain ⟨hstored, rfl⟩ := flushed_eq_ok.mp hok
    have hindexed' : parked.1.indexed = true := by
      rw [hdb]
      exact hindexed
    refine ⟨rfl, ⟨e, hread, rfl, bind_eq_ok.mpr ⟨_, h.validates, ?_⟩⟩, rfl, hstored, hindexed', ?_⟩
    · rw [if_pos hchecker, hout]
      exact commitWith_eq_ok.mpr ⟨hindexed', rfl⟩
    · rw [hdb]
      exact ⟨List.prefix_refl _, List.prefix_refl _, List.prefix_append _ _⟩

theorem recordEntry_applied (h : Enterable job db e loanId loan)
    (hchecker : job.needsChecker e.amount = false) (hread : readRow row line job.now = .entry e)
    (hindexed : db.indexed = true) (hstorable : db.storable = true) :
    ((∃ out, recordEntry job db line e loanId loan = .ok out) ↔ EntryFits job db e loanId loan) ∧
      ∀ out, recordEntry job db line e loanId loan = .ok out →
        RowRecorded job db line row e out := by
  have hmanual : applyManual db job.tenantId loanId loan e.amount (e.details job.now) "" job.now =
      payLoan db loanId loan (e.payment job) := by
    simp [applyManual, h.isOpen, FileEntry.payment]
  obtain ⟨paid, hpaid⟩ := payLoan_completes db loanId h.accepts.1 h.accepts.2.1
  obtain ⟨hno, -⟩ | ⟨-, hclosed, -⟩ | ⟨-, -, happlied, -⟩ := payLoan_cases h.row hpaid
  · exact absurd h.accepts hno
  · rw [h.isOpen] at hclosed
    cases hclosed
  have hfits : paid.1.storable = true ↔ EntryFits job db e loanId loan := by
    simp only [Db.storable, Bool.and_eq_true] at hstorable ⊢
    rw [EntryFits, hchecker, if_neg Bool.false_ne_true,
      appliedTo_referencesFit h.accepts happlied hstorable.1,
      appliedTo_amountsFit h.accepts happlied hstorable.2]
  have hrecord : recordEntry job db line e loanId loan =
      flushed (paid.1, .applied line e.reference loanId paid.2.applied) := by
    simp only [recordEntry, writeEntry, hchecker, hmanual, hpaid]
    rfl
  have hindexed' : paid.1.indexed = true := by
    have hne : (e.payment job).reference ≠ "" := h.payment_reference ▸ h.reference_ne
    obtain ⟨hrepayments, hsuspense⟩ := payLoan_nodup hindexed hne hpaid
    obtain ⟨-, htransactions, -⟩ := Db.indexed_iff.mp hindexed
    exact Db.indexed_iff.mpr ⟨hrepayments, by rwa [(payLoan_rows hpaid).1], hsuspense⟩
  rw [hrecord]
  constructor
  · simp [flushed_eq_ok, hfits]
  · intro out hok
    obtain ⟨hstored, rfl⟩ := flushed_eq_ok.mp hok
    refine ⟨rfl, ⟨e, paid.2, hread, rfl, bind_eq_ok.mpr ⟨_, h.validates, ?_⟩, rfl⟩, rfl, hstored,
      hindexed', ?_⟩
    · rw [if_neg (by simp [hchecker])]
      exact bind_eq_ok.mpr ⟨paid, hmanual.trans hpaid, commitWith_eq_ok.mpr ⟨hindexed', rfl⟩⟩
    · obtain ⟨logs, borrowers, hdb⟩ := happlied
      rw [hdb]
      refine ⟨List.prefix_append _ _, ?_, List.prefix_refl _⟩
      rw [parkRest_eq, List.append_assoc]
      exact List.prefix_append _ _

/-- An entry on its open loan is recorded exactly when what it writes fits. -/
theorem recordEntry_spec (h : Enterable job db e loanId loan)
    (hread : readRow row line job.now = .entry e) (hindexed : db.indexed = true)
    (hstorable : db.storable = true) :
    ((∃ out, recordEntry job db line e loanId loan = .ok out) ↔ EntryFits job db e loanId loan) ∧
      ∀ out, recordEntry job db line e loanId loan = .ok out →
        RowRecorded job db line row e out := by
  cases hchecker : job.needsChecker e.amount with
  | true => exact recordEntry_parked h hchecker hread hindexed hstorable
  | false => exact recordEntry_applied h hchecker hread hindexed hstorable

end Recording

/-- What a row leaves of the state, with its outcome. -/
structure RowDone (job : UploadJob) (s : UploadState) (x : FileRow × ℕ) (o : RowOutcome)
    (s' : UploadState) : Prop where
  logged : s'.outcomes = s.outcomes ++ [o]
  numbered : o.line = x.2
  same : SameAsSingle job s.db x.2 x.1 o s'.db
  storable : s'.db.storable = true
  indexed : s'.db.indexed = true
  grows : s.db.repayments <+: s'.db.repayments ∧ s.db.suspense <+: s'.db.suspense ∧
    s.db.pending <+: s'.db.pending
  seen : s.seen ⊆ s'.seen
  accepted : ∀ ref ∈ o.accepted, ref ∉ s.seen ∧ ref ∈ s'.seen ∧
    ReferenceFree s.db job.tenantId ref

section Row

variable {job : UploadJob} {s : UploadState} {x : FileRow × ℕ}

/-- A row that is not accepted only adds its outcome, and perhaps its reference. -/
theorem RowDone.aside {o : RowOutcome} {seen : List String} (hindexed : s.db.indexed = true)
    (hstorable : s.db.storable = true) (hline : o.line = x.2) (hnone : o.accepted = none)
    (hseen : s.seen ⊆ seen) : RowDone job s x o ⟨s.db, seen, s.outcomes ++ [o]⟩ := by
  refine ⟨rfl, hline, ?_, hstorable, hindexed, ⟨List.prefix_refl _, List.prefix_refl _,
    List.prefix_refl _⟩, hseen, by simp [hnone]⟩
  cases o with
  | parked _ _ _ _ => cases hnone
  | applied _ _ _ _ => cases hnone
  | _ => rfl

theorem rowSound_iff : RowSound job s x ↔ (¬ ∃ failure, readRow x.1 x.2 job.now = .raises failure) ∧
    ∀ e, readRow x.1 x.2 job.now = .entry e → e.reference ∉ s.seen →
      sendable e.reference = true ∧ (ReferenceFree s.db job.tenantId e.reference →
        sendable e.account = true ∧ ∀ found,
          openLoanNamed s.db job.tenantId e.account = some found →
            EntryFits job s.db e found.1 found.2) := by
  rw [readRow_raises_iff]
  constructor
  · intro h
    refine ⟨?_, fun e he hnew => ⟨(h.sent e he hnew).1, fun hfree =>
      ⟨(h.sent e he hnew).2 hfree, fun found hfound => h.fits e found he hnew hfree hfound⟩⟩⟩
    rintro ⟨hcomplete, hnan | ⟨c, hcents, hpositive, hearly⟩⟩
    · exact h.number hcomplete hnan
    · exact h.date hcomplete c hcents hpositive hearly
  · rintro ⟨hraises, hentry⟩
    refine ⟨fun hcomplete hnan => hraises ⟨hcomplete, .inl hnan⟩,
      fun hcomplete c hcents hpositive hearly =>
        hraises ⟨hcomplete, .inr ⟨c, hcents, hpositive, hearly⟩⟩,
      fun e he hnew => ⟨(hentry e he hnew).1, fun hfree => ((hentry e he hnew).2 hfree).1⟩,
      fun e found he hnew hfree hfound => ((hentry e he hnew).2 hfree).2 found hfound⟩

theorem readRow_clean {e : FileEntry} (hread : readRow x.1 x.2 job.now = .entry e) :
    cleanReference (some e.reference) = some e.reference ∧ e.reference ≠ "" := by
  obtain ⟨-, hreference, -⟩ := readRow_entry hread
  rw [FileRow.reference, cleanReference] at hreference
  obtain ⟨hclean, hne⟩ := nonEmpty_eq_some.mp hreference
  refine ⟨nonEmpty_eq_some.mpr ⟨?_, hne⟩, hne⟩
  rw [Option.getD_some, ← Option.some.inj hclean, clean_clean]

/-- An entry whose reference is new in the file goes through exactly when it is sound. -/
theorem enterRow_spec {e : FileEntry} (hread : readRow x.1 x.2 job.now = .entry e)
    (hnew : e.reference ∉ s.seen) (hindexed : s.db.indexed = true)
    (hstorable : s.db.storable = true) :
    ((∃ out, enterRow job s.db x.2 e = .ok out) ↔ sendable e.reference = true ∧
      (ReferenceFree s.db job.tenantId e.reference → sendable e.account = true ∧ ∀ found,
        openLoanNamed s.db job.tenantId e.account = some found →
          EntryFits job s.db e found.1 found.2)) ∧
      ∀ out, enterRow job s.db x.2 e = .ok out →
        RowDone job s x out.2 ⟨out.1, e.reference :: s.seen, s.outcomes ++ [out.2]⟩ := by
  obtain ⟨hclean, hne⟩ := readRow_clean hread
  have hgrows : s.seen ⊆ e.reference :: s.seen := List.subset_cons_self _ _
  cases hsent : sendable e.reference with
  | false => simp [enterRow, hsent]
  | true =>
  obtain ⟨hfree, hok⟩ | ⟨hused, why, herror⟩ :=
    @ensureReferenceFree_cases s.db job.tenantId e.reference hne
  swap
  · have henter : enterRow job s.db x.2 e = .ok (s.db, .duplicate x.2 e.reference why) := by
      simp [enterRow, hsent, herror]
    rw [henter]
    refine ⟨by simp [hused], ?_⟩
    rintro out hout
    obtain rfl := Except.ok.inj hout
    exact .aside hindexed hstorable rfl rfl hgrows
  cases haccount : sendable e.account with
  | false => simp [enterRow, hsent, hok, haccount, hfree]
  | true =>
  simp only [enterRow, hsent, hok, haccount, hfree, Bool.not_true, Bool.false_eq_true, if_false,
    true_and, true_imp_iff, openLoanNamed]
  cases hfound : (matchReference s.db job.tenantId (some e.account) none).loan.bind (fun id =>
      (s.db.loans[id]?).map (fun loan => (id, loan))) with
  | none =>
    refine ⟨by simp, ?_⟩
    rintro out hout
    obtain rfl := Except.ok.inj hout
    exact .aside hindexed hstorable rfl rfl hgrows
  | some found =>
  obtain ⟨loanId, loan⟩ := found
  cases hopen : loan.status.collectible with
  | false =>
    simp only [hopen, Bool.not_false, if_true, Option.filter, Bool.false_eq_true, if_false]
    refine ⟨by simp, ?_⟩
    rintro out hout
    obtain rfl := Except.ok.inj hout
    exact .aside hindexed hstorable rfl rfl hgrows
  | true =>
    simp only [hopen, Bool.not_true, Bool.false_eq_true, if_false, Option.filter, if_true]
    obtain ⟨hamount, -, hchannel, hpaid⟩ := readRow_entry hread
    have hnamed : openLoanNamed s.db job.tenantId e.account = some (loanId, loan) :=
      Option.filter_eq_some_iff.mpr ⟨hfound, hopen⟩
    obtain ⟨hrow, htenant, -⟩ := openLoanNamed_eq_some hnamed
    obtain ⟨hiff, hrecorded⟩ := recordEntry_spec
      ⟨hamount, hclean, hchannel, hpaid, hfree, hrow, htenant, hopen⟩ hread hindexed hstorable
    refine ⟨hiff.trans (by simp), fun out hout => ?_⟩
    obtain ⟨hnumbered, hsame, haccepted, hstored, hindexed', hgrowsDb⟩ := hrecorded out hout
    refine ⟨rfl, hnumbered, hsame, hstored, hindexed', hgrowsDb, hgrows, fun ref href => ?_⟩
    obtain rfl : e.reference = ref := by simpa [haccepted] using href
    exact ⟨hnew, List.mem_cons_self, hfree⟩

/-- The step lemma: a row goes through exactly when it is sound at its turn. -/
theorem uploadRow_spec (hindexed : s.db.indexed = true) (hstorable : s.db.storable = true) :
    ((∃ s', uploadRow job s x.2 x.1 = .ok s') ↔ RowSound job s x) ∧
      ∀ s', uploadRow job s x.2 x.1 = .ok s' → ∃ o, RowDone job s x o s' := by
  rw [rowSound_iff]
  cases hread : readRow x.1 x.2 job.now with
  | raises failure => simp [uploadRow, hread]
  | error text =>
    simp only [uploadRow, hread]
    refine ⟨by simp, fun s' hs' => ⟨.error x.2 text, ?_⟩⟩
    obtain rfl := Except.ok.inj hs'
    exact .aside hindexed hstorable rfl rfl (List.Subset.refl _)
  | entry e =>
    simp only [uploadRow, hread]
    by_cases hseen : e.reference ∈ s.seen
    · simp only [List.contains_iff_mem.mpr hseen, if_true]
      refine ⟨by simp [hseen],
        fun s' hs' => ⟨.duplicate x.2 e.reference "repeated in this file", ?_⟩⟩
      obtain rfl := Except.ok.inj hs'
      exact .aside hindexed hstorable rfl rfl (List.Subset.refl _)
    · obtain ⟨hiff, hdone⟩ := enterRow_spec hread hseen hindexed hstorable
      simp only [List.contains_iff_mem, hseen, if_false]
      constructor
      · simp only [map_eq_ok]
        constructor
        · rintro ⟨s', out, hout, -⟩
          refine ⟨by simp, fun e' he' _ => ?_⟩
          obtain rfl := RowReading.entry.inj he'
          exact hiff.mp ⟨out, hout⟩
        · rintro ⟨-, hsound⟩
          obtain ⟨out, hout⟩ := hiff.mpr (hsound e rfl hseen)
          exact ⟨_, out, hout, rfl⟩
      · intro s' hs'
        obtain ⟨out, hout, rfl⟩ := map_eq_ok.mp hs'
        exact ⟨out.2, hdone out hout⟩

end Row

/-- What the rows from a line on leave, with their outcomes. -/
structure RowsDone (job : UploadJob) (s : UploadState) (line : ℕ) (rows : List FileRow)
    (os : List RowOutcome) (s' : UploadState) : Prop where
  logged : s'.outcomes = s.outcomes ++ os
  numbered : os.map (·.line) = List.range' line rows.length
  singly : SinglyEntered job s.db line rows os s'.db
  indexed : s'.db.indexed = true
  once : (os.filterMap (·.accepted)).Nodup
  new : ∀ ref ∈ os.filterMap (·.accepted), ref ∉ s.seen ∧ ReferenceFree s.db job.tenantId ref

/-- A row before the others. -/
theorem RowsDone.cons {job : UploadJob} {s mid s' : UploadState} {line : ℕ} {row : FileRow}
    {rows : List FileRow} {o : RowOutcome} {os : List RowOutcome}
    (h : RowDone job s (row, line) o mid) (hrest : RowsDone job mid (line + 1) rows os s') :
    RowsDone job s line (row :: rows) (o :: os) s' := by
  have hlater : ∀ ref ∈ os.filterMap (·.accepted),
      ref ∉ mid.seen ∧ ref ∉ s.seen ∧ ReferenceFree s.db job.tenantId ref := by
    intro ref href
    obtain ⟨hunseen, hfree⟩ := hrest.new ref href
    exact ⟨hunseen, fun hseen => hunseen (h.seen hseen),
      hfree.of_later h.grows.1 h.grows.2.1 h.grows.2.2⟩
  refine ⟨?_, ?_, .cons h.numbered h.same hrest.singly, hrest.indexed, ?_, ?_⟩
  · rw [hrest.logged, h.logged, List.append_assoc, List.singleton_append]
  · rw [List.map_cons, hrest.numbered, h.numbered, List.length_cons, List.range'_succ]
  · cases hacc : o.accepted with
    | none => simpa [hacc] using hrest.once
    | some ref =>
      obtain ⟨-, hseen, -⟩ := h.accepted ref hacc
      rw [List.filterMap_cons_some hacc, List.nodup_cons]
      exact ⟨fun hmem => (hlater ref hmem).1 hseen, hrest.once⟩
  · intro ref href
    cases hacc : o.accepted with
    | none => exact (hlater ref (by simpa [hacc] using href)).2
    | some first =>
      rw [List.filterMap_cons_some hacc, List.mem_cons] at href
      obtain rfl | href := href
      · obtain ⟨hunseen, -, hfree⟩ := h.accepted ref hacc
        exact ⟨hunseen, hfree⟩
      · exact (hlater ref href).2

/-- The run lemma: the rows go through exactly when each is sound at its turn. -/
theorem uploadRows_spec {job : UploadJob} {s : UploadState} (line : ℕ) (rows : List FileRow)
    (hindexed : s.db.indexed = true) (hstorable : s.db.storable = true) :
    ((∃ s', uploadRows job s line rows = .ok s') ↔
      AllSteps (uploadStep job) (RowSound job) s (rows.zipIdx line)) ∧
      ∀ s', uploadRows job s line rows = .ok s' → ∃ os, RowsDone job s line rows os s' := by
  induction rows generalizing s line with
  | nil =>
    refine ⟨by simp [uploadRows, AllSteps], fun s' hs' => ⟨[], ?_⟩⟩
    obtain rfl := Except.ok.inj hs'
    exact ⟨by simp, rfl, .nil _ _, hindexed, List.nodup_nil, by simp⟩
  | cons row rows ih =>
    obtain ⟨hiff, hdone⟩ := @uploadRow_spec job s (row, line) hindexed hstorable
    rw [List.zipIdx_cons, AllSteps, ← hiff]
    constructor
    · constructor
      · rintro ⟨s', hs'⟩
        obtain ⟨mid, hmid, hrest⟩ := bind_eq_ok.mp hs'
        obtain ⟨o, hrow⟩ := hdone mid hmid
        refine ⟨⟨mid, hmid⟩, ?_⟩
        simp only [uploadStep, hmid]
        exact (ih (line + 1) hrow.indexed hrow.storable).1.mp ⟨s', hrest⟩
      · rintro ⟨⟨mid, hmid⟩, hrest⟩
        obtain ⟨o, hrow⟩ := hdone mid hmid
        simp only [uploadStep, hmid] at hrest
        obtain ⟨s', hs'⟩ := (ih (line + 1) hrow.indexed hrow.storable).1.mpr hrest
        exact ⟨s', bind_eq_ok.mpr ⟨mid, hmid, hs'⟩⟩
    · intro s' hs'
      obtain ⟨mid, hmid, hrest⟩ := bind_eq_ok.mp hs'
      obtain ⟨o, hrow⟩ := hdone mid hmid
      obtain ⟨os, hrows⟩ := (ih (line + 1) hrow.indexed hrow.storable).2 s' hrest
      exact ⟨o :: os, hrows.cons hrow⟩

/-- Every outcome is in one list. -/
theorem uploadGroups_perm (file : PaymentFile) (outcomes : List RowOutcome) :
    (uploadGroups file outcomes).all.Perm (outcomes ++ overlong file) := by
  have hsplit : (outcomes.filter (·.list = .parked) ++ outcomes.filter (·.list = .applied) ++
      outcomes.filter (·.list = .unmatched) ++ outcomes.filter (·.list = .duplicates) ++
      outcomes.filter (·.list = .errors)).Perm outcomes := by
    rw [List.perm_iff_count]
    intro o
    have hcount : ∀ l : UploadList, (outcomes.filter (·.list = l)).count o =
        if o.list = l then outcomes.count o else 0 := by
      intro l
      split_ifs with hl
      · exact List.count_filter (by simpa using hl)
      · exact List.count_eq_zero_of_not_mem (by simp [hl])
    simp only [List.count_append, hcount]
    cases o.list <;> simp
  simp only [UploadGroups.all, uploadGroups, ← List.append_assoc]
  exact hsplit.append_right _

/-- A file is handled exactly when it is read to its end and every row is sound at its turn. -/
theorem payment_upload_handled_iff {db : Db} (job : UploadJob) (file : PaymentFile)
    (hindexed : db.indexed = true) (hstorable : db.storable = true) :
    UploadHandled db job file ↔ FileSound job db file := by
  obtain ⟨hiff, hdone⟩ := @uploadRows_spec job ⟨db, [], []⟩ 2 (file.rows.take maxRows) hindexed
    hstorable
  rw [FileSound, ← hiff]
  constructor
  · rintro ⟨saved, outcomes, hok, -⟩
    obtain ⟨s', hs', hrest⟩ := bind_eq_ok.mp hok
    refine ⟨⟨s', hs'⟩, fun hshort => ?_⟩
    rw [if_neg (not_lt.mpr hshort)] at hrest
    split at hrest
    · cases hrest
    · assumption
  · rintro ⟨⟨s', hs'⟩, hread⟩
    obtain ⟨os, hrows⟩ := hdone s' hs'
    have hend : (if maxRows < file.rows.length then none else file.readError) = none := by
      split_ifs with hlong
      · rfl
      · exact hread (not_lt.mp hlong)
    have hoverlong : (overlong file).map (·.line) =
        List.range' (2 + min maxRows file.rows.length) (min (maxRows + 1) file.rows.length -
          min maxRows file.rows.length) := by
      simp only [overlong]
      split_ifs with hlong
      · have hone : min (maxRows + 1) file.rows.length - min maxRows file.rows.length = 1 := by
          omega
        rw [hone, min_eq_left hlong.le, Nat.add_comm]
        rfl
      · have hnone : min (maxRows + 1) file.rows.length - min maxRows file.rows.length = 0 := by
          omega
        rw [hnone]
        rfl
    refine ⟨s'.db, os, ?_, ?_, hrows.singly, hrows.once, fun ref href => (hrows.new ref href).2⟩
    · refine bind_eq_ok.mpr ⟨s', hs', ?_⟩
      rw [hend, hrows.logged]
      exact bind_eq_ok.mpr ⟨s'.db, Db.commit_eq_ok.mpr ⟨hrows.indexed, rfl⟩, rfl⟩
    · refine ((uploadGroups_perm file os).map _).trans (List.Perm.of_eq ?_)
      rw [List.map_append, hrows.numbered, hoverlong, List.length_take, List.range'_append_1]
      congr 1
      omega

/-- A row of the file for the book with one loan. -/
def statementRow (amount reference : String) : FileRow :=
  [(some "account_number", some "FL/1"), (some "amount", some amount),
    (some "mpesa_ref", some reference)]

def teller : UploadJob := ⟨1, 7, "may.csv", fun _ => false, 30 * 86400⟩

/-- Two payments with one reference: the first is applied, the second is a duplicate. -/
theorem payment_upload_handled_iff_twice : fourWeekBook.indexed = true ∧
    fourWeekBook.storable = true ∧ UploadHandled fourWeekBook teller
      ⟨"may.csv", [statementRow "1,500" "QA1", statementRow "2e3" "qa1"], none⟩ := by
  have hindexed : fourWeekBook.indexed = true := by decide
  have hstorable : fourWeekBook.storable = true := by decide
  refine ⟨hindexed, hstorable, (payment_upload_handled_iff teller _ hindexed hstorable).mpr
    ⟨(uploadRows_spec 2 _ hindexed hstorable).1.mp ?_, fun _ => rfl⟩⟩
  have hread : (uploadRows teller ⟨fourWeekBook, [], []⟩ 2
      [statementRow "1,500" "QA1", statementRow "2e3" "qa1"]).toOption.isSome = true := by
    decide +kernel
  cases hrows : uploadRows teller ⟨fourWeekBook, [], []⟩ 2
      [statementRow "1,500" "QA1", statementRow "2e3" "qa1"] with
  | error failure =>
    rw [hrows] at hread
    cases hread
  | ok s' => exact ⟨s', hrows⟩

/-- An amount cell that reads NaN aborts the file: the row before it is lost too. -/
theorem nan_aborts_upload : fourWeekBook.indexed = true ∧ fourWeekBook.storable = true ∧
    ¬ UploadHandled fourWeekBook teller
      ⟨"may.csv", [statementRow "1,500" "QA1", statementRow "NaN" "QA2"], none⟩ := by
  refine ⟨by decide, by decide, ?_⟩
  rintro ⟨saved, outcomes, hok, -⟩
  have hraises : (paymentUpload fourWeekBook teller
      ⟨"may.csv", [statementRow "1,500" "QA1", statementRow "NaN" "QA2"], none⟩).toOption.isNone =
        true := by decide +kernel
  rw [hok] at hraises
  cases hraises

end FinylDcp
