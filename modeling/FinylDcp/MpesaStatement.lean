import FinylDcp.Calendar
import FinylDcp.Listings
import Mathlib.Algebra.Order.Group.Abs
import Mathlib.Algebra.Order.Group.Int

/-!
# M-Pesa statements

The rows read from a statement: repeats are dropped, the rest is sorted by date, and the integrity
check looks at the running balances, the receipts and the dates. Amounts are in cents; the doubles
of the code, and the sums and differences that it takes of them, are taken as exact.
-/
namespace FinylDcp
open FinylDcp.Calendar FinylDcp.Listings

/-- `_parse_date` of a printed completion time: the seconds are not kept. -/
def parseDate (t : Datetime) : Datetime :=
  ⟨t.date, t.micros - t.micros % 60000000, (Nat.sub_le _ _).trans_lt t.micros_lt⟩

/-- `datetime.min` -/
def datetimeMin : Datetime := ⟨date 1 1 1, 0, by decide⟩

structure StatementRow where
  receipt : String
  date : Option Datetime
  paidIn : ℤ
  withdrawn : ℤ
  balance : Option ℤ
  deriving DecidableEq

/-- What repeats of a row have in common. -/
def StatementRow.key (r : StatementRow) : String × Option Datetime × ℤ × ℤ × Option ℤ :=
  (r.receipt, r.date, r.paidIn, r.withdrawn, r.balance)

theorem StatementRow.key_injective : Function.Injective StatementRow.key := by
  rintro ⟨⟩ ⟨⟩ h
  simpa [StatementRow.key] using h

/-- What `extract_transactions` makes of the rows that it read, in the order of the pages. -/
def extractTransactions (rows : List StatementRow) : List StatementRow :=
  let unique := firstOf StatementRow.key [] rows
  unique.insertionSort (fun r s => r.date.getD datetimeMin ≤ s.date.getD datetimeMin)

structure StatementFlag where
  code : String
  severity : String
  detail : String
  deriving DecidableEq

/-- The balance is off by more than the rounding that the check allows. -/
def breaksContinuity (prev cur : StatementRow) : Bool :=
  match prev.balance, cur.balance with
  | some before, some after => 100 < |before + cur.paidIn - cur.withdrawn - after|
  | _, _ => false

/-- The microseconds from `datetime.min`. -/
def Calendar.Datetime.elapsed (t : Datetime) : ℤ := t.date.toOrdinal * clock 24 0 0 + t.micros

/-- The receipts that were seen before; a row without one is not counted. -/
def duplicateReceipts : List String → List StatementRow → ℕ
  | _, [] => 0
  | seen, r :: rows =>
    if r.receipt = "" then duplicateReceipts seen rows
    else (if r.receipt ∈ seen then 1 else 0) + duplicateReceipts (r.receipt :: seen) rows

/-- The pairs of successive elements that satisfy a test. -/
def countPairs {α : Type*} (test : α → α → Bool) (l : List α) : ℕ :=
  (l.zip l.tail).countP (fun x => test x.1 x.2)

/-- The flag of what was counted, if there was any. -/
def flagWhen (n : ℕ) (code severity detail : String) : List StatementFlag :=
  if n ≠ 0 then [⟨code, severity, toString n ++ detail⟩] else []

/-- `_integrity_check` -/
def integrityCheck (rows : List StatementRow) : List StatementFlag × Bool :=
  let breaks := countPairs breaksContinuity rows
  let dups := duplicateReceipts [] rows
  let gaps := countPairs (fun s t : Datetime => 45 < (t.elapsed - s.elapsed) / clock 24 0 0)
    (rows.filterMap (·.date))
  let flags :=
    flagWhen breaks "balance_discontinuity"
      (if 15 * max (rows.length - 1) 1 < 100 * breaks then "high" else "medium")
      (" of " ++ toString (rows.length - 1) ++ " rows break running-balance continuity.") ++
    flagWhen dups "duplicate_receipts" "medium" " duplicate receipt number(s) found." ++
    flagWhen gaps "date_gaps" "low" " gap(s) over 45 days between transactions."
  (flags, flags.any (fun f => f.severity = "high"))

@[simp] theorem mem_flagWhen {f : StatementFlag} {n : ℕ} {code severity detail : String} :
    f ∈ flagWhen n code severity detail ↔ n ≠ 0 ∧ f = ⟨code, severity, toString n ++ detail⟩ := by
  rw [flagWhen]
  split <;> simp_all

theorem countPairs_eq_zero {α : Type*} {test : α → α → Bool} {l : List α} :
    countPairs test l = 0 ↔ l.IsChain (fun a b => test a b = false) := by
  induction l with
  | nil => simp [countPairs]
  | cons a l ih =>
    cases l with
    | nil => simp [countPairs]
    | cons b l =>
      have hcons : countPairs test (a :: b :: l) =
          countPairs test (b :: l) + if test a b = true then 1 else 0 :=
        List.countP_cons
      rw [List.isChain_cons_cons, ← ih, hcons]
      cases test a b <;> simp

/-- The check reports a break exactly when some row does not continue the balance of the one
before; without one there is no sign of tampering. -/
theorem integrityCheck_iff (rows : List StatementRow) :
    (∀ f ∈ (integrityCheck rows).1, f.code ≠ "balance_discontinuity") ↔
      rows.IsChain (fun r s => breaksContinuity r s = false) := by
  rw [← countPairs_eq_zero]
  simp only [integrityCheck, List.mem_append, mem_flagWhen]
  constructor
  · intro h
    by_contra hbreaks
    exact h _ (.inl (.inl ⟨hbreaks, rfl⟩)) rfl
  · rintro hbreaks f ((⟨hne, -⟩ | ⟨-, rfl⟩) | ⟨-, rfl⟩)
    · exact absurd hbreaks hne
    · simp
    · simp

theorem integrityCheck_tampering {rows : List StatementRow}
    (h : ∀ f ∈ (integrityCheck rows).1, f.code ≠ "balance_discontinuity") :
    (integrityCheck rows).2 = false := by
  have hflags : (integrityCheck rows).2 =
      (integrityCheck rows).1.any (fun f => f.severity = "high") :=
    rfl
  rw [hflags, List.any_eq_false]
  intro f hf
  have hcode := h f hf
  simp only [integrityCheck, List.mem_append, mem_flagWhen] at hf
  obtain (⟨-, rfl⟩ | ⟨-, rfl⟩) | ⟨-, rfl⟩ := hf
  · exact absurd rfl hcode
  · simp
  · simp

end FinylDcp
