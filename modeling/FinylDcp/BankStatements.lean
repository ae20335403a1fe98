import FinylDcp.Calendar
import FinylDcp.Literals
import FinylDcp.Money
import Mathlib.Data.List.Infix
import Mathlib.Data.List.Sort
import Mathlib.Data.String.Basic

/-!
# Bank statements

The rows of a bank statement are summed up into monthly averages, searched for known lenders and
checked for signs of tampering: a negative amount, a balance that falls on a credit, dates out of
order. The dates are checked after they were sorted for the period.
-/
namespace FinylDcp
open Calendar Decimal Text

/-- A decimal with its special values. -/
inductive Dec
  | finite (value : ℚ)
  | infinite (negative : Bool)
  | nan (signalling : Bool)
  deriving DecidableEq

namespace Dec

/-- `_to_dec`, from the text that `str` makes of the value. -/
def ofText (v : String) : Dec :=
  match readDecimal v with
  | .malformed => .finite 0
  | .infinite => .infinite (((strip v).toList.filter (· ≠ '_')).head? = some '-')
  | .nan => .nan false
  | .signallingNan => .nan true
  | .finite negative coefficient exponent =>
    .finite ((if negative then -1 else 1) * coefficient * 10 ^ exponent)

/-- Whether `a < b`; a comparison with NaN raises. -/
def lt (a b : Dec) : Option Bool :=
  match a, b with
  | .nan _, _ => none
  | _, .nan _ => none
  | .finite x, .finite y => some (x < y)
  | .finite _, .infinite negative => some !negative
  | .infinite negative, .finite _ => some negative
  | .infinite negative, .infinite negative' => some (negative && !negative')

/-- A result in the default context; one beyond its exponents raises. -/
def inContext (x : ℚ) : Option ℚ :=
  let r := context x
  if r.num.natAbs < 10 ^ 1000000 * r.den then some r else none

def add (a b : Dec) : Option Dec :=
  match a, b with
  | .nan true, _ => none
  | _, .nan true => none
  | .nan false, _ => some (.nan false)
  | _, .nan false => some (.nan false)
  | .infinite negative, .infinite negative' =>
    if negative = negative' then some (.infinite negative) else none
  | .infinite negative, .finite _ => some (.infinite negative)
  | .finite _, .infinite negative => some (.infinite negative)
  | .finite x, .finite y => (inContext (x + y)).map .finite

/-- `sum(values, Decimal("0"))`. -/
def sum (values : List Dec) : Option Dec := values.foldlM add (.finite 0)

/-- `quantize(Decimal("0.01"))`; a result of more than 28 digits raises. -/
def quantize (x : ℚ) : Option ℚ :=
  let n := roundHalfEven (x * 100)
  if n.natAbs < 10 ^ 28 then some (n / 100) else none

end Dec

/-- A parsed row, its amount and balance as `str` writes them. -/
structure BankRow where
  date : Option String
  description : Option String
  amount : String
  type : Option String
  balance : Option String
  deriving DecidableEq

inductive IntegrityFlag
  | negativeAmountPresent
  | balanceInconsistency
  | outOfOrderDates
  deriving DecidableEq, Repr

structure BankAnalysis where
  monthsCovered : ℤ
  transactionsCount : ℕ
  avgMonthlyCredit : ℚ
  avgMonthlyDebit : ℚ
  netMonthlyCashflow : ℚ
  affordabilityScore : ℚ
  comfortableInstallment : ℚ
  detectedLenders : List String
  tamperingSuspected : Bool
  integrityFlags : List IntegrityFlag
  periodStart : Option String
  periodEnd : Option String
  deriving DecidableEq

/-- Common digital lenders. -/
def lenderHints : List String :=
  ["tala", "branch", "zenka", "okash", "mshwari", "kcb-mpesa", "fuliza", "timiza", "izwe", "stawi",
    "loop", "hustler"]

namespace BankRow

/-- The date of a dated row. -/
def dated (t : BankRow) : Option String := nonEmpty t.date

def mentions (t : BankRow) (hint : String) : Bool :=
  hint.toList <:+: (lower (t.description.getD "")).toList

end BankRow

/-- The dates of the dated rows, as they stand in the document. -/
def statementDates (ts : List BankRow) : List String := ts.filterMap BankRow.dated

/-- The dates in order, for the period that a statement covers. -/
def periodDates (dates : List String) : List String := dates.insertionSort (· ≤ ·)

/-- The amounts of the rows of a type. -/
def amountsOf (type : String) (ts : List BankRow) : List Dec :=
  (ts.filter (fun t => t.type = some type)).map (fun t => Dec.ofText t.amount)

/-- The months from the first date to the last, one where they cannot be read. -/
def monthsCovered (fromisoformat : String → Option Date) (dates : List String) : ℤ :=
  if 2 ≤ dates.length then
    match dates.head?.bind fromisoformat, dates.getLast?.bind fromisoformat with
    | some d0, some d1 =>
      max 1 (((d1.year : ℤ) - d0.year) * 12 + ((d1.month : ℤ) - d0.month) + 1)
    | _, _ => 1
  else 1

/-- A total over the months, in cents. An infinite one cannot be quantised, and NaN raises when
the net cashflow is compared. -/
def monthlyAverage (total : Dec) (months : ℤ) : Option ℚ :=
  match total with
  | .finite x => (Dec.inContext (x / months)).bind Dec.quantize
  | _ => none

/-- A third of what is left of a month. -/
def comfortableInstallment (net : ℚ) : Option ℚ :=
  if 0 < net then Dec.quantize (context (net * (33 / 100))) else some 0

/-- What is left of what comes in, in percent, from 0 to 100. -/
def affordabilityScore (net avgCredit : ℚ) : Option ℚ :=
  if 0 < avgCredit then
    (Dec.quantize (context (context (net / avgCredit) * 100))).map fun s => max 0 (min 100 s)
  else some 0

/-- Whether an amount is negative; the first one found ends the search. -/
def anyNegative : List BankRow → Option Bool
  | [] => some false
  | t :: ts => do
    if ← (Dec.ofText t.amount).lt (.finite 0) then some true else anyNegative ts

/-- Whether a balance is lower on a credit than on the row shown before. -/
def balanceFalls : Option Dec → List BankRow → Option Bool
  | _, [] => some false
  | running, t :: ts =>
    match t.balance, running with
    | none, _ => balanceFalls running ts
    | some bal, none => balanceFalls (some (Dec.ofText bal)) ts
    | some bal, some last =>
      let b := Dec.ofText bal
      if t.type = some "credit" then do
        if ← b.lt last then some true else balanceFalls (some b) ts
      else balanceFalls (some b) ts

/-- The three heuristics, on the dates as they were sorted. -/
def integrityFlags (ts : List BankRow) (dates : List String) : Option (List IntegrityFlag) := do
  let negative ← anyNegative ts
  let falls ← balanceFalls none ts
  some ((if negative then [.negativeAmountPresent] else []) ++
    (if falls then [.balanceInconsistency] else []) ++
    (if dates ≠ periodDates dates then [.outOfOrderDates] else []))

/-- `analyse`, none where it raises; how ISO dates are read matters for the months only. -/
def analyse (fromisoformat : String → Option Date) (ts : List BankRow) : Option BankAnalysis := do
  let dates := periodDates (statementDates ts)
  let months := monthsCovered fromisoformat dates
  let totalCredit ← Dec.sum (amountsOf "credit" ts)
  let totalDebit ← Dec.sum (amountsOf "debit" ts)
  let avgCredit ← monthlyAverage totalCredit months
  let avgDebit ← monthlyAverage totalDebit months
  let net ← Dec.quantize (context (avgCredit - avgDebit))
  let comfortable ← comfortableInstallment net
  let score ← affordabilityScore net avgCredit
  let detected := (lenderHints.filter (fun hint => ts.any (·.mentions hint))).insertionSort (· ≤ ·)
  let flags ← integrityFlags ts dates
  some
    { monthsCovered := months
      transactionsCount := ts.length
      avgMonthlyCredit := avgCredit
      avgMonthlyDebit := avgDebit
      netMonthlyCashflow := net
      affordabilityScore := score
      comfortableInstallment := comfortable
      detectedLenders := detected
      tamperingSuspected := !flags.isEmpty
      integrityFlags := flags
      periodStart := dates.head?
      periodEnd := dates.getLast? }

section Flags

variable {fromisoformat : String → Option Date} {ts : List BankRow} {a : BankAnalysis}

theorem integrityFlags_eq_some {dates : List String} {flags : List IntegrityFlag}
    (h : integrityFlags ts dates = some flags) :
    ∃ negative falls, anyNegative ts = some negative ∧ balanceFalls none ts = some falls ∧
      flags = (if negative then [.negativeAmountPresent] else []) ++
        (if falls then [.balanceInconsistency] else []) ++
        (if dates ≠ periodDates dates then [.outOfOrderDates] else []) := by
  simp only [integrityFlags, Option.bind_eq_bind, Option.bind_eq_some_iff, Option.some.injEq] at h
  obtain ⟨negative, hnegative, falls, hfalls, rfl⟩ := h
  exact ⟨negative, falls, hnegative, hfalls, rfl⟩

/-- The flags of an analysis that returns. -/
theorem analyse_flags (h : analyse fromisoformat ts = some a) :
    integrityFlags ts (periodDates (statementDates ts)) = some a.integrityFlags ∧
      a.tamperingSuspected = !a.integrityFlags.isEmpty := by
  simp only [analyse, Option.bind_eq_bind, Option.bind_eq_some_iff, Option.some.injEq] at h
  obtain ⟨_, -, _, -, _, -, _, -, _, -, _, -, _, -, flags, hflags, rfl⟩ := h
  exact ⟨hflags, rfl⟩

theorem periodDates_periodDates (dates : List String) :
    periodDates (periodDates dates) = periodDates dates :=
  (List.pairwise_insertionSort (· ≤ ·) dates).insertionSort_eq

/-- Dates that were sorted are never found out of order. -/
theorem outOfOrderDates_not_mem (h : analyse fromisoformat ts = some a) :
    .outOfOrderDates ∉ a.integrityFlags := by
  obtain ⟨negative, falls, -, -, hflags⟩ := integrityFlags_eq_some (analyse_flags h).1
  rw [hflags, periodDates_periodDates]
  cases negative <;> cases falls <;> simp

end Flags

/-- Some dated row is earlier than one before it in the document. -/
def OutOfOrder (ts : List BankRow) : Prop :=
  ∃ (i j : ℕ) (t u : BankRow), i < j ∧ ts[i]? = some t ∧ ts[j]? = some u ∧
    ∃ first ∈ t.dated, ∃ later ∈ u.dated, later < first

/-- The dated rows stand in the order of their dates. -/
def InDateOrder (ts : List BankRow) : Prop := (statementDates ts).Pairwise (· ≤ ·)

instance (ts : List BankRow) : Decidable (InDateOrder ts) :=
  inferInstanceAs (Decidable ((statementDates ts).Pairwise (· ≤ ·)))

theorem outOfOrder_iff {ts : List BankRow} : OutOfOrder ts ↔ ¬InDateOrder ts := by
  rw [InDateOrder, statementDates, List.pairwise_filterMap, List.pairwise_iff_getElem]
  constructor
  · rintro ⟨i, j, t, u, hij, ht, hu, first, hfirst, later, hlater, hlt⟩ h
    obtain ⟨hi, rfl⟩ := List.getElem?_eq_some_iff.mp ht
    obtain ⟨hj, rfl⟩ := List.getElem?_eq_some_iff.mp hu
    exact (h i j hi hj hij first hfirst later hlater).not_gt hlt
  · intro h
    push Not at h
    obtain ⟨i, j, hi, hj, hij, first, hfirst, later, hlater, hlt⟩ := h
    exact ⟨i, j, _, _, hij, List.getElem?_eq_getElem hi, List.getElem?_eq_getElem hj, first, hfirst,
      later, hlater, hlt⟩

/-- The balance of a row is the one before it, plus a credit or minus a debit. -/
def BankRow.Follows (t u : BankRow) : Prop :=
  ∃ before after amount : ℚ, t.balance.map Dec.ofText = some (.finite before) ∧
    u.balance.map Dec.ofText = some (.finite after) ∧ Dec.ofText u.amount = .finite amount ∧
    (u.type = some "credit" ∧ after = before + amount ∨
      u.type = some "debit" ∧ after = before - amount)

/-- A ledger nobody tampered with. -/
structure Genuine (ts : List BankRow) : Prop where
  amounts : ∀ t ∈ ts, ∃ amount : ℚ, 0 ≤ amount ∧ Dec.ofText t.amount = .finite amount
  dates : InDateOrder ts
  balances : ts.IsChain BankRow.Follows

theorem anyNegative_of_amounts {ts : List BankRow}
    (h : ∀ t ∈ ts, ∃ amount : ℚ, 0 ≤ amount ∧ Dec.ofText t.amount = .finite amount) :
    anyNegative ts = some false := by
  induction ts with
  | nil => rfl
  | cons t ts ih =>
    obtain ⟨amount, hnonneg, hamount⟩ := h t (by simp)
    have hrest := ih fun u hu => h u (by simp [hu])
    simp [anyNegative, hamount, Dec.lt, hnonneg.not_gt, hrest]

/-- Balances that follow each other never fall on a credit; the running one is that of the row
before. -/
theorem balanceFalls_of_chain {t : BankRow} {ts : List BankRow}
    (hamounts : ∀ u ∈ ts, ∃ amount : ℚ, 0 ≤ amount ∧ Dec.ofText u.amount = .finite amount)
    (hchain : (t :: ts).IsChain BankRow.Follows) :
    balanceFalls (t.balance.map Dec.ofText) ts = some false := by
  induction ts generalizing t with
  | nil => cases t.balance <;> rfl
  | cons u us ih =>
    obtain ⟨hfollows, hrest⟩ := List.isChain_cons_cons.mp hchain
    have hnext := ih (fun x hx => hamounts x (by simp [hx])) hrest
    obtain ⟨before, after, amount, hbefore, hafter, hamount, htype⟩ := hfollows
    obtain ⟨amount', hnonneg, hamount'⟩ := hamounts u (by simp)
    obtain rfl : amount = amount' := Dec.finite.inj (hamount.symm.trans hamount')
    obtain ⟨bal, hbal, hvalue⟩ := Option.map_eq_some_iff.mp hafter
    rw [hbal, Option.map_some, hvalue] at hnext
    simp only [hbefore, balanceFalls, hbal, hvalue, Dec.lt]
    obtain ⟨hcredit, hsum⟩ | ⟨hdebit, -⟩ := htype
    · have hrises : ¬after < before := by linarith
      simp [hcredit, hrises, hnext]
    · simp [hdebit, hnext]

theorem Genuine.balanceFalls {ts : List BankRow} (h : Genuine ts) :
    balanceFalls none ts = some false := by
  cases ts with
  | nil => rfl
  | cons t ts =>
    have hrest := balanceFalls_of_chain (fun u hu => h.amounts u (by simp [hu])) h.balances
    cases hbal : t.balance with
    | none => simpa [FinylDcp.balanceFalls, hbal] using hrest
    | some bal => simpa [FinylDcp.balanceFalls, hbal] using hrest

/-- A genuine ledger is not flagged. -/
theorem Genuine.not_flagged {fromisoformat : String → Option Date} {ts : List BankRow}
    {a : BankAnalysis} (h : Genuine ts) (ha : analyse fromisoformat ts = some a) :
    a.integrityFlags = [] := by
  obtain ⟨negative, falls, hnegative, hfalls, hflags⟩ := integrityFlags_eq_some (analyse_flags ha).1
  obtain rfl : false = negative :=
    Option.some.inj ((anyNegative_of_amounts h.amounts).symm.trans hnegative)
  obtain rfl : false = falls := Option.some.inj (h.balanceFalls.symm.trans hfalls)
  rw [hflags, periodDates_periodDates]
  simp

/-- The flags tell a ledger out of order, and tell nothing of a genuine one, exactly for the
statements whose dates are in order; an analysis that raises tells nothing. -/
theorem flags_sound_complete_iff (fromisoformat : String → Option Date) (ts : List BankRow) :
    (((∃ a ∈ analyse fromisoformat ts, .outOfOrderDates ∈ a.integrityFlags) ↔ OutOfOrder ts) ∧
      (Genuine ts → ∀ a ∈ analyse fromisoformat ts,
        a.integrityFlags = [] ∧ a.tamperingSuspected = false)) ↔ InDateOrder ts := by
  have hnever : ¬ ∃ a ∈ analyse fromisoformat ts, .outOfOrderDates ∈ a.integrityFlags := by
    intro hflagged
    obtain ⟨a, ha, hflag⟩ := hflagged
    exact outOfOrderDates_not_mem ha hflag
  constructor
  · rintro ⟨hflag, -⟩
    by_contra hdates
    exact hnever (hflag.mpr (outOfOrder_iff.mpr hdates))
  · intro hdates
    refine ⟨iff_of_false hnever fun hout => outOfOrder_iff.mp hout hdates, ?_⟩
    intro hgenuine a ha
    have hflags := hgenuine.not_flagged ha
    refine ⟨hflags, ?_⟩
    rw [(analyse_flags ha).2, hflags]
    rfl

/-- Two credits, the later one first. -/
def backdated : List BankRow :=
  [⟨some "2024-02-01", some "SALARY", "100.0", some "credit", none⟩,
    ⟨some "2024-01-01", some "SALARY", "100.0", some "credit", none⟩]

/-- The dates of `backdated` are out of order, and no flag says so. -/
theorem backdated_not_flagged :
    OutOfOrder backdated ∧
      (analyse (fun _ => none) backdated).map (·.integrityFlags) = some [] :=
  ⟨⟨0, 1, _, _, by decide, rfl, rfl, "2024-02-01", rfl, "2024-01-01", rfl, by decide⟩,
    by decide +kernel⟩

/-- A statement that grows: a credit, a debit and a credit. -/
def grown : List BankRow :=
  [⟨some "2024-01-05", some "SALARY", "1000.0", some "credit", some "1500.0"⟩,
    ⟨some "2024-01-20", some "FULIZA LOAN", "400.0", some "debit", some "1100.0"⟩,
    ⟨some "2024-02-05", some "SALARY", "1000.0", some "credit", some "2100.0"⟩]

theorem grown_genuine : Genuine grown where
  amounts := by
    intro t ht
    simp only [grown, List.mem_cons, List.not_mem_nil, or_false] at ht
    obtain rfl | rfl | rfl := ht
    · exact ⟨1000, by norm_num, by decide +kernel⟩
    · exact ⟨400, by norm_num, by decide +kernel⟩
    · exact ⟨1000, by norm_num, by decide +kernel⟩
  dates := by decide
  balances := by
    refine .cons_cons ?_ (.cons_cons ?_ (.singleton _))
    · exact ⟨1500, 1100, 400, by decide +kernel, by decide +kernel, by decide +kernel,
        .inr ⟨rfl, by norm_num⟩⟩
    · exact ⟨1100, 2100, 1000, by decide +kernel, by decide +kernel, by decide +kernel,
        .inl ⟨rfl, by norm_num⟩⟩

/-- The genuine statement is analysed, and not flagged. -/
theorem flags_sound_complete_grown :
    ∃ a, analyse (fun _ => none) grown = some a ∧ a.integrityFlags = [] := by
  have hsome : (analyse (fun _ => none) grown).isSome = true := by decide +kernel
  obtain ⟨a, ha⟩ := Option.isSome_iff_exists.mp hsome
  have hboth := (flags_sound_complete_iff (fun _ => none) grown).mpr grown_genuine.dates
  exact ⟨a, ha, (hboth.2 grown_genuine a ha).1⟩

end FinylDcp
