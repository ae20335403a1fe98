import FinylDcp.Matching
import Mathlib.Data.List.Sort

/-!
# One loan for a reference

Which loans a typed reference names, as an account number and as a customer number, and
when the matcher returns none but the only one.
-/
namespace FinylDcp
open Text

/-- A typed reference, as the matcher reads it. -/
def cleanRef (billRef : Option String) : String := upper (squash (billRef.getD ""))

/-- An account number, as the matcher reads it. -/
def cleanAccount (accountNumber : String) : String :=
  sqlUpper (String.ofList (accountNumber.toList.filter (· ≠ ' ')))

section Named

variable (db : Db) (tenantId : ℕ) (ref : String)

/-- The loan is the tenant's and carries the reference as its account number. -/
def NamedByAccount (loanId : ℕ) : Prop :=
  ∃ loan ∈ db.loans[loanId]?, loan.tenantId = tenantId ∧ cleanAccount loan.accountNumber = ref

/-- The loan is an open one of the customer whose valid number the reference is. -/
def NamedByCustomer (loanId : ℕ) : Prop :=
  validCustomerNumber ref = true ∧ ∃ loan ∈ db.loans[loanId]?, loan.tenantId = tenantId ∧
    loan.status.collectible = true ∧ ∃ b ∈ db.borrowers[loan.borrowerId]?, b.tenantId = tenantId ∧
      b.customerNumber = normaliseCustomerNumber ref

/-- The reference names the loan, in one way or the other. -/
def Named (loanId : ℕ) : Prop :=
  ref ≠ "" ∧ (NamedByAccount db tenantId ref loanId ∨ NamedByCustomer db tenantId ref loanId)

/-- A loan is matched only when the reference names no other, and where it names two there is
a reason instead. -/
structure Unambiguous (found : Match) : Prop where
  only : ∀ loanId, found.loan = some loanId → ∀ i, Named db tenantId ref i ↔ i = loanId
  refused : ∀ i j, i ≠ j → Named db tenantId ref i → Named db tenantId ref j →
    found.loan = none ∧ found.reason.isSome = true

/-- An account number the reference spells belongs to one loan, and the customer whose number it
may also be has no other open loan. -/
def NamesOneAccount : Prop :=
  ref ≠ "" → ∀ i, NamedByAccount db tenantId ref i →
    (∀ j, NamedByAccount db tenantId ref j → j = i) ∧
      ∀ j, NamedByCustomer db tenantId ref j → j = i

/-- Customer numbers are unique within the tenant. -/
def UniqueCustomerNumbers : Prop :=
  ∀ (i j : ℕ) (b c : Borrower), db.borrowers[i]? = some b → db.borrowers[j]? = some c →
    b.tenantId = tenantId → c.tenantId = tenantId → b.customerNumber.isSome = true →
      b.customerNumber = c.customerNumber → i = j

end Named

section Ways

variable {db : Db} {tenantId : ℕ} {ref : String}

/-- By account number, the latest of the loans it names. -/
theorem loanByAccount_named {loanId : ℕ} (h : loanByAccount db tenantId ref = some loanId) :
    NamedByAccount db tenantId ref loanId := by
  simp only [loanByAccount, Option.map_eq_some_iff] at h
  obtain ⟨x, hlast, rfl⟩ := h
  have hmem := List.mem_of_getLast? hlast
  simp only [List.mem_filter, Bool.and_eq_true, decide_eq_true_eq] at hmem
  exact ⟨x.1, List.mem_zipIdx_iff_getElem?.mp hmem.1, hmem.2.1, hmem.2.2⟩

theorem loanByAccount_none (h : loanByAccount db tenantId ref = none) (i : ℕ) :
    ¬ NamedByAccount db tenantId ref i := by
  rintro ⟨loan, hrow, htenant, haccount⟩
  simp only [loanByAccount, Option.map_eq_none_iff, List.getLast?_eq_none_iff] at h
  have hmem : (loan, i) ∈ db.loans.zipIdx := List.mem_zipIdx_iff_getElem?.mpr hrow
  have hkept := List.filter_eq_nil_iff.mp h (loan, i) hmem
  exact hkept (by simp [htenant, ← haccount, cleanAccount])

theorem mem_openLoans {borrowerId i : ℕ} :
    i ∈ openLoans db tenantId borrowerId ↔ ∃ loan ∈ db.loans[i]?, loan.tenantId = tenantId ∧
      loan.borrowerId = borrowerId ∧ loan.status.collectible = true := by
  simp only [openLoans, List.mem_map, List.mem_insertionSort, List.mem_filter, Bool.and_eq_true,
    decide_eq_true_eq]
  constructor
  · rintro ⟨x, ⟨hmem, ⟨htenant, hborrower⟩, hopen⟩, rfl⟩
    exact ⟨x.1, List.mem_zipIdx_iff_getElem?.mp hmem, htenant, hborrower, hopen⟩
  · rintro ⟨loan, hrow, htenant, hborrower, hopen⟩
    exact ⟨(loan, i), ⟨List.mem_zipIdx_iff_getElem?.mpr hrow, ⟨htenant, hborrower⟩, hopen⟩, rfl⟩

/-- The customer of a number, found first, is the only one with it. -/
theorem namedByCustomer_iff (hunique : UniqueCustomerNumbers db tenantId) {borrowerId : ℕ}
    (hvalid : validCustomerNumber ref = true)
    (hfound : db.borrowers.findIdx? (fun b => b.tenantId = tenantId &&
      b.customerNumber = normaliseCustomerNumber ref) = some borrowerId) (i : ℕ) :
    NamedByCustomer db tenantId ref i ↔ i ∈ openLoans db tenantId borrowerId := by
  obtain ⟨hlt, hborrower, -⟩ := List.findIdx?_eq_some_iff_getElem.mp hfound
  simp only [Bool.and_eq_true, decide_eq_true_eq] at hborrower
  have hrow : db.borrowers[borrowerId]? = some db.borrowers[borrowerId] :=
    List.getElem?_eq_getElem hlt
  have hsome : (normaliseCustomerNumber ref).isSome = true := by
    simp only [validCustomerNumber] at hvalid
    split at hvalid
    · cases hvalid
    · rename_i number hnumber
      rw [hnumber]
      rfl
  rw [mem_openLoans]
  constructor
  · rintro ⟨-, loan, hloan, htenant, hopen, b, hb, hbtenant, hnumber⟩
    refine ⟨loan, hloan, htenant, ?_, hopen⟩
    exact hunique _ _ b _ hb hrow hbtenant hborrower.1 (hnumber ▸ hsome)
      (hnumber.trans hborrower.2.symm)
  · rintro ⟨loan, hloan, htenant, rfl, hopen⟩
    exact ⟨hvalid, loan, hloan, htenant, hopen, _, hrow, hborrower⟩

theorem not_namedByCustomer (hnone : db.borrowers.findIdx? (fun b => b.tenantId = tenantId &&
    b.customerNumber = normaliseCustomerNumber ref) = none) (i : ℕ) :
    ¬ NamedByCustomer db tenantId ref i := by
  rintro ⟨-, loan, -, -, -, b, hb, htenant, hnumber⟩
  rw [List.findIdx?_eq_none_iff] at hnone
  have hmem := List.mem_of_getElem? hb
  simpa [htenant, hnumber] using hnone b hmem

end Ways

section Match

variable {db : Db} {tenantId : ℕ} {ref : String}

/-- What the customer's number comes to: the one open loan, or a reason. -/
theorem matchCustomer_only {borrowerId loanId : ℕ}
    (h : (matchCustomer db tenantId borrowerId).loan = some loanId) (i : ℕ) :
    i ∈ openLoans db tenantId borrowerId ↔ i = loanId := by
  simp only [matchCustomer] at h
  split at h
  · rename_i found hopen
    obtain rfl := Option.some.inj h
    rw [hopen, List.mem_singleton]
  · cases h
  · cases h

theorem matchCustomer_refused {borrowerId i j : ℕ} (hne : i ≠ j)
    (hi : i ∈ openLoans db tenantId borrowerId) (hj : j ∈ openLoans db tenantId borrowerId) :
    (matchCustomer db tenantId borrowerId).loan = none ∧
      (matchCustomer db tenantId borrowerId).reason.isSome = true := by
  simp only [matchCustomer]
  split
  · rename_i found hopen
    rw [hopen, List.mem_singleton] at hi hj
    exact absurd (hi.trans hj.symm) hne
  · exact ⟨rfl, rfl⟩
  · exact ⟨rfl, rfl⟩

/-- Nothing is matched of a reference that names nothing. -/
theorem unambiguous_unmatched {phone : Option String} (h : ∀ i, ¬ Named db tenantId ref i) :
    Unambiguous db tenantId ref (unmatched db tenantId phone) where
  only loanId hloan := by cases hloan
  refused i j _ hi := absurd hi (h i)

/-- The matcher returns no loan but the only one its reference names exactly when a reference
that spells an account number names that loan alone. -/
theorem match_unambiguous_iff (hunique : UniqueCustomerNumbers db tenantId)
    (billRef phone : Option String) :
    Unambiguous db tenantId (cleanRef billRef) (matchReference db tenantId billRef phone) ↔
      NamesOneAccount db tenantId (cleanRef billRef) := by
  have hread : upper (squash (billRef.getD "")) = cleanRef billRef := rfl
  simp only [matchReference, hread]
  generalize cleanRef billRef = ref
  by_cases hempty : ref = ""
  · rw [if_pos hempty]
    exact iff_of_true (unambiguous_unmatched fun i h => h.1 hempty) fun h => absurd hempty h
  rw [if_neg hempty]
  cases haccount : loanByAccount db tenantId ref with
  | some loanId =>
    dsimp only
    have hloan := loanByAccount_named haccount
    constructor
    · intro h _ i hi
      have hall : ∀ j, Named db tenantId ref j → j = loanId :=
        fun j hj => (h.only loanId rfl j).mp hj
      obtain rfl := hall i ⟨hempty, .inl hi⟩
      exact ⟨fun j hj => hall j ⟨hempty, .inl hj⟩, fun j hj => hall j ⟨hempty, .inr hj⟩⟩
    · intro h
      obtain ⟨hsame, hcustomer⟩ := h hempty loanId hloan
      have hall : ∀ j, Named db tenantId ref j → j = loanId := by
        rintro j ⟨-, hj | hj⟩
        · exact hsame j hj
        · exact hcustomer j hj
      refine ⟨fun found hfound j => ?_, fun i j hne hi hj => ?_⟩
      · obtain rfl := Option.some.inj hfound
        exact ⟨hall j, fun hj => hj ▸ ⟨hempty, .inl hloan⟩⟩
      · exact absurd ((hall i hi).trans (hall j hj).symm) hne
  | none =>
    have hno := loanByAccount_none haccount
    refine iff_of_true ?_ fun _ i hi => absurd hi (hno i)
    dsimp only
    split
    · rename_i hvalid
      split
      · rename_i borrowerId hfound
        have hnamed : ∀ i, Named db tenantId ref i ↔ i ∈ openLoans db tenantId borrowerId := by
          intro i
          rw [← namedByCustomer_iff hunique hvalid hfound, Named]
          simp [hempty, hno i]
        refine ⟨fun loanId hloan i => ?_, fun i j hne hi hj => ?_⟩
        · rw [hnamed, matchCustomer_only hloan]
        · exact matchCustomer_refused hne ((hnamed i).mp hi) ((hnamed j).mp hj)
      · rename_i hfound
        refine unambiguous_unmatched fun i hi => ?_
        obtain h | h := hi.2
        · exact hno i h
        · exact not_namedByCustomer hfound i h
    · rename_i hvalid
      refine unambiguous_unmatched fun i hi => ?_
      obtain h | h := hi.2
      · exact hno i h
      · exact hvalid h.1

end Match

/-- The book with a second loan, whose account number differs in case only. -/
def namesakeLoans : Db :=
  { fourWeekBook with loans := [fourWeekLoan, { fourWeekLoan with accountNumber := "fl/1" }] }

theorem fourWeekBook_numbers (loans : List Loan) :
    UniqueCustomerNumbers { fourWeekBook with loans := loans } 1 := by
  intro i j b c hb hc _ _ _ _
  have hi := (List.getElem?_eq_some_iff.mp hb).1
  have hj := (List.getElem?_eq_some_iff.mp hc).1
  simp only [fourWeekBook, List.length_cons, List.length_nil] at hi hj
  omega

/-- A reference in other spelling, on the only loan of the book. -/
theorem match_unambiguous_iff_spelled : UniqueCustomerNumbers fourWeekBook 1 ∧
    (Unambiguous fourWeekBook 1 (cleanRef (some " fl/ 1"))
      (matchReference fourWeekBook 1 (some " fl/ 1") none) ↔
        NamesOneAccount fourWeekBook 1 (cleanRef (some " fl/ 1"))) := by
  have hunique : UniqueCustomerNumbers fourWeekBook 1 := fourWeekBook_numbers [fourWeekLoan]
  exact ⟨hunique, match_unambiguous_iff hunique (some " fl/ 1") none⟩

/-- The account number `FL/1`, typed as it is stored, is taken for the later loan `fl/1`. -/
theorem match_of_namesakes : UniqueCustomerNumbers namesakeLoans 1 ∧
    (namesakeLoans.loans.map (·.accountNumber)).Nodup ∧
    (matchReference namesakeLoans 1 (some "FL/1") none).loan = some 1 ∧
    ¬ Unambiguous namesakeLoans 1 (cleanRef (some "FL/1"))
      (matchReference namesakeLoans 1 (some "FL/1") none) := by
  have hmatch : (matchReference namesakeLoans 1 (some "FL/1") none).loan = some 1 := by
    decide
  refine ⟨fourWeekBook_numbers _, by decide, hmatch, fun h => ?_⟩
  have hnamed : Named namesakeLoans 1 (cleanRef (some "FL/1")) 0 :=
    ⟨by decide, .inl ⟨fourWeekLoan, rfl, rfl, by decide⟩⟩
  have hsame := (h.only 1 hmatch 0).mp hnamed
  exact absurd hsame (by decide)

end FinylDcp
