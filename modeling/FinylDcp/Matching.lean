import FinylDcp.Repayments
import Mathlib.Data.List.Sort

/-!
# From a typed reference to a loan

What a payer typed as the account number becomes a loan of the paybill's tenant:
by loan account number, by customer number when that customer has one open loan,
or not at all. A phone number only ever suggests a loan.
-/
namespace FinylDcp
open Text

/-- The Luhn sum of the digits from the right; `double` says whether the next one is
doubled. -/
def luhnSum : Bool → List Char → ℕ
  | _, [] => 0
  | double, c :: rest =>
    let d := decimalValue c
    let d := if double then (if 9 < 2 * d then 2 * d - 9 else 2 * d) else d
    d + luhnSum (!double) rest

/-- Luhn check digit for a string of digits. -/
def luhnCheckDigit (payload : String) : ℕ :=
  (10 - luhnSum true payload.toList.reverse % 10) % 10

/-- A customer number without spaces and dashes; none when anything else than digits
is left. -/
def normaliseCustomerNumber (value : String) : Option String :=
  let s := (strip value).toList.filter (fun c => c ≠ ' ' && c ≠ '-')
  if s = [] || !s.all isDecimal then none else some (String.ofList s)

/-- A well-formed customer number: seven digits of which the last checks. -/
def validCustomerNumber (value : String) : Bool :=
  match normaliseCustomerNumber value with
  | none => false
  | some s =>
    match s.toList.reverse with
    | [] => false
    | check :: payload => s.length = 7 &&
        luhnCheckDigit (String.ofList payload.reverse) = decimalValue check

/-- Drop the country code while it is written twice. -/
def dropRepeatedCode : ℕ → List Char → List Char
  | 0, cs => cs
  | fuel + 1, cs =>
    if "254254".toList.isPrefixOf cs then dropRepeatedCode fuel (cs.drop 3) else cs

/-- A Kenyan mobile number in the format 2547XXXXXXXX. -/
def normaliseMsisdn (phone : String) : String :=
  let digits := phone.toList.filter isDigit
  let digits := match digits with
    | '0' :: rest => "254".toList ++ rest
    | '7' :: rest => "254".toList ++ '7' :: rest
    | '1' :: rest => "254".toList ++ '1' :: rest
    | other => other
  String.ofList (dropRepeatedCode digits.length digits)

/-- The formats a Kenyan number may be stored in. -/
def phoneVariants (phone : String) : List String :=
  let n := normaliseMsisdn phone
  if n.length ≠ 12 || !"254".toList.isPrefixOf n.toList then []
  else
    let rest := String.ofList (n.toList.drop 3)
    [n, "+" ++ n, "0" ++ rest, rest]

structure Match where
  loan : Option ℕ
  how : String
  reason : Option SuspenseReason
  suggestedLoanId : Option ℕ
  borrowerId : Option ℕ
  deriving DecidableEq, Repr

/-- Loans in the order of their due dates, those without one last. -/
def dueBefore (a b : Loan × ℕ) : Prop :=
  match a.1.dueDate, b.1.dueDate with
  | some x, some y => x < y ∨ (x = y ∧ a.2 ≤ b.2)
  | some _, none => True
  | none, some _ => False
  | none, none => a.2 ≤ b.2

instance : DecidableRel dueBefore := fun a b => by
  unfold dueBefore
  split <;> infer_instance

/-- The open loans of a borrower. -/
def openLoans (db : Db) (tenantId borrowerId : ℕ) : List ℕ :=
  ((db.loans.zipIdx.filter (fun x => x.1.tenantId = tenantId && x.1.borrowerId = borrowerId &&
    x.1.status.collectible)).insertionSort dueBefore).map (·.2)

/-- The one open loan of the one customer with the paying phone. -/
def suggestByPhone (db : Db) (tenantId : ℕ) (phone : Option String) : Option ℕ :=
  match phoneVariants (phone.getD "") with
  | [] => none
  | variants =>
    match db.borrowers.zipIdx.filter
      (fun x => x.1.tenantId = tenantId && variants.contains x.1.phone) with
    | [borrower] =>
      match openLoans db tenantId borrower.2 with
      | [loanId] => some loanId
      | _ => none
    | _ => none

/-- `func.upper` of the database: it maps every character to one. -/
def sqlUpper (s : String) : String := String.ofList (s.toList.map upperOne)

/-- The latest loan of the tenant with the account number, spaces and case aside. -/
def loanByAccount (db : Db) (tenantId : ℕ) (ref : String) : Option ℕ :=
  ((db.loans.zipIdx.filter (fun x => x.1.tenantId = tenantId &&
    sqlUpper (String.ofList (x.1.accountNumber.toList.filter (· ≠ ' '))) = ref)).getLast?).map (·.2)

/-- Nothing matched; the paying phone may suggest a loan. -/
def unmatched (db : Db) (tenantId : ℕ) (phone : Option String) : Match where
  loan := none
  how := "none"
  reason := some .unmatched
  suggestedLoanId := suggestByPhone db tenantId phone
  borrowerId := none

/-- The match of a customer number: that customer's one open loan, or a reason. -/
def matchCustomer (db : Db) (tenantId borrowerId : ℕ) : Match :=
  match openLoans db tenantId borrowerId with
  | [loanId] => ⟨some loanId, "customer_number", none, none, some borrowerId⟩
  | [] => ⟨none, "none", some .noOpenLoan, none, some borrowerId⟩
  | first :: _ => ⟨none, "none", some .ambiguousCustomer, some first, some borrowerId⟩

/-- What a payer typed, matched inside one tenant. -/
def matchReference (db : Db) (tenantId : ℕ) (billRef phone : Option String) : Match :=
  let ref := upper (squash (billRef.getD ""))
  if ref = "" then unmatched db tenantId phone
  else
    match loanByAccount db tenantId ref with
    | some loanId =>
      ⟨some loanId, "account_number", none, none, (db.loans[loanId]?).map (·.borrowerId)⟩
    | none =>
      if validCustomerNumber ref then
        match db.borrowers.findIdx? (fun b => b.tenantId = tenantId &&
          b.customerNumber = normaliseCustomerNumber ref) with
        | some borrowerId => matchCustomer db tenantId borrowerId
        | none => unmatched db tenantId phone
      else unmatched db tenantId phone

theorem openLoans_tenant {db : Db} {tenantId borrowerId loanId : ℕ}
    (h : loanId ∈ openLoans db tenantId borrowerId) :
    ∃ loan, db.loans[loanId]? = some loan ∧ loan.tenantId = tenantId := by
  simp only [openLoans, List.mem_map, List.mem_insertionSort, List.mem_filter,
    Bool.and_eq_true, decide_eq_true_eq] at h
  obtain ⟨x, ⟨hmem, ⟨htenant, -⟩, -⟩, rfl⟩ := h
  exact ⟨x.1, List.mem_zipIdx_iff_getElem?.mp hmem, htenant⟩

theorem loanByAccount_tenant {db : Db} {tenantId loanId : ℕ} {ref : String}
    (h : loanByAccount db tenantId ref = some loanId) :
    ∃ loan, db.loans[loanId]? = some loan ∧ loan.tenantId = tenantId := by
  simp only [loanByAccount, Option.map_eq_some_iff] at h
  obtain ⟨x, hlast, rfl⟩ := h
  have hmem := List.mem_of_getLast? hlast
  simp only [List.mem_filter, Bool.and_eq_true, decide_eq_true_eq] at hmem
  exact ⟨x.1, List.mem_zipIdx_iff_getElem?.mp hmem.1, hmem.2.1⟩

/-- A loan a reference is matched to is one of the tenant's. -/
theorem matchReference_tenant {db : Db} {tenantId loanId : ℕ} {billRef phone : Option String}
    (h : (matchReference db tenantId billRef phone).loan = some loanId) :
    ∃ loan, db.loans[loanId]? = some loan ∧ loan.tenantId = tenantId := by
  simp only [matchReference] at h
  split at h
  · cases h
  split at h
  · rename_i found hfound
    obtain rfl : found = loanId := by simpa using h
    exact loanByAccount_tenant hfound
  split at h
  · split at h
    · rename_i borrowerId _
      simp only [matchCustomer] at h
      split at h
      · rename_i found hopen
        obtain rfl : found = loanId := by simpa using h
        exact openLoans_tenant (show found ∈ openLoans db tenantId borrowerId by simp [hopen])
      · cases h
      · cases h
    · cases h
  · cases h

end FinylDcp
