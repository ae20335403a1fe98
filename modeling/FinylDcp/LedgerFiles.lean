import FinylDcp.CheckDigits
import FinylDcp.Csv
import FinylDcp.LedgerBalance
import FinylDcp.PaymentUpload
import FinylDcp.PromiseReminders
import FinylDcp.EarlyPayoff

/-!
# The file of the general ledger

The journal as the export writes it, a row for a line. Names and descriptions are free text, so
that a file is only worth something where every such text comes back; the amounts are read the
way the upload of payments reads them.
-/
namespace FinylDcp
open Runs Text Calendar

/-- The month and the day of the month of a day of a year, both counted from 1. -/
def monthOf (year : ℕ) : ℕ → ℕ → ℕ → ℕ × ℕ
  | 0, month, day => (month, day)
  | months + 1, month, day =>
    if day ≤ monthDays year month then (month, day)
    else monthOf year months (month + 1) (day - monthDays year month)

/-- `_ord2ymd`: the date of an ordinal, by cycles of 400, 100, 4 and 1 years. -/
def ymd (ordinal : ℕ) : ℕ × ℕ × ℕ :=
  let n := ordinal - 1
  let n400 := n / 146097
  let n100 := n % 146097 / 36524
  let n4 := n % 146097 % 36524 / 1461
  let n1 := n % 146097 % 36524 % 1461 / 365
  let year := n400 * 400 + n100 * 100 + n4 * 4 + n1 + 1
  if n1 = 4 ∨ n100 = 4 then (year - 1, 12, 31)
  else (year, monthOf year 11 1 (n % 146097 % 36524 % 1461 % 365 + 1))

/-- `date.isoformat` of a day, counted from 1 January 1970. -/
def isoDay (day : ℤ) : String :=
  let d := ymd (day + 719163).toNat
  s!"{pad 4 d.1}-{pad 2 d.2.1}-{pad 2 d.2.2}"

example : ymd 739675 = (2026, 2, 28) ∧ ymd 738945 = (2024, 2, 29) := by decide

def glHeader : Csv.Row :=
  ["Date", "Account Code", "Account Name", "Description", "Debit", "Credit", "Reference"].map
    String.toList

def glRow (l : GlLine) : Csv.Row :=
  [isoDay l.date, l.account.code, l.accountName, l.description, showCents l.debit,
    showCents l.credit, l.reference].map String.toList

/-- The content of the file. -/
def glFile (lines : List GlLine) : List Char := Csv.write (glHeader :: lines.map glRow)

/-- What the response carries beside the content. -/
structure GlHeaders where
  balanced : Bool
  totalDebit : String
  totalCredit : String
  deriving DecidableEq, Repr

def GlExport.headers (x : GlExport) : GlHeaders where
  balanced := x.balanced
  totalDebit := showCents x.totalDebit
  totalCredit := showCents x.totalCredit

/-- The digits of an amount, the last two behind the point. -/
def amountDigits (c : ℕ) : List Char × List Char :=
  (Nat.toDigits 10 (c / 100), [(c % 100 / 10).digitChar, (c % 10).digitChar])

theorem toList_showCents (c : ℤ) : (showCents c).toList = (if c < 0 then ['-'] else []) ++
    ((amountDigits c.natAbs).1 ++ '.' :: (amountDigits c.natAbs).2) := by
  have hdigit (n : ℕ) (hn : n < 10) : (toString n).toList = [n.digitChar] := by
    show n.repr.toList = _
    rw [Nat.toList_repr, Nat.toDigits_of_lt_base hn]
  have hwhole : (toString (c.natAbs / 100)).toList = Nat.toDigits 10 (c.natAbs / 100) :=
    Nat.toList_repr
  have hsign : (toString (if c < 0 then "-" else "")).toList = if c < 0 then ['-'] else [] := by
    show (if c < 0 then "-" else "").toList = _
    split <;> rfl
  have hpoint : (toString ".").toList = ['.'] := rfl
  simp only [showCents, amountDigits, String.toList_append, hsign, hwhole, hpoint,
    hdigit _ (show c.natAbs % 100 / 10 < 10 by omega), hdigit _ (show c.natAbs % 10 < 10 by omega)]
  simp

theorem isDigit_amountDigits {c : ℕ} {x : Char}
    (hx : x ∈ (amountDigits c).1 ++ (amountDigits c).2) : x.isDigit = true := by
  simp only [amountDigits, List.mem_append, List.mem_cons, List.not_mem_nil, or_false] at hx
  rcases hx with hx | rfl | rfl
  · exact Nat.isDigit_of_mem_toDigits (by omega) (by omega) hx
  · simpa [Nat.isDigit_digitChar] using by omega
  · simpa [Nat.isDigit_digitChar] using by omega

theorem digitsValue_eq_ofDigitChars {cs : List Char} (h : ∀ x ∈ cs, x.isDigit = true) :
    digitsValue cs = Nat.ofDigitChars 10 cs 0 := by
  apply List.foldl_ext
  intro n x hx
  rw [decimalValue_of_isDigit (h x hx)]
  rfl

theorem digitsValue_amountDigits (c : ℕ) :
    digitsValue ((amountDigits c).1 ++ (amountDigits c).2) = c := by
  rw [digitsValue_eq_ofDigitChars fun x => isDigit_amountDigits]
  have hvalue (n : ℕ) (hn : n < 10) : n.digitChar.toNat - '0'.toNat = n :=
    Nat.toNat_digitChar_sub_48_of_lt_ten hn
  rw [amountDigits, Nat.ofDigitChars_append, Nat.ofDigitChars_toDigits (by omega) (by omega),
    Nat.ofDigitChars_cons, Nat.ofDigitChars_cons, Nat.ofDigitChars_nil, hvalue _ (by omega),
    hvalue _ (by omega)]
  omega

theorem takeWhile_append_cons {p : Char → Bool} {xs ys : List Char} {y : Char}
    (hxs : ∀ x ∈ xs, p x = true) (hy : p y = false) :
    (xs ++ y :: ys).takeWhile p = xs ∧ (xs ++ y :: ys).dropWhile p = y :: ys := by
  constructor
  · rw [List.takeWhile_append_of_pos hxs, List.takeWhile_cons_of_neg (by simp [hy]),
      List.append_nil]
  · rw [List.dropWhile_append_of_pos hxs, List.dropWhile_cons_of_neg (by simp [hy])]

/-- A number with a point in it and no exponent. -/
theorem readUnsigned_point (negative : Bool) {ds es : List Char} (hne : ds ≠ [])
    (hdigit : ∀ x ∈ ds ++ es, x.isDigit = true)
    (hfits : exponentFits (Nat.log 10 (digitsValue (ds ++ es)) + 1) (-es.length) = true) :
    readUnsigned negative (ds ++ '.' :: es) =
      .finite negative (digitsValue (ds ++ es)) (-es.length) := by
  have hpoint : '.' ∈ ds ++ '.' :: es := by simp
  have hletter {x y : Char} (hx : x.isDigit = true) (hy : y.isDigit = false) : x ≠ y := by
    rintro rfl
    simp [hx] at hy
  have hwords : ¬ (ds ++ '.' :: es = "inf".toList ∨ ds ++ '.' :: es = "infinity".toList) := by
    rintro (h | h) <;> rw [h] at hpoint <;> exact absurd hpoint (by decide)
  obtain ⟨d, ds', rfl⟩ := List.exists_cons_of_ne_nil hne
  have hd : d.isDigit = true := hdigit d (by simp)
  have hnan : "nan".toList.isPrefixOf (d :: ds' ++ '.' :: es) = false := by
    have hn : ('n' == d) = false := beq_eq_false_iff_ne.mpr (hletter hd (by decide)).symm
    show ('n' == d && _) = false
    rw [hn, Bool.false_and]
  have hsnan : "snan".toList.isPrefixOf (d :: ds' ++ '.' :: es) = false := by
    have hs : ('s' == d) = false := beq_eq_false_iff_ne.mpr (hletter hd (by decide)).symm
    show ('s' == d && _) = false
    rw [hs, Bool.false_and]
  have hmantissa : ∀ x ∈ d :: ds' ++ '.' :: es, decide (x ≠ 'e') = true := by
    intro x hx
    rw [decide_eq_true_eq]
    rcases List.mem_append.mp hx with hx | hx
    · exact hletter (hdigit x (List.mem_append_left _ hx)) (by decide)
    · rcases List.mem_cons.mp hx with rfl | hx
      · decide
      · exact hletter (hdigit x (List.mem_append_right _ hx)) (by decide)
  have htake : (d :: ds' ++ '.' :: es).takeWhile (· ≠ 'e') = d :: ds' ++ '.' :: es :=
    List.takeWhile_eq_self_iff.mpr hmantissa
  have hdrop : (d :: ds' ++ '.' :: es).dropWhile (· ≠ 'e') = [] :=
    List.dropWhile_eq_nil_iff.mpr hmantissa
  obtain ⟨hwhole, hfraction⟩ := @takeWhile_append_cons (· ≠ '.') (d :: ds') es '.'
    (fun x hx => decide_eq_true (hletter (hdigit x (List.mem_append_left _ hx)) (by decide)))
    (by decide)
  have hall : (d :: ds' ++ es).all Char.isDigit = true := List.all_eq_true.mpr hdigit
  unfold readUnsigned
  rw [if_neg hwords, hnan, hsnan]
  simp only [Bool.false_and, Bool.false_eq_true, if_false, htake, hdrop, hwhole, hfraction,
    List.drop_succ_cons, List.drop_zero, hall]
  simpa [readExponent] using hfits

theorem amount_fits {c : ℕ} (hc : c < 10 ^ 28) : exponentFits (Nat.log 10 c + 1) (-2) := by
  have hlog : Nat.log 10 c < 28 := by
    rcases Nat.eq_zero_or_pos c with rfl | hpos
    · simp
    · exact Nat.log_lt_of_lt_pow hpos.ne' hc
  simp only [exponentFits, Bool.and_eq_true, decide_eq_true_eq]
  omega

theorem toLower_of_isDigit {c : Char} (hc : c.isDigit = true) : c.toLower = c := by
  have hrange : 48 ≤ c.toNat ∧ c.toNat ≤ 57 := Char.isDigit_iff_toNat.mp hc
  unfold Char.toLower
  rw [dif_neg]
  simp only [ge_iff_le, UInt32.le_iff_toNat_le, not_and]
  show 65 ≤ c.toNat → ¬ c.toNat ≤ 90
  omega

theorem asciiDigit_of_isDigit {c : Char} (hc : c.isDigit = true) : asciiDigit c = c := by
  have hrange : 48 ≤ c.toNat ∧ c.toNat ≤ 57 := Char.isDigit_iff_toNat.mp hc
  have hvalue : 48 + decimalValue c = c.toNat := by
    rw [decimalValue_of_isDigit hc]
    omega
  rw [asciiDigit, if_pos (isDecimal_of_isDigit hc), hvalue, Char.ofNat_toNat]

/-- The characters of an amount mean the same to every step of the reader. -/
theorem mem_showCents {c : ℤ} {x : Char} (hx : x ∈ (showCents c).toList) :
    x ≠ ',' ∧ x ≠ '_' ∧ isSpace x = false ∧ (asciiDigit x).toLower = x := by
  have hchar : x.isDigit = true ∨ x = '-' ∨ x = '.' := by
    have hdigits := @isDigit_amountDigits c.natAbs x
    have hsign : x ∈ (if c < 0 then ['-'] else []) → x = '-' := by
      split <;> simp
    simp only [toList_showCents, List.mem_append, List.mem_cons] at hx hdigits
    tauto
  rcases hchar with hdigit | rfl | rfl
  · refine ⟨?_, ?_, not_isSpace_of_isDigit hdigit, ?_⟩
    · rintro rfl
      simp at hdigit
    · rintro rfl
      simp at hdigit
    · rw [asciiDigit_of_isDigit hdigit, toLower_of_isDigit hdigit]
  · decide
  · decide

/-- An amount as it is written is read again. -/
theorem readAmount_showCents {c : ℤ} (hc : c.natAbs < 10 ^ 28) :
    readAmount (showCents c) = .cents c := by
  have hcommas : (showCents c).toList.filter (· ≠ ',') = (showCents c).toList :=
    List.filter_eq_self.mpr (fun x hx => decide_eq_true (mem_showCents hx).1)
  have hblanks : strip (showCents c) = showCents c :=
    strip_of_ends (fun x hx => (mem_showCents (List.mem_of_mem_head? hx)).2.2.1)
      (fun x hx => (mem_showCents (List.mem_of_getLast? hx)).2.2.1)
  have hscores : (showCents c).toList.filter (· ≠ '_') = (showCents c).toList :=
    List.filter_eq_self.mpr (fun x hx => decide_eq_true (mem_showCents hx).2.1)
  have hlower : (showCents c).toList.map (fun x => (asciiDigit x).toLower) =
      (showCents c).toList := by
    conv_rhs => rw [← List.map_id (showCents c).toList]
    exact List.map_congr_left (fun x hx => (mem_showCents hx).2.2.2)
  have hwhole : (amountDigits c.natAbs).1 ≠ [] := Nat.toDigits_ne_nil
  have hunsigned (negative : Bool) : readUnsigned negative
      ((amountDigits c.natAbs).1 ++ '.' :: (amountDigits c.natAbs).2) =
      .finite negative c.natAbs (-2) := by
    have hfits : exponentFits (Nat.log 10 (digitsValue ((amountDigits c.natAbs).1 ++
        (amountDigits c.natAbs).2)) + 1) (-(amountDigits c.natAbs).2.length) = true := by
      rw [digitsValue_amountDigits]
      exact amount_fits hc
    have h := readUnsigned_point negative hwhole (fun x => isDigit_amountDigits) hfits
    rwa [digitsValue_amountDigits] at h
  have hread : readDecimal (showCents c) = .finite (c < 0) c.natAbs (-2) := by
    unfold readDecimal
    rw [hblanks, hscores, hlower, toList_showCents]
    by_cases hneg : c < 0
    · simp only [hneg, if_true, List.singleton_append, decide_true]
      exact hunsigned true
    · obtain ⟨d, ds, hds⟩ := List.exists_cons_of_ne_nil hwhole
      have hd : d.isDigit = true := isDigit_amountDigits (c := c.natAbs) (by simp [hds])
      have h := hunsigned false
      rw [hds] at h ⊢
      simp only [hneg, if_false, List.nil_append, List.cons_append, decide_false] at h ⊢
      split
      next heq => simp [(List.cons.inj heq).1] at hd
      next heq => simp [(List.cons.inj heq).1] at hd
      next => exact h
  unfold readAmount
  rw [hcommas, String.ofList_toList, hread]
  have hvalue : (if decide (c < 0) = true then -((c.natAbs : ℚ) * 10 ^ (-2 : ℤ))
      else (c.natAbs : ℚ) * 10 ^ (-2 : ℤ)) = decimalOf c := by
    have habs : (c.natAbs : ℚ) = |(c : ℚ)| := by
      rw [Nat.cast_natAbs, Int.cast_abs]
    rw [habs, decimalOf]
    by_cases hneg : c < 0
    · rw [if_pos (decide_eq_true hneg), abs_of_neg (by exact_mod_cast hneg)]
      norm_num
      ring
    · rw [if_neg (by simpa using hneg), abs_of_nonneg (by exact_mod_cast not_lt.mp hneg)]
      norm_num
      ring
  simp only [hvalue, money_decimalOf, hc, if_true]

/-- A row of the file, its amounts in cents. -/
structure GlEntry where
  date : String
  code : String
  name : String
  description : String
  debit : ℤ
  credit : ℤ
  reference : String
  deriving DecidableEq, Repr

def GlLine.entry (l : GlLine) : GlEntry where
  date := isoDay l.date
  code := l.account.code
  name := l.accountName
  description := l.description
  debit := l.debit
  credit := l.credit
  reference := l.reference

def readEntry : Csv.Row → Option GlEntry
  | [date, code, name, description, debit, credit, reference] =>
    match readAmount (String.ofList debit), readAmount (String.ofList credit) with
    | .cents debit, .cents credit => some ⟨String.ofList date, String.ofList code,
        String.ofList name, String.ofList description, debit, credit, String.ofList reference⟩
    | _, _ => none
  | _ => none

/-- The rows below the header. -/
def readGlFile (text : List Char) : Option (List GlEntry) :=
  (Csv.read text).bind (fun rows =>
    if rows.head? = some glHeader then rows.tail.mapM readEntry else none)

/-- The amounts that a reader takes. -/
structure GlExport.Fits (x : GlExport) : Prop where
  debit : ∀ l ∈ x.lines, l.debit.natAbs < 10 ^ 28
  credit : ∀ l ∈ x.lines, l.credit.natAbs < 10 ^ 28
  totalDebit : x.totalDebit.natAbs < 10 ^ 28
  totalCredit : x.totalCredit.natAbs < 10 ^ 28

theorem readEntry_glRow {l : GlLine} (hdebit : l.debit.natAbs < 10 ^ 28)
    (hcredit : l.credit.natAbs < 10 ^ 28) : readEntry (glRow l) = some l.entry := by
  simp [readEntry, glRow, GlLine.entry, readAmount_showCents hdebit, readAmount_showCents hcredit]

theorem readGlFile_glFile {x : GlExport} (hfits : x.Fits) :
    readGlFile (glFile x.lines) = some (x.lines.map GlLine.entry) := by
  have hrows : ∀ lines : List GlLine, (∀ l ∈ lines, l ∈ x.lines) →
      (lines.map glRow).mapM readEntry = some (lines.map GlLine.entry) := by
    intro lines hlines
    induction lines with
    | nil => rfl
    | cons l rest ih =>
      have hl : l ∈ x.lines := hlines l List.mem_cons_self
      have hrest := ih (fun l' hl' => hlines l' (List.mem_cons_of_mem l hl'))
      simp [readEntry_glRow (hfits.debit l hl) (hfits.credit l hl), hrest]
  unfold readGlFile glFile
  rw [Csv.read_write]
  simpa using hrows x.lines (fun l hl => hl)

theorem GlExport.Fits.headers {x : GlExport} (hfits : x.Fits) :
    readAmount x.headers.totalDebit = .cents x.totalDebit ∧
      readAmount x.headers.totalCredit = .cents x.totalCredit :=
  ⟨readAmount_showCents hfits.totalDebit, readAmount_showCents hfits.totalCredit⟩

theorem glExport_eq_ok {coa : String → Option String} {db : Db} {tenantId : ℕ} {format : String}
    {w : GlWindow} {x : GlExport} (h : glExport coa db tenantId format w = .ok x) :
    x.totalDebit = totalDebit x.lines ∧ x.totalCredit = totalCredit x.lines := by
  unfold glExport at h
  obtain ⟨-, -, h⟩ := bind_eq_ok.mp h
  obtain ⟨-, -, h⟩ := bind_eq_ok.mp h
  cases h
  exact ⟨rfl, rfl⟩

/-- Every file of a run of an office holds the journal, whatever its names, descriptions and
references are, and what a reader adds up on the two sides agrees and is what was sent along. -/
theorem gl_files_balance {db : Db} (catalogue : Catalogue) (hdb : db.Unused)
    (hproducts : ∀ p ∈ db.products, p.Fair) (es : List OfficeEvent) (hfair : ∀ e ∈ es, e.Unsigned)
    {coa : String → Option String} {tenantId : ℕ} {w : GlWindow} {x : GlExport}
    (hx : glExport coa (run Office.step (.opening db catalogue) es).db tenantId "csv" w = .ok x)
    (hfits : x.Fits) :
    ∃ entries, readGlFile (glFile x.lines) = some entries ∧
      entries =
        (glLines coa (run Office.step (.opening db catalogue) es).db tenantId w).map
          GlLine.entry ∧
      (entries.map (·.debit)).sum = (entries.map (·.credit)).sum ∧
      readAmount x.headers.totalDebit = .cents (entries.map (·.debit)).sum ∧
      readAmount x.headers.totalCredit = .cents (entries.map (·.credit)).sum ∧
      x.headers.balanced = true := by
  have hbooks := journaled_run catalogue hdb hproducts hfair
  obtain ⟨hlines, hequal, hbalanced⟩ := hbooks.glExport hx
  obtain ⟨hdebit, hcredit⟩ := glExport_eq_ok hx
  have hdebits : ((x.lines.map GlLine.entry).map (·.debit)).sum = x.totalDebit := by
    rw [hdebit, List.map_map]
    rfl
  have hcredits : ((x.lines.map GlLine.entry).map (·.credit)).sum = x.totalCredit := by
    rw [hcredit, List.map_map]
    rfl
  refine ⟨_, readGlFile_glFile hfits, by rw [hlines], ?_, ?_, ?_, hbalanced⟩
  · rw [hdebits, hcredits, hequal]
  · rw [hdebits]
    exact hfits.headers.1
  · rw [hcredits]
    exact hfits.headers.2

/-- The accounts have a name with a comma and quotes in it. -/
theorem gl_files_balance_quoted :
    let coa := fun _ : String => some "Loans, \"small\""
    let books := (run Office.step (.opening (openMarket 10) openCatalogue)
      (penaltyPaid "approve")).db
    let lines := glLines coa books 1 ⟨0, 60⟩
    ∃ entries, readGlFile (glFile lines) = some entries ∧ entries = lines.map GlLine.entry ∧
      (entries.map (·.debit)).sum = (entries.map (·.credit)).sum ∧
      readAmount (showCents (totalDebit lines)) = .cents (entries.map (·.debit)).sum ∧
      readAmount (showCents (totalCredit lines)) = .cents (entries.map (·.credit)).sum ∧
      decide (totalDebit lines = totalCredit lines) = true := by
  intro coa books lines
  exact @gl_files_balance (openMarket 10) openCatalogue ⟨rfl, rfl, rfl, rfl, rfl⟩
    (by decide) (penaltyPaid "approve") (by decide) coa 1 ⟨0, 60⟩
    ⟨lines, totalDebit lines, totalCredit lines, totalDebit lines = totalCredit lines⟩ rfl
    ⟨by decide +kernel, by decide +kernel, by decide +kernel, by decide +kernel⟩

end FinylDcp
