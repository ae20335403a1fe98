import FinylDcp.ConsentCodes
import FinylDcp.Matching

/-!
# Spellings of one phone number

Two services bring a phone number to one normal form: digits only, the country code in front of
what begins with 0, 7 or 1, and never twice. A payment is matched with a client by the spellings
that the number may be stored in; read back, they give the number again, but for the bare
subscriber number of a line that is not mobile.
-/
namespace FinylDcp
open Text

/-- The country code in front of digits that begin with 0, 7 or 1. -/
def withCountryCode : List Char → List Char
  | '0' :: rest => "254".toList ++ rest
  | '7' :: rest => "254".toList ++ '7' :: rest
  | '1' :: rest => "254".toList ++ '1' :: rest
  | other => other

/-- The number as both services write it out. -/
def normalDigits (digits : List Char) : List Char :=
  dropRepeatedCode (withCountryCode digits).length (withCountryCode digits)

theorem normaliseMsisdn_eq (phone : String) :
    normaliseMsisdn phone = String.ofList (normalDigits (phone.toList.filter isDigit)) :=
  rfl

theorem normalisePhone_eq_normaliseMsisdn (phone : String) :
    normalisePhone phone = normaliseMsisdn phone :=
  rfl

/-- What no rule applies to: digits that begin neither with 0, 7 or 1 nor with the code twice. -/
structure Normal (digits : List Char) : Prop where
  isDigit : ∀ c ∈ digits, isDigit c = true
  head : ∀ c ∈ digits.head?, c ≠ '0' ∧ c ≠ '7' ∧ c ≠ '1'
  once : ¬"254254".toList <+: digits

section Digits

variable {digits : List Char}

theorem withCountryCode_eq_self (h : ∀ c ∈ digits.head?, c ≠ '0' ∧ c ≠ '7' ∧ c ≠ '1') :
    withCountryCode digits = digits := by
  unfold withCountryCode
  split
  · exact absurd rfl (h '0' rfl).1
  · exact absurd rfl (h '7' rfl).2.1
  · exact absurd rfl (h '1' rfl).2.2
  · rfl

/-- With the code in front, or as it was. -/
theorem withCountryCode_cases (digits : List Char) :
    "254".toList <+: withCountryCode digits ∨
      withCountryCode digits = digits ∧ ∀ c ∈ digits.head?, c ≠ '0' ∧ c ≠ '7' ∧ c ≠ '1' := by
  unfold withCountryCode
  split
  · exact .inl (List.prefix_append _ _)
  · exact .inl (List.prefix_append _ _)
  · exact .inl (List.prefix_append _ _)
  · rename_i hzero hseven hone
    refine .inr ⟨rfl, fun c hc => ?_⟩
    obtain ⟨rest, rfl⟩ := List.head?_eq_some_iff.mp hc
    refine ⟨?_, ?_, ?_⟩
    · rintro rfl
      exact hzero rest rfl
    · rintro rfl
      exact hseven rest rfl
    · rintro rfl
      exact hone rest rfl

theorem mem_withCountryCode {c : Char} (h : c ∈ withCountryCode digits) :
    c ∈ "254".toList ∨ c ∈ digits := by
  unfold withCountryCode at h
  split at h
  · exact (List.mem_append.mp h).imp_right (List.mem_cons_of_mem _)
  · exact List.mem_append.mp h
  · exact List.mem_append.mp h
  · exact .inr h

theorem dropRepeatedCode_eq_self (fuel : ℕ) (h : ¬"254254".toList <+: digits) :
    dropRepeatedCode fuel digits = digits := by
  cases fuel with
  | zero => rfl
  | succ fuel => rw [dropRepeatedCode, if_neg (by rwa [List.isPrefixOf_iff_prefix])]

/-- As many rounds as there are digits leave the code once. -/
theorem dropRepeatedCode_once {fuel : ℕ} (h : digits.length ≤ fuel) :
    ¬"254254".toList <+: dropRepeatedCode fuel digits := by
  induction fuel generalizing digits with
  | zero =>
    obtain rfl : digits = [] := List.eq_nil_of_length_eq_zero (by omega)
    decide
  | succ fuel ih =>
    rw [dropRepeatedCode]
    split_ifs with htwice
    · have hlength := (List.isPrefixOf_iff_prefix.mp htwice).length_le
      have hsix : "254254".toList.length = 6 := rfl
      exact ih (by rw [List.length_drop]; omega)
    · rwa [List.isPrefixOf_iff_prefix] at htwice

theorem dropRepeatedCode_suffix (fuel : ℕ) (digits : List Char) :
    dropRepeatedCode fuel digits <:+ digits := by
  induction fuel generalizing digits with
  | zero => exact List.suffix_rfl
  | succ fuel ih =>
    rw [dropRepeatedCode]
    split_ifs
    · exact (ih (digits.drop 3)).trans (List.drop_suffix 3 digits)
    · exact List.suffix_rfl

/-- The code stays in front. -/
theorem dropRepeatedCode_code (fuel : ℕ) (h : "254".toList <+: digits) :
    "254".toList <+: dropRepeatedCode fuel digits := by
  induction fuel generalizing digits with
  | zero => exact h
  | succ fuel ih =>
    rw [dropRepeatedCode]
    split_ifs with htwice
    · obtain ⟨rest, rfl⟩ := List.isPrefixOf_iff_prefix.mp htwice
      exact ih ⟨rest, rfl⟩
    · exact h

/-- Whatever digits come in, a normal form comes out. -/
theorem normal_normalDigits (h : ∀ c ∈ digits, isDigit c = true) :
    Normal (normalDigits digits) := by
  have hascii : ∀ c ∈ "254".toList, isDigit c = true := List.all_eq_true.mp (by decide)
  have hcoded : ∀ c ∈ (normalDigits digits).head?, "254".toList <+: withCountryCode digits →
      c ≠ '0' ∧ c ≠ '7' ∧ c ≠ '1' := by
    intro c hc hcode
    obtain ⟨rest, hrest⟩ := dropRepeatedCode_code (withCountryCode digits).length hcode
    rw [normalDigits, ← hrest] at hc
    obtain rfl : '2' = c := Option.some.inj hc
    decide
  refine ⟨fun c hc => ?_, fun c hc => ?_, dropRepeatedCode_once le_rfl⟩
  · have hmem := (dropRepeatedCode_suffix _ _).subset hc
    obtain hcode | hold := mem_withCountryCode hmem
    · exact hascii c hcode
    · exact h c hold
  · obtain hcode | ⟨hsame, hhead⟩ := withCountryCode_cases digits
    · exact hcoded c hc hcode
    by_cases htwice : "254254".toList <+: digits
    · refine hcoded c hc ?_
      rw [hsame]
      exact .trans ⟨"254".toList, rfl⟩ htwice
    · rw [normalDigits, hsame, dropRepeatedCode_eq_self _ htwice] at hc
      exact hhead c hc

end Digits

theorem normal_normaliseMsisdn (phone : String) : Normal (normaliseMsisdn phone).toList := by
  rw [normaliseMsisdn_eq, String.toList_ofList]
  exact normal_normalDigits fun c hc => (List.mem_filter.mp hc).2

/-- Text whose digits are a normal form once the code is in front. -/
theorem normaliseMsisdn_of_coded {s : String} {digits : List Char}
    (hcoded : withCountryCode (s.toList.filter isDigit) = digits) (h : Normal digits) :
    normaliseMsisdn s = String.ofList digits := by
  rw [normaliseMsisdn_eq, normalDigits, hcoded, dropRepeatedCode_eq_self _ h.once]

theorem Normal.filter_eq {digits : List Char} (h : Normal digits) :
    digits.filter Text.isDigit = digits :=
  List.filter_eq_self.mpr h.isDigit

theorem Normal.filter_rest {front rest : List Char} (h : Normal (front ++ rest)) :
    rest.filter Text.isDigit = rest :=
  List.filter_eq_self.mpr fun c hc => h.isDigit c (List.mem_append_right front hc)

/-- The numbers that normalise to themselves. -/
theorem normaliseMsisdn_eq_self_iff {n : String} : normaliseMsisdn n = n ↔ Normal n.toList := by
  constructor
  · intro h
    rw [← h]
    exact normal_normaliseMsisdn n
  · intro h
    have hcoded : withCountryCode (n.toList.filter isDigit) = n.toList := by
      rw [h.filter_eq, withCountryCode_eq_self h.head]
    rw [normaliseMsisdn_of_coded hcoded h, String.ofList_toList]

theorem normaliseMsisdn_idempotent (s : String) :
    normaliseMsisdn (normaliseMsisdn s) = normaliseMsisdn s :=
  normaliseMsisdn_eq_self_iff.mpr (normal_normaliseMsisdn s)

/-- The number without the country code. -/
def subscriber (n : String) : List Char := n.toList.drop 3

/-- A mobile number: its subscriber part begins with 7 or 1. -/
def Mobile (n : String) : Prop := (subscriber n).head? = some '7' ∨ (subscriber n).head? = some '1'

instance (n : String) : Decidable (Mobile n) := inferInstanceAs (Decidable (_ ∨ _))

/-- The spellings of a normal form: 12 digits that begin with the code. -/
theorem mem_phoneVariants {n s : String} (hn : normaliseMsisdn n = n) (h : s ∈ phoneVariants n) :
    ∃ rest, n = String.ofList ("254".toList ++ rest) ∧ rest.length = 9 ∧ subscriber n = rest ∧
      (s = n ∨ s = "+" ++ n ∨ s = "0" ++ String.ofList rest ∨ s = String.ofList rest) := by
  simp only [phoneVariants, hn] at h
  split_ifs at h with hshape
  · cases h
  simp only [ne_eq, decide_not, Bool.or_eq_true, Bool.not_eq_eq_eq_not, Bool.not_true,
    decide_eq_false_iff_not, not_or, not_not, Bool.not_eq_false] at hshape
  obtain ⟨hlength, hcode⟩ := hshape
  obtain ⟨rest, hrest⟩ := List.isPrefixOf_iff_prefix.mp hcode
  have hdrop : n.toList.drop 3 = rest := by rw [← hrest]; rfl
  refine ⟨rest, by rw [hrest, String.ofList_toList], ?_, hdrop, ?_⟩
  · have htotal : ("254".toList ++ rest).length = 12 := by rw [hrest]; exact hlength
    rw [List.length_append] at htotal
    exact Nat.add_left_cancel (n := 3) htotal
  · simpa [hdrop] using h

/-- The bare subscriber part is read as the number of a mobile line only: the code is put in
front of 7 and 1, and without it there are too few digits. -/
theorem normaliseMsisdn_bare_iff {n : String} {rest : List Char} (hn : Normal n.toList)
    (hnumber : n = String.ofList ("254".toList ++ rest)) (hlength : rest.length = 9)
    (hrest : subscriber n = rest) :
    normaliseMsisdn (String.ofList rest) = n ↔ Mobile n := by
  have hlist : n.toList = "254".toList ++ rest := by rw [hnumber, String.toList_ofList]
  have hfilter : (String.ofList rest).toList.filter isDigit = rest := by
    rw [hlist] at hn
    rw [String.toList_ofList, hn.filter_rest]
  constructor
  · intro h
    by_contra hfixed
    have hshort : (withCountryCode rest).length < 12 := by
      unfold withCountryCode
      split
      · have hthree : "254".toList.length = 3 := rfl
        rw [List.length_cons] at hlength
        rw [List.length_append]
        omega
      · exact absurd (.inl (by rw [hrest]; rfl)) hfixed
      · exact absurd (.inr (by rw [hrest]; rfl)) hfixed
      · omega
    have hle := (dropRepeatedCode_suffix (withCountryCode rest).length
      (withCountryCode rest)).length_le
    have heq : normalDigits rest = n.toList := by
      rw [← h, normaliseMsisdn_eq, hfilter, String.toList_ofList]
    have htwelve : n.toList.length = 12 := by
      rw [hlist, List.length_append, hlength]
      rfl
    rw [← heq, normalDigits] at htwelve
    omega
  · intro hmobile
    have hcoded : withCountryCode ((String.ofList rest).toList.filter isDigit) = n.toList := by
      rw [hfilter, hlist]
      rw [Mobile, hrest] at hmobile
      obtain hseven | hone := hmobile
      · obtain ⟨tail, rfl⟩ := List.head?_eq_some_iff.mp hseven
        rfl
      · obtain ⟨tail, rfl⟩ := List.head?_eq_some_iff.mp hone
        rfl
    rw [normaliseMsisdn_of_coded hcoded hn, String.ofList_toList]

/-- A spelling normalises back exactly when it is not the bare part of a line that is not
mobile. -/
theorem normaliseMsisdn_spelling_iff {n s : String} (hn : normaliseMsisdn n = n)
    (h : s ∈ phoneVariants n) :
    normaliseMsisdn s = n ↔ s ≠ String.ofList (subscriber n) ∨ Mobile n := by
  obtain ⟨rest, hnumber, hlength, hrest, hspelling⟩ := mem_phoneVariants hn h
  have hnormal := normaliseMsisdn_eq_self_iff.mp hn
  have hlist : n.toList = "254".toList ++ rest := by rw [hnumber, String.toList_ofList]
  by_cases hbare : s = String.ofList rest
  · rw [hbare, normaliseMsisdn_bare_iff hnormal hnumber hlength hrest, hrest]
    simp
  rw [hrest]
  refine iff_of_true ?_ (.inl hbare)
  obtain rfl | rfl | rfl | hsame := hspelling
  · exact hn
  · have hcoded : withCountryCode (("+" ++ n).toList.filter isDigit) = n.toList := by
      rw [String.toList_append, List.filter_append, hnormal.filter_eq]
      exact withCountryCode_eq_self hnormal.head
    rw [normaliseMsisdn_of_coded hcoded hnormal, String.ofList_toList]
  · have hcoded :
        withCountryCode (("0" ++ String.ofList rest).toList.filter isDigit) = n.toList := by
      have hlocal : ("0" ++ String.ofList rest).toList = "0".toList ++ rest := by simp
      rw [hlist] at hnormal ⊢
      rw [hlocal, List.filter_append, hnormal.filter_rest]
      rfl
    rw [normaliseMsisdn_of_coded hcoded hnormal, String.ofList_toList]
  · exact absurd hsame hbare

/-- The bare spelling of a line in Nairobi is accepted but not read back. -/
theorem landline_spelling_not_read :
    normaliseMsisdn "254201234567" = "254201234567" ∧
      "201234567" ∈ phoneVariants "254201234567" ∧
      normaliseMsisdn "201234567" ≠ "254201234567" := by
  decide

/-- The normal form is one, whichever service computes it; every spelling but the bare part of a
line that is not mobile normalises back, and such spellings are of one payer exactly when their
normal forms are equal. -/
theorem phone_spellings_canonical :
    (∀ s, normaliseMsisdn (normaliseMsisdn s) = normaliseMsisdn s) ∧
    (∀ s, normalisePhone s = normaliseMsisdn s) ∧
    (∀ n s, normaliseMsisdn n = n → s ∈ phoneVariants n →
      (normaliseMsisdn s = n ↔ s ≠ String.ofList (subscriber n) ∨ Mobile n)) ∧
    ∀ n m s t, normaliseMsisdn n = n → normaliseMsisdn m = m →
      s ∈ phoneVariants n → t ∈ phoneVariants m →
      (s ≠ String.ofList (subscriber n) ∨ Mobile n) →
      (t ≠ String.ofList (subscriber m) ∨ Mobile m) →
      (n = m ↔ normaliseMsisdn s = normaliseMsisdn t) := by
  refine ⟨normaliseMsisdn_idempotent, normalisePhone_eq_normaliseMsisdn,
    fun n s hn hs => normaliseMsisdn_spelling_iff hn hs, ?_⟩
  intro n m s t hn hm hs ht hreads hreads'
  rw [(normaliseMsisdn_spelling_iff hn hs).mpr hreads,
    (normaliseMsisdn_spelling_iff hm ht).mpr hreads']

/-- A number stored without the code, paid from with it. -/
theorem phone_spellings_canonical_stored :
    normaliseMsisdn "712345678" = normaliseMsisdn "+254712345678" := by
  obtain ⟨-, -, -, hpayer⟩ := phone_spellings_canonical
  exact (hpayer "254712345678" "254712345678" "712345678" "+254712345678" (by decide) (by decide)
    (by decide) (by decide) (by decide) (by decide)).mp rfl

end FinylDcp
