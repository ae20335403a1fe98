import FinylDcp.CaseMapping

/-!
# Text fields

What the source does to the text it is given: strip the blanks around it, drop
every blank, bring it to upper case, cut it to the width of a column.
-/
namespace FinylDcp.Text

/-- Whitespace as the source language counts it. -/
def isSpace (c : Char) : Bool :=
  let n := c.toNat
  (9 ≤ n && n ≤ 13) || (28 ≤ n && n ≤ 32) || n = 0x85 || n = 0xa0 || n = 0x1680 ||
    (0x2000 ≤ n && n ≤ 0x200a) || n = 0x2028 || n = 0x2029 || n = 0x202f || n = 0x205f ||
    n = 0x3000

/-- Without the blanks at both ends. -/
def strip (s : String) : String :=
  String.ofList (((s.toList.dropWhile isSpace).reverse.dropWhile isSpace).reverse)

/-- Without any blank. -/
def squash (s : String) : String :=
  String.ofList (s.toList.filter (fun c => !isSpace c))

/-- The first `n` characters. -/
def cut (n : ℕ) (s : String) : String := String.ofList (s.toList.take n)

/-- The zeros of the decimal digits beyond ASCII; nine more digits follow each of them. -/
def decimalZeros : List ℕ :=
  [0x660, 0x6f0, 0x7c0, 0x966, 0x9e6, 0xa66, 0xae6, 0xb66, 0xbe6, 0xc66, 0xce6, 0xd66, 0xde6,
    0xe50, 0xed0, 0xf20, 0x1040, 0x1090, 0x17e0, 0x1810, 0x1946, 0x19d0, 0x1a80, 0x1a90, 0x1b50,
    0x1bb0, 0x1c40, 0x1c50, 0xa620, 0xa8d0, 0xa900, 0xa9d0, 0xa9f0, 0xaa50, 0xabf0, 0xff10,
    0x104a0, 0x10d30, 0x11066, 0x110f0, 0x11136, 0x111d0, 0x112f0, 0x11450, 0x114d0, 0x11650,
    0x116c0, 0x11730, 0x118e0, 0x11950, 0x11c50, 0x11d50, 0x11da0, 0x11f50, 0x16a60, 0x16ac0,
    0x16b50, 0x1d7ce, 0x1d7d8, 0x1d7e2, 0x1d7ec, 0x1d7f6, 0x1e140, 0x1e2f0, 0x1e4f0, 0x1e950,
    0x1fbf0]

/-- A decimal digit, of any script. -/
def isDecimal (c : Char) : Bool :=
  c.isDigit || decimalZeros.any (fun z => z ≤ c.toNat && c.toNat < z + 10)

/-- The value of a decimal digit of any script. -/
def decimalValue (c : Char) : ℕ :=
  if c.isDigit then c.toNat - 48
  else c.toNat - (decimalZeros.find? (fun z => z ≤ c.toNat && c.toNat < z + 10)).getD c.toNat

theorem decimalValue_of_isDigit {c : Char} (h : c.isDigit = true) :
    decimalValue c = c.toNat - 48 := if_pos h

theorem isDecimal_of_isDigit {c : Char} (h : c.isDigit = true) : isDecimal c = true := by
  simp [isDecimal, h]

/-- The digits that are not decimal: superscripts, subscripts, circled digits and the like, from
a first to a last code point. -/
def digitRanges : List (ℕ × ℕ) :=
  [(0xb2, 0xb3), (0xb9, 0xb9), (0x1369, 0x1371), (0x19da, 0x19da), (0x2070, 0x2070),
    (0x2074, 0x2079), (0x2080, 0x2089), (0x2460, 0x2468), (0x2474, 0x247c), (0x2488, 0x2490),
    (0x24ea, 0x24ea), (0x24f5, 0x24fd), (0x24ff, 0x24ff), (0x2776, 0x277e), (0x2780, 0x2788),
    (0x278a, 0x2792), (0x10a40, 0x10a43), (0x10e60, 0x10e68), (0x11052, 0x1105a),
    (0x1f100, 0x1f10a)]

/-- A digit as `str.isdigit` counts it. -/
def isDigit (c : Char) : Bool :=
  isDecimal c || digitRanges.any (fun r => r.1 ≤ c.toNat && c.toNat ≤ r.2)

/-- An empty text counts as none. -/
def nonEmpty (s : Option String) : Option String := s.filter (fun r => r ≠ "")

theorem nonEmpty_eq_some {s : Option String} {r : String} :
    nonEmpty s = some r ↔ s = some r ∧ r ≠ "" := by
  simp [nonEmpty, Option.filter_eq_some_iff]

/-- A stripped text has no more blanks at its ends. -/
theorem strip_strip (s : String) : strip (strip s) = strip s := by
  have hstrip (l : List Char) : ((l.dropWhile isSpace).reverse.dropWhile isSpace).reverse =
      (l.dropWhile isSpace).rdropWhile isSpace := rfl
  simp only [strip, String.toList_ofList, hstrip]
  congr 1
  have hhead : ((s.toList.dropWhile isSpace).rdropWhile isSpace).dropWhile isSpace =
      (s.toList.dropWhile isSpace).rdropWhile isSpace := by
    rw [List.dropWhile_eq_self_iff]
    intro hpos
    have hleads := List.rdropWhile_prefix isSpace (s.toList.dropWhile isSpace)
    have hpos' := hpos.trans_le hleads.length_le
    have hfirst := List.dropWhile_eq_self_iff.mp (List.dropWhile_idempotent isSpace s.toList) hpos'
    rwa [hleads.getElem hpos]
  rw [hhead, List.rdropWhile_idempotent]

/-- A text that begins and ends without a blank. -/
theorem strip_of_ends {s : String} (hhead : ∀ c ∈ s.toList.head?, isSpace c = false)
    (hlast : ∀ c ∈ s.toList.getLast?, isSpace c = false) : strip s = s := by
  have hdrop : ∀ l : List Char, (∀ c ∈ l.head?, isSpace c = false) → l.dropWhile isSpace = l := by
    intro l hl
    cases l with
    | nil => rfl
    | cons c rest => exact List.dropWhile_cons_of_neg (by simp [hl c rfl])
  rw [strip, hdrop _ hhead, hdrop _ (by simpa using hlast), List.reverse_reverse,
    String.ofList_toList]

theorem isSpace_toUpper (c : Char) : isSpace c.toUpper = isSpace c := by
  simp only [isSpace, toNat_toUpper]
  split_ifs with h
  · rw [Bool.eq_iff_iff]
    simp only [Bool.or_eq_true, Bool.and_eq_true, decide_eq_true_eq]
    omega
  · rfl

/-- The blanks, as ranges. -/
def blankRanges : List CaseRange :=
  [(9, 13, 0), (28, 32, 0), (0x85, 0x85, 0), (0xa0, 0xa0, 0), (0x1680, 0x1680, 0),
    (0x2000, 0x200a, 0), (0x2028, 0x2029, 0), (0x202f, 0x202f, 0), (0x205f, 0x205f, 0),
    (0x3000, 0x3000, 0)].map CaseRange.ofBlock

theorem isSpace_iff (c : Char) : isSpace c = true ↔ ∃ r ∈ blankRanges, r.holds c.toNat = true := by
  simp only [isSpace, blankRanges, List.map_cons, List.map_nil, CaseRange.ofBlock,
    CaseRange.holds_iff, List.exists_mem_cons_iff, List.not_mem_nil, false_and, exists_false,
    or_false, Bool.or_eq_true, Bool.and_eq_true, decide_eq_true_eq, Bool.false_eq_true,
    false_imp_iff, and_true]
  omega

theorem upperRanges_solid :
    upperRanges.all (fun r => blankRanges.all (fun b => r.apart b)) = true := by
  decide +kernel

theorem upperSpecials_solid :
    upperSpecials.all (fun x => x.2.all (fun n => !isSpace (Char.ofNat n))) = true := by
  decide +kernel

/-- No character becomes a blank in upper case. -/
theorem not_isSpace_upperChars {c d : Char} (hc : isSpace c = false) (hd : d ∈ upperChars c) :
    isSpace d = false := by
  cases upperChars_cases hd with
  | ascii hlt h => rw [h, isSpace_toUpper, hc]
  | special cs n hmem hn h =>
    simpa [h] using List.all_eq_true.mp (List.all_eq_true.mp upperSpecials_solid _ hmem) n hn
  | shifted r hr hholds h =>
    rw [Bool.eq_false_iff, ne_eq, isSpace_iff]
    rintro ⟨b, hb, hblank⟩
    have hapart := List.all_eq_true.mp (List.all_eq_true.mp upperRanges_solid r hr) b hb
    rw [h, toNat_shift hr hholds, CaseRange.not_holds_shift hapart hholds] at hblank
    cases hblank
  | fixed hupper h => rw [h, hc]

/-- The characters of a cleaned text: none is a blank, and all are upper case. -/
theorem clean_chars {n : ℕ} {s : String} {c : Char} (h : c ∈ (cut n (upper (squash s))).toList) :
    isSpace c = false ∧ upperChars c = [c] := by
  have hmem := List.mem_of_mem_take (by simpa [cut] using h)
  simp only [upper, squash, String.toList_ofList, List.mem_flatMap, List.mem_filter] at hmem
  obtain ⟨d, ⟨-, hd⟩, hc⟩ := hmem
  exact ⟨not_isSpace_upperChars (by simpa using hd) hc, upperChars_upperChars hc⟩

/-- Cleaning a cleaned text changes nothing. -/
theorem clean_clean (n : ℕ) (s : String) :
    cut n (upper (squash (cut n (upper (squash s))))) = cut n (upper (squash s)) := by
  have hchars := @clean_chars n s
  generalize hr : cut n (upper (squash s)) = r at hchars
  have hlength : r.toList.length ≤ n := by
    rw [← hr, cut, String.toList_ofList, List.length_take]
    exact Nat.min_le_left _ _
  have hsquash : squash r = r := by
    rw [squash, List.filter_eq_self.mpr (fun c hc => by simp [(hchars hc).1]), String.ofList_toList]
  rw [hsquash, upper_of_fixed fun c hc => (hchars hc).2, cut, List.take_of_length_le hlength,
    String.ofList_toList]

example : (cut 40 (upper (squash "qa 1\u00df"))) = "QA1SS" ∧
    (upper (String.ofList (List.replicate 16 '\u00df'))).length = 32 := by
  decide

end FinylDcp.Text
