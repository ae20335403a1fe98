import FinylDcp.MachineReadable
import Mathlib.Data.Bool.AllAny

/-!
# Zones of documents

A passport or an identity card as its issuer writes it: fields of a fixed width, filled up, with
their check digits. The parser gives back what was written, when every line has a filler in it
and the holder was born in the last year of the past that its two digits name.
-/
namespace FinylDcp
open Calendar FilledFields Text

def mrzLetters : List Char := "ABCDEFGHIJKLMNOPQRSTUVWXYZ".toList

def mrzAlphanumerics : List Char := "ABCDEFGHIJKLMNOPQRSTUVWXYZ0123456789".toList

/-- A text of some characters, up to a width. -/
structure MrzText (allowed : List Char) (width : ℕ) where
  chars : List Char
  legal : chars ⊆ allowed
  fits : chars.length ≤ width

structure MrzWord where
  letters : List Char
  nonempty : letters ≠ []
  legal : letters ⊆ mrzLetters

inductive Sex
  | male
  | female
  | unspecified
  deriving DecidableEq

def Sex.code : Sex → Char
  | .male => 'M'
  | .female => 'F'
  | .unspecified => '<'

def Sex.gender : Sex → Option Gender
  | .male => some .male
  | .female => some .female
  | .unspecified => none

/-- What both kinds of documents say of their holder. -/
structure Holder where
  number : MrzText mrzAlphanumerics 9
  nationality : MrzText mrzLetters 3
  nationality_nonempty : nationality.chars ≠ []
  birth : Date
  sex : Sex
  expiry : Date
  expiry_century : 2000 ≤ expiry.year ∧ expiry.year ≤ 2099
  surname : List MrzWord
  surname_nonempty : surname ≠ []
  given : List MrzWord

/-- The names as they are written, one word after the other. -/
def Holder.writtenNames (h : Holder) : List Char :=
  identifiers '<' (h.surname.map MrzWord.letters) (h.given.map MrzWord.letters)

structure Passport where
  holder : Holder
  kind : MrzText mrzLetters 1
  state : MrzText mrzLetters 3
  optional : MrzText mrzChars 14
  /-- Optional data of fillers only may have a filler for their check digit. -/
  blankCheck : Bool
  fits : holder.writtenNames.length ≤ 39

structure IdCard where
  holder : Holder
  letter : Char
  letter_legal : letter ∈ mrzLetters
  kind : MrzText mrzLetters 1
  state : MrzText mrzLetters 3
  optional1 : MrzText mrzChars 15
  optional2 : MrzText mrzChars 11
  fits : holder.writtenNames.length ≤ 30

def checkChar (data : List Char) : Char := (mrzCheckDigit data).digitChar

/-- A field and its check digit. -/
def checked (data : List Char) : List Char := data ++ [checkChar data]

def twoDigits (n : ℕ) : List Char := [(n / 10).digitChar, (n % 10).digitChar]

/-- A date as year, month and day, two digits each. -/
def mrzDate (d : Date) : List Char :=
  twoDigits (d.year % 100) ++ (twoDigits d.month ++ twoDigits d.day)

namespace Holder

def numberField (h : Holder) : List Char := checked (fill '<' 9 h.number.chars)

def birthField (h : Holder) : List Char := checked (mrzDate h.birth)

def expiryField (h : Holder) : List Char := checked (mrzDate h.expiry)

def nationalityField (h : Holder) : List Char := fill '<' 3 h.nationality.chars

end Holder

namespace Passport

def optionalField (p : Passport) : List Char :=
  let data := fill '<' 14 p.optional.chars
  data ++ [if p.blankCheck ∧ data = List.replicate 14 '<' then '<' else checkChar data]

def line1 (p : Passport) : List Char :=
  'P' :: (fill '<' 1 p.kind.chars ++ (fill '<' 3 p.state.chars ++
    fill '<' 39 p.holder.writtenNames))

/-- The check digit over all fields that have one. -/
def composite (p : Passport) : Char :=
  checkChar (p.holder.numberField ++ p.holder.birthField ++ p.holder.expiryField ++
    p.optionalField)

def line2 (p : Passport) : List Char :=
  p.holder.numberField ++ (p.holder.nationalityField ++ (p.holder.birthField ++
    (p.holder.sex.code :: (p.holder.expiryField ++ (p.optionalField ++ [p.composite])))))

end Passport

namespace IdCard

def line1 (c : IdCard) : List Char :=
  c.letter :: (fill '<' 1 c.kind.chars ++ (fill '<' 3 c.state.chars ++
    (c.holder.numberField ++ fill '<' 15 c.optional1.chars)))

def composite (c : IdCard) : Char :=
  checkChar (c.holder.numberField ++ fill '<' 15 c.optional1.chars ++ c.holder.birthField ++
    c.holder.expiryField ++ fill '<' 11 c.optional2.chars)

def line2 (c : IdCard) : List Char :=
  c.holder.birthField ++ (c.holder.sex.code :: (c.holder.expiryField ++
    (c.holder.nationalityField ++ (fill '<' 11 c.optional2.chars ++ [c.composite]))))

def line3 (c : IdCard) : List Char := fill '<' 30 c.holder.writtenNames

end IdCard

inductive IdDocument
  | passport (p : Passport)
  | idCard (c : IdCard)

namespace IdDocument

def holder : IdDocument → Holder
  | passport p => p.holder
  | idCard c => c.holder

def lines : IdDocument → List (List Char)
  | passport p => [p.line1, p.line2]
  | idCard c => [c.line1, c.line2, c.line3]

/-- The lines, one below the other. -/
def text (d : IdDocument) : String := String.ofList (['\n'].intercalate d.lines)

end IdDocument

/-- A word with a capital. -/
def MrzWord.titled (w : MrzWord) : String :=
  String.ofList (w.letters.take 1 ++ (w.letters.drop 1).map Char.toLower)

/-- The words of a name with blanks between them, if there are any. -/
def titledName (ws : List MrzWord) : Option String :=
  if ws = [] then none else some (" ".intercalate (ws.map MrzWord.titled))

/-- The fields of a document that its holder can check. -/
structure PrintedFields where
  serialNumber : Option String
  nationality : Option String
  dateOfBirth : Option Date
  gender : Option Gender
  dateOfExpiry : Option Date
  names : MrzNames
  deriving DecidableEq

def MrzFields.printed (f : MrzFields) : PrintedFields where
  serialNumber := f.serialNumber
  nationality := f.nationality
  dateOfBirth := f.dateOfBirth
  gender := f.gender
  dateOfExpiry := f.dateOfExpiry
  names := f.names

/-- The fields as they were written. -/
def Holder.printed (h : Holder) : PrintedFields where
  serialNumber := if h.number.chars = [] then none else some (String.ofList h.number.chars)
  nationality := some (String.ofList h.nationality.chars)
  dateOfBirth := some h.birth
  gender := h.sex.gender
  dateOfExpiry := some h.expiry
  names :=
    { first := h.given.head?.map MrzWord.titled
      middle := titledName h.given.tail
      last := titledName h.surname }

/-- The birth is of the last year up to this one that its two digits name, from 1900 to 2099. -/
def CenturyKnown (today birth : Date) : Prop :=
  2000 ≤ birth.year ∧ birth.year ≤ 2099 ∧ birth.year ≤ today.year ∨
    1900 ≤ birth.year ∧ birth.year ≤ 1999 ∧ today.year < birth.year + 100

def Legal (cs : List Char) : Prop := cs ⊆ mrzChars

/-- Cleaning and splitting leave the characters of the zone as they are. -/
theorem mrzChars_plain : ∀ c ∈ mrzChars, upperChars c = [c] ∧ isSpace c = false ∧
    c ≠ ' ' ∧ c ∉ fillerGlyphs ∧ isLineBreak c = false :=
  List.all_iff_forall_prop.mp (by decide)

theorem mrzLetters_subset : ∀ c ∈ mrzLetters, c ∈ mrzChars ∧ c ≠ '<' :=
  List.all_iff_forall_prop.mp (by decide)

theorem mrzAlphanumerics_subset : ∀ c ∈ mrzAlphanumerics, c ∈ mrzChars ∧ c ≠ '<' :=
  List.all_iff_forall_prop.mp (by decide)

theorem digitChar_mem : ∀ n < 10, n.digitChar ∈ mrzChars := by
  decide

theorem Legal.append {xs ys : List Char} (hx : Legal xs) (hy : Legal ys) : Legal (xs ++ ys) := by
  intro c hc
  exact (List.mem_append.mp hc).elim (fun h => hx h) (fun h => hy h)

theorem Legal.cons {c : Char} {cs : List Char} (hc : c ∈ mrzChars) (hcs : Legal cs) :
    Legal (c :: cs) :=
  List.cons_subset.mpr ⟨hc, hcs⟩

theorem Legal.fill {cs : List Char} {n : ℕ} (h : Legal cs) : Legal (fill '<' n cs) := by
  intro c hc
  obtain hmem | rfl := mem_fill hc
  · exact h hmem
  · decide

theorem strip_of_legal {cs : List Char} (h : Legal cs) :
    strip (String.ofList cs) = String.ofList cs := by
  apply strip_of_ends
  · intro c hc
    rw [String.toList_ofList] at hc
    exact (mrzChars_plain c (h (List.mem_of_mem_head? hc))).2.1
  · intro c hc
    rw [String.toList_ofList] at hc
    exact (mrzChars_plain c (h (List.mem_of_mem_getLast? hc))).2.1

theorem cleanLine_eq_self {cs : List Char} (h : Legal cs) : cleanLine cs = cs := by
  have hplain c (hc : c ∈ cs) := mrzChars_plain c (h hc)
  have hupper : upper (String.ofList cs) = String.ofList cs := by
    apply upper_of_fixed
    intro c hc
    rw [String.toList_ofList] at hc
    exact (hplain c hc).1
  have hspaces : cs.filter (· ≠ ' ') = cs := by
    apply List.filter_eq_self.mpr
    intro c hc
    exact decide_eq_true (hplain c hc).2.2.1
  have hglyphs : cs.map (fun c => if c ∈ fillerGlyphs then '<' else c) = cs := by
    rw [List.map_congr_left (fun c hc => if_neg (hplain c hc).2.2.2.1), List.map_id']
  simp only [cleanLine, hupper, strip_of_legal h, String.toList_ofList, hspaces, hglyphs]
  exact List.filter_eq_self.mpr (fun c hc => decide_eq_true (h hc))

theorem splitLines_cons {c : Char} (h : isLineBreak c = false) (cs : List Char) :
    splitLines (c :: cs) =
      match splitLines cs with
      | [] => [[c]]
      | line :: lines => (c :: line) :: lines := by
  rw [splitLines]
  · refine (if_neg (by simp [h])).trans ?_
    rfl
  · rintro rest rfl -
    exact absurd h (by decide)

theorem splitLines_append {cs : List Char} (hcs : ∀ c ∈ cs, isLineBreak c = false)
    (rest : List Char) : splitLines (cs ++ '\n' :: rest) = cs :: splitLines rest := by
  induction cs with
  | nil =>
    rw [List.nil_append, splitLines, if_pos (by decide)]
    rintro _ h -
    exact absurd h (by decide)
  | cons c cs ih =>
    rw [List.cons_append, splitLines_cons (hcs c List.mem_cons_self),
      ih (fun d hd => hcs d (List.mem_cons_of_mem _ hd))]

theorem splitLines_eq_singleton {cs : List Char} (hne : cs ≠ [])
    (hcs : ∀ c ∈ cs, isLineBreak c = false) : splitLines cs = [cs] := by
  induction cs with
  | nil => exact absurd rfl hne
  | cons c cs ih =>
    rw [splitLines_cons (hcs c List.mem_cons_self)]
    by_cases hlast : cs = []
    · rw [hlast, splitLines]
    · rw [ih hlast (fun d hd => hcs d (List.mem_cons_of_mem _ hd))]

/-- Lines written one below the other are split again. -/
theorem splitLines_intercalate {lines : List (List Char)}
    (hlines : ∀ line ∈ lines, line ≠ [] ∧ ∀ c ∈ line, isLineBreak c = false) :
    splitLines (['\n'].intercalate lines) = lines := by
  induction lines with
  | nil => rw [List.intercalate_nil, splitLines]
  | cons line lines ih =>
    have hline := hlines line List.mem_cons_self
    have hrest := ih (fun l hl => hlines l (List.mem_cons_of_mem _ hl))
    cases lines with
    | nil =>
      rw [List.intercalate_singleton]
      exact splitLines_eq_singleton hline.1 hline.2
    | cons next lines =>
      have hcons : ['\n'].intercalate (line :: next :: lines) =
          line ++ '\n' :: ['\n'].intercalate (next :: lines) := by
        simp
      rw [hcons, splitLines_append hline.2, hrest]

/-- The lines of a zone that are found are those with a filler. -/
theorem findMrzLines_intercalate {lines : List (List Char)}
    (hlines : ∀ line ∈ lines, Legal line ∧ 28 ≤ line.length) :
    findMrzLines (String.ofList (['\n'].intercalate lines)) =
      lines.filter (fun line => '<' ∈ line) := by
  have hsplit : splitLines (['\n'].intercalate lines) = lines := by
    apply splitLines_intercalate
    intro line hline
    have hlong := (hlines line hline).2
    refine ⟨?_, fun c hc => (mrzChars_plain c ((hlines line hline).1 hc)).2.2.2.2⟩
    rintro rfl
    exact absurd hlong (by decide)
  rw [findMrzLines, String.toList_ofList, hsplit, ← List.filterMap_eq_filter]
  apply List.filterMap_congr
  intro line hline
  obtain ⟨hlegal, hlong⟩ := hlines line hline
  have hratio : 3 * max line.length 1 ≤ 5 * line.length := by omega
  simp only [cleanLine_eq_self hlegal, strip_of_legal hlegal, String.toList_ofList, hlong, hratio,
    true_and, and_true, Option.guard, Nat.one_le_iff_ne_zero, ← Nat.pos_iff_ne_zero,
    List.count_pos_iff]
  simp

theorem mrzCheckDigit_lt (data : List Char) : mrzCheckDigit data < 10 :=
  Nat.mod_lt _ (by decide)

/-- A rendered check digit holds. -/
theorem matchesCheck_checkChar (data : List Char) : matchesCheck data [checkChar data] = true := by
  have hdigit : ∀ n < 10, n.digitChar.isDigit = true ∧ digitsValue [n.digitChar] = n := by decide
  obtain ⟨hisDigit, hvalue⟩ := hdigit _ (mrzCheckDigit_lt data)
  simp [matchesCheck, checkChar, hisDigit, hvalue]

theorem twoDigits_spec : ∀ n < 100, (twoDigits n).all Char.isDigit = true ∧
    digitsValue (twoDigits n) = n := by
  decide

theorem legal_twoDigits {n : ℕ} (h : n < 100) : Legal (twoDigits n) :=
  Legal.cons (digitChar_mem _ (by omega))
    (Legal.cons (digitChar_mem _ (by omega)) (List.nil_subset _))

theorem length_mrzDate (d : Date) : (mrzDate d).length = 6 := by
  simp [mrzDate, twoDigits]

theorem legal_mrzDate (d : Date) : Legal (mrzDate d) := by
  have hmonth := d.month_valid
  have hday := d.day_valid
  have hlast := monthDays_le d.year d.month
  exact Legal.append (legal_twoDigits (Nat.mod_lt _ (by decide)))
    (Legal.append (legal_twoDigits (by omega)) (legal_twoDigits (by omega)))

/-- The year that the parser takes for the last two digits of one. -/
def parsedYear (today : Date) (isDob : Bool) (year : ℕ) : ℕ :=
  if isDob ∧ today.year < 2000 + year % 100 then 1900 + year % 100 else 2000 + year % 100

/-- A date is read back when its century is guessed. -/
theorem parseMrzDate_eq_some_iff {today d : Date} {isDob : Bool} :
    parseMrzDate today isDob (mrzDate d) = some d ↔ parsedYear today isDob d.year = d.year := by
  have hmonth := d.month_valid
  have hday := d.day_valid
  have hlast := monthDays_le d.year d.month
  obtain ⟨hyears, hyy⟩ := twoDigits_spec (d.year % 100) (Nat.mod_lt _ (by decide))
  obtain ⟨hmonths, hmm⟩ := twoDigits_spec d.month (by omega)
  obtain ⟨hdays, hdd⟩ := twoDigits_spec d.day (by omega)
  have hdigits : (mrzDate d).all Char.isDigit = true := by
    rw [mrzDate, List.all_append, List.all_append, hyears, hmonths, hdays]
    rfl
  have hyear : slice 0 2 (mrzDate d) = twoDigits (d.year % 100) := rfl
  have hmonth' : slice 2 4 (mrzDate d) = twoDigits d.month := rfl
  have hday' : slice 4 6 (mrzDate d) = twoDigits d.day := rfl
  rw [parseMrzDate, if_pos ⟨length_mrzDate d, hdigits⟩]
  simp only [hyear, hmonth', hday', hyy, hmm, hdd]
  change (if h : (1 ≤ d.month ∧ d.month ≤ 12) ∧ 1 ≤ d.day ∧
      d.day ≤ monthDays (parsedYear today isDob d.year) d.month then
    some (Date.mk (parsedYear today isDob d.year) d.month d.day h.1 h.2) else none) = some d ↔ _
  constructor
  · intro h
    split_ifs at h
    exact congrArg Date.year (Option.some.inj h)
  · intro h
    rw [dif_pos ⟨hmonth, by rw [h]; exact hday⟩]
    exact congrArg some (Date.ext h rfl rfl)

theorem parsedYear_birth {today birth : Date} :
    parsedYear today true birth.year = birth.year ↔ CenturyKnown today birth := by
  unfold parsedYear CenturyKnown
  simp only [true_and]
  split_ifs with h <;> omega

theorem parsedYear_expiry {today expiry : Date}
    (h : 2000 ≤ expiry.year ∧ expiry.year ≤ 2099) :
    parsedYear today false expiry.year = expiry.year := by
  unfold parsedYear
  rw [if_neg (by simp)]
  omega

theorem mrzLetters_cased : ∀ c ∈ mrzLetters, c.toUpper = c ∧ c.isAlpha = true :=
  List.all_iff_forall_prop.mp (by decide)

theorem titleFrom_letters {w : List Char} (h : ∀ c ∈ w, c ∈ mrzLetters) :
    titleFrom true w = w.map Char.toLower := by
  induction w with
  | nil => rfl
  | cons c w ih =>
    rw [titleFrom, (mrzLetters_cased c (h c List.mem_cons_self)).2,
      ih (fun d hd => h d (List.mem_cons_of_mem _ hd)), if_pos rfl, List.map_cons]

theorem title_letters (w : MrzWord) : title w.letters = w.titled := by
  obtain ⟨c, cs, hw⟩ := List.exists_cons_of_ne_nil w.nonempty
  have hlegal := w.legal
  rw [title, MrzWord.titled, hw]
  rw [hw] at hlegal
  obtain ⟨hupper, halpha⟩ := mrzLetters_cased c (hlegal List.mem_cons_self)
  rw [titleFrom, halpha, titleFrom_letters (fun d hd => hlegal (List.mem_cons_of_mem _ hd)),
    hupper]
  rfl

theorem titled_ne_empty (w : MrzWord) : w.titled ≠ "" := by
  obtain ⟨c, cs, hw⟩ := List.exists_cons_of_ne_nil w.nonempty
  intro h
  have hnil := congrArg String.toList h
  rw [MrzWord.titled, hw, String.toList_ofList] at hnil
  exact absurd hnil (List.cons_ne_nil _ _)

theorem titledName_eq (ws : List MrzWord) :
    nonEmpty (some (" ".intercalate ((ws.map MrzWord.letters).map title))) = titledName ws := by
  have htitles : (ws.map MrzWord.letters).map title = ws.map MrzWord.titled := by
    rw [List.map_map]
    exact List.map_congr_left (fun w _ => title_letters w)
  rw [htitles, titledName]
  cases ws with
  | nil => rfl
  | cons w ws =>
    rw [if_neg (List.cons_ne_nil _ _), nonEmpty_eq_some]
    refine ⟨rfl, fun h => ?_⟩
    cases ws with
    | nil => exact titled_ne_empty w (by simpa using h)
    | cons v ws =>
      have hlist := congrArg String.toList h
      simp [String.toList_intercalate] at hlist

theorem orNone_eq (cs : List Char) :
    orNone cs = if cs = [] then none else some (String.ofList cs) := by
  unfold orNone
  split_ifs with h
  · rw [h]
    rfl
  · rw [nonEmpty_eq_some]
    refine ⟨rfl, fun hempty => h ?_⟩
    simpa using congrArg String.toList hempty

theorem filler_not_mem_number (h : Holder) : '<' ∉ h.number.chars :=
  fun hc => (mrzAlphanumerics_subset '<' (h.number.legal hc)).2 rfl

theorem filler_not_mem_nationality (h : Holder) : '<' ∉ h.nationality.chars :=
  fun hc => (mrzLetters_subset '<' (h.nationality.legal hc)).2 rfl

theorem Sex.gender_code (s : Sex) : mrzGender [s.code] = s.gender := by
  cases s <;> decide

/-- The names are split as they were written. -/
theorem Holder.splitNames_fill {h : Holder} {n : ℕ} (hfits : h.writtenNames.length ≤ n) :
    splitNames (partitionPair '<' (fill '<' n h.writtenNames)).1
      (partitionPair '<' (fill '<' n h.writtenNames)).2 = h.printed.names := by
  have hwords (ws : List MrzWord) : ∀ w ∈ ws.map MrzWord.letters, w ≠ [] ∧ '<' ∉ w := by
    intro letters hletters
    obtain ⟨w, -, rfl⟩ := List.mem_map.mp hletters
    exact ⟨w.nonempty, fun hc => (mrzLetters_subset '<' (w.legal hc)).2 rfl⟩
  obtain ⟨hsurname, hgiven⟩ :=
    words_partitionPair_fill (hwords h.surname) (hwords h.given) hfits
  have hfirst : ((h.given.map MrzWord.letters).head?.map title) =
      h.given.head?.map MrzWord.titled := by
    cases h.given with
    | nil => rfl
    | cons w ws => exact congrArg some (title_letters w)
  rw [Holder.writtenNames, splitNames, hsurname, hgiven, hfirst, ← List.map_tail, titledName_eq,
    titledName_eq]
  rfl

/-- What the parser reads of the holder, with the date of birth as it makes it out. -/
def Holder.parsed (h : Holder) (today : Date) : PrintedFields :=
  { h.printed with dateOfBirth := parseMrzDate today true (mrzDate h.birth) }

theorem Holder.parsed_eq_printed_iff {h : Holder} {today : Date} :
    h.parsed today = h.printed ↔ CenturyKnown today h.birth := by
  rw [← parsedYear_birth, ← parseMrzDate_eq_some_iff]
  constructor
  · intro heq
    exact congrArg PrintedFields.dateOfBirth heq
  · intro hbirth
    rw [Holder.parsed, hbirth]
    rfl

theorem Holder.serialNumber_eq (h : Holder) :
    orNone ((fill '<' 9 h.number.chars).filter (· ≠ '<')) = h.printed.serialNumber := by
  rw [filter_fill h.number.fits (filler_not_mem_number h), orNone_eq]
  rfl

theorem Holder.nationality_eq (h : Holder) :
    orNone ((fill '<' 3 h.nationality.chars).filter (· ≠ '<')) = h.printed.nationality := by
  rw [filter_fill h.nationality.fits (filler_not_mem_nationality h), orNone_eq,
    if_neg h.nationality_nonempty]
  rfl

theorem Holder.expiry_eq (h : Holder) (today : Date) :
    parseMrzDate today false (mrzDate h.expiry) = some h.expiry :=
  parseMrzDate_eq_some_iff.mpr (parsedYear_expiry h.expiry_century)

namespace Passport

variable (p : Passport)

theorem length_line1 : p.line1.length = 44 := by
  simp [line1]

theorem length_line2 : p.line2.length = 44 := by
  simp [line2, Holder.numberField, Holder.nationalityField, Holder.birthField, Holder.expiryField,
    optionalField, checked, length_mrzDate]

theorem parseTd3_lines (today : Date) :
    (parseTd3 today p.line1 p.line2).map MrzFields.printed = some (p.holder.parsed today) := by
  have hnames : p.line1.drop 5 = fill '<' 39 p.holder.writtenNames := by
    simp [line1, List.drop_append]
  have hline : p.line2 = fill '<' 9 p.holder.number.chars ++
      ([checkChar (fill '<' 9 p.holder.number.chars)] ++ (fill '<' 3 p.holder.nationality.chars ++
        (mrzDate p.holder.birth ++ ([checkChar (mrzDate p.holder.birth)] ++
          ([p.holder.sex.code] ++ (mrzDate p.holder.expiry ++
            (checkChar (mrzDate p.holder.expiry) :: (p.optionalField ++ [p.composite])))))))) := by
    simp [line2, Holder.numberField, Holder.nationalityField, Holder.birthField,
      Holder.expiryField, checked]
  have hslices : slice 0 9 p.line2 = fill '<' 9 p.holder.number.chars ∧
      slice 9 10 p.line2 = [checkChar (fill '<' 9 p.holder.number.chars)] ∧
      slice 10 13 p.line2 = fill '<' 3 p.holder.nationality.chars ∧
      slice 13 19 p.line2 = mrzDate p.holder.birth ∧
      slice 20 21 p.line2 = [p.holder.sex.code] ∧
      slice 21 27 p.line2 = mrzDate p.holder.expiry := by
    rw [hline]
    simp only [slice_append_right, slice_append_left, length_fill, length_mrzDate,
      List.length_singleton, Nat.reduceLeDiff, Nat.reduceSub, le_refl, and_self]
  obtain ⟨hnumber, hcheck, hnationality, hbirth, hsex, hexpiry⟩ := hslices
  simp only [parseTd3, fill_of_length_eq p.length_line1, fill_of_length_eq p.length_line2]
  rw [if_neg (by simp [line1])]
  simp only [hnumber, hcheck, hnationality, hbirth, hsex, hexpiry, hnames, matchesCheck_checkChar,
    Bool.true_or, if_true, Option.map_some, MrzFields.printed]
  rw [Holder.splitNames_fill p.fits, Holder.serialNumber_eq, Holder.nationality_eq,
    Holder.expiry_eq, Sex.gender_code]
  rfl

end Passport

namespace IdCard

variable (c : IdCard)

theorem length_line1 : c.line1.length = 30 := by
  simp [line1, Holder.numberField, checked]

theorem length_line2 : c.line2.length = 30 := by
  simp [line2, Holder.nationalityField, Holder.birthField, Holder.expiryField, checked,
    length_mrzDate]

theorem length_line3 : c.line3.length = 30 := length_fill

theorem length_lines : ∀ line ∈ [c.line1, c.line2, c.line3], line.length = 30 := by
  simp only [List.forall_mem_cons]
  exact ⟨c.length_line1, c.length_line2, c.length_line3, List.forall_mem_nil _⟩

theorem parseTd1_lines (today : Date) :
    (parseTd1 today c.line1 c.line2 c.line3).map MrzFields.printed =
      some (c.holder.parsed today) := by
  have hline1 : c.line1 = [c.letter] ++ (fill '<' 1 c.kind.chars ++ (fill '<' 3 c.state.chars ++
      (fill '<' 9 c.holder.number.chars ++ ([checkChar (fill '<' 9 c.holder.number.chars)] ++
        fill '<' 15 c.optional1.chars)))) := by
    simp [line1, Holder.numberField, checked]
  have hslices1 : slice 5 14 c.line1 = fill '<' 9 c.holder.number.chars ∧
      slice 14 15 c.line1 = [checkChar (fill '<' 9 c.holder.number.chars)] := by
    rw [hline1]
    simp only [slice_append_right, slice_append_left, length_fill, List.length_singleton,
      Nat.reduceLeDiff, Nat.reduceSub, le_refl, and_self]
  have hline2 : c.line2 = mrzDate c.holder.birth ++ ([checkChar (mrzDate c.holder.birth)] ++
      ([c.holder.sex.code] ++ (mrzDate c.holder.expiry ++
        ([checkChar (mrzDate c.holder.expiry)] ++ (fill '<' 3 c.holder.nationality.chars ++
          (fill '<' 11 c.optional2.chars ++ [c.composite])))))) := by
    simp [line2, Holder.nationalityField, Holder.birthField, Holder.expiryField, checked]
  have hslices2 : slice 0 6 c.line2 = mrzDate c.holder.birth ∧
      slice 7 8 c.line2 = [c.holder.sex.code] ∧
      slice 8 14 c.line2 = mrzDate c.holder.expiry ∧
      slice 15 18 c.line2 = fill '<' 3 c.holder.nationality.chars := by
    rw [hline2]
    simp only [slice_append_right, slice_append_left, length_fill, length_mrzDate,
      List.length_singleton, Nat.reduceLeDiff, Nat.reduceSub, le_refl, and_self]
  obtain ⟨hnumber, hcheck⟩ := hslices1
  obtain ⟨hbirth, hsex, hexpiry, hnationality⟩ := hslices2
  simp only [parseTd1, fill_of_length_eq c.length_line1, fill_of_length_eq c.length_line2,
    fill_of_length_eq c.length_line3]
  simp only [hnumber, hcheck, hbirth, hsex, hexpiry, hnationality, line3, matchesCheck_checkChar,
    Bool.true_or, if_true, Option.map_some, MrzFields.printed]
  rw [Holder.splitNames_fill c.fits, Holder.serialNumber_eq, Holder.nationality_eq,
    Holder.expiry_eq, Sex.gender_code]
  rfl

end IdCard

theorem Legal.checked {cs : List Char} (h : Legal cs) : Legal (checked cs) :=
  h.append (Legal.cons (digitChar_mem _ (mrzCheckDigit_lt cs)) (List.nil_subset _))

theorem legal_letters {width : ℕ} (t : MrzText mrzLetters width) (n : ℕ) :
    Legal (fill '<' n t.chars) :=
  Legal.fill (fun c hc => (mrzLetters_subset c (t.legal hc)).1)

theorem Sex.code_mem (s : Sex) : s.code ∈ mrzChars := by
  cases s <;> decide

theorem Holder.legal_fields (h : Holder) : Legal h.numberField ∧ Legal h.birthField ∧
    Legal h.expiryField ∧ Legal h.nationalityField := by
  refine ⟨Legal.checked (Legal.fill ?_), (legal_mrzDate _).checked, (legal_mrzDate _).checked,
    legal_letters h.nationality 3⟩
  exact fun c hc => (mrzAlphanumerics_subset c (h.number.legal hc)).1

theorem Holder.legal_writtenNames (h : Holder) : Legal h.writtenNames := by
  intro c hc
  obtain rfl | ⟨letters, hletters, hmem⟩ := mem_identifiers hc
  · decide
  · rw [← List.map_append] at hletters
    obtain ⟨w, -, rfl⟩ := List.mem_map.mp hletters
    exact (mrzLetters_subset c (w.legal hmem)).1

/-- Every line is of legal characters and long enough to be found. -/
theorem IdDocument.lines_legal (d : IdDocument) :
    ∀ line ∈ d.lines, Legal line ∧ 28 ≤ line.length := by
  have hcheck (data : List Char) : checkChar data ∈ mrzChars :=
    digitChar_mem _ (mrzCheckDigit_lt data)
  obtain ⟨hnumber, hbirth, hexpiry, hnationality⟩ := d.holder.legal_fields
  have hnames := d.holder.legal_writtenNames
  cases d with
  | passport p =>
    have hoptional : Legal p.optionalField := by
      refine (Legal.fill p.optional.legal).append (Legal.cons ?_ (List.nil_subset _))
      split_ifs
      · decide
      · exact hcheck _
    have hline1 : Legal p.line1 := Legal.cons (by decide) ((legal_letters p.kind 1).append
      ((legal_letters p.state 3).append hnames.fill))
    have hline2 : Legal p.line2 := hnumber.append (hnationality.append (hbirth.append
      (Legal.cons p.holder.sex.code_mem (hexpiry.append (hoptional.append
        (Legal.cons (hcheck _) (List.nil_subset _)))))))
    simp only [lines, List.forall_mem_cons]
    exact ⟨⟨hline1, by rw [p.length_line1]; decide⟩, ⟨hline2, by rw [p.length_line2]; decide⟩,
      List.forall_mem_nil _⟩
  | idCard c =>
    have hline1 : Legal c.line1 := Legal.cons (mrzLetters_subset _ c.letter_legal).1
      ((legal_letters c.kind 1).append ((legal_letters c.state 3).append
        (hnumber.append (Legal.fill c.optional1.legal))))
    have hline2 : Legal c.line2 := hbirth.append (Legal.cons c.holder.sex.code_mem
      (hexpiry.append (hnationality.append ((Legal.fill c.optional2.legal).append
        (Legal.cons (hcheck _) (List.nil_subset _))))))
    have hline3 : Legal c.line3 := Legal.fill hnames
    simp only [lines, List.forall_mem_cons]
    exact ⟨⟨hline1, by rw [c.length_line1]; decide⟩, ⟨hline2, by rw [c.length_line2]; decide⟩,
      ⟨hline3, by rw [c.length_line3]; decide⟩, List.forall_mem_nil _⟩

theorem firstTd3_eq_none {today : Date} {lines : List (List Char)}
    (h : ∀ line ∈ lines, line.length < 40) : firstTd3 today lines = none := by
  induction lines with
  | nil => rfl
  | cons a lines ih =>
    have hrest := ih (fun line hline => h line (List.mem_cons_of_mem _ hline))
    cases lines with
    | nil => rfl
    | cons b rest =>
      have ha := h a List.mem_cons_self
      rw [firstTd3, if_neg (by omega), hrest]
      rfl

theorem firstTd1_eq_none {today : Date} {lines : List (List Char)} (h : lines.length < 3) :
    firstTd1 today lines = none := by
  match lines with
  | [] | [_] | [_, _] => rfl
  | _ :: _ :: _ :: _ => exact absurd h (by simp)

/-- The lines of a document without a filler in each are too few to be read. -/
theorem IdDocument.parseMrz_eq_none {d : IdDocument} (today : Date)
    (h : ¬∀ line ∈ d.lines, '<' ∈ line) : parseMrz today d.text = none := by
  have hfewer : (d.lines.filter (fun line => '<' ∈ line)).length < d.lines.length := by
    rw [List.length_filter_lt_length_iff_exists]
    push Not at h
    obtain ⟨line, hline, hnone⟩ := h
    exact ⟨line, hline, by simpa using hnone⟩
  rw [parseMrz, text, findMrzLines_intercalate d.lines_legal]
  cases d with
  | passport p => exact if_pos hfewer
  | idCard c =>
    have hshort : ∀ line ∈ (idCard c).lines.filter (fun line => '<' ∈ line), line.length < 40 := by
      intro line hline
      rw [c.length_lines line (List.mem_of_mem_filter hline)]
      decide
    rw [firstTd3_eq_none hshort, firstTd1_eq_none hfewer]
    exact ite_self none

/-- With a filler in each the lines of a document are read. -/
theorem IdDocument.parseMrz_printed {d : IdDocument} (today : Date)
    (h : ∀ line ∈ d.lines, '<' ∈ line) :
    (parseMrz today d.text).map MrzFields.printed = some (d.holder.parsed today) := by
  have hall : d.lines.filter (fun line => '<' ∈ line) = d.lines :=
    List.filter_eq_self.mpr (fun line hline => decide_eq_true (h line hline))
  rw [parseMrz, text, findMrzLines_intercalate d.lines_legal, hall]
  cases d with
  | passport p =>
    have hread := p.parseTd3_lines today
    obtain ⟨f, hf, hprinted⟩ := Option.map_eq_some_iff.mp hread
    rw [lines, if_neg (by simp), firstTd3, if_pos, hf]
    · exact congrArg some hprinted
    · rw [p.length_line1, p.length_line2]
      exact ⟨rfl, by decide⟩
  | idCard c =>
    have hread := c.parseTd1_lines today
    obtain ⟨f, hf, hprinted⟩ := Option.map_eq_some_iff.mp hread
    have hshort : ∀ line ∈ (idCard c).lines, line.length < 40 := by
      intro line hline
      rw [c.length_lines line hline]
      decide
    rw [firstTd3_eq_none hshort, lines, if_neg (by simp), Option.orElse_none, firstTd1, if_pos, hf]
    · exact congrArg some hprinted
    · intro line hline
      rw [c.length_lines line hline]
      decide

/-- Parsing gives back what a document says of its holder exactly when every line has a filler in
it and the century of the birth is known. -/
theorem mrz_round_trips_iff (today : Date) (d : IdDocument) :
    (parseMrz today d.text).map MrzFields.printed = some d.holder.printed ↔
      (∀ line ∈ d.lines, '<' ∈ line) ∧ CenturyKnown today d.holder.birth := by
  by_cases h : ∀ line ∈ d.lines, '<' ∈ line
  · rw [d.parseMrz_printed today h, Option.some_inj, Holder.parsed_eq_printed_iff]
    exact ⟨fun hcentury => ⟨h, hcentury⟩, fun hboth => hboth.2⟩
  · rw [d.parseMrz_eq_none today h]
    exact ⟨fun hnone => absurd hnone (by simp), fun hboth => absurd hboth.1 h⟩

def specimenHolder (birth : Date) : Holder where
  number := ⟨"L898902C3".toList, by decide, by decide⟩
  nationality := ⟨"UTO".toList, by decide, by decide⟩
  nationality_nonempty := by decide
  birth := birth
  sex := .female
  expiry := date 2012 4 15
  expiry_century := by decide
  surname := [⟨"ERIKSSON".toList, by decide, by decide⟩]
  surname_nonempty := by decide
  given := [⟨"ANNA".toList, by decide, by decide⟩, ⟨"MARIA".toList, by decide, by decide⟩]

def specimenPassport (birth : Date) (optional : MrzText mrzChars 14) : Passport where
  holder := specimenHolder birth
  kind := ⟨[], by decide, by decide⟩
  state := ⟨"UTO".toList, by decide, by decide⟩
  optional := optional
  blankCheck := false
  fits := Nat.le_of_ble_eq_true rfl

example : (specimenPassport (date 1974 8 12) ⟨"ZE184226B".toList, by decide, by decide⟩).line2 =
    "L898902C36UTO7408122F1204159ZE184226B<<<<<10".toList := by decide

/-- A holder two months from her hundredth birthday is read as born two months ahead, and a
passport with a number and optional data that fill line 2 is not read at all. -/
theorem old_or_full_zone_misread :
    let old := specimenPassport (date 1926 5 1) ⟨"ZE184226B".toList, by decide, by decide⟩
    let full := specimenPassport (date 1974 8 12) ⟨"ZE184226B12345".toList, by decide, by decide⟩
    let today := date 2026 3 2
    ((parseMrz today (IdDocument.passport old).text).map MrzFields.printed =
        some { old.holder.printed with dateOfBirth := some (date 2026 5 1) } ∧
      (parseMrz today (IdDocument.passport old).text).map MrzFields.printed ≠
        some old.holder.printed) ∧
    parseMrz today (IdDocument.passport full).text = none ∧
      (parseMrz today (IdDocument.passport full).text).map MrzFields.printed ≠
        some full.holder.printed := by
  intro old full today
  have hold : (parseMrz today (IdDocument.passport old).text).map MrzFields.printed =
      some { old.holder.printed with dateOfBirth := some (date 2026 5 1) } := by
    rw [IdDocument.parseMrz_printed today (by decide)]
    have hbirth : parseMrzDate today true (mrzDate old.holder.birth) = some (date 2026 5 1) := by
      decide
    exact congrArg some (congrArg (fun b => { old.holder.printed with dateOfBirth := b }) hbirth)
  have hfull : parseMrz today (IdDocument.passport full).text = none :=
    IdDocument.parseMrz_eq_none today (by decide)
  refine ⟨⟨hold, ?_⟩, hfull, ?_⟩
  · rw [hold]
    intro heq
    have hbirths := congrArg PrintedFields.dateOfBirth (Option.some.inj heq)
    exact absurd hbirths (by decide)
  · rw [hfull]
    exact Option.some_ne_none _ ∘ Eq.symm

end FinylDcp
