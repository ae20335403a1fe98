import FinylDcp.Calendar
import FinylDcp.FilledFields
import FinylDcp.Literals
import FinylDcp.Matching

/-!
# Machine-readable zones

What the parser of identity documents reads in the lines of an OCR text: two lines of 44
characters on a passport, three of 30 on an identity card. The lines are found by what they look
like, and a zone counts when the check digit of the number or of the date of birth holds.
-/
namespace FinylDcp
open Calendar FilledFields Text

/-- `_MRZ_CHARS`. -/
def mrzChars : List Char := "ABCDEFGHIJKLMNOPQRSTUVWXYZ0123456789<".toList

/-- The glyphs that are taken for a filler. -/
def fillerGlyphs : List Char := ['«', '|', '^', '\x7b', '\x7d']

/-- `_clean_line`, but for the replacement of `K<` by itself. -/
def cleanLine (line : List Char) : List Char :=
  let s := (strip (upper (String.ofList line))).toList
  let s := (s.filter (· ≠ ' ')).map (fun c => if c ∈ fillerGlyphs then '<' else c)
  s.filter (· ∈ mrzChars)

/-- The characters that end a line, the pair of carriage return and line feed apart. -/
def isLineBreak (c : Char) : Bool :=
  let n := c.toNat
  (10 ≤ n && n ≤ 13) || (28 ≤ n && n ≤ 30) || n = 0x85 || n = 0x2028 || n = 0x2029

/-- `str.splitlines`. -/
def splitLines : List Char → List (List Char)
  | [] => []
  | '\r' :: '\n' :: rest => [] :: splitLines rest
  | c :: rest =>
    if isLineBreak c then [] :: splitLines rest
    else
      match splitLines rest with
      | [] => [[c]]
      | line :: lines => (c :: line) :: lines

/-- `_find_mrz_lines`. The ratio of the lengths is compared in whole numbers. -/
def findMrzLines (text : String) : List (List Char) :=
  (splitLines text.toList).filterMap fun raw =>
    let cleaned := cleanLine raw
    if 28 ≤ cleaned.length ∧ 1 ≤ cleaned.count '<' ∧
        3 * max (strip (String.ofList raw)).toList.length 1 ≤ 5 * cleaned.length then some cleaned
    else none

/-- What a character of the zone counts in a check digit. -/
def mrzValue (c : Char) : ℕ :=
  if c = '<' then 0 else if c.isDigit then decimalValue c else c.toNat - 55

/-- The weight at a place: 7, 3 and 1 in turn. -/
def mrzWeight (i : ℕ) : ℕ := if i % 3 = 0 then 7 else if i % 3 = 1 then 3 else 1

/-- `_check_digit`. -/
def mrzCheckDigit (data : List Char) : ℕ :=
  (data.zipIdx.map (fun p => mrzValue p.1 * mrzWeight p.2)).sum % 10

/-- `_matches_check`. -/
def matchesCheck (data check : List Char) : Bool :=
  check ≠ [] && check.all Char.isDigit && mrzCheckDigit data = digitsValue check

/-- `_parse_date`, with the date for its ISO text. -/
def parseMrzDate (today : Date) (isDob : Bool) (text : List Char) : Option Date :=
  if text.length = 6 ∧ text.all Char.isDigit then
    let yy := digitsValue (slice 0 2 text)
    let mm := digitsValue (slice 2 4 text)
    let dd := digitsValue (slice 4 6 text)
    let year := if isDob ∧ today.year < 2000 + yy then 1900 + yy else 2000 + yy
    if h : (1 ≤ mm ∧ mm ≤ 12) ∧ 1 ≤ dd ∧ dd ≤ monthDays year mm then some ⟨year, mm, dd, h.1, h.2⟩
    else none
  else none

/-- `str.title`, after a letter or not. -/
def titleFrom : Bool → List Char → List Char
  | _, [] => []
  | inWord, c :: cs => (if inWord then c.toLower else c.toUpper) :: titleFrom c.isAlpha cs

def title (w : List Char) : String := String.ofList (titleFrom false w)

/-- A text, or none when it is empty. -/
def orNone (cs : List Char) : Option String := nonEmpty (some (String.ofList cs))

structure MrzNames where
  first : Option String
  middle : Option String
  last : Option String
  deriving DecidableEq

/-- `_split_names`. -/
def splitNames (surname given : List Char) : MrzNames where
  first := (words '<' given).head?.map title
  middle := nonEmpty (some (" ".intercalate ((words '<' given).tail.map title)))
  last := nonEmpty (some (" ".intercalate ((words '<' surname).map title)))

inductive Gender
  | male
  | female
  deriving DecidableEq

/-- `_gender`. -/
def mrzGender (code : List Char) : Option Gender :=
  if code = ['M'] then some .male else if code = ['F'] then some .female else none

inductive DocumentType
  | passport
  | alienId
  | maishaCard
  deriving DecidableEq

/-- How sure the parser is of a field, in hundredths. -/
structure MrzConfidence where
  nationalId : ℕ
  dateOfBirth : ℕ
  firstName : Option ℕ
  lastName : Option ℕ
  middleName : Option ℕ
  deriving DecidableEq

/-- The dictionary of a parsed zone; its empty fields are left out there. -/
structure MrzFields where
  documentType : DocumentType
  serialNumber : Option String
  nationalId : Option String
  names : MrzNames
  dateOfBirth : Option Date
  gender : Option Gender
  nationality : Option String
  dateOfExpiry : Option Date
  confidence : MrzConfidence
  deriving DecidableEq

/-- The confidence of the parsed names beside that of the checked fields. -/
def mrzConfidence (valid : ℕ) (numberHolds birthHolds : Bool) (names : MrzNames) :
    MrzConfidence where
  nationalId := if numberHolds then valid else 60
  dateOfBirth := if birthHolds then valid else 60
  firstName := names.first.map (fun _ => 90)
  lastName := names.last.map (fun _ => 90)
  middleName := names.middle.map (fun _ => 85)

/-- `_parse_td3`. -/
def parseTd3 (today : Date) (l1 l2 : List Char) : Option MrzFields :=
  let l1 := fill '<' 44 l1
  let l2 := fill '<' 44 l2
  if l1.head? ≠ some 'P' then none
  else
    let docNo := slice 0 9 l2
    let docChk := slice 9 10 l2
    let nationality := (slice 10 13 l2).filter (· ≠ '<')
    let dob := slice 13 19 l2
    let dobChk := slice 19 20 l2
    let sex := slice 20 21 l2
    let expiry := slice 21 27 l2
    let parts := partitionPair '<' (l1.drop 5)
    let names := splitNames parts.1 parts.2
    let docClean := docNo.filter (· ≠ '<')
    if matchesCheck docNo docChk || matchesCheck dob dobChk then
      some {
        documentType := .passport
        serialNumber := orNone docClean
        nationalId := orNone docClean
        names := names
        dateOfBirth := parseMrzDate today true dob
        gender := mrzGender sex
        nationality := orNone nationality
        dateOfExpiry := parseMrzDate today false expiry
        confidence :=
          mrzConfidence 97 (matchesCheck docNo docChk) (matchesCheck dob dobChk) names }
    else none

/-- Seven to nine digits. A cleaned field has no word boundary inside, so the search for a run
of digits between two boundaries finds the whole field or nothing. -/
def isIdRun (cand : List Char) : Bool :=
  cand.all Char.isDigit && 7 ≤ cand.length && cand.length ≤ 9

/-- `_parse_td1`. -/
def parseTd1 (today : Date) (l1 l2 l3 : List Char) : Option MrzFields :=
  let l1 := fill '<' 30 l1
  let l2 := fill '<' 30 l2
  let l3 := fill '<' 30 l3
  let docTypeCode := slice 0 2 l1
  let country := (slice 2 5 l1).filter (· ≠ '<')
  let docNo := slice 5 14 l1
  let docChk := slice 14 15 l1
  let optional1 := (slice 15 30 l1).filter (· ≠ '<')
  let dob := slice 0 6 l2
  let dobChk := slice 6 7 l2
  let sex := slice 7 8 l2
  let expiry := slice 8 14 l2
  let nationality := (slice 15 18 l2).filter (· ≠ '<')
  let parts := partitionPair '<' l3
  let names := splitNames parts.1 parts.2
  if matchesCheck docNo docChk || matchesCheck dob dobChk then
    let docClean := docNo.filter (· ≠ '<')
    let nid := [docClean, optional1].find? isIdRun
    let isAlien := docTypeCode.head? = some 'A' ∨ country ≠ [] ∧ country ≠ "KEN".toList
    some {
      documentType := if isAlien then .alienId else .maishaCard
      serialNumber := orNone docClean
      nationalId := (nid.bind orNone).orElse (fun _ => orNone docClean)
      names := names
      dateOfBirth := parseMrzDate today true dob
      gender := mrzGender sex
      nationality := (orNone nationality).orElse (fun _ => orNone country)
      dateOfExpiry := parseMrzDate today false expiry
      confidence :=
        mrzConfidence 95 (matchesCheck docNo docChk) (matchesCheck dob dobChk) names }
  else none

/-- The loop over every adjacent pair. -/
def firstTd3 (today : Date) : List (List Char) → Option MrzFields
  | a :: b :: rest =>
    (if a.head? = some 'P' ∧ (40 ≤ a.length ∧ a.length ≤ 46) ∧ 40 ≤ b.length ∧ b.length ≤ 46 then
      parseTd3 today a b
    else none).orElse fun _ => firstTd3 today (b :: rest)
  | _ => none

/-- The loop over every adjacent triple. -/
def firstTd1 (today : Date) : List (List Char) → Option MrzFields
  | a :: b :: c :: rest =>
    (if ∀ x ∈ [a, b, c], 26 ≤ x.length ∧ x.length ≤ 32 then parseTd1 today a b c
    else none).orElse fun _ => firstTd1 today (b :: c :: rest)
  | _ => none

/-- `parse_mrz`. -/
def parseMrz (today : Date) (text : String) : Option MrzFields :=
  let lines := findMrzLines text
  if lines.length < 2 then none
  else (firstTd3 today lines).orElse fun _ => firstTd1 today lines

end FinylDcp
