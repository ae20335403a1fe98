import FinylDcp.Decimal
import FinylDcp.Text

/-!
# Numbers and dates in text

What the decimal constructor and `strptime` of the source language read in a text. Both
are executable, and read every text.
-/
namespace FinylDcp.Text

/-- The number some decimal digits write. -/
def digitsValue (cs : List Char) : ℕ := cs.foldl (fun n c => 10 * n + decimalValue c) 0

/-- A decimal number as the constructor makes it; `malformed` raises. -/
inductive DecimalLiteral
  | malformed
  | infinite
  | nan
  | signallingNan
  | finite (negative : Bool) (coefficient : ℕ) (exponent : ℤ)
  deriving DecidableEq, Repr

/-- The exponent part, from its indicator on. -/
def readExponent : List Char → Option ℤ
  | [] => some 0
  | 'e' :: '-' :: cs => if cs ≠ [] ∧ cs.all Char.isDigit then some (-digitsValue cs) else none
  | 'e' :: '+' :: cs => if cs ≠ [] ∧ cs.all Char.isDigit then some (digitsValue cs) else none
  | 'e' :: cs => if cs ≠ [] ∧ cs.all Char.isDigit then some (digitsValue cs) else none
  | _ => none

/-- The exponents a number may have without a context: beyond them the constructor raises. -/
def exponentFits (digits : ℕ) (exponent : ℤ) : Bool :=
  -1999999999999999997 ≤ exponent && exponent + digits - 1 ≤ 999999999999999999

/-- An unsigned number, in lower case. -/
def readUnsigned (negative : Bool) (cs : List Char) : DecimalLiteral :=
  if cs = "inf".toList ∨ cs = "infinity".toList then .infinite
  else if "nan".toList.isPrefixOf cs && (cs.drop 3).all Char.isDigit then .nan
  else if "snan".toList.isPrefixOf cs && (cs.drop 4).all Char.isDigit then .signallingNan
  else
    let mantissa := cs.takeWhile (· ≠ 'e')
    let whole := mantissa.takeWhile (· ≠ '.')
    let fraction := (mantissa.dropWhile (· ≠ '.')).drop 1
    if whole ++ fraction = [] ∨ !(whole ++ fraction).all Char.isDigit then .malformed
    else
      match readExponent (cs.dropWhile (· ≠ 'e')) with
      | none => .malformed
      | some shift =>
        let coefficient := digitsValue (whole ++ fraction)
        let exponent := shift - fraction.length
        if exponentFits (Nat.log 10 coefficient + 1) exponent then
          .finite negative coefficient exponent
        else .malformed

/-- A decimal digit of any script, as the ASCII digit of its value. -/
def asciiDigit (c : Char) : Char := if isDecimal c then Char.ofNat (48 + decimalValue c) else c

/-- `Decimal(value)`: blanks around it and underscores anywhere do not count. -/
def readDecimal (value : String) : DecimalLiteral :=
  match ((strip value).toList.filter (· ≠ '_')).map (fun c => (asciiDigit c).toLower) with
  | '-' :: cs => readUnsigned true cs
  | '+' :: cs => readUnsigned false cs
  | cs => readUnsigned false cs

example : readDecimal "NaN\u0661" = .nan ∧
    readDecimal " \u0661_5.\u06f2e-1 " = .finite false 152 (-2) ∧
    readDecimal "\u0130nf" = .malformed := by
  decide

/-- The directives of a format. -/
inductive Directive
  | year | month | day | hour | minute | second
  | blanks
  | mark (c : Char)
  deriving DecidableEq, Repr

/-- A digit of ASCII within bounds. -/
def between (least most : Char) (c : Char) : Bool := least ≤ c && c ≤ most

/-- The number at the front of a text whose digits are of these classes, one after the other. -/
def readClasses : List (Char → Bool) → ℕ → List Char → Option (ℕ × List Char)
  | [], n, cs => some (n, cs)
  | _ :: _, _, [] => none
  | p :: ps, n, c :: cs => if p c then readClasses ps (10 * n + decimalValue c) cs else none

/-- The ways to write the number of a directive, in the order they are tried. Only the digits
that may be any are of every script. -/
def Directive.classes : Directive → List (List (Char → Bool))
  | year => [[isDecimal, isDecimal, isDecimal, isDecimal]]
  | month => [[between '1' '1', between '0' '2'], [between '0' '0', between '1' '9'],
      [between '1' '9']]
  | day => [[between '3' '3', between '0' '1'], [between '1' '2', isDecimal],
      [between '0' '0', between '1' '9'], [between '1' '9'], [between ' ' ' ', between '1' '9']]
  | hour => [[between '2' '2', between '0' '3'], [between '0' '1', isDecimal], [isDecimal]]
  | minute => [[between '0' '5', isDecimal], [isDecimal]]
  | second => [[between '6' '6', between '0' '1'], [between '0' '5', isDecimal], [isDecimal]]
  | blanks => []
  | mark _ => []

/-- What a directive can read at the front of a text, in the order it is tried. Blanks read
as many as there are: what follows them never starts with one. -/
def Directive.read : Directive → List Char → List (ℕ × List Char)
  | blanks, cs => if (cs.takeWhile isSpace).isEmpty then [] else [(0, cs.dropWhile isSpace)]
  | mark c, cs => match cs with
    | a :: rest => if a = c then [(0, rest)] else []
    | [] => []
  | d, cs => d.classes.filterMap (fun ps => readClasses ps 0 cs)

/-- The first way to read a format, with what is left of the text. -/
def readFormat : List Directive → List Char → Option (List (Directive × ℕ) × List Char)
  | [], cs => some ([], cs)
  | d :: ds, cs => (d.read cs).findSome? (fun x =>
      (readFormat ds x.2).map (fun y => ((d, x.1) :: y.1, y.2)))

def leapYear (y : ℕ) : Bool := y % 4 = 0 && (y % 100 ≠ 0 || y % 400 = 0)

/-- The days of the months of a year. -/
def monthLengths (y : ℕ) : List ℕ :=
  [31, if leapYear y then 29 else 28, 31, 30, 31, 30, 31, 31, 30, 31, 30, 31]

/-- The number of a day counted from the first of January of the year one, which is day one. -/
def dayOrdinal (y m d : ℕ) : ℕ :=
  365 * (y - 1) + (y - 1) / 4 - (y - 1) / 100 + (y - 1) / 400 +
    ((monthLengths y).take (m - 1)).sum + d

/-- The day number of the epoch. -/
def epochDay : ℕ := dayOrdinal 1970 1 1

/-- A calendar time in seconds from the epoch, where there is one. -/
def calendarTime (fields : List (Directive × ℕ)) : Option ℤ :=
  let field := fun d => (fields.lookup d).getD 0
  let y := field .year
  let m := field .month
  let d := field .day
  if 1 ≤ y && 1 ≤ m && 1 ≤ d && d ≤ (monthLengths y).getD (m - 1) 0 && field .hour ≤ 23 &&
      field .minute ≤ 59 && field .second ≤ 59 then
    some (((dayOrdinal y m d : ℤ) - epochDay) * 86400 + field .hour * 3600 + field .minute * 60 +
      field .second)
  else none

/-- `datetime.strptime`; none where it raises. -/
def strptime (value : String) (format : List Directive) : Option ℤ :=
  match readFormat format value.toList with
  | some (fields, []) => calendarTime fields
  | _ => none

/-- The first moment there is. -/
def firstMoment : ℤ := (1 - (epochDay : ℤ)) * 86400

example : (epochDay : ℤ) = 719163 ∧
    strptime "29/02/2024 7:05" [.day, .mark '/', .month, .mark '/', .year, .blanks, .hour,
      .mark ':', .minute] = some (19782 * 86400 + 7 * 3600 + 300) ∧
    strptime "2023-02-29" [.year, .mark '-', .month, .mark '-', .day] = none := by
  decide

end FinylDcp.Text
