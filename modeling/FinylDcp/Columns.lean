import FinylDcp.Schema

/-!
# Column widths

The references and amounts of the rows a payment writes, against the columns they are
written to. The database refuses a row that does not fit when it is flushed.
-/
namespace FinylDcp

/-- A text in a column of so many characters. -/
def fitsText (width : ℕ) (text : Option String) : Bool := text.all (fun t => t.length ≤ width)

/-- An amount in a column of so many digits, two of them decimals. -/
def fitsNumeric (digits : ℕ) (amount : ℤ) : Bool := amount.natAbs < 10 ^ digits

def Repayment.referenceFits (r : Repayment) : Bool := fitsText 30 r.mpesaRef

def SuspenseEntry.referenceFits (e : SuspenseEntry) : Bool := fitsText 40 e.mpesaRef

def PaymentTransaction.referenceFits (t : PaymentTransaction) : Bool := fitsText 40 t.mpesaRef

/-- Every reference fits the column it is stored in. -/
def Db.referencesFit (db : Db) : Bool :=
  db.repayments.all (·.referenceFits) && db.suspense.all (·.referenceFits) &&
    db.transactions.all (·.referenceFits)

/-- Every amount of a payment or request fits its column. -/
def Db.amountsFit (db : Db) : Bool :=
  db.repayments.all (fun r => fitsNumeric 12 r.amount) &&
    db.suspense.all (fun e => fitsNumeric 12 e.amount) &&
    db.transactions.all (fun t => fitsNumeric 12 t.amount) &&
    db.pending.all (fun p => fitsNumeric 14 p.amount)

/-- The rows a database flushes. -/
def Db.storable (db : Db) : Bool := db.referencesFit && db.amountsFit

end FinylDcp
