import FinylDcp.Columns
import FinylDcp.IdentityLock
import FinylDcp.KeyedTables
import FinylDcp.Matching

/-!
# Wallets and the validation of a number

A form carries all wallets of its client: a row with a known id is rewritten, a row without one
is new, and a wallet whose id is missing is deleted. The validation of a number against a
national ID sets the flag of the client and locks the wallets with that number.
-/
namespace FinylDcp
open Text Tables

/-- The values of a wallet that say where money goes. -/
structure WalletNumbers where
  mobileNumber : Option String
  walletNumber : Option String
  operator : Option String
  deriving DecidableEq, Repr

/-- The number of a wallet as it is matched: `mobile_number or wallet_number or ""`. -/
def WalletNumbers.num (n : WalletNumbers) : String :=
  ((nonEmpty n.mobileNumber) <|> n.walletNumber).getD ""

def WalletNumbers.fit (n : WalletNumbers) : Bool :=
  fitsText 20 n.mobileNumber && fitsText 30 n.walletNumber && fitsText 30 n.operator

structure ClientMobileWallet where
  tenantId : ℕ
  clientId : ℕ
  numbers : WalletNumbers
  active : Bool
  walletLocked : Bool
  lockedAt : Option ℤ
  lockedBy : Option String
  deriving DecidableEq, Repr

/-- What a form sends of a wallet. -/
structure MobileWalletIn where
  id : Option ℕ
  numbers : WalletNumbers
  active : Bool
  deriving DecidableEq, Repr

namespace MobileWalletIn

/-- The id of a row; zero is none. -/
def key (row : MobileWalletIn) : Option ℕ := row.id.filter (· ≠ 0)

/-- A row that was added and not filled in. -/
def blank (row : MobileWalletIn) : Bool :=
  (nonEmpty row.numbers.mobileNumber).isNone && (nonEmpty row.numbers.walletNumber).isNone &&
    (nonEmpty row.numbers.operator).isNone

end MobileWalletIn

/-- The values of a row of the form, in a wallet. -/
def ClientMobileWallet.write (row : MobileWalletIn) (w : ClientMobileWallet) : ClientMobileWallet :=
  { w with numbers := row.numbers, active := row.active }

/-- A new wallet of a client. -/
def MobileWalletIn.wallet (row : MobileWalletIn) (tenantId clientId : ℕ) : ClientMobileWallet where
  tenantId := tenantId
  clientId := clientId
  numbers := row.numbers
  active := row.active
  walletLocked := false
  lockedAt := none
  lockedBy := none

/-- One row of the form: `byId` are the ids of the client's wallets. -/
def syncRow (tenantId clientId : ℕ) (byId : List ℕ) (t : Keyed ClientMobileWallet)
    (row : MobileWalletIn) : Keyed ClientMobileWallet :=
  if row.blank then t
  else
    match row.key.filter (fun id => byId.contains id) with
    | some id => t.update id (·.write row)
    | none => t.insert (row.wallet tenantId clientId)

/-- The ids of a client's wallets. -/
def walletIds (t : Keyed ClientMobileWallet) (clientId : ℕ) : List ℕ :=
  (t.rows.filter (fun x => x.2.clientId = clientId)).map (·.1)

/-- The wallets without those of the client that the form does not name. -/
def keepNamed (clientId : ℕ) (t : Keyed ClientMobileWallet) (rows : List MobileWalletIn) :
    Keyed ClientMobileWallet :=
  t.keep (fun id w => w.clientId ≠ clientId || (rows.filterMap (·.key)).contains id)

/-- `_sync_nested`, for the wallets. -/
def syncNested (tenantId clientId : ℕ) (t : Keyed ClientMobileWallet) (rows : List MobileWalletIn) :
    Keyed ClientMobileWallet :=
  let kept := keepNamed clientId t rows
  rows.foldl (syncRow tenantId clientId (walletIds kept clientId)) kept

/-- The answer to a name lookup. -/
structure NameLookup where
  msisdn : String
  registeredName : Option String
  matched : Bool
  deriving DecidableEq, Repr

/-- A number in the one format that is known. -/
def wellFormedMsisdn (msisdn : String) : Bool :=
  msisdn.length = 12 &&
    ("2547".toList.isPrefixOf msisdn.toList || "2541".toList.isPrefixOf msisdn.toList)

/-- `validate_mobile_number`: the number is well formed, and an ID is given. -/
def validateMobileNumber (phone nationalId expectedName : String) : NameLookup :=
  let msisdn := normaliseMsisdn phone
  let ok := wellFormedMsisdn msisdn && nationalId ≠ ""
  { msisdn := msisdn, registeredName := if ok then some (upper expectedName) else none,
    matched := ok }

/-- The last characters of a number. -/
def lastNine (num : String) : String := String.ofList (num.toList.drop (num.length - 9))

/-- A wallet has the validated number, as far as its last digits go. -/
def tailMatches (tail num : String) : Bool :=
  tail = "" || decide (tail.toList <:+: num.toList) || lastNine num = tail

/-- Lock a wallet with the validated number. -/
def ClientMobileWallet.lock (msisdn : String) (now : ℤ) (w : ClientMobileWallet) :
    ClientMobileWallet :=
  if !w.walletLocked && tailMatches (lastNine msisdn) w.numbers.num then
    { w with walletLocked := true, lockedAt := some now, lockedBy := some "system" }
  else w

/-- The columns of a client that a validation reads and writes, beside those of its record. -/
structure MpesaProfile where
  middleName : Option String
  mpesaValidated : Bool
  mpesaValidationName : Option String
  mpesaValidatedAt : Option ℤ
  deriving DecidableEq, Repr

/-- The transaction that a validation logs. Which client it was for is history: the row does not
say. -/
structure ValidationLog where
  tenantId : ℕ
  clientId : Option ℕ
  msisdn : String
  nationalId : String
  matched : Bool
  deriving DecidableEq, Repr

/-- The body of a validation. No id of a client, or zero, is none. -/
structure ValidateMpesaRequest where
  clientId : Option ℕ
  phone : Option String
  nationalId : Option String
  expectedName : Option String
  deriving DecidableEq, Repr

/-- What a form sends of a client, with all its wallets. -/
structure ClientForm where
  record : ClientCreate
  middleName : Option String
  wallets : List MobileWalletIn
  deriving DecidableEq, Repr

/-- A record fits its columns, and has those that must not be null. -/
def ClientRecord.storable (c : ClientRecord) : Bool :=
  c.firstName.isSome && c.lastName.isSome && c.phone.isSome && c.nationalId.isSome &&
    fitsText 60 c.firstName && fitsText 60 c.lastName && fitsText 20 c.phone &&
    fitsText 20 c.altPhone && fitsText 10 c.gender

def ClientRecord.fullName (c : ClientRecord) (middleName : Option String) : String :=
  " ".intercalate ([c.firstName, middleName, c.lastName].filterMap nonEmpty)

/-- The registry, with the wallets and the validations of its clients. -/
structure KycOffice where
  registry : Registry
  profiles : List MpesaProfile
  wallets : Keyed ClientMobileWallet
  validations : List ValidationLog

namespace KycOffice

/-- The client a validation is for. -/
def validated (s : KycOffice) (tenantId : ℕ) (body : ValidateMpesaRequest) :
    Except Failure (Option (ℕ × ClientRecord)) :=
  match body.clientId with
  | none => .ok none
  | some id =>
    match s.registry.client tenantId id with
    | none => .error (.http 404 "Client not found")
    | some client => .ok (some (id, client))

/-- The name that a validation expects. -/
def expectedName (s : KycOffice) (held : Option (ℕ × ClientRecord)) (body : ValidateMpesaRequest) :
    String :=
  (nonEmpty body.expectedName <|> held.map (fun x =>
    x.2.fullName ((s.profiles[x.1]?).bind (·.middleName)))).getD ""

/-- `POST /clients/validate-mpesa`. What the body gives comes before what is stored. -/
def validateMpesa (s : KycOffice) (editor : ClientEditor) (body : ValidateMpesaRequest) (now : ℤ) :
    Except Failure KycOffice := do
  let tenantId ← editor.requireLending
  let held ← s.validated tenantId body
  let phone := nonEmpty (nonEmpty body.phone <|> held.bind (·.2.phone))
  let nationalId := nonEmpty (nonEmpty body.nationalId <|> held.bind (·.2.nationalId))
  match phone, nationalId with
  | some phone, some nationalId =>
    let resp := validateMobileNumber phone nationalId (s.expectedName held body)
    let log : ValidationLog := ⟨tenantId, held.map (·.1), resp.msisdn, nationalId, resp.matched⟩
    refuseIf (!fitsText 20 (some resp.msisdn)) (.crash "DataError")
    match held with
    | none => return { s with validations := s.validations ++ [log] }
    | some (id, _) =>
      refuseIf (!fitsText 120 resp.registeredName) (.crash "DataError")
      return { s with
        profiles := s.profiles.modify id (fun p => { p with
          mpesaValidated := resp.matched, mpesaValidationName := resp.registeredName
          mpesaValidatedAt := some now })
        wallets := if resp.matched then
            s.wallets.change (fun _ w => if w.clientId = id then w.lock resp.msisdn now else w)
          else s.wallets
        validations := s.validations ++ [log] }
  | _, _ => .error (.http 400 "Both a mobile number and a National ID are required")

/-- `PUT /clients/{id}`, with the wallets of the form. What does not fit its columns is not
stored. -/
def updateClient (s : KycOffice) (editor : ClientEditor) (clientId : ℕ) (form : ClientForm) :
    Except Failure KycOffice := do
  let tenantId ← editor.requireLending
  let registry ← s.registry.updateClient editor clientId form.record
  let wallets := syncNested tenantId clientId s.wallets form.wallets
  refuseIf (!(registry.desk.clients.all (·.storable) && fitsText 60 form.middleName &&
    wallets.rows.all (·.2.numbers.fit))) (.crash "DataError")
  return { s with
    registry := registry, wallets := wallets
    profiles := s.profiles.modify clientId (fun p => { p with middleName := form.middleName }) }

/-- `DELETE /clients/{id}/wallets/{id}`. -/
def deleteWallet (s : KycOffice) (editor : ClientEditor) (clientId walletId : ℕ) :
    Except Failure KycOffice := do
  let tenantId ← editor.requireLending
  match (s.wallets.get? walletId).filter
    (fun w => w.clientId = clientId && w.tenantId = tenantId) with
  | none => .error (.http 404 "Wallet not found")
  | some _ => return { s with wallets := s.wallets.keep (fun id _ => id ≠ walletId) }

/-- A request to edit a client, or a decision on one. -/
def editClient (s : KycOffice) (e : ClientEditEvent) : Except Failure KycOffice := do
  let registry := s.registry.step (.edit e)
  refuseIf (!registry.desk.clients.all (·.storable)) (.crash "DataError")
  return { s with registry := registry }

end KycOffice

/-- What happens to the clients of the office. -/
inductive KycEvent
  | validate (editor : ClientEditor) (body : ValidateMpesaRequest) (now : ℤ)
  | update (editor : ClientEditor) (clientId : ℕ) (form : ClientForm)
  | deleteWallet (editor : ClientEditor) (clientId walletId : ℕ)
  | edit (e : ClientEditEvent)
  deriving DecidableEq, Repr

namespace KycOffice

def handle (s : KycOffice) : KycEvent → Except Failure KycOffice
  | .validate editor body now => s.validateMpesa editor body now
  | .update editor clientId form => s.updateClient editor clientId form
  | .deleteWallet editor clientId walletId => s.deleteWallet editor clientId walletId
  | .edit e => s.editClient e

/-- An event that fails changes nothing. -/
def step (s : KycOffice) (e : KycEvent) : KycOffice :=
  match s.handle e with
  | .ok s' => s'
  | .error _ => s

/-- An event goes through. -/
def accepts (s : KycOffice) (e : KycEvent) : Bool := (s.handle e).isOk

/-- The check of a decision engine that reads the flag; a tenant may not ask for it. -/
def mpesaCheck (s : KycOffice) (mpesaReq : Bool) (clientId : ℕ) : Bool :=
  !mpesaReq || (s.profiles[clientId]?).any (·.mpesaValidated)

end KycOffice

end FinylDcp
