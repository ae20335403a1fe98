import FinylDcp.Matching
import FinylDcp.OneTimeCodes
import FinylDcp.Text

/-!
# Consent by one-time code

An officer asks for a consent code, which is sent to the client's phone, and reads it back to
record the consent. The code is kept under the officer; phone, client, lead and text arrive
once with the request and once with the verification.
-/
namespace FinylDcp
open FinylDcp.Runs FinylDcp.Traces

def defaultConsentText : String :=
  "Finyl-DCP processing your personal data for a loan application."

/-- A Kenyan mobile number in the format 2547XXXXXXXX or 2541XXXXXXXX. -/
def normalisePhone (phone : String) : String :=
  let digits := phone.toList.filter Text.isDigit
  let digits := match digits with
    | '0' :: rest => "254".toList ++ rest
    | '7' :: rest => "254".toList ++ '7' :: rest
    | '1' :: rest => "254".toList ++ '1' :: rest
    | other => other
  String.ofList (dropRepeatedCode digits.length digits)

/-- `_valid_ke_phone`: the normalised number is 254, then 7 or 1, then eight digits. -/
def validKePhone (phone : String) : Bool :=
  match (normalisePhone phone).toList with
  | '2' :: '5' :: '4' :: c :: rest =>
    (c = '7' || c = '1') && rest.length = 8 && rest.all Text.isDecimal
  | _ => false

structure RequestConsentOtpIn where
  phone : String
  clientId : Option ℤ
  leadId : Option ℤ
  consentText : Option String
  deriving DecidableEq

structure VerifyConsentOtpIn where
  code : String
  phone : String
  clientId : Option ℤ
  leadId : Option ℤ
  deriving DecidableEq

/-- A message of `sms_logs`. -/
structure ConsentSms where
  tenantId : ℕ
  recipientPhone : String
  message : String
  status : String
  deriving DecidableEq

/-- A row of `client_consent_logs`. -/
structure ClientConsentLog where
  tenantId : ℕ
  clientId : Option ℤ
  leadId : Option ℤ
  phone : String
  otpTokenId : Option ℕ
  officerId : ℕ
  consentText : String
  ip : Option String
  consentedAt : ℤ
  deriving DecidableEq

/-- A row of the client's consent trail. -/
structure KycConsent where
  tenantId : ℕ
  borrowerId : ℤ
  consentDataProcessing : Bool
  consentVersion : String
  ipAddress : Option String
  deriving DecidableEq

/-- The clients by their tenant, and the leads. -/
structure ConsentRegistry where
  clientTenant : ℤ → Option ℕ
  leadExists : ℤ → Bool

structure ConsentDesk where
  otps : List OtpToken
  sms : List ConsentSms
  consents : List ClientConsentLog
  kyc : List KycConsent

/-- `(body.consent_text or "").strip() or DEFAULT_CONSENT_TEXT` -/
def RequestConsentOtpIn.text (body : RequestConsentOtpIn) : String :=
  let text := Text.strip (body.consentText.getD "")
  if text = "" then defaultConsentText else text

inductive ConsentCall
  | request (officerId tenantId : ℕ) (body : RequestConsentOtpIn) (code smsStatus : String)
    (ip : Option String)
  | verify (officerId tenantId : ℕ) (body : VerifyConsentOtpIn) (ip : Option String)

/-- The answer to a call, with the row of the code that it issued or took, and the consent that
was recorded. -/
inductive ConsentReply
  | invalidPhone
  | requested (otpRow : ℕ) (sent : Bool)
  | invalidOrExpiredOtp
  | clientNotFound
  | integrityError
  | recorded (otpRow : ℕ) (log : ClientConsentLog)
  deriving DecidableEq

namespace ConsentDesk

section Desk

variable (registry : ConsentRegistry) (desk : ConsentDesk)

/-- The newest consent code of the officer, outstanding or not. -/
def newestConsentToken (officerId : ℕ) : Option ℕ :=
  (((desk.otps.zipIdx.filter (fun x => x.1.userId = officerId && x.1.purpose = "consent")
    ).insertionSort (fun x y => y.1.createdAt ≤ x.1.createdAt)).head?).map Prod.snd

/-- The client that the body names is one of the tenant; no client is named by none and by
zero. -/
def clientFound (tenantId : ℕ) (body : VerifyConsentOtpIn) : Bool :=
  match body.clientId with
  | none => true
  | some id => id = 0 || registry.clientTenant id = some tenantId

/-- The foreign keys and the width of the phone column hold for the row. -/
def rowFits (body : VerifyConsentOtpIn) : Bool :=
  body.clientId.all (fun id => (registry.clientTenant id).isSome) &&
    body.leadId.all registry.leadExists && (Text.strip body.phone).length ≤ 20

/-- The consent trail after a consent to data processing. -/
def recordProcessing (kyc : List KycConsent) (tenantId : ℕ) (clientId : Option ℤ)
    (ip : Option String) : List KycConsent :=
  match clientId with
  | none => kyc
  | some id =>
    if id = 0 then kyc
    else match (kyc.zipIdx.filter
        (fun x => x.1.tenantId = tenantId && x.1.borrowerId = id)).getLast? with
      | some (_, row) => kyc.modify row
          (fun k => { k with consentDataProcessing := true, consentVersion := "otp_v1" })
      | none => kyc ++ [⟨tenantId, id, true, "otp_v1", ip⟩]

variable [Bcrypt]

/-- `request_consent_otp` -/
def requestConsentOtp (now : ℤ) (officerId tenantId : ℕ) (body : RequestConsentOtpIn)
    (code smsStatus : String) (ip : Option String) : ConsentReply × ConsentDesk :=
  let phone := Text.strip body.phone
  if !validKePhone phone then (.invalidPhone, desk)
  else
    let text := body.text
    let message := s!"Share code {code} with your Finyl officer to consent to: {text} " ++
      "Do not share with anyone else. Valid 5 mins."
    (.requested desk.otps.length (smsStatus = "sent"),
      { desk with
        otps := generateOtp desk.otps officerId "consent" code ip now
        sms := desk.sms ++ [⟨tenantId, normalisePhone phone, message, smsStatus⟩] })

/-- `verify_consent_otp`. An accepted code is consumed, whatever becomes of the row. -/
def verifyConsentOtp (now : ℤ) (officerId tenantId : ℕ) (body : VerifyConsentOtpIn)
    (ip : Option String) : ConsentReply × ConsentDesk :=
  let code := Text.strip body.code
  let phone := Text.strip body.phone
  let (outcome, otps) := verifyOtp desk.otps officerId code "consent" now
  let desk := { desk with otps := otps }
  match outcome with
  | .ok otpRow =>
    let tok := desk.newestConsentToken officerId
    if !clientFound registry tenantId body then (.clientNotFound, desk)
    else if !rowFits registry body then (.integrityError, desk)
    else
      let log : ClientConsentLog :=
        { tenantId := tenantId, clientId := body.clientId, leadId := body.leadId, phone := phone,
          otpTokenId := tok, officerId := officerId, consentText := defaultConsentText, ip := ip,
          consentedAt := now }
      (.recorded otpRow log,
        { desk with
          consents := desk.consents ++ [log]
          kyc := recordProcessing desk.kyc tenantId body.clientId ip })
  | _ => (.invalidOrExpiredOtp, desk)

/-- One call at its time. -/
def step (desk : ConsentDesk) : ℤ × ConsentCall → ConsentReply × ConsentDesk
  | (now, .request officerId tenantId body code smsStatus ip) =>
    desk.requestConsentOtp now officerId tenantId body code smsStatus ip
  | (now, .verify officerId tenantId body ip) =>
    desk.verifyConsentOtp registry now officerId tenantId body ip

end Desk

end ConsentDesk

/-- The desk after the calls, from empty tables. -/
abbrev deskAfter [Bcrypt] (registry : ConsentRegistry) (calls : List (ℤ × ConsentCall)) :
    ConsentDesk :=
  run (after (ConsentDesk.step registry)) ⟨[], [], [], []⟩ calls

/-- The calls with their answers. -/
abbrev deskTrace [Bcrypt] (registry : ConsentRegistry) (calls : List (ℤ × ConsentCall)) :
    List ((ℤ × ConsentCall) × ConsentReply) :=
  trace (ConsentDesk.step registry) ⟨[], [], [], []⟩ calls

/-- What a call does to the one-time codes. -/
def ConsentCall.otpCall : ConsentCall → Option OtpCall
  | .request officerId _ body code _ ip =>
    if validKePhone (Text.strip body.phone) then some (.generate officerId "consent" code ip)
    else none
  | .verify officerId _ body _ => some (.verify officerId (Text.strip body.code) "consent")

/-- The calls to the one-time codes that the calls to the desk make. -/
def otpCalls (calls : List (ℤ × ConsentCall)) : List (ℤ × OtpCall) :=
  calls.filterMap (fun c => c.2.otpCall.map (fun call => (c.1, call)))

end FinylDcp
