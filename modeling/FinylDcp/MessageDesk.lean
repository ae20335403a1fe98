import FinylDcp.PromiseReminders
import FinylDcp.Sessions
import FinylDcp.SmsTemplates
import FinylDcp.Upserts

/-!
# The message desk

What a tenant says to its borrowers and to whom, what a message costs, and what the provider
reports of it. The price is that of the active card, looked up at most once a minute, and is
copied onto the row of the message. Numbers fit the twenty characters of their columns and the
database answers: what the service falls back to where a lookup raises is left out.
-/
namespace FinylDcp
open Runs Tables

/-- A row of `sms_rate_cards`; prices are in ten-thousandths of a shilling. -/
structure SmsRateCard where
  sellPrice : ℤ
  costPrice : ℤ
  effectiveFrom : ℤ
  active : Bool
  deriving DecidableEq

def SmsRateCard.rate (c : SmsRateCard) : SmsRate where
  sellPrice := c.sellPrice
  costPrice := c.costPrice
  margin := c.sellPrice - c.costPrice

/-- The active card that took effect last. -/
def activeCard (cards : List SmsRateCard) : Option SmsRateCard :=
  ((cards.filter (·.active)).insertionSort (fun a b => b.effectiveFrom ≤ a.effectiveFrom)).head?

/-- The last rate that was looked up, and when. -/
structure RateCache where
  rate : Option SmsRate
  fetchedAt : ℤ
  deriving DecidableEq

def rateTtl : ℤ := 60 * second

/-- `get_active_rate`, of a database that answers, with the cache that it leaves. -/
def getActiveRate (cards : List SmsRateCard) (cache : RateCache) (now : ℤ) :
    Option SmsRate × RateCache :=
  if cache.rate.isSome ∧ now - cache.fetchedAt < rateTtl then (cache.rate, cache)
  else match activeCard cards with
    | none => (none, cache)
    | some card => (some card.rate, ⟨some card.rate, now⟩)

inductive DeliveryStatus
  | unknown | delivered | failed | undelivered
  deriving DecidableEq

/-- A message, with what was reported of it. -/
structure MessageRow where
  log : SmsLog
  deliveryStatus : DeliveryStatus
  deliveredAt : Option ℤ
  deriving DecidableEq

/-- `_norm_delivery_status` -/
def normDeliveryStatus (raw : String) : DeliveryStatus :=
  let s := Text.lower (Text.strip raw)
  if ["delivered", "delivrd", "success", "dlvrd", "1", "delivered_to_handset"].contains s then
    .delivered
  else if ["undelivered", "undeliv"].contains s then .undelivered
  else if ["failed", "undeliverable", "rejected", "expired", "error", "0"].contains s then .failed
  else
    let has := fun word : String => s.toList.tails.any (word.toList.isPrefixOf ·)
    if has "deliv" && !has "un" then .delivered
    else if has "fail" || has "reject" || has "expire" then .failed
    else .unknown

/-- A tenant's wording of an event. -/
structure SmsTemplate where
  tenantId : ℕ
  eventKey : String
  body : String
  active : Bool
  deriving DecidableEq

def SmsTemplate.key (t : SmsTemplate) : ℕ × String := (t.tenantId, t.eventKey)

/-- A row of the opt-out register; the phone is normalised. -/
structure SmsOptOut where
  tenantId : ℕ
  phone : String
  source : String
  active : Bool
  deriving DecidableEq

def SmsOptOut.key (o : SmsOptOut) : ℕ × String := (o.tenantId, o.phone)

structure MessageDesk where
  cards : List SmsRateCard
  cache : RateCache
  templates : KeyTable SmsTemplate.key
  optOuts : KeyTable SmsOptOut.key
  rows : List MessageRow

namespace MessageDesk

variable (desk : MessageDesk)

/-- `send_sms` to a number that fits its column, with the provider's answer; the rate is only
asked for where the message went. -/
def sendSms (now : ℤ) (tenantId : ℕ) (phone message triggerType : String)
    (result : ProviderResult) : MessageDesk :=
  let (rate, cache) := if result.status = "sent" then getActiveRate desk.cards desk.cache now
    else (none, desk.cache)
  let log := FinylDcp.sendSms tenantId phone message triggerType ⟨result, rate, now, false⟩
  { desk with cache := cache, rows := desk.rows ++ [⟨log, .unknown, none⟩] }

/-- `is_opted_out`, of a database that answers. -/
def isOptedOut (tenantId : ℕ) (phone : String) : Bool :=
  match desk.optOuts.get? (tenantId, normalisePhone phone) with
  | none => false
  | some o => o.active

/-- `get_template`, of a database that answers: the wording of an event, and whether it is
switched on. -/
def getTemplate (tenantId : ℕ) (eventKey : String) : String × Bool :=
  match desk.templates.get? (tenantId, eventKey) with
  | some t => (t.body, t.active)
  | none => (defaultBody eventKey, true)

variable (isWord : Char → Bool)

/-- `_fire` -/
def fire (now : ℤ) (tenantId : ℕ) (phone eventKey : String) (context : String → Option String)
    (triggerType : String) (result : ProviderResult) : MessageDesk :=
  let (body, active) := desk.getTemplate tenantId eventKey
  if !active then desk
  else if suppressibleEvents.contains eventKey && desk.isOptedOut tenantId phone then desk
  else desk.sendSms now tenantId phone (renderBody isWord context body) triggerType result

/-- `upsert_template`; `none` where it refuses. -/
def upsertTemplate (tenantId : ℕ) (eventKey body : String) (active : Bool) : Option MessageDesk :=
  if !eventKeys.contains eventKey then none
  else if Text.strip body = "" then none
  else some { desk with templates := desk.templates.write ⟨tenantId, eventKey, body, active⟩ }

/-- `add_opt_out` of a number that fits its column. -/
def addOptOut (tenantId : ℕ) (phone source : String) : MessageDesk :=
  { desk with optOuts := desk.optOuts.write ⟨tenantId, normalisePhone phone, source, true⟩ }

/-- `remove_opt_out`; `none` where there is no such entry. -/
def removeOptOut (tenantId : ℕ) (phone : String) : Option MessageDesk :=
  (desk.optOuts.get? (tenantId, normalisePhone phone)).map (fun o =>
    { desk with optOuts := desk.optOuts.write { o with active := false } })

/-- The row that a report is about: the newest with the provider's reference. -/
def reportedRow (ref : String) : Option ℕ :=
  (desk.rows.zipIdx.filter (fun x => x.1.log.result.providerRef = some ref)).getLast?.map (·.2)

/-- `_handle_dlr` -/
def handleDlr (now : ℤ) (ref status : String) : MessageDesk :=
  if ref = "" then desk
  else match desk.reportedRow ref with
    | none => desk
    | some i => { desk with
        rows := desk.rows.modify i (fun row => { row with
          deliveryStatus := normDeliveryStatus status
          deliveredAt := if normDeliveryStatus status = .delivered then
            row.deliveredAt.or (some now) else row.deliveredAt }) }

end MessageDesk

inductive MessageEvent
  | priced (cards : List SmsRateCard)
  | upsertTemplate (tenantId : ℕ) (eventKey body : String) (active : Bool)
  | addOptOut (tenantId : ℕ) (phone source : String)
  | removeOptOut (tenantId : ℕ) (phone : String)
  | fire (tenantId : ℕ) (phone eventKey : String) (context : String → Option String)
    (triggerType : String) (result : ProviderResult)
  | sendSms (tenantId : ℕ) (phone message triggerType : String) (result : ProviderResult)
  | dlr (ref status : String)

/-- One event at its time; a refused request changes nothing. -/
def MessageDesk.step (isWord : Char → Bool) (desk : MessageDesk) : ℤ × MessageEvent → MessageDesk
  | (_, .priced cards) => { desk with cards := cards }
  | (_, .upsertTemplate tenantId eventKey body active) =>
    (desk.upsertTemplate tenantId eventKey body active).getD desk
  | (_, .addOptOut tenantId phone source) => desk.addOptOut tenantId phone source
  | (_, .removeOptOut tenantId phone) => (desk.removeOptOut tenantId phone).getD desk
  | (now, .fire tenantId phone eventKey context triggerType result) =>
    desk.fire isWord now tenantId phone eventKey context triggerType result
  | (now, .sendSms tenantId phone message triggerType result) =>
    desk.sendSms now tenantId phone message triggerType result
  | (now, .dlr ref status) => desk.handleDlr now ref status

/-- A desk before its first message. -/
def MessageDesk.opening (cards : List SmsRateCard) : MessageDesk where
  cards := cards
  cache := ⟨none, 0⟩
  templates := ∅
  optOuts := ∅
  rows := []

end FinylDcp
