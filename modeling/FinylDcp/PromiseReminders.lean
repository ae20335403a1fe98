import FinylDcp.Calendar
import FinylDcp.Calls
import FinylDcp.ConsentCodes
import FinylDcp.Money
import FinylDcp.Runs

/-!
# Reminders of promises to pay

Once a day a job reminds the clients whose promise is due tomorrow and follows up on the promises
that fell due yesterday; a marker on the promise keeps each of the two messages from being sent
twice. The job names the kind of message with a keyword that the sending function does not have, so
the call raises and the job passes on to the next promise.
-/
namespace FinylDcp
open Calendar Calls Runs

/-- What `_dispatch_to_provider` returns. -/
structure ProviderResult where
  status : String
  provider : Option String
  providerRef : Option String
  providerResponse : Option String
  error : Option String
  deriving DecidableEq

/-- The active rate per message, in ten-thousandths of a shilling. -/
structure SmsRate where
  sellPrice : ℤ
  costPrice : ℤ
  margin : ℤ
  deriving DecidableEq

structure SmsLog where
  tenantId : ℤ
  recipientPhone : String
  message : String
  triggerType : String
  result : ProviderResult
  sentAt : ℤ
  billable : Bool
  rate : Option SmsRate
  deriving DecidableEq

/-- What comes of one attempt: the provider's answer, the rate at the time, and whether the
database fails when the row is flushed or committed. -/
structure SmsAttempt where
  result : ProviderResult
  rate : Option SmsRate
  now : ℤ
  raises : Bool

/-- The values passed in calls of `send_sms`. -/
inductive PyValue
  | session
  | int (n : ℤ)
  | text (s : String)
  deriving DecidableEq

/-- `send_sms(db, tenant_id, phone, message, trigger_type="manual")`. -/
def sendSmsSignature : Signature PyValue where
  required := ["db", "tenant_id", "phone", "message"]
  optional := [("trigger_type", .text "manual")]

/-- The row of a message; only one that was sent is billed, at the rate of the time. -/
def sendSms (tenantId : ℤ) (phone message triggerType : String) (attempt : SmsAttempt) :
    SmsLog where
  tenantId := tenantId
  recipientPhone := if normalisePhone phone = "" then phone else normalisePhone phone
  message := message
  triggerType := triggerType
  result := attempt.result
  sentAt := attempt.now
  billable := attempt.result.status = "sent"
  rate := if attempt.result.status = "sent" then attempt.rate else none

/-- The two messages about a promise. -/
inductive Leg
  | dMinus1
  | dPlus1
  deriving DecidableEq

structure PromiseToPay where
  tenantId : ℕ
  clientId : ℕ
  ptpDate : Date
  amount : ℤ
  status : String
  reminderSentAt : List (Leg × ℤ)
  deriving DecidableEq

/-- The leg is in the promise's log of reminders. -/
def PromiseToPay.Marked (ptp : PromiseToPay) (leg : Leg) : Prop :=
  leg ∈ ptp.reminderSentAt.map Prod.fst

instance (ptp : PromiseToPay) (leg : Leg) : Decidable (ptp.Marked leg) :=
  inferInstanceAs (Decidable (_ ∈ _))

/-- The leg that is sent for a promise that the job looks at. -/
def PromiseToPay.legOn (ptp : PromiseToPay) (today : Date) : Leg :=
  if ptp.ptpDate = today.next then .dMinus1 else .dPlus1

structure PtpBorrower where
  tenantId : ℕ
  phone : Option String
  deriving DecidableEq

/-- A message handed to the provider, of which leg of which promise and on which day. -/
structure Dispatch where
  ptpId : ℕ
  leg : Leg
  day : Date
  deriving DecidableEq

/-- The tables that the job works on, ids being positions, the day, and what was handed over. -/
structure PtpDesk where
  today : Date
  borrowers : List PtpBorrower
  promises : List PromiseToPay
  smsLogs : List SmsLog
  dispatched : List Dispatch
  deriving DecidableEq

def pad (width n : ℕ) : String :=
  String.ofList (List.replicate (width - (toString n).length) '0') ++ toString n

/-- A date as `str` writes it. -/
def isoDate (d : Date) : String := s!"{pad 4 d.year}-{pad 2 d.month}-{pad 2 d.day}"

/-- The text of a message. -/
def reminderText (leg : Leg) (ptp : PromiseToPay) : String :=
  match leg with
  | .dMinus1 =>
    s!"Reminder: your payment promise of KES {showCents ptp.amount} is due " ++
      s!"tomorrow ({isoDate ptp.ptpDate}). Kindly pay on time. Thank you."
  | .dPlus1 =>
    s!"Follow-up: your payment promise of KES {showCents ptp.amount} was due " ++
      s!"on {isoDate ptp.ptpDate}. Please settle it as soon as possible."

/-- The keywords that the job passes. -/
def reminderKeywords : List (String × PyValue) := [("category", .text "ptp_reminder")]

namespace PtpDesk

/-- The phone of the client of a promise. -/
def phoneOf (desk : PtpDesk) (ptp : PromiseToPay) : Option String :=
  match desk.borrowers[ptp.clientId]? with
  | none => none
  | some borrower => if borrower.tenantId = ptp.tenantId then Text.nonEmpty borrower.phone else none

/-- A message is handed over, its row kept and the promise marked; where the database fails, the
rollback undoes all but the first. -/
def deliver (desk : PtpDesk) (id : ℕ) (leg : Leg) (attempt : SmsAttempt) (log : SmsLog) : PtpDesk :=
  let sent := { desk with dispatched := desk.dispatched ++ [⟨id, leg, desk.today⟩] }
  if attempt.raises then sent
  else
    { sent with
      smsLogs := desk.smsLogs ++ [log]
      promises := desk.promises.modify id fun ptp =>
        { ptp with reminderSentAt := ptp.reminderSentAt ++ [(leg, attempt.now)] } }

/-- One round of the job's loop, with the keywords of its call. Where the call raises, nothing was
written yet. -/
def remindOne (keywords : List (String × PyValue)) (attempts : ℕ → SmsAttempt) (desk : PtpDesk)
    (id : ℕ) : PtpDesk :=
  match desk.promises[id]? with
  | none => desk
  | some ptp =>
    let leg := ptp.legOn desk.today
    if ptp.Marked leg then desk
    else
      match desk.phoneOf ptp with
      | none => desk
      | some phone =>
        match sendSmsSignature.bind
            [.session, .int ptp.tenantId, .text phone, .text (reminderText leg ptp)] keywords with
        | some [_, .int tenantId, .text phone, .text message, .text triggerType] =>
          desk.deliver id leg (attempts id)
            (sendSms tenantId phone message triggerType (attempts id))
        | _ => desk

/-- The promises that the job looks at: pending, and due tomorrow or yesterday. -/
def dueRows (desk : PtpDesk) : List ℕ :=
  (List.range desk.promises.length).filter fun id =>
    (desk.promises[id]?).any fun ptp => ptp.status = "pending" &&
      (ptp.ptpDate = desk.today.next || ptp.ptpDate = desk.today.previous)

/-- The job, with the keywords of its call. -/
def remindersWith (keywords : List (String × PyValue)) (attempts : ℕ → SmsAttempt)
    (desk : PtpDesk) : PtpDesk :=
  desk.dueRows.foldl (remindOne keywords attempts) desk

/-- `ptp.create`, for a loan of the tenant. -/
def create (tenantId clientId : ℕ) (ptpDate : Date) (amount : ℤ) (desk : PtpDesk) : PtpDesk :=
  { desk with promises := desk.promises ++ [⟨tenantId, clientId, ptpDate, amount, "pending", []⟩] }

/-- `ptp.update_status`, as far as the job reads what it writes. -/
def updateStatus (tenantId id : ℕ) (status : Option String) (ptpDate : Option Date)
    (desk : PtpDesk) : PtpDesk :=
  { desk with
    promises := desk.promises.modify id fun ptp =>
      if ptp.tenantId = tenantId then
        { ptp with
          ptpDate := ptpDate.getD ptp.ptpDate
          status := (Text.nonEmpty status).getD ptp.status }
      else ptp }

end PtpDesk

/-- What happens to the promises: the job runs, the day ends, officers log and update promises, and
clients' phones change. -/
inductive PtpEvent
  | run (attempts : ℕ → SmsAttempt)
  | nextDay
  | create (tenantId clientId : ℕ) (ptpDate : Date) (amount : ℤ)
  | update (tenantId id : ℕ) (status : Option String) (ptpDate : Option Date)
  | phone (borrowerId : ℕ) (phone : Option String)

/-- An event, with the keywords of the job's call. -/
def PtpDesk.stepWith (keywords : List (String × PyValue)) (desk : PtpDesk) : PtpEvent → PtpDesk
  | .run attempts => desk.remindersWith keywords attempts
  | .nextDay => { desk with today := desk.today.next }
  | .create tenantId clientId ptpDate amount => desk.create tenantId clientId ptpDate amount
  | .update tenantId id status ptpDate => desk.updateStatus tenantId id status ptpDate
  | .phone borrowerId phone =>
    { desk with
      borrowers := desk.borrowers.modify borrowerId
        fun borrower => { borrower with phone := phone } }

/-- `run_ptp_reminders`. -/
def PtpDesk.runPtpReminders (attempts : ℕ → SmsAttempt) (desk : PtpDesk) : PtpDesk :=
  desk.remindersWith reminderKeywords attempts

/-- The day on which a leg is due. -/
def Leg.dateOn (today : Date) : Leg → Date
  | .dMinus1 => today.next
  | .dPlus1 => today.previous

/-- A promise is pending and due for a leg that was not sent yet, and its client has a phone. -/
structure PtpDesk.Due (desk : PtpDesk) (id : ℕ) (leg : Leg) (ptp : PromiseToPay) : Prop where
  row : desk.promises[id]? = some ptp
  pending : ptp.status = "pending"
  date : ptp.ptpDate = leg.dateOn desk.today
  unmarked : ¬ptp.Marked leg
  phone : (desk.phoneOf ptp).isSome

/-- In a run of events, whenever the job runs while a leg of a promise is due, the leg is sent
exactly once that day, and no leg is sent twice. -/
def RemindedOnce (keywords : List (String × PyValue)) (desk : PtpDesk) (events : List PtpEvent)
    (id : ℕ) : Prop :=
  (∀ pre attempts post, events = pre ++ .run attempts :: post → ∀ leg ptp,
    (run (PtpDesk.stepWith keywords) desk pre).Due id leg ptp →
    (run (PtpDesk.stepWith keywords) desk events).dispatched.count
        ⟨id, leg, (run (PtpDesk.stepWith keywords) desk pre).today⟩ =
      desk.dispatched.count ⟨id, leg, (run (PtpDesk.stepWith keywords) desk pre).today⟩ + 1) ∧
  ∀ leg day, (run (PtpDesk.stepWith keywords) desk events).dispatched.count ⟨id, leg, day⟩ ≤
    desk.dispatched.count ⟨id, leg, day⟩ + 1

/-- Keywords that bind in every call of the job. -/
def Binds (keywords : List (String × PyValue)) : Prop :=
  ∃ trigger, ∀ tenantId phone message,
    sendSmsSignature.bind [.session, .int tenantId, .text phone, .text message] keywords =
      some [.session, .int tenantId, .text phone, .text message, .text trigger]

theorem binds_triggerType (trigger : String) : Binds [("trigger_type", .text trigger)] :=
  ⟨trigger, fun _ _ _ => rfl⟩

/-- One if the leg of the promise is marked as sent. -/
def PtpDesk.mark (desk : PtpDesk) (id : ℕ) (leg : Leg) : ℕ :=
  ((desk.promises[id]?).any fun ptp => decide (ptp.Marked leg)).toNat

/-- From one desk to another each message about a leg comes with its mark. -/
def SentMarked (id : ℕ) (leg : Leg) (desk desk' : PtpDesk) : Prop :=
  ∃ extra, desk'.dispatched = desk.dispatched ++ extra ∧
    extra.countP (fun d => d.ptpId = id ∧ d.leg = leg) + desk.mark id leg = desk'.mark id leg

section Loop

variable {keywords : List (String × PyValue)} {attempts : ℕ → SmsAttempt}
  {desk desk' desk'' : PtpDesk} {id : ℕ} {leg : Leg} {ptp : PromiseToPay}

theorem SentMarked.refl (id : ℕ) (leg : Leg) (desk : PtpDesk) : SentMarked id leg desk desk :=
  ⟨[], by simp, by simp⟩

theorem SentMarked.trans (h : SentMarked id leg desk desk') (h' : SentMarked id leg desk' desk'') :
    SentMarked id leg desk desk'' := by
  obtain ⟨extra, hextra, hmark⟩ := h
  obtain ⟨extra', hextra', hmark'⟩ := h'
  refine ⟨extra ++ extra', by rw [hextra', hextra, List.append_assoc], ?_⟩
  rw [List.countP_append]
  omega

/-- What leaves the messages and the marks alone. -/
theorem SentMarked.of_same (hdispatched : desk'.dispatched = desk.dispatched)
    (hmark : desk'.mark id leg = desk.mark id leg) : SentMarked id leg desk desk' :=
  ⟨[], by simp [hdispatched], by simp [hmark]⟩

/-- A message is handed over for the leg that the date says, when it is not marked. -/
theorem PtpDesk.remindOne_cases (hbinds : Binds keywords) (desk : PtpDesk) (id : ℕ) :
    desk.remindOne keywords attempts id = desk ∨
      ∃ ptp leg log, desk.promises[id]? = some ptp ∧ ¬ptp.Marked leg ∧
        desk.remindOne keywords attempts id = desk.deliver id leg (attempts id) log := by
  obtain ⟨trigger, hbinds⟩ := hbinds
  unfold PtpDesk.remindOne
  cases hrow : desk.promises[id]? with
  | none => exact .inl rfl
  | some ptp =>
    simp only [hbinds]
    by_cases hmarked : ptp.Marked (ptp.legOn desk.today)
    · exact .inl (if_pos hmarked)
    · rw [if_neg hmarked]
      cases hphone : desk.phoneOf ptp with
      | none => exact .inl rfl
      | some phone => exact .inr ⟨ptp, _, _, rfl, hmarked, rfl⟩

theorem PtpDesk.remindOne_of_due (hbinds : Binds keywords) (h : desk.Due id leg ptp) :
    ∃ log, desk.remindOne keywords attempts id = desk.deliver id leg (attempts id) log := by
  obtain ⟨trigger, hbinds⟩ := hbinds
  obtain ⟨phone, hphone⟩ := Option.isSome_iff_exists.mp h.phone
  have hleg : ptp.legOn desk.today = leg := by
    cases leg with
    | dMinus1 => exact if_pos h.date
    | dPlus1 =>
      have hdate : ptp.ptpDate = desk.today.previous := h.date
      rw [PromiseToPay.legOn, hdate, if_neg desk.today.previous_ne_next]
  unfold PtpDesk.remindOne
  simp only [h.row, hleg, hphone, hbinds, h.unmarked]
  exact ⟨_, rfl⟩

theorem PtpDesk.mark_of_row (hrow : desk.promises[id]? = some ptp) :
    desk.mark id leg = (decide (ptp.Marked leg)).toNat := by
  rw [PtpDesk.mark, hrow, Option.any_some]

theorem PtpDesk.mark_congr (h : desk'.promises[id]? = desk.promises[id]?) :
    desk'.mark id leg = desk.mark id leg := by
  rw [PtpDesk.mark, PtpDesk.mark, h]

theorem PtpDesk.deliver_dispatched (desk : PtpDesk) (id : ℕ) (leg : Leg) (attempt : SmsAttempt)
    (log : SmsLog) : (desk.deliver id leg attempt log).dispatched =
      desk.dispatched ++ [⟨id, leg, desk.today⟩] := by
  unfold PtpDesk.deliver
  split <;> rfl

/-- Only the row of the promise changes. -/
theorem PtpDesk.deliver_promises (desk : PtpDesk) {id id' : ℕ} (hne : id' ≠ id) (leg : Leg)
    (attempt : SmsAttempt) (log : SmsLog) :
    (desk.deliver id leg attempt log).promises[id']? = desk.promises[id']? := by
  unfold PtpDesk.deliver
  split
  · rfl
  · exact List.getElem?_modify_ne _ _ (Ne.symm hne)

theorem PromiseToPay.marked_append {leg' : Leg} {now : ℤ} :
    PromiseToPay.Marked { ptp with reminderSentAt := ptp.reminderSentAt ++ [(leg, now)] } leg' ↔
      ptp.Marked leg' ∨ leg' = leg := by
  simp [PromiseToPay.Marked, or_comm, eq_comm]

/-- Unless the database fails, the leg is marked, and no other one. -/
theorem PtpDesk.deliver_row {attempt : SmsAttempt} (hrow : desk.promises[id]? = some ptp)
    (hgood : attempt.raises = false) (log : SmsLog) :
    (desk.deliver id leg attempt log).promises[id]? =
      some { ptp with reminderSentAt := ptp.reminderSentAt ++ [(leg, attempt.now)] } := by
  simp [PtpDesk.deliver, hgood, hrow]

theorem SentMarked.deliver {id' : ℕ} {leg' : Leg} {attempt : SmsAttempt} {log : SmsLog}
    (hrow : desk.promises[id]? = some ptp) (hunmarked : ¬ptp.Marked leg)
    (hgood : id = id' → attempt.raises = false) :
    SentMarked id' leg' desk (desk.deliver id leg attempt log) := by
  refine ⟨_, desk.deliver_dispatched id leg attempt log, ?_⟩
  by_cases hid : id = id'
  · subst hid
    have hrow' : (desk.deliver id leg attempt log).promises[id]? =
        some { ptp with reminderSentAt := ptp.reminderSentAt ++ [(leg, attempt.now)] } :=
      PtpDesk.deliver_row hrow (hgood rfl) log
    rw [PtpDesk.mark_of_row hrow, PtpDesk.mark_of_row hrow']
    simp only [PromiseToPay.marked_append]
    by_cases hleg : leg = leg'
    · subst hleg
      simp [hunmarked]
    · simp [hleg, Ne.symm hleg]
  · rw [PtpDesk.mark_congr (desk.deliver_promises (Ne.symm hid) leg attempt log)]
    simp [hid]

theorem SentMarked.remindOne (hbinds : Binds keywords) (id' : ℕ) (leg : Leg)
    (hgood : (attempts id').raises = false) (desk : PtpDesk) (id : ℕ) :
    SentMarked id' leg desk (desk.remindOne keywords attempts id) := by
  obtain hsame | ⟨ptp, leg', log, hrow, hunmarked, hdeliver⟩ := desk.remindOne_cases hbinds id
  · rw [hsame]
    exact .refl id' leg desk
  · rw [hdeliver]
    exact .deliver hrow hunmarked fun hid => by rwa [hid]

theorem SentMarked.rows (hbinds : Binds keywords) (id : ℕ) (leg : Leg)
    (hgood : (attempts id).raises = false) (desk : PtpDesk) (rows : List ℕ) :
    SentMarked id leg desk (rows.foldl (PtpDesk.remindOne keywords attempts) desk) := by
  induction rows generalizing desk with
  | nil => exact .refl id leg desk
  | cons id' rows ih => exact (SentMarked.remindOne hbinds id leg hgood desk id').trans (ih _)

/-- An event, if the promise's own attempt does not fail. -/
theorem SentMarked.step (hbinds : Binds keywords) (id : ℕ) (leg : Leg) (event : PtpEvent)
    (hgood : ∀ attempts, event = .run attempts → (attempts id).raises = false) (desk : PtpDesk) :
    SentMarked id leg desk (desk.stepWith keywords event) := by
  cases event with
  | run attempts => exact .rows hbinds id leg (hgood attempts rfl) desk desk.dueRows
  | nextDay => exact .of_same rfl rfl
  | phone borrowerId phone => exact .of_same rfl rfl
  | create tenantId clientId ptpDate amount =>
    refine .of_same rfl ?_
    rw [PtpDesk.stepWith, PtpDesk.create, PtpDesk.mark, PtpDesk.mark]
    by_cases hid : id < desk.promises.length
    · rw [List.getElem?_append_left hid]
    · have hnone : desk.promises[id]? = none := List.getElem?_eq_none (by omega)
      rw [List.getElem?_append_right (by omega), hnone]
      cases id - desk.promises.length <;> simp [PromiseToPay.Marked]
  | update tenantId id' status ptpDate =>
    refine .of_same rfl ?_
    rw [PtpDesk.stepWith, PtpDesk.updateStatus, PtpDesk.mark, PtpDesk.mark]
    by_cases hid : id' = id
    · subst hid
      rw [List.getElem?_modify_eq]
      cases desk.promises[id']? with
      | none => rfl
      | some ptp =>
        simp only [Option.map_eq_map, Option.map_some, Option.any_some, PromiseToPay.Marked]
        split_ifs <;> rfl
    · rw [List.getElem?_modify_ne _ _ hid]

theorem SentMarked.run (hbinds : Binds keywords) (id : ℕ) (leg : Leg) (events : List PtpEvent)
    (hgood : ∀ attempts, .run attempts ∈ events → (attempts id).raises = false) (desk : PtpDesk) :
    SentMarked id leg desk (run (PtpDesk.stepWith keywords) desk events) := by
  induction events generalizing desk with
  | nil => exact .refl id leg desk
  | cons event events ih =>
    have hfirst := SentMarked.step hbinds id leg event
      (fun attempts h => hgood attempts (by simp [h])) desk
    exact hfirst.trans (ih (fun attempts h => hgood attempts (by simp [h])) _)

theorem PtpDesk.deliver_today (desk : PtpDesk) (id : ℕ) (leg : Leg) (attempt : SmsAttempt)
    (log : SmsLog) : (desk.deliver id leg attempt log).today = desk.today := by
  unfold PtpDesk.deliver
  split <;> rfl

theorem PtpDesk.deliver_phoneOf (desk : PtpDesk) (id : ℕ) (leg : Leg) (attempt : SmsAttempt)
    (log : SmsLog) (ptp : PromiseToPay) :
    (desk.deliver id leg attempt log).phoneOf ptp = desk.phoneOf ptp := by
  unfold PtpDesk.deliver
  split <;> rfl

/-- A promise stays due while the loop is at another one, on the same day. -/
theorem PtpDesk.Due.remindOne (h : desk.Due id leg ptp) (hbinds : Binds keywords) {id' : ℕ}
    (hne : id ≠ id') : (desk.remindOne keywords attempts id').Due id leg ptp ∧
      (desk.remindOne keywords attempts id').today = desk.today := by
  obtain hsame | ⟨ptp', leg', log, -, -, hdeliver⟩ := desk.remindOne_cases hbinds id'
  · rw [hsame]
    exact ⟨h, rfl⟩
  · have htoday := desk.deliver_today id' leg' (attempts id') log
    rw [hdeliver]
    refine ⟨⟨?_, h.pending, ?_, h.unmarked, ?_⟩, htoday⟩
    · rw [desk.deliver_promises hne, h.row]
    · rw [htoday, h.date]
    · rw [desk.deliver_phoneOf, h.phone]

theorem PtpDesk.Due.rows (h : desk.Due id leg ptp) (hbinds : Binds keywords) {rows : List ℕ}
    (hrows : id ∉ rows) :
    (rows.foldl (PtpDesk.remindOne keywords attempts) desk).Due id leg ptp ∧
      (rows.foldl (PtpDesk.remindOne keywords attempts) desk).today = desk.today := by
  induction rows generalizing desk with
  | nil => exact ⟨h, rfl⟩
  | cons id' rows ih =>
    rw [List.mem_cons, not_or] at hrows
    have hnext : (desk.remindOne keywords attempts id').Due id leg ptp ∧
        (desk.remindOne keywords attempts id').today = desk.today :=
      h.remindOne hbinds hrows.1
    obtain ⟨hdue, htoday⟩ := hnext
    obtain ⟨hdue', htoday'⟩ := ih hdue hrows.2
    exact ⟨hdue', htoday'.trans htoday⟩

theorem PtpDesk.Due.mem_dueRows (h : desk.Due id leg ptp) : id ∈ desk.dueRows := by
  have hdate : ptp.ptpDate = desk.today.next ∨ ptp.ptpDate = desk.today.previous := by
    cases leg with
    | dMinus1 => exact .inl h.date
    | dPlus1 => exact .inr h.date
  have hlt := (List.getElem?_eq_some_iff.mp h.row).1
  refine List.mem_filter.mpr ⟨List.mem_range.mpr hlt, ?_⟩
  rw [h.row]
  simp [h.pending, hdate]

/-- A run of the job hands over the message about each promise that is due. -/
theorem PtpDesk.Due.handed (h : desk.Due id leg ptp) (hbinds : Binds keywords)
    (hgood : (attempts id).raises = false) :
    ∃ extra, (desk.remindersWith keywords attempts).dispatched = desk.dispatched ++ extra ∧
      (⟨id, leg, desk.today⟩ : Dispatch) ∈ extra := by
  obtain ⟨first, last, hrows, hfirst⟩ := List.eq_append_cons_of_mem h.mem_dueRows
  have hreached : (first.foldl (PtpDesk.remindOne keywords attempts) desk).Due id leg ptp ∧
      (first.foldl (PtpDesk.remindOne keywords attempts) desk).today = desk.today :=
    h.rows hbinds hfirst
  obtain ⟨hdue, htoday⟩ := hreached
  have hsent : ∃ log, (first.foldl (PtpDesk.remindOne keywords attempts) desk).remindOne keywords
      attempts id = (first.foldl (PtpDesk.remindOne keywords attempts) desk).deliver id leg
        (attempts id) log :=
    PtpDesk.remindOne_of_due hbinds hdue
  obtain ⟨log, hdeliver⟩ := hsent
  obtain ⟨before, hbefore, -⟩ := SentMarked.rows hbinds id leg hgood desk first
  obtain ⟨after, hafter, -⟩ := SentMarked.rows hbinds id leg hgood
    ((first.foldl (PtpDesk.remindOne keywords attempts) desk).remindOne keywords attempts id) last
  refine ⟨before ++ [⟨id, leg, desk.today⟩] ++ after, ?_, by simp⟩
  rw [PtpDesk.remindersWith, hrows, List.foldl_append, List.foldl_cons, hafter, hdeliver,
    PtpDesk.deliver_dispatched, hbefore, htoday]
  simp

/-- With keywords that bind, the markers do what they are for: every promise whose own attempts do
not fail is reminded once, whatever happens to the messages about the others. -/
theorem remindedOnce_of_binds (hbinds : Binds keywords) (desk : PtpDesk) (events : List PtpEvent)
    (id : ℕ) (hgood : ∀ attempts, .run attempts ∈ events → (attempts id).raises = false) :
    RemindedOnce keywords desk events id := by
  have hmost : ∀ leg day, (run (PtpDesk.stepWith keywords) desk events).dispatched.count
      ⟨id, leg, day⟩ ≤ desk.dispatched.count ⟨id, leg, day⟩ + 1 := by
    intro leg day
    obtain ⟨extra, hextra, hmark⟩ := SentMarked.run hbinds id leg events hgood desk
    have hone := Bool.toNat_le (((run (PtpDesk.stepWith keywords) desk events).promises[id]?).any
      fun ptp => decide (ptp.Marked leg))
    have hcount : extra.count ⟨id, leg, day⟩ ≤
        extra.countP (fun d => d.ptpId = id ∧ d.leg = leg) := by
      apply List.countP_mono_left
      intro d _ hd
      obtain rfl : d = ⟨id, leg, day⟩ := by simpa using hd
      simp
    rw [hextra, List.count_append]
    rw [PtpDesk.mark, PtpDesk.mark] at hmark
    omega
  refine ⟨fun pre attempts post hevents leg ptp hdue => ?_, hmost⟩
  have hle := hmost leg (run (PtpDesk.stepWith keywords) desk pre).today
  obtain ⟨before, hbefore, -⟩ := SentMarked.run hbinds id leg pre
    (fun attempts h => hgood attempts (by simp [hevents, h])) desk
  obtain ⟨handed, hhanded, hmem⟩ := hdue.handed hbinds (hgood attempts (by simp [hevents]))
  obtain ⟨after, hafter, -⟩ := SentMarked.run hbinds id leg post
    (fun attempts h => hgood attempts (by simp [hevents, h]))
    ((run (PtpDesk.stepWith keywords) desk pre).stepWith keywords (.run attempts))
  have hfinal : (run (PtpDesk.stepWith keywords) desk events).dispatched =
      desk.dispatched ++ before ++ handed ++ after := by
    rw [hevents, run_append, run_cons, hafter, PtpDesk.stepWith, hhanded, hbefore]
  have hone := List.count_pos_iff.mpr hmem
  rw [hfinal] at hle ⊢
  simp only [List.count_append] at hle ⊢
  omega

end Loop

/-- The keyword of the job is no parameter of `send_sms`. -/
theorem reminderKeywords_unbound (positional : List PyValue) :
    sendSmsSignature.bind positional reminderKeywords = none :=
  sendSmsSignature.bind_eq_none_of_unknown (List.mem_singleton_self _) fun hmem =>
    absurd (List.mem_of_mem_drop hmem) (by decide)

theorem PtpDesk.remindOne_eq_self (attempts : ℕ → SmsAttempt) (desk : PtpDesk) (id : ℕ) :
    desk.remindOne reminderKeywords attempts id = desk := by
  unfold PtpDesk.remindOne
  simp only [reminderKeywords_unbound]
  repeat' split
  all_goals rfl

/-- A run of the job changes nothing and sends nothing. -/
theorem PtpDesk.runPtpReminders_eq_self (attempts : ℕ → SmsAttempt) (desk : PtpDesk) :
    desk.runPtpReminders attempts = desk := by
  have hfold (rows : List ℕ) :
      rows.foldl (PtpDesk.remindOne reminderKeywords attempts) desk = desk := by
    induction rows with
    | nil => rfl
    | cons id rows ih => rw [List.foldl_cons, desk.remindOne_eq_self attempts id, ih]
  exact hfold desk.dueRows

theorem run_dispatched (desk : PtpDesk) (events : List PtpEvent) :
    (run (PtpDesk.stepWith reminderKeywords) desk events).dispatched = desk.dispatched := by
  induction events generalizing desk with
  | nil => rfl
  | cons event events ih =>
    rw [run_cons, ih]
    cases event with
    | run attempts => exact congrArg PtpDesk.dispatched (desk.runPtpReminders_eq_self attempts)
    | _ => rfl

/-- Whenever the job runs, no promise of a client with a phone is pending with its date on the day
after or the day before. -/
def NothingDue (desk : PtpDesk) (events : List PtpEvent) : Prop :=
  ∀ pre attempts post, events = pre ++ .run attempts :: post → ∀ id leg ptp,
    ¬(run (PtpDesk.stepWith reminderKeywords) desk pre).Due id leg ptp

/-- The reminders are sent once each exactly in the runs in which none is due. -/
theorem reminders_sent_once_iff (desk : PtpDesk) (events : List PtpEvent) :
    (∀ id, RemindedOnce reminderKeywords desk events id) ↔ NothingDue desk events := by
  constructor
  · intro h pre attempts post hevents id leg ptp hdue
    have honce := (h id).1 pre attempts post hevents leg ptp hdue
    rw [run_dispatched] at honce
    omega
  · intro h id
    refine ⟨fun pre attempts post hevents leg ptp hdue => ?_, fun leg day => ?_⟩
    · exact absurd hdue (h pre attempts post hevents id leg ptp)
    · rw [run_dispatched]
      exact Nat.le_succ _

/-- One promise of 500.00, due on the day after. -/
def dueTomorrow : PtpDesk where
  today := date 2026 3 2
  borrowers := [⟨1, some "0712345678"⟩]
  promises := [⟨1, 0, date 2026 3 3, 50000, "pending", []⟩]
  smsLogs := []
  dispatched := []

/-- Every message goes out and is kept. -/
def allSent : ℕ → SmsAttempt := fun _ =>
  { result := ⟨"sent", some "uwazii", none, none, none⟩, rate := none, now := 0, raises := false }

/-- The promise is due, and a run of the job with a provider that takes everything sends nothing. -/
theorem reminder_never_sent :
    dueTomorrow.Due 0 .dMinus1 ⟨1, 0, date 2026 3 3, 50000, "pending", []⟩ ∧
      (dueTomorrow.runPtpReminders allSent).dispatched = [] ∧
      ¬RemindedOnce reminderKeywords dueTomorrow [.run allSent] 0 := by
  have hdue : dueTomorrow.Due 0 .dMinus1 ⟨1, 0, date 2026 3 3, 50000, "pending", []⟩ :=
    ⟨rfl, rfl, by decide, by decide, by decide⟩
  refine ⟨hdue, by rw [dueTomorrow.runPtpReminders_eq_self]; rfl, fun h => ?_⟩
  have honce := h.1 [] allSent [] rfl .dMinus1 _ hdue
  rw [run_dispatched] at honce
  omega

end FinylDcp
