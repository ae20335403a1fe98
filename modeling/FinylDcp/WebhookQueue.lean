import FinylDcp.Schema
import FinylDcp.Runs
import Mathlib.Data.List.Sort
import Mathlib.Data.List.Nodup

/-!
# The durable webhook queue

A delivery is recorded as `received` in a transaction of its own before it is processed,
and its outcome is marked in another one after: `processed`, or `failed` with the time of
the next attempt, or `dead` once the attempts are used up. The retry worker picks the
failed events whose time has come. What the processors do to the database, and what
else happens to it, is left open here.
-/
namespace FinylDcp
open Runs Text

inductive ProcessingStatus
  | received | processed | failed | dead
  deriving DecidableEq, Repr

structure MpesaWebhookEvent (β : Type) where
  tenantId : Option ℕ
  endpoint : String
  shortcode : Option String
  receivedAt : ℤ
  processedAt : Option ℤ
  rawPayload : Option β
  processingStatus : ProcessingStatus
  attempts : ℕ
  lastError : Option String
  nextRetryAt : Option ℤ
  deriving DecidableEq, Repr

/-- The `WEBHOOK_` settings. -/
structure WebhookSettings where
  maxAttempts : ℤ
  retryBaseSeconds : ℤ
  rawRetentionHours : ℤ
  deriving DecidableEq, Repr

/-- The attempts an event gets: at least one. -/
def WebhookSettings.attemptLimit (settings : WebhookSettings) : ℕ :=
  (max 1 settings.maxAttempts).toNat

theorem WebhookSettings.one_le_attemptLimit (settings : WebhookSettings) :
    1 ≤ settings.attemptLimit := by
  simp only [attemptLimit]
  omega

/-- Exponential backoff, capped at one hour. -/
def backoffSeconds (settings : WebhookSettings) (attempts : ℕ) : ℤ :=
  min (max 1 settings.retryBaseSeconds * 2 ^ (attempts - 1)) 3600

/-- `repr` of a text: in single quotes, or in double ones where only single ones occur in it. -/
def reprText (text : String) : String :=
  let single := Char.ofNat 39
  let double := Char.ofNat 34
  let backslash := Char.ofNat 92
  let quote := if text.toList.contains single && !text.toList.contains double then double
    else single
  let escape (c : Char) : List Char :=
    if c = backslash || c = quote then [backslash, c]
    else if c = '\n' then [backslash, 'n']
    else if c = '\r' then [backslash, 'r']
    else if c = '\t' then [backslash, 't']
    else [c]
  String.ofList (quote :: text.toList.flatMap escape ++ [quote])

/-- The error text of an attempt that did not complete. Of what the database says only the index
is kept. -/
def Failure.errorText : Failure → String
  | .unresolved why => s!"unresolved: {why}"
  | .valueError message =>
    let message := reprText message
    s!"ValueError({message})"
  | .http status detail =>
    let detail := reprText detail
    s!"HTTPException(status_code={status}, detail={detail})"
  | .integrity index => s!"IntegrityError({index})"
  | .crash message => message

section Events

variable {β : Type}

def recordEvent (events : List (MpesaWebhookEvent β)) (endpoint : String) (payload : β)
    (tenantId : Option ℕ) (shortcode : Option String) (now : ℤ) : List (MpesaWebhookEvent β) × ℕ :=
  (events ++ [⟨tenantId, endpoint, shortcode, now, none, some payload, .received, 0, none, none⟩],
    events.length)

def markProcessed (e : MpesaWebhookEvent β) (tenantId : Option ℕ) (now : ℤ) : MpesaWebhookEvent β :=
  { e with
    processingStatus := .processed
    processedAt := some now
    lastError := none
    nextRetryAt := none
    tenantId := e.tenantId <|> tenantId }

def markFailed (settings : WebhookSettings) (e : MpesaWebhookEvent β) (error : String) (now : ℤ) :
    MpesaWebhookEvent β :=
  let attempts := e.attempts + 1
  if settings.attemptLimit ≤ attempts then
    { e with
      attempts := attempts
      lastError := some (cut 2000 error)
      processingStatus := .dead
      nextRetryAt := none }
  else
    { e with
      attempts := attempts
      lastError := some (cut 2000 error)
      processingStatus := .failed
      nextRetryAt := some (now + backoffSeconds settings attempts) }

/-- Events in the order of their next attempt. -/
def retryBefore (a b : MpesaWebhookEvent β × ℕ) : Prop :=
  a.1.nextRetryAt.getD 0 ≤ b.1.nextRetryAt.getD 0

instance : DecidableRel (retryBefore (β := β)) := fun a b =>
  inferInstanceAs (Decidable (a.1.nextRetryAt.getD 0 ≤ b.1.nextRetryAt.getD 0))

instance : Std.Total (retryBefore (β := β)) := ⟨fun _ _ => le_total _ _⟩

instance : IsTrans _ (retryBefore (β := β)) := ⟨fun _ _ _ h h' => le_trans h h'⟩

/-- An event is due for another attempt. -/
def MpesaWebhookEvent.due (e : MpesaWebhookEvent β) (now : ℤ) : Bool :=
  e.processingStatus = .failed && e.nextRetryAt.any (fun t => t ≤ now)

/-- The batch of a retry pass: the hundred events that are due for longest. -/
def dueEvents (events : List (MpesaWebhookEvent β)) (now : ℤ) : List ℕ :=
  (((events.zipIdx.filter (fun x => x.1.due now)).insertionSort retryBefore).take 100).map (·.2)

/-- The processed events whose payload is past its retention. -/
def purgePayloads (settings : WebhookSettings) (events : List (MpesaWebhookEvent β)) (now : ℤ) :
    List (MpesaWebhookEvent β) :=
  let cutoff := now - max 1 settings.rawRetentionHours * 3600
  let stale := ((events.zipIdx.filter (fun x => x.1.processingStatus = .processed &&
    x.1.rawPayload.isSome && x.1.receivedAt ≤ cutoff)).take 1000).map (·.2)
  events.mapIdx (fun i e => if i ∈ stale then { e with rawPayload := none } else e)

end Events

/-- The processors by endpoint: from the database and a body to a new database and the
tenant, or a failure that is rolled back. `noBody` stands in for a payload that is gone. -/
structure Processors (σ β : Type) where
  lookup : String → Option (σ → β → String → ℤ → Except Failure (σ × Option ℕ))
  noBody : β

/-- The database and the events; which events a handler is working on, and which are left
in the retry pass. Of the past: the recorded events no outcome was marked for yet, and one
entry for each failed attempt. -/
structure WebhookQueue (σ β : Type) where
  db : σ
  events : List (MpesaWebhookEvent β)
  handling : List ℕ
  pass : List ℕ
  unmarked : List ℕ
  failures : List ℕ

inductive QueueStep (σ β : Type)
  | record (endpoint : String) (payload : β) (tenantId : Option ℕ) (shortcode : Option String)
      (now : ℤ)
  | finish (id : ℕ) (markError : Option String) (freshRef : String) (now : ℤ)
  | cutShort (id : ℕ) (freshRef : String) (now : ℤ)
  | beginPass (now : ℤ)
  | retry (markError : Option String) (freshRef : String) (now : ℤ)
  | skip (freshRef : String) (now : ℤ)
  | crash
  | purge (now : ℤ)
  | elsewhere (db : σ)

namespace WebhookQueue

variable {σ β : Type} (processors : Processors σ β) (settings : WebhookSettings)

/-- Nothing was delivered yet. -/
def start (db : σ) : WebhookQueue σ β := ⟨db, [], [], [], [], []⟩

/-- Run the processor of an event on its payload. -/
def process (db : σ) (e : MpesaWebhookEvent β) (freshRef : String) (now : ℤ) :
    Except Failure (σ × Option ℕ) :=
  match processors.lookup e.endpoint with
  | none => .error (.crash s!"no processor for endpoint {e.endpoint}")
  | some processor => processor db (e.rawPayload.getD processors.noBody) freshRef now

/-- Process an event and mark its outcome, which both the handler of a delivery and
`reprocess_event` do. Where the mark of a completed attempt raises, the attempt counts as
failed. -/
def attempt (s : WebhookQueue σ β) (id : ℕ) (markError : Option String) (freshRef : String)
    (now : ℤ) : WebhookQueue σ β :=
  match s.events[id]? with
  | none => s
  | some e =>
    match process processors s.db e freshRef now, markError with
    | .ok out, none => { s with
        db := out.1
        events := s.events.set id (markProcessed e out.2 now) }
    | .ok out, some error => { s with
        db := out.1
        events := s.events.set id (markFailed settings e error now)
        failures := s.failures ++ [id] }
    | .error failure, _ => { s with
        events := s.events.set id (markFailed settings e failure.errorText now)
        failures := s.failures ++ [id] }

/-- Process an event whose outcome is not marked. -/
def unmarkedAttempt (s : WebhookQueue σ β) (id : ℕ) (freshRef : String) (now : ℤ) :
    WebhookQueue σ β :=
  match s.events[id]? with
  | none => s
  | some e =>
    match process processors s.db e freshRef now with
    | .ok out => { s with db := out.1 }
    | .error _ => s

/-- The worker runs one pass at a time, and a pass goes on after an event it fails on. A
handler, or the whole process, can stop at any point. -/
def step (s : WebhookQueue σ β) : QueueStep σ β → WebhookQueue σ β
  | .record endpoint payload tenantId shortcode now =>
    let recorded := recordEvent s.events endpoint payload tenantId shortcode now
    { s with
      events := recorded.1
      handling := s.handling ++ [recorded.2]
      unmarked := s.unmarked ++ [recorded.2] }
  | .finish id markError freshRef now =>
    if id ∈ s.handling then
      { s.attempt processors settings id markError freshRef now with
        handling := s.handling.filter (· ≠ id)
        unmarked := s.unmarked.filter (· ≠ id) }
    else s
  | .cutShort id freshRef now =>
    if id ∈ s.handling then
      { s.unmarkedAttempt processors id freshRef now with handling := s.handling.filter (· ≠ id) }
    else s
  | .beginPass now => if s.pass = [] then { s with pass := dueEvents s.events now } else s
  | .retry markError freshRef now =>
    match s.pass with
    | [] => s
    | id :: rest => { s.attempt processors settings id markError freshRef now with pass := rest }
  | .skip freshRef now =>
    match s.pass with
    | [] => s
    | id :: rest => { s.unmarkedAttempt processors id freshRef now with pass := rest }
  | .crash => { s with handling := [], pass := [] }
  | .purge now => { s with events := purgePayloads settings s.events now }
  | .elsewhere db => { s with db := db }

end WebhookQueue

section Marks

variable {β : Type} {settings : WebhookSettings}

/-- An attempt leaves its event processed, or counts once more and leaves it failed with a
time for the next attempt while there is one, and dead after. -/
def MarkedAs (settings : WebhookSettings) (e e' : MpesaWebhookEvent β) (failed : Bool) : Prop :=
  (failed = false ∧ e'.processingStatus = .processed ∧ e'.attempts = e.attempts) ∨
  (failed = true ∧ e'.attempts = e.attempts + 1 ∧
    ((settings.attemptLimit ≤ e.attempts + 1 ∧ e'.processingStatus = .dead) ∨
      (e.attempts + 1 < settings.attemptLimit ∧ e'.processingStatus = .failed ∧
        e'.nextRetryAt ≠ none)))

theorem markFailed_markedAs (e : MpesaWebhookEvent β) (error : String) (now : ℤ) :
    MarkedAs settings e (markFailed settings e error now) true := by
  simp only [markFailed]
  by_cases hlimit : settings.attemptLimit ≤ e.attempts + 1
  · rw [if_pos hlimit]
    exact .inr ⟨rfl, rfl, .inl ⟨hlimit, rfl⟩⟩
  · rw [if_neg hlimit]
    exact .inr ⟨rfl, rfl, .inr ⟨by omega, rfl, Option.some_ne_none _⟩⟩

theorem MarkedAs.settled {e e' : MpesaWebhookEvent β} {failed : Bool}
    (h : MarkedAs settings e e' failed) : e'.processingStatus ≠ .received := by
  rcases h with ⟨-, hstatus, -⟩ | ⟨-, -, ⟨-, hstatus⟩ | ⟨-, hstatus, -⟩⟩ <;> rw [hstatus] <;> decide

/-- A purge takes payloads away and nothing else. -/
theorem purgePayloads_row {events : List (MpesaWebhookEvent β)} {now : ℤ} {i : ℕ}
    {e' : MpesaWebhookEvent β} (h : (purgePayloads settings events now)[i]? = some e') :
    ∃ e payload, events[i]? = some e ∧ e' = { e with rawPayload := payload } := by
  simp only [purgePayloads, List.getElem?_mapIdx, Option.map_eq_some_iff] at h
  obtain ⟨e, he, rfl⟩ := h
  split_ifs
  · exact ⟨e, none, he, rfl⟩
  · exact ⟨e, e.rawPayload, he, rfl⟩

variable (settings) in
theorem purgePayloads_length (events : List (MpesaWebhookEvent β)) (now : ℤ) :
    (purgePayloads settings events now).length = events.length := by
  simp only [purgePayloads, List.length_mapIdx]

theorem mem_dueEvents {events : List (MpesaWebhookEvent β)} {now : ℤ} {i : ℕ}
    (h : i ∈ dueEvents events now) : ∃ e, events[i]? = some e ∧ e.due now = true := by
  simp only [dueEvents, List.mem_map] at h
  obtain ⟨x, hx, rfl⟩ := h
  have hmem := (List.mem_insertionSort retryBefore).mp (List.mem_of_mem_take hx)
  rw [List.mem_filter] at hmem
  exact ⟨x.1, List.mem_zipIdx_iff_getElem?.mp hmem.1, hmem.2⟩

theorem dueEvents_nodup (events : List (MpesaWebhookEvent β)) (now : ℤ) :
    (dueEvents events now).Nodup := by
  have hids : (events.zipIdx.map (·.2)).Nodup := by
    rw [List.zipIdx_map_snd]
    exact List.nodup_range'
  have hperm := List.perm_insertionSort retryBefore (events.zipIdx.filter (fun x => x.1.due now))
  have hdue : ((events.zipIdx.filter (fun x => x.1.due now)).map (·.2)).Nodup :=
    hids.sublist (List.filter_sublist.map _)
  exact ((hperm.map (·.2)).nodup_iff.mpr hdue).sublist ((List.take_sublist _ _).map _)

end Marks

end FinylDcp
