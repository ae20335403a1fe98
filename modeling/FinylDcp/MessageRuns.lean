import FinylDcp.MessageDesk

/-!
# What a tenant's messages come to

Runs of the message desk. A reminder goes to a number unless the last that its tenant's register
was told of it, in whatever spelling, is that it opted out; what a message cost stays on its row,
and is a price of at most a minute before.
-/
namespace FinylDcp
open Runs Tables

/-- What an event tells the register of a number. -/
def MessageEvent.registerChange (tenantId : ℕ) (number : String) : MessageEvent → Option Bool
  | .addOptOut t phone _ => if t = tenantId ∧ normalisePhone phone = number then some true else none
  | .removeOptOut t phone =>
    if t = tenantId ∧ normalisePhone phone = number then some false else none
  | _ => none

/-- The wording that an event gives a tenant's template. -/
def MessageEvent.templateChange (tenantId : ℕ) (eventKey : String) :
    MessageEvent → Option (String × Bool)
  | .upsertTemplate t key body active =>
    if (t, key) = (tenantId, eventKey) ∧ eventKeys.contains key = true ∧ Text.strip body ≠ "" then
      some (body, active)
    else none
  | _ => none

/-- The last of what the events tell. -/
def lastOf {α : Type} (tells : MessageEvent → Option α) (es : List (ℤ × MessageEvent)) : Option α :=
  (es.filterMap (fun e => tells e.2)).getLast?

theorem lastOf_concat {α : Type} (tells : MessageEvent → Option α) (es : List (ℤ × MessageEvent))
    (e : ℤ × MessageEvent) : lastOf tells (es ++ [e]) = (tells e.2).or (lastOf tells es) := by
  unfold lastOf
  rw [List.filterMap_append]
  cases h : tells e.2 <;> simp [h]

section Steps

variable {isWord : Char → Bool} {desk : MessageDesk} {tenantId : ℕ}

theorem sendSms_rest {now : ℤ} {phone message triggerType : String} {result : ProviderResult} :
    (desk.sendSms now tenantId phone message triggerType result).templates = desk.templates ∧
      (desk.sendSms now tenantId phone message triggerType result).optOuts = desk.optOuts ∧
      (desk.sendSms now tenantId phone message triggerType result).cards = desk.cards := by
  unfold MessageDesk.sendSms
  split
  exact ⟨rfl, rfl, rfl⟩

theorem fire_rest {now : ℤ} {phone eventKey triggerType : String}
    {context : String → Option String} {result : ProviderResult} :
    (desk.fire isWord now tenantId phone eventKey context triggerType result).templates =
        desk.templates ∧
      (desk.fire isWord now tenantId phone eventKey context triggerType result).optOuts =
        desk.optOuts ∧
      (desk.fire isWord now tenantId phone eventKey context triggerType result).cards =
        desk.cards := by
  unfold MessageDesk.fire
  dsimp only
  split_ifs
  · exact ⟨rfl, rfl, rfl⟩
  · exact ⟨rfl, rfl, rfl⟩
  · exact sendSms_rest

theorem handleDlr_rest {now : ℤ} {ref status : String} :
    (desk.handleDlr now ref status).templates = desk.templates ∧
      (desk.handleDlr now ref status).optOuts = desk.optOuts ∧
      (desk.handleDlr now ref status).cards = desk.cards ∧
      (desk.handleDlr now ref status).cache = desk.cache := by
  unfold MessageDesk.handleDlr
  split
  · exact ⟨rfl, rfl, rfl, rfl⟩
  · split
    · exact ⟨rfl, rfl, rfl, rfl⟩
    · exact ⟨rfl, rfl, rfl, rfl⟩

theorem isOptedOut_step (e : ℤ × MessageEvent) (phone : String) :
    (desk.step isWord e).isOptedOut tenantId phone =
      (e.2.registerChange tenantId (normalisePhone phone)).getD
        (desk.isOptedOut tenantId phone) := by
  have hsame {desk' : MessageDesk} (h : desk'.optOuts = desk.optOuts) :
      desk'.isOptedOut tenantId phone = desk.isOptedOut tenantId phone := by
    unfold MessageDesk.isOptedOut
    rw [h]
  obtain ⟨now, event⟩ := e
  cases event with
  | priced cards => rfl
  | upsertTemplate t key body active =>
    refine hsame ?_
    simp only [MessageDesk.step, MessageDesk.upsertTemplate]
    split_ifs <;> rfl
  | addOptOut t other source =>
    simp only [MessageDesk.step, MessageDesk.addOptOut, MessageDesk.isOptedOut,
      MessageEvent.registerChange, KeyTable.get?_write, SmsOptOut.key, Prod.mk.injEq]
    split_ifs
    · rfl
    · rfl
  | removeOptOut t other =>
    simp only [MessageDesk.step, MessageDesk.removeOptOut, MessageEvent.registerChange]
    cases hrow : desk.optOuts.get? (t, normalisePhone other) with
    | none =>
      by_cases hmine : t = tenantId ∧ normalisePhone other = normalisePhone phone
      · obtain ⟨rfl, hnumber⟩ := hmine
        rw [hnumber] at hrow
        simp [MessageDesk.isOptedOut, hrow, hnumber]
      · rw [if_neg hmine]
        rfl
    | some o =>
      obtain ⟨-, hkey⟩ := KeyTable.get?_eq_some.mp hrow
      have hkey' : SmsOptOut.key { o with active := false } = (t, normalisePhone other) := hkey
      simp only [Option.map_some, Option.getD_some, MessageDesk.isOptedOut, KeyTable.get?_write,
        hkey', Prod.mk.injEq]
      split_ifs
      · rfl
      · rfl
  | fire t other key context triggerType result => exact hsame fire_rest.2.1
  | sendSms t other message triggerType result => exact hsame sendSms_rest.2.1
  | dlr ref status => exact hsame handleDlr_rest.2.1

theorem getTemplate_step (e : ℤ × MessageEvent) (eventKey : String) :
    (desk.step isWord e).getTemplate tenantId eventKey =
      (e.2.templateChange tenantId eventKey).getD (desk.getTemplate tenantId eventKey) := by
  have hsame {desk' : MessageDesk} (h : desk'.templates = desk.templates) :
      desk'.getTemplate tenantId eventKey = desk.getTemplate tenantId eventKey := by
    unfold MessageDesk.getTemplate
    rw [h]
  obtain ⟨now, event⟩ := e
  cases event with
  | priced cards => rfl
  | upsertTemplate t key body active =>
    simp only [MessageDesk.step, MessageDesk.upsertTemplate, MessageEvent.templateChange]
    by_cases hkey : eventKeys.contains key = true
    · by_cases hbody : Text.strip body = ""
      · simp [hbody]
      · have hwritten : (t, key) = SmsTemplate.key ⟨t, key, body, active⟩ := rfl
        simp only [hkey, hbody, Bool.not_true, Bool.false_eq_true, if_false, Option.getD_some,
          MessageDesk.getTemplate, KeyTable.get?_write, ← hwritten, and_true, ne_eq,
          not_false_eq_true]
        split_ifs
        · rfl
        · rfl
    · have hrefused : eventKeys.contains key = false := Bool.eq_false_iff.mpr hkey
      simp only [hrefused, Bool.not_false, if_true, Option.getD_none, Bool.false_eq_true,
        false_and, and_false, if_false]
  | addOptOut t other source => exact hsame rfl
  | removeOptOut t other =>
    refine hsame ?_
    simp only [MessageDesk.step, MessageDesk.removeOptOut]
    cases desk.optOuts.get? (t, normalisePhone other) <;> rfl
  | fire t other key context triggerType result => exact hsame fire_rest.1
  | sendSms t other message triggerType result => exact hsame sendSms_rest.1
  | dlr ref status => exact hsame handleDlr_rest.1

end Steps

section Register

variable {isWord : Char → Bool} {cards : List SmsRateCard} (es : List (ℤ × MessageEvent))

/-- A number is opted out where that is the last that the register was told. -/
theorem isOptedOut_run (tenantId : ℕ) (phone : String) :
    (run (MessageDesk.step isWord) (.opening cards) es).isOptedOut tenantId phone =
      (lastOf (MessageEvent.registerChange tenantId (normalisePhone phone)) es).getD false := by
  induction es using List.reverseRecOn with
  | nil => rfl
  | append_singleton es e ih =>
    rw [run_concat, isOptedOut_step, ih, lastOf_concat]
    cases e.2.registerChange tenantId (normalisePhone phone) <;> rfl

/-- A tenant's wording is the last that was accepted, and else the one of the service. -/
theorem getTemplate_run (tenantId : ℕ) (eventKey : String) :
    (run (MessageDesk.step isWord) (.opening cards) es).getTemplate tenantId eventKey =
      (lastOf (MessageEvent.templateChange tenantId eventKey) es).getD
        (defaultBody eventKey, true) := by
  induction es using List.reverseRecOn with
  | nil => rfl
  | append_singleton es e ih =>
    rw [run_concat, getTemplate_step, ih, lastOf_concat]
    cases e.2.templateChange tenantId eventKey <;> rfl

end Register

/-- A message of the lifecycle goes out unless its tenant has switched it off, or it is a reminder
to a number that the register was last told has opted out; it then has the tenant's wording. -/
theorem opt_outs_respected (isWord : Char → Bool) (cards : List SmsRateCard)
    (es : List (ℤ × MessageEvent)) (now : ℤ) (tenantId : ℕ) (phone eventKey triggerType : String)
    (context : String → Option String) (result : ProviderResult) :
    let desk := run (MessageDesk.step isWord) (.opening cards) es
    let after := desk.step isWord
      (now, .fire tenantId phone eventKey context triggerType result)
    let wording := (lastOf (MessageEvent.templateChange tenantId eventKey) es).getD
      (defaultBody eventKey, true)
    let barred := wording.2 = false ∨ eventKey ∈ suppressibleEvents ∧
      lastOf (MessageEvent.registerChange tenantId (normalisePhone phone)) es = some true
    (barred → after = desk) ∧
      (¬ barred → ∃ row, after.rows = desk.rows ++ [row] ∧ row.log.tenantId = (tenantId : ℤ) ∧
        row.log.message = renderBody isWord context wording.1 ∧
        row.log.triggerType = triggerType ∧ row.log.result = result ∧ row.log.sentAt = now) := by
  intro desk after wording barred
  have hwording : desk.getTemplate tenantId eventKey = wording :=
    getTemplate_run es tenantId eventKey
  have hout : desk.isOptedOut tenantId phone = true ↔
      lastOf (MessageEvent.registerChange tenantId (normalisePhone phone)) es = some true := by
    rw [isOptedOut_run]
    cases lastOf (MessageEvent.registerChange tenantId (normalisePhone phone)) es <;> simp
  have hafter : after = desk.fire isWord now tenantId phone eventKey context triggerType result :=
    rfl
  rw [hafter, MessageDesk.fire, hwording]
  constructor
  · rintro (hoff | ⟨hkey, hlast⟩)
    · simp [hoff]
    · have hsuppressed : (suppressibleEvents.contains eventKey &&
          desk.isOptedOut tenantId phone) = true := by
        simp [hout.mpr hlast, hkey]
      dsimp only
      split_ifs
      · rfl
      · rfl
  · intro hopen
    obtain ⟨hon, hkept⟩ := not_or.mp hopen
    have hsent : (suppressibleEvents.contains eventKey &&
        desk.isOptedOut tenantId phone) = false := by
      rw [Bool.eq_false_iff]
      intro h
      obtain ⟨hkey, hlast⟩ := Bool.and_eq_true_iff.mp h
      exact hkept ⟨by simpa using hkey, hout.mp hlast⟩
    have hactive : wording.2 = true := by simpa using hon
    simp only [hactive, hsent, Bool.not_true, Bool.false_eq_true, if_false]
    exact ⟨_, rfl, rfl, rfl, rfl, rfl, rfl⟩

/-- The rate that a card gives at a moment of a run. -/
def rateAt (isWord : Char → Bool) (cards : List SmsRateCard) (es : List (ℤ × MessageEvent)) :
    Option SmsRate :=
  (activeCard (run (MessageDesk.step isWord) (.opening cards) es).cards).map (·.rate)

/-- The rate was in force at an event of the run. -/
def InForce (isWord : Char → Bool) (cards : List SmsRateCard) (es : List (ℤ × MessageEvent))
    (rate : Option SmsRate) (t : ℤ) : Prop :=
  ∃ before event later, es = before ++ event :: later ∧ rateAt isWord cards before = rate ∧
    event.1 = t

/-- What a row of a run says of its price. -/
structure Priced (isWord : Char → Bool) (cards : List SmsRateCard)
    (es : List (ℤ × MessageEvent)) (log : SmsLog) : Prop where
  billable : log.billable = true ↔ log.result.status = "sent"
  unsent : log.result.status ≠ "sent" → log.rate = none
  fresh : ∀ rate, log.rate = some rate →
    ∃ t, InForce isWord cards es (some rate) t ∧ log.sentAt - t < rateTtl
  free : log.result.status = "sent" → log.rate = none → InForce isWord cards es none log.sentAt

section Prices

variable {isWord : Char → Bool} {cards : List SmsRateCard} {es : List (ℤ × MessageEvent)}
  {desk : MessageDesk}

theorem InForce.extend {rate : Option SmsRate} {t : ℤ} {more : List (ℤ × MessageEvent)}
    (h : InForce isWord cards es rate t) : InForce isWord cards (es ++ more) rate t := by
  obtain ⟨before, event, later, rfl, hrate, ht⟩ := h
  exact ⟨before, event, later ++ more, by simp, hrate, ht⟩

theorem Priced.extend {log : SmsLog} {more : List (ℤ × MessageEvent)}
    (h : Priced isWord cards es log) : Priced isWord cards (es ++ more) log where
  billable := h.billable
  unsent := h.unsent
  fresh rate hrate := by
    obtain ⟨t, hforce, hlt⟩ := h.fresh rate hrate
    exact ⟨t, hforce.extend, hlt⟩
  free hsent hnone := (h.free hsent hnone).extend

/-- A rate comes from the cache, which is less than a minute old, or from the cards. -/
theorem getActiveRate_cases (cards : List SmsRateCard) (cache : RateCache) (now : ℤ) :
    (now - cache.fetchedAt < rateTtl ∧ cache.rate.isSome = true ∧
      getActiveRate cards cache now = (cache.rate, cache)) ∨
    (∃ card, activeCard cards = some card ∧
      getActiveRate cards cache now = (some card.rate, ⟨some card.rate, now⟩)) ∨
    (activeCard cards = none ∧ getActiveRate cards cache now = (none, cache)) := by
  unfold getActiveRate
  split_ifs with hcached
  · exact .inl ⟨hcached.2, hcached.1, rfl⟩
  · cases hcard : activeCard cards with
    | some card => exact .inr (.inl ⟨card, rfl, rfl⟩)
    | none => exact .inr (.inr ⟨rfl, rfl⟩)

/-- An event that sends nothing leaves what was sent, and the cache. -/
theorem desk_step (e : ℤ × MessageEvent) :
    ((desk.step isWord e).rows.map (·.log) = desk.rows.map (·.log) ∧
      (desk.step isWord e).cache = desk.cache) ∨
    ∃ tenantId phone message triggerType result,
      desk.step isWord e = desk.sendSms e.1 tenantId phone message triggerType result := by
  obtain ⟨now, event⟩ := e
  cases event with
  | priced cards => exact .inl ⟨rfl, rfl⟩
  | upsertTemplate t key body active =>
    left
    simp only [MessageDesk.step, MessageDesk.upsertTemplate]
    split_ifs <;> exact ⟨rfl, rfl⟩
  | addOptOut t other source => exact .inl ⟨rfl, rfl⟩
  | removeOptOut t other =>
    left
    simp only [MessageDesk.step, MessageDesk.removeOptOut]
    cases desk.optOuts.get? (t, normalisePhone other) <;> exact ⟨rfl, rfl⟩
  | fire t other key context triggerType result =>
    simp only [MessageDesk.step, MessageDesk.fire]
    split_ifs
    · exact .inl ⟨rfl, rfl⟩
    · exact .inl ⟨rfl, rfl⟩
    · exact .inr ⟨t, other, _, triggerType, result, rfl⟩
  | sendSms t other message triggerType result =>
    exact .inr ⟨t, other, message, triggerType, result, rfl⟩
  | dlr ref status =>
    left
    refine ⟨?_, handleDlr_rest.2.2.2⟩
    simp only [MessageDesk.step, MessageDesk.handleDlr]
    split
    · rfl
    · split
      · rfl
      · refine List.ext_getElem? fun j => ?_
        rw [List.getElem?_map, List.getElem?_map, List.getElem?_modify]
        cases desk.rows[j]? with
        | none => rfl
        | some row =>
          simp only [Option.map_eq_map, Option.map_some]
          split_ifs <;> rfl

/-- The row of a message that was handed to the provider. -/
theorem sendSms_log (now : ℤ) (tenantId : ℕ) (phone message triggerType : String)
    (result : ProviderResult) :
    ∃ log, (desk.sendSms now tenantId phone message triggerType result).rows.map (·.log) =
        desk.rows.map (·.log) ++ [log] ∧
      log.sentAt = now ∧ log.result = result ∧ log.billable = decide (result.status = "sent") ∧
      (result.status ≠ "sent" → log.rate = none ∧
        (desk.sendSms now tenantId phone message triggerType result).cache = desk.cache) ∧
      (result.status = "sent" →
        (log.rate, (desk.sendSms now tenantId phone message triggerType result).cache) =
          getActiveRate desk.cards desk.cache now) := by
  unfold MessageDesk.sendSms
  by_cases hsent : result.status = "sent"
  · simp [hsent, FinylDcp.sendSms]
  · simp [hsent, FinylDcp.sendSms]

/-- The cached rate was in force when it was looked up. -/
def CacheInForce (isWord : Char → Bool) (cards : List SmsRateCard)
    (es : List (ℤ × MessageEvent)) (cache : RateCache) : Prop :=
  ∀ rate, cache.rate = some rate → InForce isWord cards es (some rate) cache.fetchedAt

theorem CacheInForce.extend {cache : RateCache} {more : List (ℤ × MessageEvent)}
    (h : CacheInForce isWord cards es cache) : CacheInForce isWord cards (es ++ more) cache :=
  fun rate hrate => (h rate hrate).extend

/-- A rate that is asked for was in force less than a minute before, or none is now. -/
theorem getActiveRate_inForce {e : ℤ × MessageEvent} {rate : Option SmsRate} {cache : RateCache}
    (hcache : CacheInForce isWord cards es
      (run (MessageDesk.step isWord) (.opening cards) es).cache)
    (hget : (rate, cache) = getActiveRate
      (run (MessageDesk.step isWord) (.opening cards) es).cards
      (run (MessageDesk.step isWord) (.opening cards) es).cache e.1) :
    CacheInForce isWord cards (es ++ [e]) cache ∧
      (∀ r, rate = some r →
        ∃ t, InForce isWord cards (es ++ [e]) (some r) t ∧ e.1 - t < rateTtl) ∧
      (rate = none → InForce isWord cards (es ++ [e]) none e.1) := by
  have hnow : InForce isWord cards (es ++ [e]) (rateAt isWord cards es) e.1 :=
    ⟨es, e, [], rfl, rfl, rfl⟩
  obtain ⟨hfresh, hcached, heq⟩ | ⟨card, hcard, heq⟩ | ⟨hnocard, heq⟩ :=
    getActiveRate_cases (run (MessageDesk.step isWord) (.opening cards) es).cards
      (run (MessageDesk.step isWord) (.opening cards) es).cache e.1
  · obtain ⟨rfl, rfl⟩ := Prod.mk.inj (hget.trans heq)
    refine ⟨hcache.extend, fun r hr => ⟨_, (hcache r hr).extend, hfresh⟩, fun hnone => ?_⟩
    rw [hnone] at hcached
    nomatch hcached
  · obtain ⟨rfl, rfl⟩ := Prod.mk.inj (hget.trans heq)
    rw [rateAt, hcard] at hnow
    refine ⟨fun r hr => ?_, fun r hr => ⟨e.1, ?_, ?_⟩, nofun⟩
    · exact hr ▸ hnow
    · exact hr ▸ hnow
    · rw [sub_self]
      decide
  · obtain ⟨rfl, rfl⟩ := Prod.mk.inj (hget.trans heq)
    rw [rateAt, hnocard] at hnow
    exact ⟨hcache.extend, nofun, fun _ => hnow⟩

/-- The cached rate was in force when it was looked up, and each row has its price. -/
theorem priced_run (es : List (ℤ × MessageEvent)) :
    CacheInForce isWord cards es (run (MessageDesk.step isWord) (.opening cards) es).cache ∧
    ∀ log ∈ (run (MessageDesk.step isWord) (.opening cards) es).rows.map (·.log),
      Priced isWord cards es log := by
  induction es using List.reverseRecOn with
  | nil => exact ⟨nofun, nofun⟩
  | append_singleton es e ih =>
    obtain ⟨hcache, hrows⟩ := ih
    rw [run_concat]
    obtain ⟨hlogs, hsame⟩ | ⟨tenantId, phone, message, triggerType, result, hstep⟩ :=
      @desk_step isWord (run (MessageDesk.step isWord) (.opening cards) es) e
    · rw [hlogs, hsame]
      exact ⟨hcache.extend, fun log h => (hrows log h).extend⟩
    obtain ⟨log, hlogs, htime, hresult, hbillable, hunsent, hsent⟩ :=
      @sendSms_log (run (MessageDesk.step isWord) (.opening cards) es) e.1 tenantId phone message
        triggerType result
    have hbilled : log.billable = true ↔ log.result.status = "sent" := by
      rw [hbillable, hresult, decide_eq_true_eq]
    rw [hstep, hlogs]
    suffices h : CacheInForce isWord cards (es ++ [e]) (MessageDesk.sendSms
        (run (MessageDesk.step isWord) (.opening cards) es) e.1 tenantId phone message triggerType
        result).cache ∧ Priced isWord cards (es ++ [e]) log by
      refine ⟨h.1, fun l hl => ?_⟩
      obtain hold | hnew := List.mem_append.mp hl
      · exact (hrows l hold).extend
      · exact List.mem_singleton.mp hnew ▸ h.2
    by_cases hstatus : result.status = "sent"
    · obtain ⟨hkept, hfresh, hfree⟩ := getActiveRate_inForce hcache (hsent hstatus)
      exact ⟨hkept, hbilled, fun h => absurd (hresult ▸ hstatus) h, htime ▸ hfresh,
        fun _ hnone => htime ▸ hfree hnone⟩
    · obtain ⟨hnone, hsame⟩ := hunsent hstatus
      rw [hsame]
      exact ⟨hcache.extend, hbilled, fun _ => hnone, fun rate h => by simp [hnone] at h,
        fun h => absurd (hresult ▸ h) hstatus⟩

/-- Whatever becomes of the cards, each message that went out is billed at a rate that was in
force less than a minute before, or at none where none was, and no other message is billed. -/
theorem messages_priced (isWord : Char → Bool) (cards : List SmsRateCard)
    (es : List (ℤ × MessageEvent)) :
    ∀ row ∈ (run (MessageDesk.step isWord) (.opening cards) es).rows,
      Priced isWord cards es row.log :=
  fun _ hrow => (priced_run es).2 _ (List.mem_map_of_mem hrow)

end Prices

/-- A message ten seconds after its card. -/
theorem messages_priced_ten_seconds :
    let es : List (ℤ × MessageEvent) := [(0, .priced [⟨80, 50, 0, true⟩]),
      (10000000, .sendSms 1 "0712345678" "Habari" "manual"
        ⟨"sent", some "uwazii", some "77", none, none⟩)]
    ∃ log, Priced isWordAscii [] es log ∧ log.billable = true ∧
      log.rate.map (·.sellPrice) = some 80 :=
  ⟨_, messages_priced isWordAscii [] _ _ List.mem_cons_self, by decide +kernel, by decide +kernel⟩

end FinylDcp
