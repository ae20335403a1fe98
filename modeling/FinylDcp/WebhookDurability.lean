import FinylDcp.PaymentWebhooks
import FinylDcp.WebhookQueue

/-!
# No recorded webhook is lost

An event counts its failed attempts, keeps some while it is failed, and is dead once it
has used them. The retry worker finds it by its status, so an event waits for a retry in
vain exactly while it is `received`: its handler has not marked it yet, or never will.
-/
namespace FinylDcp
open Runs

section Sound

variable {σ β : Type} {processors : Processors σ β} {settings : WebhookSettings}
  {s : WebhookQueue σ β}

/-- What an event says of its attempts: as many as it failed, none made or planned before
its first mark, some left while it is failed, and all used once it is dead. -/
structure EventSound (settings : WebhookSettings) (unmarked failures : List ℕ) (i : ℕ)
    (e : MpesaWebhookEvent β) : Prop where
  counted : failures.count i = e.attempts
  waits : e.processingStatus = .received ↔ i ∈ unmarked
  fresh : e.processingStatus = .received → e.attempts = 0 ∧ e.nextRetryAt = none
  retried : e.processingStatus = .failed →
    e.attempts < settings.attemptLimit ∧ e.nextRetryAt ≠ none
  exhausted : e.processingStatus = .dead → e.attempts = settings.attemptLimit
  bounded : e.attempts ≤ settings.attemptLimit

/-- The events are sound, a handler works on an event without a mark, and a pass goes
through failed events, each once. -/
structure QueueSound (settings : WebhookSettings) (s : WebhookQueue σ β) : Prop where
  events : ∀ (i : ℕ) (e : MpesaWebhookEvent β), s.events[i]? = some e →
    EventSound settings s.unmarked s.failures i e
  handled : ∀ i ∈ s.handling, i ∈ s.unmarked
  recorded : ∀ i ∈ s.unmarked, i < s.events.length
  tried : ∀ i ∈ s.failures, i < s.events.length
  passing : ∀ i ∈ s.pass, ∃ e, s.events[i]? = some e ∧ e.processingStatus = .failed
  once : s.pass.Nodup

theorem QueueSound.start (db : σ) : QueueSound settings (WebhookQueue.start db (β := β)) := by
  constructor <;> simp [WebhookQueue.start]

variable (processors) in
/-- An attempt changes its event as a mark does, and nothing else of the queue. -/
theorem attempt_event {id : ℕ} {e : MpesaWebhookEvent β} (he : s.events[id]? = some e)
    (markError : Option String) (freshRef : String) (now : ℤ) :
    ∃ db e' failed, MarkedAs settings e e' failed ∧
      s.attempt processors settings id markError freshRef now = { s with
        db := db
        events := s.events.set id e'
        failures := s.failures ++ if failed then [id] else [] } := by
  simp only [WebhookQueue.attempt, he]
  split
  · rename_i out _
    exact ⟨out.1, markProcessed e out.2 now, false, .inl ⟨rfl, rfl, rfl⟩, by simp⟩
  · exact ⟨_, _, true, markFailed_markedAs e _ now, rfl⟩
  · exact ⟨_, _, true, markFailed_markedAs e _ now, rfl⟩

variable (processors) in
/-- An attempt whose outcome is not marked changes the database only. -/
theorem unmarkedAttempt_db (s : WebhookQueue σ β) (id : ℕ) (freshRef : String) (now : ℤ) :
    ∃ db, s.unmarkedAttempt processors id freshRef now = { s with db := db } := by
  simp only [WebhookQueue.unmarkedAttempt]
  split
  · exact ⟨s.db, rfl⟩
  split
  · exact ⟨_, rfl⟩
  · exact ⟨s.db, rfl⟩

/-- A mark keeps the event it is about sound. -/
theorem EventSound.mark {unmarked failures : List ℕ} {i : ℕ} {e e' : MpesaWebhookEvent β}
    {failed : Bool} (h : EventSound settings unmarked failures i e)
    (hopen : e.processingStatus = .received ∨ e.processingStatus = .failed)
    (hmark : MarkedAs settings e e' failed) {unmarked' : List ℕ} (hmarked : i ∉ unmarked') :
    EventSound settings unmarked' (failures ++ if failed then [i] else []) i e' := by
  have hleft : e.attempts < settings.attemptLimit := by
    have hlimit := settings.one_le_attemptLimit
    rcases hopen with hreceived | hfailed
    · have hzero := (h.fresh hreceived).1
      omega
    · exact (h.retried hfailed).1
  have hcount := h.counted
  have hreceived : e'.processingStatus ≠ .received := hmark.settled
  have hwaits : e'.processingStatus = .received ↔ i ∈ unmarked' := iff_of_false hreceived hmarked
  rcases hmark with ⟨rfl, hstatus, hattempts⟩ | ⟨rfl, hattempts, hmark⟩
  · exact ⟨by simp [hcount, hattempts], hwaits, fun h => absurd h hreceived, by simp [hstatus],
      by simp [hstatus], by omega⟩
  · have hadded : (failures ++ [i]).count i = e'.attempts := by simp [hcount, hattempts]
    rcases hmark with ⟨hlimit, hstatus⟩ | ⟨hlimit, hstatus, hretry⟩
    · have hused : e'.attempts = settings.attemptLimit := by omega
      exact ⟨hadded, hwaits, fun h => absurd h hreceived, by simp [hstatus], fun _ => hused,
        hused.le⟩
    · have hsome : e'.attempts < settings.attemptLimit := by omega
      exact ⟨hadded, hwaits, fun h => absurd h hreceived,
        fun _ => ⟨hsome, hretry⟩, by simp [hstatus],
        hsome.le⟩

/-- A mark of one event leaves the others as sound as they were. -/
theorem EventSound.other {unmarked failures : List ℕ} {i j : ℕ} {e : MpesaWebhookEvent β}
    (h : EventSound settings unmarked failures j e) (hij : j ≠ i) {unmarked' : List ℕ}
    (hsame : j ∈ unmarked' ↔ j ∈ unmarked) (failed : Bool) :
    EventSound settings unmarked' (failures ++ if failed then [i] else []) j e := by
  have hcount : (failures ++ if failed then [i] else []).count j = failures.count j := by
    cases failed <;> simp [List.count_append, Ne.symm hij]
  exact ⟨hcount.trans h.counted, h.waits.trans hsame.symm, h.fresh, h.retried, h.exhausted,
    h.bounded⟩

/-- The events of a sound queue are sound after one of them is marked. -/
theorem QueueSound.marked {id : ℕ} {e e' : MpesaWebhookEvent β} {failed : Bool}
    (h : QueueSound settings s) (he : s.events[id]? = some e)
    (hopen : e.processingStatus = .received ∨ e.processingStatus = .failed)
    (hmark : MarkedAs settings e e' failed) {unmarked' : List ℕ} (hmarked : id ∉ unmarked')
    (hsame : ∀ j, j ≠ id → (j ∈ unmarked' ↔ j ∈ s.unmarked)) (i : ℕ) (x : MpesaWebhookEvent β)
    (hx : (s.events.set id e')[i]? = some x) :
    EventSound settings unmarked' (s.failures ++ if failed then [id] else []) i x := by
  have hlt : id < s.events.length := (List.getElem?_eq_some_iff.mp he).1
  rw [List.getElem?_set] at hx
  by_cases hi : id = i
  · subst hi
    rw [if_pos rfl, if_pos hlt] at hx
    obtain rfl := Option.some.inj hx
    exact (h.events id e he).mark hopen hmark hmarked
  · rw [if_neg hi] at hx
    exact (h.events i x hx).other (Ne.symm hi) (hsame i (Ne.symm hi)) failed

/-- The failed attempts are of recorded events, one more included. -/
theorem QueueSound.tried_marked {id : ℕ} {e' : MpesaWebhookEvent β} (h : QueueSound settings s)
    (hlt : id < s.events.length) (failed : Bool) :
    ∀ i ∈ s.failures ++ (if failed then [id] else []), i < (s.events.set id e').length := by
  intro i hi
  rw [List.length_set]
  rcases List.mem_append.mp hi with hi | hi
  · exact h.tried i hi
  · cases failed
    · simp at hi
    · have := List.mem_singleton.mp hi
      omega

theorem QueueSound.record (h : QueueSound settings s) (endpoint : String) (payload : β)
    (tenantId : Option ℕ) (shortcode : Option String) (now : ℤ) : QueueSound settings
      (s.step processors settings (.record endpoint payload tenantId shortcode now)) := by
  have hnew : s.events.length ∉ s.failures := fun hmem => absurd (h.tried _ hmem) (lt_irrefl _)
  have hlimit := settings.one_le_attemptLimit
  simp only [WebhookQueue.step, recordEvent]
  refine ⟨?_, ?_, ?_, ?_, ?_, h.once⟩
  · intro i e he
    rw [List.getElem?_append] at he
    by_cases hi : i < s.events.length
    · rw [if_pos hi] at he
      have hold := h.events i e he
      refine ⟨hold.counted, hold.waits.trans ?_, hold.fresh, hold.retried, hold.exhausted,
        hold.bounded⟩
      have hne : i ≠ s.events.length := by omega
      simp [hne]
    · rw [if_neg hi] at he
      have hi' : i = s.events.length := by
        have hlt := (List.getElem?_eq_some_iff.mp he).1
        simp only [List.length_singleton] at hlt
        omega
      subst hi'
      rw [Nat.sub_self, List.getElem?_cons_zero] at he
      obtain rfl := Option.some.inj he
      constructor <;> simp [List.count_eq_zero.mpr hnew]
  · intro i hi
    rcases List.mem_append.mp hi with hi | hi
    · exact List.mem_append_left _ (h.handled i hi)
    · exact List.mem_append_right _ hi
  · intro i hi
    rw [List.length_append, List.length_singleton]
    rcases List.mem_append.mp hi with hi | hi
    · have := h.recorded i hi
      omega
    · have := List.mem_singleton.mp hi
      omega
  · intro i hi
    have := h.tried i hi
    rw [List.length_append]
    omega
  · intro i hi
    obtain ⟨e, he, hfailed⟩ := h.passing i hi
    exact ⟨e, by rw [List.getElem?_append_left (List.getElem?_eq_some_iff.mp he).1, he], hfailed⟩

/-- The handler of an event marks it. -/
theorem QueueSound.finish {id : ℕ} (h : QueueSound settings s) (hid : id ∈ s.handling)
    (markError : Option String) (freshRef : String) (now : ℤ) : QueueSound settings
      { s.attempt processors settings id markError freshRef now with
        handling := s.handling.filter (· ≠ id)
        unmarked := s.unmarked.filter (· ≠ id) } := by
  have hunmarked := h.handled id hid
  have hlt := h.recorded id hunmarked
  obtain ⟨e, he⟩ : ∃ e, s.events[id]? = some e := ⟨_, List.getElem?_eq_getElem hlt⟩
  have hreceived : e.processingStatus = .received := (h.events id e he).waits.mpr hunmarked
  obtain ⟨db, e', failed, hmark, hout⟩ :=
    attempt_event processors he markError freshRef now
  rw [hout]
  refine ⟨?_, ?_, ?_, ?_, ?_, h.once⟩
  · exact h.marked he (.inl hreceived) hmark (by simp) (fun j hj => by simp [hj])
  · intro i hi
    obtain ⟨hi, hne⟩ := List.mem_filter.mp hi
    exact List.mem_filter.mpr ⟨h.handled i hi, hne⟩
  · intro i hi
    rw [List.length_set]
    exact h.recorded i (List.mem_filter.mp hi).1
  · exact h.tried_marked hlt failed
  · intro i hi
    obtain ⟨x, hx, hfailed⟩ := h.passing i hi
    have hne : id ≠ i := by
      rintro rfl
      rw [he] at hx
      obtain rfl := Option.some.inj hx
      rw [hreceived] at hfailed
      cases hfailed
    exact ⟨x, by rw [List.getElem?_set_ne hne, hx], hfailed⟩

/-- The worker reprocesses the next event of its pass. -/
theorem QueueSound.retry {id : ℕ} {rest : List ℕ} (h : QueueSound settings s)
    (hpass : s.pass = id :: rest) (markError : Option String) (freshRef : String) (now : ℤ) :
    QueueSound settings
      { s.attempt processors settings id markError freshRef now with pass := rest } := by
  have honce := h.once
  rw [hpass, List.nodup_cons] at honce
  obtain ⟨e, he, hfailed⟩ := h.passing id (by rw [hpass]; exact List.mem_cons_self)
  have hmarked : id ∉ s.unmarked := by
    intro hmem
    have hreceived := (h.events id e he).waits.mpr hmem
    rw [hfailed] at hreceived
    cases hreceived
  have hlt : id < s.events.length := (List.getElem?_eq_some_iff.mp he).1
  obtain ⟨db, e', failed, hmark, hout⟩ :=
    attempt_event processors he markError freshRef now
  rw [hout]
  refine ⟨?_, h.handled, ?_, ?_, ?_, honce.2⟩
  · exact h.marked he (.inr hfailed) hmark hmarked (fun _ _ => Iff.rfl)
  · intro i hi
    rw [List.length_set]
    exact h.recorded i hi
  · exact h.tried_marked hlt failed
  · intro i hi
    obtain ⟨x, hx, hxfailed⟩ := h.passing i (by rw [hpass]; exact List.mem_cons_of_mem id hi)
    have hne : id ≠ i := fun heq => honce.1 (heq ▸ hi)
    exact ⟨x, by rw [List.getElem?_set_ne hne, hx], hxfailed⟩

/-- A purge leaves what is said of attempts alone. -/
theorem QueueSound.purge (h : QueueSound settings s) (now : ℤ) :
    QueueSound settings (s.step processors settings (.purge now)) := by
  have hlen := purgePayloads_length settings s.events now
  refine ⟨?_, h.handled, ?_, ?_, ?_, h.once⟩
  · intro i e' he'
    obtain ⟨e, payload, he, rfl⟩ := purgePayloads_row he'
    have hold := h.events i e he
    exact ⟨hold.counted, hold.waits, hold.fresh, hold.retried, hold.exhausted, hold.bounded⟩
  · intro i hi
    exact (h.recorded i hi).trans_eq hlen.symm
  · intro i hi
    exact (h.tried i hi).trans_eq hlen.symm
  · intro i hi
    obtain ⟨e, he, hfailed⟩ := h.passing i hi
    have hlt : i < (purgePayloads settings s.events now).length := by
      rw [hlen]
      exact (List.getElem?_eq_some_iff.mp he).1
    obtain ⟨e', he'⟩ : ∃ e', (purgePayloads settings s.events now)[i]? = some e' :=
      ⟨_, List.getElem?_eq_getElem hlt⟩
    obtain ⟨x, payload, hx, rfl⟩ := purgePayloads_row he'
    rw [he] at hx
    obtain rfl := Option.some.inj hx
    exact ⟨_, he', hfailed⟩

/-- Every step keeps the queue sound. -/
theorem QueueSound.step (h : QueueSound settings s) (a : QueueStep σ β) :
    QueueSound settings (s.step processors settings a) := by
  cases a with
  | record endpoint payload tenantId shortcode now =>
      exact h.record endpoint payload tenantId shortcode now
  | finish id markError freshRef now =>
    simp only [WebhookQueue.step]
    split_ifs with hid
    · exact h.finish hid markError freshRef now
    · exact h
  | cutShort id freshRef now =>
    simp only [WebhookQueue.step]
    split_ifs
    · obtain ⟨db, hdb⟩ := unmarkedAttempt_db processors s id freshRef now
      rw [hdb]
      exact ⟨h.events, fun i hi => h.handled i (List.mem_filter.mp hi).1, h.recorded, h.tried,
        h.passing, h.once⟩
    · exact h
  | beginPass now =>
    simp only [WebhookQueue.step]
    split_ifs
    · refine ⟨h.events, h.handled, h.recorded, h.tried, ?_, dueEvents_nodup s.events now⟩
      intro i hi
      obtain ⟨e, he, hdue⟩ := mem_dueEvents hi
      simp only [MpesaWebhookEvent.due, Bool.and_eq_true, decide_eq_true_eq] at hdue
      exact ⟨e, he, hdue.1⟩
    · exact h
  | retry markError freshRef now =>
    simp only [WebhookQueue.step]
    split
    · exact h
    · rename_i id rest hpass
      exact h.retry hpass markError freshRef now
  | skip freshRef now =>
    simp only [WebhookQueue.step]
    split
    · exact h
    · rename_i id rest hpass
      obtain ⟨db, hdb⟩ := unmarkedAttempt_db processors s id freshRef now
      rw [hdb]
      have hrest : rest.Sublist s.pass := by
        rw [hpass]
        exact List.sublist_cons_self id rest
      exact ⟨h.events, h.handled, h.recorded, h.tried, fun i hi => h.passing i (hrest.subset hi),
        h.once.sublist hrest⟩
  | crash =>
    exact ⟨h.events, fun i hi => absurd hi List.not_mem_nil, h.recorded, h.tried,
      fun i hi => absurd hi List.not_mem_nil, List.nodup_nil⟩
  | purge now => exact h.purge now
  | elsewhere db => exact ⟨h.events, h.handled, h.recorded, h.tried, h.passing, h.once⟩

theorem QueueSound.run (db : σ) (steps : List (QueueStep σ β)) : QueueSound settings
    (Runs.run (WebhookQueue.step processors settings) (WebhookQueue.start db) steps) :=
  invariant_run_of_step (fun _ a h => h.step a) steps (.start db)

end Sound

section Selection

variable {β : Type} {events : List (MpesaWebhookEvent β)} {i : ℕ} {e : MpesaWebhookEvent β}

/-- The worker selects an event from the time of its next retry on: it is in the batch of
a pass, or the batch is full of events that are due no later. -/
def WillBeSelected (events : List (MpesaWebhookEvent β)) (i : ℕ) (e : MpesaWebhookEvent β) : Prop :=
  ∃ t, e.nextRetryAt = some t ∧ ∀ now, t ≤ now → i ∈ dueEvents events now ∨
    ((dueEvents events now).length = 100 ∧ ∀ j ∈ dueEvents events now, ∀ x ∈ events[j]?,
      ∀ u ∈ x.nextRetryAt, u ≤ t)

/-- A failed event with a time for its next attempt will be selected. -/
theorem willBeSelected_of_failed (he : events[i]? = some e)
    (hfailed : e.processingStatus = .failed) (hretry : e.nextRetryAt ≠ none) :
    WillBeSelected events i e := by
  obtain ⟨t, ht⟩ := Option.ne_none_iff_exists'.mp hretry
  refine ⟨t, ht, fun now hnow => ?_⟩
  have hdue : e.due now = true := by
    simp only [MpesaWebhookEvent.due, hfailed, ht, Option.any_some, decide_true, Bool.true_and,
      decide_eq_true_eq]
    exact hnow
  let sorted := (events.zipIdx.filter (fun x => x.1.due now)).insertionSort retryBefore
  have hmem : (e, i) ∈ sorted := (List.mem_insertionSort retryBefore).mpr
    (List.mem_filter.mpr ⟨List.mem_zipIdx_iff_getElem?.mpr he, hdue⟩)
  have hsorted : sorted.Pairwise retryBefore := List.pairwise_insertionSort retryBefore _
  rw [← List.take_append_drop 100 sorted] at hmem hsorted
  rcases List.mem_append.mp hmem with hfirst | hlater
  · exact .inl (List.mem_map.mpr ⟨(e, i), hfirst, rfl⟩)
  · refine .inr ⟨?_, ?_⟩
    · have hlong : 100 < sorted.length := by
        have hpos := List.length_pos_of_mem hlater
        rw [List.length_drop] at hpos
        omega
      change (((sorted.take 100).map (·.2)).length) = 100
      rw [List.length_map, List.length_take]
      omega
    · intro j hj x hx u hu
      obtain ⟨y, hy, rfl⟩ := List.mem_map.mp hj
      have hbefore : retryBefore y (e, i) :=
        (List.pairwise_append.mp hsorted).2.2 y hy (e, i) hlater
      have hin := (List.mem_insertionSort retryBefore).mp (List.mem_of_mem_take hy)
      have hrow := List.mem_zipIdx_iff_getElem?.mp (List.mem_filter.mp hin).1
      rw [hrow] at hx
      obtain rfl := Option.some.inj hx
      rw [Option.mem_def] at hu
      simpa only [retryBefore, hu, ht, Option.getD_some] using hbefore

end Selection

/-- In every state the queue can reach, attempts stay within their limit and an event is
dead after exactly that many failures; and every event that is neither processed nor dead
will be selected for a retry exactly when the handler of every recorded event has marked
an outcome. -/
theorem recorded_webhooks_retried {σ β : Type} (processors : Processors σ β)
    (settings : WebhookSettings) (db : σ) (steps : List (QueueStep σ β)) :
    let s := run (WebhookQueue.step processors settings) (WebhookQueue.start db) steps
    (∀ (i : ℕ) (e : MpesaWebhookEvent β), s.events[i]? = some e →
      e.attempts ≤ settings.attemptLimit ∧
        (e.processingStatus = .dead → s.failures.count i = settings.attemptLimit)) ∧
    ((∀ (i : ℕ) (e : MpesaWebhookEvent β), s.events[i]? = some e → e.processingStatus ≠ .processed →
        e.processingStatus ≠ .dead → WillBeSelected s.events i e) ↔ s.unmarked = []) := by
  intro s
  have hs : QueueSound settings s := .run db steps
  refine ⟨fun i e he => ?_, ?_, ?_⟩
  · have hevent := hs.events i e he
    exact ⟨hevent.bounded, fun hdead => hevent.counted.trans (hevent.exhausted hdead)⟩
  · intro hselected
    by_contra hne
    obtain ⟨i, hi⟩ := List.exists_mem_of_ne_nil _ hne
    obtain ⟨e, he⟩ : ∃ e, s.events[i]? = some e :=
      ⟨_, List.getElem?_eq_getElem (hs.recorded i hi)⟩
    have hreceived := (hs.events i e he).waits.mpr hi
    obtain ⟨t, ht, -⟩ := hselected i e he (by rw [hreceived]; decide) (by rw [hreceived]; decide)
    have hnone := ((hs.events i e he).fresh hreceived).2
    rw [ht] at hnone
    cases hnone
  · intro hmarked i e he hprocessed hdead
    have hevent := hs.events i e he
    have hfailed : e.processingStatus = .failed := by
      have hreceived : e.processingStatus ≠ .received := by
        intro h
        have hi := hevent.waits.mp h
        rw [hmarked] at hi
        exact absurd hi List.not_mem_nil
      cases hstatus : e.processingStatus <;> simp_all
    exact willBeSelected_of_failed he hfailed (hevent.retried hfailed).2

/-- A confirmation is recorded, and the process stops before it is handled. -/
def interruptedDelivery : WebhookQueue Db WebhookBody :=
  run (WebhookQueue.step (paymentProcessors unfinishedPlatform) ⟨5, 60, 168⟩)
    (WebhookQueue.start fourWeekBook)
    [.record "c2b-callback" (.c2b (paybillConfirmation "QA1" "FL/1" 200000 3)) (some 1)
      (some "600100") 259200, .crash]

/-- The event stays `received`, and no pass of the worker ever takes it. -/
theorem interrupted_delivery_never_retried :
    (interruptedDelivery.events.map (·.processingStatus)) = [.received] ∧
      ∀ now, dueEvents interruptedDelivery.events now = [] := by
  refine ⟨rfl, fun now => List.eq_nil_iff_forall_not_mem.mpr fun i hi => ?_⟩
  obtain ⟨e, he, hdue⟩ := mem_dueEvents hi
  have hmem : e ∈ interruptedDelivery.events := List.mem_of_getElem? he
  have hreceived : e.processingStatus = .received := by
    cases List.mem_singleton.mp hmem
    rfl
  simp [MpesaWebhookEvent.due, hreceived] at hdue

end FinylDcp
