import FinylDcp.MessageRuns
import Mathlib.Algebra.BigOperators.Group.Finset.Basic
import Mathlib.Algebra.BigOperators.Group.Finset.Piecewise

/-!
# What the messages of a period come to

The usage report of a window: for each tenant what went out, what was delivered and what it is
billed, and the whole of it. Once the window is over, nothing that happens changes a bill.
-/
namespace FinylDcp
open Runs
open scoped BigOperators

/-- What a tenant is billed. -/
structure SmsBilling where
  tenantId : ℤ
  messagesSent : ℕ
  billableCount : ℕ
  totalSell : ℤ
  totalCost : ℤ
  totalMargin : ℤ
  deriving DecidableEq

structure SmsUsage extends SmsBilling where
  messagesDelivered : ℕ
  deriving DecidableEq

/-- The amounts of the rows that are billed; a row without a rate counts nothing. -/
def billed (amount : SmsRate → ℤ) (logs : List SmsLog) : ℤ :=
  (logs.map (fun l => if l.billable then (l.rate.map amount).getD 0 else 0)).sum

def billingOf (tenantId : ℤ) (logs : List SmsLog) : SmsBilling where
  tenantId := tenantId
  messagesSent := logs.countP (fun l => l.result.status = "sent")
  billableCount := logs.countP (·.billable)
  totalSell := billed (·.sellPrice) logs
  totalCost := billed (·.costPrice) logs
  totalMargin := billed (·.margin) logs

/-- The window, the kind of message and the tenant that a report is about. -/
structure UsageQuery where
  start : ℤ
  end_ : ℤ
  triggerType : Option String
  tenantId : Option ℤ
  deriving DecidableEq

def UsageQuery.covers (q : UsageQuery) (l : SmsLog) : Bool :=
  q.start ≤ l.sentAt && l.sentAt < q.end_ && (q.triggerType.all (l.triggerType = ·)) &&
    q.tenantId.all (l.tenantId = ·)

/-- `sms_usage`: a line for each tenant, the largest bill first. -/
def smsUsage (rows : List MessageRow) (q : UsageQuery) : List SmsUsage :=
  let rows := rows.filter (fun r => q.covers r.log)
  ((rows.map (·.log.tenantId)).dedup.map (fun t =>
    let own := rows.filter (fun r => r.log.tenantId = t)
    { toSmsBilling := billingOf t (own.map (·.log))
      messagesDelivered := own.countP (·.deliveryStatus = .delivered) })).insertionSort
    (fun a b => b.totalSell ≤ a.totalSell)

/-- The roll-up of a report. -/
def rollup (amount : SmsBilling → ℤ) (usage : List SmsUsage) : ℤ :=
  (usage.map (fun u => amount u.toSmsBilling)).sum

/-- The sums of the rows of each key add up to the sum of all rows. -/
theorem sum_by_key {α κ : Type*} [DecidableEq κ] (key : α → κ) (amount : α → ℤ) (rows : List α) :
    (((rows.map key).dedup.map
      (fun k => ((rows.filter (fun a => key a = k)).map amount).sum)).sum) =
      (rows.map amount).sum := by
  have hkeys : ∀ (keys : Finset κ) (rows : List α), (∀ a ∈ rows, key a ∈ keys) →
      ∑ k ∈ keys, ((rows.filter (fun a => key a = k)).map amount).sum = (rows.map amount).sum := by
    intro keys rows hrows
    induction rows with
    | nil => simp
    | cons a rows ih =>
      have hhead (k : κ) : (((a :: rows).filter (fun a => key a = k)).map amount).sum =
          (if key a = k then amount a else 0) +
            ((rows.filter (fun a => key a = k)).map amount).sum := by
        by_cases h : key a = k <;> simp [h]
      simp only [hhead]
      rw [Finset.sum_add_distrib, ih (fun b hb => hrows b (List.mem_cons_of_mem a hb)),
        Finset.sum_ite_eq, if_pos (hrows a List.mem_cons_self), List.map_cons, List.sum_cons]
  rw [← hkeys (rows.map key).dedup.toFinset rows (fun a ha => by simpa using ⟨a, ha, rfl⟩),
    List.sum_toFinset _ (List.nodup_dedup _)]

/-- The bills of a report, from what was sent alone. -/
def bills (logs : List SmsLog) (q : UsageQuery) : List SmsBilling :=
  let logs := logs.filter q.covers
  ((logs.map (·.tenantId)).dedup.map (fun t =>
    billingOf t (logs.filter (fun l => l.tenantId = t)))).insertionSort
    (fun a b => b.totalSell ≤ a.totalSell)

theorem smsUsage_bills (rows : List MessageRow) (q : UsageQuery) :
    (smsUsage rows q).map (·.toSmsBilling) = bills (rows.map (·.log)) q := by
  have hlogs : (rows.map (·.log)).filter q.covers =
      (rows.filter (fun r => q.covers r.log)).map (·.log) := by
    rw [List.filter_map]
    rfl
  have hown (rows : List MessageRow) (t : ℤ) :
      (rows.filter (fun r => r.log.tenantId = t)).map (·.log) =
        (rows.map (·.log)).filter (fun l => l.tenantId = t) := by
    rw [List.filter_map]
    rfl
  unfold smsUsage bills
  rw [List.map_insertionSort (r := fun a b : SmsUsage => b.totalSell ≤ a.totalSell)
    (s := fun a b : SmsBilling => b.totalSell ≤ a.totalSell) _ _ (fun a _ b _ => Iff.rfl)]
  dsimp only
  rw [hlogs, List.map_map, List.map_map]
  have hbills (rows : List MessageRow) (ids : List ℤ) :
      ids.map (fun t => billingOf t ((rows.filter (fun r => r.log.tenantId = t)).map (·.log))) =
        ids.map (fun t => billingOf t ((rows.map (·.log)).filter (fun l => l.tenantId = t))) :=
    List.map_congr_left fun t _ => by rw [hown]
  exact congrArg (List.insertionSort (fun a b => b.totalSell ≤ a.totalSell)) (hbills _ _)

/-- The lines of a report add up to what the rows of its window come to. -/
theorem rollup_eq (amount : SmsRate → ℤ) (total : SmsBilling → ℤ)
    (htotal : ∀ t logs, total (billingOf t logs) = billed amount logs) (rows : List MessageRow)
    (q : UsageQuery) :
    rollup total (smsUsage rows q) = billed amount ((rows.map (·.log)).filter q.covers) := by
  have hlines : (smsUsage rows q).map (fun u => total u.toSmsBilling) =
      (bills (rows.map (·.log)) q).map total := by
    rw [← smsUsage_bills, List.map_map]
    rfl
  have hsorted := (List.perm_insertionSort (fun a b : SmsBilling => b.totalSell ≤ a.totalSell)
    (((((rows.map (·.log)).filter q.covers).map (·.tenantId)).dedup.map (fun t =>
      billingOf t (((rows.map (·.log)).filter q.covers).filter
        (fun l => l.tenantId = t)))))).map total
  rw [rollup, hlines, bills, hsorted.sum_eq, List.map_map]
  have heach : total ∘ (fun t => billingOf t (((rows.map (·.log)).filter q.covers).filter
      (fun l => l.tenantId = t))) = fun t => billed amount
        (((rows.map (·.log)).filter q.covers).filter (fun l => l.tenantId = t)) :=
    funext fun t => htotal t _
  rw [heach]
  exact sum_by_key SmsLog.tenantId _ _

section Closed

variable {isWord : Char → Bool} {cards : List SmsRateCard} {es more : List (ℤ × MessageEvent)}

/-- What was sent stays as it is, and what comes to it is of the time of a later event. -/
theorem logs_run (es more : List (ℤ × MessageEvent)) :
    ∃ new, (run (MessageDesk.step isWord) (.opening cards) (es ++ more)).rows.map (·.log) =
        (run (MessageDesk.step isWord) (.opening cards) es).rows.map (·.log) ++ new ∧
      ∀ l ∈ new, ∃ e ∈ more, l.sentAt = e.1 := by
  induction more using List.reverseRecOn with
  | nil => exact ⟨[], by simp, nofun⟩
  | append_singleton more e ih =>
    obtain ⟨new, hnew, htimes⟩ := ih
    have hearlier : ∀ l ∈ new, ∃ e' ∈ more ++ [e], l.sentAt = e'.1 := by
      intro l hl
      obtain ⟨e', he', ht⟩ := htimes l hl
      exact ⟨e', List.mem_append_left _ he', ht⟩
    rw [← List.append_assoc, run_concat]
    obtain ⟨hlogs, -⟩ | ⟨tenantId, phone, message, triggerType, result, hstep⟩ :=
      @desk_step isWord (run (MessageDesk.step isWord) (.opening cards) (es ++ more)) e
    · exact ⟨new, hlogs.trans hnew, hearlier⟩
    · obtain ⟨log, hlogs, htime, -⟩ :=
        @sendSms_log (run (MessageDesk.step isWord) (.opening cards) (es ++ more)) e.1 tenantId
          phone message triggerType result
      refine ⟨new ++ [log], ?_, fun l hl => ?_⟩
      · rw [hstep, hlogs, hnew, List.append_assoc]
      · obtain hold | hlast := List.mem_append.mp hl
        · exact hearlier l hold
        · obtain rfl := List.mem_singleton.mp hlast
          exact ⟨e, List.mem_append_right _ (List.mem_singleton.mpr rfl), htime⟩

theorem logs_closed {q : UsageQuery} (hlater : ∀ e ∈ more, q.end_ ≤ e.1) :
    ((run (MessageDesk.step isWord) (.opening cards) (es ++ more)).rows.map (·.log)).filter
        q.covers =
      ((run (MessageDesk.step isWord) (.opening cards) es).rows.map (·.log)).filter q.covers := by
  obtain ⟨new, hnew, htimes⟩ := @logs_run isWord cards es more
  have hnone : new.filter q.covers = [] := by
    rw [List.filter_eq_nil_iff]
    intro l hl hcovers
    obtain ⟨e, he, ht⟩ := htimes l hl
    have hend := hlater e he
    simp only [UsageQuery.covers, Bool.and_eq_true, decide_eq_true_eq] at hcovers
    omega
  rw [hnew, List.filter_append, hnone, List.append_nil]

/-- A rate leaves the margin between its prices. -/
theorem margin_eq {log : SmsLog} (h : Priced isWord cards es log) {rate : SmsRate}
    (hrate : log.rate = some rate) : rate.margin = rate.sellPrice - rate.costPrice := by
  obtain ⟨t, ⟨before, event, later, -, hforce, -⟩, -⟩ := h.fresh rate hrate
  obtain ⟨card, -, rfl⟩ := Option.map_eq_some_iff.mp hforce
  rfl

theorem billed_margin (es : List (ℤ × MessageEvent)) (q : UsageQuery) :
    let logs := ((run (MessageDesk.step isWord) (.opening cards) es).rows.map (·.log)).filter
      q.covers
    billed (·.margin) logs = billed (·.sellPrice) logs - billed (·.costPrice) logs := by
  intro logs
  have hpriced : ∀ l ∈ logs, Priced isWord cards es l :=
    fun l hl => (priced_run es).2 l (List.mem_filter.mp hl).1
  generalize logs = rest at hpriced
  induction rest with
  | nil => rfl
  | cons l rest ih =>
    have htail := ih (fun l' hl' => hpriced l' (List.mem_cons_of_mem l hl'))
    have hhead : (if l.billable then (l.rate.map (·.margin)).getD 0 else 0) =
        (if l.billable then (l.rate.map (·.sellPrice)).getD 0 else 0) -
          (if l.billable then (l.rate.map (·.costPrice)).getD 0 else 0) := by
      cases hrate : l.rate with
      | none => simp
      | some rate =>
        have hmargin := margin_eq (hpriced l List.mem_cons_self) hrate
        cases l.billable <;> simp [hmargin]
    simp only [billed, List.map_cons, List.sum_cons] at htail ⊢
    rw [hhead, htail]
    omega

/-- Once a window is over, no message, report, card or other event changes a bill of it; its
lines add up to the prices on its rows, and the margin is what the cost leaves of them. -/
theorem bills_closed (isWord : Char → Bool) (cards : List SmsRateCard)
    (es more : List (ℤ × MessageEvent)) (q : UsageQuery) (hlater : ∀ e ∈ more, q.end_ ≤ e.1) :
    let rows := (run (MessageDesk.step isWord) (.opening cards) es).rows
    let later := (run (MessageDesk.step isWord) (.opening cards) (es ++ more)).rows
    (smsUsage later q).map (·.toSmsBilling) = (smsUsage rows q).map (·.toSmsBilling) ∧
      rollup (·.totalSell) (smsUsage later q) =
        billed (·.sellPrice) ((rows.map (·.log)).filter q.covers) ∧
      rollup (·.totalMargin) (smsUsage later q) =
        rollup (·.totalSell) (smsUsage later q) - rollup (·.totalCost) (smsUsage later q) := by
  intro rows later
  have hclosed := @logs_closed isWord cards es more q hlater
  refine ⟨?_, ?_, ?_⟩
  · rw [smsUsage_bills, smsUsage_bills, bills, bills, hclosed]
  · rw [rollup_eq (·.sellPrice) (·.totalSell) (fun _ _ => rfl), hclosed]
  · rw [rollup_eq (·.margin) (·.totalMargin) (fun _ _ => rfl),
      rollup_eq (·.sellPrice) (·.totalSell) (fun _ _ => rfl),
      rollup_eq (·.costPrice) (·.totalCost) (fun _ _ => rfl)]
    exact billed_margin (es ++ more) q

end Closed

/-- A message of the first minute, and a dearer card and another message after its end. -/
theorem bills_closed_dearer :
    let sent : ProviderResult := ⟨"sent", some "uwazii", some "77", none, none⟩
    let first : List (ℤ × MessageEvent) :=
      [(0, .priced [⟨80, 50, 0, true⟩]), (10, .sendSms 1 "0712345678" "Habari" "manual" sent)]
    let second : List (ℤ × MessageEvent) :=
      [(rateTtl, .priced [⟨80, 50, 0, false⟩, ⟨95, 50, rateTtl, true⟩]),
        (rateTtl + 20, .sendSms 1 "0712345678" "Kwaheri" "manual" sent),
        (rateTtl + 30, .dlr "77" "DELIVRD")]
    let query : UsageQuery := ⟨0, rateTtl, none, some 1⟩
    let rows := (run (MessageDesk.step isWordAscii) (.opening []) first).rows
    let later := (run (MessageDesk.step isWordAscii) (.opening []) (first ++ second)).rows
    (smsUsage later query).map (·.toSmsBilling) = (smsUsage rows query).map (·.toSmsBilling) ∧
      rollup (·.totalSell) (smsUsage later query) =
        billed (·.sellPrice) ((rows.map (·.log)).filter query.covers) ∧
      rollup (·.totalMargin) (smsUsage later query) =
        rollup (·.totalSell) (smsUsage later query) -
          rollup (·.totalCost) (smsUsage later query) := by
  intro sent first second query
  exact bills_closed isWordAscii [] first second query (by simp [second, query])

end FinylDcp
