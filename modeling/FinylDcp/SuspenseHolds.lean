import FinylDcp.RequestPayments

/-!
# A hold belongs to its request

The desk one event after the other: a decision waits for the answer to its call before
anything else happens. An entry is held exactly while one request about it waits, and a
decision moves an entry only under the hold its own request placed. What breaks this is a
refund that was approved and not taken in: the request waits on, and the entry is open
again, or on its way.
-/
namespace FinylDcp
open Db Runs Tables

/-- The committed database after an event, with the answer to the call it makes. -/
def serve (db : Db) (e : MoneyEvent) : Db :=
  match e with
  | .decide _ _ _ _ _ reply receipt now =>
    ((MoneyDesk.step ⟨db, [], [], []⟩ e).step (.answer 0 reply receipt now)).db
  | e => (MoneyDesk.step ⟨db, [], [], []⟩ e).db

/-- A request that refers to an entry and waits for a decision. -/
def PendingApproval.waitsFor (entryId : ℕ) (p : PendingApproval) : Bool :=
  p.status = .pendingApproval && p.details.suspenseId = some entryId

/-- The request that placed the latest hold on an entry: the last that refers to it. -/
def holder (entryId : ℕ) (requests : List PendingApproval) : Option ℕ :=
  ((requests.map (·.details.suspenseId)).zipIdx.filter (fun x => x.1 = some entryId)).getLast?.map
    (·.2)

/-- An entry is held exactly while one request refers to it and waits. -/
def OneHold (entryId : ℕ) (db : Db) : Prop :=
  ∀ e ∈ db.suspense[entryId]?, e.status = .pendingApproval ↔
    (db.pending.filter (·.waitsFor entryId)).length = 1

instance (entryId : ℕ) (db : Db) : Decidable (OneHold entryId db) := by
  unfold OneHold
  infer_instance

/-- A decision changes an entry only while it is held, and held by the decided request. -/
def OwnHold (entryId : ℕ) (db : Db) (e : MoneyEvent) : Prop :=
  ∀ pendingId ∈ e.request, ∀ entry ∈ db.suspense[entryId]?,
    (serve db e).suspense[entryId]? ≠ some entry →
      entry.status = .pendingApproval ∧ holder entryId db.pending = some pendingId

instance (entryId : ℕ) (db : Db) (e : MoneyEvent) : Decidable (OwnHold entryId db e) := by
  unfold OwnHold
  infer_instance

/-- No request about an entry was made, and nothing of it has left, if it is there at all. -/
structure NeverAsked (entryId : ℕ) (db : Db) : Prop where
  requests : ∀ p ∈ db.pending, p.details.suspenseId ≠ some entryId
  entry : ∀ e ∈ db.suspense[entryId]?, e.status ≠ .pendingApproval
  left : NothingLeft entryId db

instance (entryId : ℕ) (db : Db) : Decidable (NeverAsked entryId db) :=
  decidable_of_iff ((∀ p ∈ db.pending, p.details.suspenseId ≠ some entryId) ∧
    (∀ e ∈ db.suspense[entryId]?, e.status ≠ .pendingApproval) ∧ NothingLeft entryId db)
    ⟨fun h => ⟨h.1, h.2.1, h.2.2⟩, fun h => ⟨h.requests, h.entry, h.left⟩⟩

/-- A refund is taken in, under a reference that is new. -/
def RefundTaken (db : Db) (tenantId : ℕ) (reply : B2cReply) (receipt : String) : Prop :=
  match sendB2c reply with
  | .accepted ack => RefFree db tenantId (refundRef ack receipt)
  | _ => False

instance (db : Db) (tenantId : ℕ) (reply : B2cReply) (receipt : String) :
    Decidable (RefundTaken db tenantId reply receipt) :=
  match h : sendB2c reply with
  | .accepted ack => decidable_of_iff (RefFree db tenantId (refundRef ack receipt)) (by
      simp only [RefundTaken, h])
  | .refused _ | .uncertain _ => isFalse (by simp only [RefundTaken, h, not_false_iff])

/-- An approved refund of an entry is taken in, unless the checks of the decision refuse it. -/
def RefundsTaken (entryId : ℕ) (db : Db) : MoneyEvent → Prop
  | .decide tenantId pendingId action checker _ reply receipt _ => action ≠ "reject" →
      DecisionRefused db tenantId pendingId action checker ∨
        ∀ p ∈ db.pending[pendingId]?, p.actionType = .suspenseRefund →
          p.details.suspenseId = some entryId → RefundTaken db tenantId reply receipt
  | _ => True

instance (entryId : ℕ) (db : Db) : (e : MoneyEvent) → Decidable (RefundsTaken entryId db e)
  | .decide tenantId pendingId action checker _ reply receipt _ =>
    inferInstanceAs (Decidable (action ≠ "reject" →
      DecisionRefused db tenantId pendingId action checker ∨
        ∀ p ∈ db.pending[pendingId]?, p.actionType = .suspenseRefund →
          p.details.suspenseId = some entryId → RefundTaken db tenantId reply receipt))
  | .park .. | .allocate .. | .refund .. | .reverse .. | .refundLoan .. | .answer .. | .stop ..
  | .result .. | .timeout .. | .reversalResult .. | .reversalTimeout .. | .resolve .. =>
    isTrue trivial

section Requests

variable {entryId : ℕ} {requests : List PendingApproval}

theorem holder_append (p : PendingApproval) : holder entryId (requests ++ [p]) =
    if p.details.suspenseId = some entryId then some requests.length
    else holder entryId requests := by
  by_cases hp : p.details.suspenseId = some entryId
  · simp [holder, List.zipIdx_append, hp]
  · simp [holder, List.zipIdx_append, hp]

theorem holder_modify {f : PendingApproval → PendingApproval} (i : ℕ)
    (h : ∀ p, (f p).details = p.details) :
    holder entryId (requests.modify i f) = holder entryId requests := by
  have hmap : (requests.modify i f).map (·.details.suspenseId) =
      requests.map (·.details.suspenseId) :=
    map_modify_of_eq _ (fun p => by rw [h p]) _ _
  rw [holder, hmap, holder]

/-- The requests about an entry against the entry: each is about suspense money of the
entry's tenant, one that waits placed the latest hold and the entry is held, and an entry
that is held has one. -/
structure Held (entryId : ℕ) (requests : List PendingApproval) (entry : Option SuspenseEntry) :
    Prop where
  about : ∀ p ∈ requests, p.details.suspenseId = some entryId → p.actionType.ofSuspense = true ∧
    ∃ e ∈ entry, e.tenantId = p.tenantId
  own : ∀ (i : ℕ) (p : PendingApproval), requests[i]? = some p → p.waitsFor entryId = true →
    holder entryId requests = some i ∧ ∃ e ∈ entry, e.status = .pendingApproval
  held : ∀ e ∈ entry, e.status = .pendingApproval →
    ∃ (i : ℕ) (p : PendingApproval), requests[i]? = some p ∧ p.waitsFor entryId = true

/-- An entry is held exactly while one request waits for it. -/
theorem Held.one {entry : Option SuspenseEntry} (h : Held entryId requests entry) :
    ∀ e ∈ entry, e.status = .pendingApproval ↔
      (requests.filter (·.waitsFor entryId)).length = 1 := by
  intro e he
  have hle : (requests.filter (·.waitsFor entryId)).length ≤ 1 :=
    length_filter_le_one_of_index (k := (holder entryId requests).getD 0) fun i p hp hwaits => by
      rw [(h.own i p hp hwaits).1, Option.getD_some]
  constructor
  · intro hstatus
    obtain ⟨i, p, hp, hwaits⟩ := h.held e he hstatus
    exact le_antisymm hle (one_le_length_filter hp hwaits)
  · intro hone
    obtain ⟨p, hp⟩ := List.length_pos_iff_exists_mem.mp (by omega :
      0 < (requests.filter (·.waitsFor entryId)).length)
    obtain ⟨hmem, hwaits⟩ := List.mem_filter.mp hp
    obtain ⟨i, hi⟩ := List.mem_iff_getElem?.mp hmem
    obtain ⟨-, e', he', hstatus⟩ := h.own i p hi hwaits
    obtain rfl := Option.some.inj (he.symm.trans he')
    exact hstatus

/-- While an entry is not held, no request waits for it. -/
theorem Held.none_waits {entry : Option SuspenseEntry} (h : Held entryId requests entry)
    (hfree : ∀ e ∈ entry, e.status ≠ .pendingApproval) :
    ∀ p ∈ requests, p.waitsFor entryId = false := by
  intro p hp
  by_contra hwaits
  rw [Bool.not_eq_false] at hwaits
  obtain ⟨i, hi⟩ := List.mem_iff_getElem?.mp hp
  obtain ⟨-, e, he, hstatus⟩ := h.own i p hi hwaits
  exact hfree e he hstatus

/-- The entry moves between states in which it is not held. -/
theorem Held.moves {entry entry' : Option SuspenseEntry} (h : Held entryId requests entry)
    (hstays : ∀ e ∈ entry, ∃ e' ∈ entry', e'.tenantId = e.tenantId)
    (hfree : ∀ e ∈ entry, e.status ≠ .pendingApproval)
    (hfree' : ∀ e ∈ entry', e.status ≠ .pendingApproval) : Held entryId requests entry' := by
  refine ⟨fun p hp habout => ?_, fun i p hp hwaits => ?_,
    fun e he hstatus => absurd hstatus (hfree' e he)⟩
  · obtain ⟨htype, e, he, htenant⟩ := h.about p hp habout
    obtain ⟨e', he', hsame⟩ := hstays e he
    exact ⟨htype, e', he', hsame.trans htenant⟩
  · exact absurd hwaits (by simp [h.none_waits hfree p (List.mem_of_getElem? hp)])

/-- A request about something else is put in. -/
theorem Held.asks {entry : Option SuspenseEntry} {p : PendingApproval}
    (h : Held entryId requests entry)
    (hother : p.details.suspenseId ≠ some entryId) : Held entryId (requests ++ [p]) entry := by
  have hwaits : p.waitsFor entryId = false := by simp [PendingApproval.waitsFor, hother]
  have hold : ∀ (i : ℕ) (q : PendingApproval), (requests ++ [p])[i]? = some q →
      q.waitsFor entryId = true →
      requests[i]? = some q := by
    intro i q hq hqwaits
    by_cases hi : i < requests.length
    · rwa [List.getElem?_append_left hi] at hq
    · rw [List.getElem?_append_right (not_lt.mp hi), List.getElem?_singleton] at hq
      split_ifs at hq
      obtain rfl := Option.some.inj hq
      simp [hwaits] at hqwaits
  refine ⟨fun q hq habout => ?_, fun i q hq hqwaits => ?_, fun e he hstatus => ?_⟩
  · obtain hq | hq := List.mem_append.mp hq
    · exact h.about q hq habout
    · obtain rfl := List.mem_singleton.mp hq
      exact absurd habout hother
  · rw [holder_append, if_neg hother]
    exact h.own i q (hold i q hq hqwaits) hqwaits
  · obtain ⟨i, q, hq, hqwaits⟩ := h.held e he hstatus
    refine ⟨i, q, ?_, hqwaits⟩
    rw [List.getElem?_append_left (List.getElem?_eq_some_iff.mp hq).1, hq]

/-- A request places the hold on an entry that is not held. -/
theorem Held.places {e e' : SuspenseEntry} {p : PendingApproval}
    (h : Held entryId requests (some e))
    (hfree : e.status ≠ .pendingApproval) (habout : p.details.suspenseId = some entryId)
    (htype : p.actionType.ofSuspense = true) (htenant : e.tenantId = p.tenantId)
    (hwaits : p.status = .pendingApproval) (hstays : e'.tenantId = e.tenantId)
    (hheld : e'.status = .pendingApproval) : Held entryId (requests ++ [p]) (some e') := by
  have hnone := h.none_waits fun e₁ he₁ => by
    obtain rfl := Option.some.inj he₁
    exact hfree
  have hp : p.waitsFor entryId = true := by simp [PendingApproval.waitsFor, hwaits, habout]
  refine ⟨fun q hq hqabout => ?_, fun i q hq hqwaits => ?_, fun e₁ he₁ hstatus => ?_⟩
  · refine ⟨?_, e', rfl, ?_⟩
    · obtain hq | hq := List.mem_append.mp hq
      · exact (h.about q hq hqabout).1
      · obtain rfl := List.mem_singleton.mp hq
        exact htype
    · obtain hq | hq := List.mem_append.mp hq
      · obtain ⟨-, e₁, he₁, hsame⟩ := h.about q hq hqabout
        obtain rfl := Option.some.inj he₁
        exact hstays.trans hsame
      · obtain rfl := List.mem_singleton.mp hq
        exact hstays.trans htenant
  · refine ⟨?_, e', rfl, hheld⟩
    rw [holder_append, if_pos habout]
    by_cases hi : i < requests.length
    · rw [List.getElem?_append_left hi] at hq
      exact absurd hqwaits (by simp [hnone q (List.mem_of_getElem? hq)])
    · have hlt := (List.getElem?_eq_some_iff.mp hq).1
      rw [List.length_append, List.length_singleton] at hlt
      exact congrArg some (by omega)
  · exact ⟨requests.length, p, List.getElem?_concat_length, hp⟩

/-- A request is decided: one about the entry releases the hold, one about something else
leaves the entry as it is. -/
theorem Held.decides {entry entry' : Option SuspenseEntry} {r : ℕ} {p : PendingApproval}
    {f : PendingApproval → PendingApproval} (h : Held entryId requests entry)
    (hp : requests[r]? = some p)
    (hwaiting : p.details.suspenseId = some entryId → p.status = .pendingApproval)
    (hf : ∀ q, (f q).details = q.details ∧ (f q).actionType = q.actionType ∧
      (f q).tenantId = q.tenantId ∧ (f q).status ≠ .pendingApproval)
    (hown : p.details.suspenseId = some entryId →
      (∀ e ∈ entry, ∃ e' ∈ entry', e'.tenantId = e.tenantId) ∧
        ∀ e' ∈ entry', e'.status ≠ .pendingApproval)
    (hother : p.details.suspenseId ≠ some entryId → entry' = entry) :
    Held entryId (requests.modify r f) entry' := by
  have hback : ∀ (i : ℕ) (q : PendingApproval), (requests.modify r f)[i]? = some q →
      ∃ q₀, requests[i]? = some q₀ ∧ q.details = q₀.details ∧ q.actionType = q₀.actionType ∧
        q.tenantId = q₀.tenantId ∧ (q.waitsFor entryId = true → i ≠ r ∧ q = q₀) := by
    intro i q hq
    rw [List.getElem?_modify] at hq
    rw [Option.map_eq_map, Option.map_eq_some_iff] at hq
    obtain ⟨q₀, hq₀, heq⟩ := hq
    obtain ⟨hdetails, htype, htenant, hstatus⟩ := hf q₀
    by_cases hi : r = i
    · obtain rfl : f q₀ = q := by rwa [if_pos hi] at heq
      exact ⟨q₀, hq₀, hdetails, htype, htenant,
        fun hw => by simp [PendingApproval.waitsFor, hstatus] at hw⟩
    · obtain rfl : q₀ = q := by rwa [if_neg hi] at heq
      exact ⟨q₀, hq₀, rfl, rfl, rfl, fun _ => ⟨Ne.symm hi, rfl⟩⟩
  by_cases habout : p.details.suspenseId = some entryId
  · obtain ⟨hstays, hfree⟩ := hown habout
    have hpwaits : p.waitsFor entryId = true := by
      simp [PendingApproval.waitsFor, hwaiting habout, habout]
    have hholder := (h.own r p hp hpwaits).1
    refine ⟨fun q hq hqabout => ?_, fun i q hq hqwaits => ?_,
      fun e he hstatus => absurd hstatus (hfree e he)⟩
    · obtain ⟨i, hi⟩ := List.mem_iff_getElem?.mp hq
      obtain ⟨q₀, hq₀, hdetails, htype, htenant, -⟩ := hback i q hi
      obtain ⟨hsuspense, e, he, hsame⟩ := h.about q₀ (List.mem_of_getElem? hq₀) (hdetails ▸ hqabout)
      obtain ⟨e', he', hkept⟩ := hstays e he
      exact ⟨htype ▸ hsuspense, e', he', by rw [hkept, hsame, htenant]⟩
    · obtain ⟨q₀, hq₀, -, -, -, hsame⟩ := hback i q hq
      obtain ⟨hi, rfl⟩ := hsame hqwaits
      have := (h.own i q hq₀ hqwaits).1
      exact absurd (Option.some.inj (this.symm.trans hholder)) hi
  · obtain rfl := hother habout
    refine ⟨fun q hq hqabout => ?_, fun i q hq hqwaits => ?_, fun e he hstatus => ?_⟩
    · obtain ⟨i, hi⟩ := List.mem_iff_getElem?.mp hq
      obtain ⟨q₀, hq₀, hdetails, htype, htenant, -⟩ := hback i q hi
      obtain ⟨hsuspense, e, he, hsame⟩ := h.about q₀ (List.mem_of_getElem? hq₀) (hdetails ▸ hqabout)
      exact ⟨htype ▸ hsuspense, e, he, by rw [hsame, htenant]⟩
    · obtain ⟨q₀, hq₀, -, -, -, hsame⟩ := hback i q hq
      obtain ⟨-, rfl⟩ := hsame hqwaits
      rw [holder_modify r fun q => (hf q).1]
      exact h.own i q hq₀ hqwaits
    · obtain ⟨i, q, hq, hqwaits⟩ := h.held e he hstatus
      have hi : r ≠ i := by
        rintro rfl
        obtain rfl := Option.some.inj (hp.symm.trans hq)
        simp [PendingApproval.waitsFor, habout] at hqwaits
      exact ⟨i, q, by rw [List.getElem?_modify_ne _ _ hi, hq], hqwaits⟩

/-- The entry stays as it is, or comes in open. -/
theorem Held.kept {moves : ℕ → SuspenseEntry → SuspenseEntry → Prop}
    {before after : List SuspenseEntry}
    (h : Held entryId requests before[entryId]?) (hmoves : EntriesMove moves before after)
    (hsame : ∀ e e', moves entryId e e' → e' = e) : Held entryId requests after[entryId]? := by
  cases hentry : before[entryId]? with
  | none =>
    refine h.moves (by simp [hentry]) (by simp [hentry]) fun e he hstatus => ?_
    rw [hmoves.fresh entryId e hentry he] at hstatus
    cases hstatus
  | some e =>
    obtain ⟨e', he', -, hm⟩ := hmoves.rows entryId e hentry
    obtain rfl := hsame e e' hm
    rwa [Option.mem_def.mp he', ← hentry]

end Requests

/-- The invariant: requests and entry agree, and while the entry may be taken nothing of it
has left. -/
structure HoldSound (entryId : ℕ) (db : Db) : Prop where
  held : Held entryId db.pending db.suspense[entryId]?
  once : db.left entryId ≤ 1
  available : Available entryId db → db.left entryId = 0

section Deeds

variable {entryId : ℕ} {db db' : Db}

/-- A request that a deed decides and approves or rejects. -/
theorem Held.decided_db {entry entry' : Option SuspenseEntry} {r checkerId : ℕ}
    {p : PendingApproval}
    {status : ApprovalStatus} (h : Held entryId db.pending entry) (hp : db.pending[r]? = some p)
    (hstatus : status ≠ .pendingApproval)
    (hwaiting : p.details.suspenseId = some entryId → p.status = .pendingApproval)
    (hown : p.details.suspenseId = some entryId →
      (∀ e ∈ entry, ∃ e' ∈ entry', e'.tenantId = e.tenantId) ∧
        ∀ e' ∈ entry', e'.status ≠ .pendingApproval)
    (hother : p.details.suspenseId ≠ some entryId → entry' = entry) :
    Held entryId (decided db r status checkerId).pending entry' :=
  h.decides hp hwaiting (fun _ => ⟨rfl, rfl, rfl, hstatus⟩) hown hother

/-- A request that is not about the entry is decided. -/
theorem Held.decided_other {entry : Option SuspenseEntry} {r checkerId : ℕ} {p : PendingApproval}
    {status : ApprovalStatus} (h : Held entryId db.pending entry) (hp : db.pending[r]? = some p)
    (hstatus : status ≠ .pendingApproval) (habout : p.details.suspenseId ≠ some entryId) :
    Held entryId (decided db r status checkerId).pending entry :=
  h.decided_db hp hstatus (fun h => absurd h habout) (fun h => absurd h habout) fun _ => rfl

/-- A request about the entry is decided and the hold released. -/
theorem Held.released {entry entry' : SuspenseEntry} {r checkerId : ℕ} {p : PendingApproval}
    {status : ApprovalStatus} (h : Held entryId db.pending (some entry)) (hp : Waiting db r p)
    (hstatus : status ≠ .pendingApproval) (habout : p.details.suspenseId = some entryId)
    (hsame : entry'.tenantId = entry.tenantId) (hfree : entry'.status ≠ .pendingApproval) :
    Held entryId (decided db r status checkerId).pending (some entry') := by
  refine h.decided_db hp.row hstatus (fun _ => hp.waits) (fun _ => ⟨?_, ?_⟩)
    fun hother => absurd habout hother
  · intro e he
    obtain rfl := Option.some.inj he
    exact ⟨entry', rfl, hsame⟩
  · intro e he
    obtain rfl := Option.some.inj he
    exact hfree

/-- An entry is parked with the request that waits for it. -/
theorem Held.parked {id : ℕ} {entry : SuspenseEntry} {p : PendingApproval}
    (h : Held entryId db.pending db.suspense[entryId]?) (hentry : db.suspense[id]? = some entry)
    (hopen : entry.status = .open) (habout : p.details.suspenseId = some id)
    (htenant : entry.tenantId = p.tenantId) (htype : p.actionType.ofSuspense = true)
    (hwaits : p.status = .pendingApproval)
    (hsuspense : EntriesMove (Becomes id (· = .pendingApproval)) db.suspense db'.suspense) :
    Held entryId (db.pending ++ [p]) db'.suspense[entryId]? := by
  by_cases hid : entryId = id
  · subst hid
    obtain ⟨e', he', hsame, hm⟩ := hsuspense.rows entryId entry hentry
    rw [Option.mem_def.mp he']
    rw [hentry] at h
    exact h.places (by simp [hopen]) habout htype htenant hwaits hsame ((if_pos rfl).mp hm)
  · refine (h.asks ?_).kept hsuspense fun e e' hm => (if_neg hid).mp hm
    rw [habout]
    exact fun heq => hid (Option.some.inj heq).symm

/-- An entry that waits for nothing is allocated. -/
theorem Held.allocated {id : ℕ} {entry : SuspenseEntry}
    (h : Held entryId db.pending db.suspense[entryId]?) (hentry : db.suspense[id]? = some entry)
    (hopen : entry.status = .open)
    (hsuspense : EntriesMove (Becomes id (· = .allocated)) db.suspense db'.suspense) :
    Held entryId db.pending db'.suspense[entryId]? := by
  by_cases hid : entryId = id
  · subst hid
    obtain ⟨e', he', hsame, hm⟩ := hsuspense.rows entryId entry hentry
    have hstatus : e'.status = .allocated := (if_pos rfl).mp hm
    rw [Option.mem_def.mp he']
    rw [hentry] at h
    exact h.moves (by simpa using hsame) (by simp [hopen]) (by simp [hstatus])
  · exact h.kept hsuspense fun e e' hm => (if_neg hid).mp hm

/-- A rejected request gives its entry back. -/
theorem Held.rejected {r checkerId : ℕ} {p : PendingApproval}
    (h : Held entryId db.pending db.suspense[entryId]?) (hp : Waiting db r p)
    (hsuspense : EntriesMove (fun j e e' => if p.actionType.ofSuspense = true ∧
      p.details.suspenseId = some j ∧ e.tenantId = p.tenantId ∧ e.status = .pendingApproval
      then e'.status = .open else e' = e) db.suspense db'.suspense) :
    Held entryId (decided db r .rejected checkerId).pending db'.suspense[entryId]? := by
  by_cases habout : p.details.suspenseId = some entryId
  · have hwaits : p.waitsFor entryId = true := by
      simp [PendingApproval.waitsFor, hp.waits, habout]
    obtain ⟨htype, e, he, htenant⟩ := h.about p (List.mem_of_getElem? hp.row) habout
    obtain ⟨-, e₁, he₁, hstatus⟩ := h.own r p hp.row hwaits
    obtain rfl := Option.some.inj (he.symm.trans he₁)
    obtain ⟨e', he', hsame, hm⟩ := hsuspense.rows entryId e he
    rw [if_pos ⟨htype, habout, htenant, hstatus⟩] at hm
    rw [Option.mem_def.mp he] at h
    rw [Option.mem_def.mp he']
    exact h.released hp (by simp) habout hsame (by simp [hm])
  · refine (h.decided_other hp.row (by simp) habout).kept hsuspense fun e e' hm => ?_
    rwa [if_neg fun h => habout h.2.1] at hm

/-- A request that is not about suspense money is approved. -/
theorem Held.approved {r checkerId : ℕ} {p : PendingApproval}
    (h : Held entryId db.pending db.suspense[entryId]?) (hp : db.pending[r]? = some p)
    (htype : p.actionType.ofSuspense = false)
    (hsuspense : EntriesMove (fun _ e e' => e' = e) db.suspense db'.suspense) :
    Held entryId (decided db r .approved checkerId).pending db'.suspense[entryId]? := by
  have habout : p.details.suspenseId ≠ some entryId := fun habout => by
    have := (h.about p (List.mem_of_getElem? hp) habout).1
    rw [htype] at this
    cases this
  exact (h.decided_other hp (by simp) habout).kept hsuspense fun e e' h => h

/-- An allocation is approved, and the entry of its request allocated with it. -/
theorem Held.approvedAllocation {r id checkerId : ℕ} {p : PendingApproval} {entry : SuspenseEntry}
    (h : Held entryId db.pending db.suspense[entryId]?) (hp : Waiting db r p)
    (hlocked : Locked db p id entry)
    (hsuspense : EntriesMove (Becomes id (· = .allocated)) db.suspense db'.suspense) :
    Held entryId (decided db r .approved checkerId).pending db'.suspense[entryId]? := by
  by_cases hid : entryId = id
  · subst hid
    obtain ⟨e', he', hsame, hm⟩ := hsuspense.rows entryId entry hlocked.row
    have hstatus : e'.status = .allocated := (if_pos rfl).mp hm
    rw [hlocked.row] at h
    rw [Option.mem_def.mp he']
    exact h.released hp (by simp) hlocked.about hsame (by simp [hstatus])
  · have habout : p.details.suspenseId ≠ some entryId := by
      rw [hlocked.about]
      exact fun heq => hid (Option.some.inj heq).symm
    exact (h.decided_other hp.row (by simp) habout).kept hsuspense
      fun e e' hm => (if_neg hid).mp hm

/-- Money is sent for a request, which is decided with it if it is about the entry. -/
theorem Held.sent {r checkerId : ℕ} {p : PendingApproval} {source : Option ℕ} {isDecided : Bool}
    (h : Held entryId db.pending db.suspense[entryId]?) (hp : Waiting db r p)
    (hsource : ∀ id ∈ source, ∃ entry, Locked db p id entry)
    (hnone : source = none → p.actionType.ofSuspense = false)
    (hsuspense : EntriesMove
      (fun j e e' => if source = some j then e'.status.held = false else e' = e)
      db.suspense db'.suspense)
    (hover : p.details.suspenseId = some entryId → isDecided = true) :
    Held entryId (if isDecided then (decided db r .approved checkerId).pending else db.pending)
      db'.suspense[entryId]? := by
  by_cases hentry : source = some entryId
  · obtain ⟨entry, hlocked⟩ := hsource entryId hentry
    obtain ⟨e', he', hsame, hm⟩ := hsuspense.rows entryId entry hlocked.row
    rw [if_pos hentry] at hm
    rw [hlocked.row] at h
    rw [hover hlocked.about, Option.mem_def.mp he']
    refine h.released hp (by simp) hlocked.about hsame fun hstatus => ?_
    simp [hstatus, SuspenseStatus.held] at hm
  · have habout : p.details.suspenseId ≠ some entryId := fun habout => by
      cases hs : source with
      | none =>
        have := (h.about p (List.mem_of_getElem? hp.row) habout).1
        rw [hnone hs] at this
        cases this
      | some id =>
        obtain ⟨entry, hlocked⟩ := hsource id hs
        exact hentry (hs.trans (hlocked.about.symm.trans habout))
    split
    · exact (h.decided_other hp.row (by simp) habout).kept hsuspense
        fun e e' hm => (if_neg hentry).mp hm
    · exact h.kept hsuspense fun e e' hm => (if_neg hentry).mp hm

/-- A transaction is marked, whose entry can no longer be taken. -/
theorem HoldSound.marked {txnId : ℕ} {row : PaymentTransaction} {status : TransactionStatus}
    (h : HoldSound entryId db) (hmarked : Marked db db' txnId row status)
    (hlive : row.status ≠ .failed) : Held entryId db.pending db'.suspense[entryId]? := by
  have hheld := h.held
  by_cases hsource : row.rawPayload.suspenseId = some entryId
  · have htakes : row.takes entryId = true := by
      simp [PaymentTransaction.takes, hmarked.outgoing, hsource]
    have hleft : 1 ≤ db.left entryId :=
      one_le_length_filter hmarked.found (by simp [htakes, hlive])
    have hnot : ¬ Available entryId db := fun havailable => by
      have := h.available havailable
      omega
    simp only [Available, not_forall, Bool.not_eq_true] at hnot
    obtain ⟨e, he, hfree⟩ := hnot
    obtain ⟨e', he', hsame, hm⟩ := hmarked.suspense.rows entryId e he
    rw [Option.mem_def.mp he']
    rw [Option.mem_def.mp he] at hheld
    have hstatus : e.status ≠ .pendingApproval := fun h => by
      simp [h, SuspenseStatus.held] at hfree
    refine hheld.moves (by simpa using hsame) (by simpa using hstatus) ?_
    obtain rfl | ⟨-, hclosed | hclosed | ⟨hclosed, -⟩⟩ := hm
    · simpa using hstatus
    · simp [hclosed]
    · simp [hclosed]
    · simp [hclosed]
  · refine hheld.kept hmarked.suspense fun e e' hm => ?_
    exact hm.resolve_right fun h => hsource h.1

/-- A deed keeps requests and entry in agreement, when a request about the entry that sends money
is decided with it. -/
theorem HoldSound.held_deed {request allocated : Option ℕ} (h : HoldSound entryId db)
    (hdeed : Deed db db' request allocated)
    (hdecided : ∀ r ∈ request, ∀ p ∈ db.pending[r]?, p.details.suspenseId = some entryId →
      ∀ p' ∈ db'.pending[r]?, p'.status ≠ .pendingApproval) :
    Held entryId db'.pending db'.suspense[entryId]? := by
  have hheld := h.held
  cases hdeed with
  | aside htxns hsuspense hpending =>
    rw [hpending]
    exact hheld.kept hsuspense fun e e' h => h
  | asks p hwaits habout htxns hsuspense hpending =>
    rw [hpending, hsuspense]
    exact hheld.asks (by simp [habout])
  | parks id entry p hentry hopen habout htenant htype hwaits htxns hsuspense hpending =>
    rw [hpending]
    exact hheld.parked hentry hopen habout htenant htype hwaits hsuspense
  | allocates id entry hentry hopen htxns hsuspense hpending =>
    rw [hpending]
    exact hheld.allocated hentry hopen hsuspense
  | rejects r p hp checkerId htxns hsuspense hpending =>
    rw [hpending]
    exact hheld.rejected hp hsuspense
  | approves r p hp htype checkerId htxns hsuspense hpending =>
    rw [hpending]
    exact hheld.approved hp htype hsuspense
  | approvesAllocation r p hp id entry hlocked checkerId htxns hsuspense hpending =>
    rw [hpending]
    exact hheld.approvedAllocation hp hlocked hsuspense
  | sends r p hp source hsource hnone t hout hlive hfrom hfor htxns hsuspense isDecided checkerId
      hpending =>
    have hover : p.details.suspenseId = some entryId → isDecided = true := by
      intro habout
      by_contra hnot
      rw [Bool.not_eq_true] at hnot
      rw [hnot] at hpending
      refine hdecided r rfl p hp.row habout p ?_ hp.waits
      rw [hpending]
      exact hp.row
    rw [hpending]
    exact hheld.sent hp hsource hnone hsuspense hover
  | marks txnId row status hmarked hlive hpending =>
    rw [hpending]
    exact h.marked hmarked hlive

/-- The step lemma: a deed keeps the invariant. -/
theorem HoldSound.deed {request allocated : Option ℕ} (h : HoldSound entryId db)
    (hdeed : Deed db db' request allocated)
    (hdecided : ∀ r ∈ request, ∀ p ∈ db.pending[r]?, p.details.suspenseId = some entryId →
      ∀ p' ∈ db'.pending[r]?, p'.status ≠ .pendingApproval) : HoldSound entryId db' := by
  have honce := h.once
  have hgoal := h.held_deed hdeed hdecided
  have hshifts : Shifts entryId db db' allocated := hdeed.shifts
  cases hshifts with
  | keeps hleft hnone hkept =>
    exact ⟨hgoal, hleft ▸ honce, fun havailable => hleft ▸ h.available (hkept havailable)⟩
  | takes hleft hbefore hafter =>
    have hzero := h.available hbefore
    exact ⟨hgoal, by split_ifs at hleft <;> omega, fun havailable => absurd havailable hafter⟩
  | returns hleft hnone => exact ⟨hgoal, by omega, fun _ => by omega⟩

/-- A request that waits for an entry placed its hold. -/
theorem HoldSound.own {r : ℕ} {p : PendingApproval} {entry : SuspenseEntry}
    (h : HoldSound entryId db)
    (hp : Waiting db r p) (habout : p.details.suspenseId = some entryId)
    (hentry : db.suspense[entryId]? = some entry) :
    entry.status = .pendingApproval ∧ holder entryId db.pending = some r := by
  obtain ⟨hholder, e, he, hstatus⟩ :=
    h.held.own r p hp.row (by simp [PendingApproval.waitsFor, hp.waits, habout])
  obtain rfl := Option.some.inj (hentry.symm.trans he)
  exact ⟨hstatus, hholder⟩

/-- A deed of a decision moves an entry only under the request's own hold. -/
theorem Deed.own_hold {r : ℕ} {allocated : Option ℕ} {entry : SuspenseEntry}
    (h : HoldSound entryId db)
    (hdeed : Deed db db' (some r) allocated) (hentry : db.suspense[entryId]? = some entry)
    (hchanged : db'.suspense[entryId]? ≠ some entry) :
    entry.status = .pendingApproval ∧ holder entryId db.pending = some r := by
  have hkept : ∀ {moves : ℕ → SuspenseEntry → SuspenseEntry → Prop},
      EntriesMove moves db.suspense db'.suspense → ¬ ∀ e', moves entryId entry e' → e' = entry := by
    intro moves hmoves hsame
    obtain ⟨e', he', -, hm⟩ := hmoves.rows entryId entry hentry
    exact hchanged (hsame e' hm ▸ he')
  cases hdeed with
  | rejects _ p hp checkerId htxns hsuspense =>
    by_cases habout : p.details.suspenseId = some entryId
    · exact h.own hp habout hentry
    · exact absurd (fun e' hm => by rwa [if_neg fun h => habout h.2.1] at hm) (hkept hsuspense)
  | approves _ p hp htype checkerId htxns hsuspense =>
      exact absurd (fun e' h => h) (hkept hsuspense)
  | approvesAllocation _ p hp id held hlocked checkerId htxns hsuspense =>
    by_cases hid : entryId = id
    · exact h.own hp (hid ▸ hlocked.about) hentry
    · exact absurd (fun e' hm => (if_neg hid).mp hm) (hkept hsuspense)
  | sends _ p hp source hsource hnone t hout hlive hfrom hfor htxns hsuspense =>
    by_cases hsid : source = some entryId
    · obtain ⟨held, hlocked⟩ := hsource entryId hsid
      exact h.own hp hlocked.about hentry
    · exact absurd (fun e' hm => (if_neg hsid).mp hm) (hkept hsuspense)

end Deeds

section Serve

variable {entryId : ℕ} {db : Db} {tenantId pendingId : ℕ} {action : String} {checker : Checker}
  {freshRef : String} {reply : B2cReply} {receipt : String} {now : ℤ}

theorem serve_refused {failure : Failure}
    (h : beginDecision db tenantId pendingId action checker freshRef now = .error failure) :
    serve db (.decide tenantId pendingId action checker freshRef reply receipt now) = db := by
  simp [serve, MoneyDesk.step, h]

theorem serve_finished {begun : Db} {payment : Option ApplyResult}
    (h : beginDecision db tenantId pendingId action checker freshRef now =
      .ok (begun, .finished payment)) :
    serve db (.decide tenantId pendingId action checker freshRef reply receipt now) = begun := by
  simp [serve, MoneyDesk.step, MoneyDesk.decide, h]

/-- A decision that makes a payout or refund call ends with the answer, if it can be saved. -/
theorem serve_called {begun : Db} {call : OutgoingCall} (hcall : ∀ id, call ≠ .reversal id)
    (h : beginDecision db tenantId pendingId action checker freshRef now =
      .ok (begun, .waiting call)) :
    serve db (.decide tenantId pendingId action checker freshRef reply receipt now) =
      match (finishDecision begun tenantId pendingId checker.id call reply receipt now).1 with
      | .ok saved => saved
      | .error _ => begun := by
  simp only [serve, MoneyDesk.step, h]
  cases call with
  | reversal id => exact absurd rfl (hcall id)
  | payout loanId txnId =>
    simp only [MoneyDesk.decide, List.nil_append, List.getElem?_cons_zero]
    cases (finishDecision begun tenantId pendingId checker.id
      (.payout loanId txnId) reply receipt now).1 <;>
      rfl
  | refund txnId =>
    simp only [MoneyDesk.decide, List.nil_append, List.getElem?_cons_zero]
    cases (finishDecision begun tenantId pendingId checker.id
      (.refund txnId) reply receipt now).1 <;> rfl

/-- A reversal is saved with its answer, or not at all. -/
theorem serve_reversal {id : ℕ}
    (h : beginDecision db tenantId pendingId action checker freshRef now =
      .ok (db, .waiting (.reversal id))) :
    serve db (.decide tenantId pendingId action checker freshRef reply receipt now) =
      match finishDecision db tenantId pendingId checker.id (.reversal id) reply receipt now with
      | (.ok saved, none) => saved
      | _ => db := by
  simp only [serve, MoneyDesk.step, h, MoneyDesk.decide]
  generalize finishDecision db tenantId pendingId checker.id (.reversal id) reply receipt now = out
  obtain ⟨saved, failure⟩ := out
  cases saved <;> cases failure <;> by_cases hgone : reply.mayHaveGone = true <;> simp [hgone]

/-- An event that is no decision is one deed. -/
theorem serve_deed (db : Db) {e : MoneyEvent} (he : e.request = none) :
    serve db e = db ∨ ∃ allocated, Deed db (serve db e) none allocated := by
  have hserve : serve db e = (MoneyDesk.step ⟨db, [], [], []⟩ e).db := by
    cases e <;> first | rfl | cases he
  have hturn := MoneyDesk.step_turn (s := ⟨db, [], [], []⟩) (by simp) e
  rw [hserve]
  generalize MoneyDesk.step ⟨db, [], [], []⟩ e = s' at hturn
  cases hturn with
  | idle => exact .inl rfl
  | deed _ db' request allocated hdeed hrequest =>
    obtain rfl : request = none := hrequest.elim id fun h => h.trans he
    exact .inr ⟨allocated, hdeed⟩
  | calls _ db' request hdeed hrequest c hsound hown => simp [he] at hown
  | loses => cases he
  | pays n _ _ _ c hc => simp at hc
  | answers n _ _ _ c hc => simp at hc
  | unsaved n _ _ _ c hc => simp at hc
  | stops n => exact .inl rfl

/-- A reference that is free stays so when an intent is added, which has none. -/
theorem RefFree.append {t : PaymentTransaction} {ref : Option String} {db' : Db}
    (h : RefFree db tenantId ref) (htxns : db'.transactions = db.transactions ++ [t])
    (hnone : t.mpesaRef = none) : RefFree db' tenantId ref := by
  intro r hr t' ht' htenant
  rw [htxns] at ht'
  obtain hold | hnew := List.mem_append.mp ht'
  · exact h r hr t' hold htenant
  · obtain rfl := List.mem_singleton.mp hnew
    simp [hnone]

/-- The decision that sends a refund, with the answer to it. -/
theorem HoldSound.refunds {begun : Db} {p : PendingApproval} {row : PaymentTransaction}
    (h : HoldSound entryId db) (hp : Waiting db pendingId p)
    (hrow : begun.transactions[db.transactions.length]? = some row) (hrefund : row.type = .refund)
    (hnew : row.status = .initiated)
    (hdeed : ∀ (isDecided : Bool) (checkerId : ℕ), Deed db { begun with pending :=
      if isDecided then (decided begun pendingId .approved checkerId).pending else begun.pending }
      (some pendingId) none)
    (htaken : p.details.suspenseId = some entryId →
      ∃ ack saved, sendB2c reply = .accepted ack ∧
        (finishDecision begun tenantId pendingId checker.id
        (.refund db.transactions.length) reply receipt now).1 = .ok saved) :
    HoldSound entryId (match (finishDecision begun tenantId pendingId checker.id
      (.refund db.transactions.length) reply receipt now).1 with
      | .ok saved => saved
      | .error _ => begun) := by
  have hbegun : p.details.suspenseId ≠ some entryId → HoldSound entryId begun := fun habout => by
    refine h.deed (by simpa using hdeed false 0) fun r hr q hq habout' => ?_
    obtain rfl := Option.some.inj hr
    obtain rfl := Option.some.inj (hp.row.symm.trans hq)
    exact absurd habout' habout
  have hdone : HoldSound entryId
      { begun with pending := (decided begun pendingId .approved checker.id).pending } := by
    refine h.deed (by simpa using hdeed true checker.id) fun r hr q hq _ => ?_
    obtain rfl := Option.some.inj hr
    exact decided_status (by simp)
  have hlive : row.status ≠ .failed := by simp [hnew]
  cases hfinish :
    (finishDecision begun tenantId pendingId checker.id (.refund db.transactions.length)
      reply receipt now).1 with
  | error failure =>
    refine hbegun fun habout => ?_
    obtain ⟨ack, saved, -, hsaved⟩ := htaken habout
    rw [hfinish] at hsaved
    cases hsaved
  | ok saved =>
    have hanswered := finishRefund_eq_ok hrow hrefund hfinish
    have hsent : (∃ ack, sendB2c reply = .accepted ack) ∨ p.details.suspenseId ≠ some entryId := by
      by_cases habout : p.details.suspenseId = some entryId
      · obtain ⟨ack, -, hack, -⟩ := htaken habout
        exact .inl ⟨ack, hack⟩
      · exact .inr habout
    generalize sendB2c reply = sent at hanswered hsent
    cases hanswered with
    | refused why hmarked hpending =>
      have habout := hsent.resolve_left (by simp)
      exact (hbegun habout).deed (.marks _ row _ hmarked hlive hpending) (by simp)
    | uncertain why hmarked hpending =>
      have habout := hsent.resolve_left (by simp)
      exact (hbegun habout).deed (.marks _ row _ hmarked hlive hpending) (by simp)
    | accepted ack status hnotfailed hmarked hpending =>
      refine hdone.deed (.marks db.transactions.length row status ?_ hlive hpending) (by simp)
      exact ⟨hmarked.found, hmarked.outgoing, hmarked.txns, hmarked.suspense⟩

/-- What the refund of a decision does to an entry, the answer included. -/
theorem own_hold_of_refund {begun saved : Db} {p : PendingApproval} {row : PaymentTransaction}
    {sent : SendResult} {entry : SuspenseEntry} {checkerId : ℕ} (h : HoldSound entryId db)
    (hp : Waiting db pendingId p) (hdeed : Deed db begun (some pendingId) none)
    (hsource : ∀ id ∈ row.rawPayload.suspenseId, ∃ entry, Locked db p id entry)
    (hanswered : RefundAnswered begun db.transactions.length pendingId checkerId row saved sent)
    (hentry : db.suspense[entryId]? = some entry)
    (hchanged : saved.suspense[entryId]? ≠ some entry) :
    entry.status = .pendingApproval ∧ holder entryId db.pending = some pendingId := by
  obtain ⟨⟨status, hmarked⟩, -⟩ := hanswered.stays
  by_cases hbegun : begun.suspense[entryId]? = some entry
  · obtain ⟨e', he', -, hm⟩ := hmarked.suspense.rows entryId entry hbegun
    obtain rfl | ⟨hsid, -⟩ := hm
    · exact absurd he' hchanged
    · obtain ⟨held, hlocked⟩ := hsource entryId hsid
      exact h.own hp hlocked.about hentry
  · exact hdeed.own_hold h hentry hbegun

/-- A decision leaves the holds sound, and moves the entry only under the hold of its own
request. -/
structure Decides (entryId : ℕ) (db : Db) (pendingId : ℕ) (db' : Db) : Prop where
  sound : HoldSound entryId db'
  own : ∀ entry, db.suspense[entryId]? = some entry → db'.suspense[entryId]? ≠ some entry →
    entry.status = .pendingApproval ∧ holder entryId db.pending = some pendingId

/-- A decision that changes no entry. -/
theorem Decides.still {db' : Db} (h : HoldSound entryId db') (hsame : db'.suspense = db.suspense) :
    Decides entryId db pendingId db' :=
  ⟨h, fun _ hentry hchanged => absurd (hsame ▸ hentry) hchanged⟩

/-- A decision that ends with its deed. -/
theorem HoldSound.finishes {db' : Db} {allocated : Option ℕ} (h : HoldSound entryId db)
    (hdeed : Deed db db' (some pendingId) allocated)
    (hdecided : ∀ p ∈ db'.pending[pendingId]?, p.status ≠ .pendingApproval) :
    Decides entryId db pendingId db' := by
  refine ⟨h.deed hdeed fun r hr p hp _ => ?_,
    fun entry hentry hchanged => hdeed.own_hold h hentry hchanged⟩
  obtain rfl := Option.some.inj hr
  exact hdecided

/-- The decision that makes a payout, with the answer to it. -/
theorem HoldSound.paysOut {begun : Db} {p : PendingApproval} {loanId txnId : ℕ}
    {row : PaymentTransaction} (h : HoldSound entryId db) (hp : Waiting db pendingId p)
    (htype : p.actionType = .disbursement) (hrow : begun.transactions[txnId]? = some row)
    (hout : row.outgoing = false) (hdeed : Deed db begun none none)
    (hsuspense : begun.suspense = db.suspense) :
    Decides entryId db pendingId (match (finishDecision begun tenantId pendingId checker.id
      (.payout loanId txnId) reply receipt now).1 with
      | .ok saved => saved
      | .error _ => begun) := by
  have hsound : HoldSound entryId begun := h.deed hdeed (by simp)
  obtain ⟨p', hp', hsame, -⟩ := hdeed.requests_stay hp.row
  have htype' : p'.actionType.ofSuspense = false := by
    rw [hsame, htype]
    rfl
  split
  · rename_i saved hfinish
    obtain ⟨-, hkept, hdeed' | ⟨hdeed', hdecided⟩⟩ :=
      finishPayout_deed hrow hout hp' htype' hfinish
    · exact .still (hsound.deed hdeed' (by simp)) (hkept.trans hsuspense)
    · exact .still (hsound.finishes hdeed' hdecided).sound (hkept.trans hsuspense)
  · exact .still hsound hsuspense

/-- A refund of the entry that is approved is taken in: its answer is saved. -/
theorem HoldSound.refund_saved {begun : Db} {p : PendingApproval} {row : PaymentTransaction}
    (h : HoldSound entryId db) (hp : Waiting db pendingId p)
    (htype : p.actionType = .refund ∨ p.actionType = .suspenseRefund)
    (hrow : begun.transactions[db.transactions.length]? = some row) (hrefund : row.type = .refund)
    (href : row.mpesaRef = none) (htenant : row.tenantId = tenantId)
    (hindexed : begun.indexed = true) (htxns : begun.transactions = db.transactions ++ [row])
    (hbegun : beginDecision db tenantId pendingId action checker freshRef now =
      .ok (begun, .waiting (.refund db.transactions.length)))
    (hok : RefundsTaken entryId db
      (.decide tenantId pendingId action checker freshRef reply receipt now))
    (habout : p.details.suspenseId = some entryId) :
    ∃ ack saved, sendB2c reply = .accepted ack ∧
      (finishDecision begun tenantId pendingId checker.id
      (.refund db.transactions.length) reply receipt now).1 = .ok saved := by
  have hsuspense := (h.held.about p (List.mem_of_getElem? hp.row) habout).1
  have htype' : p.actionType = .suspenseRefund := htype.resolve_left fun h => by
    rw [h] at hsuspense
    cases hsuspense
  have htaken : RefundTaken db tenantId reply receipt := by
    refine (hok (beginDecision_waiting hbegun)).elim (fun hrefused => ?_)
      fun h => h p hp.row htype' habout
    obtain ⟨failure, hfailed⟩ := hrefused.begin freshRef now
    rw [hfailed] at hbegun
    cases hbegun
  unfold RefundTaken at htaken
  split at htaken
  · rename_i ack hack
    have hfree : ∀ ack, sendB2c reply = .accepted ack →
        RefFree begun row.tenantId (refundRef ack receipt) := fun ack' hack' => by
      obtain rfl := SendResult.accepted.inj (hack.symm.trans hack')
      exact htenant ▸ htaken.append htxns href
    obtain ⟨saved, hsaved⟩ := finishRefund_saves hindexed hrow hrefund hfree
    exact ⟨ack, saved, hack, hsaved⟩
  · exact htaken.elim

/-- A decision keeps the holds, and uses no other request's. -/
theorem HoldSound.decide (h : HoldSound entryId db)
    (hok : RefundsTaken entryId db
      (.decide tenantId pendingId action checker freshRef reply receipt now)) :
    Decides entryId db pendingId (FinylDcp.serve db
      (.decide tenantId pendingId action checker freshRef reply receipt now)) := by
  cases hbegun : beginDecision db tenantId pendingId action checker freshRef now with
  | error failure =>
    rw [serve_refused hbegun]
    exact .still h rfl
  | ok out =>
    cases beginDecision_begins hbegun with
    | finishes db' payment allocated hdeed hdecided hallocated =>
      rw [serve_finished hbegun]
      exact h.finishes hdeed hdecided
    | pays db' p hp htype loanId txnId row hrow hout hdeed hsuspense =>
      rw [serve_called (by simp) hbegun]
      exact h.paysOut hp htype hrow hout hdeed hsuspense
    | refunds db' p hp htype row hrow hrefund hnew hdeed hfor hsaved hindexed' hsource hfrom
        htxns =>
      have hdeed' : Deed db db' (some pendingId) none := by simpa using hdeed false 0
      rw [serve_called (by simp) hbegun]
      refine ⟨h.refunds hp hrow hrefund hnew.1 hdeed (h.refund_saved hp htype hrow hrefund hnew.2.1
        hnew.2.2 hindexed' htxns hbegun hok), fun entry hentry hchanged => ?_⟩
      split at hchanged
      · rename_i saved hfinish
        exact own_hold_of_refund h hp hdeed' hsource (finishRefund_eq_ok hrow hrefund hfinish)
          hentry hchanged
      · exact hdeed'.own_hold h hentry hchanged
    | reverses p hp htype id entry hlocked htenant =>
      rw [serve_reversal hbegun]
      split
      · rename_i saved hfinish
        exact h.finishes (finishReversal_deed hp hlocked hfinish) (finishReversal_decided hfinish)
      · exact .still h rfl

/-- The step lemma: every event keeps the holds, and a decision uses no other request's. -/
theorem HoldSound.serve (h : HoldSound entryId db) (e : MoneyEvent)
    (hok : RefundsTaken entryId db e) : HoldSound entryId (serve db e) ∧ OwnHold entryId db e := by
  by_cases he : e.request = none
  · refine ⟨?_, fun r hr => by simp [he] at hr⟩
    obtain hsame | ⟨allocated, hdeed⟩ := serve_deed db he
    · rwa [hsame]
    · exact h.deed hdeed (by simp)
  cases e with
  | decide tenantId pendingId action checker freshRef reply receipt now =>
    obtain ⟨hsound, hown⟩ := h.decide hok
    refine ⟨hsound, fun r hr entry hentry hchanged => ?_⟩
    obtain rfl := Option.some.inj hr
    exact hown entry hentry hchanged
  | _ => exact absurd rfl he

end Serve

/-- A hold belongs to its request: in every run in which each approved refund of the entry is
taken in, the entry is held exactly while one request waits for it, and every decision moves
it only under the hold of its own request. -/
theorem hold_belongs_to_request (entryId : ℕ) (start : Db) (es : List MoneyEvent)
    (hstart : NeverAsked entryId start) (h : AllSteps serve (RefundsTaken entryId) start es) :
    Always serve (OneHold entryId) start es ∧ AllSteps serve (OwnHold entryId) start es := by
  have hleft : start.left entryId = 0 := by
    rw [left, List.length_eq_zero_iff, List.filter_eq_nil_iff]
    intro t ht hlive
    rw [Bool.and_eq_true, decide_eq_true_eq] at hlive
    exact hlive.2 (hstart.left t ht hlive.1)
  have hnone : ∀ p ∈ start.pending, p.waitsFor entryId = false := fun p hp => by
    simp [PendingApproval.waitsFor, hstart.requests p hp]
  have hheld : Held entryId start.pending start.suspense[entryId]? := by
    refine ⟨fun p hp habout => absurd habout (hstart.requests p hp), fun i p hp hwaits => ?_,
      fun e he hstatus => absurd hstatus (hstart.entry e he)⟩
    simp [hnone p (List.mem_of_getElem? hp)] at hwaits
  have hsound : HoldSound entryId start := ⟨hheld, by omega, fun _ => hleft⟩
  constructor
  · intro bs hbs
    exact (invariant_always (fun db e hdb hok => (hdb.serve e hok).1) hsound h bs hbs).held.one
  · exact allSteps_of_invariant (fun db e hdb hok => hdb.serve e hok) hsound h

/-- A refund is rejected, a reversal fails, and another refund is taken in and paid. -/
theorem hold_belongs_to_request_refunded :
    Always serve (OneHold 0) suspenseBook
        [.refund 1 7 0 none none, checkerDecides 0 "reject" .notConfigured 200,
          .reverse 1 7 0 (some "Wrong paybill"),
            checkerDecides 1 "approve" (acknowledged "AG1") 300,
          .reversalResult (resultOf "AG1" "2001" "") 400, .refund 1 7 0 none none,
          checkerDecides 2 "approve" (acknowledged "AG2") 500,
          .result (resultOf "AG2" "0" "QB1") 600] ∧
      AllSteps serve (OwnHold 0) suspenseBook
        [.refund 1 7 0 none none, checkerDecides 0 "reject" .notConfigured 200,
          .reverse 1 7 0 (some "Wrong paybill"),
            checkerDecides 1 "approve" (acknowledged "AG1") 300,
          .reversalResult (resultOf "AG1" "2001" "") 400, .refund 1 7 0 none none,
          checkerDecides 2 "approve" (acknowledged "AG2") 500,
          .result (resultOf "AG2" "0" "QB1") 600] :=
  hold_belongs_to_request 0 suspenseBook _ (by decide) (by decide)

/-- A refused refund leaves its request waiting on an open entry; approved again, it pays
under the hold of a newer request. -/
theorem stale_request_pays : NeverAsked 0 suspenseBook ∧
    ¬ Always serve (OneHold 0) suspenseBook
      [.refund 1 7 0 none none, checkerDecides 0 "approve" (.httpStatus 400) 200] ∧
    ¬ AllSteps serve (OwnHold 0) suspenseBook
      [.refund 1 7 0 none none, checkerDecides 0 "approve" (.httpStatus 400) 200,
        .refund 1 9 0 none none, checkerDecides 0 "approve" (acknowledged "AG1") 300] := by
  refine ⟨by decide, fun h => ?_, by decide⟩
  exact absurd h.last (by decide)

end FinylDcp
