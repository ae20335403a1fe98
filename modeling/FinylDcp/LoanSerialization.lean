import FinylDcp.PaymentRows
import Mathlib.Data.List.Permutation

/-!
# Payments on one loan take turns

Transactions on one loan, in any interleaving. The lock on the loan row makes them
take turns from there on, so what is committed is what the payments do one after the
other in the order of their commits, as long as no channel brings to its turn an
object of the loan that a commit has overtaken.
-/
namespace FinylDcp
open Db Runs Interleaving

/-- A payment handed to the loan as it is stored. -/
def takeTurn (loanId : ℕ) (db : Db) (h : Handover) : Db :=
  match db.loans[loanId]? with
  | none => db
  | some loan =>
    match h.apply db loanId loan with
    | .ok out => out.1
    | .error _ => db

/-- What a transaction handed to its loan. -/
def Opening.handover : Opening → Option Handover
  | .onLoan _ _ h => some h
  | _ => none

/-- The payments of a log, in the order of their commits. -/
def turns (log : List Commit) : List Handover := log.filterMap (·.work.handover)

theorem turns_append (log : List Commit) (i loanId : ℕ) (loaded : Option Loan) (h : Handover)
    (before after : Db) :
    turns (log ++ [⟨i, .onLoan loanId loaded h, before, after⟩]) = turns log ++ [h] := by
  simp [turns, Opening.handover]

/-- A transaction that gets past its first reads is about the loan. -/
def Session.AboutLoan (shortcodeToTenant : String → Option ℕ) (loanId i : ℕ) (hub : Hub) :
    Session → Prop
  | .waiting route => (route.rows hub.db).all (hub.free i) = true →
      ∀ work ∈ (route.begin shortcodeToTenant hub.db).toOption,
        work = .answered ∨ work.loan = some loanId
  | _ => True

/-- A transaction that loaded the loan with its first reads finds the row unchanged when it
gets the lock. -/
def Session.NotOvertaken (i : ℕ) (hub : Hub) : Session → Prop
  | .opened (.onLoan loanId (some loan) _) =>
    hub.free i (.loan loanId) = true → hub.db.loans[loanId]? = some loan
  | _ => True

/-- The session that moves is about the loan and has not been overtaken on it. -/
def KeepsUp (shortcodeToTenant : String → Option ℕ) (loanId : ℕ) (w : World Hub Session) (i : ℕ) :
    Prop :=
  ∀ s ∈ w.locals[i]?, s.AboutLoan shortcodeToTenant loanId i w.shared ∧ s.NotOvertaken i w.shared

instance (shortcodeToTenant : String → Option ℕ) (loanId i : ℕ) (hub : Hub) (s : Session) :
    Decidable (s.AboutLoan shortcodeToTenant loanId i hub) := by
  unfold Session.AboutLoan
  split <;> infer_instance

instance (i : ℕ) (hub : Hub) (s : Session) : Decidable (s.NotOvertaken i hub) := by
  unfold Session.NotOvertaken
  split <;> infer_instance

instance (shortcodeToTenant : String → Option ℕ) (loanId : ℕ) (w : World Hub Session) (i : ℕ) :
    Decidable (KeepsUp shortcodeToTenant loanId w i) :=
  inferInstanceAs (Decidable (∀ s ∈ w.locals[i]?, _))

/-- Some order of the committed payments, one after the other, leaves the loan and its
repayments as they are. -/
def Serialised (loanId : ℕ) (start : Db) (hub : Hub) : Prop :=
  ∃ order : List Handover, order.Perm (turns hub.log) ∧
    hub.db.loans[loanId]? = (order.foldl (takeTurn loanId) start).loans[loanId]? ∧
    hub.db.repaymentsOf loanId = (order.foldl (takeTurn loanId) start).repaymentsOf loanId

instance (loanId : ℕ) (start : Db) (hub : Hub) : Decidable (Serialised loanId start hub) :=
  decidable_of_iff (∃ order ∈ (turns hub.log).permutations',
    hub.db.loans[loanId]? = (order.foldl (takeTurn loanId) start).loans[loanId]? ∧
    hub.db.repaymentsOf loanId = (order.foldl (takeTurn loanId) start).repaymentsOf loanId)
    (by simp only [List.mem_permutations', Serialised])

/-- The commits are those of payments on the loan, at most one of each session, and each
is the payment its channel prepared. -/
structure Accounted (shortcodeToTenant : String → Option ℕ) (routes : List Route) (loanId : ℕ)
    (hub : Hub) : Prop where
  once : (hub.log.map (·.session)).Nodup
  own : ∀ c ∈ hub.log, ∃ route db loaded h, routes[c.session]? = some route ∧
    route.begin shortcodeToTenant db = .ok (.onLoan loanId loaded h) ∧
      c.work = .onLoan loanId none h

/-- The commits have left what the payments leave when they take turns in that order. -/
structure TookTurns (shortcodeToTenant : String → Option ℕ) (routes : List Route) (loanId : ℕ)
    (start : Db) (hub : Hub) : Prop extends Accounted shortcodeToTenant routes loanId hub where
  db : hub.db = (turns hub.log).foldl (takeTurn loanId) start

theorem TookTurns.serialised {shortcodeToTenant : String → Option ℕ} {routes : List Route}
    {loanId : ℕ} {start : Db} {hub : Hub}
    (h : TookTurns shortcodeToTenant routes loanId start hub) :
    Serialised loanId start hub :=
  ⟨turns hub.log, .refl _, by rw [h.db], by rw [h.db]⟩

/-- The work of a session comes from its route. -/
def Planned (shortcodeToTenant : String → Option ℕ) (routes : List Route) (loanId i : ℕ)
    (h : Handover) : Prop :=
  ∃ route db loaded, routes[i]? = some route ∧
    route.begin shortcodeToTenant db = .ok (.onLoan loanId loaded h)

/-- What each session may rely on: before its turn nothing, and in its turn that the
database is the one it read under the lock. -/
def InTurn (shortcodeToTenant : String → Option ℕ) (routes : List Route) (loanId i : ℕ)
    (hub : Hub) :
    Session → Prop
  | .waiting route => routes[i]? = some route ∧ i ∉ hub.log.map (·.session)
  | .opened work => i ∉ hub.log.map (·.session) ∧ ∃ loaded h, work = .onLoan loanId loaded h ∧
      Planned shortcodeToTenant routes loanId i h
  | .holding id loan h => i ∉ hub.log.map (·.session) ∧ id = loanId ∧
      Planned shortcodeToTenant routes loanId i h ∧ hub.locks (.loan loanId) = some i ∧
      hub.db.loans[loanId]? = some loan
  | .written work before after => i ∉ hub.log.map (·.session) ∧ ∃ h loan out,
      work = .onLoan loanId none h ∧ Planned shortcodeToTenant routes loanId i h ∧
      hub.locks (.loan loanId) = some i ∧ hub.db = before ∧ before.loans[loanId]? = some loan ∧
      h.apply before loanId loan = .ok out ∧ after = out.1
  | .ended => True

section Turns

variable {shortcodeToTenant : String → Option ℕ} {routes : List Route} {loanId : ℕ} {start : Db}

/-- Who is in turn holds the loan. -/
theorem InTurn.of_locks {j : ℕ} {hub hub' : Hub} {s : Session}
    (h : InTurn shortcodeToTenant routes loanId j hub s) (hdb : hub'.db = hub.db)
    (hlog : hub'.log = hub.log)
    (hlocks : hub.locks (.loan loanId) = some j → hub'.locks (.loan loanId) = some j) :
    InTurn shortcodeToTenant routes loanId j hub' s := by
  cases s with
  | waiting route => simpa only [InTurn, hlog] using h
  | opened work => simpa only [InTurn, hlog] using h
  | holding id loan order =>
    obtain ⟨hlog', hid, hplan, hlock, hrow⟩ := h
    exact ⟨by rwa [hlog], hid, hplan, hlocks hlock, by rwa [hdb]⟩
  | written work before after =>
    obtain ⟨hlog', order, loan, out, hwork, hplan, hlock, hbefore, hrest⟩ := h
    exact ⟨by rwa [hlog], order, loan, out, hwork, hplan, hlocks hlock, by rwa [hdb], hrest⟩
  | ended => trivial

/-- A session at the loan keeps every other one off it. -/
theorem InTurn.of_taken {i j : ℕ} {hub hub' : Hub} {s : Session} (hij : i ≠ j)
    (h : InTurn shortcodeToTenant routes loanId j hub s)
    (htaken : ∀ k, hub.locks (.loan loanId) = some k → k = i)
    (hlog : ∀ k, k ≠ i → k ∉ hub.log.map (·.session) → k ∉ hub'.log.map (·.session)) :
    InTurn shortcodeToTenant routes loanId j hub' s := by
  cases s with
  | waiting route => exact ⟨h.1, hlog j hij.symm h.2⟩
  | opened work => exact ⟨hlog j hij.symm h.1, h.2⟩
  | holding id loan order =>
    obtain ⟨-, -, -, hlock, -⟩ := h
    exact absurd (htaken j hlock) hij.symm
  | written work before after =>
    obtain ⟨-, order, loan, out, -, -, hlock, -⟩ := h
    exact absurd (htaken j hlock) hij.symm
  | ended => trivial

theorem undisturbed_turns : Undisturbed (Session.next shortcodeToTenant)
    (KeepsUp shortcodeToTenant loanId)
    (TookTurns shortcodeToTenant routes loanId start) (InTurn shortcodeToTenant routes loanId) where
  mover := by
    intro w i s out hw hok hs hout
    have hmine := hw.own i s hs
    have hcommon := hw.common
    cases Session.next_moves hout with
    | ends => exact ⟨⟨⟨hcommon.once, hcommon.own⟩, hcommon.db⟩, trivial⟩
    | opens route work hfree hopen hwork =>
      obtain ⟨hroute, hlog⟩ := hmine
      have habout := (hok _ hs).1 hfree work (by simp [hwork, Except.toOption])
      obtain ⟨loaded, h, rfl⟩ := Opening.loan_eq_some (habout.resolve_left hopen)
      exact ⟨⟨⟨hcommon.once, hcommon.own⟩, hcommon.db⟩, hlog, loaded, h, rfl, route, _, loaded,
        hroute, hwork⟩
    | alone work after hoff hafter =>
      obtain ⟨-, loaded, h, hwork, -⟩ := hmine
      exact absurd hwork (hoff loanId loaded h)
    | locks id loaded loan h hfree hloan =>
      obtain ⟨hlog, loaded', h', hwork, hplan⟩ := hmine
      obtain ⟨rfl, rfl, rfl⟩ : id = loanId ∧ loaded = loaded' ∧ h = h' := by simpa using hwork
      refine ⟨⟨⟨hcommon.once, hcommon.own⟩, hcommon.db⟩, hlog, rfl, hplan,
        Hub.lock_self (List.mem_singleton_self _), ?_⟩
      cases loaded with
      | none => exact hloan
      | some loaded =>
        obtain rfl : loaded = loan := by simpa using hloan
        exact (hok _ hs).2 hfree
    | applies id loan h res hres =>
      obtain ⟨hlog, rfl, hplan, hlock, hrow⟩ := hmine
      exact ⟨⟨⟨hcommon.once, hcommon.own⟩, hcommon.db⟩, hlog, h, loan, res, rfl, hplan, hlock, rfl,
        hrow, hres, rfl⟩
    | commits work before after hindexed =>
      obtain ⟨hlog, h, loan, res, rfl, hplan, hlock, rfl, hrow, hres, rfl⟩ := hmine
      have hmerge := merge_base (Handover.apply_extends hres)
      refine ⟨⟨⟨?_, ?_⟩, ?_⟩, trivial⟩
      · simpa [List.nodup_append, hcommon.once] using fun c hc hi =>
          hlog (List.mem_map.mpr ⟨c, hc, hi⟩)
      · intro c hc
        obtain hold | hnew := List.mem_append.mp hc
        · exact hcommon.own c hold
        · obtain rfl := List.mem_singleton.mp hnew
          obtain ⟨route, db, loaded, hroute, hbegin⟩ := hplan
          exact ⟨route, db, loaded, h, hroute, hbegin, rfl⟩
      · have hturn : takeTurn loanId w.shared.db h = res.1 := by simp [takeTurn, hrow, hres]
        rw [turns_append, List.foldl_append, ← hcommon.db, List.foldl_cons, List.foldl_nil, hturn]
        exact hmerge
  others := by
    intro w i j s m out hw hok hij hs hm hout
    have hmine := hw.own i s hs
    have htheirs := hw.own j m hm
    cases Session.next_moves hout with
    | ends => exact htheirs.of_locks rfl rfl (Hub.release_other hij)
    | opens route work hfree hopen hwork =>
      refine htheirs.of_locks rfl rfl fun hlock => ?_
      rwa [Hub.lock_other (Route.loan_not_mem_rows route _ _)]
    | alone work after hoff hafter => exact htheirs.of_locks rfl rfl id
    | locks id loaded loan h hfree hloan =>
      obtain ⟨-, loaded', h', hwork, -⟩ := hmine
      obtain ⟨rfl, -, -⟩ : id = loanId ∧ loaded = loaded' ∧ h = h' := by simpa using hwork
      exact htheirs.of_taken hij (Hub.free_iff.mp hfree) fun _ _ hk => hk
    | applies id loan h res hres => exact htheirs
    | commits work before after hindexed =>
      obtain ⟨-, h, loan, res, -, -, hlock, -⟩ := hmine
      refine htheirs.of_taken hij (fun k hk => ?_) fun k hki hk => ?_
      · exact Option.some.inj (hk.symm.trans hlock)
      · rw [List.map_append, List.mem_append, not_or]
        exact ⟨hk, by simpa using hki⟩

/-- Payments on one loan serialise: after every step of every interleaving in which no
object of the loan is overtaken, the loan and its repayments are what the committed
payments leave one after the other. -/
theorem payments_serialise (shortcodeToTenant : String → Option ℕ) (routes : List Route)
    (loanId : ℕ)
    (start : Db) (schedule : List ℕ)
    (h : AllSteps (World.step (Session.next shortcodeToTenant)) (KeepsUp shortcodeToTenant loanId)
      (sessions start routes) schedule) :
    Always (World.step (Session.next shortcodeToTenant))
      (fun w => Serialised loanId start w.shared ∧
        Accounted shortcodeToTenant routes loanId w.shared)
      (sessions start routes) schedule := by
  have hstart : Holds (TookTurns shortcodeToTenant routes loanId start)
      (InTurn shortcodeToTenant routes loanId) (sessions start routes) := by
    refine ⟨⟨⟨List.nodup_nil, by simp [sessions]⟩, rfl⟩, fun i s hs => ?_⟩
    simp only [sessions, List.getElem?_map, Option.map_eq_some_iff] at hs
    obtain ⟨route, hroute, rfl⟩ := hs
    exact ⟨hroute, by simp [sessions]⟩
  intro is his
  have hturns := (undisturbed_turns.always hstart h is his).common
  exact ⟨hturns.serialised, hturns.toAccounted⟩

end Turns

/-- A confirmation is taken in while the approval of a manual entry is under way; the
approval loads the loan when it has the lock. -/
theorem payments_serialise_approval : Always (World.step (Session.next fun _ => some 1))
    (fun w => Serialised 0 bookWithRequest w.shared ∧
      Accounted (fun _ => some 1)
        [.approval 1 0 ⟨8, true, [], []⟩ "MAN-1" 518400,
          .c2b (paybillConfirmation "QA1" "FL/1" 300000 3) "C2B-1" 518400] 0 w.shared)
    (sessions bookWithRequest
      [.approval 1 0 ⟨8, true, [], []⟩ "MAN-1" 518400,
        .c2b (paybillConfirmation "QA1" "FL/1" 300000 3) "C2B-1" 518400])
    [0, 1, 1, 1, 0, 1, 0, 0, 0] :=
  payments_serialise _ _ _ _ _ (by decide +kernel)

/-- Two confirmations for one loan load it before either has the lock. The second writes
its balance from the object it loaded, and the 3,000 of the first come off no balance. -/
theorem confirmations_overtaken :
    ¬ Serialised 0 fourWeekBook (run (World.step (Session.next fun _ => some 1))
      (sessions fourWeekBook
        [.c2b (paybillConfirmation "QA1" "FL/1" 300000 3) "C2B-1" 518400,
          .c2b (paybillConfirmation "QA2" "FL/1" 200000 4) "C2B-2" 518400])
      [0, 1, 0, 0, 0, 1, 1, 1]).shared := by
  decide +kernel

end FinylDcp
