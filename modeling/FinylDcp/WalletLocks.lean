import FinylDcp.ClientWallets
import FinylDcp.Runs

/-!
# Locked wallets

What a form leaves of each wallet, and when the wallets that a validation locked keep the
numbers they were locked with.
-/
namespace FinylDcp
open Runs Tables Text

/-- A row has values for an id. -/
def MobileWalletIn.fills (id : ℕ) (row : MobileWalletIn) : Bool := !row.blank && row.key = some id

/-- The last row of a form with values for an id. -/
def lastRow (rows : List MobileWalletIn) (id : ℕ) : Option MobileWalletIn :=
  (rows.filter (·.fills id)).getLast?

/-- A wallet with the values of the row, if there is one. -/
def ClientMobileWallet.rewrite (w : ClientMobileWallet) (row : Option MobileWalletIn) :
    ClientMobileWallet :=
  row.elim w (fun r => w.write r)

theorem lastRow_cons (row : MobileWalletIn) (rows : List MobileWalletIn) (id : ℕ) :
    lastRow (row :: rows) id = (lastRow rows id <|> if row.fills id then some row else none) := by
  by_cases hrow : row.fills id = true
  · rw [lastRow, List.filter_cons_of_pos hrow, List.getLast?_cons, if_pos hrow, lastRow]
    cases (rows.filter (·.fills id)).getLast? <;> rfl
  · rw [lastRow, List.filter_cons_of_neg hrow, if_neg hrow, lastRow]
    cases (rows.filter (·.fills id)).getLast? <;> rfl

section Sync

variable {tenantId clientId : ℕ} {byId : List ℕ} {t : Keyed ClientMobileWallet}

theorem syncRow_next (row : MobileWalletIn) :
    t.next ≤ (syncRow tenantId clientId byId t row).next := by
  simp only [syncRow]
  split
  · exact le_refl _
  split
  · exact le_refl _
  · exact Nat.le_succ _

/-- A row rewrites the wallet it names, if that is one of the client's. -/
theorem syncRow_get? (row : MobileWalletIn) {id : ℕ} (h : id < t.next) :
    (syncRow tenantId clientId byId t row).get? id = (t.get? id).map (fun w =>
      if row.fills id = true ∧ id ∈ byId then w.write row else w) := by
  simp only [syncRow]
  by_cases hblank : row.blank = true
  · simp [hblank, MobileWalletIn.fills]
  have hfills : row.fills id = true ↔ row.key = some id := by simp [MobileWalletIn.fills, hblank]
  simp only [hblank, Bool.false_eq_true, if_false, hfills]
  split
  · rename_i known hknown
    obtain ⟨hkey, hmem⟩ := Option.filter_eq_some_iff.mp hknown
    by_cases hid : id = known
    · subst hid
      simp [hkey, List.contains_iff_mem.mp hmem]
    · simp [hkey, hid, Ne.symm hid]
  · rename_i hunknown
    have hnot : ¬ (row.key = some id ∧ id ∈ byId) := by
      rintro ⟨hkey, hmem⟩
      simp [hkey, hmem] at hunknown
    rw [Keyed.get?_insert, if_neg (by omega)]
    simp only [hnot, if_false]
    exact Option.map_id'.symm

/-- The rows rewrite a wallet one after the other, so the last one stays. -/
theorem syncRows_get? (rows : List MobileWalletIn) {id : ℕ} (h : id < t.next) :
    (rows.foldl (syncRow tenantId clientId byId) t).get? id = (t.get? id).map (fun w =>
      w.rewrite (if id ∈ byId then lastRow rows id else none)) := by
  induction rows generalizing t with
  | nil =>
    have hnone : lastRow [] id = none := rfl
    simp [hnone, ClientMobileWallet.rewrite]
  | cons row rows ih =>
    rw [List.foldl_cons, ih (lt_of_lt_of_le h (syncRow_next row)), syncRow_get? row h,
      Option.map_map]
    congr 1
    funext w
    rw [lastRow_cons]
    by_cases hmem : id ∈ byId
    · by_cases hrow : row.fills id = true
      · simp only [Function.comp_apply, hrow, hmem, and_self, if_true]
        cases lastRow rows id <;> rfl
      · simp only [Function.comp_apply, hrow, hmem, if_true]
        cases lastRow rows id <;> rfl
    · simp [hmem]

theorem mem_walletIds {id : ℕ} :
    id ∈ walletIds t clientId ↔ ∃ w, t.get? id = some w ∧ w.clientId = clientId := by
  simp [walletIds, ← Keyed.mem_rows]

theorem keepNamed_get? (rows : List MobileWalletIn) (id : ℕ) :
    (keepNamed clientId t rows).get? id = (t.get? id).filter
      (fun w => w.clientId ≠ clientId || (rows.filterMap (·.key)).contains id) :=
  Keyed.get?_keep _ id

/-- What a form leaves of a wallet: those of other clients as they are, and of its client's the
ones it names, each with the last values given for it. -/
theorem syncNested_get? (rows : List MobileWalletIn) {id : ℕ} (h : id < t.next) :
    (syncNested tenantId clientId t rows).get? id = (t.get? id).bind (fun w =>
      if w.clientId ≠ clientId then some w
      else if id ∈ rows.filterMap (·.key) then some (w.rewrite (lastRow rows id)) else none) := by
  have hkept : id < (keepNamed clientId t rows).next := h
  rw [syncNested, syncRows_get? rows hkept, keepNamed_get?]
  cases hw : t.get? id with
  | none => rfl
  | some w =>
    by_cases hclient : w.clientId = clientId
    · by_cases hnamed : id ∈ rows.filterMap (·.key)
      · have hown : id ∈ walletIds (keepNamed clientId t rows) clientId := by
          refine mem_walletIds.mpr ⟨w, ?_, hclient⟩
          rw [keepNamed_get?, hw]
          simp [Option.filter, hnamed]
        have hkeeps : (some w).filter (fun w => w.clientId ≠ clientId ||
            (rows.filterMap (·.key)).contains id) = some w :=
          Option.filter_eq_some_iff.mpr
            ⟨rfl, by rw [List.contains_iff_mem.mpr hnamed, Bool.or_true]⟩
        rw [hkeeps]
        simp only [Option.map_some, Option.bind_some, hown, hclient, ne_eq, not_true_eq_false,
          if_false, hnamed, if_true]
      · simp [Option.filter, hclient, hnamed]
    · have hother : id ∉ walletIds (keepNamed clientId t rows) clientId := by
        intro hmem
        obtain ⟨w', hw', hclient'⟩ := mem_walletIds.mp hmem
        rw [keepNamed_get?, hw] at hw'
        obtain ⟨hsame, -⟩ := Option.filter_eq_some_iff.mp hw'
        obtain rfl := Option.some.inj hsame
        exact hclient hclient'
      simp [Option.filter, hclient, hother, ClientMobileWallet.rewrite]

end Sync

namespace KycOffice

variable {s s' : KycOffice}

theorem updateClient_eq_ok {editor : ClientEditor} {clientId : ℕ} {form : ClientForm}
    (h : s.updateClient editor clientId form = .ok s') :
    ∃ tenantId registry, editor.requireLending = .ok tenantId ∧
      s.registry.updateClient editor clientId form.record = .ok registry ∧
      s' = { s with
        registry := registry, wallets := syncNested tenantId clientId s.wallets form.wallets
        profiles := s.profiles.modify clientId
          (fun p => { p with middleName := form.middleName }) } := by
  obtain ⟨tenantId, htenant, h⟩ := bind_eq_ok.mp h
  obtain ⟨registry, hregistry, h⟩ := bind_eq_ok.mp h
  obtain ⟨-, -, h⟩ := bind_eq_ok.mp h
  exact ⟨tenantId, registry, htenant, hregistry, (Except.ok.inj h).symm⟩

theorem deleteWallet_eq_ok {editor : ClientEditor} {clientId walletId : ℕ}
    (h : s.deleteWallet editor clientId walletId = .ok s') :
    ∃ tenantId w, editor.requireLending = .ok tenantId ∧ s.wallets.get? walletId = some w ∧
      w.clientId = clientId ∧ w.tenantId = tenantId ∧
      s' = { s with wallets := s.wallets.keep (fun id _ => id ≠ walletId) } := by
  obtain ⟨tenantId, htenant, h⟩ := bind_eq_ok.mp h
  split at h
  · cases h
  rename_i w hfound
  obtain ⟨hw, hown⟩ := Option.filter_eq_some_iff.mp hfound
  obtain ⟨hclient, hsame⟩ : w.clientId = clientId ∧ w.tenantId = tenantId := by simpa using hown
  exact ⟨tenantId, w, htenant, hw, hclient, hsame, (Except.ok.inj h).symm⟩

theorem editClient_eq_ok {e : ClientEditEvent} (h : s.editClient e = .ok s') :
    s' = { s with registry := s.registry.step (.edit e) } := by
  obtain ⟨-, -, h⟩ := bind_eq_ok.mp h
  exact (Except.ok.inj h).symm

/-- A validation that goes through logs its answer; for a client it sets the flag to it, and
locks wallets. -/
theorem validateMpesa_eq_ok {editor : ClientEditor} {body : ValidateMpesaRequest} {now : ℤ}
    (h : s.validateMpesa editor body now = .ok s') :
    ∃ tenantId held phone nationalId resp, editor.requireLending = .ok tenantId ∧
      s.validated tenantId body = .ok held ∧
      nonEmpty (nonEmpty body.phone <|> held.bind (·.2.phone)) = some phone ∧
      nonEmpty (nonEmpty body.nationalId <|> held.bind (·.2.nationalId)) = some nationalId ∧
      validateMobileNumber phone nationalId (s.expectedName held body) = resp ∧
        s' = { s with
          profiles := held.elim s.profiles (fun x => s.profiles.modify x.1 (fun p => { p with
            mpesaValidated := resp.matched, mpesaValidationName := resp.registeredName
            mpesaValidatedAt := some now }))
          wallets := held.elim s.wallets (fun x => if resp.matched then
              s.wallets.change (fun _ w => if w.clientId = x.1 then w.lock resp.msisdn now else w)
            else s.wallets)
          validations := s.validations ++
            [⟨tenantId, held.map (·.1), resp.msisdn, nationalId, resp.matched⟩] } := by
  obtain ⟨tenantId, htenant, h⟩ := bind_eq_ok.mp h
  obtain ⟨held, hheld, h⟩ := bind_eq_ok.mp h
  dsimp only at h
  split at h
  swap
  · cases h
  rename_i phone nationalId hphone hnational
  obtain ⟨-, -, h⟩ := bind_eq_ok.mp h
  generalize hresp : validateMobileNumber phone nationalId (s.expectedName held body) = resp at h
  refine ⟨tenantId, held, phone, nationalId, resp, htenant, hheld, hphone, hnational, hresp, ?_⟩
  cases held with
  | none => exact (Except.ok.inj h).symm
  | some x =>
    obtain ⟨-, -, h⟩ := bind_eq_ok.mp h
    exact (Except.ok.inj h).symm

/-- Each locked wallet is still there, locked, and with its numbers. -/
def KeepsLocked (s s' : KycOffice) : Prop :=
  ∀ (id : ℕ) (w : ClientMobileWallet), s.wallets.get? id = some w → w.walletLocked = true →
    ∃ w', s'.wallets.get? id = some w' ∧ w'.numbers = w.numbers ∧ w'.walletLocked = true

/-- Over a run, a wallet that is locked at some point stays as it is from there on. -/
def WalletsFrozen (s : KycOffice) (events : List KycEvent) : Prop :=
  ∀ bs cs, bs <+: cs → cs <+: events → (run step s bs).KeepsLocked (run step s cs)

/-- A form names the locked wallets of its client, and the last values it gives for each are its
own; and no locked wallet is deleted. -/
def SparesLocked (s : KycOffice) : KycEvent → Prop
  | .update editor clientId form => s.accepts (.update editor clientId form) = true →
      ∀ x ∈ s.wallets.rows, x.2.clientId = clientId → x.2.walletLocked = true →
        x.1 ∈ form.wallets.filterMap (·.key) ∧
          ∀ row ∈ lastRow form.wallets x.1, row.numbers = x.2.numbers
  | .deleteWallet editor clientId walletId =>
    s.accepts (.deleteWallet editor clientId walletId) = true →
      ∀ w ∈ s.wallets.get? walletId, w.walletLocked = false
  | .validate .. | .edit _ => True

theorem keepsLocked_refl (s : KycOffice) : s.KeepsLocked s :=
  fun _ w hw hlocked => ⟨w, hw, rfl, hlocked⟩

theorem keepsLocked_trans {a b c : KycOffice} (hab : a.KeepsLocked b) (hbc : b.KeepsLocked c) :
    a.KeepsLocked c := by
  intro id w hw hlocked
  obtain ⟨v, hv, hnumbers, hlocked'⟩ := hab id w hw hlocked
  obtain ⟨u, hu, hsame, hstill⟩ := hbc id v hv hlocked'
  exact ⟨u, hu, hsame.trans hnumbers, hstill⟩

theorem keepsLocked_of_same (h : s'.wallets = s.wallets) : s.KeepsLocked s' := by
  intro id w hw hlocked
  exact ⟨w, h ▸ hw, rfl, hlocked⟩

theorem step_accepted {e : KycEvent} (h : s.handle e = .ok s') :
    s.step e = s' ∧ s.accepts e = true := by
  simp [step, accepts, h, Except.isOk, Except.toBool]

theorem step_refused {e : KycEvent} {failure : Failure} (h : s.handle e = .error failure) :
    s.step e = s ∧ s.accepts e = false := by
  simp [step, accepts, h, Except.isOk, Except.toBool]

/-- A form keeps the locked wallets exactly when it spares them. -/
theorem update_keeps_iff {editor : ClientEditor} {clientId : ℕ} {form : ClientForm}
    (h : s.updateClient editor clientId form = .ok s') :
    s.KeepsLocked s' ↔ s.SparesLocked (.update editor clientId form) := by
  obtain ⟨tenantId, registry, -, -, rfl⟩ := updateClient_eq_ok h
  have haccepted := (@step_accepted s _ (.update editor clientId form) h).2
  have hget := fun {id w} (hw : s.wallets.get? id = some w) =>
    @syncNested_get? tenantId clientId s.wallets form.wallets id (Keyed.lt_next hw)
  simp only [SparesLocked, haccepted, true_imp_iff]
  constructor
  · rintro hkeeps ⟨id, w⟩ hmem hclient hlocked
    have hw := Keyed.mem_rows.mp hmem
    obtain ⟨w', hw', hnumbers, -⟩ := hkeeps id w hw hlocked
    have hleft := hget hw
    dsimp only at hw' hclient
    rw [hw', hw, Option.bind_some, if_neg (not_not.mpr hclient)] at hleft
    split_ifs at hleft with hnamed
    refine ⟨hnamed, fun row hrow => ?_⟩
    rw [Option.some.inj hleft, hrow] at hnumbers
    exact hnumbers
  · intro hspares id w hw hlocked
    have hleft := hget hw
    rw [hw, Option.bind_some] at hleft
    by_cases hclient : w.clientId = clientId
    · obtain ⟨hnamed, hsame⟩ := hspares (id, w) (Keyed.mem_rows.mpr hw) hclient hlocked
      rw [if_neg (not_not.mpr hclient), if_pos hnamed] at hleft
      refine ⟨_, hleft, ?_, ?_⟩
      · cases hrow : lastRow form.wallets id with
        | none => rfl
        | some row => exact hsame row hrow
      · cases lastRow form.wallets id with
        | none => exact hlocked
        | some row => exact hlocked
    · rw [if_pos hclient] at hleft
      exact ⟨w, hleft, rfl, hlocked⟩

theorem delete_keeps_iff {editor : ClientEditor} {clientId walletId : ℕ}
    (h : s.deleteWallet editor clientId walletId = .ok s') :
    s.KeepsLocked s' ↔ s.SparesLocked (.deleteWallet editor clientId walletId) := by
  have haccepted := (@step_accepted s _ (.deleteWallet editor clientId walletId) h).2
  obtain ⟨tenantId, w, -, hw, -, -, rfl⟩ := deleteWallet_eq_ok h
  simp only [SparesLocked, haccepted, true_imp_iff, hw, Option.mem_some_iff, forall_eq']
  constructor
  · intro hkeeps
    by_contra hlocked
    obtain ⟨w', hw', -⟩ := hkeeps walletId w hw (by simpa using hlocked)
    simp [Keyed.get?_keep] at hw'
  · intro hfree id v hv hlocked
    have hother : id ≠ walletId := by
      rintro rfl
      obtain rfl := Option.some.inj (hw.symm.trans hv)
      rw [hlocked] at hfree
      cases hfree
    refine ⟨v, ?_, rfl, hlocked⟩
    rw [Keyed.get?_keep, hv]
    simp [Option.filter, hother]

/-- A validation locks wallets, and changes no number. -/
theorem validate_keeps {editor : ClientEditor} {body : ValidateMpesaRequest} {now : ℤ}
    (h : s.validateMpesa editor body now = .ok s') : s.KeepsLocked s' := by
  obtain ⟨tenantId, held, phone, nationalId, resp, -, -, -, -, -, rfl⟩ := validateMpesa_eq_ok h
  intro id w hw hlocked
  cases held with
  | none => exact ⟨w, hw, rfl, hlocked⟩
  | some x =>
    by_cases hmatched : resp.matched = true
    · have hlock : ∀ msisdn, (w.lock msisdn now).numbers = w.numbers ∧
          (w.lock msisdn now).walletLocked = true := by
        simp [ClientMobileWallet.lock, hlocked]
      refine ⟨if w.clientId = x.1 then w.lock resp.msisdn now else w, ?_, ?_⟩
      · simp [hmatched, hw]
      · split_ifs
        · exact hlock _
        · exact ⟨rfl, hlocked⟩
    · exact ⟨w, by simpa [hmatched] using hw, rfl, hlocked⟩

/-- The step lemma. -/
theorem keepsLocked_iff (s : KycOffice) (e : KycEvent) :
    s.KeepsLocked (s.step e) ↔ s.SparesLocked e := by
  cases hout : s.handle e with
  | error failure =>
    obtain ⟨hstep, hrefused⟩ := step_refused hout
    rw [hstep]
    refine iff_of_true (keepsLocked_refl s) ?_
    cases e with
    | update editor clientId form => simp [SparesLocked, hrefused]
    | deleteWallet editor clientId walletId => simp [SparesLocked, hrefused]
    | validate editor body now => trivial
    | edit e => trivial
  | ok s' =>
    rw [(step_accepted hout).1]
    cases e with
    | update editor clientId form => exact update_keeps_iff hout
    | deleteWallet editor clientId walletId => exact delete_keeps_iff hout
    | validate editor body now => exact iff_of_true (validate_keeps hout) trivial
    | edit e =>
      refine iff_of_true (keepsLocked_of_same ?_) trivial
      rw [editClient_eq_ok hout]

/-- Over a run, locked wallets stay as they are exactly when every event spares them. -/
theorem wallets_frozen_iff (s : KycOffice) (events : List KycEvent) :
    s.WalletsFrozen events ↔ AllSteps step SparesLocked s events := by
  refine (related_iff_allSteps keepsLocked_refl fun _ _ _ => keepsLocked_trans).trans ?_
  exact @allSteps_congr _ _ step _ _ (fun _ => True) (fun _ _ _ => trivial)
    (fun s e _ => keepsLocked_iff s e) s events trivial

/-- The client of the book with one loan, who has one wallet. -/
def walletOffice : KycOffice where
  registry := ⟨fourWeekBook, Registry.freshRegistry.desk⟩
  profiles := [⟨none, false, none, none⟩]
  wallets := (⟨[], 1, by simp, by simp⟩ : Keyed ClientMobileWallet).insert
    ⟨1, 0, ⟨some "0700000001", none, some "M-Pesa"⟩, true, false, none, none⟩
  validations := []

def officer : ClientEditor := ⟨⟨7, 1, "branch_manager"⟩, none, true, true⟩

/-- The number and the ID of the client are validated as they are stored. -/
def validateStored : KycEvent := .validate officer ⟨some 0, none, none, none⟩ 86400

/-- The client is saved again, with another number in the wallet. -/
def swapWallet : KycEvent :=
  .update officer 0 ⟨⟨"11112222", some "254700000001", "Asha", "Otieno", some "1990-01-01", none⟩,
    none, [⟨some 1, ⟨some "0799999999", none, some "M-Pesa"⟩, true⟩]⟩

/-- The number of a validated wallet is swapped, while the loan it is to be paid to is on. -/
theorem locked_wallet_swapped : ¬ walletOffice.WalletsFrozen [validateStored, swapWallet] := by
  intro h
  have hlocked : ((run step walletOffice [validateStored]).wallets.get? 1).map
      (fun w => (w.numbers.mobileNumber, w.walletLocked)) = some (some "0700000001", true) := by
    decide
  have hswapped : ((run step walletOffice [validateStored, swapWallet]).wallets.get? 1).map
      (fun w => (w.numbers.mobileNumber, w.walletLocked)) = some (some "0799999999", true) := by
    decide
  obtain ⟨w, hw, hbefore⟩ := Option.map_eq_some_iff.mp hlocked
  obtain ⟨w', hw', hnumbers, -⟩ :=
    h [validateStored] [validateStored, swapWallet] (by simp) (by simp) 1
    w hw (Prod.mk.inj hbefore).2
  rw [hw', Option.map_some, hnumbers, (Prod.mk.inj hbefore).1] at hswapped
  simp at hswapped

end KycOffice

end FinylDcp
