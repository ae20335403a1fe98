import FinylDcp.WalletLocks

/-!
# What the validation flag vouches for

The flag of a client is set by a validation of a number against a national ID. It is read long
after, when the client may have another number or another ID.
-/
namespace FinylDcp
open Runs Tables Text

section Sync

variable {tenantId clientId : ℕ} {byId : List ℕ} {t : Keyed ClientMobileWallet}

/-- A row of a form that is filled in and names none of the wallets. -/
def MobileWalletIn.IsNew (byId : List ℕ) (row : MobileWalletIn) : Prop :=
  row.blank = false ∧ ∀ id ∈ row.key, id ∉ byId

instance (byId : List ℕ) (row : MobileWalletIn) : Decidable (row.IsNew byId) := by
  unfold MobileWalletIn.IsNew
  infer_instance

/-- After one row there are the wallets that were there, rewritten if the row names them, and
the row's own if it is new. -/
theorem exists_syncRow (row : MobileWalletIn) {Q : ℕ → ClientMobileWallet → Prop} :
    (∃ id w, (syncRow tenantId clientId byId t row).get? id = some w ∧ Q id w) ↔
      (∃ id w, t.get? id = some w ∧
        Q id (if row.fills id = true ∧ id ∈ byId then w.write row else w)) ∨
      (row.IsNew byId ∧ Q t.next (row.wallet tenantId clientId)) := by
  by_cases hblank : row.blank = true
  · simp [syncRow, hblank, MobileWalletIn.fills, MobileWalletIn.IsNew]
  have hfills : ∀ id, row.fills id = true ↔ row.key = some id := by
    simp [MobileWalletIn.fills, hblank]
  simp only [syncRow, hblank, Bool.false_eq_true, if_false, hfills]
  cases hfound : row.key.filter (fun id => byId.contains id) with
  | some known =>
    obtain ⟨hkey, hmem⟩ := Option.filter_eq_some_iff.mp hfound
    have hknown : known ∈ byId := List.contains_iff_mem.mp hmem
    have hold : ¬ row.IsNew byId := fun hnew => hnew.2 known hkey hknown
    simp only [hold, false_and, or_false, hkey, Option.some.injEq]
    refine exists_congr fun id => ?_
    rw [Keyed.get?_update]
    by_cases hid : id = known
    · subst hid
      simp [hknown]
    · simp [hid, Ne.symm hid]
  | none =>
    have hnew : row.IsNew byId := by
      refine ⟨by simpa using hblank, fun id hkey hmem => ?_⟩
      rw [Option.mem_def.mp hkey] at hfound
      simp [Option.filter, hmem] at hfound
    have hother : ∀ id, ¬ (row.key = some id ∧ id ∈ byId) := fun id h => hnew.2 id h.1 h.2
    simp only [hnew, true_and, hother, if_false, Keyed.get?_insert]
    constructor
    · rintro ⟨id, w, hw, hq⟩
      split_ifs at hw with hid
      · obtain rfl := Option.some.inj hw
        exact .inr (hid ▸ hq)
      · exact .inl ⟨id, w, hw, hq⟩
    · rintro (⟨id, w, hw, hq⟩ | hq)
      · refine ⟨id, w, ?_, hq⟩
        rw [if_neg (Keyed.lt_next hw).ne, hw]
      · exact ⟨t.next, _, if_pos rfl, hq⟩

theorem exists_syncRows (rows : List MobileWalletIn) (hknown : ∀ id ∈ byId, id < t.next)
    {Q : ClientMobileWallet → Prop} :
    (∃ id w, (rows.foldl (syncRow tenantId clientId byId) t).get? id = some w ∧ Q w) ↔
      (∃ id w, t.get? id = some w ∧ Q (w.rewrite (if id ∈ byId then lastRow rows id else none))) ∨
      ∃ row ∈ rows, row.IsNew byId ∧ Q (row.wallet tenantId clientId) := by
  induction rows generalizing t with
  | nil =>
    have hnone : ∀ id, lastRow [] id = none := fun _ => rfl
    simp [hnone, ClientMobileWallet.rewrite]
  | cons row rows ih =>
    have hnext : t.next ∉ byId := fun hmem => lt_irrefl _ (hknown _ hmem)
    rw [List.foldl_cons, ih fun id hid => lt_of_lt_of_le (hknown id hid) (syncRow_next row),
      @exists_syncRow _ _ _ _ row (fun id w => Q (w.rewrite (if id ∈ byId then lastRow rows id
        else none))), if_neg hnext, or_assoc]
    refine or_congr (exists_congr fun id => exists_congr fun w => and_congr_right fun _ => ?_) ?_
    · rw [lastRow_cons]
      by_cases hmem : id ∈ byId
      · by_cases hrow : row.fills id = true
        · simp only [hrow, hmem, and_self, if_true]
          cases lastRow rows id <;> exact Iff.rfl
        · simp only [hrow, hmem, if_true]
          cases lastRow rows id <;> exact Iff.rfl
      · simp [hmem]
    · simp [ClientMobileWallet.rewrite]

/-- The wallets after a form: those of other clients, those of its client that it names, with
the last values it gives for each, and its new ones. -/
theorem exists_syncNested (rows : List MobileWalletIn) {Q : ClientMobileWallet → Prop} :
    (∃ id w, (syncNested tenantId clientId t rows).get? id = some w ∧ Q w) ↔
      (∃ id w, t.get? id = some w ∧ w.clientId ≠ clientId ∧ Q w) ∨
      (∃ id w, t.get? id = some w ∧ w.clientId = clientId ∧ id ∈ rows.filterMap (·.key) ∧
        Q (w.rewrite (lastRow rows id))) ∨
      ∃ row ∈ rows, row.IsNew (walletIds t clientId) ∧ Q (row.wallet tenantId clientId) := by
  have hkept : ∀ id w, (keepNamed clientId t rows).get? id = some w ↔
      t.get? id = some w ∧ (w.clientId = clientId → id ∈ rows.filterMap (·.key)) := by
    intro id w
    rw [keepNamed_get?, Option.filter_eq_some_iff]
    simp [imp_iff_not_or]
  have hknown : ∀ id ∈ walletIds (keepNamed clientId t rows) clientId,
      id < (keepNamed clientId t rows).next := by
    intro id hid
    obtain ⟨w, hw, -⟩ := mem_walletIds.mp hid
    exact Keyed.lt_next hw
  have hnew : ∀ row ∈ rows, row.IsNew (walletIds (keepNamed clientId t rows) clientId) ↔
      row.IsNew (walletIds t clientId) := by
    intro row hrow
    refine and_congr_right fun _ => forall_congr' fun id => forall_congr' fun hkey => not_congr ?_
    simp only [mem_walletIds, hkept]
    have hnamed : id ∈ rows.filterMap (·.key) := List.mem_filterMap.mpr ⟨row, hrow, hkey⟩
    simp [-List.mem_filterMap, hnamed]
  rw [syncNested, exists_syncRows rows hknown, ← or_assoc]
  refine or_congr ?_
    (exists_congr fun row => and_congr_right fun hrow => and_congr_left' (hnew row hrow))
  have hown : ∀ id w, (keepNamed clientId t rows).get? id = some w →
      (id ∈ walletIds (keepNamed clientId t rows) clientId ↔ w.clientId = clientId) := by
    intro id w hw
    rw [mem_walletIds]
    constructor
    · rintro ⟨v, hv, hclient⟩
      obtain rfl := Option.some.inj (hw.symm.trans hv)
      exact hclient
    · exact fun hclient => ⟨w, hw, hclient⟩
  constructor
  · rintro ⟨id, w, hw, hq⟩
    obtain ⟨hrow, hnamed⟩ := (hkept id w).mp hw
    by_cases hclient : w.clientId = clientId
    · rw [if_pos ((hown id w hw).mpr hclient)] at hq
      exact .inr ⟨id, w, hrow, hclient, hnamed hclient, hq⟩
    · rw [if_neg (mt (hown id w hw).mp hclient)] at hq
      exact .inl ⟨id, w, hrow, hclient, hq⟩
  · rintro (⟨id, w, hrow, hclient, hq⟩ | ⟨id, w, hrow, hclient, hnamed, hq⟩)
    · have hw := (hkept id w).mpr ⟨hrow, fun hsame => absurd hsame hclient⟩
      refine ⟨id, w, hw, ?_⟩
      rwa [if_neg (mt (hown id w hw).mp hclient)]
    · have hw := (hkept id w).mpr ⟨hrow, fun _ => hnamed⟩
      refine ⟨id, w, hw, ?_⟩
      rwa [if_pos ((hown id w hw).mpr hclient)]

end Sync

/-- What a field is after the changes of a request: the last value asked for, if any. -/
def askedFor (changes : List (String × FieldChange)) (field : String) (old : Option String) :
    Option String :=
  ((changes.filter (fun change => change.1 = field)).getLast?).elim old (·.2.newValue)

theorem askedFor_cons (change : String × FieldChange) (changes : List (String × FieldChange))
    (field : String) (old : Option String) : askedFor (change :: changes) field old =
      askedFor changes field (if change.1 = field then change.2.newValue else old) := by
  by_cases hfield : change.1 = field
  · rw [askedFor, List.filter_cons_of_pos (by simpa using hfield), List.getLast?_cons,
      if_pos hfield,
      askedFor]
    cases (changes.filter (fun change => change.1 = field)).getLast? <;> rfl
  · rw [askedFor, List.filter_cons_of_neg (by simpa using hfield), if_neg hfield, askedFor]

/-- An approved request leaves in a column that it may write the last value it asks for. -/
theorem ClientRecord.applyChanges_get {field : String} (happlied : applyable.contains field = true)
    (hcolumn : ∀ (c : ClientRecord) v, (c.set field v).get field = v)
    (changes : List (String × FieldChange)) (c : ClientRecord) :
    (c.applyChanges changes).get field = askedFor changes field (c.get field) := by
  induction changes generalizing c with
  | nil => rfl
  | cons change changes ih =>
    simp only [applyChanges, List.foldl_cons] at ih ⊢
    rw [ih, askedFor_cons]
    by_cases hfield : change.1 = field
    · rw [hfield, if_pos happlied, if_pos rfl, hcolumn]
    · rw [if_neg hfield]
      split
      · rw [get_set hfield]
      · rfl

theorem ClientRecord.applyChanges_nationalId (changes : List (String × FieldChange))
    (c : ClientRecord) :
    (c.applyChanges changes).nationalId = askedFor changes "national_id" c.nationalId :=
  @applyChanges_get "national_id" (by decide) (fun _ _ => rfl) changes c

theorem ClientRecord.applyChanges_phone (changes : List (String × FieldChange))
    (c : ClientRecord) : (c.applyChanges changes).phone = askedFor changes "phone" c.phone :=
  @applyChanges_get "phone" (by decide) (fun _ _ => rfl) changes c

namespace KycOffice

/-- The last validation for a client. -/
def lastValidation (s : KycOffice) (clientId : ℕ) : Option ValidationLog :=
  (s.validations.filter (fun log => log.clientId = some clientId)).getLast?

/-- One of the wallets of a client has the number. -/
def HasWallet (s : KycOffice) (clientId : ℕ) (msisdn : String) : Prop :=
  ∃ x ∈ s.wallets.rows, x.2.clientId = clientId ∧ normaliseMsisdn x.2.numbers.num = msisdn

instance (s : KycOffice) (clientId : ℕ) (msisdn : String) :
    Decidable (s.HasWallet clientId msisdn) := by
  unfold HasWallet
  infer_instance

/-- A number is the client's: that of the given phone, or of a wallet. -/
def TheirNumber (s : KycOffice) (clientId : ℕ) (phone : Option String) (msisdn : String) : Prop :=
  normaliseMsisdn (phone.getD "") = msisdn ∨ s.HasWallet clientId msisdn

instance (s : KycOffice) (clientId : ℕ) (phone : Option String) (msisdn : String) :
    Decidable (s.TheirNumber clientId phone msisdn) := by
  unfold TheirNumber
  infer_instance

/-- The last validation for a client matched, with the ID the client has and a number the client
has. -/
def Vouched (s : KycOffice) (clientId : ℕ) : Prop :=
  ∃ client log, s.registry.desk.clients[clientId]? = some client ∧
    s.lastValidation clientId = some log ∧ log.matched = true ∧
      client.nationalId = some log.nationalId ∧ s.TheirNumber clientId client.phone log.msisdn

/-- The check of the flag passes on the client's own ID and number only. -/
def FlagTrue (s : KycOffice) : Prop :=
  ∀ clientId, s.mpesaCheck true clientId = true → s.Vouched clientId

/-- A number is left by a form: in a wallet it names, with the last values it gives for it, or in
a new one. -/
def NumberLeft (s : KycOffice) (clientId : ℕ) (rows : List MobileWalletIn)
    (msisdn : String) : Prop :=
  (∃ x ∈ s.wallets.rows, x.2.clientId = clientId ∧ x.1 ∈ rows.filterMap (·.key) ∧
      normaliseMsisdn (x.2.rewrite (lastRow rows x.1)).numbers.num = msisdn) ∨
    ∃ row ∈ rows, row.IsNew (walletIds s.wallets clientId) ∧
      normaliseMsisdn row.numbers.num = msisdn

instance (s : KycOffice) (clientId : ℕ) (rows : List MobileWalletIn) (msisdn : String) :
    Decidable (s.NumberLeft clientId rows msisdn) := by
  unfold NumberLeft
  infer_instance

/-- What an event must leave alone. A validation for a client names no other ID than the
client's, and no other number than the client's; and while the flag of a client is set, the ID
and the number that were validated stay with the client. -/
def KeepsTrue (s : KycOffice) : KycEvent → Prop
  | .validate editor body now => s.accepts (.validate editor body now) = true →
      ∀ clientId ∈ body.clientId, ∀ client ∈ s.registry.desk.clients[clientId]?,
        wellFormedMsisdn (normaliseMsisdn ((nonEmpty body.phone <|> client.phone).getD "")) = true →
          (∀ nationalId ∈ nonEmpty body.nationalId, client.nationalId = some nationalId) ∧
            ∀ phone ∈ nonEmpty body.phone,
              s.TheirNumber clientId client.phone (normaliseMsisdn phone)
  | .update editor clientId form => s.accepts (.update editor clientId form) = true →
      s.mpesaCheck true clientId = true → ∀ log ∈ s.lastValidation clientId,
        form.record.nationalId = log.nationalId ∧
          (normaliseMsisdn (form.record.phone.getD "") = log.msisdn ∨
            s.NumberLeft clientId form.wallets log.msisdn)
  | .deleteWallet editor clientId walletId =>
      s.accepts (.deleteWallet editor clientId walletId) = true →
        s.mpesaCheck true clientId = true → ∀ log ∈ s.lastValidation clientId,
          ∀ client ∈ s.registry.desk.clients[clientId]?,
            normaliseMsisdn (client.phone.getD "") = log.msisdn ∨
              ∃ x ∈ s.wallets.rows, x.1 ≠ walletId ∧ x.2.clientId = clientId ∧
                normaliseMsisdn x.2.numbers.num = log.msisdn
  | .edit (.approve user xTenantId requestId) =>
      s.accepts (.edit (.approve user xTenantId requestId)) = true →
        (s.registry.desk.approveEditRequest user xTenantId requestId).isOk = true →
          ∀ req ∈ s.registry.desk.requests[requestId]?, s.mpesaCheck true req.clientId = true →
            ∀ log ∈ s.lastValidation req.clientId,
              ∀ client ∈ s.registry.desk.clients[req.clientId]?,
                askedFor req.fieldChanges "national_id" client.nationalId = some log.nationalId ∧
                  s.TheirNumber req.clientId (askedFor req.fieldChanges "phone" client.phone)
                    log.msisdn
  | .edit _ => True

instance KeepsTrue.decidable (s : KycOffice) : (e : KycEvent) → Decidable (s.KeepsTrue e)
  | .validate .. => by unfold KeepsTrue; infer_instance
  | .update .. => by unfold KeepsTrue; infer_instance
  | .deleteWallet .. => by unfold KeepsTrue; infer_instance
  | .edit (.approve ..) => by unfold KeepsTrue; infer_instance
  | .edit (.request ..) => isTrue trivial
  | .edit (.reject ..) => isTrue trivial
  | .edit (.permissions _) => isTrue trivial
  | .edit (.modules ..) => isTrue trivial

variable {s s' : KycOffice}

theorem hasWallet_iff {clientId : ℕ} {msisdn : String} : s.HasWallet clientId msisdn ↔
    ∃ id w, s.wallets.get? id = some w ∧
      (w.clientId = clientId ∧ normaliseMsisdn w.numbers.num = msisdn) := by
  simp [HasWallet, ← Keyed.mem_rows]

theorem vouched_iff {clientId : ℕ} {client : ClientRecord} {log : ValidationLog}
    (hrow : s.registry.desk.clients[clientId]? = some client)
    (hlog : s.lastValidation clientId = some log) :
    s.Vouched clientId ↔ log.matched = true ∧ client.nationalId = some log.nationalId ∧
      s.TheirNumber clientId client.phone log.msisdn := by
  constructor
  · rintro ⟨client', log', hrow', hlog', hvouches⟩
    obtain rfl := Option.some.inj (hrow.symm.trans hrow')
    obtain rfl := Option.some.inj (hlog.symm.trans hlog')
    exact hvouches
  · exact fun hvouches => ⟨client, log, hrow, hlog, hvouches⟩

/-- A client of whom nothing changes that a validation is about. -/
theorem vouched_congr {clientId : ℕ}
    (hclient : (s'.registry.desk.clients[clientId]?).map (fun c => (c.nationalId, c.phone)) =
      (s.registry.desk.clients[clientId]?).map (fun c => (c.nationalId, c.phone)))
    (hlast : s'.lastValidation clientId = s.lastValidation clientId)
    (hwallets : ∀ msisdn, s'.HasWallet clientId msisdn ↔ s.HasWallet clientId msisdn)
    (h : s.Vouched clientId) : s'.Vouched clientId := by
  obtain ⟨client, log, hrow, hlog, hmatched, hnational, hnumber⟩ := h
  rw [hrow, Option.map_some] at hclient
  obtain ⟨client', hrow', hsame⟩ := Option.map_eq_some_iff.mp hclient
  obtain ⟨hnational', hphone⟩ := Prod.mk.inj hsame
  refine ⟨client', log, hrow', hlast.trans hlog, hmatched, hnational'.trans hnational, ?_⟩
  rw [hphone]
  exact hnumber.imp_right (hwallets _).mpr

/-- Where an event changes one client, the flags are true exactly when that client's is. -/
theorem flagTrue_of_others {clientId : ℕ} (h : s.FlagTrue)
    (hothers : ∀ other ≠ clientId, s'.mpesaCheck true other = s.mpesaCheck true other ∧
      (s.Vouched other → s'.Vouched other)) :
    s'.FlagTrue ↔ (s'.mpesaCheck true clientId = true → s'.Vouched clientId) := by
  constructor
  · exact fun hall => hall clientId
  · intro hthis other hflag
    by_cases hother : other = clientId
    · subst hother
      exact hthis hflag
    · obtain ⟨hsame, hkeeps⟩ := hothers other hother
      exact hkeeps (h other (hsame ▸ hflag))

theorem mpesaCheck_modify {id clientId : ℕ} {f : MpesaProfile → MpesaProfile}
    (hprofiles : s'.profiles = s.profiles.modify id f)
    (hf : clientId ≠ id ∨ ∀ p, (f p).mpesaValidated = p.mpesaValidated) :
    s'.mpesaCheck true clientId = s.mpesaCheck true clientId := by
  simp only [mpesaCheck, hprofiles, List.getElem?_modify]
  obtain hother | hsame := hf
  · simp [Ne.symm hother]
  · cases s.profiles[clientId]? with
    | none => rfl
    | some p =>
      simp only [Option.map_eq_map, Option.map_some, Option.any_some]
      split_ifs
      · rw [hsame]
      · rfl

@[simp] theorem rewrite_clientId (w : ClientMobileWallet) (row : Option MobileWalletIn) :
    (w.rewrite row).clientId = w.clientId := by
  cases row <;> rfl

/-- The numbers of the clients' wallets after a form of one of them. -/
theorem hasWallet_sync {tenantId clientId : ℕ} {rows : List MobileWalletIn}
    (hwallets : s'.wallets = syncNested tenantId clientId s.wallets rows) :
    (∀ other ≠ clientId, ∀ msisdn, s'.HasWallet other msisdn ↔ s.HasWallet other msisdn) ∧
      ∀ msisdn, s'.HasWallet clientId msisdn ↔ s.NumberLeft clientId rows msisdn := by
  constructor
  · intro other hother msisdn
    rw [hasWallet_iff, hwallets, exists_syncNested, hasWallet_iff]
    constructor
    · rintro (⟨id, w, hw, -, hq⟩ | ⟨id, w, -, hclient, -, hq, -⟩ | ⟨row, -, -, hq, -⟩)
      · exact ⟨id, w, hw, hq⟩
      · exact absurd (hq.symm.trans ((rewrite_clientId w _).trans hclient)) hother
      · exact absurd hq.symm hother
    · rintro ⟨id, w, hw, hclient, hnumber⟩
      exact .inl ⟨id, w, hw, fun hsame => hother (hclient.symm.trans hsame), hclient, hnumber⟩
  · intro msisdn
    rw [hasWallet_iff, hwallets, exists_syncNested]
    constructor
    · rintro (⟨id, w, -, hother, hclient, -⟩ | ⟨id, w, hw, hclient, hnamed, -, hnumber⟩ |
        ⟨row, hrow, hnew, -, hnumber⟩)
      · exact absurd hclient hother
      · exact .inl ⟨(id, w), Keyed.mem_rows.mpr hw, hclient, hnamed, hnumber⟩
      · exact .inr ⟨row, hrow, hnew, hnumber⟩
    · rintro (⟨⟨id, w⟩, hw, hclient, hnamed, hnumber⟩ | ⟨row, hrow, hnew, hnumber⟩)
      · refine .inr (.inl ⟨id, w, Keyed.mem_rows.mp hw, hclient, hnamed, ?_, hnumber⟩)
        rw [rewrite_clientId]
        exact hclient
      · exact .inr (.inr ⟨row, hrow, hnew, rfl, hnumber⟩)

theorem update_flag_iff {editor : ClientEditor} {clientId : ℕ} {form : ClientForm} (hs : s.FlagTrue)
    (h : s.updateClient editor clientId form = .ok s') :
    s'.FlagTrue ↔ s.KeepsTrue (.update editor clientId form) := by
  have haccepted := (@step_accepted s _ (.update editor clientId form) h).2
  obtain ⟨tenantId, registry, -, hregistry, hout⟩ := updateClient_eq_ok h
  obtain ⟨t, client, hclient, -, hsave⟩ := Registry.updateClient_updated hregistry
  obtain ⟨phone, rfl⟩ := Registry.save_eq_ok hsave
  have hrow : s.registry.desk.clients[clientId]? = some client :=
    (Option.filter_eq_some_iff.mp hclient).1
  have hlt := (List.getElem?_eq_some_iff.mp hrow).1
  obtain ⟨hothers, hown⟩ := @hasWallet_sync s s' tenantId clientId form.wallets (by rw [hout])
  have hprofiles : s'.profiles = s.profiles.modify clientId
      (fun p => { p with middleName := form.middleName }) := by rw [hout]
  have hflag : ∀ id, s'.mpesaCheck true id = s.mpesaCheck true id := fun id =>
    mpesaCheck_modify hprofiles (.inr fun _ => rfl)
  have hlast : ∀ id, s'.lastValidation id = s.lastValidation id := fun id => by rw [hout]; rfl
  have hclients : s'.registry.desk.clients =
      s.registry.desk.clients.set clientId (client.applyScalars form.record) := by rw [hout]
  have hrow' : s'.registry.desk.clients[clientId]? = some (client.applyScalars form.record) := by
    rw [hclients, List.getElem?_set_self hlt]
  rw [flagTrue_of_others hs fun other hother => ⟨hflag other, vouched_congr
    (by rw [hclients, List.getElem?_set_ne (Ne.symm hother)]) (hlast other) (hothers other hother)⟩]
  simp only [KeepsTrue, haccepted, true_imp_iff, hflag]
  refine forall_congr' fun hset => ?_
  obtain ⟨-, log, -, hlog, hmatched, -⟩ := hs clientId hset
  rw [vouched_iff hrow' ((hlast clientId).trans hlog)]
  simp only [hmatched, true_and, hlog, Option.mem_some_iff, forall_eq', TheirNumber, hown,
    ClientRecord.applyScalars, Option.some.injEq]

/-- The deletion of a wallet leaves the other ones. -/
theorem delete_flag_iff {editor : ClientEditor} {clientId walletId : ℕ} (hs : s.FlagTrue)
    (h : s.deleteWallet editor clientId walletId = .ok s') :
    s'.FlagTrue ↔ s.KeepsTrue (.deleteWallet editor clientId walletId) := by
  have haccepted := (@step_accepted s _ (.deleteWallet editor clientId walletId) h).2
  obtain ⟨tenantId, w, -, hw, hclient, -, hout⟩ := deleteWallet_eq_ok h
  have hwallets : ∀ id msisdn, s'.HasWallet id msisdn ↔ ∃ x ∈ s.wallets.rows, x.1 ≠ walletId ∧
      x.2.clientId = id ∧ normaliseMsisdn x.2.numbers.num = msisdn := by
    intro id msisdn
    rw [hout]
    simp [HasWallet, Keyed.keep, and_assoc]
  have hothers : ∀ other ≠ clientId, ∀ msisdn, s'.HasWallet other msisdn ↔
      s.HasWallet other msisdn := by
    intro other hother msisdn
    rw [hwallets]
    refine exists_congr fun x => and_congr_right fun hx => and_iff_right_of_imp fun hown hsame => ?_
    have hrow : s.wallets.get? x.1 = some x.2 := Keyed.mem_rows.mp hx
    rw [hsame, hw, Option.some.injEq] at hrow
    exact hother (hown.1.symm.trans (hrow ▸ hclient))
  have hflag : ∀ id, s'.mpesaCheck true id = s.mpesaCheck true id := fun id => by rw [hout]; rfl
  have hlast : ∀ id, s'.lastValidation id = s.lastValidation id := fun id => by rw [hout]; rfl
  have hclients : s'.registry = s.registry := by rw [hout]
  rw [flagTrue_of_others hs fun other hother => ⟨hflag other, vouched_congr (by rw [hclients])
    (hlast other) (hothers other hother)⟩]
  simp only [KeepsTrue, haccepted, true_imp_iff, hflag]
  refine forall_congr' fun hset => ?_
  obtain ⟨client, log, hrow, hlog, hmatched, hnational, -⟩ := hs clientId hset
  rw [vouched_iff (hclients ▸ hrow) ((hlast clientId).trans hlog)]
  simp only [hmatched, hnational, true_and, hlog, hrow, Option.mem_some_iff, forall_eq',
    TheirNumber,
    hwallets]

/-- An event at the desk changes the clients by an approval that goes through, and else leaves
them. -/
theorem desk_clients (d : ClientDesk) (e : ClientEditEvent) :
    (∃ user xTenantId requestId req client, e = .approve user xTenantId requestId ∧
        (d.approveEditRequest user xTenantId requestId).isOk = true ∧
        d.requests[requestId]? = some req ∧ d.clients[req.clientId]? = some client ∧
        (d.step e).clients = d.clients.set req.clientId (client.applyChanges req.fieldChanges)) ∨
      ((d.step e).clients = d.clients ∧ ∀ user xTenantId requestId,
        e = .approve user xTenantId requestId →
          (d.approveEditRequest user xTenantId requestId).isOk = false) := by
  cases e with
  | permissions overrides => exact .inr ⟨rfl, by simp⟩
  | modules modules known => exact .inr ⟨rfl, by simp⟩
  | request user xTenantId clientId body =>
    refine .inr ⟨?_, by simp⟩
    cases hdesk : d.createEditRequest user xTenantId clientId body with
    | error failure => simp [ClientDesk.step, ClientDesk.saved, hdesk]
    | ok desk =>
      obtain ⟨req, -, rfl⟩ := ClientDesk.createEditRequest_eq_ok hdesk
      simp [ClientDesk.step, ClientDesk.saved, hdesk]
  | reject user xTenantId requestId reason =>
    refine .inr ⟨?_, by simp⟩
    cases hdesk : d.rejectEditRequest user xTenantId requestId reason with
    | error failure => simp [ClientDesk.step, ClientDesk.saved, hdesk]
    | ok desk =>
      obtain rfl := ClientDesk.rejectEditRequest_eq_ok hdesk
      simp [ClientDesk.step, ClientDesk.saved, hdesk]
  | approve user xTenantId requestId =>
    cases hdesk : d.approveEditRequest user xTenantId requestId with
    | error failure =>
      refine .inr ⟨by simp [ClientDesk.step, ClientDesk.saved, hdesk], ?_⟩
      rintro _ _ _ ⟨⟩
      rw [hdesk]
      rfl
    | ok desk =>
      obtain ⟨req, client, hreq, -, -, -, hrow, -, rfl⟩ :=
        ClientDesk.approveEditRequest_eq_ok.mp hdesk
      refine .inl ⟨user, xTenantId, requestId, req, client, rfl, by rw [hdesk]; rfl, hreq, hrow, ?_⟩
      simp [ClientDesk.step, ClientDesk.saved, hdesk]

/-- An event at the desk changes the record of the client whose request is approved, if one
is, and no wallet. -/
theorem edit_flag_iff {e : ClientEditEvent} (hs : s.FlagTrue) (h : s.editClient e = .ok s') :
    s'.FlagTrue ↔ s.KeepsTrue (.edit e) := by
  have haccepted := (@step_accepted s _ (.edit e) h).2
  have hout := editClient_eq_ok h
  have hclients : s'.registry.desk.clients = (s.registry.desk.step e).clients := by rw [hout]; rfl
  have hflag : ∀ id, s'.mpesaCheck true id = s.mpesaCheck true id := fun id => by rw [hout]; rfl
  have hlast : ∀ id, s'.lastValidation id = s.lastValidation id := fun id => by rw [hout]; rfl
  have hwallets : ∀ id msisdn, s'.HasWallet id msisdn ↔ s.HasWallet id msisdn := fun id msisdn => by
    rw [hout]
    exact Iff.rfl
  obtain ⟨user, xTenantId, requestId, req, client, rfl, hgoes, hreq, hrow, hset⟩ | ⟨hsame, hnone⟩ :=
    desk_clients s.registry.desk e
  · have hrow' : s'.registry.desk.clients[req.clientId]? =
        some (client.applyChanges req.fieldChanges) := by
      rw [hclients, hset, List.getElem?_set_self (List.getElem?_eq_some_iff.mp hrow).1]
    rw [flagTrue_of_others hs fun other hother => ⟨hflag other, vouched_congr
      (by rw [hclients, hset, List.getElem?_set_ne (Ne.symm hother)]) (hlast other)
        (hwallets other)⟩]
    simp only [KeepsTrue, haccepted, hgoes, hreq, true_imp_iff, hflag, Option.mem_some_iff,
      forall_eq']
    refine forall_congr' fun hcheck => ?_
    obtain ⟨-, log, -, hlog, hmatched, -⟩ := hs req.clientId hcheck
    rw [vouched_iff hrow' ((hlast req.clientId).trans hlog)]
    simp only [hmatched, true_and, hlog, hrow, Option.mem_some_iff, forall_eq', TheirNumber,
      hwallets, ClientRecord.applyChanges_nationalId, ClientRecord.applyChanges_phone]
  · refine iff_of_true (fun clientId hset => ?_) ?_
    · exact vouched_congr (by rw [hclients, hsame]) (hlast clientId) (hwallets clientId)
        (hs clientId (hflag clientId ▸ hset))
    · cases e with
      | approve user xTenantId requestId =>
        simp [KeepsTrue, hnone user xTenantId requestId rfl]
      | request user xTenantId clientId body => trivial
      | reject user xTenantId requestId reason => trivial
      | permissions overrides => trivial
      | modules modules known => trivial

/-- Every client has its columns for the validation. -/
def Aligned (s : KycOffice) : Prop := s.profiles.length = s.registry.desk.clients.length

/-- The client that a validation is for. -/
theorem validated_eq_ok {tenantId : ℕ} {body : ValidateMpesaRequest}
    {held : Option (ℕ × ClientRecord)} (h : s.validated tenantId body = .ok held) :
    held.map (·.1) = body.clientId ∧
      ∀ x ∈ held, s.registry.desk.clients[x.1]? = some x.2 := by
  simp only [validated] at h
  split at h
  · rename_i hnone
    cases h
    simp [hnone]
  · rename_i id hid
    split at h
    · cases h
    · rename_i client hclient
      cases h
      simp [hid, (Option.filter_eq_some_iff.mp hclient).1]

/-- The locks change no number. -/
theorem hasWallet_lock {f : ClientMobileWallet → ClientMobileWallet}
    (hnumbers : ∀ w, (f w).clientId = w.clientId ∧ (f w).numbers = w.numbers)
    (hwallets : s'.wallets = s.wallets.change (fun _ w => f w)) (clientId : ℕ) (msisdn : String) :
    s'.HasWallet clientId msisdn ↔ s.HasWallet clientId msisdn := by
  simp only [hasWallet_iff, hwallets, Keyed.get?_change, Option.map_eq_some_iff]
  constructor
  · rintro ⟨id, w, ⟨w', hw', rfl⟩, hclient, hnumber⟩
    rw [(hnumbers w').1] at hclient
    rw [(hnumbers w').2] at hnumber
    exact ⟨id, w', hw', hclient, hnumber⟩
  · rintro ⟨id, w, hw, hclient, hnumber⟩
    exact ⟨id, f w, ⟨w, hw, rfl⟩, (hnumbers w).1.trans hclient, by rwa [(hnumbers w).2]⟩

/-- What is given comes before what is stored: the value used is the client's exactly when none
is given, or the client's own. -/
theorem given_iff {given stored : Option String} {used : String} {P : String → Prop}
    (h : nonEmpty (nonEmpty given <|> stored) = some used) (hstored : stored = some used → P used) :
    P used ↔ ∀ value ∈ nonEmpty given, P value := by
  obtain ⟨hused, -⟩ := nonEmpty_eq_some.mp h
  cases hgiven : nonEmpty given with
  | some value =>
    obtain rfl : value = used := by simpa [hgiven] using hused
    simp
  | none =>
    refine iff_of_true (hstored ?_) (by simp)
    simpa [hgiven] using hused

theorem lastValidation_append {log : ValidationLog}
    (hlogs : s'.validations = s.validations ++ [log])
    (clientId : ℕ) : s'.lastValidation clientId =
      if log.clientId = some clientId then some log else s.lastValidation clientId := by
  rw [lastValidation, hlogs, List.filter_append]
  by_cases hown : log.clientId = some clientId
  · simp [hown]
  · simp [hown, lastValidation]

theorem validate_flag_iff {editor : ClientEditor} {body : ValidateMpesaRequest} {now : ℤ}
    (haligned : s.Aligned) (hs : s.FlagTrue) (h : s.validateMpesa editor body now = .ok s') :
    s'.FlagTrue ↔ s.KeepsTrue (.validate editor body now) := by
  have haccepted := (@step_accepted s _ (.validate editor body now) h).2
  obtain ⟨tenantId, held, phone, nationalId, resp, -, hheld, hphone, hnational, hresp, hout⟩ :=
    validateMpesa_eq_ok h
  obtain ⟨hbody, hfound⟩ := validated_eq_ok hheld
  have hregistry : s'.registry = s.registry := by rw [hout]
  have hlast := @lastValidation_append s s' _ (congrArg KycOffice.validations hout)
  cases held with
  | none =>
    refine iff_of_true (fun clientId hset => ?_) ?_
    · have hflag : s'.mpesaCheck true clientId = s.mpesaCheck true clientId := by rw [hout]; rfl
      refine vouched_congr (by rw [hregistry]) (by simp [hlast]) (fun msisdn => ?_)
        (hs clientId (hflag ▸ hset))
      rw [hout]
      exact Iff.rfl
    · simp [KeepsTrue, ← hbody]
  | some x =>
    obtain ⟨clientId, client⟩ := x
    have hrow : s.registry.desk.clients[clientId]? = some client := hfound _ rfl
    have hprofiles : s'.profiles = s.profiles.modify clientId (fun p => { p with
        mpesaValidated := resp.matched, mpesaValidationName := resp.registeredName
        mpesaValidatedAt := some now }) := by rw [hout]; rfl
    have hwallets : ∀ id msisdn, s'.HasWallet id msisdn ↔ s.HasWallet id msisdn := by
      intro id msisdn
      have hlocks : ∀ w : ClientMobileWallet, (w.lock resp.msisdn now).clientId = w.clientId ∧
          (w.lock resp.msisdn now).numbers = w.numbers := by
        intro w
        simp only [ClientMobileWallet.lock]
        split_ifs <;> exact ⟨rfl, rfl⟩
      by_cases hmatched : resp.matched = true
      · refine @hasWallet_lock s s' (fun w => if w.clientId = clientId then w.lock resp.msisdn now
          else w) (fun w => ?_) (by rw [hout]; simp [hmatched]) id msisdn
        split_ifs
        · exact hlocks w
        · exact ⟨rfl, rfl⟩
      · rw [hasWallet_iff, hasWallet_iff, hout]
        simp [hmatched]
    rw [flagTrue_of_others hs fun other hother => ⟨mpesaCheck_modify hprofiles (.inl hother),
      vouched_congr (by rw [hregistry]) (by simp [hlast, Ne.symm hother]) (hwallets other)⟩]
    have hset : s'.mpesaCheck true clientId = resp.matched := by
      have hlt : clientId < s.profiles.length := by
        rw [haligned]
        exact (List.getElem?_eq_some_iff.mp hrow).1
      simp [mpesaCheck, hprofiles, List.getElem?_eq_getElem hlt]
    have hused : (nonEmpty body.phone <|> client.phone).getD "" = phone := by
      obtain ⟨hused, -⟩ := nonEmpty_eq_some.mp hphone
      rw [show (nonEmpty body.phone <|> client.phone) = some phone from hused, Option.getD_some]
    have hmatched : resp.matched = wellFormedMsisdn (normaliseMsisdn phone) := by
      rw [← hresp]
      simp [validateMobileNumber, (nonEmpty_eq_some.mp hnational).2]
    have hmsisdn : resp.msisdn = normaliseMsisdn phone := by rw [← hresp]; rfl
    have hlog : s'.lastValidation clientId =
        some ⟨tenantId, some clientId, resp.msisdn, nationalId, resp.matched⟩ := by simp [hlast]
    rw [vouched_iff (hregistry ▸ hrow) hlog]
    simp only [KeepsTrue, haccepted, true_imp_iff, ← hbody, Option.map_some, Option.mem_some_iff,
      forall_eq', hrow, hused, hset, hmatched, hmsisdn]
    refine forall_congr' fun hformat => ?_
    simp only [hformat, true_and, TheirNumber, hwallets]
    refine and_congr ?_ ?_
    · exact @given_iff body.nationalId client.nationalId nationalId
        (fun value => client.nationalId = some value) hnational id
    · exact @given_iff body.phone client.phone phone
        (fun value => normaliseMsisdn (client.phone.getD "") = normaliseMsisdn value ∨
          s.HasWallet clientId (normaliseMsisdn value)) hphone fun hstored =>
            .inl (by rw [hstored]; rfl)

theorem aligned_step {e : KycEvent} (haligned : s.Aligned) : (s.step e).Aligned := by
  cases hout : s.handle e with
  | error failure => rwa [(step_refused hout).1]
  | ok s' =>
    rw [(step_accepted hout).1]
    cases e with
    | validate editor body now =>
      obtain ⟨-, held, -, -, resp, -, -, -, -, -, rfl⟩ := validateMpesa_eq_ok hout
      cases held with
      | none => exact haligned
      | some x => simpa [Aligned] using haligned
    | update editor clientId form =>
      obtain ⟨tenantId, registry, -, hregistry, rfl⟩ := updateClient_eq_ok hout
      obtain ⟨t, client, -, -, hsave⟩ := Registry.updateClient_updated hregistry
      obtain ⟨phone, rfl⟩ := Registry.save_eq_ok hsave
      simpa [Aligned] using haligned
    | deleteWallet editor clientId walletId =>
      obtain ⟨tenantId, w, -, -, -, -, rfl⟩ := deleteWallet_eq_ok hout
      exact haligned
    | edit e =>
      obtain rfl := editClient_eq_ok hout
      have hlength : (s.registry.desk.step e).clients.length = s.registry.desk.clients.length := by
        obtain ⟨-, -, -, req, client, -, -, -, -, hset⟩ | ⟨hsame, -⟩ :=
          desk_clients s.registry.desk e
        · rw [hset, List.length_set]
        · rw [hsame]
      exact haligned.trans hlength.symm

/-- The step lemma. -/
theorem flagTrue_step {e : KycEvent} (haligned : s.Aligned) (hs : s.FlagTrue) :
    (s.step e).FlagTrue ↔ s.KeepsTrue e := by
  cases hout : s.handle e with
  | error failure =>
    obtain ⟨hstep, hrefused⟩ := step_refused hout
    rw [hstep]
    refine iff_of_true hs ?_
    cases e with
    | validate editor body now => simp [KeepsTrue, hrefused]
    | update editor clientId form => simp [KeepsTrue, hrefused]
    | deleteWallet editor clientId walletId => simp [KeepsTrue, hrefused]
    | edit e =>
      cases e with
      | approve user xTenantId requestId => simp [KeepsTrue, hrefused]
      | request user xTenantId clientId body => trivial
      | reject user xTenantId requestId reason => trivial
      | permissions overrides => trivial
      | modules modules known => trivial
  | ok s' =>
    rw [(step_accepted hout).1]
    cases e with
    | validate editor body now => exact validate_flag_iff haligned hs hout
    | update editor clientId form => exact update_flag_iff hs hout
    | deleteWallet editor clientId walletId => exact delete_flag_iff hs hout
    | edit e => exact edit_flag_iff hs hout

/-- Over a run, the check of the flag passes on the client's own ID and number only, exactly when
no event brings others in. -/
theorem mpesa_flag_iff (start : KycOffice) (events : List KycEvent) (haligned : start.Aligned)
    (hstart : start.FlagTrue) :
    Always step FlagTrue start events ↔ AllSteps step KeepsTrue start events :=
  always_iff_allSteps_of (fun _ _ h => aligned_step h) (fun _ _ h hs => flagTrue_step h hs) haligned
    hstart

theorem walletOffice_flagTrue : walletOffice.FlagTrue := by
  intro clientId hset
  cases clientId with
  | zero => cases hset
  | succ n => cases hset

/-- The client gets a second wallet after the validation, and the first one is deleted. -/
theorem mpesa_flag_iff_phone : Always step FlagTrue walletOffice [validateStored,
    .update officer 0 ⟨⟨"11112222", some "254700000001", "Asha", "Otieno", some "1990-01-01", none⟩,
      none, [⟨some 1, ⟨none, none, none⟩, true⟩, ⟨none, ⟨some "0733000000", none, none⟩, true⟩]⟩,
    .deleteWallet officer 0 1] :=
  (mpesa_flag_iff walletOffice _ rfl walletOffice_flagTrue).mpr (by decide)

/-- The number and the ID of somebody else are validated for the client. -/
def validateOther : KycEvent :=
  .validate officer ⟨some 0, some "0799999999", some "99998888", none⟩ 86400

theorem other_number_validated : walletOffice.Aligned ∧ walletOffice.FlagTrue ∧
    ¬ Always step FlagTrue walletOffice [validateOther] := by
  refine ⟨rfl, walletOffice_flagTrue, fun h => ?_⟩
  obtain ⟨client, log, hrow, hlog, -, hnational, -⟩ := h.last 0 (by decide)
  have hstored : ((run step walletOffice [validateOther]).registry.desk.clients[0]?).map
      (·.nationalId) = some (some "11112222") := by decide
  have hgiven : ((run step walletOffice [validateOther]).lastValidation 0).map (·.nationalId) =
      some "99998888" := by decide
  rw [hrow, Option.map_some, Option.some.injEq, hnational] at hstored
  rw [hlog, Option.map_some, hstored] at hgiven
  simp at hgiven

end KycOffice

end FinylDcp
