import FinylDcp.Integrations
import FinylDcp.Runs
import FinylDcp.Schema

/-!
# The paybill numbers of the tenants

A tenant saves its Daraja settings, its paybill number among them. Messages to borrowers
advertise the number of the tenant's credentials, and payments come back by the number; a
tenant without a number of its own advertises that of the platform.
-/
namespace FinylDcp
open Text Runs

structure DarajaConfigIn where
  environment : Option String
  shortcode : Option String
  initiatorName : Option String
  consumerKey : Option String
  consumerSecret : Option String
  passkey : Option String
  securityCredential : Option String
  enabled : Option Bool
  deriving DecidableEq, Repr

/-- A field that is not secret: an empty one clears what is stored. -/
def sentField (stored : Option String) : Option String → Option String
  | none => stored
  | some v => nonEmpty (some (strip v))

/-- A secret: an empty one keeps what is stored. -/
def sentSecret (stored sent : Option String) : Option String :=
  (nonEmpty (sent.map strip)) <|> stored

namespace TenantIntegrationConfig

variable (row : TenantIntegrationConfig)

def key : ℕ × String := (row.tenantId, row.integration)

/-- The number a row carries, empty where it has none. -/
def paybill : String := strip (row.shortcode.getD "")

/-- The row as a request leaves it. -/
def updated (body : DarajaConfigIn) : TenantIntegrationConfig :=
  { row with
    environment := sentField row.environment body.environment
    shortcode := sentField row.shortcode body.shortcode
    initiatorName := sentField row.initiatorName body.initiatorName
    consumerKey := sentSecret row.consumerKey body.consumerKey
    consumerSecret := sentSecret row.consumerSecret body.consumerSecret
    passkey := sentSecret row.passkey body.passkey
    securityCredential := sentSecret row.securityCredential body.securityCredential
    enabled := body.enabled.getD row.enabled }

end TenantIntegrationConfig

open TenantIntegrationConfig

/-- Write a row over the one with its key, or add it. -/
def putRow (row : TenantIntegrationConfig) (rows : List TenantIntegrationConfig) :
    List TenantIntegrationConfig :=
  if rows.any (fun r => r.key = row.key) then rows.map (fun r => if r.key = row.key then row else r)
  else rows ++ [row]

theorem putRow_nodup {row : TenantIntegrationConfig} {rows : List TenantIntegrationConfig}
    (h : (rows.map key).Nodup) : ((putRow row rows).map key).Nodup := by
  unfold putRow
  split
  · have hkeys : (rows.map (fun r => if r.key = row.key then row else r)).map key =
        rows.map key := by
      rw [List.map_map]
      refine List.map_congr_left fun r _ => ?_
      by_cases hr : r.key = row.key
      · simp [hr]
      · simp [hr]
    rwa [hkeys]
  · rename_i hnew
    simp only [List.any_eq_true, decide_eq_true_eq, not_exists, not_and] at hnew
    rw [List.map_append, List.map_singleton, List.nodup_append]
    refine ⟨h, List.nodup_singleton _, ?_⟩
    intro a ha b hb
    obtain ⟨r, hr, rfl⟩ := List.mem_map.mp ha
    obtain rfl := List.mem_singleton.mp hb
    exact hnew r hr

/-- The written row is there, and the rows with other keys stay. -/
theorem mem_putRow {row r : TenantIntegrationConfig} {rows : List TenantIntegrationConfig} :
    r ∈ putRow row rows ↔ r = row ∨ (r ∈ rows ∧ r.key ≠ row.key) := by
  unfold putRow
  split
  · rename_i hthere
    simp only [List.any_eq_true, decide_eq_true_eq] at hthere
    obtain ⟨old, hold, hkey⟩ := hthere
    rw [List.mem_map]
    constructor
    · rintro ⟨s, hs, rfl⟩
      by_cases hsame : s.key = row.key
      · simp [hsame]
      · simp [hsame, hs]
    · rintro (rfl | ⟨hr, hother⟩)
      · exact ⟨old, hold, by simp [hkey]⟩
      · exact ⟨r, hr, by simp [hother]⟩
  · rename_i hnew
    simp only [List.any_eq_true, decide_eq_true_eq, not_exists, not_and] at hnew
    rw [List.mem_append, List.mem_singleton]
    constructor
    · rintro (hr | rfl)
      · exact .inr ⟨hr, hnew r hr⟩
      · exact .inl rfl
    · rintro (rfl | ⟨hr, -⟩)
      · exact .inr rfl
      · exact .inl hr

def validEnvironments : List String := ["sandbox", "production"]

/-- Five to seven digits. -/
def validPaybill (number : String) : Bool :=
  number.toList.all isDigit && 5 ≤ number.length && number.length ≤ 7

namespace Platform

variable (platform : Platform) (tenantId : ℕ)

/-- The Daraja row of a tenant. -/
def darajaRow : Option TenantIntegrationConfig :=
  platform.integrations.find? (fun r => r.tenantId = tenantId && r.integration = "daraja")

/-- The row a request writes; a new one is enabled. -/
def sentRow (body : DarajaConfigIn) : TenantIntegrationConfig :=
  ((platform.darajaRow tenantId).getD
    ⟨tenantId, "daraja", true, none, none, none, none, none, none, none⟩).updated body

/-- The rows with one written. -/
def put (row : TenantIntegrationConfig) : Platform :=
  { platform with
    integrations := putRow row platform.integrations
    uqTenantIntegration := putRow_nodup platform.uqTenantIntegration }

/-- `PUT /settings/daraja`: two tenants cannot save one paybill number. -/
def updateDaraja (body : DarajaConfigIn) : Except Failure Platform :=
  if body.environment.any (fun env => !validEnvironments.contains env) then
    .error (.http 422 "environment must be one of ('sandbox', 'production')")
  else
    let row := platform.sentRow tenantId body
    if row.paybill ≠ "" ∧ !validPaybill row.paybill then
      .error (.http 422 "Paybill / shortcode must be 5-7 digits")
    else if row.paybill ≠ "" ∧ platform.integrations.any (fun r => r.integration = "daraja" &&
        r.tenantId ≠ tenantId && r.paybill = row.paybill) then
      .error (.http 409 "This paybill number is already registered to another DCP")
    else .ok (platform.put row)

/-- A request of a tenant to save its settings. -/
structure DarajaCall where
  tenantId : ℕ
  body : DarajaConfigIn
  deriving DecidableEq, Repr

/-- A refused request changes nothing. -/
def saveSettings (platform : Platform) (call : DarajaCall) : Platform :=
  match platform.updateDaraja call.tenantId call.body with
  | .ok saved => saved
  | .error _ => platform

/-- `_paybill`: the number in the messages of a tenant, empty where there is none. -/
def smsPaybill : String :=
  let number := (platform.resolveCreds tenantId).shortcode
  if lower (strip number) = "" ∨ lower (strip number) = "placeholder" then "" else number

/-- No two tenants have stored the same number. -/
def DistinctPaybills : Prop :=
  ∀ r ∈ platform.integrations, ∀ s ∈ platform.integrations, r.integration = "daraja" →
    s.integration = "daraja" → r.tenantId ≠ s.tenantId → r.paybill = s.paybill → r.paybill = ""

/-- The number in a tenant's messages is never another tenant's. -/
def NeverMisrouted (tenants : List ℕ) : Prop :=
  ∀ t ∈ tenants, ∀ u ∈ tenants, t ≠ u → platform.shortcodeToTenant (platform.smsPaybill t) ≠ some u

instance (tenants : List ℕ) : Decidable (platform.NeverMisrouted tenants) :=
  inferInstanceAs (Decidable (∀ t ∈ tenants, ∀ u ∈ tenants, t ≠ u →
    platform.shortcodeToTenant (platform.smsPaybill t) ≠ some u))

/-- The number a tenant has switched on for itself. -/
def ownPaybill : Option String :=
  if tenantId = 0 then none
  else ((platform.darajaRow tenantId).filter (·.enabled)).bind (fun r => clean r.shortcode)

/-- The platform has a number that messages advertise, and it belongs to a tenant: the
tenant has saved it as its own, or nobody has and the tenant alone takes payments. -/
def OwnsDefault : Prop :=
  let own := strip platform.settings.shortcode
  own ≠ "" ∧ lower own ≠ "placeholder" ∧
    ((∃ r ∈ platform.integrations, r.tenantId = tenantId ∧ claims own r = true) ∨
      platform.claimants own = [] ∧ platform.paymentTenants = [tenantId])

/-- Nobody owns the platform's number while another tenant has to advertise it. -/
def DefaultUnowned (tenants : List ℕ) : Prop :=
  ∀ t ∈ tenants, ∀ u ∈ tenants, t ≠ u → platform.ownPaybill t = none → ¬ platform.OwnsDefault u

theorem mem_daraja {r : TenantIntegrationConfig} (hr : r ∈ platform.integrations)
    (hdaraja : r.integration = "daraja") : platform.darajaRow r.tenantId = some r := by
  cases hfound : platform.darajaRow r.tenantId with
  | none => simpa [hdaraja] using List.find?_eq_none.mp hfound r hr
  | some s =>
    have hs := List.find?_some hfound
    simp only [Bool.and_eq_true, decide_eq_true_eq] at hs
    have hkey : key s = key r := by simp [key, hs.1, hs.2, hdaraja]
    rw [List.inj_on_of_nodup_map platform.uqTenantIntegration (List.mem_of_find?_eq_some hfound) hr
      hkey]

theorem darajaRow_eq_some {tenantId : ℕ} {r : TenantIntegrationConfig}
    (h : platform.darajaRow tenantId = some r) :
    r ∈ platform.integrations ∧ r.tenantId = tenantId ∧ r.integration = "daraja" := by
  have hr := List.find?_some h
  simp only [Bool.and_eq_true, decide_eq_true_eq] at hr
  exact ⟨List.mem_of_find?_eq_some h, hr⟩

theorem sentRow_key (body : DarajaConfigIn) : (platform.sentRow tenantId body).tenantId = tenantId ∧
    (platform.sentRow tenantId body).integration = "daraja" := by
  simp only [sentRow, updated]
  cases hrow : platform.darajaRow tenantId with
  | none => exact ⟨rfl, rfl⟩
  | some r => exact (platform.darajaRow_eq_some hrow).2

/-- Saving settings keeps the numbers apart: a clash is refused. -/
theorem DistinctPaybills.saveSettings {platform : Platform} (h : platform.DistinctPaybills)
    (call : DarajaCall) : (platform.saveSettings call).DistinctPaybills := by
  obtain ⟨tenantId, body⟩ := call
  simp only [Platform.saveSettings, updateDaraja]
  split
  · rename_i saved hsaved
    split_ifs at hsaved with henv hdigits hclash
    obtain rfl := Except.ok.inj hsaved
    obtain ⟨htenant, hdaraja⟩ := platform.sentRow_key tenantId body
    set row := platform.sentRow tenantId body
    have hfree : ∀ r ∈ platform.integrations, r.integration = "daraja" → r.tenantId ≠ tenantId →
        r.paybill = row.paybill → row.paybill = "" := by
      intro r hr hr' hother hsame
      by_contra hne
      refine hclash ⟨hne, List.any_eq_true.mpr ⟨r, hr, ?_⟩⟩
      simp [hr', hother, hsame]
    intro r hr s hs hr' hs' hother hsame
    obtain rfl | ⟨hr, -⟩ := mem_putRow.mp hr
    · obtain rfl | ⟨hs, -⟩ := mem_putRow.mp hs
      · exact absurd rfl hother
      · exact hfree s hs hs' (by rw [← htenant]; exact hother.symm) hsame.symm
    · obtain rfl | ⟨hs, -⟩ := mem_putRow.mp hs
      · rw [hsame]
        exact hfree r hr hr' (by rw [← htenant]; exact hother) hsame
      · exact h r hr s hs hr' hs' hother hsame
  · exact h

theorem DistinctPaybills.run {start : Platform} (h : start.DistinctPaybills)
    (calls : List DarajaCall) : (Runs.run Platform.saveSettings start calls).DistinctPaybills := by
  induction calls generalizing start with
  | nil => exact h
  | cons call calls ih => exact ih (h.saveSettings call)

theorem mem_claimants {number : String} {r : TenantIntegrationConfig} :
    r ∈ platform.claimants number ↔ r ∈ platform.integrations ∧ claims number r = true :=
  List.mem_filter

/-- A number that a tenant has switched on leads to no other tenant. -/
theorem shortcodeToTenant_claimed {number : String} {r : TenantIntegrationConfig}
    (hr : r ∈ platform.claimants number) {u : ℕ}
    (h : platform.shortcodeToTenant number = some u) : u = r.tenantId := by
  have hmem : r.tenantId ∈ tenantSet ((platform.claimants number).map (·.tenantId)) := by
    rw [tenantSet, List.mem_insertionSort, List.mem_dedup]
    exact List.mem_map_of_mem hr
  simp only [shortcodeToTenant] at h
  split at h
  · cases h
  split at h
  · rename_i t hset
    rw [hset, List.mem_singleton] at hmem
    rw [hmem, Option.some.inj h]
  · cases h
  · rename_i hset
    simp [hset] at hmem

/-- While the numbers are apart, a number leads to the tenant that has switched it on; the
platform's own, which nobody has, leads to the one tenant that takes payments. -/
theorem shortcodeToTenant_eq_some {platform : Platform} (h : platform.DistinctPaybills)
    {number : String} (hnumber : strip number ≠ "") {u : ℕ} :
    platform.shortcodeToTenant number = some u ↔
      (∃ r ∈ platform.integrations, r.tenantId = u ∧ claims number r = true) ∨
        platform.claimants number = [] ∧ platform.isDefault number = true ∧
          platform.paymentTenants = [u] := by
  have hne : number ≠ "" := by
    rintro rfl
    exact hnumber rfl
  constructor
  · intro hu
    cases hrows : platform.claimants number with
    | nil =>
      refine .inr ⟨rfl, ?_⟩
      simp only [shortcodeToTenant, hne, if_false, hrows, List.map_nil, tenantSet, List.dedup_nil,
        List.insertionSort_nil] at hu
      split_ifs at hu with hdefault
      split at hu
      · rename_i t hone
        exact ⟨hdefault, by rw [hone, Option.some.inj hu]⟩
      · cases hu
    | cons r rows =>
      have hr : r ∈ platform.claimants number := by simp [hrows]
      have hsame := platform.shortcodeToTenant_claimed hr hu
      obtain ⟨hmem, hclaims⟩ := platform.mem_claimants.mp hr
      exact .inl ⟨r, hmem, hsame.symm, hclaims⟩
  · rintro (⟨r, hr, rfl, hclaims⟩ | ⟨hnone, hdefault, hone⟩)
    · have hall : ∀ s ∈ platform.claimants number, s = r := by
        intro s hs
        obtain ⟨hs, hclaims'⟩ := platform.mem_claimants.mp hs
        simp only [claims, Bool.and_eq_true, decide_eq_true_eq] at hclaims hclaims'
        by_contra hne'
        have htenants : s.tenantId ≠ r.tenantId := by
          intro hsame
          have hrow := platform.mem_daraja hs hclaims'.1.1
          rw [hsame, platform.mem_daraja hr hclaims.1.1] at hrow
          exact hne' (Option.some.inj hrow).symm
        have hempty := h s hs r hr hclaims'.1.1 hclaims.1.1 htenants
          (hclaims'.2.trans hclaims.2.symm)
        exact hnumber (hclaims'.2.symm.trans hempty)
      have hset : tenantSet ((platform.claimants number).map (·.tenantId)) = [r.tenantId] := by
        have hmem := platform.mem_claimants.mpr ⟨hr, hclaims⟩
        have hnodup := (platform.claimants_nodup number).of_map
        have hone : platform.claimants number = [r] := by
          cases hrows : platform.claimants number with
          | nil => simp [hrows] at hmem
          | cons s rows =>
            rw [hrows] at hall hnodup
            obtain rfl := hall s (by simp)
            have hrest : rows = [] := List.eq_nil_iff_forall_not_mem.mpr fun x hx => by
              obtain rfl := hall x (by simp [hx])
              exact (List.nodup_cons.mp hnodup).1 hx
            rw [hrest]
        simp [hone, tenantSet]
      simp [shortcodeToTenant, hne, hset]
    · simp [shortcodeToTenant, hne, hnone, tenantSet, hdefault, hone]

/-- With a number of its own a tenant advertises that one, without one the platform's. -/
theorem resolveCreds_shortcode : (platform.resolveCreds tenantId).shortcode =
    (platform.ownPaybill tenantId).getD platform.settings.shortcode := by
  by_cases hzero : tenantId = 0
  · have hfind : platform.integrations.find? (fun r => tenantId ≠ 0 && r.tenantId = tenantId &&
        r.integration = "daraja") = none := List.find?_eq_none.mpr (by simp [hzero])
    simp only [resolveCreds, ownPaybill, hfind, if_pos hzero, Option.getD_none]
  · have hfind : platform.integrations.find? (fun r => tenantId ≠ 0 && r.tenantId = tenantId &&
        r.integration = "daraja") = platform.darajaRow tenantId := by
      simp [darajaRow, hzero]
    simp only [resolveCreds, ownPaybill, hzero, if_false, hfind]
    cases hrow : platform.darajaRow tenantId with
    | none => rfl
    | some r => cases henabled : r.enabled <;> simp [henabled, Option.filter]

/-- A tenant with a number of its own sends nobody to another tenant. -/
theorem smsPaybill_own {t u : ℕ} {number : String} (hown : platform.ownPaybill t = some number)
    (h : platform.shortcodeToTenant (platform.smsPaybill t) = some u) : u = t := by
  have hshortcode := platform.resolveCreds_shortcode t
  rw [hown, Option.getD_some] at hshortcode
  simp only [smsPaybill, hshortcode] at h
  split_ifs at h with hempty
  · simp [shortcodeToTenant] at h
  simp only [ownPaybill] at hown
  split_ifs at hown with hzero
  obtain ⟨r, hr, hclean⟩ := Option.bind_eq_some_iff.mp hown
  obtain ⟨hr, henabled⟩ := Option.filter_eq_some_iff.mp hr
  obtain ⟨hmem, rfl, hdaraja⟩ := platform.darajaRow_eq_some hr
  refine platform.shortcodeToTenant_claimed (platform.mem_claimants.mpr ⟨hmem, ?_⟩) h
  have hnumber : r.shortcode = some number := (Option.filter_eq_some_iff.mp hclean).1
  simp [claims, hdaraja, henabled, hnumber]

/-- The platform's number leads to the tenant that owns it. -/
theorem smsPaybill_default {platform : Platform} (h : platform.DistinctPaybills) {t u : ℕ}
    (hown : platform.ownPaybill t = none) :
    platform.shortcodeToTenant (platform.smsPaybill t) = some u ↔ platform.OwnsDefault u := by
  have hshortcode := platform.resolveCreds_shortcode t
  rw [hown, Option.getD_none] at hshortcode
  simp only [smsPaybill, hshortcode, lower_eq_empty, OwnsDefault]
  by_cases hnumber : strip platform.settings.shortcode = ""
  · simp [hnumber, shortcodeToTenant]
  by_cases hplaceholder : lower (strip platform.settings.shortcode) = "placeholder"
  · simp [hplaceholder, shortcodeToTenant]
  have hclaims : claims (strip platform.settings.shortcode) =
      claims platform.settings.shortcode := by
    funext r
    simp only [claims, strip_strip]
  have hdefault : platform.isDefault platform.settings.shortcode = true := by
    simp [isDefault, hnumber, hplaceholder]
  rw [if_neg (by simp [hnumber, hplaceholder]), shortcodeToTenant_eq_some h hnumber]
  simp [hnumber, hplaceholder, hclaims, claimants, hdefault]

/-- Messages lead to the right tenant exactly when nobody owns the number that others have to
advertise. -/
theorem neverMisrouted_iff {platform : Platform} (h : platform.DistinctPaybills)
    (tenants : List ℕ) : platform.NeverMisrouted tenants ↔ platform.DefaultUnowned tenants := by
  constructor
  · intro hnever t ht u hu htu hown howns
    exact hnever t ht u hu htu ((smsPaybill_default h hown).mpr howns)
  · intro hunowned t ht u hu htu hrouted
    cases hown : platform.ownPaybill t with
    | some number => exact htu (platform.smsPaybill_own hown hrouted).symm
    | none => exact hunowned t ht u hu htu hown ((smsPaybill_default h hown).mp hrouted)

/-- In every run from numbers that are apart: they stay apart; and in each state messages
lead to the right tenants exactly while nobody owns the platform's number that another tenant
has to advertise. -/
theorem paybills_distinct_and_routed_iff (tenants : List ℕ) (start : Platform)
    (h : start.DistinctPaybills) (calls : List DarajaCall) :
    Always saveSettings (fun platform => platform.DistinctPaybills ∧
      (platform.NeverMisrouted tenants ↔ platform.DefaultUnowned tenants)) start calls := by
  intro done _
  have hdistinct := h.run done
  exact ⟨hdistinct, neverMisrouted_iff hdistinct tenants⟩

theorem twoPayers_nodup : [(1, "payments"), (2, "payments")].Nodup := by decide

/-- A platform whose number nobody has saved, with two tenants that take payments. -/
def sharedPlatform : Platform where
  integrations := []
  modules := [⟨1, "payments", true⟩, ⟨2, "payments", true⟩]
  settings := ⟨"key", "secret", "600000", "passkey", "finyl-api", "credential", "production"⟩
  uqTenantIntegration := List.nodup_nil
  uqTenantModule := twoPayers_nodup

/-- A tenant saves the platform's number, which is nobody's number yet. -/
def savesDefault : DarajaCall :=
  ⟨2, ⟨none, some "600000", none, none, none, none, none, none⟩⟩

theorem paybills_distinct_and_routed_iff_shared :
    Always saveSettings (fun platform => platform.DistinctPaybills ∧
      (platform.NeverMisrouted [1, 2] ↔ platform.DefaultUnowned [1, 2])) sharedPlatform
      [savesDefault] :=
  paybills_distinct_and_routed_iff [1, 2] sharedPlatform
    (by simp [DistinctPaybills, sharedPlatform])
    [savesDefault]

/-- The other tenant still advertises the platform's number, which now leads to the one that
saved it. -/
theorem default_paybill_taken : sharedPlatform.DistinctPaybills ∧
    sharedPlatform.NeverMisrouted [1, 2] ∧
    ¬ (run saveSettings sharedPlatform [savesDefault]).NeverMisrouted [1, 2] :=
  ⟨by simp [DistinctPaybills, sharedPlatform], by decide, by decide⟩

end Platform

end FinylDcp
