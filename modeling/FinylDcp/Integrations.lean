import FinylDcp.Text
import Mathlib.Data.List.Basic
import Mathlib.Data.List.Dedup
import Mathlib.Data.List.Nodup
import Mathlib.Data.List.Sort

/-!
# Integration settings

What each tenant has saved of its Daraja account, which modules it has switched on,
and the defaults of the platform. A paybill number belongs to the one tenant whose
settings claim it; the platform's own number belongs to a tenant only while that tenant
is alone. The credentials of a call are the tenant's over the platform's. Secrets are taken
as they read after decryption.
-/
namespace FinylDcp
open Text

/-- The settings of one integration of a tenant. -/
structure TenantIntegrationConfig where
  tenantId : ℕ
  integration : String
  enabled : Bool
  shortcode : Option String
  initiatorName : Option String
  environment : Option String
  consumerKey : Option String
  consumerSecret : Option String
  passkey : Option String
  securityCredential : Option String
  deriving DecidableEq, Repr

/-- Whether a module is switched on for a tenant. -/
structure TenantModule where
  tenantId : ℕ
  moduleKey : String
  enabled : Bool
  deriving DecidableEq, Repr

/-- Resolved Daraja credentials. -/
structure DarajaCreds where
  consumerKey : String
  consumerSecret : String
  shortcode : String
  passkey : String
  initiatorName : String
  securityCredential : String
  environment : String
  deriving DecidableEq, Repr

/-- The tenants' settings and the platform's defaults. A tenant has one row for an
integration and one for a module. -/
structure Platform where
  integrations : List TenantIntegrationConfig
  modules : List TenantModule
  settings : DarajaCreds
  uqTenantIntegration : (integrations.map (fun r => (r.tenantId, r.integration))).Nodup
  uqTenantModule : (modules.map (fun m => (m.tenantId, m.moduleKey))).Nodup

namespace Platform

variable (platform : Platform)

/-- `sorted(set(ids))`. -/
def tenantSet (ids : List ℕ) : List ℕ := ids.dedup.insertionSort (· ≤ ·)

/-- An enabled Daraja row with the paybill number. -/
def claims (shortcode : String) (r : TenantIntegrationConfig) : Bool :=
  r.integration = "daraja" && r.enabled && strip (r.shortcode.getD "") = strip shortcode

/-- The rows that claim a paybill number. -/
def claimants (shortcode : String) : List TenantIntegrationConfig :=
  platform.integrations.filter (claims shortcode)

/-- The tenants with payments switched on. -/
def paymentTenants : List ℕ :=
  tenantSet ((platform.modules.filter (fun m => m.moduleKey = "payments" && m.enabled)).map
    (·.tenantId))

/-- A paybill number is the platform's own. -/
def isDefault (shortcode : String) : Bool :=
  let own := strip platform.settings.shortcode
  own ≠ "" && lower own ≠ "placeholder" && own = strip shortcode

/-- The tenant a paybill number belongs to; an unknown or ambiguous one has none. -/
def shortcodeToTenant (shortcode : String) : Option ℕ :=
  if shortcode = "" then none
  else
    match tenantSet ((platform.claimants shortcode).map (·.tenantId)) with
    | [tenantId] => some tenantId
    | _ :: _ :: _ => none
    | [] =>
      if platform.isDefault shortcode then
        match platform.paymentTenants with
        | [tenantId] => some tenantId
        | _ => none
      else none

/-- Blanks around a paybill number make no difference. -/
theorem shortcodeToTenant_strip {shortcode : String} (h : strip shortcode ≠ "") :
    platform.shortcodeToTenant (strip shortcode) = platform.shortcodeToTenant shortcode := by
  have hne : shortcode ≠ "" := by
    rintro rfl
    exact h rfl
  have hclaims : claims (strip shortcode) = claims shortcode := by
    funext r
    simp only [claims, strip_strip]
  have hdefault : platform.isDefault (strip shortcode) = platform.isDefault shortcode := by
    simp only [isDefault, strip_strip]
  simp only [shortcodeToTenant, claimants, hclaims, hdefault, h, hne, if_false]

theorem length_tenantSet {ids : List ℕ} (h : ids.Nodup) : (tenantSet ids).length = ids.length := by
  rw [tenantSet, List.length_insertionSort, h.dedup]

/-- The rows that claim a paybill number are of different tenants. -/
theorem claimants_nodup (shortcode : String) :
    ((platform.claimants shortcode).map (·.tenantId)).Nodup := by
  have hkeys := platform.uqTenantIntegration.of_map
  rw [claimants]
  refine List.Nodup.map_on ?_ (hkeys.filter _)
  intro r hr s hs htenant
  simp only [List.mem_filter, claims, Bool.and_eq_true, decide_eq_true_eq] at hr hs
  have hkey : (r.tenantId, r.integration) = (s.tenantId, s.integration) := by
    rw [htenant, hr.2.1.1, hs.2.1.1]
  exact List.inj_on_of_nodup_map platform.uqTenantIntegration hr.1 hs.1 hkey

/-- A number that several rows claim belongs to nobody. -/
theorem shortcodeToTenant_several {shortcode : String}
    (h : 1 < (platform.claimants shortcode).length) :
    platform.shortcodeToTenant shortcode = none := by
  have hlen := length_tenantSet (platform.claimants_nodup shortcode)
  rw [List.length_map] at hlen
  simp only [shortcodeToTenant]
  split
  · rfl
  split
  · rename_i hset
    rw [hset] at hlen
    simp only [List.length_singleton] at hlen
    omega
  · rfl
  · rename_i hset
    rw [hset] at hlen
    simp only [List.length_nil] at hlen
    omega

/-- A number that no row claims belongs to nobody either, unless it is the platform's own
and one tenant alone takes payments. -/
theorem shortcodeToTenant_unclaimed {shortcode : String} (hnone : platform.claimants shortcode = [])
    (h : ¬ (platform.isDefault shortcode = true ∧ platform.paymentTenants.length = 1)) :
    platform.shortcodeToTenant shortcode = none := by
  simp only [shortcodeToTenant, hnone, List.map_nil]
  split
  · rfl
  · have hset : tenantSet [] = [] := rfl
    simp only [hset]
    split_ifs with hdefault
    · split
      · rename_i hone
        exact absurd ⟨hdefault, by rw [hone]; rfl⟩ h
      · rfl
    · rfl

end Platform

/-- `_PLACEHOLDERS`. -/
def placeholders : List String := ["", "placeholder", "change-me", "changeme"]

/-- A blank or placeholder value counts as absent. -/
def clean (v : Option String) : Option String :=
  v.filter (fun s => !placeholders.contains (lower (strip s)))

namespace DarajaCreds

variable (creds : DarajaCreds)

def isProduction : Bool :=
  let env := lower (strip (if creds.environment = "" then "sandbox" else creds.environment))
  "prod".toList.isPrefixOf env.toList

/-- The consumer key and secret are more than placeholders. -/
def configured : Bool :=
  [creds.consumerKey, creds.consumerSecret].all
    (fun v => v ≠ "" && !placeholders.contains (lower (strip v)))

/-- The fields a live payout needs, by name. -/
def b2cRequiredFields : List (String × String) :=
  [("consumer_key", creds.consumerKey), ("consumer_secret", creds.consumerSecret),
    ("shortcode", creds.shortcode), ("initiator_name", creds.initiatorName),
    ("security_credential", creds.securityCredential)]

def missingFields (fields : List (String × String)) : List String :=
  (fields.filter (fun f => (clean (some f.2)).isNone)).map (·.1)

/-- In production a payout is refused while a required field is missing. -/
def guardProductionB2c : Bool :=
  !creds.isProduction || (missingFields creds.b2cRequiredFields).isEmpty

end DarajaCreds

/-- The credentials of a tenant: its enabled Daraja row, field by field over the
platform's defaults. -/
def Platform.resolveCreds (platform : Platform) (tenantId : ℕ) : DarajaCreds :=
  let base := platform.settings
  match platform.integrations.find? (fun r => tenantId ≠ 0 && r.tenantId = tenantId &&
    r.integration = "daraja") with
  | none => base
  | some row =>
    if !row.enabled then base
    else
      { consumerKey := (clean row.consumerKey).getD base.consumerKey
        consumerSecret := (clean row.consumerSecret).getD base.consumerSecret
        shortcode := (clean row.shortcode).getD base.shortcode
        passkey := (clean row.passkey).getD base.passkey
        initiatorName := (clean row.initiatorName).getD base.initiatorName
        securityCredential := (clean row.securityCredential).getD base.securityCredential
        environment := (clean row.environment).getD base.environment }

/-- Tenant 1 has its paybill number; tenant 2 has saved Daraja settings without one. -/
def unfinishedPlatform : Platform where
  integrations := [⟨1, "daraja", true, some "600100", none, none, none, none, none, none⟩,
    ⟨2, "daraja", true, none, none, none, none, none, none, none⟩]
  modules := [⟨1, "payments", true⟩, ⟨2, "payments", true⟩]
  settings := ⟨"placeholder", "placeholder", "placeholder", "placeholder", "finyl-api",
    "placeholder", "sandbox"⟩
  uqTenantIntegration := by decide
  uqTenantModule := by decide

end FinylDcp
