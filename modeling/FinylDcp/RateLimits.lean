import FinylDcp.SlidingWindow
import Mathlib.Data.Rat.Floor

/-!
# Rate limits

The limiter of the sign-in routes, by the caller's address, and the limiter of the third-party
API, by the prefix of the key. Both keep a queue of the times let through for each key.
-/
namespace FinylDcp
open FinylDcp.SlidingWindow FinylDcp.Traces

/-- The queues by key; a key without an entry has the empty queue. -/
abbrev RateHits := String → List ℚ

def rateLimitMax : ℕ := 10

def rateLimitWindow : ℚ := 60

/-- `int` of a number: it cuts towards zero. -/
def cutInt (q : ℚ) : ℤ := if 0 ≤ q then ⌊q⌋ else ⌈q⌉

/-- The answer 429 of the sign-in limiter. -/
structure TooManyAttempts where
  detail : String
  retryAfter : ℤ
  deriving DecidableEq

/-- `rate_limit_login`, for a limit of `limit` attempts (`rateLimitMax` in the deployment). -/
def rateLimitLogin (limit : ℕ) (table : RateHits) (ip : String) (now : ℚ) :
    Option TooManyAttempts × RateHits :=
  let cutoff := now - rateLimitWindow
  let hits := (table ip).dropWhile (· < cutoff)
  if limit ≤ hits.length then
    let retry := cutInt (rateLimitWindow - (now - hits.headD now)) + 1
    (some ⟨"Too many login attempts. Please wait a moment and try again.", max retry 1⟩,
      Function.update table ip hits)
  else
    (none, Function.update table ip (hits ++ [now]))

/-- The fields of a third-party client that its limiter reads. -/
structure ThirdPartyApiClient where
  apiKeyPrefix : String
  rateLimitPerMin : Option ℤ
  deriving DecidableEq

/-- `int(client.rate_limit_per_min or 60)` -/
def ThirdPartyApiClient.limit (client : ThirdPartyApiClient) : ℤ :=
  match client.rateLimitPerMin with
  | none => 60
  | some n => if n = 0 then 60 else n

/-- `check_rate_limit` -/
def checkRateLimit (table : RateHits) (client : ThirdPartyApiClient) (now : ℚ) :
    Bool × RateHits :=
  let hits := (table client.apiKeyPrefix).dropWhile (· < now - 60)
  if client.limit ≤ hits.length then
    (false, Function.update table client.apiKeyPrefix hits)
  else
    (true, Function.update table client.apiKeyPrefix (hits ++ [now]))

/-- An attempt to sign in passes the limiter or not. -/
def loginRequest (limit : ℕ) (table : RateHits) (attempt : String × ℚ) : Bool × RateHits :=
  let (refusal, after) := rateLimitLogin limit table attempt.1 attempt.2
  (refusal.isNone, after)

/-- A call of the third-party API passes the limiter or not. -/
def apiRequest (table : RateHits) (call : ThirdPartyApiClient × ℚ) : Bool × RateHits :=
  checkRateLimit table call.1 call.2

section Keys

variable (table : RateHits)

theorem loginRequest_self (limit : ℕ) (ip : String) (now : ℚ) :
    (loginRequest limit table (ip, now)).1 = (request rateLimitWindow limit (table ip) now).1 ∧
    (loginRequest limit table (ip, now)).2 ip =
      (request rateLimitWindow limit (table ip) now).2 := by
  by_cases hfull : limit ≤ ((table ip).dropWhile (· < now - rateLimitWindow)).length
  · simp [loginRequest, rateLimitLogin, request, prune, hfull]
  · simp [loginRequest, rateLimitLogin, request, prune, hfull]

theorem loginRequest_other (limit : ℕ) {attempt : String × ℚ} {ip : String}
    (h : attempt.1 ≠ ip) : (loginRequest limit table attempt).2 ip = table ip := by
  simp only [loginRequest, rateLimitLogin]
  split_ifs <;> simp [h.symm]

theorem apiRequest_self {client : ThirdPartyApiClient} {limit : ℕ} (h : client.limit = limit)
    (now : ℚ) :
    (apiRequest table (client, now)).1 =
      (request 60 limit (table client.apiKeyPrefix) now).1 ∧
    (apiRequest table (client, now)).2 client.apiKeyPrefix =
      (request 60 limit (table client.apiKeyPrefix) now).2 := by
  by_cases hfull : limit ≤ ((table client.apiKeyPrefix).dropWhile (· < now - 60)).length
  · simp [apiRequest, checkRateLimit, request, prune, h, hfull]
  · simp [apiRequest, checkRateLimit, request, prune, h, hfull]

theorem apiRequest_other {call : ThirdPartyApiClient × ℚ} {key : String}
    (h : call.1.apiKeyPrefix ≠ key) : (apiRequest table call).2 key = table key := by
  simp only [apiRequest, checkRateLimit]
  split_ifs <;> simp [h.symm]

end Keys

/-- Both limiters slide over the requests of one key, whatever the other keys ask: no more
than the limit in any 60 seconds, and a refusal only behind as many in the last 60. -/
theorem rate_limits_slide :
    (∀ (limit : ℕ) (attempts : List (String × ℚ)) (ip : String), 1 ≤ limit →
      ((attempts.filter (·.1 = ip)).map Prod.snd).Pairwise (· ≤ ·) →
      Sliding rateLimitWindow limit (traceOf Prod.fst Prod.snd ip
        (trace (loginRequest limit) (fun _ => []) attempts))) ∧
    (∀ (limit : ℕ) (calls : List (ThirdPartyApiClient × ℚ)) (key : String), 1 ≤ limit →
      (∀ call ∈ calls, call.1.apiKeyPrefix = key → call.1.limit = limit) →
      ((calls.filter (·.1.apiKeyPrefix = key)).map Prod.snd).Pairwise (· ≤ ·) →
      Sliding 60 limit (traceOf (·.1.apiKeyPrefix) Prod.snd key
        (trace apiRequest (fun _ => []) calls))) := by
  constructor
  · intro limit attempts ip _ hordered
    rw [traceOf_keyed (request rateLimitWindow limit)]
    · exact trace_sliding limit (by norm_num [rateLimitWindow]) hordered
    · rintro table ⟨ip', now⟩ _ rfl
      exact loginRequest_self table limit ip' now
    · exact fun table attempt => loginRequest_other table limit
  · intro limit calls key _ hlimit hordered
    rw [traceOf_keyed (request 60 limit)]
    · exact trace_sliding limit (by norm_num) hordered
    · rintro table ⟨client, now⟩ hcall rfl
      exact apiRequest_self table (hlimit _ hcall rfl) now
    · exact fun table call => apiRequest_other table

/-- The limiter of one attempt refuses the second one after 30 seconds and lets the third
one pass after 61; a key with a limit of two has room for both its calls. -/
theorem rate_limits_slide_burst :
    traceOf Prod.fst Prod.snd "10.0.0.7" (trace (loginRequest 1) (fun _ => [])
      [("10.0.0.7", 0), ("10.0.0.9", 20), ("10.0.0.7", 30), ("10.0.0.7", 61)]) =
        [(0, true), (30, false), (61, true)] ∧
    Sliding rateLimitWindow 1 (traceOf Prod.fst Prod.snd "10.0.0.7"
      (trace (loginRequest 1) (fun _ => [])
        [("10.0.0.7", 0), ("10.0.0.9", 20), ("10.0.0.7", 30), ("10.0.0.7", 61)])) ∧
    Sliding 60 2 (traceOf (·.1.apiKeyPrefix) Prod.snd "fk_1" (trace apiRequest
      (fun _ => []) [(⟨"fk_1", some 2⟩, 0), (⟨"fk_1", some 2⟩, 60)])) :=
  ⟨by decide +kernel,
    rate_limits_slide.1 1 [("10.0.0.7", 0), ("10.0.0.9", 20), ("10.0.0.7", 30), ("10.0.0.7", 61)]
      "10.0.0.7" (by decide) (by decide),
    rate_limits_slide.2 2 [(⟨"fk_1", some 2⟩, 0), (⟨"fk_1", some 2⟩, 60)] "fk_1" (by decide)
      (by decide) (by decide)⟩

end FinylDcp
