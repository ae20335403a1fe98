import FinylDcp.Keyrings
import FinylDcp.Runs
import FinylDcp.Text

/-!
# Encrypted fields

Personal data is stored as tokens behind a prefix, written under the first key of the ring and read
under any of them; text without the prefix is taken as stored before the encryption. Whether a text
is a token is told by the prefix alone, and its ASCII bytes are taken before failures are caught.
-/
namespace FinylDcp
open Encodings Keyrings Runs Text

/-- The cipher, and the key that the digest of some bytes makes. -/
structure Primitives (K N : Type) extends Cipher K N where
  digestKey : Bytes → Bytes

/-- The settings that the ring is built from. -/
structure KeySettings where
  jwtSecret : String
  fieldEncryptionKey : String
  piiEncryptionKey : String
  deriving DecidableEq

/-- What the source raises. -/
inductive PiiFailure
  | value
  | unicodeEncode
  | unicodeDecode
  deriving DecidableEq

def orRaise {α : Type*} (failure : PiiFailure) : Option α → Except PiiFailure α
  | none => .error failure
  | some a => .ok a

@[simp] theorem orRaise_some_bind {α β : Type} (failure : PiiFailure) (a : α)
    (f : α → Except PiiFailure β) : orRaise failure (some a) >>= f = f a :=
  rfl

@[simp] theorem orRaise_none_bind {α β : Type} (failure : PiiFailure)
    (f : α → Except PiiFailure β) : orRaise failure none >>= f = .error failure :=
  rfl

def piiPrefix : Str := ofString "enc:v1:"

section Source

variable {K N : Type} (P : Primitives K N)

def jwtDerivedKey (settings : KeySettings) : Bytes := P.digestKey (utf8 settings.jwtSecret)

/-- A key is listed once. -/
def addKey (keys : List Bytes) (raw : Bytes) : List Bytes :=
  if raw ≠ [] ∧ raw ∉ keys then keys ++ [raw] else keys

/-- A configured key, unless it is blank. -/
def addConfigured (keys : List Bytes) (configured : String) : List Bytes :=
  if strip configured = "" then keys else addKey keys (utf8 (strip configured))

/-- `_multifernet`: the keys of the ring, the primary first; none when one is no key. -/
def multifernet (settings : KeySettings) : Option (List K) :=
  let keys := addConfigured [] settings.fieldEncryptionKey
  let keys := addConfigured keys settings.piiEncryptionKey
  (addKey keys (jwtDerivedKey P settings)).mapM P.key

def encryptPii (settings : KeySettings) (nonce : N) : Option Str → Except PiiFailure (Option Str)
  | none => .ok none
  | some plaintext =>
    if plaintext = [] then .ok (some plaintext)
    else if piiPrefix <+: plaintext then .ok (some plaintext)
    else do
      let ring ← orRaise .value (multifernet P settings)
      let message ← orRaise .unicodeEncode (encodeUtf8 plaintext)
      let primary ← orRaise .value ring.head?
      let token ← orRaise .unicodeDecode (decodeAscii (P.encrypt primary nonce message))
      return some (piiPrefix ++ token)

/-- What the ring reads in a token; none when the source catches a failure. -/
def openText (settings : KeySettings) (token : Bytes) : Option Str := do
  let ring ← multifernet P settings
  let message ← P.openAny ring token
  decodeUtf8 message

def decryptPii (settings : KeySettings) : Option Str → Except PiiFailure (Option Str)
  | none => .ok none
  | some stored =>
    if stored = [] then .ok (some stored)
    else if ¬piiPrefix <+: stored then .ok (some stored)
    else do
      let token ← orRaise .unicodeEncode (encodeAscii (stored.drop piiPrefix.length))
      return some ((openText P settings token).getD stored)

end Source

/-- A stored value and the settings it is read under. -/
structure Vault where
  settings : KeySettings
  stored : Str
  deriving DecidableEq

/-- The settings change, or the backfill encrypts what is stored as plain text. -/
inductive KeyEvent (N : Type)
  | change (settings : KeySettings)
  | backfill (nonce : N)

section Runs

variable {K N : Type} (P : Primitives K N)

/-- The backfill passes over empty values and tokens; a failure rolls it back. -/
def Vault.step (v : Vault) : KeyEvent N → Vault
  | .change settings => { v with settings := settings }
  | .backfill nonce =>
    if v.stored = [] then v
    else if piiPrefix <+: v.stored then v
    else
      match decryptPii P v.settings (some v.stored) >>= encryptPii P v.settings nonce with
      | .ok (some stored) => { v with stored := stored }
      | _ => v

end Runs

section Tokens

variable {K N : Type} {P : Primitives K N} {settings : KeySettings} {nonce : N} {s : Str}

/-- What encryption does with plain text: the token of the text under the first key of the ring,
behind the prefix. -/
theorem encryptPii_plain (hP : P.Correct) (hne : s ≠ []) (hplain : ¬piiPrefix <+: s) {k : K}
    {ring : List K} {message : Bytes} (hring : multifernet P settings = some (k :: ring))
    (hmessage : encodeUtf8 s = some message) :
    ∃ token, encodeAscii token = some (P.encrypt k nonce message) ∧
      encryptPii P settings nonce (some s) = .ok (some (piiPrefix ++ token)) := by
  obtain ⟨token, hdecode, hencode⟩ := exists_decodeAscii (hP.ascii k nonce message)
  refine ⟨token, hencode, ?_⟩
  rw [encryptPii, if_neg hne, if_neg hplain]
  simp only [hring, hmessage, orRaise_some_bind, List.head?_cons, hdecode]
  rfl

/-- A text that was encrypted was plain, and is the token of a key of the ring. -/
theorem encryptPii_eq_ok {stored : Option Str} (hne : s ≠ []) (hplain : ¬piiPrefix <+: s)
    (h : encryptPii P settings nonce (some s) = .ok stored) :
    ∃ k ring message token, multifernet P settings = some (k :: ring) ∧
      encodeUtf8 s = some message ∧
      decodeAscii (P.encrypt k nonce message) = some token ∧
      stored = some (piiPrefix ++ token) := by
  rw [encryptPii, if_neg hne, if_neg hplain] at h
  cases hring : multifernet P settings with
  | none => simp [hring] at h
  | some ring =>
    cases hmessage : encodeUtf8 s with
    | none => simp [hring, hmessage] at h
    | some message =>
      cases ring with
      | nil => simp [hring, hmessage] at h
      | cons k ring =>
        cases htoken : decodeAscii (P.encrypt k nonce message) with
        | none =>
          simp only [hring, hmessage, htoken, orRaise_some_bind, List.head?_cons,
            orRaise_none_bind] at h
          cases h
        | some token =>
          simp only [hring, hmessage, htoken, orRaise_some_bind, List.head?_cons] at h
          exact ⟨k, ring, message, token, rfl, rfl, htoken, (Except.ok.inj h).symm⟩

theorem encryptPii_prefixed (h : piiPrefix <+: s) :
    encryptPii P settings nonce (some s) = .ok (some s) := by
  rw [encryptPii]
  split_ifs <;> rfl

theorem decryptPii_plain (h : ¬piiPrefix <+: s) :
    decryptPii P settings (some s) = .ok (some s) := by
  rw [decryptPii]
  split_ifs <;> rfl

/-- A token of a key of the ring reads back. -/
theorem decryptPii_token (hP : P.Correct) {token : Str} {k : K} {ring : List K} {message : Bytes}
    (htoken : encodeAscii token = some (P.encrypt k nonce message))
    (hmessage : encodeUtf8 s = some message) (hring : multifernet P settings = some ring)
    (hk : k ∈ ring) : decryptPii P settings (some (piiPrefix ++ token)) = .ok (some s) := by
  have hopen : openText P settings (P.encrypt k nonce message) = some s := by
    simp [openText, hring, hP.openAny hk, decodeUtf8_of_encodeUtf8 hmessage]
  have hne : piiPrefix ++ token ≠ [] := by
    intro h
    exact absurd (List.append_eq_nil_iff.mp h).1 (by decide)
  rw [decryptPii, if_neg hne, if_neg (not_not_intro (List.prefix_append _ _)), List.drop_left,
    htoken, orRaise_some_bind, hopen]
  rfl

/-- What is behind the prefix, in ASCII. -/
theorem decryptPii_prefixed {token : Str} :
    decryptPii P settings (some (piiPrefix ++ token)) =
      match encodeAscii token with
      | none => .error .unicodeEncode
      | some bytes => .ok (some ((openText P settings bytes).getD (piiPrefix ++ token))) := by
  have hne : piiPrefix ++ token ≠ [] := by
    intro h
    exact absurd (List.append_eq_nil_iff.mp h).1 (by decide)
  rw [decryptPii, if_neg hne, if_neg (not_not_intro (List.prefix_append _ _)), List.drop_left]
  cases encodeAscii token <;> rfl

/-- Encrypting twice is encrypting once. -/
theorem encryptPii_idempotent {nonce' : N} {stored : Option Str}
    (h : encryptPii P settings nonce (some s) = .ok stored) :
    encryptPii P settings nonce' stored = .ok stored := by
  by_cases hne : s = []
  · subst hne
    obtain rfl : some [] = stored := Except.ok.inj h
    rfl
  by_cases hleads : piiPrefix <+: s
  · obtain rfl : some s = stored := Except.ok.inj ((encryptPii_prefixed hleads).symm.trans h)
    exact encryptPii_prefixed hleads
  obtain ⟨k, ring, message, token, -, -, -, rfl⟩ := encryptPii_eq_ok hne hleads h
  exact encryptPii_prefixed (List.prefix_append _ _)

theorem Vault.step_stored {v : Vault} (h : v.stored = [] ∨ piiPrefix <+: v.stored)
    (event : KeyEvent N) : (v.step P event).stored = v.stored := by
  cases event with
  | change settings => rfl
  | backfill nonce =>
    rw [Vault.step]
    obtain hnil | hleads := h
    · rw [if_pos hnil]
    · split_ifs <;> rfl

/-- No change of the settings and no backfill touches a token, or an empty value. -/
theorem run_stored {v : Vault} (h : v.stored = [] ∨ piiPrefix <+: v.stored)
    (events : List (KeyEvent N)) : (run (Vault.step P) v events).stored = v.stored := by
  induction events generalizing v with
  | nil => rfl
  | cons event events ih =>
    have hsame := Vault.step_stored (P := P) h event
    rw [run_cons, ih (by rwa [hsame]), hsame]

/-- What the encryption of a text promises: the text reads back, also after changes of the keys
that leave the one it was written under in the ring; encrypting again changes nothing; and the text
reads back where it is stored as it is, if it has no prefix. -/
structure RoundTrips (P : Primitives K N) (settings : KeySettings) (nonce : N) (s : Str) :
    Prop where
  reads : ∃ stored, encryptPii P settings nonce (some s) = .ok stored ∧
    decryptPii P settings stored = .ok (some s)
  idempotent : ∀ nonce' stored, encryptPii P settings nonce (some s) = .ok stored →
    encryptPii P settings nonce' stored = .ok stored
  rotated : ¬piiPrefix <+: s → ∀ (stored : Str) (k : K) (keys : List K) (events : List (KeyEvent N))
    (ring : List K), encryptPii P settings nonce (some s) = .ok (some stored) →
    multifernet P settings = some (k :: keys) →
    multifernet P (run (Vault.step P) ⟨settings, stored⟩ events).settings = some ring → k ∈ ring →
    decryptPii P (run (Vault.step P) ⟨settings, stored⟩ events).settings
      (some (run (Vault.step P) ⟨settings, stored⟩ events).stored) = .ok (some s)
  legacy : ¬piiPrefix <+: s → ∀ later, decryptPii P later (some s) = .ok (some s)

/-- The texts that can be stored: empty ones; plain ones that have UTF-8 bytes, if the settings
make a ring; and behind the prefix ASCII that no key of the ring opens to another text. -/
def Storable (P : Primitives K N) (settings : KeySettings) (s : Str) : Prop :=
  s = [] ∨
  (¬piiPrefix <+: s ∧ (∃ k keys, multifernet P settings = some (k :: keys)) ∧
    ∃ message, encodeUtf8 s = some message) ∨
  ∃ token bytes, s = piiPrefix ++ token ∧ encodeAscii token = some bytes ∧
    ∀ text, openText P settings bytes = some text → text = s

theorem reads_iff (hP : P.Correct) :
    (∃ stored, encryptPii P settings nonce (some s) = .ok stored ∧
      decryptPii P settings stored = .ok (some s)) ↔ Storable P settings s := by
  by_cases hne : s = []
  · subst hne
    exact iff_of_true ⟨some [], rfl, rfl⟩ (.inl rfl)
  by_cases hleads : piiPrefix <+: s
  · obtain ⟨token, rfl⟩ := hleads
    rw [encryptPii_prefixed (List.prefix_append _ _)]
    simp only [Except.ok.injEq, exists_eq_left', decryptPii_prefixed]
    constructor
    · intro h
      cases hbytes : encodeAscii token with
      | none =>
        rw [hbytes] at h
        cases h
      | some bytes =>
        refine .inr (.inr ⟨token, bytes, rfl, hbytes, fun text htext => ?_⟩)
        simpa [hbytes, htext] using h
    · rintro (hnil | ⟨hplain, -⟩ | ⟨token', bytes, hsame, hbytes, hopens⟩)
      · exact absurd hnil hne
      · exact absurd (List.prefix_append _ _) hplain
      · obtain rfl := List.append_cancel_left hsame
        rw [hbytes]
        cases htext : openText P settings bytes with
        | none => simp [htext]
        | some text => simp [htext, hopens text htext]
  · constructor
    · rintro ⟨stored, hstored, -⟩
      obtain ⟨k, keys, message, token, hring, hmessage, -⟩ := encryptPii_eq_ok hne hleads hstored
      exact .inr (.inl ⟨hleads, ⟨k, keys, hring⟩, message, hmessage⟩)
    · rintro (hnil | ⟨-, ⟨k, keys, hring⟩, message, hmessage⟩ | ⟨token, bytes, rfl, -⟩)
      · exact absurd hnil hne
      · obtain ⟨token, htoken, hstored⟩ := encryptPii_plain hP hne hleads hring hmessage
        exact ⟨_, hstored, decryptPii_token hP htoken hmessage hring (by simp)⟩
      · exact absurd (List.prefix_append _ _) hleads

/-- After any changes of the keys, a text reads back while its key is in the ring. -/
theorem rotated_reads (hP : P.Correct) (hplain : ¬piiPrefix <+: s) (stored : Str) (k : K)
    (keys : List K) (events : List (KeyEvent N)) (ring : List K)
    (hstored : encryptPii P settings nonce (some s) = .ok (some stored))
    (hkey : multifernet P settings = some (k :: keys))
    (hring : multifernet P (run (Vault.step P) ⟨settings, stored⟩ events).settings = some ring)
    (hk : k ∈ ring) :
    decryptPii P (run (Vault.step P) ⟨settings, stored⟩ events).settings
      (some (run (Vault.step P) ⟨settings, stored⟩ events).stored) = .ok (some s) := by
  by_cases hne : s = []
  · subst hne
    obtain rfl : [] = stored := Option.some.inj (Except.ok.inj hstored)
    rw [run_stored (.inl rfl)]
    exact decryptPii_plain hplain
  obtain ⟨k', keys', message, token, hkey', hmessage, hdecode, hsame⟩ :=
    encryptPii_eq_ok hne hplain hstored
  obtain rfl := Option.some.inj hsame
  obtain ⟨rfl, rfl⟩ := List.cons.inj (Option.some.inj (hkey.symm.trans hkey'))
  obtain ⟨token', hdecode', hencode⟩ := exists_decodeAscii (hP.ascii k nonce message)
  obtain rfl := Option.some.inj (hdecode.symm.trans hdecode')
  rw [run_stored (.inr (List.prefix_append _ _))]
  exact decryptPii_token hP hencode hmessage hring hk

/-- A text has its round trips exactly when it can be stored. -/
theorem pii_round_trips_iff {K N : Type} (P : Primitives K N) (hP : P.Correct)
    (settings : KeySettings) (nonce : N) (s : Str) :
    RoundTrips P settings nonce s ↔ Storable P settings s := by
  constructor
  · intro h
    exact (reads_iff hP).mp h.reads
  · intro h
    exact
      { reads := (reads_iff hP).mpr h
        idempotent := fun _ _ hstored => encryptPii_idempotent hstored
        rotated := rotated_reads hP
        legacy := fun hplain _ => decryptPii_plain hplain }

end Tokens

/-- The two halves of each byte. -/
def halves (b : Bytes) : Bytes := b.flatMap fun x => [x / 16, x % 16]

/-- The bytes of their halves. -/
def joined : Bytes → Option Bytes
  | [] => some []
  | [_] => none
  | high :: low :: rest => (joined rest).map fun b => (16 * high + low) :: b

theorem joined_halves (b : Bytes) : joined (halves b) = some b := by
  induction b with
  | nil => rfl
  | cons x b ih =>
    have hbyte : 16 * (x / 16) + x % 16 = x := by
      apply UInt8.toNat_inj.mp
      have hlt := x.toNat_lt
      simp
      omega
    rw [halves, List.flatMap_cons]
    simp only [List.cons_append, List.nil_append, joined]
    rw [show b.flatMap (fun x => [x / 16, x % 16]) = halves b from rfl, ih, Option.map_some, hbyte]

/-- Keys of 44 bytes, told apart by the first; a token spells the key and the message in halves of
bytes. -/
def plainPrimitives : Primitives UInt8 Unit where
  key b := if b.length = 44 then b.head? else none
  encrypt k _ m := halves (k :: m)
  decrypt k token := (joined token).bind fun b => if b.head? = some k then some b.tail else none
  digestKey b := (b ++ List.replicate 44 0).take 44

theorem plainPrimitives_correct : plainPrimitives.Correct where
  opens k _ m := by simp [plainPrimitives, joined_halves]
  others k k' _ m hne := by simp [plainPrimitives, joined_halves, Ne.symm hne]
  ascii k _ m x hx := by
    obtain ⟨y, -, hy⟩ := List.mem_flatMap.mp hx
    have hlt := y.toNat_lt
    apply UInt8.lt_iff_toNat_lt.mpr
    obtain rfl | rfl : x = y / 16 ∨ x = y % 16 := by simpa using hy
    · simp
      omega
    · simp
      omega

/-- A text that `encrypt_pii` wrote. -/
def Written {K N : Type} (P : Primitives K N) (s : Str) : Prop :=
  ∃ settings nonce plaintext, ¬piiPrefix <+: plaintext ∧ plaintext ≠ [] ∧
    encryptPii P settings nonce (some plaintext) = .ok (some s)

/-- What was written is ASCII behind the prefix. -/
theorem Written.ascii {K N : Type} {P : Primitives K N} (hP : P.Correct) {s : Str}
    (h : Written P s) : ∃ token bytes, s = piiPrefix ++ token ∧ encodeAscii token = some bytes := by
  obtain ⟨settings, nonce, plaintext, hplain, hne, hstored⟩ := h
  obtain ⟨k, keys, message, token, -, -, hdecode, hsame⟩ := encryptPii_eq_ok hne hplain hstored
  obtain ⟨token', hdecode', hencode⟩ := exists_decodeAscii (hP.ascii k nonce message)
  obtain rfl := Option.some.inj (hdecode.symm.trans hdecode')
  exact ⟨token, _, Option.some.inj hsame, hencode⟩

def sampleSettings : KeySettings where
  jwtSecret := "a secret of at least thirty-two characters"
  fieldEncryptionKey := "Fzz4oUzZXIgkYMGgw6VHCvyDUv0qNSUrlT0Gwzk5qLM="
  piiEncryptionKey := ""

/-- A new key in front of the old one. -/
def rotatedSettings : KeySettings where
  jwtSecret := sampleSettings.jwtSecret
  fieldEncryptionKey := "Kzz4oUzZXIgkYMGgw6VHCvyDUv0qNSUrlT0Gwzk5qLM="
  piiEncryptionKey := sampleSettings.fieldEncryptionKey

/-- A text that begins like a token is stored as it is and raises when it is read, though it is no
token. -/
theorem prefixed_text_raises :
    ¬Written plainPrimitives (ofString "enc:v1:é") ∧
      encryptPii plainPrimitives sampleSettings () (some (ofString "enc:v1:é")) =
        .ok (some (ofString "enc:v1:é")) ∧
      decryptPii plainPrimitives sampleSettings (some (ofString "enc:v1:é")) =
        .error .unicodeEncode := by
  have htext : ofString "enc:v1:é" = piiPrefix ++ [.scalar 'é'] := rfl
  have hascii : encodeAscii [.scalar 'é'] = none := rfl
  rw [htext]
  refine ⟨fun h => ?_, encryptPii_prefixed (List.prefix_append _ _), ?_⟩
  · obtain ⟨token, bytes, hsame, hbytes⟩ := h.ascii plainPrimitives_correct
    rw [← List.append_cancel_left hsame, hascii] at hbytes
    cases hbytes
  · rw [decryptPii_prefixed, hascii]

/-- A national ID reads back after the rotation. -/
theorem pii_round_trips_rotated :
    ∃ stored, encryptPii plainPrimitives sampleSettings () (some (ofString "29384756")) =
        .ok (some stored) ∧
      decryptPii plainPrimitives rotatedSettings (some stored) =
        .ok (some (ofString "29384756")) := by
  have hplain : ¬piiPrefix <+: ofString "29384756" := by decide
  have hkey : multifernet plainPrimitives sampleSettings = some [70, 97] := by decide
  have hring : multifernet plainPrimitives rotatedSettings = some [75, 70, 97] := by
    decide
  have htrips := (pii_round_trips_iff plainPrimitives plainPrimitives_correct sampleSettings ()
    (ofString "29384756")).mpr (.inr (.inl ⟨hplain, ⟨_, _, hkey⟩, _, rfl⟩))
  obtain ⟨_, hstored, -⟩ := htrips.reads
  obtain ⟨k, keys, message, token, -, -, -, rfl⟩ :=
    encryptPii_eq_ok (by decide) hplain hstored
  exact ⟨_, hstored, htrips.rotated hplain _ _ _ [.change rotatedSettings] _ hstored hkey hring
    (by decide)⟩

end FinylDcp
