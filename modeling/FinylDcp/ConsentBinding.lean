import FinylDcp.ConsentCodes

/-!
# What a consent is bound to

The code binds a consent to the officer's latest request and to nothing in it: the phone, the
client, the lead and the text of the verification go into the row as they come.
-/
namespace FinylDcp
open FinylDcp.Runs FinylDcp.Traces

/-- The consent that an answer says was recorded. -/
def ConsentReply.log? : ConsentReply → Option ClientConsentLog
  | .recorded _ log => some log
  | _ => none

/-- The answer records a consent on the strength of the code. -/
def ConsentReply.takes (otpRow : ℕ) : ConsentReply → Bool
  | .recorded row _ => row = otpRow
  | _ => false

/-- The officer's request for a code, with whether its message went out. -/
def ConsentCall.requestOf (officerId : ℕ) : ConsentCall → Option (RequestConsentOtpIn × Bool)
  | .request officer _ body _ smsStatus _ =>
    if officer = officerId ∧ validKePhone (Text.strip body.phone) = true then
      some (body, smsStatus = "sent")
    else none
  | _ => none

/-- The latest request of the officer. -/
def lastRequest (officerId : ℕ) (calls : List (ℤ × ConsentCall)) :
    Option (RequestConsentOtpIn × Bool) :=
  (calls.filterMap (fun c => c.2.requestOf officerId)).getLast?

/-- The code is the officer's outstanding one, and still takes an attempt. -/
def CodeLive [Bcrypt] (otps : List OtpToken) (officerId : ℕ) (code : String) (now : ℤ) : Prop :=
  ∃ x ∈ newestOtp otps officerId "consent",
    now ≤ x.1.expiresAt ∧ x.1.attempts < otpMaxAttempts ∧
      Bcrypt.checkpw code x.1.otpHash = true

section Desk

theorem requestOf_eq_some {officerId : ℕ} {call : ConsentCall} {r : RequestConsentOtpIn × Bool}
    (h : call.requestOf officerId = some r) :
    ∃ code ip, call.otpCall = some (.generate officerId "consent" code ip) := by
  cases call with
  | verify officer tenantId body ip => nomatch h
  | request officer tenantId body code smsStatus ip =>
    simp only [ConsentCall.requestOf] at h
    split_ifs at h with hmine
    exact ⟨code, ip, by simp [ConsentCall.otpCall, hmine.1, hmine.2]⟩

variable [Bcrypt] (registry : ConsentRegistry) (desk : ConsentDesk)

/-- The codes of the desk go through the calls that `otpCall` names. -/
theorem step_otps (c : ℤ × ConsentCall) :
    (after (ConsentDesk.step registry) desk c).otps =
      match c.2.otpCall with
      | none => desk.otps
      | some call => after otpStep desk.otps (c.1, call) := by
  obtain ⟨now, call⟩ := c
  cases call with
  | request officerId tenantId body code smsStatus ip =>
    by_cases hphone : validKePhone (Text.strip body.phone) = true
    · simp [after, ConsentDesk.step, ConsentDesk.requestConsentOtp, ConsentCall.otpCall, hphone,
        otpStep]
    · simp [after, ConsentDesk.step, ConsentDesk.requestConsentOtp, ConsentCall.otpCall, hphone]
  | verify officerId tenantId body ip =>
    simp only [after, ConsentDesk.step, ConsentDesk.verifyConsentOtp, ConsentCall.otpCall,
      otpStep]
    split
    · split_ifs <;> rfl
    · rfl

theorem deskAfter_otps (calls : List (ℤ × ConsentCall)) :
    (deskAfter registry calls).otps = otpTable (otpCalls calls) := by
  induction calls using List.reverseRecOn with
  | nil => rfl
  | append_singleton calls c ih =>
    rw [deskAfter, run_concat, step_otps, otpCalls, List.filterMap_append, ← otpCalls]
    cases hcall : c.2.otpCall with
    | none => simpa [hcall] using ih
    | some call =>
      have hone : [c].filterMap (fun c => c.2.otpCall.map (fun call => (c.1, call))) =
          [(c.1, call)] := by
        simp [hcall]
      rw [hone, otpTable, run_concat]
      exact congrArg (fun otps => after otpStep otps (c.1, call)) ih

variable {registry desk}

/-- What a recorded consent says: the code was accepted, and the row is the verification's. -/
theorem recorded_spec {now : ℤ} {officerId tenantId : ℕ} {body : VerifyConsentOtpIn}
    {ip : Option String} {otpRow : ℕ} {log : ClientConsentLog}
    (h : (desk.verifyConsentOtp registry now officerId tenantId body ip).1 =
      .recorded otpRow log) :
    (verifyOtp desk.otps officerId (Text.strip body.code) "consent" now).1 = .ok otpRow ∧
      ConsentDesk.clientFound registry tenantId body = true ∧
      ConsentDesk.rowFits registry body = true ∧ log.officerId = officerId ∧
      log.phone = Text.strip body.phone ∧ log.clientId = body.clientId ∧
      log.leadId = body.leadId ∧ log.consentText = defaultConsentText := by
  simp only [ConsentDesk.verifyConsentOtp] at h
  split at h
  · next row hok =>
    split_ifs at h with hfound hfits
    obtain ⟨rfl, rfl⟩ := ConsentReply.recorded.inj h
    exact ⟨hok, by simpa using hfound, by simpa using hfits, rfl, rfl, rfl, rfl, rfl⟩
  · nomatch h

theorem exists_recorded (ip : Option String) {now : ℤ} {officerId tenantId : ℕ}
    {body : VerifyConsentOtpIn} {otpRow : ℕ}
    (hok : (verifyOtp desk.otps officerId (Text.strip body.code) "consent" now).1 = .ok otpRow)
    (hfound : ConsentDesk.clientFound registry tenantId body = true)
    (hfits : ConsentDesk.rowFits registry body = true) :
    ∃ log, (desk.verifyConsentOtp registry now officerId tenantId body ip).1 =
      .recorded otpRow log := by
  simp only [ConsentDesk.verifyConsentOtp, hok, hfound, hfits, Bool.not_true]
  exact ⟨_, rfl⟩

theorem codeLive_iff {otps : List OtpToken} {officerId : ℕ} {code : String} {now : ℤ} :
    CodeLive otps officerId code now ↔
      ∃ row, (verifyOtp otps officerId code "consent" now).1 = .ok row := by
  unfold CodeLive verifyOtp
  cases newestOtp otps officerId "consent" with
  | none => simp
  | some x =>
    obtain ⟨tok, row⟩ := x
    by_cases hexpired : tok.expiresAt < now
    · simp [hexpired]
    · by_cases hmany : otpMaxAttempts ≤ tok.attempts
      · simp [hexpired, hmany, not_lt.mpr hmany]
      · by_cases hcode : Bcrypt.checkpw code tok.otpHash = true
        · simp [hexpired, hmany, hcode, not_lt.mp hexpired, not_le.mp hmany]
        · simp [hexpired, hmany, hcode]

/-- No call takes a code away. -/
theorem length_otps_le (calls later : List (ℤ × ConsentCall)) :
    (deskAfter registry calls).otps.length ≤ (deskAfter registry (calls ++ later)).otps.length := by
  induction later using List.reverseRecOn with
  | nil => rw [List.append_nil]
  | append_singleton later c ih =>
    refine ih.trans ?_
    rw [← List.append_assoc, deskAfter, deskAfter, run_concat, step_otps]
    split
    · exact le_refl _
    · exact length_le_after _ _

/-- A request to a valid phone adds a row of codes. -/
theorem length_otps_lt (calls : List (ℤ × ConsentCall)) (now : ℤ) (officerId tenantId : ℕ)
    {body : RequestConsentOtpIn} (code smsStatus : String) (ip : Option String)
    (hphone : validKePhone (Text.strip body.phone) = true) :
    (deskAfter registry calls).otps.length < (deskAfter registry
      (calls ++ [(now, .request officerId tenantId body code smsStatus ip)])).otps.length := by
  rw [deskAfter, deskAfter, run_concat]
  simp [after, ConsentDesk.step, ConsentDesk.requestConsentOtp, hphone, generateOtp]

/-- A row of codes belongs to one call. -/
theorem issue_unique {early early' later later' : List (ℤ × ConsentCall)}
    {c c' : ℤ × ConsentCall} (hsplit : early ++ c :: later = early' ++ c' :: later')
    (hlen : (deskAfter registry early).otps.length = (deskAfter registry early').otps.length)
    (hissue : (deskAfter registry early).otps.length <
      (deskAfter registry (early ++ [c])).otps.length)
    (hissue' : (deskAfter registry early').otps.length <
      (deskAfter registry (early' ++ [c'])).otps.length) : c = c' := by
  obtain ⟨between, hearly, hrest⟩ | ⟨between, hearly, hrest⟩ :=
    List.append_eq_append_iff.mp hsplit
  · cases between with
    | nil => exact (List.cons.inj hrest).1
    | cons d between =>
      obtain ⟨rfl, -⟩ := List.cons.inj hrest
      have hle := @length_otps_le _ registry (early ++ [c]) between
      rw [List.append_assoc, List.singleton_append, ← hearly] at hle
      omega
  · cases between with
    | nil => exact (List.cons.inj hrest).1.symm
    | cons d between =>
      obtain ⟨rfl, -⟩ := List.cons.inj hrest
      have hle := @length_otps_le _ registry (early' ++ [c']) between
      rw [List.append_assoc, List.singleton_append, ← hearly] at hle
      omega

/-- A request that is answered issues the next row of codes. -/
theorem requested_spec {now : ℤ} {officerId tenantId : ℕ} {body : RequestConsentOtpIn}
    {code smsStatus : String} {ip : Option String} {otpRow : ℕ} {sent : Bool}
    (h : .requested otpRow sent = (ConsentDesk.step registry desk
      (now, .request officerId tenantId body code smsStatus ip)).1) :
    validKePhone (Text.strip body.phone) = true ∧ desk.otps.length = otpRow ∧
      sent = decide (smsStatus = "sent") := by
  simp only [ConsentDesk.step, ConsentDesk.requestConsentOtp] at h
  split_ifs at h with hphone
  obtain ⟨rfl, rfl⟩ := ConsentReply.requested.inj h
  exact ⟨by simpa using hphone, rfl, rfl⟩

/-- An accepted code was issued by the officer's latest request, within five minutes. -/
theorem issuing_request {calls : List (ℤ × ConsentCall)} {officerId : ℕ} {code : String}
    {now : ℤ} {otpRow : ℕ}
    (hok : (verifyOtp (deskAfter registry calls).otps officerId code "consent" now).1 =
      .ok otpRow) :
    ∃ early issued tenantId body drawn smsStatus ip later,
      calls = early ++ (issued, .request officerId tenantId body drawn smsStatus ip) :: later ∧
      validKePhone (Text.strip body.phone) = true ∧
      (deskAfter registry early).otps.length = otpRow ∧ now ≤ issued + 5 * minute ∧
      lastRequest officerId calls = some (body, decide (smsStatus = "sent")) := by
  obtain ⟨t, ht, hactive, -, hnow⟩ := verifyOtp_ok hok
  obtain ⟨rfl, hpurpose, hlive⟩ := active_iff.mp hactive
  rw [deskAfter_otps] at ht
  obtain ⟨before, issued, drawn, ip, later, hcalls, -, hrow, hexpires, hlast⟩ :=
    (rowHistory (otpCalls calls) ht).issue
  obtain ⟨early, rest, rfl, rfl, hrest⟩ := List.filterMap_eq_append_iff.mp hcalls
  obtain ⟨skipped, c, after, rfl, hskipped, hc, rfl⟩ := List.filterMap_eq_cons_iff.mp hrest
  have hearly : otpCalls (early ++ skipped) = otpCalls early := by
    rw [otpCalls, List.filterMap_append, List.filterMap_eq_nil_iff.mpr hskipped, List.append_nil]
    rfl
  obtain ⟨now', call⟩ := c
  obtain ⟨call', hotp, heq⟩ := Option.map_eq_some_iff.mp hc
  obtain ⟨rfl, rfl⟩ := Prod.mk.inj heq
  cases call with
  | verify officer tenantId body ip => nomatch hotp
  | request officer tenantId body drawn smsStatus ip' =>
    simp only [ConsentCall.otpCall] at hotp
    split_ifs at hotp with hphone
    obtain ⟨rfl, -, rfl, rfl⟩ := OtpCall.generate.inj (Option.some.inj hotp)
    refine ⟨early ++ skipped, now', tenantId, body, drawn, smsStatus, ip', after, by simp, hphone,
      ?_, hexpires ▸ hnow, ?_⟩
    · rw [deskAfter_otps, hearly, hrow]
      rfl
    · have hnone : after.filterMap (fun c => c.2.requestOf t.userId) = [] := by
        refine List.filterMap_eq_nil_iff.mpr fun c hc' => ?_
        by_contra hsome
        obtain ⟨r, hr⟩ := Option.ne_none_iff_exists'.mp hsome
        obtain ⟨code', ip'', hgen⟩ := requestOf_eq_some hr
        refine hlast hlive (c.1, .generate t.userId "consent" code' ip'') ?_
          ⟨rfl, hpurpose.symm⟩
        exact List.mem_filterMap.mpr ⟨c, hc', by rw [hgen]; rfl⟩
      rw [lastRequest, List.filterMap_append, List.filterMap_append, List.filterMap_cons, hnone]
      simp [ConsentCall.requestOf, hphone]

end Desk

section Runs

variable [Bcrypt] (registry : ConsentRegistry)

/-- The consents that are recorded are those that the answers say. -/
theorem consents_eq (calls : List (ℤ × ConsentCall)) :
    (deskAfter registry calls).consents =
      (deskTrace registry calls).filterMap (fun e => e.2.log?) := by
  induction calls using List.reverseRecOn with
  | nil => rfl
  | append_singleton calls c ih =>
    rw [deskAfter, run_concat, deskTrace, trace_concat, List.filterMap_append, ← deskTrace, ← ih]
    obtain ⟨now, call⟩ := c
    cases call with
    | request officerId tenantId body code smsStatus ip =>
      by_cases hphone : validKePhone (Text.strip body.phone) = true
      · simp [after, ConsentDesk.step, ConsentDesk.requestConsentOtp, hphone, ConsentReply.log?]
      · simp [after, ConsentDesk.step, ConsentDesk.requestConsentOtp, hphone, ConsentReply.log?]
    | verify officerId tenantId body ip =>
      simp only [after, ConsentDesk.step, ConsentDesk.verifyConsentOtp]
      split
      · split_ifs <;> simp [ConsentReply.log?]
      · simp [ConsentReply.log?]

/-- Each consent takes a code that was accepted. -/
theorem takes_le_acceptances (calls : List (ℤ × ConsentCall)) (otpRow : ℕ) :
    (deskTrace registry calls).countP (fun e => e.2.takes otpRow) ≤
      acceptances otpRow (otpTrace (otpCalls calls)) := by
  induction calls using List.reverseRecOn with
  | nil => exact Nat.zero_le _
  | append_singleton calls c ih =>
    rw [deskTrace, trace_concat, List.countP_append, otpCalls, List.filterMap_append, ← otpCalls]
    have hgrow : acceptances otpRow (otpTrace (otpCalls calls)) ≤ acceptances otpRow (otpTrace
        (otpCalls calls ++ [c].filterMap
          (fun c => c.2.otpCall.map (fun call => (c.1, call))))) := by
      rw [otpTrace, otpTrace, trace_append, acceptances, acceptances, List.countP_append]
      exact Nat.le_add_right _ _
    by_cases htakes : (ConsentDesk.step registry (deskAfter registry calls) c).1.takes otpRow
    · obtain ⟨now, call⟩ := c
      cases call with
      | request officerId tenantId body code smsStatus ip =>
        simp only [ConsentDesk.step, ConsentDesk.requestConsentOtp] at htakes
        split_ifs at htakes <;> simp [ConsentReply.takes] at htakes
      | verify officerId tenantId body ip =>
        obtain ⟨log, hlog⟩ : ∃ log, ((deskAfter registry calls).verifyConsentOtp registry now
            officerId tenantId body ip).1 = .recorded otpRow log := by
          cases hreply : ((deskAfter registry calls).verifyConsentOtp registry now officerId
              tenantId body ip).1 with
          | recorded row log =>
            simp only [ConsentDesk.step, hreply, ConsentReply.takes, decide_eq_true_eq] at htakes
            exact ⟨log, by rw [htakes]⟩
          | _ => simp [ConsentDesk.step, hreply, ConsentReply.takes] at htakes
        have hok := (recorded_spec hlog).1
        rw [deskAfter_otps] at hok
        have hone : [(now, ConsentCall.verify officerId tenantId body ip)].filterMap
            (fun c => c.2.otpCall.map (fun call => (c.1, call))) =
            [(now, .verify officerId (Text.strip body.code) "consent")] := rfl
        rw [hone, acceptances_concat, if_pos (by simp [otpStep, hok])]
        exact Nat.add_le_add ih (List.countP_le_length)
    · rw [List.countP_singleton, if_neg htakes, Nat.add_zero]
      exact ih.trans hgrow

/-- Every consent rests on a code that its officer had sent, within the last five minutes, to
the phone and for the client and lead of its row, with the text of its row; and no code carries
two consents. -/
def ConsentsBound (calls : List (ℤ × ConsentCall)) : Prop :=
  (∀ early now officerId tenantId body ip otpRow log later,
    deskTrace registry calls =
      early ++ ((now, .verify officerId tenantId body ip), .recorded otpRow log) :: later →
    ∃ before issued sender request code smsStatus ip' between,
      early = before ++ ((issued, .request officerId sender request code smsStatus ip'),
        .requested otpRow true) :: between ∧
      now ≤ issued + 5 * minute ∧ log.officerId = officerId ∧
      normalisePhone (Text.strip request.phone) = normalisePhone log.phone ∧
      request.clientId = log.clientId ∧ request.leadId = log.leadId ∧
      request.text = log.consentText) ∧
  ∀ otpRow, (deskTrace registry calls).countP (fun e => e.2.takes otpRow) ≤ 1

/-- A verification with the officer's live code that can be recorded names the phone, client
and lead of the officer's latest request, whose message went out with the default text. -/
def VerifiedAsRequested (early : List (ℤ × ConsentCall)) : ℤ × ConsentCall → Prop
  | (now, .verify officerId tenantId body _) =>
    CodeLive (deskAfter registry early).otps officerId (Text.strip body.code) now →
      ConsentDesk.clientFound registry tenantId body = true →
      ConsentDesk.rowFits registry body = true →
      ∀ r ∈ lastRequest officerId early,
        r.2 = true ∧
        normalisePhone (Text.strip r.1.phone) = normalisePhone (Text.strip body.phone) ∧
        r.1.clientId = body.clientId ∧ r.1.leadId = body.leadId ∧
        r.1.text = defaultConsentText
  | _ => True

/-- A bound consent names what the officer's latest request named. -/
theorem ConsentsBound.asRequested {early later : List (ℤ × ConsentCall)} {now : ℤ}
    {officerId tenantId : ℕ} {body : VerifyConsentOtpIn} {ip : Option String}
    (h : ConsentsBound registry (early ++ (now, .verify officerId tenantId body ip) :: later)) :
    VerifiedAsRequested registry early (now, .verify officerId tenantId body ip) := by
  intro hlive hfound hfits r hr
  obtain ⟨otpRow, hok⟩ := codeLive_iff.mp hlive
  obtain ⟨log, hlog⟩ := exists_recorded ip hok hfound hfits
  obtain ⟨-, -, -, -, hphone, hclient, hlead, htext⟩ := recorded_spec hlog
  have htrace := trace_split (ConsentDesk.step registry) ⟨[], [], [], []⟩ early
    (now, .verify officerId tenantId body ip) later
  rw [ConsentDesk.step, hlog] at htrace
  obtain ⟨before, issued, sender, request, code, smsStatus, ip', between, hearly, -, -, hsame⟩ :=
    h.1 _ _ _ _ _ _ _ _ _ htrace
  obtain ⟨early₁, later₁, hsplit₁, -, hreply⟩ := trace_eq_append _ hearly
  obtain ⟨hvalid, hlen, hsent⟩ := requested_spec hreply
  obtain ⟨early₂, issued₂, tenantId₂, body₂, code₂, smsStatus₂, ip₂, later₂, hsplit₂, hvalid₂,
    hlen₂, -, hlast⟩ := issuing_request hok
  have hcall := issue_unique (hsplit₁.symm.trans hsplit₂) (hlen.trans hlen₂.symm)
    (length_otps_lt early₁ _ _ _ _ _ _ hvalid) (length_otps_lt early₂ _ _ _ _ _ _ hvalid₂)
  obtain ⟨-, -, rfl, -, rfl, -⟩ := ConsentCall.request.inj (Prod.mk.inj hcall).2
  obtain rfl := Option.some.inj (hlast.symm.trans hr)
  rw [hphone, hclient, hlead, htext] at hsame
  exact ⟨hsent.symm, hsame⟩

/-- A consent that names what the officer's latest request named is bound to it. -/
theorem bound_of_asRequested {early : List (ℤ × ConsentCall)} {now : ℤ}
    {officerId tenantId : ℕ} {body : VerifyConsentOtpIn} {ip : Option String} {otpRow : ℕ}
    {log : ClientConsentLog}
    (hlog : ((deskAfter registry early).verifyConsentOtp registry now officerId tenantId body
      ip).1 = .recorded otpRow log)
    (h : VerifiedAsRequested registry early (now, .verify officerId tenantId body ip)) :
    ∃ before issued sender request code smsStatus ip' between,
      deskTrace registry early =
        before ++ ((issued, .request officerId sender request code smsStatus ip'),
          .requested otpRow true) :: between ∧
      now ≤ issued + 5 * minute ∧ log.officerId = officerId ∧
      normalisePhone (Text.strip request.phone) = normalisePhone log.phone ∧
      request.clientId = log.clientId ∧ request.leadId = log.leadId ∧
      request.text = log.consentText := by
  obtain ⟨hok, hfound, hfits, hofficer, hphone, hclient, hlead, htext⟩ := recorded_spec hlog
  obtain ⟨before, issued, sender, request, drawn, smsStatus, ip', later, rfl, hvalid, hlen, hnow,
    hlast⟩ := issuing_request hok
  obtain ⟨hsent, hsame⟩ := h (codeLive_iff.mpr ⟨otpRow, hok⟩) hfound hfits _ hlast
  have htrace := trace_split (ConsentDesk.step registry) ⟨[], [], [], []⟩ before
    (issued, .request officerId sender request drawn smsStatus ip') later
  have hreply : (ConsentDesk.step registry (deskAfter registry before)
      (issued, .request officerId sender request drawn smsStatus ip')).1 =
      .requested otpRow true := by
    simp only [ConsentDesk.step, ConsentDesk.requestConsentOtp, hvalid, hlen]
    exact congrArg _ hsent
  rw [hreply] at htrace
  refine ⟨_, issued, sender, request, _, smsStatus, ip', _, htrace, hnow, hofficer, ?_⟩
  rwa [hphone, hclient, hlead, htext]

/-- The recorded consents are bound to what was sent exactly when every verification names
what its officer's latest request named. -/
theorem consents_bound (calls : List (ℤ × ConsentCall)) :
    (deskAfter registry calls).consents =
      (deskTrace registry calls).filterMap (fun e => e.2.log?) ∧
    (ConsentsBound registry calls ↔
      ∀ early call later, calls = early ++ call :: later →
        VerifiedAsRequested registry early call) := by
  refine ⟨consents_eq registry calls, ?_⟩
  constructor
  · rintro hbound early ⟨now, call⟩ later rfl
    cases call with
    | request officerId tenantId body code smsStatus ip => trivial
    | verify officerId tenantId body ip => exact hbound.asRequested
  · intro h
    constructor
    · intro early now officerId tenantId body ip otpRow log later htrace
      obtain ⟨calls₁, calls₂, hsplit, rfl, hreply⟩ := trace_eq_append _ htrace
      exact bound_of_asRequested registry hreply.symm (h calls₁ _ calls₂ hsplit)
    · intro otpRow
      exact (takes_le_acceptances registry calls otpRow).trans (acceptances_le_one _ otpRow)

end Runs

/-- Clients 5 and 6 of tenant 1. -/
def twoClients : ConsentRegistry where
  clientTenant id := if id = 5 ∨ id = 6 then some 1 else none
  leadExists _ := false

/-- Officer 3 has a code sent to the phone of client 5. -/
def askClientFive : ℤ × ConsentCall :=
  (0, .request 3 1 ⟨"0712000001", some 5, none, none⟩ "493021" "sent" none)

/-- The code is read back under the phone of client 6. -/
def consentOfClientSix : ℤ × ConsentCall :=
  (minute, .verify 3 1 ⟨"493021", "0712000002", some 6, none⟩ none)

section Witness

local instance consentBcrypt : Bcrypt := saltless

/-- The consent of client 6 is recorded on a code that went to client 5. -/
theorem consent_for_another_client :
    ¬ ConsentsBound twoClients [askClientFive, consentOfClientSix] := by
  intro h
  have hlast : lastRequest 3 [askClientFive] =
      some (⟨"0712000001", some 5, none, none⟩, true) := by
    decide
  have hsame := ConsentsBound.asRequested twoClients
    (show ConsentsBound twoClients ([askClientFive] ++ consentOfClientSix :: []) from h)
    (codeLive_iff.mpr ⟨0, by decide⟩) (by decide) (by decide) _ hlast
  exact absurd hsame.2.2.1 (by decide)

end Witness

end FinylDcp
