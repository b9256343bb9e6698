import OpenMadt.ControlTokens

/-!
# Two ways to a control password

A control password is built by the server itself, in `buildControlPasswordToken`, or by
`control_password_token` of the scripts from the answer to a `GetRandom`: a JSON object with a
hexadecimal HMAC in it, in base 64.

* `tokenOf_password` — decoding a password gives back the token that was encoded.
* `Obtained.spec` — either way the password holds an authentic token for a nonce that is live.
* `password_authorizes` — hence it authorizes, once, until the end of the nonce.
-/

namespace OpenMadt

open Run

/-- The object that is encoded into a password. -/
def tokenJson (nonceId timestamp auth : String) : Json :=
  .obj [("v", .int 1), ("nonceId", .str nonceId), ("timestamp", .str timestamp), ("auth", .str auth)]

/-- What the scripts use of Python: `json.dumps`, the digest of `hmac.new` with SHA-256 from key and
message, and `base64.b64encode`. -/
structure Python where
  dumps : Json → Bytes
  hmacSha256 : Bytes → Bytes → Bytes
  b64encode : Bytes → Bytes

namespace Python

/-- The `token` of `control_password_token`. -/
def token (py : Python) (reqName nonceId nonce timestamp psk : String) : Json :=
  let message := utf8 ("\n".intercalate [reqName, nonceId, nonce, timestamp])
  tokenJson nonceId timestamp (toHex (py.hmacSha256 (utf8 psk) message))

/-- `control_password_token` after the `GetRandom`, whose answer is `randomResp`; none where it
raises a `TestFailure`. -/
def controlPasswordToken (py : Python) (randomResp : Json) (reqName psk timestamp : String) :
    Option String :=
  match randomResp.find? "retCode", Server.stringMember randomResp "nonceId",
    Server.stringMember randomResp "nonce" with
  | some (.int 0), some nonceId, some nonce =>
    if nonceId = "" ∨ nonce = "" then none
    else some (text (py.b64encode (py.dumps (py.token reqName nonceId nonce timestamp psk))))
  | _, _, _ => none

/-- Python's libraries compute the same as OpenSSL. -/
structure Agrees {I G : Type} (py : Python) (P : Platform I G) : Prop where
  hmacSha256 : ∀ key message, P.hmacSha256 key message = some (py.hmacSha256 key message)
  b64encode : ∀ x, py.b64encode x = Base64.encode x

end Python

namespace Server

variable {I G : Type} {P : Platform I G} {moves : G → G → Prop} {py : Python}

/-- The parser reads the text as an object with these members. -/
def Reads (P : Platform I G) (jsonText : Bytes) (json : Json) : Prop :=
  ∃ parsed, P.parse jsonText = some parsed ∧ ∀ key, parsed.find? key = json.find? key

/-- **Decoding a password.** -/
theorem tokenOf_password (hssl : P.OpenSsl) {jsonText : Bytes} {nonceId timestamp auth : String}
    (h : Reads P jsonText (tokenJson nonceId timestamp auth)) :
    tokenOf P (text (Base64.encode jsonText))
      = some { nonceId := nonceId, timestamp := timestamp, auth := auth } := by
  obtain ⟨parsed, hparse, hmembers⟩ := h
  have hmember : ∀ key, stringMember parsed key
      = stringMember (tokenJson nonceId timestamp auth) key := by
    intro key
    rw [stringMember, stringMember, hmembers]
  rw [tokenOf, utf8_text (Base64.ascii_encode jsonText), base64Decode_encode hssl, Option.bind_some,
    hparse, Option.bind_some, hmember, hmember, hmember]
  rfl

/-- A password for requests of this name, and the world in which its nonce has just been issued. -/
inductive Obtained (P : Platform I G) (py : Python) (w : World G) (j : Input I) (reqName : String) :
    String → World G → Prop where
  /-- The server builds the password. -/
  | built {nonce : String} (hnonce : P.generateRandomToken j.random = some nonce)
      (hjson : Reads P
        (P.dump (tokenJson j.uuid j.timestamp (P.computeHmacSha256 w.server.runtimeConfig.controlPsk
          (authMessage reqName j.uuid nonce j.timestamp))))
        (tokenJson j.uuid j.timestamp (P.computeHmacSha256 w.server.runtimeConfig.controlPsk
          (authMessage reqName j.uuid nonce j.timestamp)))) :
      Obtained P py w j reqName (buildControlPasswordToken P j reqName w.server).1
        { w with server := (buildControlPasswordToken P j reqName w.server).2 }
  /-- A script makes the password from the answer to a `GetRandom`. -/
  | scripted {bev : Conn} {requestText : Bytes} {w₁ : World G} {randomResp : Json}
      {timestamp password : String} (hrequest : decode P requestText = .ok .GetRandom)
      (hout : outcome (processFrame P j bev requestText) w = .ok w₁)
      (hreply : w₁.sent = w.sent ++ [(bev, randomResp)])
      (hpassword : py.controlPasswordToken randomResp reqName w.server.runtimeConfig.controlPsk
        timestamp = some password)
      (hjson : ∀ nonceId nonce, stringMember randomResp "nonceId" = some nonceId →
        stringMember randomResp "nonce" = some nonce →
        Reads P (py.dumps (py.token reqName nonceId nonce timestamp w.server.runtimeConfig.controlPsk))
          (py.token reqName nonceId nonce timestamp w.server.runtimeConfig.controlPsk)) :
      Obtained P py w j reqName password w₁

theorem intercalate_eq (reqName nonceId nonce timestamp : String) :
    "\n".intercalate [reqName, nonceId, nonce, timestamp] = authMessage reqName nonceId nonce timestamp :=
  rfl

theorem authentic_of_digest {psk reqName nonceId nonce timestamp : String} {digest : Bytes}
    (hlength : digest.length = 32)
    (h : P.hmacSha256 (utf8 psk) (utf8 (authMessage reqName nonceId nonce timestamp)) = some digest) :
    Authentic P psk reqName { nonceId := nonceId, timestamp := timestamp, auth := toHex digest }
      nonce := by
  refine ⟨digest, ?_, rfl, h⟩
  rintro rfl
  cases hlength

/-- What the server's own password is. -/
theorem buildControlPasswordToken_eq (hssl : P.OpenSsl) {j : Input I} (reqName : String)
    {nonce : String} {s : Server} (hpsk : s.runtimeConfig.controlPsk ≠ "")
    (hnonce : P.generateRandomToken j.random = some nonce) :
    ∃ digest, digest.length = 32
      ∧ P.hmacSha256 (utf8 s.runtimeConfig.controlPsk)
          (utf8 (authMessage reqName j.uuid nonce j.timestamp)) = some digest
      ∧ P.computeHmacSha256 s.runtimeConfig.controlPsk (authMessage reqName j.uuid nonce j.timestamp)
          = toHex digest
      ∧ buildControlPasswordToken P j reqName s
          = (text (Base64.encode (P.dump (tokenJson j.uuid j.timestamp (toHex digest)))),
            issueNonce j nonce s) := by
  obtain ⟨digest, hlength, hdigest⟩ := hssl.hmacSha256 (utf8 s.runtimeConfig.controlPsk)
    (utf8 (authMessage reqName j.uuid nonce j.timestamp))
  have hauth : P.computeHmacSha256 s.runtimeConfig.controlPsk
      (authMessage reqName j.uuid nonce j.timestamp) = toHex digest := by
    rw [Platform.computeHmacSha256, hdigest]
  have hne : toHex digest ≠ "" := by
    rw [ne_eq, toHex_eq_empty_iff]
    rintro rfl
    cases hlength
  refine ⟨digest, hlength, hdigest, hauth, ?_⟩
  simp only [buildControlPasswordToken, hpsk, hnonce, hauth, hne, if_false, base64Encode_eq hssl]
  rfl

/-- A script gets a password only from an answer that issues a nonce. -/
theorem controlPasswordToken_eq_some {randomResp : Json} {reqName psk timestamp password : String}
    (h : py.controlPasswordToken randomResp reqName psk timestamp = some password) :
    randomResp.find? "retCode" = some (.int 0) ∧ ∃ nonceId nonce,
      stringMember randomResp "nonceId" = some nonceId ∧ stringMember randomResp "nonce" = some nonce
      ∧ password = text (py.b64encode (py.dumps (py.token reqName nonceId nonce timestamp psk))) := by
  unfold Python.controlPasswordToken at h
  split at h
  next nonceId nonce hcode hid hnonce =>
    split at h
    · cases h
    · exact ⟨hcode, nonceId, nonce, hid, hnonce, (Option.some.inj h).symm⟩
  · cases h

/-- The answer to a `GetRandom`. -/
theorem run_getRandom {w w₁ : World G} {j : Input I} {bev : Conn} {randomResp : Json}
    (hrun : (plan P j bev w.server .GetRandom).run P j bev w = some w₁)
    (hreply : w₁.sent = w.sent ++ [(bev, randomResp)])
    (hcode : randomResp.find? "retCode" = some (.int 0)) :
    ∃ nonce, P.generateRandomToken j.random = some nonce
      ∧ stringMember randomResp "nonceId" = some j.uuid
      ∧ stringMember randomResp "nonce" = some nonce := by
  simp only [plan, planGetRandom] at hrun
  split at hrun
  · cases hrun
    obtain rfl : response .MTSRC_BAD_REQUEST = randomResp := by simpa [World.reply] using hreply
    cases hcode
  · split at hrun
    · cases hrun
      obtain rfl : response .MTSRC_EXEC_ERROR = randomResp := by simpa [World.reply] using hreply
      cases hcode
    next nonce hnonce =>
      cases hrun
      have hresp := List.append_cancel_left hreply
      rw [List.cons.injEq, Prod.mk.injEq] at hresp
      rw [← hresp.1.2]
      exact ⟨nonce, hnonce, rfl, rfl⟩

/-- **A password that was obtained** holds an authentic token for a nonce that has just been
issued. -/
theorem Obtained.spec {w w₁ : World G} {j : Input I} {reqName password : String}
    (h : Obtained P py w j reqName password w₁) (hssl : P.OpenSsl) (hpy : py.Agrees P)
    (hpsk : w.server.runtimeConfig.controlPsk ≠ "") {now : Time}
    (hnow : now ≤ j.now + seconds w.server.runtimeConfig.controlNonceTtlSeconds) :
    w₁.server.runtimeConfig = w.server.runtimeConfig ∧ ∃ token nonce,
      tokenOf P password = some token ∧ token.nonceId = j.uuid
      ∧ Authentic P w.server.runtimeConfig.controlPsk reqName token nonce
      ∧ Live now w₁.server j.uuid
          { nonce := nonce
            expiresAt := j.now + seconds w.server.runtimeConfig.controlNonceTtlSeconds
            used := false } := by
  cases h with
  | @built nonce hnonce hjson =>
    obtain ⟨digest, hlength, hdigest, hauth, heq⟩ :=
      buildControlPasswordToken_eq hssl reqName hpsk hnonce
    rw [hauth] at hjson
    rw [heq]
    refine ⟨rfl, _, nonce, tokenOf_password hssl hjson, rfl, authentic_of_digest hlength hdigest, ?_⟩
    exact ⟨by simp [issueNonce], rfl, hnow⟩
  | @scripted bev requestText _ randomResp timestamp _ hrequest hout hreply hpassword hjson =>
    obtain ⟨hcode, nonceId, nonce, hid, hnonce, rfl⟩ := controlPasswordToken_eq_some hpassword
    obtain ⟨request, hdecode, hrun⟩ := decoded_of_outcome hout
    rw [hrequest, Except.ok.injEq] at hdecode
    subst hdecode
    obtain ⟨nonce', hissued, hid', hnonce'⟩ := run_getRandom hrun hreply hcode
    rw [hid, Option.some.injEq] at hid'
    rw [hnonce, Option.some.injEq] at hnonce'
    subst hid' hnonce'
    have hstep : Step P (fun _ _ => True) w (.request j bev requestText) w₁ := .request hout
    have hissues : Issues P w.server.runtimeConfig j.uuid nonce
        (j.now + seconds w.server.runtimeConfig.controlNonceTtlSeconds) (.request j bev requestText) :=
      ⟨hrequest, hissued, rfl, rfl⟩
    have hlive := live_of_issues hpsk hissues hstep hnow
    obtain ⟨digest, hlength, hdigest⟩ := hssl.hmacSha256 (utf8 w.server.runtimeConfig.controlPsk)
      (utf8 (authMessage reqName j.uuid nonce timestamp))
    have hagrees : py.hmacSha256 (utf8 w.server.runtimeConfig.controlPsk)
        (utf8 ("\n".intercalate [reqName, j.uuid, nonce, timestamp])) = digest := by
      rw [intercalate_eq]
      exact Option.some.inj ((hpy.hmacSha256 _ _).symm.trans hdigest)
    have hread := hjson j.uuid nonce hid hnonce
    rw [Python.token, hagrees] at hread
    rw [hpy.b64encode, Python.token, hagrees]
    exact ⟨hstep.runtimeConfig, _, nonce, tokenOf_password hssl hread, rfl,
      authentic_of_digest hlength hdigest, hlive⟩

/-- **A password authorizes.**  A password was obtained, from the server or by a script, in whatever
state; then any events follow, with fresh ids, none of which is authorized with the nonce of the
password.  A request with the password, no earlier than these events and before the end of the nonce,
is authorized under the name for which the password was made. -/
theorem password_authorizes (hssl : P.OpenSsl) (hpy : py.Agrees P) {w w₁ w₂ : World G} {j : Input I}
    {reqName password : String} (hpsk : w.server.runtimeConfig.controlPsk ≠ "")
    (hobtained : Obtained P py w j reqName password w₁) {log : List (World G × Event I)}
    (hrun : Steps (Logged (Step P moves)) w₁ log w₂)
    (hfresh : ∀ logged ∈ log, logged.2.uuid? ≠ some j.uuid)
    (hunused : ∀ logged ∈ log, ¬ Accepts P j.uuid logged)
    {i : Input I} (hnow : ∀ logged ∈ log, logged.2.NotAfter i.now)
    (hbefore : i.now < j.now + seconds w.server.runtimeConfig.controlNonceTtlSeconds)
    {request : Json} (hrequest : request.find? "password" = some (.str password)) :
    ((authorizeControlRequest P i request reqName).run w₂).1 = .ok true := by
  obtain ⟨hconfig, token, nonce, htoken, hid, hauth, hlive⟩ :=
    hobtained.spec hssl hpy hpsk (Int.le_of_lt hbefore)
  have hconfig₁ : w₁.server.runtimeConfig.controlPsk = w.server.runtimeConfig.controlPsk := by
    rw [hconfig]
  obtain ⟨hlive₂, hconfig₂⟩ := hlive.run hbefore hconfig₁ hrun hnow hfresh
    fun logged hmem _ _ => hunused logged hmem
  have hauth₂ : Authentic P w₂.server.runtimeConfig.controlPsk reqName token nonce := by
    rw [hconfig₂]
    exact hauth
  rw [← hid] at hlive₂
  have haccepts : (authorize P i (some password) reqName w₂.server).1 = true :=
    (authorize_accepts_iff (hconfig₂ ▸ hpsk)).mpr ⟨token, htoken, _, hlive₂, hauth₂⟩
  have hpassword : stringMember request "password" = some password := by
    rw [stringMember, hrequest]
    rfl
  rw [run_authorizeControlRequest, hpassword, haccepts]

/-! ### A password of the server -/

/-- A Python whose `json.dumps` is asked for the token of a `Stop`. -/
def samplePython : Python where
  dumps _ := scriptText (toHex stopDigest)
  hmacSha256 key message := (keyPlatform.hmacSha256 key message).getD []
  b64encode := Base64.encode

theorem openSsl_keyPlatform : keyPlatform.OpenSsl where
  encodeBlock _ := rfl
  decodeBlock _ := rfl
  hmacSha256 key message := by
    refine ⟨_, ?_, rfl⟩
    simp only [List.lookup_cons, List.lookup_nil]
    split
    · rfl
    · split <;> rfl

theorem agrees_samplePython : samplePython.Agrees keyPlatform := ⟨fun _ _ => rfl, fun _ => rfl⟩

theorem reads_tokenValue {jsonText : Bytes} {auth : String}
    (h : keyPlatform.parse jsonText = some (tokenValue auth)) :
    Reads keyPlatform jsonText (tokenJson sampleInput.uuid sampleInput.timestamp auth) := by
  refine ⟨_, h, fun key => ?_⟩
  simp only [tokenValue, tokenJson, Json.find?_obj, List.lookup_cons, List.lookup_nil]
  by_cases hv : key = "v"
  · subst hv; rfl
  by_cases hid : key = "nonceId"
  · subst hid; rfl
  by_cases htimestamp : key = "timestamp"
  · subst htimestamp; rfl
  by_cases hauth : key = "auth"
  · subst hauth; rfl
  simp only [beq_false_of_ne hv, beq_false_of_ne hid, beq_false_of_ne htimestamp,
    beq_false_of_ne hauth]

/-- The server after it built a password for a `Stop`. -/
def passwordWorld : World Gui.GuiState :=
  { keyWorld with server := (buildControlPasswordToken keyPlatform randomInput "Stop" keyWorld.server).2 }

theorem obtained_stop :
    Obtained keyPlatform samplePython keyWorld randomInput "Stop"
      (buildControlPasswordToken keyPlatform randomInput "Stop" keyWorld.server).1 passwordWorld := by
  have hauth : keyPlatform.computeHmacSha256 keyWorld.server.runtimeConfig.controlPsk
      (authMessage "Stop" randomInput.uuid sampleNonce randomInput.timestamp) = toHex stopDigest := by
    decide +kernel
  have hread : Reads keyPlatform (tokenText (toHex stopDigest))
      (tokenJson sampleInput.uuid sampleInput.timestamp (toHex stopDigest)) :=
    reads_tokenValue (parse_keyPlatform (by simp [keyTexts]))
  refine .built generateRandomToken_sample ?_
  rw [hauth]
  exact hread

/-! ### A password of a script -/

/-- The answer to the first `GetRandom`. -/
def randomAnswer : Json :=
  response .MTSRC_OK
    [("nonceId", .str sampleInput.uuid), ("nonce", .str sampleNonce), ("ttl", .int 30),
      ("algo", .str "HMAC-SHA256")]

def scriptPassword : String := text (Base64.encode (scriptText (toHex stopDigest)))

theorem obtained_script :
    Obtained keyPlatform samplePython keyWorld randomInput "Stop" scriptPassword issuedWorld := by
  have hout : outcome (processFrame keyPlatform randomInput 7 getRandomText) keyWorld = .ok issuedWorld := by
    rw [processFrame_eq, decode_getRandom, serve, plan, planGetRandom, if_neg (by decide),
      generateRandomToken_sample]
    rfl
  have hdigest : samplePython.hmacSha256 (utf8 keyWorld.server.runtimeConfig.controlPsk)
      (utf8 ("\n".intercalate ["Stop", sampleInput.uuid, sampleNonce, sampleInput.timestamp]))
      = stopDigest := by
    decide +kernel
  have hread : Reads keyPlatform (scriptText (toHex stopDigest))
      (tokenJson sampleInput.uuid sampleInput.timestamp (toHex stopDigest)) :=
    reads_tokenValue (parse_keyPlatform (by simp [keyTexts]))
  refine @Obtained.scripted _ _ keyPlatform samplePython keyWorld randomInput "Stop" 7 getRandomText
    issuedWorld randomAnswer sampleInput.timestamp scriptPassword decode_getRandom hout rfl rfl ?_
  rintro nonceId nonce ⟨⟩ ⟨⟩
  rw [Python.token, hdigest]
  exact hread

theorem password_authorizes_stop :
    ((authorizeControlRequest keyPlatform lateInput
      (controlValue "Stop" (buildControlPasswordToken keyPlatform randomInput "Stop" keyWorld.server).1)
      "Stop").run (pruneExpiredTabs keyPlatform (seconds 10) passwordWorld)).1 = .ok true
    ∧ ((authorizeControlRequest keyPlatform lateInput (controlValue "Stop" scriptPassword)
      "Stop").run (pruneExpiredTabs keyPlatform (seconds 10) issuedWorld)).1 = .ok true := by
  have hrun : ∀ w : World Gui.GuiState, Steps (Logged (Step keyPlatform noMoves)) w
      [(w, .tick (seconds 10))] (pruneExpiredTabs keyPlatform (seconds 10) w) :=
    fun w => .cons ⟨rfl, .tick w (seconds 10)⟩ (.nil _)
  constructor
  · exact password_authorizes openSsl_keyPlatform agrees_samplePython (by decide) obtained_stop
      (hrun passwordWorld) (by simp [Event.uuid?]) (by simp [Accepts])
      (by simp [Event.NotAfter, lateInput]; decide) (by decide) rfl
  · exact password_authorizes openSsl_keyPlatform agrees_samplePython (by decide) obtained_script
      (hrun issuedWorld) (by simp [Event.uuid?]) (by simp [Accepts])
      (by simp [Event.NotAfter, lateInput]; decide) (by decide) rfl

end Server

end OpenMadt
