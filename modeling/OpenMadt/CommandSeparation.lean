import OpenMadt.ControlTokens
import OpenMadt.Library.Separators

/-!
# A password is for one command

The message that a control token authenticates is four fields joined by newlines, and the last one is
whatever the client says.  A token for one control request must not be good for another.

* `toHex_injective`, `authMessage_injective` — nothing is lost on the way from the fields to the token.
* `one_command_per_password` — in one state of the server a password is accepted for one name at most.
* `auth_ne_of_run` — along every run, what authenticates a token is accepted once, whatever name, nonce
  and timestamp it comes with.
-/

namespace OpenMadt

/-! ### Hexadecimal digits -/

theorem hexDigit_injective {m n : ℕ} (hm : m < 16) (hn : n < 16) (h : hexDigit m = hexDigit n) : m = n := by
  have hall : ∀ a b : Fin 16, hexDigit a = hexDigit b → a = b := by decide
  exact congrArg Fin.val (hall ⟨m, hm⟩ ⟨n, hn⟩ h)

theorem toHex_injective : Function.Injective toHex := by
  intro data data' h
  have hdigits : data.flatMap (fun b => [hexDigit (b.toNat / 16), hexDigit (b.toNat % 16)])
      = data'.flatMap fun b => [hexDigit (b.toNat / 16), hexDigit (b.toNat % 16)] := by
    have hchars := congrArg String.toList h
    rwa [toHex, toHex, String.toList_ofList, String.toList_ofList] at hchars
  clear h
  induction data generalizing data' with
  | nil =>
    cases data' with
    | nil => rfl
    | cons b' data' =>
      rw [List.flatMap_cons] at hdigits
      cases hdigits
  | cons b data ih =>
    cases data' with
    | nil =>
      rw [List.flatMap_cons] at hdigits
      cases hdigits
    | cons b' data' =>
      rw [List.flatMap_cons, List.flatMap_cons] at hdigits
      obtain ⟨hfirst, hrest⟩ := List.append_inj hdigits rfl
      obtain ⟨hhigh, hlow, -⟩ := List.cons.inj hfirst |>.imp_right List.cons.inj
      have hb := b.toNat_lt
      have hb' := b'.toNat_lt
      have hhigh := hexDigit_injective (by omega) (by omega) hhigh
      have hlow := hexDigit_injective (by omega) (by omega) hlow
      have hsame : b.toNat = b'.toNat := by omega
      rw [UInt8.toNat_inj.mp hsame, ih hrest]

namespace Server

open Run Separators

/-! ### Fields and separators -/

/-- No newline. -/
def Plain (field : String) : Prop := '\n' ∉ field.toList

theorem toList_authMessage (reqName nonceId nonce timestamp : String) :
    (authMessage reqName nonceId nonce timestamp).toList
      = reqName.toList ++ '\n' :: (nonceId.toList ++ '\n' :: (nonce.toList ++ '\n' :: timestamp.toList)) := by
  simp [authMessage]

/-- **The message can be taken apart** if its first three fields are plain; the last one may contain anything. -/
theorem authMessage_injective {reqName nonceId nonce timestamp reqName' nonceId' nonce' timestamp' : String}
    (hname : Plain reqName) (hname' : Plain reqName') (hid : Plain nonceId) (hid' : Plain nonceId')
    (hnonce : Plain nonce) (hnonce' : Plain nonce')
    (h : authMessage reqName nonceId nonce timestamp = authMessage reqName' nonceId' nonce' timestamp') :
    reqName = reqName' ∧ nonceId = nonceId' ∧ nonce = nonce' ∧ timestamp = timestamp' := by
  have hchars := congrArg String.toList h
  rw [toList_authMessage, toList_authMessage] at hchars
  obtain ⟨hnames, hrest⟩ := append_sep_inj hname hname' hchars
  obtain ⟨hids, hrest⟩ := append_sep_inj hid hid' hrest
  obtain ⟨hnonces, htimes⟩ := append_sep_inj hnonce hnonce' hrest
  exact ⟨String.toList_inj.mp hnames, String.toList_inj.mp hids, String.toList_inj.mp hnonces,
    String.toList_inj.mp htimes⟩

/-- With the same nonce and the same timestamp, the messages for two names are different. -/
theorem reqName_of_authMessage {reqName reqName' nonceId nonce timestamp : String}
    (h : authMessage reqName nonceId nonce timestamp = authMessage reqName' nonceId nonce timestamp) :
    reqName = reqName' := by
  have hchars := congrArg String.toList h
  rw [toList_authMessage, toList_authMessage] at hchars
  exact String.toList_inj.mp (List.append_cancel_right hchars)

variable {I G : Type} {P : Platform I G}

/-- HMAC-SHA256 under the key tells two messages apart. -/
def TellsApart (P : Platform I G) (psk message message' : String) : Prop :=
  ∀ digest, P.hmacSha256 (utf8 psk) (utf8 message) = some digest →
    P.hmacSha256 (utf8 psk) (utf8 message') = some digest → message = message'

/-- Tokens with the same `auth` are for the same message. -/
theorem message_of_auth {psk reqName reqName' nonce nonce' : String} {token token' : ControlToken}
    (h : Authentic P psk reqName token nonce) (h' : Authentic P psk reqName' token' nonce')
    (hauth : token.auth = token'.auth)
    (hmac : TellsApart P psk (authMessage reqName token.nonceId nonce token.timestamp)
      (authMessage reqName' token'.nonceId nonce' token'.timestamp)) :
    authMessage reqName token.nonceId nonce token.timestamp
      = authMessage reqName' token'.nonceId nonce' token'.timestamp := by
  obtain ⟨digest, -, hhex, hdigest⟩ := h
  obtain ⟨digest', -, hhex', hdigest'⟩ := h'
  have hsame : digest = digest' := toHex_injective (hhex.symm.trans (hauth.trans hhex'))
  rw [← hsame] at hdigest'
  exact hmac digest hdigest hdigest'

/-- The names of the requests that need a token. -/
def controlNames : List String := ["Stop", "Restart", "CaptureScreenshot"]

/-- **One command for each password.**  With a pre-shared key, in any state of the server: a password that is
accepted for one of the control requests is refused for the two others in the same state, at whatever time
and with whatever other members in the request, if HMAC-SHA256 tells the three messages of the token in
the password apart. -/
theorem one_command_per_password (P : Platform I G) (i i' : Input I) (w : World G)
    (hpsk : w.server.runtimeConfig.controlPsk ≠ "") {request request' : Json}
    (hpassword : stringMember request' "password" = stringMember request "password")
    (hmac : ∀ token entry, (stringMember request "password").bind (tokenOf P) = some token →
      w.server.controlNonces[token.nonceId]? = some entry →
      ∀ reqName ∈ controlNames, ∀ reqName' ∈ controlNames, TellsApart P w.server.runtimeConfig.controlPsk
        (authMessage reqName token.nonceId entry.nonce token.timestamp)
        (authMessage reqName' token.nonceId entry.nonce token.timestamp))
    {reqName reqName' : String} (hname : reqName ∈ controlNames) (hname' : reqName' ∈ controlNames)
    (hne : reqName ≠ reqName')
    (haccepted : ((authorizeControlRequest P i request reqName).run w).1 = .ok true) :
    ((authorizeControlRequest P i' request' reqName').run w).1 = .ok false := by
  rw [run_authorizeControlRequest] at haccepted ⊢
  rw [hpassword]
  have haccepted := (authorize_accepts_iff hpsk).mp (Except.ok.inj haccepted)
  obtain ⟨token, htoken, entry, ⟨hfind, -, -⟩, hauth⟩ := haccepted
  refine congrArg Except.ok (Bool.eq_false_of_not_eq_true fun hother => ?_)
  -- the second check reads the same token, and finds the same nonce
  obtain ⟨token', htoken', entry', ⟨hfind', -, -⟩, hauth'⟩ := (authorize_accepts_iff hpsk).mp hother
  obtain rfl := Option.some.inj (htoken.symm.trans htoken')
  obtain rfl := Option.some.inj (hfind.symm.trans hfind')
  have hmessage := message_of_auth hauth hauth' rfl (hmac token entry htoken hfind reqName hname reqName' hname')
  exact hne (reqName_of_authMessage hmessage)

theorem stop_for_stop_only :
    ((authorizeControlRequest keyPlatform lateInput
      (controlValue "CaptureScreenshot" (passwordOf stopDigest)) "CaptureScreenshot").run issuedWorld).1
      = .ok false := by
  have htoken : (some (passwordOf stopDigest)).bind (tokenOf keyPlatform) = some stopToken := by
    decide +kernel
  have hlive : Live lateInput.now issuedWorld.server stopToken.nonceId
      { nonce := sampleNonce, expiresAt := seconds 30, used := false } :=
    live_of_issues (by decide) issues_getRandom step_getRandom (by decide)
  have haccepted : ((authorizeControlRequest keyPlatform lateInput
      (controlValue "Stop" (passwordOf stopDigest)) "Stop").run issuedWorld).1 = .ok true := by
    rw [run_authorizeControlRequest]
    exact congrArg Except.ok
      ((authorize_accepts_iff (by decide)).mpr ⟨stopToken, htoken, _, hlive, authentic_stop⟩)
  refine one_command_per_password keyPlatform lateInput lateInput issuedWorld (by decide) rfl ?_
    (by decide) (by decide) (by decide) haccepted
  intro token entry htoken' hfind
  obtain rfl := Option.some.inj (htoken.symm.trans htoken')
  obtain rfl := Option.some.inj (hlive.1.symm.trans hfind)
  -- this client has computed two digests, and they are different
  have hall : ∀ r ∈ controlNames, ∀ r' ∈ controlNames,
      keyPlatform.hmacSha256 (utf8 "secret")
          (utf8 (authMessage r stopToken.nonceId sampleNonce stopToken.timestamp)) ≠ none →
        keyPlatform.hmacSha256 (utf8 "secret")
          (utf8 (authMessage r stopToken.nonceId sampleNonce stopToken.timestamp))
        = keyPlatform.hmacSha256 (utf8 "secret")
          (utf8 (authMessage r' stopToken.nonceId sampleNonce stopToken.timestamp)) → r = r' := by
    decide +kernel
  intro r hr r' hr' digest hdigest hdigest'
  have hsame := hall r hr r' hr' (Option.ne_none_iff_exists'.mpr ⟨digest, hdigest⟩)
    (hdigest.trans hdigest'.symm)
  rw [hsame]

/-! ### Along a run -/

theorem plain_text {bytes : Bytes} (h : ∀ b ∈ bytes, 32 < b ∧ b < 128) : Plain (text bytes) := by
  have hnone : ∀ n : Fin 128, 32 < n.val → Char.ofNat n.val ≠ '\n' := by decide
  intro hmem
  rw [text, String.toList_ofList, List.mem_map] at hmem
  obtain ⟨b, hb, heq⟩ := hmem
  obtain ⟨hlow, hhigh⟩ := h b hb
  exact hnone ⟨b.toNat, UInt8.lt_iff_toNat_lt.mp hhigh⟩ (UInt8.lt_iff_toNat_lt.mp hlow) heq

/-- A nonce is the base 64 of random bytes. -/
theorem Issues.plain {config : RuntimeConfig} {nonceId nonce : String} {expiresAt : Time} {e : Event I}
    (h : Issues P config nonceId nonce expiresAt e) (hssl : P.OpenSsl) : Plain nonce := by
  cases e with
  | request i bev requestText =>
    obtain ⟨-, hnonce, -, -⟩ := h
    obtain ⟨bytes, -, hbytes⟩ := Option.map_eq_some_iff.mp hnonce
    rw [← hbytes, base64Encode_eq hssl]
    exact plain_text (Base64.encode_range bytes)
  | _ => exact h.elim

theorem Carries.unique {requestText : Bytes} {reqName reqName' : String} {token token' : ControlToken}
    (h : Carries P requestText reqName token) (h' : Carries P requestText reqName' token') :
    token = token' := by
  obtain ⟨request, hparse, -, htoken⟩ := h
  obtain ⟨request', hparse', -, htoken'⟩ := h'
  obtain rfl := Option.some.inj (hparse.symm.trans hparse')
  exact Option.some.inj (Except.ok.inj (htoken.symm.trans htoken'))

theorem plain_of_mem_controlNames {reqName : String} (h : reqName ∈ controlNames) : Plain reqName := by
  have hall : ∀ reqName ∈ controlNames, '\n' ∉ reqName.toList := by decide
  exact hall reqName h

/-- **An `auth` is accepted once.**  Along every run with a pre-shared key, whose ids are fresh and plain: if
HMAC-SHA256 tells the messages of two tokens apart, then a token that is accepted has not the `auth` of one
that was accepted before.  The timestamps are what the clients say. -/
theorem auth_ne_of_run {softwareVersion timestamp : String} {config : RuntimeConfig} {g : G}
    {log : List (World G × Event I)} {w : World G} {moves : G → G → Prop} (hssl : P.OpenSsl)
    (hpsk : config.controlPsk ≠ "")
    (hrun : Steps (Logged (Step P moves)) (World.start softwareVersion timestamp config g) log w)
    (hfresh : (log.filterMap fun logged => logged.2.uuid?).Nodup)
    (hplain : ∀ nonceId ∈ log.filterMap fun logged => logged.2.uuid?, Plain nonceId)
    {w₀ : World G} {i i' : Input I} {bev' : Conn} {requestText requestText' : Bytes}
    {reqName reqName' : String} {token token' : ControlToken}
    (hmac : ∀ issue ∈ log, ∀ issue' ∈ log, ∀ nonce nonce' expiresAt expiresAt',
      Issues P config token.nonceId nonce expiresAt issue.2 →
      Issues P config token'.nonceId nonce' expiresAt' issue'.2 →
      TellsApart P config.controlPsk (authMessage reqName token.nonceId nonce token.timestamp)
        (authMessage reqName' token'.nonceId nonce' token'.timestamp))
    (hbefore : (w₀, Event.request i' bev' requestText') ∈ log)
    (haccepted' : Authorized P i' requestText' reqName' w₀) (hcarries' : Carries P requestText' reqName' token')
    (haccepted : Authorized P i requestText reqName w) (hcarries : Carries P requestText reqName token) :
    token.auth ≠ token'.auth := by
  have hids : ∀ logged ∈ log, ∀ nonceId nonce expiresAt,
      Issues P config nonceId nonce expiresAt logged.2 → Plain nonceId :=
    fun logged hmem nonceId _ _ hissues => hplain nonceId (mem_uuids_of_issues hmem hissues)
  intro hauths
  -- the token of the last request
  have hledger := ledger_of_run hpsk hrun hfresh
  obtain ⟨token₁, nonce, expiresAt, hcarries₁, ⟨issue, hissue, hissues⟩, -, hauth, hnever⟩ :=
    hledger.authorized hpsk haccepted
  obtain rfl := hcarries₁.unique hcarries
  -- the token of the earlier one, in the run up to it
  obtain ⟨front, back, rfl⟩ := List.append_of_mem hbefore
  obtain ⟨w₁, w₂, hfront, ⟨rfl, -⟩, -⟩ := hrun.split
  rw [List.filterMap_append] at hfresh
  have hledger' := ledger_of_run hpsk hfront (List.nodup_append.mp hfresh).1
  obtain ⟨token₂, nonce', expiresAt', hcarries₂, ⟨issue', hfront', hissues'⟩, -, hauth', -⟩ :=
    hledger'.authorized hpsk haccepted'
  obtain rfl := hcarries₂.unique hcarries'
  have hissue' := List.mem_append_left ((w₀, Event.request i' bev' requestText') :: back) hfront'
  have hmessage := message_of_auth hauth hauth' hauths
    (hmac issue hissue issue' hissue' nonce nonce' expiresAt expiresAt' hissues hissues')
  have hid := hids issue hissue _ nonce expiresAt hissues
  have hid' := hids issue' hissue' _ nonce' expiresAt' hissues'
  obtain ⟨-, hsame, -, -⟩ := authMessage_injective (plain_of_mem_controlNames haccepted.1)
    (plain_of_mem_controlNames haccepted'.1) hid hid' (hissues.plain hssl) (hissues'.plain hssl) hmessage
  exact hnever _ hbefore ⟨reqName', token₂, haccepted', hcarries', hsame.symm⟩

end Server

end OpenMadt
