import OpenMadt.Nonces

/-!
# Control tokens along a run

With a pre-shared key, whatever the clients send and whenever the timer ticks:

* `authorized_of_run` — what is authorized carries a token for a nonce that was issued, is not past
  its end, and was never accepted before.
* `accepted_of_run` — what carries such a token is authorized, whatever happened in between that did
  not know the key.
* `nonces_after_tick` — what the timer leaves in the table.
-/

namespace OpenMadt.Server

open Run

variable {I G : Type} {P : Platform I G} {moves : G → G → Prop}

/-! ### What the events are about -/

/-- The text is a request of this name, with a token in its password. -/
def Carries (P : Platform I G) (requestText : Bytes) (reqName : String) (token : ControlToken) : Prop :=
  ∃ request, P.parse requestText = some request ∧ stringAt request "req" = .ok reqName
    ∧ decodeControlToken P request = .ok (some token)

/-- The text is a control request of this name, and it is authorized. -/
def Authorized (P : Platform I G) (i : Input I) (requestText : Bytes) (reqName : String)
    (w : World G) : Prop :=
  reqName ∈ ["Stop", "Restart", "CaptureScreenshot"] ∧
    ∃ request, P.parse requestText = some request ∧ stringAt request "req" = .ok reqName
      ∧ ((authorizeControlRequest P i request reqName).run w).1 = .ok true

/-- The event issues a nonce. -/
def Issues (P : Platform I G) (config : RuntimeConfig) (nonceId nonce : String) (expiresAt : Time) :
    Event I → Prop
  | .request i _ requestText =>
    decode P requestText = .ok .GetRandom ∧ P.generateRandomToken i.random = some nonce
      ∧ i.uuid = nonceId ∧ expiresAt = i.now + seconds config.controlNonceTtlSeconds
  | _ => False

/-- The event, in the world it meets, authorizes a request with the token for a nonce. -/
def Accepts (P : Platform I G) (nonceId : String) : World G × Event I → Prop
  | (w, .request i _ requestText) => ∃ reqName token, Authorized P i requestText reqName w
    ∧ Carries P requestText reqName token ∧ token.nonceId = nonceId
  | _ => False

/-- The event is a control request with an authentic token for the nonce: whoever sent it knew the
key. -/
def Presents (P : Platform I G) (psk nonceId nonce : String) : Event I → Prop
  | .request _ _ requestText => ∃ reqName token, reqName ∈ ["Stop", "Restart", "CaptureScreenshot"]
    ∧ Carries P requestText reqName token ∧ token.nonceId = nonceId
    ∧ Authentic P psk reqName token nonce
  | _ => False

/-! ### Control requests, decoded -/

theorem req_of_code {reqName name : String} {code : RequestCode}
    (h : convertStringToMadtRequest reqName = code) (hunknown : code ≠ .Unknown)
    (hname : ∀ entry ∈ mapCmd, entry.2 = code → entry.1 = name) : reqName = name := by
  unfold convertStringToMadtRequest at h
  cases hlookup : mapCmd.lookup reqName with
  | none => rw [hlookup] at h; exact absurd h.symm hunknown
  | some code' =>
    rw [hlookup] at h
    obtain rfl : code' = code := h
    obtain ⟨front, back, hsplit, -⟩ := List.lookup_eq_some_iff.mp hlookup
    exact hname (reqName, code') (by rw [hsplit]; simp) rfl

/-- A request with one argument, and one with the arguments of a new tab, is no control request. -/
theorem control?_of_attempt {α : Type} {x : Except Fault α} {k : α → Except Fault Request}
    {request : Request} (h : attempt x k = .ok request)
    (hk : ∀ a request, k a = .ok request → control? request = none) : control? request = none :=
  attempt_rule (Q := fun request => control? request = none) rfl h hk

theorem control?_of_ok {request request' : Request} (h : control? request = none) :
    (Except.ok request : Except Fault Request) = .ok request' → control? request' = none := by
  rintro ⟨⟩
  exact h

theorem control?_decodeNew {json : Json} {k : String → String → ℤ → ℤ → Request} {request : Request}
    (h : decodeNew P json k = .ok request)
    (hk : ∀ url iconUrl pos flags, control? (k url iconUrl pos flags) = none) :
    control? request = none :=
  control?_of_attempt h fun _ _ h => control?_of_attempt h fun _ _ h =>
    control?_of_attempt h fun _ _ h => control?_of_attempt h fun _ _ => control?_of_ok (hk _ _ _ _)

theorem control?_decodeAs {json : Json} {code : RequestCode} {request : Request}
    {password : Option String} {name : String} (h : decodeAs P json code = .ok request)
    (hcontrol : control? request = some (password, name)) :
    (code, name) ∈ [(.Stop, "Stop"), (.Restart, "Restart"), (.CaptureScreenshot, "CaptureScreenshot")]
      ∧ password = stringMember json "password" := by
  have hnot : control? request ≠ none := by simp [hcontrol]
  cases code with
  | Stop => cases h; cases hcontrol; exact ⟨by simp, rfl⟩
  | Restart => cases h; cases hcontrol; exact ⟨by simp, rfl⟩
  | CaptureScreenshot => cases h; cases hcontrol; exact ⟨by simp, rfl⟩
  | NewWebTab => exact absurd (control?_decodeNew h fun _ _ _ _ => rfl) hnot
  | NewShortcut => exact absurd (control?_decodeNew h fun _ _ _ _ => rfl) hnot
  | BlinkTab => exact absurd (control?_of_attempt h fun _ _ => control?_of_ok rfl) hnot
  | ActivateTab => exact absurd (control?_of_attempt h fun _ _ => control?_of_ok rfl) hnot
  | KillTab => exact absurd (control?_of_attempt h fun _ _ => control?_of_ok rfl) hnot
  | KillShortcut => exact absurd (control?_of_attempt h fun _ _ => control?_of_ok rfl) hnot
  | NavigateTo =>
    refine absurd ?_ hnot
    simp only [decodeAs, decodeNavigateTo] at h
    split at h
    · exact control?_of_attempt h fun _ _ h => control?_of_attempt h fun _ _ => control?_of_ok rfl
    · exact control?_of_attempt h fun _ _ h => control?_of_attempt h fun _ _ => control?_of_ok rfl
  | PlaySound =>
    refine absurd (control?_of_ok ?_ h) hnot
    unfold decodePlaySound
    split
    · split <;> rfl
    · rfl
  | IAmAlive =>
    refine absurd (control?_of_ok ?_ h) hnot
    unfold decodeIAmAlive
    split
    · split <;> rfl
    · split <;> rfl
    · rfl
  | SetSettings =>
    refine absurd (control?_of_ok ?_ h) hnot
    split <;> rfl
  | _ => exact absurd (control?_of_ok rfl h) hnot

/-- A text that decodes into a control request says so. -/
theorem control_of_decode {requestText : Bytes} {request : Request} {password : Option String}
    {reqName : String} (hdecode : decode P requestText = .ok request)
    (hcontrol : control? request = some (password, reqName)) :
    reqName ∈ ["Stop", "Restart", "CaptureScreenshot"] ∧
      ∃ json, P.parse requestText = some json ∧ stringAt json "req" = .ok reqName
        ∧ password = stringMember json "password" := by
  rw [decode] at hdecode
  cases hparse : P.parse requestText with
  | none =>
    rw [hparse] at hdecode
    cases hdecode
    cases hcontrol
  | some json =>
    rw [hparse] at hdecode
    rcases attempt_eq_ok hdecode with rfl | ⟨reqName', hreq, hdecode⟩
    · cases hcontrol
    · obtain ⟨hcode, hpassword⟩ := control?_decodeAs hdecode hcontrol
      obtain ⟨hname, hmem⟩ : reqName' = reqName
          ∧ reqName ∈ ["Stop", "Restart", "CaptureScreenshot"] := by
        simp only [List.mem_cons, Prod.mk.injEq, List.not_mem_nil, or_false] at hcode
        rcases hcode with ⟨hcode, rfl⟩ | ⟨hcode, rfl⟩ | ⟨hcode, rfl⟩
        · exact ⟨req_of_code hcode (by decide) (by decide), by simp⟩
        · exact ⟨req_of_code hcode (by decide) (by decide), by simp⟩
        · exact ⟨req_of_code hcode (by decide) (by decide), by simp⟩
      exact ⟨hmem, json, rfl, hname ▸ hreq, hpassword⟩

/-- A text that says that it is a control request decodes into it. -/
theorem decode_control {requestText : Bytes} {json : Json} {reqName : String}
    (hparse : P.parse requestText = some json) (hreq : stringAt json "req" = .ok reqName)
    (hname : reqName ∈ ["Stop", "Restart", "CaptureScreenshot"]) :
    ∃ request, decode P requestText = .ok request
      ∧ control? request = some (stringMember json "password", reqName) := by
  have hdecode : decode P requestText = decodeAs P json (convertStringToMadtRequest reqName) := by
    rw [decode, hparse]
    show attempt (stringAt json "req") _ = _
    rw [hreq]
    rfl
  rw [hdecode]
  simp only [List.mem_cons, List.not_mem_nil, or_false] at hname
  rcases hname with rfl | rfl | rfl <;> exact ⟨_, rfl, rfl⟩

/-! ### Authorization, decoded -/

section Decoded

variable {i : Input I} {requestText : Bytes} {reqName : String} {w : World G}

theorem Authorized.decoded (h : Authorized P i requestText reqName w) :
    ∃ request password, decode P requestText = .ok request
      ∧ control? request = some (password, reqName)
      ∧ (authorize P i password reqName w.server).1 = true := by
  obtain ⟨hname, json, hparse, hreq, haccepts⟩ := h
  obtain ⟨request, hdecode, hcontrol⟩ := decode_control hparse hreq hname
  rw [run_authorizeControlRequest] at haccepts
  exact ⟨request, _, hdecode, hcontrol, by simpa using haccepts⟩

theorem authorized_of_decoded {request : Request} {password : Option String}
    (hdecode : decode P requestText = .ok request) (hcontrol : control? request = some (password, reqName))
    (haccepts : (authorize P i password reqName w.server).1 = true) :
    Authorized P i requestText reqName w := by
  obtain ⟨hname, json, hparse, hreq, rfl⟩ := control_of_decode hdecode hcontrol
  refine ⟨hname, json, hparse, hreq, ?_⟩
  rw [run_authorizeControlRequest, haccepts]

theorem carries_iff {request : Request} {password : Option String}
    (hdecode : decode P requestText = .ok request) (hcontrol : control? request = some (password, reqName))
    {name : String} {token : ControlToken} :
    Carries P requestText name token ↔ name = reqName ∧ password.bind (tokenOf P) = some token := by
  obtain ⟨-, json, hparse, hreq, rfl⟩ := control_of_decode hdecode hcontrol
  constructor
  · rintro ⟨json', hparse', hreq', htoken⟩
    rw [hparse, Option.some.injEq] at hparse'
    subst hparse'
    rw [hreq, Except.ok.injEq] at hreq'
    rw [decodeControlToken_eq, Except.ok.injEq] at htoken
    exact ⟨hreq'.symm, htoken⟩
  · rintro ⟨rfl, htoken⟩
    exact ⟨json, hparse, hreq, by rw [decodeControlToken_eq, htoken]⟩

theorem Accepts.decoded {bev : Conn} {nonceId : String}
    (h : Accepts P nonceId (w, .request i bev requestText)) :
    ∃ request password reqName token, decode P requestText = .ok request
      ∧ control? request = some (password, reqName) ∧ password.bind (tokenOf P) = some token
      ∧ token.nonceId = nonceId ∧ (authorize P i password reqName w.server).1 = true := by
  obtain ⟨reqName, token, hauth, hcarries, hid⟩ := h
  obtain ⟨request, password, hdecode, hcontrol, haccepts⟩ := hauth.decoded
  exact ⟨request, password, reqName, token, hdecode, hcontrol,
    ((carries_iff hdecode hcontrol).mp hcarries).2, hid, haccepts⟩

end Decoded

/-! ### One event -/

section Event

variable {w w' : World G} {e : Event I}

/-- Where an entry of the table comes from: the event issues it, or it was there before.  If it is
unused, then the event has not used it. -/
def Stems (P : Platform I G) (w : World G) (e : Event I) (nonceId : String) (entry : ControlNonce) :
    Prop :=
  Issues P w.server.runtimeConfig nonceId entry.nonce entry.expiresAt e
    ∨ ∃ before, w.server.controlNonces[nonceId]? = some before ∧ entry.nonce = before.nonce
        ∧ entry.expiresAt = before.expiresAt
        ∧ (entry.used = false → before.used = false ∧ ¬ Accepts P nonceId (w, e))

theorem stems_of_same {nonceId : String} {entry : ControlNonce}
    (hfind : w.server.controlNonces[nonceId]? = some entry) (hnot : ¬ Accepts P nonceId (w, e)) :
    Stems P w e nonceId entry := Or.inr ⟨entry, hfind, rfl, rfl, fun hused => ⟨hused, hnot⟩⟩

/-- What a control request needs in order to be authorized with a nonce. -/
theorem Accepts.of_decode {i : Input I} {bev : Conn} {requestText : Bytes} {request : Request}
    {password : Option String} {reqName nonceId : String} (hdecode : decode P requestText = .ok request)
    (hcontrol : control? request = some (password, reqName))
    (haccepts : Accepts P nonceId (w, .request i bev requestText)) :
    ∃ token, password.bind (tokenOf P) = some token ∧ token.nonceId = nonceId
      ∧ (authorize P i password reqName w.server).1 = true := by
  obtain ⟨request', password', reqName', token, hdecode', hcontrol', htoken, hid, hauth⟩ :=
    haccepts.decoded
  rw [hdecode, Except.ok.injEq] at hdecode'
  subst hdecode'
  rw [hcontrol, Option.some.injEq, Prod.mk.injEq] at hcontrol'
  obtain ⟨rfl, rfl⟩ := hcontrol'
  exact ⟨token, htoken, hid, hauth⟩

theorem stems_of_control {i : Input I} {bev : Conn} {requestText : Bytes} {request : Request}
    {password : Option String} {reqName : String} (hpsk : w.server.runtimeConfig.controlPsk ≠ "")
    (hdecode : decode P requestText = .ok request) (hcontrol : control? request = some (password, reqName))
    {nonceId : String} {entry : ControlNonce}
    (hfind : (authorize P i password reqName w.server).2.controlNonces[nonceId]? = some entry) :
    Stems P w (.request i bev requestText) nonceId entry := by
  have hverdict : Accepts P nonceId (w, .request i bev requestText) → _ :=
    Accepts.of_decode hdecode hcontrol
  rw [authorize_of_psk hpsk] at hfind hverdict
  cases htoken : password.bind (tokenOf P) with
  | none =>
    rw [htoken] at hfind hverdict
    refine stems_of_same hfind fun haccepts => ?_
    obtain ⟨token, hnone, -⟩ := hverdict haccepts
    cases hnone
  | some token =>
    rw [htoken] at hfind hverdict
    dsimp only at hfind hverdict
    rcases spendNonce_cases (P := P) (i := i) token reqName w.server with
      ⟨spent, hlive, heq⟩ | heq | ⟨-, heq⟩
    · rw [heq, StdMap.getElem?_insert] at hfind
      by_cases hid : token.nonceId = nonceId
      · subst hid
        rw [if_pos rfl, Option.some.injEq] at hfind
        subst hfind
        exact Or.inr ⟨spent, hlive.1, rfl, rfl, nofun⟩
      · rw [if_neg hid] at hfind
        refine stems_of_same hfind fun haccepts => ?_
        obtain ⟨token', htoken', hid', -⟩ := hverdict haccepts
        cases htoken'
        exact hid hid'
    · rw [heq] at hfind hverdict
      refine stems_of_same hfind fun haccepts => ?_
      obtain ⟨-, -, -, hfalse⟩ := hverdict haccepts
      cases hfalse
    · rw [heq] at hfind hverdict
      rw [StdMap.getElem?_erase] at hfind
      split at hfind
      · cases hfind
      · refine stems_of_same hfind fun haccepts => ?_
        obtain ⟨-, -, -, hfalse⟩ := hverdict haccepts
        cases hfalse

/-- **The table after an event.** -/
theorem Step.stems (h : Step P moves w e w') (hpsk : w.server.runtimeConfig.controlPsk ≠ "")
    {nonceId : String} {entry : ControlNonce}
    (hfind : w'.server.controlNonces[nonceId]? = some entry) : Stems P w e nonceId entry := by
  cases h with
  | close bev =>
    rw [(sameNonces_closeConnection bev).1] at hfind
    exact stems_of_same hfind id
  | tick now =>
    rw [(sameNonces_pruneExpiredTabs now).1, getElem?_pruneNonces] at hfind
    exact stems_of_same (Option.eq_some_of_filter_eq_some hfind) id
  | gui h => exact stems_of_same hfind id
  | @request _ i bev requestText h =>
    obtain ⟨request, hdecode, hrun⟩ := decoded_of_outcome h
    obtain ⟨x, json, heffect, -⟩ := effect_of_run hrun
    have hsame := heffect.sameNonces
    rw [hsame.1] at hfind
    cases hcontrol : control? request with
    | some control =>
      simp only [afterRequest, hcontrol] at hfind
      exact stems_of_control hpsk hdecode hcontrol hfind
    | none =>
      have hnot : ¬ Accepts P nonceId (w, .request i bev requestText) := by
        intro haccepts
        obtain ⟨request', _, _, _, hdecode', hcontrol', -⟩ := haccepts.decoded
        rw [hdecode, Except.ok.injEq] at hdecode'
        rw [← hdecode', hcontrol] at hcontrol'
        cases hcontrol'
      simp only [afterRequest, hcontrol] at hfind
      split at hfind
      next nonce hnonce =>
        rw [if_neg hpsk, issueNonce, StdMap.getElem?_insert] at hfind
        by_cases hid : i.uuid = nonceId
        · rw [if_pos hid, Option.some.injEq] at hfind
          subst hfind
          exact Or.inl ⟨hdecode, hnonce, hid, rfl⟩
        · rw [if_neg hid] at hfind
          exact stems_of_same hfind hnot
      · exact stems_of_same hfind hnot

/-- What is authorized has its nonce in the table. -/
theorem Accepts.live {i : Input I} {bev : Conn} {requestText : Bytes} {nonceId : String}
    (h : Accepts P nonceId (w, .request i bev requestText))
    (hpsk : w.server.runtimeConfig.controlPsk ≠ "") :
    ∃ entry, Live i.now w.server nonceId entry := by
  obtain ⟨request, password, reqName, token, -, -, htoken, rfl, haccepts⟩ := h.decoded
  obtain ⟨token', htoken', entry, hlive, -⟩ := (authorize_accepts_iff hpsk).mp haccepts
  rw [htoken, Option.some.injEq] at htoken'
  exact ⟨entry, htoken' ▸ hlive⟩

end Event

/-! ### Live nonces -/

section Live

variable {w w' : World G} {e : Event I} {now : Time} {nonceId nonce : String} {entry : ControlNonce}

/-- An issued nonce is live. -/
theorem live_of_issues {expiresAt : Time} (hpsk : w.server.runtimeConfig.controlPsk ≠ "")
    (hissues : Issues P w.server.runtimeConfig nonceId nonce expiresAt e) (h : Step P moves w e w')
    (hnow : now ≤ expiresAt) :
    Live now w'.server nonceId { nonce := nonce, expiresAt := expiresAt, used := false } := by
  cases h with
  | @request _ i bev requestText h =>
    obtain ⟨hdecode, hnonce, hid, hends⟩ := hissues
    obtain ⟨request, hdecode', hrun⟩ := decoded_of_outcome h
    rw [hdecode, Except.ok.injEq] at hdecode'
    subst hdecode'
    obtain ⟨x, json, heffect, -⟩ := effect_of_run hrun
    have hsame := heffect.sameNonces
    refine hsame.live ⟨?_, rfl, hnow⟩
    simp [afterRequest, control?, hnonce, hpsk, issueNonce, hid, hends]
  | _ => exact hissues.elim

/-- A live nonce outlives every event before its end that neither uses its id nor is authorized with
it. -/
theorem Live.step (h : Live now w.server nonceId entry) (hends : now < entry.expiresAt)
    (hstep : Step P moves w e w') (hnow : e.NotAfter now) (hfresh : e.uuid? ≠ some nonceId)
    (hnot : ¬ Accepts P nonceId (w, e)) : Live now w'.server nonceId entry := by
  cases hstep with
  | close bev => exact (sameNonces_closeConnection bev).live h
  | tick at' =>
    refine ⟨?_, h.2⟩
    have hkept : at' < entry.expiresAt := Int.lt_of_le_of_lt hnow hends
    rw [(sameNonces_pruneExpiredTabs at').1, getElem?_pruneNonces, h.1, Option.filter_some, h.2.1]
    simp [hkept]
  | gui hmoves => exact h
  | @request _ i bev requestText hout =>
    obtain ⟨request, hdecode, hrun⟩ := decoded_of_outcome hout
    obtain ⟨x, json, heffect, -⟩ := effect_of_run hrun
    have hsame := heffect.sameNonces
    refine hsame.live ?_
    cases hcontrol : control? request with
    | some control =>
      simp only [afterRequest, hcontrol]
      refine h.authorize hnow fun haccepts token htoken hid => hnot ?_
      exact ⟨control.2, token, authorized_of_decoded hdecode hcontrol haccepts,
        (carries_iff hdecode hcontrol).mpr ⟨rfl, htoken⟩, hid⟩
    | none =>
      simp only [afterRequest, hcontrol]
      split
      · split
        · exact h
        · have hid : i.uuid ≠ nonceId := fun hid => hfresh (congrArg some hid)
          exact ⟨by simpa [issueNonce, StdMap.getElem?_insert, hid] using h.1, h.2⟩
      · exact h

/-- A request is authorized with a live nonce if its token is authentic. -/
theorem Live.authorized {i : Input I} (h : Live i.now w.server nonceId entry)
    (hpsk : w.server.runtimeConfig.controlPsk ≠ "") {requestText : Bytes} {reqName : String}
    {token : ControlToken} (hname : reqName ∈ ["Stop", "Restart", "CaptureScreenshot"])
    (hcarries : Carries P requestText reqName token) (hid : token.nonceId = nonceId)
    (hauth : Authentic P w.server.runtimeConfig.controlPsk reqName token entry.nonce) :
    Authorized P i requestText reqName w := by
  obtain ⟨json, hparse, hreq, -⟩ := id hcarries
  obtain ⟨request, hdecode, hcontrol⟩ := decode_control hparse hreq hname
  have htoken := ((carries_iff hdecode hcontrol).mp hcarries).2
  subst hid
  exact authorized_of_decoded hdecode hcontrol
    ((authorize_accepts_iff hpsk).mpr ⟨token, htoken, entry, h, hauth⟩)

/-- Who does not know the key does not get a request authorized with the nonce. -/
theorem not_accepts_of_live {psk : String} (hpsk : psk ≠ "")
    (hconfig : w.server.runtimeConfig.controlPsk = psk)
    (hfind : w.server.controlNonces[nonceId]? = some entry)
    (hnokey : ¬ Presents P psk nonceId entry.nonce e) : ¬ Accepts P nonceId (w, e) := by
  cases e with
  | request i bev requestText =>
    rintro ⟨reqName, token, hauthorized, hcarries, hid⟩
    obtain ⟨request, password, hdecode, hcontrol, haccepts⟩ := hauthorized.decoded
    obtain ⟨token', htoken', entry', hlive, hauth⟩ :=
      (authorize_accepts_iff (by rwa [hconfig])).mp haccepts
    have htoken := ((carries_iff hdecode hcontrol).mp hcarries).2
    rw [htoken, Option.some.injEq] at htoken'
    subst htoken'
    rw [hid, Live, hfind, Option.some.injEq] at hlive
    obtain rfl := hlive.1
    exact hnokey ⟨reqName, token, hauthorized.1, hcarries, hid, hconfig ▸ hauth⟩
  | _ => exact id

/-- The same along a run, as long as no request is authorized with it. -/
theorem Live.run {log : List (World G × Event I)} {psk : String}
    (h : Live now w.server nonceId entry) (hends : now < entry.expiresAt)
    (hconfig : w.server.runtimeConfig.controlPsk = psk)
    (hrun : Steps (Logged (Step P moves)) w log w') (hnow : ∀ logged ∈ log, logged.2.NotAfter now)
    (hfresh : ∀ logged ∈ log, logged.2.uuid? ≠ some nonceId)
    (hnot : ∀ logged ∈ log, Live now logged.1.server nonceId entry →
      logged.1.server.runtimeConfig.controlPsk = psk → ¬ Accepts P nonceId logged) :
    Live now w'.server nonceId entry ∧ w'.server.runtimeConfig.controlPsk = psk := by
  refine hrun.invariant_of
    (fun w => Live now w.server nonceId entry ∧ w.server.runtimeConfig.controlPsk = psk)
    (fun logged => logged ∈ log) ?_ ⟨h, hconfig⟩ fun logged hmem => hmem
  rintro w₁ logged w₂ ⟨hlive, hconfig⟩ hmem ⟨rfl, hstep⟩
  exact ⟨hlive.step hends hstep (hnow logged hmem) (hfresh logged hmem) (hnot logged hmem hlive hconfig),
    by rw [hstep.runtimeConfig, hconfig]⟩

end Live

/-! ### The nonces of a run -/

/-- What holds along a run, with `log` for what happened so far. -/
structure Ledger (P : Platform I G) (config : RuntimeConfig) (log : List (World G × Event I))
    (w : World G) : Prop where
  runtimeConfig : w.server.runtimeConfig = config
  /-- An entry was issued; if it is unused, no request was authorized with it. -/
  issued : ∀ nonceId entry, w.server.controlNonces[nonceId]? = some entry →
    (∃ logged ∈ log, Issues P config nonceId entry.nonce entry.expiresAt logged.2)
      ∧ (entry.used = false → ∀ logged ∈ log, ¬ Accepts P nonceId logged)
  /-- A nonce with which a request was authorized has an id that was used. -/
  accepted : ∀ nonceId, ∀ logged ∈ log, Accepts P nonceId logged →
    nonceId ∈ log.filterMap fun logged => logged.2.uuid?

theorem mem_uuids_of_issues {config : RuntimeConfig} {nonceId nonce : String} {expiresAt : Time}
    {log : List (World G × Event I)} {logged : World G × Event I} (hmem : logged ∈ log)
    (h : Issues P config nonceId nonce expiresAt logged.2) :
    nonceId ∈ log.filterMap fun logged => logged.2.uuid? := by
  refine List.mem_filterMap.mpr ⟨logged, hmem, ?_⟩
  obtain ⟨w, e⟩ := logged
  cases e with
  | request i bev requestText => exact congrArg some h.2.2.1
  | _ => exact h.elim

theorem not_accepts_of_issues {config : RuntimeConfig} {nonceId nonce : String} {expiresAt : Time}
    {w : World G} {e : Event I} (h : Issues P config nonceId nonce expiresAt e) (nonceId' : String) :
    ¬ Accepts P nonceId' (w, e) := by
  cases e with
  | request i bev requestText =>
    intro haccepts
    obtain ⟨request, _, _, _, hdecode, hcontrol, -⟩ := haccepts.decoded
    rw [h.1, Except.ok.injEq] at hdecode
    subst hdecode
    cases hcontrol
  | _ => exact h.elim

/-- One more event, whose id, if it uses one, is new. -/
theorem Ledger.step {config : RuntimeConfig} {log : List (World G × Event I)} {w w' : World G}
    {e : Event I} (h : Ledger P config log w) (hpsk : config.controlPsk ≠ "")
    (hstep : Step P moves w e w')
    (hfresh : ∀ nonceId ∈ log.filterMap fun logged => logged.2.uuid?, e.uuid? ≠ some nonceId) :
    Ledger P config (log ++ [(w, e)]) w' := by
  have hpsk' : w.server.runtimeConfig.controlPsk ≠ "" := by rwa [h.runtimeConfig]
  refine ⟨hstep.runtimeConfig.trans h.runtimeConfig, ?_, ?_⟩
  · intro nonceId entry hfind
    rcases hstep.stems hpsk' hfind with hissues | ⟨before, hbefore, hnonce, hends, hunused⟩
    · rw [h.runtimeConfig] at hissues
      refine ⟨⟨(w, e), by simp, hissues⟩, fun _ logged hmem haccepts => ?_⟩
      rcases List.mem_append.mp hmem with hmem | hmem
      · have huuid := mem_uuids_of_issues (List.mem_singleton_self (w, e)) hissues
        refine hfresh nonceId (h.accepted nonceId logged hmem haccepts) ?_
        simpa using huuid
      · rw [List.mem_singleton.mp hmem] at haccepts
        exact not_accepts_of_issues hissues nonceId haccepts
    · obtain ⟨⟨issue, hissue, hissues⟩, hnever⟩ := h.issued nonceId before hbefore
      rw [hnonce, hends]
      refine ⟨⟨issue, List.mem_append_left _ hissue, hissues⟩, fun hused logged hmem => ?_⟩
      rcases List.mem_append.mp hmem with hmem | hmem
      · exact hnever (hunused hused).1 logged hmem
      · rw [List.mem_singleton.mp hmem]
        exact (hunused hused).2
  · intro nonceId logged hmem haccepts
    rw [List.filterMap_append, List.mem_append]
    left
    rcases List.mem_append.mp hmem with hmem | hmem
    · exact h.accepted nonceId logged hmem haccepts
    · rw [List.mem_singleton.mp hmem] at haccepts
      cases e with
      | request i bev requestText =>
        obtain ⟨entry, hlive⟩ := haccepts.live hpsk'
        obtain ⟨⟨issue, hissue, hissues⟩, -⟩ := h.issued nonceId entry hlive.1
        exact mem_uuids_of_issues hissue hissues
      | _ => exact haccepts.elim

theorem ledger_of_run {softwareVersion timestamp : String} {config : RuntimeConfig} {g : G}
    {log : List (World G × Event I)} {w : World G} (hpsk : config.controlPsk ≠ "")
    (hrun : Steps (Logged (Step P moves)) (World.start softwareVersion timestamp config g) log w)
    (hfresh : (log.filterMap fun logged => logged.2.uuid?).Nodup) : Ledger P config log w := by
  refine hrun.history (fun log w => (log.filterMap fun logged => logged.2.uuid?).Nodup →
    Ledger P config log w) ?_ ?_ hfresh
  · rintro log w₁ ⟨w₀, e⟩ w₂ - hledger ⟨rfl, hstep⟩ hfresh
    rw [List.filterMap_append, List.nodup_append] at hfresh
    obtain ⟨hlog, -, hnew⟩ := hfresh
    refine (hledger hlog).step hpsk hstep fun nonceId hmem huuid => ?_
    exact hnew nonceId hmem nonceId (by simp [huuid]) rfl
  · intro _
    exact ⟨rfl, fun _ _ h => by simp [World.start, Server.start] at h, fun _ _ h => by simp at h⟩

/-- The token of an authorized control request, at its place in the ledger. -/
theorem Ledger.authorized {config : RuntimeConfig} {log : List (World G × Event I)} {w : World G}
    (h : Ledger P config log w) (hpsk : config.controlPsk ≠ "") {i : Input I} {requestText : Bytes}
    {reqName : String} (hauthorized : Authorized P i requestText reqName w) :
    ∃ token nonce expiresAt, Carries P requestText reqName token
      ∧ (∃ logged ∈ log, Issues P config token.nonceId nonce expiresAt logged.2)
      ∧ i.now ≤ expiresAt
      ∧ Authentic P config.controlPsk reqName token nonce
      ∧ ∀ logged ∈ log, ¬ Accepts P token.nonceId logged := by
  obtain ⟨request, password, hdecode, hcontrol, haccepts⟩ := hauthorized.decoded
  rw [authorize_accepts_iff (by rwa [h.runtimeConfig]), h.runtimeConfig] at haccepts
  obtain ⟨token, htoken, entry, ⟨hfind, hused, hnow⟩, hauth⟩ := haccepts
  obtain ⟨hissued, hnever⟩ := h.issued token.nonceId entry hfind
  exact ⟨token, entry.nonce, entry.expiresAt, (carries_iff hdecode hcontrol).mpr ⟨rfl, htoken⟩,
    hissued, hnow, hauth, hnever hused⟩

/-! ### A client with a key -/

/-- A request text of the client, and the event that it is received. -/
def getRandomText : Bytes := utf8 "\x7b\"req\":\"GetRandom\"\x7d"

def getRandomEvent : Event Gui.Outside := .request randomInput 7 getRandomText

/-- The surroundings 20 seconds later. -/
def lateInput : Input Gui.Outside :=
  { sampleInput with now := seconds 20, uuid := "00000000-0000-0000-0000-000000000002" }

/-- The GUI thread makes no moves of its own. -/
def noMoves (_ _ : Gui.GuiState) : Prop := False

def stopToken : ControlToken where
  nonceId := sampleInput.uuid
  timestamp := sampleInput.timestamp
  auth := toHex stopDigest

theorem decode_getRandom : decode keyPlatform getRandomText = .ok .GetRandom := by
  have hparse : keyPlatform.parse getRandomText = some (.obj [("req", .str "GetRandom")]) :=
    parse_keyPlatform (by simp [keyTexts, getRandomText])
  rw [decode, hparse]
  rfl

theorem generateRandomToken_sample :
    keyPlatform.generateRandomToken randomInput.random = some sampleNonce := by
  decide +kernel

theorem issues_getRandom :
    Issues keyPlatform keyWorld.server.runtimeConfig stopToken.nonceId sampleNonce (seconds 30)
      getRandomEvent :=
  ⟨decode_getRandom, generateRandomToken_sample, rfl, by decide⟩

theorem step_getRandom : Step keyPlatform noMoves keyWorld getRandomEvent issuedWorld := by
  refine .request ?_
  rw [processFrame_eq, decode_getRandom, serve, plan, planGetRandom, if_neg (by decide),
    generateRandomToken_sample]
  rfl

theorem carries_stop :
    Carries keyPlatform (controlText "Stop" (passwordOf stopDigest)) "Stop" stopToken := by
  have htoken : (some (passwordOf stopDigest)).bind (tokenOf keyPlatform) = some stopToken := by
    decide +kernel
  exact (carries_iff (decode_stop (parse_keyPlatform (by simp [keyTexts]))) rfl).mpr ⟨rfl, htoken⟩

theorem authentic_stop :
    Authentic keyPlatform keyWorld.server.runtimeConfig.controlPsk "Stop" stopToken sampleNonce :=
  ⟨stopDigest, by decide, rfl, by decide +kernel⟩

/-- **What an authorized request proves.**  In every run of the server with a pre-shared key, with
whatever events in whatever order, whose ids are fresh: a control request that is authorized next
carries a token; its nonce was issued before, by `GetRandom`, and is not past its end; its `auth` is
the hexadecimal HMAC-SHA256 under the key of the request's own name, the nonce id, that nonce and the
token's timestamp; and no request was authorized with this nonce before. -/
theorem authorized_of_run {softwareVersion timestamp : String} {config : RuntimeConfig} {g : G}
    {log : List (World G × Event I)} {w : World G} (hpsk : config.controlPsk ≠ "")
    (hrun : Steps (Logged (Step P moves)) (World.start softwareVersion timestamp config g) log w)
    (hfresh : (log.filterMap fun logged => logged.2.uuid?).Nodup)
    {i : Input I} {requestText : Bytes} {reqName : String}
    (hauthorized : Authorized P i requestText reqName w) :
    ∃ token nonce expiresAt, Carries P requestText reqName token
      ∧ (∃ logged ∈ log, Issues P config token.nonceId nonce expiresAt logged.2)
      ∧ i.now ≤ expiresAt
      ∧ Authentic P config.controlPsk reqName token nonce
      ∧ ∀ logged ∈ log, ¬ Accepts P token.nonceId logged := by
  have hledger := ledger_of_run hpsk hrun hfresh
  exact hledger.authorized hpsk hauthorized

theorem authorized_after_getRandom :
    ∃ token nonce expiresAt,
      Carries keyPlatform (controlText "Stop" (passwordOf stopDigest)) "Stop" token
        ∧ (∃ logged ∈ [(keyWorld, getRandomEvent)], Issues keyPlatform keyWorld.server.runtimeConfig
            token.nonceId nonce expiresAt logged.2)
        ∧ lateInput.now ≤ expiresAt ∧ Authentic keyPlatform "secret" "Stop" token nonce
        ∧ ∀ logged ∈ [(keyWorld, getRandomEvent)], ¬ Accepts keyPlatform token.nonceId logged :=
  authorized_of_run (by decide) (.cons ⟨rfl, step_getRandom⟩ (.nil _)) (by decide)
    ((live_of_issues (by decide) issues_getRandom step_getRandom (by decide)).authorized (by decide)
      (by simp) carries_stop rfl authentic_stop)

/-- **Nobody without the key can spoil a nonce.**  A nonce is issued, in whatever state; then any
events follow, as long as none of them is a request with an authentic token for it, and ids are
fresh.  A control request with an authentic token for the nonce, no earlier than these events and
before the end of the nonce, is authorized then, as it would have been right after the issue. -/
theorem accepted_of_run {w w₁ w₂ : World G} {issue : Event I} {evs : List (Event I)}
    {nonceId nonce : String} {expiresAt : Time} (hpsk : w.server.runtimeConfig.controlPsk ≠ "")
    (hissues : Issues P w.server.runtimeConfig nonceId nonce expiresAt issue)
    (hissue : Step P moves w issue w₁) (hrun : Steps (Step P moves) w₁ evs w₂)
    (hfresh : ∀ e ∈ evs, e.uuid? ≠ some nonceId)
    (hnokey : ∀ e ∈ evs, ¬ Presents P w.server.runtimeConfig.controlPsk nonceId nonce e)
    {i : Input I} {requestText : Bytes} {reqName : String} {token : ControlToken}
    (hnow : ∀ e ∈ evs, e.NotAfter i.now) (hbefore : i.now < expiresAt)
    (hname : reqName ∈ ["Stop", "Restart", "CaptureScreenshot"])
    (hcarries : Carries P requestText reqName token) (hid : token.nonceId = nonceId)
    (hauth : Authentic P w.server.runtimeConfig.controlPsk reqName token nonce) :
    Authorized P i requestText reqName w₂ ∧ Authorized P i requestText reqName w₁ := by
  have hconfig : w₁.server.runtimeConfig.controlPsk = w.server.runtimeConfig.controlPsk := by
    rw [hissue.runtimeConfig]
  have hlive := live_of_issues hpsk hissues hissue (Int.le_of_lt hbefore)
  obtain ⟨log, rfl, hlog⟩ := hrun.logged
  simp only [List.mem_map, forall_exists_index, and_imp, forall_apply_eq_imp_iff₂] at hfresh hnokey hnow
  obtain ⟨hlive₂, hconfig₂⟩ := hlive.run hbefore hconfig hlog hnow hfresh
    fun logged hmem h hpsk' => not_accepts_of_live hpsk hpsk' h.1 (hnokey logged hmem)
  have hauth₁ : Authentic P w₁.server.runtimeConfig.controlPsk reqName token nonce := by
    rw [hconfig]
    exact hauth
  have hauth₂ : Authentic P w₂.server.runtimeConfig.controlPsk reqName token nonce := by
    rw [hconfig₂]
    exact hauth
  exact ⟨hlive₂.authorized (hconfig₂ ▸ hpsk) hname hcarries hid hauth₂,
    hlive.authorized (hconfig ▸ hpsk) hname hcarries hid hauth₁⟩

theorem accepted_after_tick :
    Authorized keyPlatform lateInput (controlText "Stop" (passwordOf stopDigest)) "Stop"
        (pruneExpiredTabs keyPlatform (seconds 10) issuedWorld)
      ∧ Authorized keyPlatform lateInput (controlText "Stop" (passwordOf stopDigest)) "Stop"
        issuedWorld :=
  accepted_of_run (by decide) issues_getRandom step_getRandom
    (.cons (.tick issuedWorld (seconds 10)) (.nil _)) (by simp [Event.uuid?]) (by simp [Presents])
    (by simp [Event.NotAfter, lateInput]; decide) (by decide) (by simp) carries_stop rfl authentic_stop

/-! ### What the timer keeps -/

/-- A nonce that was issued, and with which nothing was authorized, is live until its end. -/
theorem live_of_run {softwareVersion timestamp : String} {config : RuntimeConfig} {g : G}
    {log : List (World G × Event I)} {w : World G} (hpsk : config.controlPsk ≠ "")
    (hrun : Steps (Logged (Step P moves)) (World.start softwareVersion timestamp config g) log w)
    (hfresh : (log.filterMap fun logged => logged.2.uuid?).Nodup) {now : Time}
    (hnow : ∀ logged ∈ log, logged.2.NotAfter now) {nonceId nonce : String} {expiresAt : Time}
    (hends : now < expiresAt) (hissued : ∃ logged ∈ log, Issues P config nonceId nonce expiresAt logged.2)
    (hnever : ∀ logged ∈ log, ¬ Accepts P nonceId logged) :
    Live now w.server nonceId { nonce := nonce, expiresAt := expiresAt, used := false } := by
  obtain ⟨⟨w₀, issue⟩, hmem, hissues⟩ := hissued
  obtain ⟨before, after, rfl⟩ := List.append_of_mem hmem
  obtain ⟨_, w₁, hbefore, ⟨rfl, hstep⟩, hafter⟩ := hrun.split
  rw [List.filterMap_append, List.nodup_append] at hfresh
  obtain ⟨hearlier, hlater, -⟩ := hfresh
  have hconfig := (ledger_of_run hpsk hbefore hearlier).runtimeConfig
  have hissues' : Issues P w₀.server.runtimeConfig nonceId nonce expiresAt issue := by
    rw [hconfig]
    exact hissues
  have hlive := live_of_issues (by rwa [hconfig]) hissues' hstep (Int.le_of_lt hends)
  have hinside : ∀ logged ∈ after, logged ∈ before ++ (w₀, issue) :: after :=
    fun logged hlogged => List.mem_append_right _ (List.mem_cons_of_mem _ hlogged)
  -- the id was used up when the nonce was issued
  have huuid : issue.uuid? = some nonceId := by
    cases issue with
    | request i bev requestText => exact congrArg some hissues.2.2.1
    | _ => exact hissues.elim
  have hnew : ∀ logged ∈ after, logged.2.uuid? ≠ some nonceId := by
    intro logged hlogged hsame
    have hcons : ((w₀, issue) :: after).filterMap (fun logged => logged.2.uuid?)
        = nonceId :: after.filterMap fun logged => logged.2.uuid? :=
      List.filterMap_cons_some huuid
    rw [hcons] at hlater
    exact (List.nodup_cons.mp hlater).1 (List.mem_filterMap.mpr ⟨logged, hlogged, hsame⟩)
  exact (hlive.run hends rfl hafter (fun logged hlogged => hnow logged (hinside logged hlogged)) hnew
    fun logged hlogged _ _ => hnever logged (hinside logged hlogged)).1

/-- **What is in the table after a tick.**  In every run of the server with a pre-shared key, with fresh ids
and no later than the tick: the timer leaves exactly the nonces that were issued, are not at their end, and
with which no request was authorized. -/
theorem nonces_after_tick {softwareVersion timestamp : String} {config : RuntimeConfig} {g : G}
    {log : List (World G × Event I)} {w : World G} (hpsk : config.controlPsk ≠ "")
    (hrun : Steps (Logged (Step P moves)) (World.start softwareVersion timestamp config g) log w)
    (hfresh : (log.filterMap fun logged => logged.2.uuid?).Nodup) {now : Time}
    (hnow : ∀ logged ∈ log, logged.2.NotAfter now) (nonceId : String) (entry : ControlNonce) :
    (pruneExpiredTabs P now w).server.controlNonces[nonceId]? = some entry
      ↔ entry.used = false ∧ now < entry.expiresAt
        ∧ (∃ logged ∈ log, Issues P config nonceId entry.nonce entry.expiresAt logged.2)
        ∧ ∀ logged ∈ log, ¬ Accepts P nonceId logged := by
  rw [(sameNonces_pruneExpiredTabs now).1, getElem?_pruneNonces, Option.filter_eq_some_iff, Bool.and_eq_true,
    Bool.not_eq_true', decide_eq_true_eq]
  constructor
  · intro h
    obtain ⟨hfind, hused, hends⟩ := h
    obtain ⟨hissued, hnever⟩ := (ledger_of_run hpsk hrun hfresh).issued nonceId entry hfind
    exact ⟨hused, hends, hissued, hnever hused⟩
  · intro h
    obtain ⟨hused, hends, hissued, hnever⟩ := h
    have hlive := live_of_run hpsk hrun hfresh hnow hends hissued hnever
    refine ⟨?_, hused, hends⟩
    rw [hlive.1, ← hused]

/-- The nonce of the sample request, until it is used. -/
def outstanding : ControlNonce := { nonce := sampleNonce, expiresAt := seconds 30, used := false }

/-- Ten seconds after it was issued it is there. -/
theorem nonces_after_ten_seconds :
    (pruneExpiredTabs keyPlatform (seconds 10) issuedWorld).server.controlNonces[stopToken.nonceId]?
        = some outstanding
      ↔ outstanding.used = false ∧ seconds 10 < outstanding.expiresAt
        ∧ (∃ logged ∈ [(keyWorld, getRandomEvent)], Issues keyPlatform keyWorld.server.runtimeConfig
            stopToken.nonceId outstanding.nonce outstanding.expiresAt logged.2)
        ∧ ∀ logged ∈ [(keyWorld, getRandomEvent)], ¬ Accepts keyPlatform stopToken.nonceId logged := by
  have hnow : ∀ logged ∈ [(keyWorld, getRandomEvent)], logged.2.NotAfter (seconds 10) := by
    refine List.forall_mem_singleton.mpr ?_
    show randomInput.now ≤ seconds 10
    decide
  exact nonces_after_tick (by decide) (.cons ⟨rfl, step_getRandom⟩ (.nil _)) (by decide) hnow
    stopToken.nonceId outstanding

end OpenMadt.Server
