import OpenMadt.Effects

/-!
# Control nonces

The one-time authorizations of the mode with a pre-shared key: a nonce is issued by `GetRandom`,
presented in the token of a control request, and removed by the lease timer.

* `spendNonce_accepts_iff` — a token is accepted exactly if it is authentic for a live nonce.
* `Live.authorize` — a check that fails, or concerns another nonce, leaves a live nonce live.
* `Effect.sameNonces` — what a request of any kind does to the table.
* `refusalKeepsNonces_iff` — which refused requests leave all live nonces live.
-/

namespace OpenMadt.Server

open Run

variable {I G : Type} {P : Platform I G} {i : Input I}

/-! ### Checking a token -/

/-- The nonce is in the table, unused and not past its end. -/
def Live (now : Time) (s : Server) (nonceId : String) (entry : ControlNonce) : Prop :=
  s.controlNonces[nonceId]? = some entry ∧ entry.used = false ∧ now ≤ entry.expiresAt

/-- The token carries the hexadecimal HMAC-SHA256, under the key, of the request's name, its own
nonce id, the nonce and its own timestamp. -/
def Authentic (P : Platform I G) (psk reqName : String) (token : ControlToken) (nonce : String) :
    Prop :=
  ∃ digest, digest ≠ [] ∧ token.auth = toHex digest
    ∧ P.hmacSha256 (utf8 psk) (utf8 (authMessage reqName token.nonceId nonce token.timestamp))
      = some digest

theorem toHex_eq_empty_iff {data : Bytes} : toHex data = "" ↔ data = [] := by
  cases data with
  | nil => exact ⟨fun _ => rfl, fun _ => rfl⟩
  | cons b data =>
    constructor
    · intro h
      have hchars := congrArg String.toList h
      rw [toHex, String.toList_ofList, List.flatMap_cons] at hchars
      cases hchars
    · nofun

theorem computeHmacSha256_iff {psk reqName nonce : String} {token : ControlToken} :
    (P.computeHmacSha256 psk (authMessage reqName token.nonceId nonce token.timestamp) ≠ ""
        ∧ P.computeHmacSha256 psk (authMessage reqName token.nonceId nonce token.timestamp)
          = token.auth)
      ↔ Authentic P psk reqName token nonce := by
  unfold Platform.computeHmacSha256 Authentic
  cases P.hmacSha256 (utf8 psk) (utf8 (authMessage reqName token.nonceId nonce token.timestamp)) with
  | none => simp
  | some digest =>
    simp only [ne_eq, toHex_eq_empty_iff, Option.some.injEq]
    constructor
    · exact fun h => ⟨digest, h.1, h.2.symm, rfl⟩
    · rintro ⟨_, hne, hauth, rfl⟩
      exact ⟨hne, hauth.symm⟩

/-- **A token is accepted exactly if it is authentic for a live nonce.** -/
theorem spendNonce_accepts_iff {token : ControlToken} {reqName : String} {s : Server} :
    (spendNonce P i token reqName s).1 = true
      ↔ ∃ entry, Live i.now s token.nonceId entry
          ∧ Authentic P s.runtimeConfig.controlPsk reqName token entry.nonce := by
  unfold spendNonce Live
  cases hfind : s.controlNonces[token.nonceId]? with
  | none => simp
  | some entry =>
    simp only [Option.some.injEq, exists_eq_left', and_assoc, ← computeHmacSha256_iff]
    split
    next hdead =>
      simp only [Bool.or_eq_true, decide_eq_true_eq] at hdead
      simp only [Bool.false_eq_true, false_iff, not_and]
      rcases hdead with hused | hexpired
      · simp [hused]
      · exact fun _ hle => absurd hexpired (Int.not_lt.mpr hle)
    next hlive =>
      simp only [Bool.or_eq_true, decide_eq_true_eq, not_or, Bool.not_eq_true] at hlive
      simp only [Bool.or_eq_true, Bool.not_eq_true', decide_eq_true_eq]
      split
      next hwrong =>
        simp only [Bool.false_eq_true, false_iff, not_and]
        intro _ _ hne heq
        rcases hwrong with hempty | hdiffers
        · exact hne hempty
        · rw [secureEquals_iff.mpr heq] at hdiffers
          cases hdiffers
      next hright =>
        simp only [not_or, Bool.not_eq_false] at hright
        simp only [true_iff]
        exact ⟨hlive.1, Int.not_lt.mp hlive.2, hright.1, secureEquals_iff.mp hright.2⟩

/-- What a check leaves behind. -/
theorem spendNonce_cases (token : ControlToken) (reqName : String) (s : Server) :
    (∃ entry, Live i.now s token.nonceId entry
        ∧ spendNonce P i token reqName s = (true, { s with
            controlNonces := s.controlNonces.insert token.nonceId { entry with used := true } }))
      ∨ spendNonce P i token reqName s = (false, s)
      ∨ (∀ entry, ¬ Live i.now s token.nonceId entry)
        ∧ spendNonce P i token reqName s
          = (false, { s with controlNonces := s.controlNonces.erase token.nonceId }) := by
  unfold spendNonce Live
  cases hfind : s.controlNonces[token.nonceId]? with
  | none => exact Or.inr (Or.inr ⟨by simp, rfl⟩)
  | some entry =>
    dsimp only
    split
    next hdead =>
      refine Or.inr (Or.inr ⟨?_, rfl⟩)
      rintro _ ⟨⟨⟩, hused, hle⟩
      simp only [Bool.or_eq_true, decide_eq_true_eq] at hdead
      rcases hdead with hdead | hdead
      · rw [hused] at hdead
        cases hdead
      · exact Int.not_lt.mpr hle hdead
    next hlive =>
      simp only [Bool.or_eq_true, decide_eq_true_eq, not_or, Bool.not_eq_true] at hlive
      split
      · exact Or.inr (Or.inl rfl)
      · exact Or.inl ⟨entry, ⟨rfl, hlive.1, Int.not_lt.mp hlive.2⟩, rfl⟩

/-- A check that fails, or concerns another nonce, leaves a live nonce live. -/
theorem Live.spendNonce {now : Time} {s : Server} {nonceId : String} {entry : ControlNonce}
    (h : Live now s nonceId entry) (hnow : i.now ≤ now) {token : ControlToken} {reqName : String}
    (hother : (spendNonce P i token reqName s).1 = true → token.nonceId ≠ nonceId) :
    Live now (spendNonce P i token reqName s).2 nonceId entry := by
  rcases spendNonce_cases (P := P) (i := i) token reqName s with
    ⟨used, _, heq⟩ | heq | ⟨hdead, heq⟩
  · rw [heq] at hother ⊢
    exact ⟨by simpa [StdMap.getElem?_insert, hother rfl] using h.1, h.2⟩
  · rw [heq]
    exact h
  · rw [heq]
    have hne : token.nonceId ≠ nonceId := by
      rintro rfl
      exact hdead entry ⟨h.1, h.2.1, Int.le_trans hnow h.2.2⟩
    exact ⟨by simpa [StdMap.getElem?_erase, hne] using h.1, h.2⟩

/-! ### Authorization -/

section Authorize

variable {s : Server} {password : Option String} {reqName : String}

theorem authorize_of_psk (hpsk : s.runtimeConfig.controlPsk ≠ "") :
    authorize P i password reqName s = match password.bind (tokenOf P) with
      | none => (false, s)
      | some token => spendNonce P i token reqName s := by
  unfold authorize
  exact if_neg hpsk

/-- With a key, a request is authorized exactly if its password is a token that is authentic for a
live nonce. -/
theorem authorize_accepts_iff (hpsk : s.runtimeConfig.controlPsk ≠ "") :
    (authorize P i password reqName s).1 = true
      ↔ ∃ token, password.bind (tokenOf P) = some token ∧ ∃ entry, Live i.now s token.nonceId entry
          ∧ Authentic P s.runtimeConfig.controlPsk reqName token entry.nonce := by
  rw [authorize_of_psk hpsk]
  cases password.bind (tokenOf P) with
  | none => simp
  | some token => simp [spendNonce_accepts_iff]

/-- A request that is not authorized, or with the token for another nonce, leaves a live nonce
live. -/
theorem Live.authorize {now : Time} {nonceId : String} {entry : ControlNonce}
    (h : Live now s nonceId entry) (hnow : i.now ≤ now)
    (hother : (authorize P i password reqName s).1 = true →
      ∀ token, password.bind (tokenOf P) = some token → token.nonceId ≠ nonceId) :
    Live now (authorize P i password reqName s).2 nonceId entry := by
  unfold Server.authorize at hother ⊢
  split
  · exact h
  next hpsk =>
    rw [if_neg hpsk] at hother
    cases htoken : password.bind (tokenOf P) with
    | none => exact h
    | some token =>
      rw [htoken] at hother
      exact h.spendNonce hnow fun haccepts => hother haccepts token rfl

end Authorize

/-! ### The table after an event -/

/-- The same nonces, under the same configuration. -/
def SameNonces (s s' : Server) : Prop :=
  s'.controlNonces = s.controlNonces ∧ s'.runtimeConfig = s.runtimeConfig

theorem SameNonces.live {s s' : Server} (h : SameNonces s s') {now : Time} {nonceId : String}
    {entry : ControlNonce} (hlive : Live now s nonceId entry) : Live now s' nonceId entry := by
  unfold Live
  rw [h.1]
  exact hlive

theorem sameNonces_of_rest {s s' : Server} (h : s'.rest = s.rest) : SameNonces s s' :=
  ⟨congrArg (fun rest => rest.2.2.2) h, congrArg Prod.fst h⟩

/-- **What a request does to the nonces.** -/
theorem Effect.sameNonces {bev : Conn} {s s' : Server} {request : Request} {x : Exchange} {json : Json}
    (h : Effect P i bev s request x s' json) : SameNonces (afterRequest P i s request) s' := by
  cases h with
  | issue hpsk hnonce _ =>
    simp only [afterRequest, control?, hnonce, hpsk, if_false]
    exact ⟨rfl, rfl⟩
  | exit hcontrol _ =>
    rw [afterRequest_control hcontrol]
    exact ⟨rfl, rfl⟩
  | newTab _ =>
    have hremember := sameNonces_of_rest (rest_rememberOwnedTab bev i.uuid s)
    split
    · exact ⟨hremember.1, hremember.2⟩
    · exact hremember
  | killTab hrequest _ => rcases hrequest with rfl | rfl <;> exact sameNonces_of_rest (rest_forgetOwnedTab _ s)
  | killShortcut hrequest _ => rcases hrequest with rfl | rfl <;> exact ⟨rfl, rfl⟩
  | _ => exact ⟨rfl, rfl⟩

/-! ### Closed connections and ticks -/

section Ticks

variable {w : World G}

theorem sameNonces_closeConnection (bev : Conn) :
    SameNonces w.server (closeConnection P bev w).server :=
  sameNonces_of_rest (rest_closeConnection P bev w)

theorem getElem?_foldl_erase (dead : String × ControlNonce → Bool)
    (entries : List (String × ControlNonce)) (nonceId : String) :
    ∀ kept : StdMap String ControlNonce,
      (entries.foldl (fun kept entry => if dead entry then kept.erase entry.1 else kept) kept)[nonceId]?
        = if ∃ entry ∈ entries, dead entry = true ∧ entry.1 = nonceId then none
          else kept[nonceId]? := by
  induction entries with
  | nil => simp
  | cons entry entries ih =>
    intro kept
    rw [List.foldl_cons, ih]
    by_cases hrest : ∃ entry ∈ entries, dead entry = true ∧ entry.1 = nonceId
    · rw [if_pos hrest, if_pos]
      obtain ⟨e, hmem, he⟩ := hrest
      exact ⟨e, List.mem_cons_of_mem _ hmem, he⟩
    · rw [if_neg hrest]
      by_cases hdead : dead entry = true
      · by_cases hid : entry.1 = nonceId
        · rw [if_pos hdead, if_pos ⟨entry, List.mem_cons_self, hdead, hid⟩, hid]
          simp
        · rw [if_pos hdead, if_neg]
          · simp [StdMap.getElem?_erase, hid]
          · rintro ⟨e, hmem, he⟩
            rcases List.mem_cons.mp hmem with rfl | hmem
            · exact hid he.2
            · exact hrest ⟨e, hmem, he⟩
      · rw [if_neg hdead, if_neg]
        rintro ⟨e, hmem, he⟩
        rcases List.mem_cons.mp hmem with rfl | hmem
        · exact hdead he.1
        · exact hrest ⟨e, hmem, he⟩

/-- The timer keeps exactly the unused nonces that have not reached their end. -/
theorem getElem?_pruneNonces (now : Time) (nonces : StdMap String ControlNonce) (nonceId : String) :
    (pruneNonces now nonces)[nonceId]?
      = nonces[nonceId]?.filter fun entry => !entry.used && decide (now < entry.expiresAt) := by
  have hmem : ∀ entry, entry ∈ nonces.toList ↔ nonces[entry.1]? = some entry.2 :=
    fun entry => Std.ExtTreeMap.mem_toList_iff_getElem?_eq_some
  rw [pruneNonces, getElem?_foldl_erase
    (fun entry => entry.2.used || decide (entry.2.expiresAt ≤ now))]
  cases hfind : nonces[nonceId]? with
  | none =>
    rw [if_neg]
    · rfl
    · rintro ⟨entry, hentry, -, rfl⟩
      rw [hmem, hfind] at hentry
      cases hentry
  | some entry =>
    by_cases hdead : entry.used = true ∨ entry.expiresAt ≤ now
    · rw [if_pos ⟨(nonceId, entry), (hmem _).mpr hfind, by simpa using hdead, rfl⟩]
      rcases hdead with hused | hexpired
      · simp [Option.filter_some, hused]
      · simp [Option.filter_some, Int.not_lt.mpr hexpired]
    · rw [if_neg]
      · rw [not_or, Bool.not_eq_true] at hdead
        simp [Option.filter_some, hdead.1, Int.not_le.mp hdead.2]
      · rintro ⟨⟨id, entry'⟩, hentry, hdead', rfl⟩
        rw [hmem, hfind] at hentry
        cases hentry
        exact hdead (by simpa using hdead')

theorem sameNonces_pruneExpiredTabs (now : Time) :
    (pruneExpiredTabs P now w).server.controlNonces = pruneNonces now w.server.controlNonces
      ∧ (pruneExpiredTabs P now w).server.runtimeConfig = w.server.runtimeConfig :=
  sameNonces_of_rest (rest_pruneExpiredTabs P now w)

end Ticks

/-! ### Refused requests -/

/-- If the text is answered with `MTSRC_BAD_REQUEST`, then every nonce that was live is live after
it. -/
def RefusalKeepsNonces (P : Platform I G) (i : Input I) (bev : Conn) (requestText : Bytes)
    (w : World G) : Prop :=
  ∀ w' json, outcome (processFrame P i bev requestText) w = .ok w' →
    w'.sent = w.sent ++ [(bev, json)] →
    json.find? "retCode" = some ReturnCode.MTSRC_BAD_REQUEST.toJson →
    ∀ nonceId, (∃ entry, Live i.now w.server nonceId entry) →
      ∃ entry, Live i.now w'.server nonceId entry

/-- The text captures a screenshot without a file name, and carries a token that is authentic for a
live nonce. -/
def SpendsForNothing (P : Platform I G) (i : Input I) (requestText : Bytes) (s : Server) : Prop :=
  s.runtimeConfig.controlPsk ≠ "" ∧ ∃ password token entry,
    decode P requestText = .ok (.CaptureScreenshot password none)
      ∧ password.bind (tokenOf P) = some token
      ∧ Live i.now s token.nonceId entry
      ∧ Authentic P s.runtimeConfig.controlPsk "CaptureScreenshot" token entry.nonce

theorem retCode_response {code : ReturnCode} {members : List (String × Json)}
    (h : (response code members).find? "retCode" = some ReturnCode.MTSRC_BAD_REQUEST.toJson) :
    code = .MTSRC_BAD_REQUEST := by
  rw [response, Json.find?_obj, List.lookup_cons_self, Option.some.injEq] at h
  cases code with
  | MTSRC_BAD_REQUEST => rfl
  | _ => cases h

/-- A spent nonce is not live. -/
theorem not_live_of_accepted {token : ControlToken} {reqName : String} {s : Server} {now : Time}
    (h : (spendNonce P i token reqName s).1 = true) (entry : ControlNonce) :
    ¬ Live now (spendNonce P i token reqName s).2 token.nonceId entry := by
  rcases spendNonce_cases (P := P) (i := i) token reqName s with
    ⟨entry₀, _, heq⟩ | heq | ⟨_, heq⟩
  · rw [heq]
    rintro ⟨hfind, hused, -⟩
    rw [Std.ExtTreeMap.getElem?_insert_self, Option.some.injEq] at hfind
    rw [← hfind] at hused
    cases hused
  · rw [heq] at h
    cases h
  · rw [heq] at h
    cases h

/-- The payload of a screenshot has the members that are read from it. -/
theorem screenshot_of_port (P : Platform I G) {o : Gui.Outside} {fileName : String}
    {g g' : Gui.GuiState} {gResp : Gui.CmdResponse}
    (h : g.call o (.CaptureScreenshot fileName) = some (some gResp, g')) (hok : gResp.result = .OK) :
    ∃ members, fromPayload (screenshot P gResp.payload) = response .MTSRC_OK members := by
  simp only [Gui.GuiState.call, Gui.GuiState.invoke] at h
  split at h
  · cases h
  · split at h
    · cases h
    next g₁ _ =>
      cases h
      revert hok
      unfold Gui.GuiState.captureScreenshot
      cases g₁.browser with
      | none => nofun
      | some b =>
        dsimp only
        split
        · exact fun _ => ⟨_, rfl⟩
        · nofun

/-- A request other than a control request costs no live nonce when it is refused. -/
theorem Effect.live {bev : Conn} {s s' : Server} {request : Request} {x : Exchange} {json : Json}
    (h : Effect P i bev s request x s' json) (hother : control? request = none)
    (hcode : json.find? "retCode" = some ReturnCode.MTSRC_BAD_REQUEST.toJson) {now : Time}
    {nonceId : String} {entry : ControlNonce} (hlive : Live now s nonceId entry) :
    Live now s' nonceId entry := by
  by_cases hrandom : request = .GetRandom
  · subst hrandom
    cases h with
    | answer hafter =>
      rw [hafter rfl]
      exact hlive
    | issue _ _ hissued =>
      rw [hissued] at hcode
      cases hcode
    | exit hcontrol _ => cases hcontrol
    | failure _ hfailed => exact absurd (retCode_response hcode) hfailed.2.2
    | query hnot _ _ => exact absurd rfl hnot
    | killTab hrequest _ => rcases hrequest with hrequest | hrequest <;> cases hrequest
    | killShortcut hrequest _ => rcases hrequest with hrequest | hrequest <;> cases hrequest
  · have hafter : afterRequest P i s request = s := by
      unfold afterRequest
      rw [hother]
      cases request <;> first | rfl | exact absurd rfl hrandom
    have hsame := h.sameNonces
    rw [hafter] at hsame
    exact hsame.live hlive

theorem live_of_refused_exit {bev : Conn} {w w' : World G} {json : Json} {password : Option String}
    {reqName : String} {exitCode : ℤ}
    (hrun : (planExit P i password reqName exitCode w.server).run P i bev w = some w')
    (hsent : w'.sent = w.sent ++ [(bev, json)])
    (hcode : json.find? "retCode" = some ReturnCode.MTSRC_BAD_REQUEST.toJson) {nonceId : String}
    {entry : ControlNonce} (hlive : Live i.now w.server nonceId entry) :
    Live i.now w'.server nonceId entry := by
  rw [planExit] at hrun
  split at hrun
  · cases hrun
    obtain rfl : response .MTSRC_OK = json := by simpa [World.reply] using hsent
    cases retCode_response hcode
  next hrejected =>
    cases hrun
    exact hlive.authorize (le_refl i.now) fun haccepts => absurd haccepts hrejected

/-- A question that ends in a refusal has succeeded: only what is made of the answer is refused. -/
theorem ok_of_refused {bev : Conn} {w w' : World G} {json : Json} {s : Server} {c : Gui.Call}
    {k : Gui.CmdResponse → Server × Json} (hrun : (askFor s c k).run P i bev w = some w')
    (hsent : w'.sent = w.sent ++ [(bev, json)])
    (hcode : json.find? "retCode" = some ReturnCode.MTSRC_BAD_REQUEST.toJson) :
    ∃ gResp, gResp.result = .OK ∧ P.gui.call i.gui c w.gui = some (some gResp, w'.gui)
      ∧ json = (k gResp).2 := by
  have hensures : (askFor s c k).Ensures fun x _ json' => json' = json →
      ∃ gResp, gResp.result = .OK ∧ x = .ask c (some gResp) ∧ json = (k gResp).2 := by
    refine ensures_askFor (fun hfailed heq => ?_) (fun hok heq => ⟨_, hok, rfl, heq.symm⟩)
    rw [← heq] at hcode
    exact absurd (retCode_response hcode) hfailed.2.2
  obtain ⟨x, json', hx, hleads, hsent'⟩ := hensures.run hrun
  obtain rfl : json' = json := by simpa [hsent'] using hsent
  obtain ⟨gResp, hok, rfl, hjson⟩ := hx rfl
  exact ⟨gResp, hok, hleads, hjson⟩

theorem live_of_refused_screenshot {P : Platform Gui.Outside Gui.GuiState}
    (hgui : P.gui = Gui.GuiState.port) {i : Input Gui.Outside} {bev : Conn}
    {w w' : World Gui.GuiState} {json : Json} {password fileName : Option String}
    (hrun : (planCaptureScreenshot P i password fileName w.server).run P i bev w = some w')
    (hsent : w'.sent = w.sent ++ [(bev, json)])
    (hcode : json.find? "retCode" = some ReturnCode.MTSRC_BAD_REQUEST.toJson)
    (hrejects : fileName = none → w.server.runtimeConfig.controlPsk ≠ "" →
      (authorize P i password "CaptureScreenshot" w.server).1 = false)
    {nonceId : String} {entry : ControlNonce} (hlive : Live i.now w.server nonceId entry) :
    Live i.now w'.server nonceId entry := by
  simp only [planCaptureScreenshot] at hrun
  split at hrun
  next haccepts =>
    cases fileName with
    | none =>
      cases hrun
      by_cases hpsk : w.server.runtimeConfig.controlPsk = ""
      · simpa [World.reply, authorize, hpsk] using hlive
      · rw [hrejects rfl hpsk] at haccepts
        cases haccepts
    | some fileName =>
      -- the question is asked, and its answer is no refusal
      obtain ⟨gResp, hok, hcall, hjson⟩ := ok_of_refused hrun hsent hcode
      rw [hgui] at hcall
      obtain ⟨members, hresponse⟩ := screenshot_of_port P hcall hok
      rw [hjson, hresponse] at hcode
      cases retCode_response hcode
  next hrejected =>
    cases hrun
    exact hlive.authorize (le_refl i.now) fun haccepts => absurd haccepts hrejected

theorem not_refusalKeepsNonces {bev : Conn} {requestText : Bytes} {w : World G}
    (h : SpendsForNothing P i requestText w.server) :
    ¬ RefusalKeepsNonces P i bev requestText w := by
  obtain ⟨hpsk, password, token, entry, hdecode, htoken, hlive, hauth⟩ := h
  intro hkeeps
  have haccepts := (authorize_accepts_iff hpsk).mpr ⟨token, htoken, entry, hlive, hauth⟩
  have hout : outcome (processFrame P i bev requestText) w
      = .ok ({ w with server := (authorize P i password "CaptureScreenshot" w.server).2 }.reply bev
          (response .MTSRC_BAD_REQUEST)) := by
    rw [processFrame_eq, hdecode, serve, plan, planCaptureScreenshot]
    simp only [haccepts, if_true]
    rfl
  obtain ⟨entry', hlive'⟩ := hkeeps _ _ hout rfl rfl token.nonceId ⟨entry, hlive⟩
  simp only [World.reply, authorize_of_psk hpsk, htoken] at hlive' haccepts
  exact not_live_of_accepted haccepts entry' hlive'

/-- **Which refused requests cost a nonce.**  For every state and text: a request that is answered
with `MTSRC_BAD_REQUEST` leaves all live nonces live, unless it captures a screenshot without a file
name but with a token that would be accepted. -/
theorem refusalKeepsNonces_iff {P : Platform Gui.Outside Gui.GuiState}
    (hgui : P.gui = Gui.GuiState.port) (i : Input Gui.Outside) (bev : Conn) (requestText : Bytes)
    (w : World Gui.GuiState) :
    RefusalKeepsNonces P i bev requestText w ↔ ¬ SpendsForNothing P i requestText w.server := by
  constructor
  · exact fun hkeeps hspends => not_refusalKeepsNonces hspends hkeeps
  · rintro hnot w' json hout hsent hcode nonceId ⟨entry, hlive⟩
    refine ⟨entry, ?_⟩
    obtain ⟨request, hdecode, hrun⟩ := decoded_of_outcome hout
    cases hcontrol : control? request with
    | none =>
      obtain ⟨x, json', heffect, -, hsent'⟩ := effect_of_run hrun
      obtain rfl : json' = json := by simpa [hsent'] using hsent
      exact heffect.live hcontrol hcode hlive
    | some control =>
      cases request with
      | Stop password => exact live_of_refused_exit hrun hsent hcode hlive
      | Restart password => exact live_of_refused_exit hrun hsent hcode hlive
      | CaptureScreenshot password fileName =>
        refine live_of_refused_screenshot hgui hrun hsent hcode ?_ hlive
        rintro rfl hpsk
        rw [← Bool.not_eq_true, authorize_accepts_iff hpsk]
        rintro ⟨token, htoken, used, hused, hauth⟩
        exact hnot ⟨hpsk, password, token, used, hdecode, htoken, hused, hauth⟩
      | _ => cases hcontrol

/-! ### A request with a key -/

/-- The HMAC-SHA256 that the key `secret` gives the control requests below. -/
def stopDigest : Bytes :=
  [0x47, 0x87, 0x61, 0x4b, 0xb9, 0x7a, 0xed, 0x43, 0x3e, 0x3d, 0x86, 0x15, 0x88, 0x93, 0x34, 0xb8,
    0xdd, 0xf9, 0x1d, 0x0d, 0x59, 0x57, 0xe4, 0x59, 0x87, 0x7b, 0xd0, 0x68, 0x82, 0x88, 0xa4, 0xee]

def screenshotDigest : Bytes :=
  [0x6d, 0xcf, 0xc9, 0x22, 0x2a, 0x08, 0xee, 0xe9, 0x1d, 0x6b, 0x30, 0x52, 0x10, 0xbc, 0x83, 0x40,
    0x33, 0xee, 0x31, 0xa6, 0xe0, 0x63, 0x93, 0x0e, 0x13, 0x59, 0x55, 0xf0, 0x58, 0x5c, 0x7c, 0xf8]

/-- The first `GetRandom`, with 32 zero bytes from `RAND_bytes`. -/
def randomInput : Input Gui.Outside := { sampleInput with random := some (List.replicate 32 0) }

/-- The nonce it issues. -/
def sampleNonce : String := "AAAAAAAAAAAAAAAAAAAAAAAAAAAAAAAAAAAAAAAAAAA="

/-- A token as JSON text, and as the value of the text. -/
def tokenText (auth : String) : Bytes :=
  utf8 ("\x7b\"auth\":\"" ++ auth ++ "\",\"nonceId\":\"" ++ sampleInput.uuid
    ++ "\",\"timestamp\":\"" ++ sampleInput.timestamp ++ "\",\"v\":1\x7d")

/-- The text that a script makes of it. -/
def scriptText (auth : String) : Bytes :=
  utf8 ("\x7b\"v\":1,\"nonceId\":\"" ++ sampleInput.uuid ++ "\",\"timestamp\":\""
    ++ sampleInput.timestamp ++ "\",\"auth\":\"" ++ auth ++ "\"\x7d")

def tokenValue (auth : String) : Json :=
  .obj [("auth", .str auth), ("nonceId", .str sampleInput.uuid),
    ("timestamp", .str sampleInput.timestamp), ("v", .int 1)]

/-- A control request with a password, as text and as value. -/
def controlText (reqName password : String) : Bytes :=
  utf8 ("\x7b\"req\":\"" ++ reqName ++ "\",\"password\":\"" ++ password ++ "\"\x7d")

def controlValue (reqName password : String) : Json :=
  .obj [("req", .str reqName), ("password", .str password)]

/-- The password that holds the token with a digest. -/
def passwordOf (digest : Bytes) : String := text (Base64.encode (tokenText (toHex digest)))

/-- The texts of a client that knows the key, and what they stand for. -/
def keyTexts : List (Bytes × Json) :=
  [(utf8 "\x7b\"req\":\"GetRandom\"\x7d", .obj [("req", .str "GetRandom")]),
    (controlText "Stop" (passwordOf stopDigest), controlValue "Stop" (passwordOf stopDigest)),
    (controlText "CaptureScreenshot" (passwordOf screenshotDigest),
      controlValue "CaptureScreenshot" (passwordOf screenshotDigest)),
    (tokenText (toHex stopDigest), tokenValue (toHex stopDigest)),
    (scriptText (toHex stopDigest), tokenValue (toHex stopDigest)),
    (tokenText (toHex screenshotDigest), tokenValue (toHex screenshotDigest))]

def keyPlatform : Platform Gui.Outside Gui.GuiState :=
  .sample keyTexts
    [((utf8 "secret", utf8 (authMessage "Stop" sampleInput.uuid sampleNonce sampleInput.timestamp)),
        stopDigest),
      ((utf8 "secret",
          utf8 (authMessage "CaptureScreenshot" sampleInput.uuid sampleNonce sampleInput.timestamp)),
        screenshotDigest)]
    (tokenText (toHex stopDigest))

theorem parse_keyPlatform {requestText : Bytes} {json : Json} (h : (requestText, json) ∈ keyTexts) :
    keyPlatform.parse requestText = some json := parse_sample (by decide +kernel) h

/-- The server with a key, and after the first `GetRandom`. -/
def keyWorld : World Gui.GuiState :=
  .start "1" "2024-01-01T00:00:00Z" { controlPsk := "secret" } (.start {})

def issuedWorld : World Gui.GuiState :=
  { keyWorld with server := issueNonce randomInput sampleNonce keyWorld.server }.reply 7
    (response .MTSRC_OK
      [("nonceId", .str sampleInput.uuid), ("nonce", .str sampleNonce), ("ttl", .int 30),
        ("algo", .str "HMAC-SHA256")])

theorem decode_screenshot {requestText : Bytes} {password : String}
    (h : P.parse requestText = some (controlValue "CaptureScreenshot" password)) :
    decode P requestText = .ok (.CaptureScreenshot (some password) none) := by
  rw [decode, h]
  rfl

theorem decode_stop {requestText : Bytes} {password : String}
    (h : P.parse requestText = some (controlValue "Stop" password)) :
    decode P requestText = .ok (.Stop (some password)) := by
  rw [decode, h]
  rfl

theorem refusalKeepsNonces_stop :
    RefusalKeepsNonces keyPlatform sampleInput 7 (controlText "Stop" (passwordOf stopDigest))
      issuedWorld := by
  refine (refusalKeepsNonces_iff rfl sampleInput 7 _ issuedWorld).mpr ?_
  rintro ⟨-, password, token, entry, hdecode, -⟩
  have hstop : decode keyPlatform (controlText "Stop" (passwordOf stopDigest))
      = .ok (.Stop (some (passwordOf stopDigest))) :=
    decode_stop (parse_keyPlatform (by simp [keyTexts]))
  rw [hstop] at hdecode
  cases hdecode

/-- The token for a screenshot is spent although no file name was given. -/
theorem screenshot_spends_token :
    ¬ RefusalKeepsNonces keyPlatform sampleInput 7
      (controlText "CaptureScreenshot" (passwordOf screenshotDigest)) issuedWorld := by
  have hdecode : decode keyPlatform (controlText "CaptureScreenshot" (passwordOf screenshotDigest))
      = .ok (.CaptureScreenshot (some (passwordOf screenshotDigest)) none) :=
    decode_screenshot (parse_keyPlatform (by simp [keyTexts]))
  have htoken : (some (passwordOf screenshotDigest)).bind (tokenOf keyPlatform)
      = some { nonceId := sampleInput.uuid, timestamp := sampleInput.timestamp
               auth := toHex screenshotDigest } := by
    decide +kernel
  refine not_refusalKeepsNonces ⟨by decide, some (passwordOf screenshotDigest), _,
    { nonce := sampleNonce, expiresAt := seconds 30, used := false }, hdecode, htoken, ?_, ?_⟩
  · exact ⟨by decide +kernel, rfl, by decide⟩
  · exact ⟨screenshotDigest, by decide, rfl, by decide +kernel⟩

end OpenMadt.Server
