import OpenMadt.GuiHoldings
import OpenMadt.Runs

/-!
# What a request does

The twenty plans in one place: what passes between the server and the GUI, how the server changes, and
what is answered.  Whatever is kept by all requests is shown by cases on `Effect`, and the plans are
not looked at again.

* `Exchange` — what passes between the server and the GUI during a request.
* `Effect` — everything a request can do; `ensures_effect` shows that there is nothing else.
* `effect_of_run` — the effect of a request that is processed.
-/

namespace OpenMadt

open Gui

/-- Calls that leave all pages, shortcuts and settings as they are. -/
def Gui.Call.Quiet : Call → Prop
  | .signal s => s.Quiet
  | .ApplySettings _ => False
  | _ => True

/-- The id that a call brings into the browser. -/
def Gui.Call.newId? : Call → Option String
  | .signal s => s.newId?
  | _ => none

theorem Gui.Call.newId_of_quiet {c : Call} (hquiet : c.Quiet) : c.newId? = none := by
  cases c with
  | signal s => exact newId_quiet hquiet
  | _ => rfl

namespace Server

variable {I G : Type}

/-- What passes between the server and the GUI during a request. -/
inductive Exchange where
  | nothing
  | exit (exitCode : ℤ)
  | ask (c : Gui.Call) (gResp : Option CmdResponse)

/-- The states of the GUI before and after an exchange. -/
def Exchange.Leads (P : Platform I G) (i : Input I) (g g' : G) : Exchange → Prop
  | .nothing => g' = g
  | .exit exitCode => g' = P.gui.requestExit exitCode g
  | .ask c gResp => P.gui.call i.gui c g = some (gResp, g')

/-- The password and the name of a control request. -/
def control? : Request → Option (Option String × String)
  | .Stop password => some (password, "Stop")
  | .Restart password => some (password, "Restart")
  | .CaptureScreenshot password _ => some (password, "CaptureScreenshot")
  | _ => none

/-- The server with its nonces as they are after a request, and all else as before. -/
def afterRequest (P : Platform I G) (i : Input I) (s : Server) (request : Request) : Server :=
  match control? request with
  | some (password, reqName) => (authorize P i password reqName s).2
  | none =>
    match request, P.generateRandomToken i.random with
    | .GetRandom, some nonce => if s.runtimeConfig.controlPsk = "" then s else issueNonce i nonce s
    | _, _ => s

/-! ### Plans -/

/-- Whatever the GUI answers, the plan ends in an exchange, a state of the server and an answer with
`Q`. -/
def Plan.Ensures (Q : Exchange → Server → Json → Prop) : Plan → Prop
  | .answer s json => Q .nothing s json
  | .stop s json exitCode => Q (.exit exitCode) s json
  | .ask c k => ∀ gResp, Q (.ask c gResp) (k gResp).1 (k gResp).2

theorem Plan.Ensures.run {P : Platform I G} {i : Input I} {bev : Conn} {w w' : World G}
    {Q : Exchange → Server → Json → Prop} {p : Plan} (h : p.Ensures Q)
    (hrun : p.run P i bev w = some w') :
    ∃ x json, Q x w'.server json ∧ x.Leads P i w.gui w'.gui ∧ w'.sent = w.sent ++ [(bev, json)] := by
  cases p with
  | answer s json =>
    cases hrun
    exact ⟨.nothing, json, h, rfl, rfl⟩
  | stop s json exitCode =>
    cases hrun
    exact ⟨.exit exitCode, json, h, rfl, rfl⟩
  | ask c k =>
    obtain ⟨⟨gResp, g⟩, hcall, rfl⟩ := Option.map_eq_some_iff.mp hrun
    exact ⟨.ask c gResp, _, h gResp, hcall, rfl⟩

theorem Plan.Ensures.and {Q Q' : Exchange → Server → Json → Prop} {p : Plan} (h : p.Ensures Q)
    (h' : p.Ensures Q') : p.Ensures fun x s json => Q x s json ∧ Q' x s json := by
  cases p with
  | answer s json => exact ⟨h, h'⟩
  | stop s json exitCode => exact ⟨h, h'⟩
  | ask c k => exact fun gResp => ⟨h gResp, h' gResp⟩

/-- The call did not succeed, and this is the code for it. -/
def Failed (gResp : Option CmdResponse) (code : ReturnCode) : Prop :=
  (∀ resp, gResp = some resp → resp.result ≠ .OK) ∧ code ≠ .MTSRC_OK ∧ code ≠ .MTSRC_BAD_REQUEST

/-- A question with an answer of its own in case of success. -/
theorem ensures_askFor {Q : Exchange → Server → Json → Prop} {s : Server} {c : Gui.Call}
    {k : CmdResponse → Server × Json}
    (hfailure : ∀ {gResp code}, Failed gResp code → Q (.ask c gResp) s (response code))
    (hsuccess : ∀ {gResp : CmdResponse}, gResp.result = .OK →
      Q (.ask c (some gResp)) (k gResp).1 (k gResp).2) : (askFor s c k).Ensures Q := by
  intro gResp
  cases gResp with
  | none => exact hfailure ⟨by simp, by simp, by simp⟩
  | some gResp =>
    dsimp only
    split
    next hok => exact hsuccess hok
    next herror =>
      refine hfailure ⟨by simpa using herror, ?_, ?_⟩
      · rcases gResp with ⟨_ | _ | _, payload⟩ <;> simp_all [convertGuiResultToMadt]
      · rcases gResp with ⟨_ | _ | _, payload⟩ <;> simp [convertGuiResultToMadt]

/-- Passing the result code on is answering with it. -/
theorem relay_eq (s : Server) (c : Gui.Call) :
    relay s c = askFor s c fun _ => (s, response .MTSRC_OK) := by
  refine congrArg (Plan.ask c) (funext fun gResp => ?_)
  cases gResp with
  | none => rfl
  | some gResp =>
    dsimp only [resultCode]
    split
    next hok => rw [hok]; rfl
    next => rfl

/-! ### Effects -/

/-- Everything that a request can do: the exchange with the GUI, the server after it, the answer. -/
inductive Effect (P : Platform I G) (i : Input I) (bev : Conn) (s : Server) :
    Request → Exchange → Server → Json → Prop where
  /-- It is answered; if it is a control request, its nonce may be spent. -/
  | answer {request : Request} {json : Json}
      (hrandom : request = .GetRandom → afterRequest P i s .GetRandom = s) :
      Effect P i bev s request .nothing (afterRequest P i s request) json
  /-- `GetRandom` issues a nonce. -/
  | issue {nonce : String} {json : Json} (hpsk : s.runtimeConfig.controlPsk ≠ "")
      (hnonce : P.generateRandomToken i.random = some nonce)
      (hcode : json.find? "retCode" = some ReturnCode.MTSRC_OK.toJson) :
      Effect P i bev s .GetRandom .nothing (issueNonce i nonce s) json
  /-- The process is told to stop. -/
  | exit {request : Request} {password : Option String} {reqName : String} {exitCode : ℤ}
      (hcontrol : control? request = some (password, reqName))
      (hauthorized : (authorize P i password reqName s).1 = true) :
      Effect P i bev s request (.exit exitCode) (authorize P i password reqName s).2
        (response .MTSRC_OK)
  /-- The GUI does not succeed in what it is asked for. -/
  | failure {request : Request} {c : Gui.Call} {gResp : Option CmdResponse} {code : ReturnCode}
      (hnew : ∀ id, c.newId? = some id → id = i.uuid) (hfailed : Failed gResp code) :
      Effect P i bev s request (.ask c gResp) (afterRequest P i s request) (response code)
  /-- The GUI is asked for something of which the server keeps nothing. -/
  | query {request : Request} {c : Gui.Call} {gResp : CmdResponse} {json : Json}
      (hrandom : request ≠ .GetRandom) (hquiet : c.Quiet) (hok : gResp.result = .OK) :
      Effect P i bev s request (.ask c (some gResp)) (afterRequest P i s request) json
  /-- The settings are changed. -/
  | settings {patch : Json} {gResp : CmdResponse} (hok : gResp.result = .OK) :
      Effect P i bev s (.SetSettings patch)
        (.ask (.ApplySettings (merged s.settingsState patch)) (some gResp))
        (s.storeSettings P.SOFTWARE_VERSION i.timestamp (merged s.settingsState patch))
        (response .MTSRC_OK)
  /-- There is a new tab. -/
  | newTab {requestedUrl iconUrl : String} {preferredPos flags : ℤ} {gResp : CmdResponse}
      (hok : gResp.result = .OK) :
      Effect P i bev s (.NewWebTab requestedUrl iconUrl preferredPos flags)
        (.ask (.signal (.NewWebTab (buildWebTabUrl requestedUrl i.uuid flags) iconUrl preferredPos flags
          i.uuid)) (some gResp))
        (if preferredPos = OpenMadt.POS_EXTRA then
          { s.rememberOwnedTab bev i.uuid with extraTabId := i.uuid }
        else s.rememberOwnedTab bev i.uuid)
        (response .MTSRC_OK [("tabId", .str i.uuid)])
  /-- There is a new shortcut. -/
  | newShortcut {url iconUrl : String} {preferredPos flags : ℤ} {gResp : CmdResponse}
      (hok : gResp.result = .OK) :
      Effect P i bev s (.NewShortcut url iconUrl preferredPos flags)
        (.ask (.signal (.NewShortcut url iconUrl preferredPos flags i.uuid)) (some gResp))
        { s with shortcutLeases := s.shortcutLeases.insertIfNew i.uuid none }
        (response .MTSRC_OK [("shortcutId", .str i.uuid)])
  /-- The extra tab is hidden. -/
  | hideTab {tabId : String} {gResp : CmdResponse} (hextra : s.isExtraTab tabId = true)
      (hok : gResp.result = .OK) :
      Effect P i bev s (.KillTab tabId) (.ask (.signal (.KillTab tabId false)) (some gResp)) s
        (response .MTSRC_OK)
  /-- A tab is destroyed. -/
  | killTab {request : Request} {tabId : String} {gResp : CmdResponse}
      (hrequest : request = .KillTab tabId ∨ request = .IAmAliveTab tabId 0)
      (hok : gResp.result = .OK) :
      Effect P i bev s request (.ask (.signal (.KillTab tabId true)) (some gResp))
        (s.forgetOwnedTab tabId) (response .MTSRC_OK)
  /-- A shortcut is destroyed. -/
  | killShortcut {request : Request} {shortcutId : String} {gResp : CmdResponse}
      (hrequest : request = .KillShortcut shortcutId ∨ request = .IAmAliveShortcut shortcutId 0)
      (hok : gResp.result = .OK) :
      Effect P i bev s request (.ask (.signal (.KillShortcut shortcutId)) (some gResp))
        { s with shortcutLeases := s.shortcutLeases.erase shortcutId } (response .MTSRC_OK)
  /-- The lease of a tab is extended. -/
  | leaseTab {tabId : String} {ttl : ℤ} (hmem : tabId ∈ s.tabLeases) (httl : ttl ≠ 0) :
      Effect P i bev s (.IAmAliveTab tabId ttl) .nothing
        { s with tabLeases := s.tabLeases.insert tabId (some (i.now + seconds ttl)) }
        (response .MTSRC_OK)
  /-- The lease of a shortcut is extended. -/
  | leaseShortcut {shortcutId : String} {ttl : ℤ} (hmem : shortcutId ∈ s.shortcutLeases)
      (httl : ttl ≠ 0) :
      Effect P i bev s (.IAmAliveShortcut shortcutId ttl) .nothing
        { s with shortcutLeases := s.shortcutLeases.insert shortcutId (some (i.now + seconds ttl)) }
        (response .MTSRC_OK)

variable {P : Platform I G} {i : Input I} {bev : Conn} {s : Server} {request : Request}

theorem afterRequest_control {password : Option String} {reqName : String}
    (h : control? request = some (password, reqName)) :
    afterRequest P i s request = (authorize P i password reqName s).2 := by
  unfold afterRequest
  rw [h]

theorem effect_answer {json : Json} (h : afterRequest P i s request = s) :
    Effect P i bev s request .nothing s json := by
  have hanswer : Effect P i bev s request .nothing (afterRequest P i s request) json :=
    .answer fun heq => heq ▸ h
  rwa [h] at hanswer

/-- A question of which the server keeps nothing. -/
theorem ensures_query {c : Gui.Call} (hrandom : request ≠ .GetRandom) (hquiet : c.Quiet)
    {k : CmdResponse → Server × Json} (hk : ∀ gResp, (k gResp).1 = afterRequest P i s request) :
    (askFor (afterRequest P i s request) c k).Ensures (Effect P i bev s request) := by
  refine ensures_askFor (.failure (by simp [Call.newId_of_quiet hquiet])) fun hok => ?_
  rw [hk]
  exact .query hrandom hquiet hok

theorem ensures_destroyTab {tabId : String}
    (hrequest : request = .KillTab tabId ∨ request = .IAmAliveTab tabId 0) :
    (planKillTab tabId true s).Ensures (Effect P i bev s request) := by
  have hnew : ∀ id, (Call.signal (.KillTab tabId true)).newId? = some id → id = i.uuid := by
    rintro id ⟨⟩
  rcases hrequest with rfl | rfl
  · exact ensures_askFor (.failure hnew) (.killTab (Or.inl rfl))
  · exact ensures_askFor (.failure hnew) (.killTab (Or.inr rfl))

theorem ensures_destroyShortcut {shortcutId : String}
    (hrequest : request = .KillShortcut shortcutId ∨ request = .IAmAliveShortcut shortcutId 0) :
    (planKillShortcut shortcutId s).Ensures (Effect P i bev s request) := by
  have hnew : ∀ id, (Call.signal (.KillShortcut shortcutId)).newId? = some id → id = i.uuid := by
    rintro id ⟨⟩
  rcases hrequest with rfl | rfl
  · exact ensures_askFor (.failure hnew) (.killShortcut (Or.inl rfl))
  · exact ensures_askFor (.failure hnew) (.killShortcut (Or.inr rfl))

theorem ensures_exit {password : Option String} {reqName : String} {exitCode : ℤ}
    (hcontrol : control? request = some (password, reqName)) (hrandom : request ≠ .GetRandom) :
    (planExit P i password reqName exitCode s).Ensures (Effect P i bev s request) := by
  have hafter := afterRequest_control (P := P) (i := i) (s := s) hcontrol
  unfold planExit
  split
  next hauthorized => exact .exit hcontrol hauthorized
  next =>
    rw [← hafter]
    exact .answer fun heq => absurd heq hrandom

/-- **There is nothing else that a request can do.** -/
theorem ensures_effect (bev : Conn) (s : Server) (request : Request) :
    (plan P i bev s request).Ensures (Effect P i bev s request) := by
  cases request with
  | Refused => exact .answer (by simp)
  | GetRandom =>
    simp only [plan, planGetRandom]
    split
    next hpsk =>
      have hafter : afterRequest P i s .GetRandom = s := by
        simp only [afterRequest, control?, hpsk, if_true]
        split <;> rfl
      exact effect_answer hafter
    next hpsk =>
      split
      next hnonce =>
        have hafter : afterRequest P i s .GetRandom = s := by
          simp only [afterRequest, control?, hnonce]
        exact effect_answer hafter
      next nonce hnonce => exact .issue hpsk hnonce rfl
  | GetInfo => exact .answer (by simp)
  | GetSettings => exact .answer (by simp)
  | GetCharacteristics => exact ensures_query (by simp) (by trivial) fun _ => rfl
  | PlaySound soundId soundFlags =>
    rw [plan, relay_eq]
    exact ensures_query (by simp) (by trivial) fun _ => rfl
  | SetSettings patch => exact ensures_askFor (.failure (by rintro id ⟨⟩)) .settings
  | Stop password => exact ensures_exit rfl (by simp)
  | Restart password => exact ensures_exit rfl (by simp)
  | CaptureScreenshot password fileName =>
    simp only [plan, planCaptureScreenshot]
    split
    · cases fileName with
      | none => exact .answer (by simp)
      | some fileName => exact ensures_query (by simp) (by trivial) fun _ => rfl
    · exact .answer (by simp)
  | GetTabMap password =>
    simp only [plan]
    split
    · exact ensures_query (by simp) (by trivial) fun _ => rfl
    · exact .answer (by simp)
  | GetShortcuts password =>
    simp only [plan]
    split
    · exact ensures_query (by simp) (by trivial) fun _ => rfl
    · exact .answer (by simp)
  | NewWebTab requestedUrl iconUrl preferredPos flags =>
    exact ensures_askFor (.failure (by rintro id ⟨⟩; rfl)) .newTab
  | NewShortcut url iconUrl preferredPos flags =>
    exact ensures_askFor (.failure (by rintro id ⟨⟩; rfl)) .newShortcut
  | NavigateTo tabId url =>
    rw [plan, relay_eq]
    exact ensures_query (by simp) (by trivial) fun _ => rfl
  | BlinkTab tabId =>
    rw [plan, relay_eq]
    exact ensures_query (by simp) (by trivial) fun _ => rfl
  | ActivateTab tabId =>
    rw [plan, relay_eq]
    exact ensures_query (by simp) (by trivial) fun _ => rfl
  | KillTab tabId =>
    cases hextra : s.isExtraTab tabId with
    | true =>
      simp only [plan, hextra]
      exact ensures_askFor (.failure (by rintro id ⟨⟩)) (.hideTab hextra)
    | false =>
      simp only [plan, hextra]
      exact ensures_destroyTab (Or.inl rfl)
  | KillShortcut shortcutId => exact ensures_destroyShortcut (Or.inl rfl)
  | IAmAliveTab tabId ttl =>
    simp only [plan]
    split
    · exact .answer (by simp)
    next hmem =>
      split
      next httl => exact ensures_destroyTab (Or.inr (by rw [httl]))
      next httl => exact .leaseTab (by simpa [hasTab] using hmem) httl
  | IAmAliveShortcut shortcutId ttl =>
    simp only [plan]
    split
    · exact .answer (by simp)
    next hmem =>
      split
      next httl => exact ensures_destroyShortcut (Or.inr (by rw [httl]))
      next httl => exact .leaseShortcut (not_not.mp hmem) httl

/-- The effect of a request that is processed. -/
theorem effect_of_run {w w' : World G}
    (hrun : (plan P i bev w.server request).run P i bev w = some w') :
    ∃ x json, Effect P i bev w.server request x w'.server json ∧ x.Leads P i w.gui w'.gui
      ∧ w'.sent = w.sent ++ [(bev, json)] :=
  (ensures_effect bev w.server request).run hrun

/-! ### What tabs and shortcuts have nothing to do with -/

/-- The part of the server that no tab or shortcut has to do with. -/
def rest (s : Server) :
    RuntimeConfig × SettingsState × Option (List (String × String)) × StdMap String ControlNonce :=
  (s.runtimeConfig, s.settingsState, s.dnsSdTxt, s.controlNonces)

theorem rest_forgetOwnedTab (tabId : String) (s : Server) : (s.forgetOwnedTab tabId).rest = s.rest := by
  unfold forgetOwnedTab
  split <;> rfl

theorem rest_rememberOwnedTab (bev : Conn) (tabId : String) (s : Server) :
    (s.rememberOwnedTab bev tabId).rest = s.rest := by
  unfold rememberOwnedTab
  split <;> rfl

theorem rest_dropTabs (P : Platform I G) (tabIds : List String) (w : World G) :
    (tabIds.foldl (dropTab P) w).server.rest = w.server.rest := by
  induction tabIds generalizing w with
  | nil => rfl
  | cons tabId tabIds ih => exact (ih _).trans (rest_forgetOwnedTab tabId w.server)

theorem rest_dropShortcuts (P : Platform I G) (shortcutIds : List String) (w : World G) :
    (shortcutIds.foldl (dropShortcut P) w).server.rest = w.server.rest := by
  induction shortcutIds generalizing w with
  | nil => rfl
  | cons shortcutId shortcutIds ih => exact ih _

theorem rest_closeConnection (P : Platform I G) (bev : Conn) (w : World G) :
    (closeConnection P bev w).server.rest = w.server.rest := by
  show (eraseOwnedTabs P bev w).server.rest = w.server.rest
  unfold eraseOwnedTabs
  split
  · rfl
  split
  · rfl
  · exact rest_dropTabs P _ w

/-- The lease timer only drops, and forgets nonces. -/
theorem rest_pruneExpiredTabs (P : Platform I G) (now : Time) (w : World G) :
    (pruneExpiredTabs P now w).server.rest
      = { w.server with controlNonces := pruneNonces now w.server.controlNonces }.rest := by
  have hdropped := (rest_dropShortcuts P (expired now ((expired now w.server.tabLeases).foldl
    (dropTab P) w).server.shortcutLeases) _).trans (rest_dropTabs P (expired now w.server.tabLeases) w)
  simp only [rest, Prod.mk.injEq] at hdropped
  obtain ⟨hconfig, hsettings, htxt, hnonces⟩ := hdropped
  simp only [rest, pruneExpiredTabs, hconfig, hsettings, htxt, hnonces]

/-! ### The configuration -/

theorem runtimeConfig_afterRequest (P : Platform I G) (i : Input I) (request : Request) (s : Server) :
    (afterRequest P i s request).runtimeConfig = s.runtimeConfig := by
  unfold afterRequest
  split
  · rw [authorize_server]
  · split
    · split <;> rfl
    · rfl

theorem Effect.runtimeConfig {bev : Conn} {s s' : Server} {request : Request} {x : Exchange}
    {json : Json} {P : Platform I G} {i : Input I} (h : Effect P i bev s request x s' json) :
    s'.runtimeConfig = s.runtimeConfig := by
  cases h with
  | answer _ => exact runtimeConfig_afterRequest P i request s
  | failure _ _ => exact runtimeConfig_afterRequest P i request s
  | query _ _ _ => exact runtimeConfig_afterRequest P i request s
  | exit hcontrol _ =>
    rw [← afterRequest_control (P := P) (i := i) hcontrol]
    exact runtimeConfig_afterRequest P i request s
  | newTab _ =>
    have hremember := (Prod.mk.inj (rest_rememberOwnedTab bev i.uuid s)).1
    split
    · exact hremember
    · exact hremember
  | killTab _ _ => exact (Prod.mk.inj (rest_forgetOwnedTab _ s)).1
  | _ => rfl

/-- Nothing that happens changes the configuration. -/
theorem Step.runtimeConfig {P : Platform I G} {moves : G → G → Prop} {w w' : World G} {e : Event I}
    (h : Step P moves w e w') : w'.server.runtimeConfig = w.server.runtimeConfig := by
  cases h with
  | request hout =>
    obtain ⟨request, -, hrun⟩ := decoded_of_outcome hout
    obtain ⟨x, json, heffect, -⟩ := effect_of_run hrun
    exact heffect.runtimeConfig
  | close bev => exact (Prod.mk.inj (rest_closeConnection P bev w)).1
  | tick now => exact (Prod.mk.inj (rest_pruneExpiredTabs P now w)).1
  | gui _ => rfl

/-- A question to the GUI of `gui.cpp`. -/
theorem Exchange.Leads.call {P : Platform Outside GuiState} {i : Input Outside} {g g' : GuiState}
    (hgui : P.gui = GuiState.port) {c : Gui.Call} {gResp : Option CmdResponse}
    (h : Leads P i g g' (.ask c gResp)) : g.call i.gui c = some (gResp, g') := by
  rw [Leads, hgui] at h
  exact h

end Server

end OpenMadt
