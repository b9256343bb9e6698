import OpenMadt.Effects

/-!
# The two copies of the settings

The server reports its own copy of the settings, the browser shows another one.  `SetSettings` hands
the new settings to the browser, runs the commands for volume and backlight, and only then stores them
in the server; the browser that comes into existence takes its settings from the configuration file.

* `Display` — what the GUI thread has to do with settings; `display_call` says what a call does to it.
* `Copies`, `Change` — the two copies, and the ways they change; `copies_step` is the refinement: a step
  of the server is a change of the copies.
* `Copies.Clean` — the changes that keep the copies equal, exactly: `agree_after_iff`.
* `consistent_iff_clean` — the copies along a run: they stay equal exactly if all its steps are clean.
-/

namespace OpenMadt.Gui

/-! ### The browser's copy -/

/-- What there is to see of the browser. -/
inductive Screen where
  /-- The startup timer will create the browser. -/
  | awaited
  /-- There is no browser, and there will be none. -/
  | cancelled
  /-- The browser shows these settings. -/
  | shown (settings : SettingsState)

/-- What the GUI thread has to do with settings. -/
@[ext]
structure Display where
  screen : Screen
  /-- There is an application. -/
  running : Bool
  runtimeConfig : RuntimeConfig

namespace Display

/-- The startup timer fires. -/
def create (d : Display) : Display :=
  match d.screen with
  | .awaited => { d with screen := .shown d.runtimeConfig.settings }
  | _ => d

/-- The startup is cancelled. -/
def cancel (d : Display) : Display :=
  match d.screen with
  | .awaited => { d with screen := .cancelled }
  | _ => d

/-- The browser, if there is one, shows other settings. -/
def apply (settings : SettingsState) (d : Display) : Display :=
  match d.screen with
  | .shown _ => { d with screen := .shown settings }
  | _ => d

/-- A lambda is executed, and the startup timer fires before or after it, or not. -/
def during (startup : Startup) (f : Display → Display) (d : Display) : Display :=
  if d.running then
    let d := f (if startup = .beforeCommand then d.create else d)
    if startup = .afterCommand then d.create else d
  else d

end Display

/-- The commands that carry out the settings succeed. -/
def commandsSucceed (o : Outside) (config : RuntimeConfig) (settings : SettingsState) : Bool :=
  applyAudioVolume o config settings
    && decide (applyBacklightBrightness o config settings.brightness = some true)

namespace GuiState

/-- What the state says about settings. -/
def display (g : GuiState) : Display where
  screen :=
    match g.browser with
    | some b => .shown b.currentSettings
    | none => if g.startupCancelled then .cancelled else .awaited
  running := g.appInstance
  runtimeConfig := g.runtimeConfig

theorem display_createBrowser (g : GuiState) : g.createBrowser.display = g.display.create := by
  unfold createBrowser Display.create display
  cases hbrowser : g.browser with
  | none => cases hcancelled : g.startupCancelled <;> simp [hbrowser, hcancelled, Browser.ApplySettings]
  | some b => simp [hbrowser]

theorem display_requestExit (g : GuiState) (exitCode : ℤ) :
    (g.requestExit exitCode).display = g.display.cancel := by
  unfold requestExit Display.cancel display
  cases hbrowser : g.browser with
  | none => cases hcancelled : g.startupCancelled <;> simp
  | some b => rfl

theorem display_withBrowser {g : GuiState} {b b' : Browser} (hbrowser : g.browser = some b)
    (h : b'.currentSettings = b.currentSettings) (queue : List Browser.Signal) :
    { g with browser := some b', queue := queue }.display = g.display := by
  simp [display, hbrowser, h]

theorem currentSettings_execAll {b b' : Browser} {signals : List Browser.Signal}
    (h : execAll b signals = some b') : b'.currentSettings = b.currentSettings := by
  induction signals generalizing b with
  | nil => cases h; rfl
  | cons signal signals ih =>
    rw [execAll] at h
    cases hexec : b.exec signal with
    | none => rw [hexec] at h; cases h
    | some r =>
      rw [hexec] at h
      exact (ih h).trans (config_exec hexec).1

theorem display_post (g : GuiState) (signal : Browser.Signal) : (g.post signal).display = g.display := by
  unfold post
  cases hbrowser : g.browser with
  | none => rfl
  | some b => simp [display, hbrowser]

theorem display_drainQueue {g g' : GuiState} (h : g.drainQueue = some g') : g'.display = g.display := by
  unfold drainQueue at h
  cases hbrowser : g.browser with
  | none =>
    rw [hbrowser] at h
    cases h
    simp [display, hbrowser]
  | some b =>
    rw [hbrowser] at h
    obtain ⟨b', hexec, rfl⟩ := Option.map_eq_some_iff.mp h
    exact display_withBrowser hbrowser (currentSettings_execAll hexec) []

theorem display_callSignal {g g' : GuiState} {signal : Browser.Signal} {gResp : Option CmdResponse}
    (h : g.callSignal signal = some (gResp, g')) : g'.display = g.display := by
  rcases callSignal_cases h with ⟨-, -, rfl⟩ | ⟨b, b₁, b', resp, hbrowser, hall, hexec, -, rfl⟩
  · rfl
  · exact display_withBrowser hbrowser
      ((config_exec hexec).1.trans (currentSettings_execAll hall)) []

/-- A lambda, with or without the startup timer. -/
theorem display_invoke {o : Outside} {lambda : GuiState → Option (CmdResponse × GuiState)}
    {f : Display → Display}
    (hlambda : ∀ {g resp g'}, lambda g = some (resp, g') → g'.display = f g.display)
    {g g' : GuiState} {gResp : Option CmdResponse} (h : invoke o lambda g = some (gResp, g')) :
    g'.display = g.display.during o.startup f := by
  rcases invoke_cases h with ⟨happ, -, rfl⟩ | ⟨happ, g₁, resp, g₂, hdrain, hg₂, -, rfl⟩
  · rw [Display.during, show g'.display.running = false from happ, if_neg nofun]
  · have hfirst : g₂.display = f (if o.startup = .beforeCommand then g.display.create else g.display) := by
      rw [hlambda hg₂, display_drainQueue hdrain]
      split
      · rw [display_createBrowser]
      · rfl
    rw [Display.during, show g.display.running = true from happ, if_pos rfl]
    dsimp only
    rw [← hfirst]
    split
    · rw [display_createBrowser]
    · rfl

theorem display_applySettings {o : Outside} {settings : SettingsState} {g g' : GuiState}
    {resp : CmdResponse} (h : applySettings o settings g = some (resp, g')) :
    g'.display = g.display.apply settings
      ∧ (resp.result = .OK ↔ commandsSucceed o g.runtimeConfig settings = true) := by
  unfold applySettings at h
  dsimp only at h
  split at h
  · cases h
  next backlight hbacklight =>
    cases h
    constructor
    · unfold display Display.apply
      cases hbrowser : g.browser with
      | none => cases hcancelled : g.startupCancelled <;> simp
      | some b => simp [Browser.ApplySettings]
    · simp only [commandsSucceed, hbacklight]
      cases backlight <;> cases applyAudioVolume o g.runtimeConfig settings <;> simp

/-- The settings are applied, and the result tells whether the commands succeeded. -/
theorem call_applySettings {o : Outside} {settings : SettingsState} {g g' : GuiState}
    {gResp : Option CmdResponse} (h : g.call o (.ApplySettings settings) = some (gResp, g')) :
    g'.display = g.display.during o.startup (.apply settings)
      ∧ ((∃ resp, gResp = some resp ∧ resp.result = .OK)
        ↔ g.appInstance = true ∧ commandsSucceed o g.runtimeConfig settings = true) := by
  refine ⟨display_invoke (fun hl => (display_applySettings hl).1) h, ?_⟩
  rcases invoke_cases h with ⟨happ, rfl, -⟩ | ⟨happ, g₁, resp, g₂, hdrain, hg₂, rfl, -⟩
  · simp [happ]
  · have hconfig : g₁.runtimeConfig = g.runtimeConfig := by
      rw [show g₁.runtimeConfig = g₁.display.runtimeConfig from rfl, display_drainQueue hdrain]
      split
      · rw [display_createBrowser, Display.create]
        split <;> rfl
      · rfl
    simp [happ, ← hconfig, (display_applySettings hg₂).2]

/-- What a call does to the display. -/
theorem display_call {o : Outside} {c : Call} {g g' : GuiState} {gResp : Option CmdResponse}
    (h : g.call o c = some (gResp, g')) :
    g'.display = match c with
      | .signal _ | .GetCharacteristics => g.display
      | .CaptureScreenshot _ | .PlaySound .. => g.display.during o.startup id
      | .ApplySettings settings => g.display.during o.startup (.apply settings) := by
  cases c with
  | signal signal => exact display_callSignal h
  | GetCharacteristics => cases h; rfl
  | CaptureScreenshot fileName => exact display_invoke (fun hl => by cases hl; rfl) h
  | ApplySettings settings => exact (call_applySettings h).1
  | PlaySound soundId soundFlags soundFile soundPlayerCommand =>
    exact display_invoke (fun hl => by cases hl; rfl) h

theorem display_moves {g g' : GuiState} (h : Moves g g') : g'.display = g.display.create := by
  cases h with
  | startup => exact display_createBrowser g
  | execNext hsome h =>
    obtain ⟨b, hbrowser⟩ := Option.isSome_iff_exists.mp hsome
    have hcreate : g.display.create = g.display := by simp [Display.create, display, hbrowser]
    rw [hcreate]
    unfold execNext at h
    split at h
    next b signal queue hb hqueue =>
      obtain ⟨⟨b', resp⟩, hexec, rfl⟩ := Option.map_eq_some_iff.mp h
      exact display_withBrowser hb (config_exec hexec).1 queue
    · cases h
      rfl

end GuiState

end OpenMadt.Gui

namespace OpenMadt.Server

open Gui Run

/-! ### Both copies -/

/-- The settings that the server reports, and what the GUI makes of settings. -/
@[ext]
structure Copies where
  stored : SettingsState
  display : Display

/-- The ways in which the copies change. -/
inductive Change where
  | keep
  /-- The startup timer fires. -/
  | create
  /-- The startup is cancelled. -/
  | cancel
  /-- A lambda that has nothing to do with settings. -/
  | pass (startup : Startup)
  /-- New settings, whose commands succeed or not. -/
  | apply (settings : SettingsState) (succeeds : Bool) (startup : Startup)

namespace Copies

/-- The copies after a change: the server stores what could be carried out. -/
def after (c : Copies) : Change → Copies
  | .keep => c
  | .create => { c with display := c.display.create }
  | .cancel => { c with display := c.display.cancel }
  | .pass startup => { c with display := c.display.during startup id }
  | .apply settings succeeds startup =>
    { stored := if c.display.running ∧ succeeds then settings else c.stored
      display := c.display.during startup (.apply settings) }

/-- The browser shows what the server reports. -/
def Agree (c : Copies) : Prop :=
  match c.display.screen with
  | .shown settings => settings = c.stored
  | _ => True

/-- The changes that keep the copies equal.

* Settings that the browser is handed have to be carried out, or to be the ones it shows already.
* A browser that comes into existence has to find the settings of the server in its configuration. -/
def Clean (c : Copies) : Change → Prop
  | .keep | .cancel => True
  | .create =>
    match c.display.screen with
    | .awaited => c.display.runtimeConfig.settings = c.stored
    | _ => True
  | .pass startup =>
    match c.display.screen, startup with
    | _, .no => True
    | .awaited, _ => c.display.running = true → c.display.runtimeConfig.settings = c.stored
    | _, _ => True
  | .apply settings succeeds startup =>
    match c.display.screen, startup with
    | .shown _, _ | .awaited, .beforeCommand =>
      c.display.running = true → succeeds = true ∨ settings = c.stored
    | .awaited, .afterCommand =>
      c.display.running = true →
        c.display.runtimeConfig.settings = if succeeds then settings else c.stored
    | _, _ => True

/-- **The clean changes**, and no others, keep the copies equal. -/
theorem agree_after_iff {c : Copies} (h : c.Agree) (change : Change) :
    (c.after change).Agree ↔ c.Clean change := by
  obtain ⟨stored, ⟨screen, running, config⟩⟩ := c
  cases change with
  | keep => exact iff_true_intro h
  | create => cases screen <;> simp_all [Agree, Clean, after, Display.create]
  | cancel => cases screen <;> simp_all [Agree, Clean, after, Display.cancel]
  | pass startup =>
    cases screen <;> cases startup <;> cases running <;>
      simp_all [Agree, Clean, after, Display.during, Display.create]
  | apply settings succeeds startup =>
    cases screen <;> cases startup <;> cases running <;> cases succeeds <;>
      simp_all [Agree, Clean, after, Display.during, Display.create, Display.apply]

/-- A browser that exists does not disappear. -/
theorem shown_after {c : Copies} {settings : SettingsState} (h : c.display.screen = .shown settings)
    (change : Change) : ∃ settings', (c.after change).display.screen = .shown settings' := by
  have hcreate : c.display.create = c.display := by simp [Display.create, h]
  have hcancel : c.display.cancel = c.display := by simp [Display.cancel, h]
  cases change with
  | keep => exact ⟨settings, h⟩
  | create => exact ⟨settings, by rw [after, hcreate]; exact h⟩
  | cancel => exact ⟨settings, by rw [after, hcancel]; exact h⟩
  | pass startup =>
    refine ⟨settings, ?_⟩
    simp only [after, Display.during, hcreate, ite_self, id_eq]
    exact h
  | apply settings' succeeds startup =>
    cases hrunning : c.display.running with
    | false => exact ⟨settings, by simp [after, Display.during, hrunning, h]⟩
    | true =>
      refine ⟨settings', ?_⟩
      simp only [after, Display.during, hrunning, if_true, ite_self, Display.apply, h,
        Display.create]

end Copies

/-- The copies in a state. -/
def copies (w : World GuiState) : Copies where
  stored := w.server.settingsState
  display := w.gui.display

/-- The browser, if it exists, shows the settings that the server reports. -/
def SettingsAgree (w : World GuiState) : Prop :=
  ∀ b, w.gui.browser = some b → b.currentSettings = w.server.settingsState

theorem settingsAgree_iff {w : World GuiState} : SettingsAgree w ↔ (copies w).Agree := by
  unfold SettingsAgree Copies.Agree copies GuiState.display
  cases hbrowser : w.gui.browser with
  | none => cases hcancelled : w.gui.startupCancelled <;> simp
  | some b => simp

/-! ### Requests -/

/-- The change that a call makes. -/
def callChange (o : Outside) (config : RuntimeConfig) : Gui.Call → Change
  | .signal _ | .GetCharacteristics => .keep
  | .CaptureScreenshot _ | .PlaySound .. => .pass o.startup
  | .ApplySettings settings => .apply settings (commandsSucceed o config settings) o.startup

/-- The change that a plan makes. -/
def Plan.change (o : Outside) (config : RuntimeConfig) : Plan → Change
  | .answer _ _ => .keep
  | .stop _ _ _ => .cancel
  | .ask c _ => callChange o config c

/-- The change that an exchange makes. -/
def Exchange.change (o : Outside) (config : RuntimeConfig) : Exchange → Change
  | .nothing => .keep
  | .exit _ => .cancel
  | .ask c _ => callChange o config c

theorem ensures_change (o : Outside) (config : RuntimeConfig) (p : Plan) :
    p.Ensures fun x _ _ => x.change o config = p.change o config := by
  cases p with
  | answer s json => rfl
  | stop s json exitCode => rfl
  | ask c k => exact fun _ => rfl

/-- The settings that are stored after an exchange: those that were applied with success. -/
def Exchange.stored (current : SettingsState) : Exchange → SettingsState
  | .ask (.ApplySettings settings) (some gResp) =>
    if gResp.result = .OK then settings else current
  | _ => current

theorem stored_of_failed {current : SettingsState} {c : Gui.Call} {gResp : Option CmdResponse}
    {code : ReturnCode} (hfailed : Failed gResp code) :
    Exchange.stored current (.ask c gResp) = current := by
  cases c with
  | ApplySettings settings =>
    cases gResp with
    | none => rfl
    | some resp => exact if_neg (hfailed.1 resp rfl)
  | _ => rfl

theorem stored_of_quiet {current : SettingsState} {c : Gui.Call} (hquiet : c.Quiet)
    (gResp : CmdResponse) : Exchange.stored current (.ask c (some gResp)) = current := by
  cases c with
  | ApplySettings settings => exact hquiet.elim
  | _ => rfl

section Effects

variable {I G : Type} {P : Platform I G} {i : Input I} {bev : Conn} {s s' : Server}
  {request : Request} {x : Exchange} {json : Json}

theorem settingsState_afterRequest (request : Request) (s : Server) :
    (afterRequest P i s request).settingsState = s.settingsState := by
  unfold afterRequest
  split
  · rw [authorize_server]
  · split
    · split <;> rfl
    · rfl

theorem settingsState_of_rest {s s' : Server} (h : s'.rest = s.rest) :
    s'.settingsState = s.settingsState := congrArg (fun rest => rest.2.1) h

/-- **What a request stores** it has applied with success. -/
theorem Effect.settingsState (h : Effect P i bev s request x s' json) :
    s'.settingsState = x.stored s.settingsState := by
  cases h with
  | answer _ => exact settingsState_afterRequest request s
  | exit _ _ => rw [authorize_server]; rfl
  | failure _ hfailed =>
    rw [stored_of_failed hfailed]
    exact settingsState_afterRequest request s
  | query _ hquiet _ =>
    rw [stored_of_quiet hquiet]
    exact settingsState_afterRequest request s
  | settings hok => exact (if_pos hok).symm
  | newTab _ => split <;> exact settingsState_of_rest (rest_rememberOwnedTab bev i.uuid s)
  | killTab _ _ => exact settingsState_of_rest (rest_forgetOwnedTab _ s)
  | _ => rfl

/-- Only an answer with `MTSRC_OK` tells of stored settings. -/
theorem Effect.unchanged (h : Effect P i bev s request x s' json)
    (hcode : json.find? "retCode" ≠ some ReturnCode.MTSRC_OK.toJson) :
    s'.settingsState = s.settingsState := by
  have hstored := h.settingsState
  cases h with
  | settings _ => exact absurd rfl hcode
  | failure _ hfailed => rwa [stored_of_failed hfailed] at hstored
  | query _ hquiet _ => rwa [stored_of_quiet hquiet] at hstored
  | _ => exact hstored

end Effects

/-! ### Steps -/

variable {P : Platform Outside GuiState} {w w' : World GuiState}

/-- A request makes the change of its exchange. -/
theorem Effect.copies (hgui : P.gui = GuiState.port) {i : Input Outside} {bev : Conn}
    {request : Request} {x : Exchange} {json : Json}
    (h : Effect P i bev w.server request x w'.server json) (hleads : x.Leads P i w.gui w'.gui) :
    copies w' = (copies w).after (x.change i.gui w.gui.runtimeConfig) := by
  have hstored := h.settingsState
  cases x with
  | nothing => exact Copies.ext hstored (congrArg GuiState.display hleads)
  | exit exitCode =>
    have hexit : w'.gui = w.gui.requestExit exitCode := by
      rw [Exchange.Leads, hgui] at hleads
      exact hleads
    refine Copies.ext hstored ?_
    rw [Server.copies, hexit]
    exact GuiState.display_requestExit w.gui exitCode
  | ask c gResp =>
    have hcall := hleads.call hgui
    have hdisplay := GuiState.display_call hcall
    cases c with
    | ApplySettings settings =>
      refine Copies.ext (hstored.trans ?_) hdisplay
      have hresult := (GuiState.call_applySettings hcall).2
      show Exchange.stored w.server.settingsState (.ask (.ApplySettings settings) gResp)
        = if w.gui.appInstance = true ∧ commandsSucceed i.gui w.gui.runtimeConfig settings = true
          then settings else w.server.settingsState
      simp only [← hresult]
      cases gResp with
      | none => simp [Exchange.stored]
      | some resp => simp [Exchange.stored]
    | _ => exact Copies.ext hstored hdisplay

/-- The change that an event makes. -/
def change (P : Platform Outside GuiState) (w : World GuiState) : Event Outside → Change
  | .request i bev requestText =>
    match decode P requestText with
    | .ok request => (plan P i bev w.server request).change i.gui w.gui.runtimeConfig
    | .error _ => .keep
  | .gui => .create
  | .close _ | .tick _ => .keep

section Drops

variable (hgui : P.gui = GuiState.port)

include hgui

theorem copies_dropTab (w : World GuiState) (tabId : String) : copies (dropTab P w tabId) = copies w := by
  rw [dropTab, post, hgui]
  exact Copies.ext (settingsState_of_rest (rest_forgetOwnedTab tabId w.server))
    (GuiState.display_post w.gui (.KillTab tabId true))

theorem copies_dropTabs (tabIds : List String) (w : World GuiState) :
    copies (tabIds.foldl (dropTab P) w) = copies w := by
  induction tabIds generalizing w with
  | nil => rfl
  | cons tabId tabIds ih => exact (ih _).trans (copies_dropTab hgui w tabId)

theorem copies_dropShortcuts (shortcutIds : List String) (w : World GuiState) :
    copies (shortcutIds.foldl (dropShortcut P) w) = copies w := by
  induction shortcutIds generalizing w with
  | nil => rfl
  | cons shortcutId shortcutIds ih =>
    refine (ih _).trans ?_
    rw [dropShortcut, post, hgui]
    exact Copies.ext rfl (GuiState.display_post w.gui (.KillShortcut shortcutId))

/-- **A step of the server is a change of the copies.** -/
theorem copies_step {e : Event Outside} (h : Step P GuiState.Moves w e w') :
    copies w' = (copies w).after (change P w e) := by
  cases h with
  | request hout =>
    rename_i i bev requestText
    obtain ⟨request, hdecode, hrun⟩ := decoded_of_outcome hout
    obtain ⟨x, json, ⟨heffect, hchange⟩, hleads, -⟩ := ((ensures_effect bev w.server request).and
      (ensures_change i.gui w.gui.runtimeConfig _)).run hrun
    rw [change, hdecode]
    dsimp only
    rw [← hchange]
    exact heffect.copies hgui hleads
  | close bev =>
    show copies (eraseOwnedTabs P bev w) = copies w
    unfold eraseOwnedTabs
    split
    · rfl
    · split
      · rfl
      next ownedTabs _ => exact copies_dropTabs hgui _ w
  | tick now =>
    exact (copies_dropShortcuts hgui _ _).trans (copies_dropTabs hgui _ w)
  | gui hmoves => exact Copies.ext rfl (GuiState.display_moves hmoves)

end Drops

/-! ### Consistency -/

theorem exists_browser (hgui : P.gui = GuiState.port) {e : Event Outside} {b : Browser}
    (h : Step P GuiState.Moves w e w') (hbrowser : w.gui.browser = some b) :
    ∃ b', w'.gui.browser = some b' := by
  have hshown : (copies w).display.screen = .shown b.currentSettings := by
    simp [copies, GuiState.display, hbrowser]
  obtain ⟨settings, hshown'⟩ := Copies.shown_after hshown (change P w e)
  rw [← copies_step hgui h] at hshown'
  cases hbrowser' : w'.gui.browser with
  | some b' => exact ⟨b', rfl⟩
  | none =>
    simp only [copies, GuiState.display, hbrowser'] at hshown'
    split at hshown' <;> cases hshown'

/-- The step is a request that is answered with an error. -/
def Refused (w w' : World GuiState) : Prop :=
  ∃ bev json, w'.sent = w.sent ++ [(bev, json)]
    ∧ json.find? "retCode" ≠ some ReturnCode.MTSRC_OK.toJson

/-- Both copies are as before. -/
structure SettingsKept (w w' : World GuiState) : Prop where
  stored : w'.server.settingsState = w.server.settingsState
  shown : ∀ b, w.gui.browser = some b →
    ∃ b', w'.gui.browser = some b' ∧ b'.currentSettings = b.currentSettings

/-- What is expected of a step: the copies agree after it, and an error leaves them as they were. -/
structure Consistent (w w' : World GuiState) : Prop where
  agree : SettingsAgree w'
  kept : Refused w w' → SettingsKept w w'

/-- The event changes the copies in a clean way. -/
def Clean (P : Platform Outside GuiState) (w : World GuiState) (e : Event Outside) : Prop :=
  (copies w).Clean (change P w e)

/-- A request that is answered with an error stores nothing. -/
theorem stored_of_refused (hgui : P.gui = GuiState.port) {e : Event Outside}
    (h : Step P GuiState.Moves w e w') (hrefused : Refused w w') :
    w'.server.settingsState = w.server.settingsState := by
  have hcopies := congrArg Copies.stored (copies_step hgui h)
  cases h with
  | request hout =>
    obtain ⟨bev, json, hsent, hcode⟩ := hrefused
    obtain ⟨request, -, hrun⟩ := decoded_of_outcome hout
    obtain ⟨x, json', heffect, -, hsent'⟩ := effect_of_run hrun
    rw [hsent, List.append_cancel_left_eq, List.singleton_inj, Prod.mk.injEq] at hsent'
    rw [hsent'.2] at hcode
    exact heffect.unchanged hcode
  | close bev => exact hcopies
  | tick now => exact hcopies
  | gui hmoves => rfl

/-- **Clean steps**, and no others, are consistent, as long as the copies agree. -/
theorem consistent_iff (hgui : P.gui = GuiState.port) {e : Event Outside} (hagree : SettingsAgree w)
    (h : Step P GuiState.Moves w e w') : Consistent w w' ↔ Clean P w e := by
  have hcopies := copies_step hgui h
  have hafter : SettingsAgree w' ↔ Clean P w e := by
    rw [settingsAgree_iff, hcopies]
    exact Copies.agree_after_iff (settingsAgree_iff.mp hagree) (change P w e)
  refine ⟨fun hconsistent => hafter.mp hconsistent.agree, fun hclean => ?_⟩
  have hagree' := hafter.mpr hclean
  refine ⟨hagree', fun hrefused => ⟨stored_of_refused hgui h hrefused, fun b hbrowser => ?_⟩⟩
  obtain ⟨b', hbrowser'⟩ := exists_browser hgui h hbrowser
  refine ⟨b', hbrowser', ?_⟩
  rw [hagree' b' hbrowser', hagree b hbrowser, stored_of_refused hgui h hrefused]

/-- **When the copies stay equal.**  For every run of the server, from its start, with any requests,
any failures of the commands and the browser coming into existence at any time: all steps are
consistent exactly when all steps are clean. -/
theorem consistent_iff_clean (hgui : P.gui = GuiState.port) {softwareVersion timestamp : String}
    {config : RuntimeConfig} {trace : List (World GuiState × Event Outside × World GuiState)}
    (hrun : Steps (Traced (Step P GuiState.Moves))
      (World.start softwareVersion timestamp config (GuiState.start config)) trace w) :
    (∀ entry ∈ trace, Consistent entry.1 entry.2.2)
      ↔ ∀ entry ∈ trace, Clean P entry.1 entry.2.1 := by
  refine Steps.forall_iff (I := SettingsAgree) ?_ ?_ hrun ?_
  · exact fun hagree hstep => consistent_iff hgui hagree hstep
  · exact fun _ _ hconsistent => hconsistent.agree
  · intro b hbrowser
    cases hbrowser

/-! ### A change of the brightness -/

/-- The configuration with a script for the volume. -/
def scriptConfig : RuntimeConfig := { audioVolume := { script := "/usr/bin/volume" } }

def brightnessText : Bytes := utf8 "\x7b\"req\":\"SetSettings\",\"brightness\":10\x7d"

def settingsPlatform : Platform Outside GuiState :=
  .sample [(brightnessText, .obj [("req", .str "SetSettings"), ("brightness", .int 10)])]

/-- The script for the volume fails. -/
def failingInput : Input Outside := { sampleInput with gui := { runProcess := fun _ _ => false } }

def scriptWorld : World GuiState := .start "1" "2024-01-01T00:00:00Z" scriptConfig (.start scriptConfig)

theorem consistent_of_success : ∃ trace w,
    Steps (Traced (Step settingsPlatform GuiState.Moves)) scriptWorld trace w
      ∧ trace.map (fun entry => entry.2.1) = [.gui, .request sampleInput 7 brightnessText]
      ∧ w.server.settingsState.brightness = 10 ∧ ∀ entry ∈ trace, Consistent entry.1 entry.2.2 := by
  have hrun : Steps (Traced (Step settingsPlatform GuiState.Moves)) scriptWorld
      [(_, .gui, _), (_, .request sampleInput 7 brightnessText, _)] _ :=
    .cons ⟨rfl, rfl, .gui .startup⟩ (.cons ⟨rfl, rfl, .request rfl⟩ (.nil _))
  refine ⟨_, _, hrun, rfl, rfl, (consistent_iff_clean rfl hrun).mpr ?_⟩
  simp only [List.forall_mem_cons, List.not_mem_nil, false_implies, implies_true, and_true]
  exact ⟨rfl, fun _ => Or.inl (by decide)⟩

/-- The startup timer fires between the lambda and the answer. -/
def startupInput : Input Outside := { sampleInput with gui := { startup := .afterCommand } }

/-- The copies differ after a failure of the script, although the request was answered with an error;
and they differ when the browser comes into existence after the settings were changed. -/
theorem copies_split :
    (∃ w w', Steps (Step settingsPlatform GuiState.Moves) scriptWorld [.gui] w
      ∧ Step settingsPlatform GuiState.Moves w (.request failingInput 7 brightnessText) w'
      ∧ Refused w w' ∧ ¬ SettingsAgree w' ∧ ¬ SettingsKept w w')
    ∧ ∃ w', Step settingsPlatform GuiState.Moves scriptWorld (.request startupInput 7 brightnessText) w'
      ∧ w'.sent = [(7, response .MTSRC_OK)] ∧ ¬ SettingsAgree w' := by
  constructor
  · refine ⟨_, _, .cons (.gui .startup) (.nil _), .request rfl, ⟨7, response .MTSRC_EXEC_ERROR, rfl, ?_⟩,
      fun hagree => ?_, fun hkept => ?_⟩
    · nofun
    · have := congrArg SettingsState.brightness (hagree _ rfl)
      exact absurd this (by decide)
    · obtain ⟨b', hbrowser, hsame⟩ := hkept.shown _ rfl
      cases hbrowser
      have := congrArg SettingsState.brightness hsame
      exact absurd this (by decide)
  · refine ⟨_, .request rfl, rfl, fun hagree => ?_⟩
    have := congrArg SettingsState.brightness (hagree _ rfl)
    exact absurd this (by decide)

end OpenMadt.Server
