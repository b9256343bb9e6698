import Mathlib.Logic.Relation
import OpenMadt.Ownership

/-!
# The browser behind the server

The browser is created by the startup timer, executes the signals of its queue, and takes over settings.
Nothing else happens to it, whatever requests come, and whenever the GUI thread gets to its queue.

* `Browser.Changes` — the three of them, with the signals that are admitted besides the kills of the queue.
* `GuiState.Evolves` — any number of changes; one lemma for each function of the port, and one for each
  step of the server.
* `KeptBySignals` — a property of a browser on its own that no change takes away.
* `holds_of_run` — the rule for runs of the server.
-/

namespace OpenMadt.Gui

theorem fresh_of_isKill {b : Browser} {signal : Browser.Signal} (h : IsKill signal) : Fresh b signal := by
  cases signal with
  | KillTab uuid forceDestroy => trivial
  | KillShortcut shortcutId => trivial
  | _ => exact h.elim

/-- What can happen to the browser, or to the lack of one. -/
inductive Browser.Changes (config : RuntimeConfig) (admitted : Browser.Signal → Prop) :
    Option Browser → Option Browser → Prop where
  | created : Changes config admitted none (some ((Browser.new config).ApplySettings config.settings))
  | executed {b b' : Browser} {signal : Browser.Signal} {resp : CmdResponse}
      (hadmitted : IsKill signal ∨ admitted signal) (hfresh : Fresh b signal)
      (hexec : b.exec signal = some (b', resp)) : Changes config admitted (some b) (some b')
  | applied (b : Browser) (settings : SettingsState) :
      Changes config admitted (some b) (some (b.ApplySettings settings))

/-- A new browser has the property, and nothing that can happen to a browser takes it away. -/
structure KeptBySignals (config : RuntimeConfig) (admitted : Browser.Signal → Prop) (I : Browser → Prop) :
    Prop where
  new : I (Browser.new config)
  exec : ∀ {b b' : Browser} {signal : Browser.Signal} {resp : CmdResponse}, I b →
    IsKill signal ∨ admitted signal → Fresh b signal → b.exec signal = some (b', resp) → I b'
  applySettings : ∀ {b : Browser} (settings : SettingsState), I b → I (b.ApplySettings settings)

section Kept

variable {config : RuntimeConfig} {admitted : Browser.Signal → Prop} {I : Browser → Prop}

/-- **The rule for changes.** -/
theorem KeptBySignals.changes (h : KeptBySignals config admitted I) {o o' : Option Browser}
    (hchanges : Relation.ReflTransGen (Browser.Changes config admitted) o o') (ho : ∀ b, o = some b → I b) :
    ∀ b, o' = some b → I b := by
  induction hchanges with
  | refl => exact ho
  | tail _ hlast ih =>
    intro b hb
    obtain rfl := hb
    cases hlast with
    | created => exact h.applySettings _ h.new
    | executed hadmitted hfresh hexec => exact h.exec (ih _ rfl) hadmitted hfresh hexec
    | applied b settings => exact h.applySettings settings (ih b rfl)

/-- No change takes the browser away. -/
theorem Browser.isSome_of_changes {o o' : Option Browser}
    (hchanges : Relation.ReflTransGen (Browser.Changes config admitted) o o') (ho : o.isSome = true) :
    o'.isSome = true := by
  induction hchanges with
  | refl => exact ho
  | tail _ hlast _ => cases hlast <;> rfl

/-- The queue has kills only. -/
theorem changes_execAll {queue : List Browser.Signal} (hkills : ∀ signal ∈ queue, IsKill signal)
    {b b' : Browser} (h : GuiState.execAll b queue = some b') :
    Relation.ReflTransGen (Browser.Changes config admitted) (some b) (some b') := by
  induction queue generalizing b with
  | nil =>
    cases h
    exact .refl
  | cons signal queue ih =>
    obtain ⟨hkill, hrest⟩ := List.forall_mem_cons.mp hkills
    rw [GuiState.execAll] at h
    cases hexec : b.exec signal with
    | none =>
      rw [hexec] at h
      cases h
    | some r =>
      rw [hexec] at h
      exact .head (.executed (Or.inl hkill) (fresh_of_isKill hkill) hexec) (ih hrest h)

end Kept

namespace GuiState

variable {config : RuntimeConfig} {admitted : Browser.Signal → Prop} {I : Browser → Prop}
  {g g' g'' : GuiState}

/-- The browser of the GUI thread, if there is one, has the property. -/
structure Holds (config : RuntimeConfig) (I : Browser → Prop) (g : GuiState) : Prop where
  runtimeConfig : g.runtimeConfig = config
  browser : ∀ b, g.browser = some b → I b

/-- The browser of the GUI thread has come about by changes. -/
structure Evolves (admitted : Browser.Signal → Prop) (g g' : GuiState) : Prop where
  runtimeConfig : g'.runtimeConfig = g.runtimeConfig
  browser : Relation.ReflTransGen (Browser.Changes g.runtimeConfig admitted) g.browser g'.browser

theorem Evolves.trans (h : g.Evolves admitted g') (h' : g'.Evolves admitted g'') : g.Evolves admitted g'' :=
  ⟨h'.runtimeConfig.trans h.runtimeConfig, h.browser.trans (h.runtimeConfig ▸ h'.browser)⟩

theorem Evolves.of_same (hconfig : g'.runtimeConfig = g.runtimeConfig) (hsame : g'.browser = g.browser) :
    g.Evolves admitted g' :=
  ⟨hconfig, hsame ▸ .refl⟩

theorem Evolves.refl (g : GuiState) : g.Evolves admitted g := .of_same rfl rfl

/-- **What every change keeps** is kept. -/
theorem Holds.evolves (h : g.Holds config I) (hI : KeptBySignals config admitted I)
    (hevolves : g.Evolves admitted g') : g'.Holds config I := by
  obtain ⟨rfl, hbrowser⟩ := h
  exact ⟨hevolves.runtimeConfig, hI.changes hevolves.browser hbrowser⟩

/-- **The browser after its queue**, which has kills only. -/
theorem Holds.execAll (h : g.Holds config I) (hI : KeptBySignals config admitted I) (hsettled : g.Settled)
    {b b' : Browser} (hbrowser : g.browser = some b) (hall : GuiState.execAll b g.queue = some b') :
    I b' ∧ b'.holdings = g.holdings := by
  constructor
  · refine hI.changes (changes_execAll hsettled.kills hall) ?_ b' rfl
    rintro _ ⟨⟩
    exact h.browser b hbrowser
  · rw [holdings, hbrowser]
    exact execAll_holdings hsettled.kills hall

/-- The browser stays. -/
theorem Evolves.isSome (h : g.Evolves admitted g') (hsome : g.browser.isSome = true) :
    g'.browser.isSome = true :=
  Browser.isSome_of_changes h.browser hsome

/-! ### The functions of the port -/

/-- Signals that are only sent leave the browser alone. -/
theorem browser_posts (g : GuiState) (ids : List String) (signal : String → Browser.Signal) :
    (ids.foldl (fun g id => g.post (signal id)) g).runtimeConfig = g.runtimeConfig
      ∧ (ids.foldl (fun g id => g.post (signal id)) g).browser = g.browser := by
  induction ids generalizing g with
  | nil => exact ⟨rfl, rfl⟩
  | cons id ids ih =>
    have hpost : (g.post (signal id)).runtimeConfig = g.runtimeConfig
        ∧ (g.post (signal id)).browser = g.browser := by
      unfold post
      cases hbrowser : g.browser with
      | none => exact ⟨rfl, hbrowser⟩
      | some b => exact ⟨rfl, rfl⟩
    obtain ⟨hconfig, hbrowser⟩ := ih (g.post (signal id))
    exact ⟨hconfig.trans hpost.1, hbrowser.trans hpost.2⟩

theorem evolves_createBrowser (g : GuiState) : g.Evolves admitted g.createBrowser := by
  unfold createBrowser
  split
  · exact .refl g
  next hcreate =>
    have hbrowser : g.browser = none := by
      cases hb : g.browser with
      | none => rfl
      | some b => simp [hb] at hcreate
    exact ⟨rfl, hbrowser ▸ .single .created⟩

theorem evolves_drainQueue (hsettled : g.Settled) (hdrain : g.drainQueue = some g') :
    g.Evolves admitted g' := by
  unfold drainQueue at hdrain
  cases hbrowser : g.browser with
  | none =>
    rw [hbrowser] at hdrain
    cases hdrain
    exact .of_same rfl hbrowser.symm
  | some b =>
    rw [hbrowser] at hdrain
    obtain ⟨b', hall, rfl⟩ := Option.map_eq_some_iff.mp hdrain
    exact ⟨rfl, hbrowser ▸ changes_execAll hsettled.kills hall⟩

/-- A lambda, with or without the startup timer. -/
theorem evolves_invoke {o : Outside} {lambda : GuiState → Option (CmdResponse × GuiState)}
    (hlambda : ∀ {g resp g'}, lambda g = some (resp, g') → g.Evolves admitted g')
    {gResp : Option CmdResponse} (hcall : invoke o lambda g = some (gResp, g')) (hsettled : g.Settled) :
    g.Evolves admitted g' := by
  rcases invoke_cases hcall with ⟨-, -, rfl⟩ | ⟨-, g₁, resp, g₂, hdrain, hg₂, -, rfl⟩
  · exact .refl g'
  have hstart : g.Evolves admitted (if o.startup = .beforeCommand then g.createBrowser else g)
      ∧ (if o.startup = .beforeCommand then g.createBrowser else g).Settled := by
    split
    · exact ⟨evolves_createBrowser g, (holdings_createBrowser hsettled).1⟩
    · exact ⟨.refl g, hsettled⟩
  have hend := (hstart.1.trans (evolves_drainQueue hstart.2 hdrain)).trans (hlambda hg₂)
  split
  · exact hend.trans (evolves_createBrowser g₂)
  · exact hend

theorem evolves_applySettings {o : Outside} {settings : SettingsState} {resp : CmdResponse}
    (h : applySettings o settings g = some (resp, g')) : g.Evolves admitted g' := by
  unfold applySettings at h
  dsimp only at h
  split at h
  · cases h
  · cases h
    refine ⟨rfl, ?_⟩
    show Relation.ReflTransGen _ g.browser (g.browser.map (·.ApplySettings settings))
    cases g.browser with
    | none => exact .refl
    | some b => exact .single (.applied b settings)

/-- **The functions that are waited for.** -/
theorem evolves_call {o : Outside} {c : Call} {gResp : Option CmdResponse}
    (hcall : g.call o c = some (gResp, g')) (hsettled : g.Settled)
    (hfresh : ∀ id, c.newId? = some id → id ∉ g.holdings.ids)
    (hadmitted : ∀ signal, c = .signal signal → admitted signal) : g.Evolves admitted g' := by
  cases c with
  | signal signal =>
    rcases callSignal_cases hcall with ⟨-, -, rfl⟩ | ⟨b, b₁, b', resp, hbrowser, hall, hexec, -, rfl⟩
    · exact .refl g'
    · have hholdings : b₁.holdings = g.holdings := by
        simp only [holdings, hbrowser, execAll_holdings hsettled.kills hall]
      have hnew : Fresh b₁ signal := fresh_of_freshFor (hholdings ▸ freshFor_of_newId hfresh)
      refine ⟨rfl, ?_⟩
      rw [hbrowser]
      exact (changes_execAll hsettled.kills hall).tail (.executed (Or.inr (hadmitted signal rfl)) hnew hexec)
  | GetCharacteristics =>
    cases hcall
    exact .refl g
  | CaptureScreenshot fileName =>
    refine evolves_invoke (fun hlambda => ?_) hcall hsettled
    cases hlambda
    exact .refl _
  | ApplySettings settings => exact evolves_invoke evolves_applySettings hcall hsettled
  | PlaySound soundId soundFlags soundFile soundPlayerCommand =>
    refine evolves_invoke (fun hlambda => ?_) hcall hsettled
    cases hlambda
    exact .refl _

theorem Moves.evolves (hmoves : Moves g g') (hsettled : g.Settled) : g.Evolves admitted g' := by
  cases hmoves with
  | startup => exact evolves_createBrowser g
  | execNext _ hnext =>
    unfold GuiState.execNext at hnext
    split at hnext
    next b signal queue hbrowser hqueue =>
      obtain ⟨⟨b', resp⟩, hexec, rfl⟩ := Option.map_eq_some_iff.mp hnext
      have hkill : IsKill signal := hsettled.kills signal (by rw [hqueue]; exact List.mem_cons_self)
      refine ⟨rfl, ?_⟩
      rw [hbrowser]
      exact .single (.executed (Or.inl hkill) (fresh_of_isKill hkill) hexec)
    · cases hnext
      exact .refl g

end GuiState

end OpenMadt.Gui

namespace OpenMadt.Server

open Gui Run

variable {P : Platform Outside GuiState} {trace : List (World GuiState × Event Outside × World GuiState)}
  {w w' : World GuiState} {used : List String} {admitted : Browser.Signal → Prop}

/-! ### The steps of the server -/

/-- A request, by what passes between the server and the GUI. -/
theorem evolves_exchange (hgui : P.gui = GuiState.port) (hin : InStep used w) {i : Input Outside}
    (hfresh : i.uuid ∉ used) {x : Exchange} (hleads : x.Leads P i w.gui w'.gui)
    (hnew : ∀ c gResp, x = .ask c gResp → ∀ id, c.newId? = some id → id = i.uuid)
    (hadmitted : ∀ signal gResp, x = .ask (.signal signal) gResp → admitted signal) :
    w.gui.Evolves admitted w'.gui := by
  cases x with
  | nothing =>
    have hsame : w'.gui = w.gui := hleads
    rw [hsame]
    exact .refl w.gui
  | exit exitCode =>
    rw [Exchange.Leads, hgui] at hleads
    rw [hleads]
    exact .of_same rfl rfl
  | ask c gResp =>
    refine GuiState.evolves_call (hleads.call hgui) hin.settled (fun id hid hmem => ?_) ?_
    · rw [hnew c gResp rfl id hid] at hmem
      exact hfresh (hin.used i.uuid hmem)
    · rintro signal rfl
      exact hadmitted signal gResp rfl

/-- The end of a connection only queues kills. -/
theorem browser_close (hgui : P.gui = GuiState.port) (bev : Conn) (w : World GuiState) :
    (closeConnection P bev w).gui.runtimeConfig = w.gui.runtimeConfig
      ∧ (closeConnection P bev w).gui.browser = w.gui.browser := by
  show (eraseOwnedTabs P bev w).gui.runtimeConfig = w.gui.runtimeConfig
    ∧ (eraseOwnedTabs P bev w).gui.browser = w.gui.browser
  unfold eraseOwnedTabs
  split
  · exact ⟨rfl, rfl⟩
  · split
    · exact ⟨rfl, rfl⟩
    · rw [gui_dropTabs, hgui]
      exact GuiState.browser_posts w.gui _ fun id => .KillTab id true

/-- So does the timer. -/
theorem browser_tick (hgui : P.gui = GuiState.port) (now : Time) (w : World GuiState) :
    (pruneExpiredTabs P now w).gui.runtimeConfig = w.gui.runtimeConfig
      ∧ (pruneExpiredTabs P now w).gui.browser = w.gui.browser := by
  simp only [pruneExpiredTabs, gui_dropShortcuts, gui_dropTabs, hgui]
  obtain ⟨hconfig, hbrowser⟩ := GuiState.browser_posts w.gui (expired now w.server.tabLeases)
    fun id => .KillTab id true
  rw [← hconfig, ← hbrowser]
  exact GuiState.browser_posts _ _ .KillShortcut

/-- **The step lemma.** -/
theorem Step.evolves {e : Event Outside} (hstep : Step P GuiState.Moves w e w') (hgui : P.gui = GuiState.port)
    (hin : InStep used w) (hfresh : ∀ uuid, e.uuid? = some uuid → uuid ∉ used) :
    w.gui.Evolves (fun _ => True) w'.gui := by
  cases hstep with
  | request hout =>
    rename_i i bev requestText
    obtain ⟨request, -, hrun⟩ := decoded_of_outcome hout
    obtain ⟨x, json, heffect, hleads, -⟩ := effect_of_run hrun
    refine evolves_exchange hgui hin (hfresh i.uuid rfl) hleads ?_ fun _ _ _ => trivial
    rintro c gResp rfl id hid
    exact heffect.newId id hid
  | close bev => exact .of_same (browser_close hgui bev w).1 (browser_close hgui bev w).2
  | tick now => exact .of_same (browser_tick hgui now w).1 (browser_tick hgui now w).2
  | gui hmoves => exact hmoves.evolves hin.settled

/-- **The rule for runs of the server**: what every signal keeps, the browser behind the server keeps, in
every run whose ids are fresh. -/
theorem holds_of_run (hgui : P.gui = GuiState.port) {softwareVersion timestamp : String}
    {config : RuntimeConfig} {I : Browser → Prop} (hI : KeptBySignals config (fun _ => True) I)
    (hrun : Steps (Traced (Step P GuiState.Moves))
      (World.start softwareVersion timestamp config (GuiState.start config)) trace w)
    (hnonempty : "" ∉ uuids trace) (hfresh : (uuids trace).Nodup) : w.gui.Holds config I := by
  have hstart : (World.start softwareVersion timestamp config (GuiState.start config)).gui.Holds config I := by
    refine ⟨rfl, fun b hb => ?_⟩
    cases hb
  refine fresh_history (fun _ w => w.gui.Holds config I) hstart ?_ hrun hnonempty hfresh
  intro before w₁ e w₂ hbefore hnonempty hfresh hholds hstep _ hnew
  exact hholds.evolves hI (hstep.evolves hgui (inStep_of_trace hgui hbefore hnonempty hfresh) hnew)

end OpenMadt.Server
