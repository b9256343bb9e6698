import OpenMadt.Expiry
import OpenMadt.ServedRequests

/-!
# The server refines the store

Every step of the server, with the browser that lags behind it, is a step of the store.

* `represents_other`, `represents_close`, `represents_tick` — the steps that are no requests for tabs.
* `refines_of_step`, `simulated_of_run`, `refines_of_run` — every step, and every run.
-/

namespace OpenMadt.Server

open Gui Run Registry

variable {P : Platform Outside GuiState} {i : Input Outside} {bev : Conn} {w w' : World GuiState}
  {t : Store} {used : List String} {config : RuntimeConfig}

/-! ### Everything else -/

/-- The browser is not asked to take anything in. -/
def Exchange.Quiet (x : Exchange) : Prop := ∀ c gResp, x = .ask c gResp → c.newId? = none

/-- What has nothing to do with tabs brings nothing into the browser. -/
theorem ensures_quiet {request : Request} (hother : ¬ Request.OfTabs request) (bev : Conn) (s : Server) :
    (plan P i bev s request).Ensures fun x _ _ => x.Quiet := by
  have hanswer : ∀ s json, (Plan.answer s json).Ensures fun x _ _ => x.Quiet := by
    rintro s json c gResp ⟨⟩
  have hask : ∀ {s : Server} {c : Gui.Call} {k : CmdResponse → Server × Json}, c.newId? = none →
      (askFor s c k).Ensures fun x _ _ => x.Quiet := by
    rintro s c k hnew gResp _ _ ⟨⟩
    exact hnew
  have hexit : ∀ password reqName exitCode,
      (planExit P i password reqName exitCode s).Ensures fun x _ _ => x.Quiet := by
    intro password reqName exitCode
    unfold planExit
    split
    · rintro c gResp ⟨⟩
    · exact hanswer _ _
  cases request with
  | GetRandom =>
    simp only [plan, planGetRandom]
    split
    · exact hanswer _ _
    · split <;> exact hanswer _ _
  | GetInfo => exact hanswer _ _
  | GetSettings => exact hanswer _ _
  | GetCharacteristics => exact hask rfl
  | PlaySound soundId soundFlags =>
    rw [plan, relay_eq]
    exact hask rfl
  | SetSettings patch => exact hask rfl
  | Stop password => exact hexit password _ _
  | Restart password => exact hexit password _ _
  | CaptureScreenshot password fileName =>
    simp only [plan, planCaptureScreenshot]
    split
    · cases fileName with
      | none => exact hanswer _ _
      | some fileName => exact hask rfl
    · exact hanswer _ _
  | GetTabMap password =>
    simp only [plan]
    split
    · exact hask rfl
    · exact hanswer _ _
  | GetShortcuts password =>
    simp only [plan]
    split
    · exact hask rfl
    · exact hanswer _ _
  | _ => exact absurd trivial hother

/-- The browser may come and change, as long as no signal brings a shortcut in. -/
theorem Represents.evolves (hrep : Represents w t) (w' : World GuiState)
    (hevolves : w.gui.Evolves (fun signal => ¬ signal.BringsShortcut) w'.gui)
    (htabled : Tabled w'.server t.tabs t.shortcuts) :
    (t.up = true → w'.gui.browser.isSome = true)
      ∧ Represents w' { t with up := w'.gui.browser.isSome } :=
  ⟨fun hup => hevolves.isSome (hrep.up ▸ hup), rfl, htabled,
    (keptBySignals_positioned _ t.shortcuts).changes hevolves.browser hrep.positioned⟩

section Steps

variable {trace : List (World GuiState × Event Outside × World GuiState)} (hgui : P.gui = GuiState.port)
  (hrep : Represents w t)

include hgui hrep

/-- **A request that has nothing to do with tabs.** -/
theorem represents_other (hin : InStep used w) (hfresh : i.uuid ∉ used) {request : Request}
    (hother : ¬ Request.OfTabs request) (hrun : (plan P i bev w.server request).run P i bev w = some w') :
    (t.up = true → w'.gui.browser.isSome = true)
      ∧ Represents w' { t with up := w'.gui.browser.isSome } := by
  obtain ⟨x, json, ⟨heffect, hquiet⟩, hleads, -⟩ :=
    ((ensures_effect bev w.server request).and (ensures_quiet hother bev w.server)).run hrun
  have htables : w'.server.tables = w.server.tables := by
    refine heffect.tables (fun hwrites => hother ?_) fun tabId hkill => hother (hkill ▸ trivial)
    cases request <;> trivial
  refine hrep.evolves w' (evolves_exchange hgui hin hfresh hleads ?_ ?_)
    (hrep.tabled.same htables heffect.runtimeConfig)
  · rintro c gResp rfl id hid
    rw [hquiet c gResp rfl] at hid
    cases hid
  · rintro signal gResp rfl
    exact Browser.Signal.not_bringsShortcut (hquiet (.signal signal) gResp rfl)

/-- The end of a connection. -/
theorem represents_close (howners : Owners P trace w.server) (bev : Conn) :
    Represents (closeConnection P bev w) { t with tabs := t.tabs.without fun _ item =>
      w.server.runtimeConfig.tabLifetimeByConnection = true ∧ item.tag.owner = bev } := by
  have hbrowser := (browser_close hgui bev w).2
  refine ⟨hrep.up.trans (congrArg Option.isSome hbrowser.symm), ?_, fun b hb =>
    hrep.positioned b (hbrowser ▸ hb)⟩
  have hgone := hrep.tabled.forgets (forgets_closeConnection howners bev)
  have hsame : (t.tabs.without fun id _ => id ∈ {id | w.server.Owns bev id}) = t.tabs.without fun _ item =>
      w.server.runtimeConfig.tabLifetimeByConnection = true ∧ item.tag.owner = bev := by
    refine without_congr fun id item hitem => ?_
    rw [Set.mem_ofPred_eq, hrep.tabled.owners]
    refine and_congr_right fun _ => ⟨?_, fun howner => ⟨item, hitem, howner⟩⟩
    rintro ⟨item', hitem', howner⟩
    rw [hitem, Option.some.injEq] at hitem'
    exact hitem' ▸ howner
  exact hsame ▸ hgone

/-- The lease timer. -/
theorem represents_tick (howners : Owners P trace w.server) (now : Time) :
    Represents (pruneExpiredTabs P now w)
      { t with tabs := t.tabs.expire now, shortcuts := t.shortcuts.expire now } := by
  have hbrowser := (browser_tick hgui now w).2
  refine ⟨hrep.up.trans (congrArg Option.isSome hbrowser.symm), ?_, fun b hb =>
    (hrep.positioned b (hbrowser ▸ hb)).mono tags_of_without⟩
  have hdropped := hrep.tabled.forgets (forgets_dropTabs P (howners.named_expired now) w)
  rw [show (t.tabs.without fun id _ => id ∈ {id | id ∈ expired now w.server.tabLeases})
      = t.tabs.expire now from hrep.tabled.tabLeases.without_expired now] at hdropped
  have hshortcuts : Leased (pruneExpiredTabs P now w).server.shortcutLeases (t.shortcuts.expire now) := by
    have hpruned := leases_pruneExpiredTabs howners .shortcut now
    rw [← hrep.tabled.shortcutLeases.without_expired now]
    refine hrep.tabled.shortcutLeases.without (fun id hid => ?_) fun id hid => ?_
    · exact (hpruned id).trans (if_pos hid)
    · exact (hpruned id).trans (if_neg hid)
  obtain ⟨hleases, htabs, hextra⟩ := tabs_pruneExpiredTabs P now w
  refine (hdropped.setShortcuts hshortcuts).same ?_ ?_
  · simp only [tables, hleases, htabs, hextra]
  · exact (Prod.mk.inj (rest_pruneExpiredTabs P now w)).1.trans
      (Prod.mk.inj (rest_dropTabs P (expired now w.server.tabLeases) w)).1.symm

end Steps

/-! ### Runs -/

/-- What an event of the server is to the store. -/
inductive Observes (P : Platform Outside GuiState) :
    World GuiState × Event Outside × World GuiState → StoreEvent → Prop where
  | served {i : Input Outside} {bev : Conn} {requestText : Bytes} {request : Request} {code : ReturnCode}
      {w w' : World GuiState} (hdecode : decode P requestText = .ok request) (htabs : Request.OfTabs request)
      (hanswers : Answers bev code w w') :
      Observes P (w, .request i bev requestText, w') (.served bev i.now i.uuid request code)
  | other {i : Input Outside} {bev : Conn} {requestText : Bytes} {request : Request} {w w' : World GuiState}
      (hdecode : decode P requestText = .ok request) (hother : ¬ Request.OfTabs request) :
      Observes P (w, .request i bev requestText, w') (.other bev)
  | close {bev : Conn} {w w' : World GuiState} : Observes P (w, .close bev, w') (.close bev)
  | tick {now : Time} {w w' : World GuiState} : Observes P (w, .tick now, w') (.tick now)
  | gui {w w' : World GuiState} : Observes P (w, .gui, w') .gui

/-- A step of a server with this configuration is a step of the store. -/
structure Refines (P : Platform Outside GuiState) (config : RuntimeConfig)
    (entry : World GuiState × Event Outside × World GuiState) (step : Store × StoreEvent × Store) : Prop where
  configured : entry.1.server.runtimeConfig = config
  before : Represents entry.1 step.1
  observes : Observes P entry step.2.1
  taken : StoreStep (rulesOf config) step.1 step.2.1 step.2.2
  after : Represents entry.2.2 step.2.2

/-- **Every step** of the server is one of the store. -/
theorem refines_of_step (hgui : P.gui = GuiState.port)
    {trace : List (World GuiState × Event Outside × World GuiState)} {e : Event Outside}
    (howners : Owners P trace w.server) (hin : InStep used w) (hconfig : w.server.runtimeConfig = config)
    (hholds : w.gui.Holds config (Arranged config)) (hrep : Represents w t)
    (hstep : Step P GuiState.Moves w e w') (hnonempty : e.uuid? ≠ some "")
    (hfresh : ∀ uuid, e.uuid? = some uuid → uuid ∉ used) :
    ∃ event t', Refines P config (w, e, w') (t, event, t') := by
  cases hstep with
  | request hout =>
    rename_i i bev requestText
    obtain ⟨request, hdecode, hrun⟩ := decoded_of_outcome hout
    by_cases htabs : Request.OfTabs request
    · obtain ⟨code, t', hanswers, hserves, hrep'⟩ := serves_of_run hgui hin hholds hrep
        (fun heq => hnonempty (congrArg some heq)) (hfresh i.uuid rfl) htabs hrun
      exact ⟨_, t', hconfig, hrep, .served hdecode htabs hanswers, .served hserves, hrep'⟩
    · obtain ⟨hup, hrep'⟩ := represents_other hgui hrep hin (hfresh i.uuid rfl) htabs hrun
      exact ⟨_, _, hconfig, hrep, .other hdecode htabs, .other bev hup, hrep'⟩
  | close bev =>
    subst hconfig
    exact ⟨_, _, rfl, hrep, .close, .close t bev, represents_close hgui hrep howners bev⟩
  | tick now => exact ⟨_, _, hconfig, hrep, .tick, .tick t now, represents_tick hgui hrep howners now⟩
  | gui hmoves =>
    rename_i g
    obtain ⟨hup, hrep'⟩ := hrep.evolves { w with gui := g } (hmoves.evolves hin.settled) hrep.tabled
    exact ⟨_, _, hconfig, hrep, .gui, .gui hup, hrep'⟩

theorem represents_start (softwareVersion timestamp : String) (config : RuntimeConfig) :
    Represents (World.start softwareVersion timestamp config (GuiState.start config)) Store.start := by
  refine ⟨rfl, ⟨fun id => rfl, ?_, fun bev id => ?_, fun id => rfl⟩, ?_⟩
  · rintro id item ⟨⟩
  · constructor
    · rintro ⟨owned, howned, -⟩
      cases howned
    · rintro ⟨-, item, hitem, -⟩
      cases hitem
  · rintro b ⟨⟩

section Runs

variable (hgui : P.gui = GuiState.port) {softwareVersion timestamp : String} {config : RuntimeConfig}
  {trace : List (World GuiState × Event Outside × World GuiState)}
  (hrun : Steps (Traced (Step P GuiState.Moves))
    (World.start softwareVersion timestamp config (GuiState.start config)) trace w)
  (hnonempty : "" ∉ uuids trace) (hfresh : (uuids trace).Nodup)

include hgui hrun hnonempty hfresh

/-- The run of the store that goes with a run of the server. -/
theorem simulated_of_run : w.server.runtimeConfig = config ∧ ∃ steps t,
    List.Forall₂ (Refines P config) trace steps
      ∧ Steps (Traced (StoreStep (rulesOf config))) Store.start steps t ∧ Represents w t := by
  refine fresh_history (fun trace w => w.server.runtimeConfig = config ∧ ∃ steps t,
    List.Forall₂ (Refines P config) trace steps
      ∧ Steps (Traced (StoreStep (rulesOf config))) Store.start steps t ∧ Represents w t)
    ⟨rfl, [], _, .nil, .nil _, represents_start softwareVersion timestamp config⟩ ?_ hrun hnonempty hfresh
  intro before w₁ e w₂ hbefore hnonempty hfresh ih hstep hnew hunused
  obtain ⟨hconfig, steps, t, hrefines, hsteps, hrep⟩ := ih
  obtain ⟨event, t', hlast⟩ := refines_of_step hgui
    (owners_of_run hbefore hnonempty hfresh) (inStep_of_trace hgui hbefore hnonempty hfresh) hconfig
    (holds_of_run hgui (keptBySignals_arranged config) hbefore hnonempty hfresh) hrep hstep hnew hunused
  exact ⟨hstep.runtimeConfig.trans hconfig, steps ++ [(t, event, t')], t',
    List.rel_append hrefines (.cons hlast .nil), hsteps.append (.cons ⟨rfl, rfl, hlast.taken⟩ (.nil _)),
    hlast.after⟩

/-- **The server refines the store**: in every run of requests, closed connections, lease ticks and moves of
the GUI thread, the server with its browser does what the store does, and answers what it answers.  There
are tabs only while there is a browser. -/
theorem refines_of_run : ∃ steps t, List.Forall₂ (Refines P config) trace steps
    ∧ Steps (Traced (StoreStep (rulesOf config))) Store.start steps t ∧ Represents w t
    ∧ t.Sound := by
  obtain ⟨-, steps, t, hrefines, hsteps, hrep⟩ := simulated_of_run hgui hrun hnonempty hfresh
  refine ⟨steps, t, hrefines, hsteps, hrep, hsteps.invariant Store.Sound ?_ fun id hlive => ?_⟩
  · rintro t₁ ⟨_, e, _⟩ t₂ hsound ⟨rfl, rfl, hstep⟩
    exact hstep.sound hsound
  · exact absurd hlive (Registry.not_live_empty id)

end Runs

/-- Two tabs, one of them with a lease that runs out. -/
theorem refines_of_lease : ∃ trace w, trace.map (fun entry => entry.2.1) = leaseEvents.take 5
    ∧ Steps (Traced (Step tabPlatform GuiState.Moves))
        (World.start "1" "2024-01-01T00:00:00Z" {} (.start {})) trace w
    ∧ ∃ steps t, List.Forall₂ (Refines tabPlatform {}) trace steps
      ∧ Steps (Traced (StoreStep (rulesOf {}))) Store.start steps t
      ∧ Represents w t ∧ t.Sound := by
  have hrun : Steps (Step tabPlatform GuiState.Moves)
      (World.start "1" "2024-01-01T00:00:00Z" {} (.start {})) (leaseEvents.take 5) _ :=
    .cons (.gui .startup) (.cons (.request rfl) (.cons (.request rfl) (.cons (.request rfl)
      (.cons (.tick _ _) (.nil _)))))
  obtain ⟨trace, hevents, htraced⟩ := hrun.traced
  have huuids : uuids trace = [extraId, leasedId, sampleInput.uuid] := by
    rw [uuids_eq, hevents]
    rfl
  refine ⟨trace, _, hevents, htraced, ?_⟩
  exact refines_of_run rfl htraced (by rw [huuids]; decide) (by rw [huuids]; decide)

end OpenMadt.Server
