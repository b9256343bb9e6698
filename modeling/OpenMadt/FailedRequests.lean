import OpenMadt.BrowserRuns
import OpenMadt.TabBar

/-!
# Requests that fail

A request about tabs and shortcuts that is answered with an error leaves all of them as they were, on
both sides.

* `exec_failed` — a slot that reports an error has changed nothing, or undone what it changed.  One
  branch of `onBlinkTab` does neither, but it is not reached with a tab for every page.
* `keptBySignals_displayed` — the browser has a tab for every page, whatever happens to it.
* `ensures_failed` — the server does nothing about such a request but answer it.
* `unchanged_of_run` — both together.
-/

namespace OpenMadt.Gui

/-! ### Slots -/

namespace Browser

variable {b : Browser}

theorem onActivateTab_failed {uuid : String} (h : (b.onActivateTab uuid).2.result ≠ .OK) :
    (b.onActivateTab uuid).1 = b := by
  unfold onActivateTab at h ⊢
  cases hpage : b.list[uuid]? with
  | none => rfl
  | some page =>
    rw [hpage] at h
    exact absurd rfl h

theorem onBlinkTab_failed (hb : b.TabBar) {uuid : String} (h : (b.onBlinkTab uuid).2.result ≠ .OK) :
    (b.onBlinkTab uuid).1 = b := by
  unfold onBlinkTab at h ⊢
  cases hpage : b.list[uuid]? with
  | none => rfl
  | some page =>
    rw [hpage] at h
    dsimp only at h
    cases hextra : isExtraPage page with
    | true => simp [hextra] at h
    | false =>
      -- a normal page has a tab
      have hmem := (hb.refreshed.populated.mem_views_iff hpage).mpr hextra
      have htab : 0 ≤ (b.updatePageIndex uuid).tabs.indexOf uuid :=
        QTabWidget.indexOf_nonneg_iff.mpr hmem
      rw [hextra, if_neg (by simp), if_pos htab] at h
      split at h
      · exact absurd rfl h
      · exact absurd rfl h

theorem onKillTab_failed {uuid : String} {forceDestroy : Bool}
    (h : (b.onKillTab uuid forceDestroy).2.result ≠ .OK) : (b.onKillTab uuid forceDestroy).1 = b := by
  unfold onKillTab at h ⊢
  cases hpage : b.list[uuid]? with
  | none => rfl
  | some page =>
    rw [hpage] at h
    dsimp only at h
    split at h
    · exact absurd rfl h
    · split at h
      · exact absurd rfl h
      · exact absurd rfl h

theorem onNewShortcut_failed {url iconUrl shortcutId : String} {preferredPos flags : ℤ}
    (hfresh : shortcutId ∉ b.shortcuts)
    (h : (b.onNewShortcut url iconUrl preferredPos flags shortcutId).2.result ≠ .OK) :
    (b.onNewShortcut url iconUrl preferredPos flags shortcutId).1 = b := by
  unfold onNewShortcut at h ⊢
  split at h
  next henabled => rw [if_pos henabled]
  next henabled =>
    rw [if_neg henabled]
    split at h
    next hsize =>
      rw [if_pos hsize]
      dsimp only at h ⊢
      split at h
      next => rw [StdMap.erase_insert hfresh]
      next => exact absurd rfl h
    next hsize => rw [if_neg hsize]

theorem onKillShortcut_failed {shortcutId : String} (h : (b.onKillShortcut shortcutId).2.result ≠ .OK) :
    (b.onKillShortcut shortcutId).1 = b := by
  unfold onKillShortcut at h ⊢
  split at h
  next => exact absurd rfl h
  next hmem => rw [if_neg hmem]

end Browser

/-- **A slot that fails** leaves the browser as it was. -/
theorem exec_failed {b b' : Browser} {signal : Browser.Signal} {resp : CmdResponse} (hb : b.TabBar)
    (hfresh : Fresh b signal) (h : b.exec signal = some (b', resp)) (hfailed : resp.result ≠ .OK) :
    b' = b := by
  have htotal : ∀ {r : Browser × CmdResponse}, some r = some (b', resp) →
      (r.2.result ≠ .OK → r.1 = b) → b' = b := by
    rintro r ⟨⟩ hr
    exact hr hfailed
  cases signal with
  | NewWebTab url iconUrl preferredPos flags uuid =>
    rcases Browser.onNewWebTab_outcome h with ⟨-, rfl⟩ | ⟨-, rfl⟩ | ⟨hok, -⟩
    · rfl
    · rw [StdMap.erase_insert hfresh]
    · exact absurd hok hfailed
  | NavigateTo uuid url =>
    rcases Browser.onNavigateTo_outcome h with ⟨-, rfl⟩ | ⟨hok, -⟩
    · rfl
    · exact absurd hok hfailed
  | ActivateTab uuid => exact htotal h Browser.onActivateTab_failed
  | BlinkTab uuid => exact htotal h (Browser.onBlinkTab_failed hb)
  | KillTab uuid forceDestroy => exact htotal h Browser.onKillTab_failed
  | NewShortcut url iconUrl preferredPos flags shortcutId =>
    exact htotal h (Browser.onNewShortcut_failed hfresh)
  | KillShortcut shortcutId => exact htotal h Browser.onKillShortcut_failed
  | GetTabMap => exact htotal h fun _ => rfl
  | GetShortcuts => exact htotal h fun _ => rfl

/-! ### The browser of the GUI thread -/

theorem keptBySignals_displayed (config : RuntimeConfig) :
    KeptBySignals config (fun _ => True) Displayed where
  new := ⟨wellLaid_of_run (.nil _), Browser.tabBar_new config⟩
  exec := fun hb _ hfresh h => displayed_exec hb hfresh h
  applySettings := fun settings hb => hb.applySettings settings

end OpenMadt.Gui

namespace OpenMadt.Server

open Gui Run

variable {P : Platform Outside GuiState} {trace : List (World GuiState × Event Outside × World GuiState)}
  {w w' : World GuiState} {config : RuntimeConfig}

/-! ### Requests about tabs and shortcuts -/

/-- The requests about tabs and shortcuts. -/
def tabRequests : List RequestCode :=
  [.NewWebTab, .NewShortcut, .NavigateTo, .ActivateTab, .BlinkTab, .KillTab, .KillShortcut, .IAmAlive]

/-- The same, once they are decoded. -/
def Request.OfTabs : Request → Prop
  | .Refused | .NewWebTab .. | .NewShortcut .. | .NavigateTo .. | .ActivateTab _ | .BlinkTab _
  | .KillTab _ | .KillShortcut _ | .IAmAliveTab .. | .IAmAliveShortcut .. => True
  | _ => False

theorem ofTabs_decodeNew {json : Json} {k : String → String → ℤ → ℤ → Request} {request : Request}
    (h : decodeNew P json k = .ok request)
    (hk : ∀ url iconUrl preferredPos flags, Request.OfTabs (k url iconUrl preferredPos flags)) :
    Request.OfTabs request := by
  refine attempt_rule trivial h fun iconUrl request h => ?_
  refine attempt_rule trivial h fun preferredPos request h => ?_
  refine attempt_rule trivial h fun flags request h => ?_
  refine attempt_rule trivial h fun url request h => ?_
  cases h
  exact hk url iconUrl preferredPos flags

/-- A request that names one tab or shortcut. -/
theorem ofTabs_attempt {x : Except Fault String} {k : String → Request} {request : Request}
    (h : (attempt x fun id => .ok (k id)) = .ok request) (hk : ∀ id, Request.OfTabs (k id)) :
    Request.OfTabs request := by
  refine attempt_rule trivial h fun id request h => ?_
  cases h
  exact hk id

theorem ofTabs_decodeAs {json : Json} {code : RequestCode} {request : Request}
    (hcode : code ∈ tabRequests) (h : decodeAs P json code = .ok request) : Request.OfTabs request := by
  simp only [tabRequests, List.mem_cons, List.not_mem_nil, or_false] at hcode
  rcases hcode with rfl | rfl | rfl | rfl | rfl | rfl | rfl | rfl
  · exact ofTabs_decodeNew h fun _ _ _ _ => trivial
  · exact ofTabs_decodeNew h fun _ _ _ _ => trivial
  · simp only [decodeAs, decodeNavigateTo] at h
    split at h
    · exact attempt_rule trivial h fun url request h => ofTabs_attempt h fun _ => trivial
    · exact attempt_rule trivial h fun tabId request h => ofTabs_attempt h fun _ => trivial
  · exact ofTabs_attempt h fun _ => trivial
  · exact ofTabs_attempt h fun _ => trivial
  · exact ofTabs_attempt h fun _ => trivial
  · exact ofTabs_attempt h fun _ => trivial
  · cases h
    unfold decodeIAmAlive
    split
    · split <;> trivial
    · split <;> trivial
    · trivial

/-- The browser is asked for nothing, or for something in which it does not succeed. -/
def Exchange.Fruitless (i : Input Outside) : Exchange → Prop
  | .nothing => True
  | .ask (.signal signal) gResp => (∀ resp, gResp = some resp → resp.result ≠ .OK)
    ∧ ∀ id, signal.newId? = some id → id = i.uuid
  | _ => False

theorem ensures_askFor_failed {i : Input Outside} {s : Server} {signal : Browser.Signal}
    {k : CmdResponse → Server × Json} (hnew : ∀ id, signal.newId? = some id → id = i.uuid)
    (hk : ∀ gResp, Succeeds (k gResp).2) :
    (askFor s (.signal signal) k).Ensures fun x s' json =>
      Succeeds json ∨ s' = s ∧ x.Fruitless i :=
  ensures_askFor (fun hfailed => Or.inr ⟨rfl, hfailed.1, hnew⟩) fun _ => Or.inl (hk _)

/-- **The server does nothing** about such a request if it does not succeed. -/
theorem ensures_failed {i : Input Outside} (bev : Conn) (s : Server) {request : Request}
    (hrequest : Request.OfTabs request) :
    (plan P i bev s request).Ensures fun x s' json => Succeeds json ∨ s' = s ∧ x.Fruitless i := by
  have hok : ∀ members, Succeeds (response .MTSRC_OK members) :=
    fun _ => succeeds_response_iff.mpr rfl
  have hanswer : ∀ json, (Plan.answer s json).Ensures fun x s' json =>
      Succeeds json ∨ s' = s ∧ x.Fruitless i := fun _ => Or.inr ⟨rfl, trivial⟩
  have hquiet : ∀ signal : Browser.Signal, signal.newId? = none →
      ∀ id, signal.newId? = some id → id = i.uuid := by
    intro signal hnone id hid
    rw [hnone] at hid
    cases hid
  cases request with
  | Refused => exact hanswer _
  | NewWebTab requestedUrl iconUrl preferredPos flags =>
    exact ensures_askFor_failed (by rintro id ⟨⟩; rfl) fun _ => hok _
  | NewShortcut url iconUrl preferredPos flags =>
    exact ensures_askFor_failed (by rintro id ⟨⟩; rfl) fun _ => hok _
  | NavigateTo tabId url =>
    rw [plan, relay_eq]
    exact ensures_askFor_failed (hquiet _ rfl) fun _ => hok _
  | BlinkTab tabId =>
    rw [plan, relay_eq]
    exact ensures_askFor_failed (hquiet _ rfl) fun _ => hok _
  | ActivateTab tabId =>
    rw [plan, relay_eq]
    exact ensures_askFor_failed (hquiet _ rfl) fun _ => hok _
  | KillTab tabId => exact ensures_askFor_failed (hquiet _ rfl) fun _ => hok _
  | KillShortcut shortcutId => exact ensures_askFor_failed (hquiet _ rfl) fun _ => hok _
  | IAmAliveTab tabId ttl =>
    simp only [plan]
    split
    · exact hanswer _
    · split
      · exact ensures_askFor_failed (hquiet _ rfl) fun _ => hok _
      · exact Or.inl (hok _)
  | IAmAliveShortcut shortcutId ttl =>
    simp only [plan]
    split
    · exact hanswer _
    · split
      · exact ensures_askFor_failed (hquiet _ rfl) fun _ => hok _
      · exact Or.inl (hok _)
  | _ => exact hrequest.elim

/-! ### Nothing has changed -/

/-- The event is a request about tabs and shortcuts, and it is answered with an error. -/
def Fails (P : Platform Outside GuiState) : World GuiState × Event Outside × World GuiState → Prop
  | (w, .request _ bev requestText, w') =>
    (∃ request reqName, P.parse requestText = some request ∧ stringAt request "req" = .ok reqName
        ∧ convertStringToMadtRequest reqName ∈ tabRequests)
      ∧ ∃ json, w'.sent = w.sent ++ [(bev, json)] ∧ ¬ Succeeds json
  | _ => False

/-- The tabs and shortcuts are as before: in the server, and in the browser as it will be once its
queue is empty.  If the queue is empty already, nothing at all has happened to the GUI. -/
structure Unchanged (w w' : World GuiState) : Prop where
  tables : w'.server.tables = w.server.tables
  pending : w'.gui.pending = w.gui.pending
  idle : w.gui.queue = [] → w'.gui = w.gui

/-- A call that fails executes the queue, and that is all. -/
theorem unchanged_callSignal {g g' : GuiState} {signal : Browser.Signal}
    {gResp : Option CmdResponse} (hcall : g.callSignal signal = some (gResp, g'))
    (hsettled : g.Settled) (hholds : g.Holds config Displayed)
    (hfresh : ∀ id, signal.newId? = some id → id ∉ g.holdings.ids)
    (hfailed : ∀ resp, gResp = some resp → resp.result ≠ .OK) :
    g'.pending = g.pending ∧ (g.queue = [] → g' = g) := by
  rcases GuiState.callSignal_cases hcall with ⟨-, -, rfl⟩ | ⟨b, b₁, b', resp, hbrowser, hall, hexec, rfl, rfl⟩
  · exact ⟨rfl, fun _ => rfl⟩
  · obtain ⟨hdisplayed, hholdings⟩ :=
      hholds.execAll (keptBySignals_displayed config) hsettled hbrowser hall
    have hnew : Fresh b₁ signal :=
      GuiState.fresh_of_freshFor (hholdings ▸ GuiState.freshFor_of_newId hfresh)
    obtain rfl := exec_failed hdisplayed.tabBar hnew hexec (hfailed resp rfl)
    refine ⟨?_, fun hqueue => ?_⟩
    · simp only [GuiState.pending, hbrowser, Option.bind_some, hall]
      rfl
    · rw [hqueue] at hall
      cases hall
      cases g
      cases hqueue
      cases hbrowser
      rfl

theorem unchanged_step (hgui : P.gui = GuiState.port) {used : List String} {e : Event Outside}
    (hin : InStep used w) (hholds : w.gui.Holds config Displayed) (hstep : Step P GuiState.Moves w e w')
    (hfresh : ∀ uuid, e.uuid? = some uuid → uuid ∉ used) (hfails : Fails P (w, e, w')) :
    Unchanged w w' := by
  cases hstep with
  | request hout =>
    rename_i i bev requestText
    obtain ⟨⟨json, reqName, hparse, hreq, hcode⟩, answer, hsent, hnot⟩ := hfails
    obtain ⟨request, hdecode, hrun⟩ := decoded_of_outcome hout
    have hrequest : Request.OfTabs request := by
      rw [decode, hparse] at hdecode
      simp only [hreq, attempt] at hdecode
      exact ofTabs_decodeAs hcode hdecode
    obtain ⟨x, answer', hfailed, hleads, hsent'⟩ := (ensures_failed bev w.server hrequest).run hrun
    rw [hsent, List.append_cancel_left_eq, List.singleton_inj, Prod.mk.injEq] at hsent'
    obtain ⟨hserver, hfruitless⟩ := hfailed.resolve_left (hsent'.2 ▸ hnot)
    have htables : w'.server.tables = w.server.tables := congrArg tables hserver
    cases x with
    | nothing =>
      have hsame : w'.gui = w.gui := hleads
      exact ⟨htables, congrArg GuiState.pending hsame, fun _ => hsame⟩
    | exit exitCode => exact hfruitless.elim
    | ask c gResp =>
      cases c with
      | signal signal =>
        obtain ⟨hpending, hidle⟩ := unchanged_callSignal (hleads.call hgui) hin.settled
          hholds (fun id hid hmem => hfresh i.uuid rfl
            (hin.used i.uuid (hfruitless.2 id hid ▸ hmem))) hfruitless.1
        exact ⟨htables, hpending, hidle⟩
      | _ => exact hfruitless.elim
  | _ => exact hfails.elim

/-- **Requests that fail change nothing**: in every run with fresh ids, whatever requests, closed
connections, ticks and moves of the GUI thread there are before. -/
theorem unchanged_of_run (hgui : P.gui = GuiState.port) {softwareVersion timestamp : String}
    (hrun : Steps (Traced (Step P GuiState.Moves))
      (World.start softwareVersion timestamp config (GuiState.start config)) trace w)
    (hnonempty : "" ∉ uuids trace) (hfresh : (uuids trace).Nodup) :
    ∀ entry ∈ trace, Fails P entry → Unchanged entry.1 entry.2.2 := by
  refine fresh_history (fun trace _ => ∀ entry ∈ trace, Fails P entry → Unchanged entry.1 entry.2.2)
    (fun entry hentry => by cases hentry) ?_ hrun hnonempty hfresh
  intro before w₁ e w₂ hbefore hnonempty hfresh ih hstep _ hnew
  have hin := inStep_of_trace hgui hbefore hnonempty hfresh
  have hholds := holds_of_run hgui (keptBySignals_displayed config) hbefore hnonempty hfresh
  intro entry hentry hfails
  rcases List.mem_append.mp hentry with hentry | hentry
  · exact ih entry hentry hfails
  · rw [List.mem_singleton] at hentry
    subst hentry
    exact unchanged_step hgui hin hholds hstep hnew hfails

/-- A second extra tab is refused. -/
theorem unchanged_of_extra : ∃ trace w,
    Steps (Traced (Step tabPlatform GuiState.Moves))
        (World.start "1" "2024-01-01T00:00:00Z" {} (.start {})) trace w
      ∧ (∃ entry ∈ trace, Fails tabPlatform entry)
      ∧ ∀ entry ∈ trace, Fails tabPlatform entry → Unchanged entry.1 entry.2.2 := by
  have hrun : Steps (Traced (Step tabPlatform GuiState.Moves))
      (World.start "1" "2024-01-01T00:00:00Z" {} (.start {})) [(_, .gui, _),
        (_, .request { sampleInput with uuid := "1" } 7 newExtraText, _),
        (_, .request { sampleInput with uuid := "2" } 8 newExtraText, _)] _ :=
    .cons ⟨rfl, rfl, .gui .startup⟩ (.cons ⟨rfl, rfl, .request rfl⟩
      (.cons ⟨rfl, rfl, .request rfl⟩ (.nil _)))
  refine ⟨_, _, hrun, ⟨_, List.mem_cons_of_mem _ (List.mem_cons_of_mem _ List.mem_cons_self), ?_⟩, ?_⟩
  · exact ⟨⟨_, "NewWebTab", rfl, rfl, by decide⟩, response .MTSRC_EXEC_ERROR, rfl,
      fun h => by cases succeeds_response_iff.mp h⟩
  · exact unchanged_of_run rfl hrun (by decide) (by decide)

end OpenMadt.Server
