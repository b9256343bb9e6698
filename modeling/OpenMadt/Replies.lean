import OpenMadt.Lifetimes

/-!
# What clients are told about the tabs

A client sees the tabs only through the answers to `GetTabMap`, and the shortcuts through those to
`GetShortcuts`.  The browser makes both out of its own tables, after whatever was queued before.

* `asked_query` — a question that changes nothing, and what the browser has when it is answered.
* `ShowsTabs`, `ListsShortcuts` — answers that tell of some tabs, or shortcuts, and of no others.
* `tabMap_of_request`, `shortcuts_of_request` — the answers in every run.
-/

namespace OpenMadt.Gui

/-- A map of tabs that has each of these once, and no others. -/
structure ShowsTabs (shown : String → Prop) (tabMap : List Json) : Prop where
  length : (tabMap.length : ℤ) = MAX_TABS
  entries : ∀ entry ∈ tabMap, entry = .int (-1) ∨ ∃ id, shown id ∧ entry = .str id
  once : ∀ id, shown id → ∃! i : ℕ, tabMap[i]? = some (.str id)

/-- A list of shortcuts that has each of these once, and no others, by position. -/
structure ListsShortcuts (listed : String → Prop) (shortcuts : List Json) : Prop where
  entries : ∃ entries : List ShortcutEntry, shortcuts = entries.map Browser.shortcutToJson
    ∧ (∀ id, listed id ↔ id ∈ entries.map ShortcutEntry.shortcutId)
    ∧ (entries.map ShortcutEntry.shortcutId).Nodup
    ∧ entries.Pairwise fun s s' => s.shortcutPos < s'.shortcutPos

/-- **The tab map of a browser** shows its normal pages. -/
theorem PagesPlaced.showsTabs {b : Browser} (h : PagesPlaced b) :
    ShowsTabs (fun id => ∃ page, b.list[id]? = some page ∧ isExtraPage page = false) b.tabMap := by
  have hshows := h.tabMapShows
  refine ⟨hshows.length, fun entry hentry => ?_, ?_⟩
  · obtain ⟨i, hi⟩ := List.mem_iff_getElem?.mp hentry
    have hlt : (i : ℤ) < MAX_TABS := by
      have hbound := (List.getElem?_eq_some_iff.mp hi).1
      have hlength := hshows.length
      omega
    by_cases hsome : ∃ (id : String) (page : BrowserPage), b.list[id]? = some page
        ∧ isExtraPage page = false ∧ page.logicalPos = i
    · obtain ⟨id, page, hpage, hnormal, hpos⟩ := hsome
      have hshown := (hshows.live id page hpage hnormal i).mpr hpos.symm
      exact Or.inr ⟨id, ⟨page, hpage, hnormal⟩, Option.some.inj (hi.symm.trans hshown)⟩
    · have hfree := hshows.free i hlt fun id page hpage hnormal hpos =>
        hsome ⟨id, page, hpage, hnormal, hpos⟩
      exact Or.inl (Option.some.inj (hi.symm.trans hfree))
  · intro id hid
    obtain ⟨page, hpage, hnormal⟩ := hid
    have hlive := hshows.live id page hpage hnormal
    obtain ⟨hlo, -⟩ := h.inRange id page hpage hnormal
    refine ⟨page.logicalPos.toNat, (hlive _).mpr (by omega), fun i hi => ?_⟩
    have hi := (hlive i).mp hi
    omega

theorem ShowsTabs.congr {shown shown' : String → Prop} {tabMap : List Json}
    (h : ShowsTabs shown tabMap) (hsame : ∀ id, shown id ↔ shown' id) : ShowsTabs shown' tabMap := by
  obtain rfl : shown = shown' := funext fun id => propext (hsame id)
  exact h

theorem ListsShortcuts.congr {listed listed' : String → Prop} {shortcuts : List Json}
    (h : ListsShortcuts listed shortcuts) (hsame : ∀ id, listed id ↔ listed' id) :
    ListsShortcuts listed' shortcuts := by
  obtain rfl : listed = listed' := funext fun id => propext (hsame id)
  exact h

/-- **The list of a browser** has its shortcuts. -/
theorem Browser.ShortcutsPlaced.listsShortcuts {b : Browser} (h : b.ShortcutsPlaced) :
    ListsShortcuts (· ∈ b.shortcuts) (b.shortcutsInDisplayOrder.map Browser.shortcutToJson) := by
  have hlisted := h.listed
  refine ⟨_, rfl, fun id => ⟨fun hid => ?_, fun hid => ?_⟩, hlisted.once, hlisted.ascending⟩
  · obtain ⟨s, hs, rfl⟩ := hlisted.all id hid
    exact List.mem_map_of_mem hs
  · obtain ⟨s, hs, rfl⟩ := List.mem_map.mp hid
    exact Browser.mem_shortcuts_iff.mpr ⟨s, hlisted.live s hs⟩

end OpenMadt.Gui

namespace OpenMadt.Server

open Gui Run Registry

variable {P : Platform Outside GuiState} {i : Input Outside} {bev : Conn} {w w' : World GuiState}
  {used : List String}

/-! ### Questions -/

/-- **A question behind the password that changes nothing** is answered from a browser that holds what the
tables say. -/
theorem asked_query {config : RuntimeConfig} (hgui : P.gui = GuiState.port) (hin : InStep used w)
    (hholds : w.gui.Holds config (Arranged config)) {signal : Browser.Signal} (payload : Browser → Json)
    (reply : Json → Json) (password : Option String)
    (hexec : ∀ b : Browser, b.exec signal = some (b, { result := .OK, payload := payload b }))
    (hrun : (if opens password w.server.runtimeConfig.tabMapPassword then
        askFor w.server (.signal signal) fun gResp => (w.server, reply gResp.payload)
      else refuse w.server).run P i bev w = some w') :
    w'.server = w.server ∧ ∃ json, w'.sent = w.sent ++ [(bev, json)]
      ∧ (opens password w.server.runtimeConfig.tabMapPassword = false → json = response .MTSRC_BAD_REQUEST)
      ∧ (opens password w.server.runtimeConfig.tabMapPassword = true → w.gui.browser = none →
          json = response .MTSRC_EXEC_ERROR)
      ∧ (opens password w.server.runtimeConfig.tabMapPassword = true → w.gui.browser.isSome = true →
          ∃ b : Browser, b.holdings = w.gui.holdings ∧ Arranged config b ∧ json = reply (payload b)) := by
  cases hopens : opens password w.server.runtimeConfig.tabMapPassword with
  | false =>
    rw [hopens, if_neg Bool.false_ne_true] at hrun
    cases hrun
    exact ⟨rfl, _, rfl, fun _ => rfl, nofun, nofun⟩
  | true =>
    rw [hopens, if_pos rfl] at hrun
    obtain ⟨⟨gResp, g⟩, hcall, rfl⟩ := Option.map_eq_some_iff.mp hrun
    rw [hgui] at hcall
    rcases GuiState.callSignal_cases hcall with ⟨hnone, rfl, -⟩ | ⟨b₀, b, b', resp, hbrowser, hall, hanswer,
      rfl, -⟩
    · refine ⟨rfl, _, rfl, nofun, fun _ _ => rfl, fun _ hsome => ?_⟩
      rw [hnone] at hsome
      cases hsome
    · obtain ⟨rfl, rfl⟩ := Prod.mk.inj (Option.some.inj ((hexec b).symm.trans hanswer))
      obtain ⟨hb, hholdings⟩ := hholds.execAll (keptBySignals_arranged config) hin.settled hbrowser hall
      refine ⟨rfl, _, rfl, nofun, fun _ hnone => ?_, fun _ _ => ⟨b, hholdings, hb, rfl⟩⟩
      rw [hnone] at hbrowser
      cases hbrowser

/-- The tabs that the browser shows in its bar are those of the server, but for the extra one. -/
theorem inBar_iff (hin : InStep used w) {b : Browser} (hholdings : b.holdings = w.gui.holdings)
    (id : String) : (∃ page, b.list[id]? = some page ∧ isExtraPage page = false)
      ↔ id ∈ w.server.tabLeases ∧ w.server.isExtraTab id = false := by
  have hextra := hin.agrees.isExtraTab_iff id
  rw [hin.agrees.tabs, ← Bool.not_eq_true, hextra, ← hholdings]
  show _ ↔ (b.list[id]?).map BrowserPage.preferredPos ≠ none ∧ ¬ (b.list[id]?).map _ = some Gui.POS_EXTRA
  cases hpage : b.list[id]? with
  | none => simp
  | some page => simp [isExtraPage]

theorem listed_iff (hin : InStep used w) {b : Browser} (hholdings : b.holdings = w.gui.holdings)
    (id : String) : id ∈ b.shortcuts ↔ id ∈ w.server.shortcutLeases := by
  rw [hin.agrees.shortcuts, ← hholdings]
  rfl

section Runs

variable (hgui : P.gui = GuiState.port) {softwareVersion timestamp : String} {config : RuntimeConfig}
  {trace : List (World GuiState × Event Outside × World GuiState)}
  (hrun : Steps (Traced (Step P GuiState.Moves))
    (World.start softwareVersion timestamp config (GuiState.start config)) trace w)
  (hnonempty : "" ∉ uuids trace) (hfresh : (uuids trace).Nodup)

include hgui hrun hnonempty hfresh

/-- **What `GetTabMap` tells.**  In every run, and wherever the GUI thread is with its queue: a client with the
password is told of each tab that was handed out and has not ended, the extra one excepted, once, and of
nothing else; without a browser, or without the password, it is told nothing. -/
theorem tabMap_of_request {before after : List (World GuiState × Event Outside × World GuiState)}
    {w₁ w₂ : World GuiState} {requestText : Bytes} {password : Option String}
    (hsplit : trace = before ++ (w₁, .request i bev requestText, w₂) :: after)
    (hdecode : decode P requestText = .ok (.GetTabMap password)) :
    w₂.server = w₁.server ∧ ∃ reply, w₂.sent = w₁.sent ++ [(bev, reply)]
      ∧ (opens password w₁.server.runtimeConfig.tabMapPassword = false →
          reply = response .MTSRC_BAD_REQUEST)
      ∧ (opens password w₁.server.runtimeConfig.tabMapPassword = true → w₁.gui.browser = none →
          reply = response .MTSRC_EXEC_ERROR)
      ∧ (opens password w₁.server.runtimeConfig.tabMapPassword = true →
          w₁.gui.browser.isSome = true → ∃ tabMap,
            reply = response .MTSRC_OK [("maxTabs", .int MAX_TABS), ("tabMap", .arr tabMap)]
            ∧ ShowsTabs (fun id => InUse P config.tabLifetimeByConnection id before
                ∧ ¬ CreatedExtra P before id) tabMap) := by
  subst hsplit
  obtain ⟨w₀, w₃, hbefore, ⟨rfl, rfl, hstep⟩, -⟩ := hrun.split
  obtain ⟨hnonempty, hfresh⟩ := fresh_of_split hnonempty hfresh
  have hin := inStep_of_trace hgui hbefore hnonempty hfresh
  have hholds := holds_of_run hgui (keptBySignals_arranged config) hbefore hnonempty hfresh
  obtain ⟨request, hdecode', hplan⟩ := hstep.decoded
  obtain rfl := Except.ok.inj (hdecode.symm.trans hdecode')
  obtain ⟨hsame, json, hsent, hrefused, hnone, hshown⟩ :=
    asked_query hgui hin hholds (fun b => .arr b.tabMap)
      (fun payload => response .MTSRC_OK [("maxTabs", .int MAX_TABS), ("tabMap", payload)]) password
      (fun b => rfl) hplan
  refine ⟨hsame, json, hsent, hrefused, hnone, fun hopens hsome => ?_⟩
  obtain ⟨b, hholdings, hb, hreply⟩ := hshown hopens hsome
  refine ⟨b.tabMap, hreply, hb.displayed.laid.pagesPlaced.showsTabs.congr fun id => ?_⟩
  rw [inBar_iff hin hholdings, ← held_iff_inUse hgui hbefore hnonempty hfresh id]
  refine and_congr_right fun hheld => ?_
  rw [← isExtraTab_iff_createdExtra hgui hbefore hnonempty hfresh hheld, Bool.not_eq_true]

/-- **What `GetShortcuts` tells**: the same about the shortcuts that the server holds, by position. -/
theorem shortcuts_of_request {before after : List (World GuiState × Event Outside × World GuiState)}
    {w₁ w₂ : World GuiState} {requestText : Bytes} {password : Option String}
    (hsplit : trace = before ++ (w₁, .request i bev requestText, w₂) :: after)
    (hdecode : decode P requestText = .ok (.GetShortcuts password)) :
    w₂.server = w₁.server ∧ ∃ reply, w₂.sent = w₁.sent ++ [(bev, reply)]
      ∧ (opens password w₁.server.runtimeConfig.tabMapPassword = false →
          reply = response .MTSRC_BAD_REQUEST)
      ∧ (opens password w₁.server.runtimeConfig.tabMapPassword = true → w₁.gui.browser = none →
          reply = response .MTSRC_EXEC_ERROR)
      ∧ (opens password w₁.server.runtimeConfig.tabMapPassword = true →
          w₁.gui.browser.isSome = true → ∃ shortcuts,
            reply = response .MTSRC_OK [("shortcuts", .arr shortcuts)]
            ∧ ListsShortcuts (· ∈ w₁.server.shortcutLeases) shortcuts) := by
  subst hsplit
  obtain ⟨w₀, w₃, hbefore, ⟨rfl, rfl, hstep⟩, -⟩ := hrun.split
  obtain ⟨hnonempty, hfresh⟩ := fresh_of_split hnonempty hfresh
  have hin := inStep_of_trace hgui hbefore hnonempty hfresh
  have hholds := holds_of_run hgui (keptBySignals_arranged config) hbefore hnonempty hfresh
  obtain ⟨request, hdecode', hplan⟩ := hstep.decoded
  obtain rfl := Except.ok.inj (hdecode.symm.trans hdecode')
  obtain ⟨hsame, json, hsent, hrefused, hnone, hshown⟩ :=
    asked_query hgui hin hholds
      (fun b => .arr (b.shortcutsInDisplayOrder.map Browser.shortcutToJson))
      (fun payload => response .MTSRC_OK [("shortcuts", payload)]) password (fun b => rfl) hplan
  refine ⟨hsame, json, hsent, hrefused, hnone, fun hopens hsome => ?_⟩
  obtain ⟨b, hholdings, hb, hreply⟩ := hshown hopens hsome
  exact ⟨_, hreply, hb.shortcutsPlaced.listsShortcuts.congr (listed_iff hin hholdings)⟩

end Runs

/-! ### A tab and a shortcut -/

def tabMapText : Bytes := utf8 "\x7b\"req\":\"GetTabMap\"\x7d"

def newShortcutText : Bytes := utf8 "\x7b\"req\":\"NewShortcut\",\"url\":\"s\"\x7d"

def shortcutsText : Bytes := utf8 "\x7b\"req\":\"GetShortcuts\"\x7d"

def mapPlatform : Platform Outside GuiState :=
  .sample [(newTabText, .obj [("req", .str "NewWebTab"), ("url", .str "m")]),
    (tabMapText, .obj [("req", .str "GetTabMap")]),
    (newShortcutText, .obj [("req", .str "NewShortcut"), ("url", .str "s")]),
    (shortcutsText, .obj [("req", .str "GetShortcuts")])]

/-- The tab is shown. -/
theorem tabMap_of_request_tab : ∃ before w₁ w₂ reply tabMap,
    Steps (Traced (Step mapPlatform GuiState.Moves)) (World.start "1" "2024-01-01T00:00:00Z" {} (.start {}))
        (before ++ [(w₁, .request sampleInput 7 tabMapText, w₂)]) w₂
      ∧ w₂.sent = w₁.sent ++ [(7, reply)]
      ∧ reply = response .MTSRC_OK [("maxTabs", .int MAX_TABS), ("tabMap", .arr tabMap)]
      ∧ ShowsTabs (fun id => InUse mapPlatform false id before ∧ ¬ CreatedExtra mapPlatform before id) tabMap := by
  have hrun : Steps (Traced (Step mapPlatform GuiState.Moves))
      (World.start "1" "2024-01-01T00:00:00Z" {} (.start {}))
      ([(_, .gui, _), (_, .request { sampleInput with uuid := leasedId } 7 newTabText, _)]
        ++ [(_, .request sampleInput 7 tabMapText, _)]) _ :=
    .cons ⟨rfl, rfl, .gui .startup⟩ (.cons ⟨rfl, rfl, .request rfl⟩
      (.cons ⟨rfl, rfl, .request rfl⟩ (.nil _)))
  have hdecode : decode mapPlatform tabMapText = .ok (.GetTabMap none) := rfl
  obtain ⟨-, reply, hsent, -, -, hshown⟩ :=
    tabMap_of_request rfl hrun (by decide) (by decide) rfl hdecode
  obtain ⟨tabMap, hreply, hshows⟩ := hshown rfl rfl
  exact ⟨_, _, _, reply, tabMap, hrun, hsent, hreply, hshows⟩

/-- The shortcut is listed. -/
theorem shortcuts_of_request_shortcut : ∃ before w₁ w₂ reply shortcuts,
    Steps (Traced (Step mapPlatform GuiState.Moves)) (World.start "1" "2024-01-01T00:00:00Z" {} (.start {}))
        (before ++ [(w₁, .request sampleInput 7 shortcutsText, w₂)]) w₂
      ∧ w₂.sent = w₁.sent ++ [(7, reply)] ∧ reply = response .MTSRC_OK [("shortcuts", .arr shortcuts)]
      ∧ ListsShortcuts (· ∈ w₁.server.shortcutLeases) shortcuts := by
  have hrun : Steps (Traced (Step mapPlatform GuiState.Moves))
      (World.start "1" "2024-01-01T00:00:00Z" {} (.start {}))
      ([(_, .gui, _), (_, .request { sampleInput with uuid := leasedId } 7 newShortcutText, _)]
        ++ [(_, .request sampleInput 7 shortcutsText, _)]) _ :=
    .cons ⟨rfl, rfl, .gui .startup⟩ (.cons ⟨rfl, rfl, .request rfl⟩
      (.cons ⟨rfl, rfl, .request rfl⟩ (.nil _)))
  have hdecode : decode mapPlatform shortcutsText = .ok (.GetShortcuts none) := rfl
  obtain ⟨-, reply, hsent, -, -, hlisted⟩ :=
    shortcuts_of_request rfl hrun (by decide) (by decide) rfl hdecode
  obtain ⟨shortcuts, hreply, hlists⟩ := hlisted rfl rfl
  exact ⟨_, _, _, reply, shortcuts, hrun, hsent, hreply, hlists⟩

end OpenMadt.Server
