import OpenMadt.Effects

/-!
# The server's tables and the browser's

The server keeps tables of its own of the tabs, the shortcuts and the extra tab, and changes them in
ten places: with the confirmation of the GUI, or before the GUI has done anything.  They agree with
what the browser holds once its queue is empty.

* `Agrees` — the agreement of a server with some holdings; one lemma for each way both change.
* `Exchange.Leads.holdings`, `Effect.agrees` — what a request does to the browser, and to the tables.
* `InStep` — the invariant, and `sameView_of_run` — the agreement along every run.
-/

namespace OpenMadt.Server

open Gui Run

/-- The server's tables say what the browser holds. -/
structure Agrees (s : Server) (h : Holdings) : Prop where
  tabs : ∀ id, id ∈ s.tabLeases ↔ h.pages id ≠ none
  shortcuts : ∀ id, id ∈ s.shortcutLeases ↔ id ∈ h.shortcuts
  extra : ∀ id, h.pages id = some Gui.POS_EXTRA ↔ id ≠ "" ∧ s.extraTabId = id
  named : h.pages "" = none

/-- The same tables. -/
structure SameTables (s s' : Server) : Prop where
  tabLeases : s'.tabLeases = s.tabLeases
  shortcutLeases : s'.shortcutLeases = s.shortcutLeases
  extraTabId : s'.extraTabId = s.extraTabId

theorem Agrees.same {s s' : Server} {h : Holdings} (hagrees : Agrees s h) (hsame : SameTables s s') :
    Agrees s' h :=
  ⟨by rw [hsame.tabLeases]; exact hagrees.tabs, by rw [hsame.shortcutLeases]; exact hagrees.shortcuts,
    by rw [hsame.extraTabId]; exact hagrees.extra, hagrees.named⟩

/-! ### Changes on both sides -/

section Changes

variable {s : Server} {h : Holdings} (hagrees : Agrees s h)

include hagrees

/-- A tab is forgotten, and its page destroyed. -/
theorem Agrees.forgetOwnedTab (id : String) : Agrees (s.forgetOwnedTab id) (h.dropPage id) := by
  unfold Server.forgetOwnedTab
  split
  next hempty =>
    have hsame : h.dropPage id = h := by
      refine Holdings.ext ?_ rfl
      rw [Holdings.dropPage, hempty, ← hagrees.named, Function.update_eq_self]
    rw [hsame]
    exact hagrees
  next hne =>
    constructor
    · intro a
      simp only [Holdings.dropPage, Std.ExtTreeMap.mem_erase, ne_eq, Std.LawfulEqOrd.compare_eq_iff_eq,
        hagrees.tabs]
      by_cases ha : a = id
      · simp [ha]
      · simp [Function.update_of_ne ha, Ne.symm ha]
    · exact hagrees.shortcuts
    · intro a
      by_cases ha : a = id
      · subst ha
        simp only [Holdings.dropPage, Function.update_self, reduceCtorEq, false_iff, not_and]
        intro _
        split
        · exact Ne.symm hne
        next hother => exact hother
      · simp only [Holdings.dropPage, Function.update_of_ne ha, hagrees.extra]
        split
        next hextra =>
          constructor
          · rintro ⟨_, rfl⟩
            exact absurd hextra ha
          · rintro ⟨hne', rfl⟩
            exact absurd rfl hne'
        · rfl
    · simp only [Holdings.dropPage, Function.update_of_ne (Ne.symm hne)]
      exact hagrees.named

/-- A shortcut is forgotten, and destroyed. -/
theorem Agrees.dropShortcut (id : String) :
    Agrees { s with shortcutLeases := s.shortcutLeases.erase id } (h.dropShortcut id) := by
  refine ⟨hagrees.tabs, fun a => ?_, hagrees.extra, hagrees.named⟩
  simp only [Holdings.dropShortcut, Std.ExtTreeMap.mem_erase, ne_eq,
    Std.LawfulEqOrd.compare_eq_iff_eq, hagrees.shortcuts, Set.mem_ofPred_eq]
  exact ⟨fun ha => ⟨ha.2, Ne.symm ha.1⟩, fun ha => ⟨Ne.symm ha.2, ha.1⟩⟩

/-- A new shortcut. -/
theorem Agrees.newShortcut (id : String) :
    Agrees { s with shortcutLeases := s.shortcutLeases.insertIfNew id none }
      { h with shortcuts := insert id h.shortcuts } := by
  refine ⟨hagrees.tabs, fun a => ?_, hagrees.extra, hagrees.named⟩
  simp only [Std.ExtTreeMap.mem_insertIfNew, Std.LawfulEqOrd.compare_eq_iff_eq, hagrees.shortcuts,
    Set.mem_insert_iff]
  exact or_congr_left eq_comm

/-- A new tab; an extra one is new only if there was none. -/
theorem Agrees.newTab (bev : Conn) {id : String} (hid : id ≠ "") (hfresh : h.pages id = none)
    {preferredPos : ℤ}
    (hextra : preferredPos = Gui.POS_EXTRA → ∀ a, h.pages a ≠ some Gui.POS_EXTRA) :
    Agrees
      (if preferredPos = OpenMadt.POS_EXTRA then { s.rememberOwnedTab bev id with extraTabId := id }
        else s.rememberOwnedTab bev id)
      { h with pages := Function.update h.pages id (some preferredPos) } := by
  have htabs : ∀ a, a ∈ (s.rememberOwnedTab bev id).tabLeases
      ↔ Function.update h.pages id (some preferredPos) a ≠ none := by
    intro a
    simp only [Server.rememberOwnedTab, hid, if_false, Std.ExtTreeMap.mem_insertIfNew,
      Std.LawfulEqOrd.compare_eq_iff_eq, hagrees.tabs]
    by_cases ha : a = id
    · simp [ha]
    · simp [Function.update_of_ne ha, Ne.symm ha]
  have hshortcuts : (s.rememberOwnedTab bev id).shortcutLeases = s.shortcutLeases := by
    simp only [Server.rememberOwnedTab, hid, if_false]
  have hextraTab : (s.rememberOwnedTab bev id).extraTabId = s.extraTabId := by
    simp only [Server.rememberOwnedTab, hid, if_false]
  have hnamed : Function.update h.pages id (some preferredPos) "" = none := by
    rw [Function.update_of_ne (Ne.symm hid)]
    exact hagrees.named
  split
  next hpos =>
    refine ⟨htabs, by simpa only [hshortcuts] using hagrees.shortcuts, fun a => ?_, hnamed⟩
    by_cases ha : a = id
    · subst ha
      simp [hpos, hid]
    · simp only [Function.update_of_ne ha]
      exact ⟨fun hpage => absurd hpage (hextra hpos a), fun heq => absurd heq.2.symm ha⟩
  next hpos =>
    refine ⟨htabs, by simpa only [hshortcuts] using hagrees.shortcuts, fun a => ?_, hnamed⟩
    rw [hextraTab, ← hagrees.extra]
    by_cases ha : a = id
    · subst ha
      simp only [Function.update_self, Option.some.injEq, hfresh, reduceCtorEq, iff_false]
      exact hpos
    · simp only [Function.update_of_ne ha]

/-- The lease of a tab that is there. -/
theorem Agrees.leaseTab {id : String} (hmem : id ∈ s.tabLeases) (lease : Option Time) :
    Agrees { s with tabLeases := s.tabLeases.insert id lease } h := by
  refine ⟨fun a => ?_, hagrees.shortcuts, hagrees.extra, hagrees.named⟩
  rw [← hagrees.tabs, Std.ExtTreeMap.mem_insert, Std.LawfulEqOrd.compare_eq_iff_eq]
  exact ⟨fun ha => ha.elim (fun heq => heq ▸ hmem) fun h => h, Or.inr⟩

theorem Agrees.leaseShortcut {id : String} (hmem : id ∈ s.shortcutLeases) (lease : Option Time) :
    Agrees { s with shortcutLeases := s.shortcutLeases.insert id lease } h := by
  refine ⟨hagrees.tabs, fun a => ?_, hagrees.extra, hagrees.named⟩
  rw [← hagrees.shortcuts, Std.ExtTreeMap.mem_insert, Std.LawfulEqOrd.compare_eq_iff_eq]
  exact ⟨fun ha => ha.elim (fun heq => heq ▸ hmem) fun h => h, Or.inr⟩

/-- The extra tab of the server is the extra page of the browser. -/
theorem Agrees.isExtraTab_iff (id : String) :
    s.isExtraTab id = true ↔ h.pages id = some Gui.POS_EXTRA := by
  rw [Server.isExtraTab, decide_eq_true_eq, hagrees.extra]
  exact and_congr_right fun _ => eq_comm

end Changes

/-! ### Exchanges -/

/-- What the browser will hold after an exchange. -/
def Exchange.after (h : Holdings) : Exchange → Holdings
  | .ask (.signal signal) (some gResp) => h.after signal gResp.result
  | _ => h

/-- The id that an exchange brings into the browser. -/
def Exchange.newId? : Exchange → Option String
  | .ask c _ => c.newId?
  | _ => none

theorem ids_exchange (h : Holdings) (x : Exchange) {id : String} (hid : id ∈ (x.after h).ids) :
    id ∈ h.ids ∨ x.newId? = some id := by
  cases x with
  | ask c gResp =>
    cases c with
    | signal signal =>
      cases gResp with
      | none => exact Or.inl hid
      | some gResp => exact ids_after h signal gResp.result hid
    | _ => exact Or.inl hid
  | _ => exact Or.inl hid

section Exchanges

variable {P : Platform Outside GuiState} {i : Input Outside} {g g' : GuiState} {x : Exchange}

/-- **What an exchange does to the browser.** -/
theorem Exchange.Leads.holdings (hgui : P.gui = GuiState.port) (h : x.Leads P i g g')
    (hsettled : g.Settled) (hfresh : ∀ id, x.newId? = some id → id ∉ g.holdings.ids) :
    g'.Settled ∧ g'.holdings = x.after g.holdings := by
  cases x with
  | nothing =>
    obtain rfl : g' = g := h
    exact ⟨hsettled, rfl⟩
  | exit exitCode =>
    rw [Leads, hgui] at h
    subst h
    exact ⟨⟨hsettled.kills, hsettled.noBrowser⟩, rfl⟩
  | ask c gResp =>
    have hcall := h.call hgui
    cases c with
    | signal signal =>
      rcases GuiState.holdings_callSignal hcall hsettled (GuiState.freshFor_of_newId hfresh) with
        ⟨rfl, rfl⟩ | ⟨b, b', resp, -, -, rfl, hsettled', hholdings⟩
      · exact ⟨hsettled, rfl⟩
      · exact ⟨hsettled', hholdings⟩
    | _ => exact GuiState.holdings_call hcall (by rintro _ ⟨⟩) hsettled

/-- A new extra tab has met a browser without one. -/
theorem Exchange.Leads.noExtra (hgui : P.gui = GuiState.port) {url iconUrl uuid : String} {flags : ℤ}
    {gResp : CmdResponse}
    (h : Leads P i g g' (.ask (.signal (.NewWebTab url iconUrl Gui.POS_EXTRA flags uuid)) (some gResp)))
    (hsettled : g.Settled) (hfresh : uuid ∉ g.holdings.ids) (hok : gResp.result = .OK) (id : String) :
    g.holdings.pages id ≠ some Gui.POS_EXTRA := by
  have hnew : GuiState.FreshFor g.holdings (.NewWebTab url iconUrl Gui.POS_EXTRA flags uuid) :=
    GuiState.freshFor_of_newId (by rintro id ⟨⟩; exact hfresh)
  rcases GuiState.holdings_callSignal (h.call hgui) hsettled hnew with
    ⟨hnone, -⟩ | ⟨b, b', resp, hb, hexec, hsome, -, -⟩
  · cases hnone
  · obtain rfl := Option.some.inj hsome
    rw [← hb]
    exact Browser.noExtra_of_newExtra hexec hok id

end Exchanges

/-! ### Effects -/

section Effects

variable {I G : Type} {P : Platform I G} {i : Input I} {bev : Conn} {s s' : Server} {h : Holdings}
  {request : Request} {x : Exchange} {json : Json}

theorem sameTables_afterRequest (request : Request) (s : Server) :
    SameTables s (afterRequest P i s request) := by
  unfold afterRequest
  split
  · rw [authorize_server]
    exact ⟨rfl, rfl, rfl⟩
  · split
    · split <;> exact ⟨rfl, rfl, rfl⟩
    · exact ⟨rfl, rfl, rfl⟩

/-- No request brings an id into the browser that was not generated for it. -/
theorem Effect.newId (heffect : Effect P i bev s request x s' json) :
    ∀ id, x.newId? = some id → id = i.uuid := by
  cases heffect with
  | failure hnew _ => exact hnew
  | query _ hquiet _ => simp [Exchange.newId?, Call.newId_of_quiet hquiet]
  | newTab _ => rintro id ⟨⟩; rfl
  | newShortcut _ => rintro id ⟨⟩; rfl
  | _ => rintro id ⟨⟩

/-- An exchange that fails, or is quiet, leaves the holdings as they are. -/
theorem after_of_failed {c : Gui.Call} {gResp : Option CmdResponse} {code : ReturnCode}
    (hfailed : Failed gResp code) : Exchange.after h (.ask c gResp) = h := by
  cases c with
  | signal signal =>
    cases gResp with
    | none => rfl
    | some resp => exact after_error h signal (hfailed.1 resp rfl)
  | _ => rfl

theorem after_of_quiet {c : Gui.Call} (hquiet : c.Quiet) (gResp : CmdResponse) :
    Exchange.after h (.ask c (some gResp)) = h := by
  cases c with
  | signal signal => exact after_quiet h hquiet gResp.result
  | _ => rfl

/-- **What a request does to the tables**, it does to the browser.  The extra tab is where the two
could part: the browser decides whether there may be a new one. -/
theorem Effect.agrees (heffect : Effect P i bev s request x s' json) (hagrees : Agrees s h)
    (hnonempty : i.uuid ≠ "") (hfresh : i.uuid ∉ h.ids)
    (hextra : ∀ url iconUrl flags gResp,
      x = .ask (.signal (.NewWebTab url iconUrl Gui.POS_EXTRA flags i.uuid)) (some gResp) →
        gResp.result = .OK → ∀ id, h.pages id ≠ some Gui.POS_EXTRA) : Agrees s' (x.after h) := by
  have hsame := hagrees.same (sameTables_afterRequest (P := P) (i := i) request s)
  cases heffect with
  | answer _ => exact hsame
  | issue _ _ _ => exact hagrees.same ⟨rfl, rfl, rfl⟩
  | exit hcontrol _ =>
    rw [afterRequest_control hcontrol] at hsame
    exact hsame
  | failure _ hfailed =>
    rw [after_of_failed hfailed]
    exact hsame
  | query _ hquiet _ =>
    rw [after_of_quiet hquiet]
    exact hsame
  | settings _ => exact hagrees.same ⟨rfl, rfl, rfl⟩
  | newTab hok =>
    simp only [Exchange.after, hok]
    refine hagrees.newTab bev hnonempty (not_not.mp fun hpage => hfresh (Or.inl hpage)) ?_
    rintro rfl
    exact hextra _ _ _ _ rfl hok
  | newShortcut hok =>
    simp only [Exchange.after, hok]
    exact hagrees.newShortcut i.uuid
  | hideTab hisExtra hok =>
    simp only [Exchange.after, hok, Holdings.after, (hagrees.isExtraTab_iff _).mp hisExtra, and_self,
      if_true]
    exact hagrees
  | killTab _ hok =>
    simp only [Exchange.after, hok, Holdings.after, Bool.true_eq_false, false_and, if_false]
    exact hagrees.forgetOwnedTab _
  | killShortcut _ hok =>
    simp only [Exchange.after, hok]
    exact hagrees.dropShortcut _
  | leaseTab hmem _ => exact hagrees.leaseTab hmem _
  | leaseShortcut hmem _ => exact hagrees.leaseShortcut hmem _

end Effects

/-! ### Steps -/

variable {I : Type} {P : Platform Outside GuiState} {w w' : World GuiState}

/-- The tables agree with what the browser will hold, and it holds only ids that were generated. -/
structure InStep (used : List String) (w : World GuiState) : Prop where
  settled : w.gui.Settled
  agrees : Agrees w.server w.gui.holdings
  used : ∀ id ∈ w.gui.holdings.ids, id ∈ used

/-- A request. -/
theorem InStep.request (hgui : P.gui = GuiState.port) {used : List String} (h : InStep used w)
    {i : Input Outside} {bev : Conn} {request : Request} (hnonempty : i.uuid ≠ "")
    (hfresh : i.uuid ∉ used) (hrun : (plan P i bev w.server request).run P i bev w = some w') :
    InStep (used ++ [i.uuid]) w' := by
  obtain ⟨x, json, heffect, hleads, -⟩ := effect_of_run hrun
  have hunused : i.uuid ∉ w.gui.holdings.ids := fun hmem => hfresh (h.used i.uuid hmem)
  have hnew : ∀ id, x.newId? = some id → id ∉ w.gui.holdings.ids := by
    intro id hid
    rw [heffect.newId id hid]
    exact hunused
  obtain ⟨hsettled, hholdings⟩ := hleads.holdings hgui h.settled hnew
  refine ⟨hsettled, ?_, fun id hid => ?_⟩
  · rw [hholdings]
    refine heffect.agrees h.agrees hnonempty hunused ?_
    rintro url iconUrl flags gResp rfl hok
    exact hleads.noExtra hgui h.settled hunused hok
  · rw [hholdings] at hid
    rcases ids_exchange _ x hid with hold | hid
    · exact List.mem_append_left _ (h.used id hold)
    · rw [heffect.newId id hid]
      exact List.mem_append_right _ (List.mem_singleton_self _)

section Drops

variable {used : List String} (hgui : P.gui = GuiState.port)

include hgui

theorem InStep.dropTab (h : InStep used w) (tabId : String) : InStep used (dropTab P w tabId) := by
  have hkill : IsKill (.KillTab tabId true) := rfl
  obtain ⟨hsettled, hholdings⟩ := GuiState.holdings_post h.settled hkill
  have hafter : (w.gui.post (.KillTab tabId true)).holdings = w.gui.holdings.dropPage tabId := by
    simpa [Holdings.after] using hholdings
  rw [Server.dropTab, post, hgui]
  refine ⟨hsettled, ?_, fun id hid => h.used id ?_⟩
  · rw [show (GuiState.port.post (.KillTab tabId true) w.gui).holdings = _ from hafter]
    exact h.agrees.forgetOwnedTab tabId
  · rw [show (GuiState.port.post (.KillTab tabId true) w.gui).holdings = _ from hholdings] at hid
    exact (ids_after _ _ _ hid).resolve_right (by rintro ⟨⟩)

theorem InStep.dropShortcut (h : InStep used w) (shortcutId : String) :
    InStep used (dropShortcut P w shortcutId) := by
  obtain ⟨hsettled, hholdings⟩ :=
    GuiState.holdings_post h.settled (show IsKill (.KillShortcut shortcutId) from trivial)
  rw [Server.dropShortcut, post, hgui]
  refine ⟨hsettled, ?_, fun id hid => h.used id ?_⟩
  · rw [show (GuiState.port.post (.KillShortcut shortcutId) w.gui).holdings = _ from hholdings]
    exact h.agrees.dropShortcut shortcutId
  · rw [show (GuiState.port.post (.KillShortcut shortcutId) w.gui).holdings = _ from hholdings] at hid
    exact (ids_after _ _ _ hid).resolve_right (by rintro ⟨⟩)

theorem InStep.dropTabs (tabIds : List String) {w : World GuiState} (h : InStep used w) :
    InStep used (tabIds.foldl (Server.dropTab P) w) := by
  induction tabIds generalizing w with
  | nil => exact h
  | cons tabId tabIds ih => exact ih (h.dropTab hgui tabId)

theorem InStep.dropShortcuts (shortcutIds : List String) {w : World GuiState} (h : InStep used w) :
    InStep used (shortcutIds.foldl (Server.dropShortcut P) w) := by
  induction shortcutIds generalizing w with
  | nil => exact h
  | cons shortcutId shortcutIds ih => exact ih (h.dropShortcut hgui shortcutId)

theorem InStep.closeConnection (h : InStep used w) (bev : Conn) :
    InStep used (closeConnection P bev w) := by
  have howned : InStep used (eraseOwnedTabs P bev w) := by
    unfold eraseOwnedTabs
    split
    · exact h
    · split
      · exact h
      next ownedTabs _ => exact h.dropTabs hgui _
  exact ⟨howned.settled, howned.agrees.same ⟨rfl, rfl, rfl⟩, howned.used⟩

theorem InStep.pruneExpiredTabs (h : InStep used w) (now : Time) :
    InStep used (pruneExpiredTabs P now w) := by
  have htabs := h.dropTabs hgui (expired now w.server.tabLeases)
  have hshortcuts := htabs.dropShortcuts hgui
    (expired now ((expired now w.server.tabLeases).foldl (Server.dropTab P) w).server.shortcutLeases)
  exact ⟨hshortcuts.settled, hshortcuts.agrees.same ⟨rfl, rfl, rfl⟩, hshortcuts.used⟩

/-- **One step** keeps the tables and the browser in step. -/
theorem InStep.step {e : Event Outside} (h : InStep used w) (hstep : Step P GuiState.Moves w e w')
    (hnonempty : e.uuid? ≠ some "") (hfresh : ∀ uuid, e.uuid? = some uuid → uuid ∉ used) :
    InStep (used ++ e.uuid?.toList) w' := by
  cases hstep with
  | request hout =>
    rename_i i bev requestText
    obtain ⟨request, -, hrun⟩ := decoded_of_outcome hout
    exact h.request hgui (fun heq => hnonempty (congrArg some heq)) (hfresh i.uuid rfl) hrun
  | close bev => simpa [Event.uuid?] using h.closeConnection hgui bev
  | tick now => simpa [Event.uuid?] using h.pruneExpiredTabs hgui now
  | gui hmoves =>
    obtain ⟨hsettled, hholdings⟩ := hmoves.holdings h.settled
    refine ⟨hsettled, by rw [hholdings]; exact h.agrees, fun id hid => ?_⟩
    rw [hholdings] at hid
    simpa [Event.uuid?] using h.used id hid

end Drops

/-! ### Runs -/

theorem inStep_start (softwareVersion timestamp : String) (config : RuntimeConfig) :
    InStep [] (World.start softwareVersion timestamp config (GuiState.start config)) := by
  refine ⟨GuiState.settled_of_queue_nil rfl, ⟨fun id => ?_, fun id => ?_, fun id => ?_, rfl⟩, ?_⟩
  · simp [World.start, Server.start, GuiState.holdings, GuiState.start, Holdings.empty]
  · simp [World.start, Server.start, GuiState.holdings, GuiState.start, Holdings.empty]
  · simp only [World.start, Server.start, GuiState.holdings, GuiState.start, Holdings.empty,
      reduceCtorEq, false_iff, not_and]
    exact fun hne heq => hne heq.symm
  · rintro id (hpage | hshortcut)
    · exact absurd rfl hpage
    · exact hshortcut.elim

/-- What the server's tables say is what the browser's say. -/
structure SameView (s : Server) (b : Browser) : Prop where
  tabs : ∀ id, id ∈ s.tabLeases ↔ id ∈ b.list
  shortcuts : ∀ id, id ∈ s.shortcutLeases ↔ id ∈ b.shortcuts
  noExtra : s.extraTabId = ""
    ↔ ∀ (id : String) (page : BrowserPage), b.list[id]? = some page → page.preferredPos ≠ Gui.POS_EXTRA
  extra : ∀ (id : String) (page : BrowserPage), b.list[id]? = some page →
    page.preferredPos = Gui.POS_EXTRA → s.extraTabId = id

theorem Agrees.sameView {s : Server} {b : Browser} (h : Agrees s b.holdings) : SameView s b := by
  have hpage : ∀ (id : String) (page : BrowserPage), b.list[id]? = some page →
      page.preferredPos = Gui.POS_EXTRA →
      id ≠ "" ∧ s.extraTabId = id := by
    intro id page hid hpos
    rw [← h.extra]
    simp [Browser.holdings, hid, hpos]
  refine ⟨fun id => ?_, h.shortcuts, ⟨fun hempty id page hid hpos => ?_, fun hnone => ?_⟩, ?_⟩
  · rw [h.tabs, ← Std.ExtTreeMap.isSome_getElem?_iff_mem, Option.isSome_iff_ne_none]
    simp [Browser.holdings]
  · obtain ⟨hne, rfl⟩ := hpage id page hid hpos
    exact hne hempty
  · by_contra hne
    obtain ⟨page, hid, hpos⟩ := Option.map_eq_some_iff.mp ((h.extra s.extraTabId).mpr ⟨hne, rfl⟩)
    exact hnone s.extraTabId page hid hpos
  · exact fun id page hid hpos => (hpage id page hid hpos).2

theorem inStep_of_run (hgui : P.gui = GuiState.port) {softwareVersion timestamp : String}
    {config : RuntimeConfig} {events : List (Event Outside)}
    (hrun : Steps (Step P GuiState.Moves)
      (World.start softwareVersion timestamp config (GuiState.start config)) events w)
    (hnonempty : ∀ e ∈ events, e.uuid? ≠ some "") (hfresh : (events.filterMap Event.uuid?).Nodup) :
    InStep (events.filterMap Event.uuid?) w := by
  refine hrun.history (fun before w => (∀ e ∈ before, e.uuid? ≠ some "") →
    (before.filterMap Event.uuid?).Nodup → InStep (before.filterMap Event.uuid?) w) ?_
    (fun _ _ => inStep_start softwareVersion timestamp config) hnonempty hfresh
  intro before w₁ e w₂ _ ih hstep hnonempty hfresh
  have hlast : [e].filterMap Event.uuid? = e.uuid?.toList := by
    cases huuid : e.uuid? <;> simp [huuid]
  rw [List.filterMap_append, hlast, List.nodup_append] at hfresh
  rw [List.filterMap_append, hlast]
  have hbefore := ih (fun e' he' => hnonempty e' (by simp [he'])) hfresh.1
  refine hbefore.step hgui hstep (hnonempty e (by simp)) fun uuid huuid hmem => ?_
  exact hfresh.2.2 uuid hmem uuid (by simp [huuid]) rfl

/-- **The tables agree**: in every run of requests, closed connections and lease ticks, with the GUI
thread executing its queue and the browser coming into existence at any time in between, the tables of
the server are those of the browser whenever its queue is empty. -/
theorem sameView_of_run (hgui : P.gui = GuiState.port) {softwareVersion timestamp : String}
    {config : RuntimeConfig} {events : List (Event Outside)}
    (hrun : Steps (Step P GuiState.Moves)
      (World.start softwareVersion timestamp config (GuiState.start config)) events w)
    (hnonempty : ∀ e ∈ events, e.uuid? ≠ some "") (hfresh : (events.filterMap Event.uuid?).Nodup)
    (hqueue : w.gui.queue = []) {b : Browser} (hbrowser : w.gui.browser = some b) :
    SameView w.server b := by
  have h := (inStep_of_run hgui hrun hnonempty hfresh).agrees
  rw [GuiState.holdings_of_queue_nil hbrowser hqueue] at h
  exact h.sameView

/-! ### A lease that ends -/

/-- The ids of an extra tab and of a tab with a lease. -/
def extraId : String := "00000000-0000-0000-0000-00000000000e"

def leasedId : String := "00000000-0000-0000-0000-00000000000f"

/-- The texts of a client that opens the two tabs and extends a lease once. -/
def newExtraText : Bytes := utf8 "\x7b\"req\":\"NewWebTab\",\"url\":\"x\",\"preferredPos\":-10\x7d"

def newTabText : Bytes := utf8 "\x7b\"req\":\"NewWebTab\",\"url\":\"m\"\x7d"

def aliveText : Bytes :=
  utf8 ("\x7b\"req\":\"IAmAlive\",\"TTL\":30,\"tabId\":\"" ++ leasedId ++ "\"\x7d")

def tabPlatform : Platform Outside GuiState :=
  .sample [(newExtraText, .obj [("req", .str "NewWebTab"), ("url", .str "x"),
      ("preferredPos", .int (-10))]),
    (newTabText, .obj [("req", .str "NewWebTab"), ("url", .str "m")]),
    (aliveText, .obj [("req", .str "IAmAlive"), ("TTL", .int 30), ("tabId", .str leasedId)])]

/-- The browser comes into existence, the tabs are opened, one gets a lease of 30 seconds, the lease
ends, and the GUI thread destroys the page. -/
def leaseEvents : List (Event Outside) :=
  [.gui, .request { sampleInput with uuid := extraId } 7 newExtraText,
    .request { sampleInput with uuid := leasedId } 7 newTabText, .request sampleInput 7 aliveText,
    .tick (seconds 60), .gui]

theorem sameView_of_lease : ∃ (w : World GuiState) (b : Browser),
    Steps (Step tabPlatform GuiState.Moves) (World.start "1" "2024-01-01T00:00:00Z" {} (.start {}))
        leaseEvents w
      ∧ w.gui.browser = some b ∧ b.list.keys = [extraId] ∧ SameView w.server b := by
  have hrun : Steps (Step tabPlatform GuiState.Moves)
      (World.start "1" "2024-01-01T00:00:00Z" {} (.start {})) leaseEvents _ :=
    .cons (.gui .startup) (.cons (.request rfl) (.cons (.request rfl) (.cons (.request rfl)
      (.cons (.tick _ _) (.cons (.gui (.execNext rfl rfl)) (.nil _))))))
  refine ⟨_, _, hrun, rfl, by decide +kernel, ?_⟩
  exact sameView_of_run rfl hrun (by decide) (by decide) rfl rfl

end OpenMadt.Server
