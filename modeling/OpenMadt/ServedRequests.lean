import OpenMadt.TabStore

/-!
# Requests, as the store serves them

A request is answered from the tables of the server or by the browser behind its queue.  Either way the
answer is the one of the store, and what is left is the store after it.

* `served_signal` — a signal that brings nothing in, with what the server does if it succeeds.
* `full_iff`, `noExtraPage_iff` — the browser has room for a page when the store has room for a tab.
* `serves_of_run` — every request for tabs or shortcuts.
-/

namespace OpenMadt.Server

open Gui Run Registry

/-- What is answered on the connection has this code. -/
def Answers (bev : Conn) (code : ReturnCode) (w w' : World GuiState) : Prop :=
  ∃ json, w'.sent = w.sent ++ [(bev, json)] ∧ json.find? "retCode" = some code.toJson

variable {P : Platform Outside GuiState} {i : Input Outside} {bev : Conn} {w w' : World GuiState}
  {t : Store} {used : List String} {config : RuntimeConfig}

/-! ### The two halves of a request -/

/-- A question with one answer, and one state of the server, in case of success. -/
theorem answers_of_askFor {s s₁ : Server} {c : Gui.Call} {k : CmdResponse → Server × Json}
    (hserver : ∀ gResp, (k gResp).1 = s₁)
    (hcode : ∀ gResp, (k gResp).2.find? "retCode" = some ReturnCode.MTSRC_OK.toJson)
    (hrun : (askFor s c k).run P i bev w = some w') :
    ∃ gResp, P.gui.call i.gui c w.gui = some (gResp, w'.gui) ∧ Answers bev (resultCode gResp) w w'
      ∧ w'.server = if resultCode gResp = .MTSRC_OK then s₁ else s := by
  obtain ⟨⟨gResp, g⟩, hcall, rfl⟩ := Option.map_eq_some_iff.mp hrun
  refine ⟨gResp, hcall, ?_⟩
  cases gResp with
  | none => exact ⟨⟨_, rfl, rfl⟩, rfl⟩
  | some resp =>
    rcases resp with ⟨result, payload⟩
    cases result with
    | OK => exact ⟨⟨_, rfl, hcode _⟩, hserver _⟩
    | EXEC_ERROR => exact ⟨⟨_, rfl, rfl⟩, rfl⟩
    | TAB_NOT_FOUND => exact ⟨⟨_, rfl, rfl⟩, rfl⟩

section Request

variable (hgui : P.gui = GuiState.port) (hin : InStep used w) (hholds : w.gui.Holds config (Arranged config))
  (hrep : Represents w t)

include hgui hin hholds hrep

omit hgui hholds in
theorem live_iff_pages (id : String) : t.tabs.Live id ↔ w.gui.holdings.pages id ≠ none := by
  rw [← hrep.tabled.tabLeases.mem_iff, hin.agrees.tabs]

omit hgui hholds in
theorem live_iff_shortcuts (id : String) : t.shortcuts.Live id ↔ id ∈ w.gui.holdings.shortcuts := by
  rw [← hrep.tabled.shortcutLeases.mem_iff, hin.agrees.shortcuts]

omit hgui hin hholds in
/-- What is held is held by a browser. -/
theorem up_of_held {id : String} (hid : id ∈ w.gui.holdings.ids) : t.up = true := by
  rw [hrep.up]
  cases hbrowser : w.gui.browser with
  | some b => rfl
  | none =>
    rcases hid with hpage | hshortcut
    · rw [GuiState.holdings, hbrowser] at hpage
      exact absurd rfl hpage
    · rw [GuiState.holdings, hbrowser] at hshortcut
      exact hshortcut.elim

/-- **A signal that is waited for** is answered if there is a browser, which by then holds what the tables
say, with the shortcuts at their places. -/
theorem asked {signal : Browser.Signal} {gResp : Option CmdResponse}
    (hcall : P.gui.call i.gui (.signal signal) w.gui = some (gResp, w'.gui)) :
    (t.up = false ∧ w'.gui = w.gui ∧ resultCode gResp = .MTSRC_EXEC_ERROR)
      ∨ t.up = true ∧ ∃ b b' resp, gResp = some resp ∧ Arranged config b ∧ Positioned t.shortcuts b
        ∧ b.holdings = w.gui.holdings ∧ b.exec signal = some (b', resp) ∧ w'.gui.browser = some b' := by
  rw [hgui] at hcall
  rcases GuiState.callSignal_cases hcall with ⟨hnone, rfl, hsame⟩ | ⟨b, b₁, b', resp, hbrowser, hall, hexec,
    rfl, hnext⟩
  · rw [hrep.up, hnone]
    exact Or.inl ⟨rfl, hsame, rfl⟩
  · have hpositioned : w.gui.Holds config (Positioned t.shortcuts) := ⟨hholds.runtimeConfig, hrep.positioned⟩
    obtain ⟨hb, hholdings⟩ := hholds.execAll (keptBySignals_arranged config) hin.settled hbrowser hall
    obtain ⟨hplaces, -⟩ :=
      hpositioned.execAll (keptBySignals_positioned config t.shortcuts) hin.settled hbrowser hall
    rw [hrep.up, hnext, hbrowser]
    exact Or.inr ⟨rfl, b₁, b', resp, rfl, hb, hplaces, hholdings, hexec, rfl⟩

/-- If the signal brings no shortcut in, the browser is as much that of the store as before. -/
theorem gui_of_asked {signal : Browser.Signal} {gResp : Option CmdResponse} (hsignal : ¬ signal.BringsShortcut)
    (hcall : P.gui.call i.gui (.signal signal) w.gui = some (gResp, w'.gui)) :
    t.up = w'.gui.browser.isSome ∧ ∀ b, w'.gui.browser = some b → Positioned t.shortcuts b := by
  rcases asked hgui hin hholds hrep hcall with ⟨-, hsame, -⟩ | ⟨hup, b, b', resp, -, -, hpositioned, -, hexec,
    hnext⟩
  · rw [hsame]
    exact ⟨hrep.up, hrep.positioned⟩
  · rw [hup, hnext]
    refine ⟨rfl, ?_⟩
    rintro _ ⟨⟩ id pos pos' hpos hpos'
    exact hpositioned id pos pos' hpos (Browser.shortcutPositions_of_exec hsignal hexec hpos')

/-- The answer to a signal that brings nothing in. -/
theorem code_of_asked {signal : Browser.Signal} {gResp : Option CmdResponse} (hnew : signal.newId? = none)
    {found : Bool} (hfound : found = true ↔ w.gui.holdings.Finds signal)
    (hcall : P.gui.call i.gui (.signal signal) w.gui = some (gResp, w'.gui)) :
    resultCode gResp = t.answer found := by
  rcases asked hgui hin hholds hrep hcall with ⟨hup, -, hcode⟩ | ⟨hup, b, b', resp, rfl, hb, -, hholdings,
    hexec, -⟩
  · rw [hcode, Store.answer, hup]
    rfl
  · rw [Store.answer, hup]
    have htells := Browser.tells_exec hb.displayed.tabBar hnew hexec
    rw [hholdings, ← hfound] at htells
    rcases htells with ⟨hok, htrue⟩ | ⟨hmissing, hfalse⟩
    · rw [htrue, resultCode, hok]
      rfl
    · rw [Bool.eq_false_of_not_eq_true hfalse, resultCode, hmissing]
      rfl

/-- **A signal that brings nothing in**: the answer, and what the server and the browser are afterwards. -/
theorem served_signal {signal : Browser.Signal} {s₁ : Server} {k : CmdResponse → Server × Json} {t₁ : Store}
    {found : Bool} (hnew : signal.newId? = none) (hfound : found = true ↔ w.gui.holdings.Finds signal)
    (hserver : ∀ gResp, (k gResp).1 = s₁)
    (hcode : ∀ gResp, (k gResp).2.find? "retCode" = some ReturnCode.MTSRC_OK.toJson)
    (hrun : (askFor w.server (.signal signal) k).run P i bev w = some w') (hup : found = true → t.up = true)
    (hdone : found = true → t₁.up = t.up ∧ Tabled s₁ t₁.tabs t₁.shortcuts) (hnone : found = false → t₁ = t)
    (hleft : ∀ {id pos}, t₁.shortcuts.tags id = some pos → t.shortcuts.tags id = some pos) :
    Answers bev (t.answer found) w w' ∧ Represents w' t₁ := by
  obtain ⟨gResp, hcall, hanswers, hnext⟩ := answers_of_askFor hserver hcode hrun
  obtain ⟨hgone, hpositioned⟩ :=
    gui_of_asked hgui hin hholds hrep (Browser.Signal.not_bringsShortcut hnew) hcall
  rw [code_of_asked hgui hin hholds hrep hnew hfound hcall] at hanswers hnext
  refine ⟨hanswers, ?_⟩
  cases found with
  | true =>
    rw [Store.answer_eq_ok_iff.mpr ⟨hup rfl, rfl⟩, if_pos rfl] at hnext
    exact ⟨(hdone rfl).1.trans hgone, hnext ▸ (hdone rfl).2, fun b hb => (hpositioned b hb).mono hleft⟩
  | false =>
    rw [if_neg fun hok => Bool.false_ne_true (Store.answer_eq_ok_iff.mp hok).2] at hnext
    rw [hnone rfl]
    exact ⟨hgone, hnext ▸ hrep.tabled, hpositioned⟩

/-- A request for a tab that is only passed on. -/
theorem served_relay {signal : Browser.Signal} {id : String} (hnew : signal.newId? = none)
    (hfinds : w.gui.holdings.Finds signal ↔ w.gui.holdings.pages id ≠ none)
    (hrun : (relay w.server (.signal signal)).run P i bev w = some w') :
    Answers bev (t.answer (t.tabs id).isSome) w w' ∧ Represents w' t := by
  rw [relay_eq] at hrun
  have hlive : t.tabs.Live id ↔ w.gui.holdings.pages id ≠ none := live_iff_pages hin hrep id
  refine served_signal hgui hin hholds hrep hnew (hlive.trans hfinds.symm) (fun _ => rfl) (fun _ => rfl)
    hrun (fun hfound => up_of_held hrep (Or.inl (hlive.mp hfound))) (fun _ => ⟨rfl, hrep.tabled⟩) (fun _ => rfl)
    fun hpos => hpos

omit hgui hholds in
/-- The tables after a kill. -/
theorem tabled_killTab {id : String} (hlive : t.tabs.Live id) (forceDestroy : Bool) :
    Tabled (if forceDestroy then w.server.forgetOwnedTab id else w.server)
      (t.tabs.without fun a _ => a = id ∧ forceDestroy = true) t.shortcuts := by
  cases forceDestroy with
  | true =>
    have hid : id ≠ "" := by
      rintro rfl
      exact (live_iff_pages hin hrep "").mp hlive hin.agrees.named
    have hgone := hrep.tabled.forgets (forgets_forgetOwnedTab hid w.server)
    rw [without_congr fun a _ _ => (and_iff_left rfl : a = id ∧ true = true ↔ a = id)]
    exact hgone
  | false =>
    rw [without_eq_self fun a _ _ hgone => Bool.false_ne_true hgone.2]
    exact hrep.tabled

/-- **A kill**, which destroys the tab or only hides it. -/
theorem served_killTab {id : String} {forceDestroy : Bool}
    (hrun : (planKillTab id forceDestroy w.server).run P i bev w = some w') :
    Answers bev (t.answer (t.tabs id).isSome) w w'
      ∧ Represents w' { t with tabs := t.tabs.without fun a _ => a = id ∧ forceDestroy = true } := by
  have hlive : t.tabs.Live id ↔ w.gui.holdings.Finds (.KillTab id forceDestroy) := live_iff_pages hin hrep id
  refine served_signal hgui hin hholds hrep rfl hlive (fun _ => rfl) (fun _ => rfl) hrun
    (fun hfound => up_of_held hrep (Or.inl (hlive.mp hfound)))
    (fun hfound => ⟨rfl, tabled_killTab hin hrep hfound forceDestroy⟩) (fun hnone => ?_) fun hpos => hpos
  rw [without_eq_self]
  rintro a item hitem ⟨rfl, -⟩
  rw [hitem] at hnone
  cases hnone

/-- The same for a shortcut. -/
theorem served_killShortcut {id : String}
    (hrun : (planKillShortcut id w.server).run P i bev w = some w') :
    Answers bev (t.answer (t.shortcuts id).isSome) w w'
      ∧ Represents w' { t with shortcuts := t.shortcuts.drop id } := by
  have hlive : t.shortcuts.Live id ↔ w.gui.holdings.Finds (.KillShortcut id) := live_iff_shortcuts hin hrep id
  refine served_signal hgui hin hholds hrep rfl hlive (fun _ => rfl) (fun _ => rfl) hrun
    (fun hfound => up_of_held hrep (Or.inr (hlive.mp hfound)))
    (fun _ => ⟨rfl, hrep.tabled.setShortcuts (hrep.tabled.shortcutLeases.drop id)⟩) (fun hnone => ?_)
    tags_of_without
  rw [Registry.drop, without_eq_self]
  rintro a item hitem rfl
  rw [hitem] at hnone
  cases hnone

/-! ### New tabs and shortcuts -/

omit hgui hholds in
theorem isExtra_iff (id : String) : t.IsExtra id ↔ w.gui.holdings.pages id = some Gui.POS_EXTRA := by
  rw [← hin.agrees.isExtraTab_iff]
  constructor
  · rintro ⟨item, hitem, hextra⟩
    rw [← hrep.tabled.extra id item hitem, hextra]
  · intro hextra
    have hpage := (hin.agrees.isExtraTab_iff id).mp hextra
    have hlive : t.tabs.Live id := (live_iff_pages hin hrep id).mpr (by rw [hpage]; exact Option.some_ne_none _)
    obtain ⟨item, hitem⟩ := Registry.live_iff.mp hlive
    exact ⟨item, hitem, (hrep.tabled.extra id item hitem).trans hextra⟩

omit hgui hholds in
theorem isNormal_iff (id : String) : t.IsNormal id
    ↔ ∃ pos, w.gui.holdings.pages id = some pos ∧ pos ≠ Gui.POS_EXTRA := by
  have hextra := isExtra_iff hin hrep id
  constructor
  · rintro ⟨item, hitem, hnormal⟩
    have hlive : t.tabs.Live id := Registry.live_iff.mpr ⟨item, hitem⟩
    obtain ⟨pos, hpage⟩ := Option.ne_none_iff_exists'.mp ((live_iff_pages hin hrep id).mp hlive)
    refine ⟨pos, hpage, ?_⟩
    rintro rfl
    obtain ⟨item', hitem', hextra'⟩ := hextra.mpr hpage
    rw [hitem, Option.some.injEq] at hitem'
    rw [hitem', hextra'] at hnormal
    cases hnormal
  · rintro ⟨pos, hpage, hpos⟩
    have hlive : t.tabs.Live id := (live_iff_pages hin hrep id).mpr (by rw [hpage]; exact Option.some_ne_none _)
    obtain ⟨item, hitem⟩ := Registry.live_iff.mp hlive
    refine ⟨item, hitem, Bool.eq_false_of_not_eq_true fun htrue => hpos ?_⟩
    have hpage' := hextra.mp ⟨item, hitem, htrue⟩
    rw [hpage, Option.some.injEq] at hpage'
    exact hpage'

omit hgui hholds in
/-- There is an extra page exactly if there is an extra tab. -/
theorem noExtraPage_iff {b : Browser} (hholdings : b.holdings = w.gui.holdings) :
    b.hasExtraPage = false ↔ ∀ id, ¬ t.IsExtra id := by
  rw [← Bool.not_eq_true, Browser.hasExtraPage_iff, not_exists, hholdings]
  exact forall_congr' fun id => not_congr (isExtra_iff hin hrep id).symm

omit hgui hholds in
theorem mem_normalIds_iff {b : Browser} (hholdings : b.holdings = w.gui.holdings) (id : String) :
    id ∈ normalIds b ↔ t.IsNormal id := by
  rw [mem_normalIds, isNormal_iff hin hrep, ← hholdings]
  constructor
  · rintro ⟨page, hpage, hnormal⟩
    exact ⟨page.preferredPos, congrArg (Option.map BrowserPage.preferredPos) hpage,
      of_decide_eq_false hnormal⟩
  · rintro ⟨pos, hpos, hnormal⟩
    obtain ⟨page, hpage, rfl⟩ := Option.map_eq_some_iff.mp hpos
    exact ⟨page, hpage, decide_eq_false hnormal⟩

omit hgui hholds in
/-- The pages are as many as there may be exactly if the tabs are. -/
theorem full_iff {b : Browser} (hholdings : b.holdings = w.gui.holdings) :
    t.Full ↔ MAX_TABS ≤ b.normalPageCount := by
  have hmem := mem_normalIds_iff hin hrep hholdings
  rw [← length_normalIds]
  constructor
  · rintro ⟨ids, hnodup, hlength, hnormal⟩
    have hle := hnodup.length_le_of_subset fun id hid => (hmem id).mpr (hnormal id hid)
    omega
  · intro hle
    refine ⟨(normalIds b).take MAX_TABS.toNat, (nodup_normalIds b).sublist (List.take_sublist _ _), ?_,
      fun id hid => (hmem id).mp (List.mem_of_mem_take hid)⟩
    have hmax : 0 ≤ MAX_TABS := by decide
    rw [List.length_take]
    omega

omit hgui hholds in
/-- The tables with a tab that is handed out. -/
theorem tabled_newTab (huuid : i.uuid ≠ "") (hfresh : ¬ t.tabs.Live i.uuid) {preferredPos : ℤ}
    (hroom : t.Room preferredPos) :
    Tabled (if preferredPos = POS_EXTRA then { w.server.rememberOwnedTab bev i.uuid with extraTabId := i.uuid }
        else w.server.rememberOwnedTab bev i.uuid)
      (t.tabs.register i.uuid ⟨bev, decide (preferredPos = Gui.POS_EXTRA)⟩) t.shortcuts := by
  by_cases hpos : preferredPos = POS_EXTRA
  · -- the first extra tab
    rw [if_pos hpos, decide_eq_true hpos]
    refine hrep.tabled.rememberOwnedTab bev huuid hfresh (decide_eq_true rfl).symm fun a item hitem => ?_
    have hnormal : item.tag.extra = false :=
      Bool.eq_false_of_not_eq_true fun hextra => hroom.2.1 hpos a ⟨item, hitem, hextra⟩
    have hother : a ≠ i.uuid := fun heq => hfresh (heq ▸ Registry.live_iff.mpr ⟨item, hitem⟩)
    rw [hnormal]
    exact (decide_eq_false fun hextra => hother hextra.2).symm
  · -- another tab stays the extra one, if there is one
    rw [if_neg hpos, decide_eq_false hpos]
    have hother : i.uuid ≠ w.server.extraTabId := by
      intro heq
      have hpage := (hin.agrees.extra i.uuid).mpr ⟨huuid, heq.symm⟩
      exact hfresh ((live_iff_pages hin hrep i.uuid).mpr (by rw [hpage]; exact Option.some_ne_none _))
    have hsame : (w.server.rememberOwnedTab bev i.uuid).extraTabId = w.server.extraTabId := by
      rw [Server.rememberOwnedTab, if_neg huuid]
    have htabled := hrep.tabled.rememberOwnedTab bev huuid hfresh (decide_eq_false hother).symm
      hrep.tabled.extra
    rw [← hsame] at htabled
    exact htabled

/-- **A new tab** is handed out, or refused for want of room. -/
theorem served_newWebTab (huuid : i.uuid ≠ "") (hfresh : i.uuid ∉ used) {requestedUrl iconUrl : String}
    {preferredPos flags : ℤ}
    (hrun : (plan P i bev w.server (.NewWebTab requestedUrl iconUrl preferredPos flags)).run P i bev w
      = some w') :
    ∃ code t', Answers bev code w w'
      ∧ Serves (rulesOf config) bev i.now i.uuid t (.NewWebTab requestedUrl iconUrl preferredPos flags) code t'
      ∧ Represents w' t' := by
  obtain ⟨gResp, hcall, hanswers, hnext⟩ := answers_of_askFor (fun _ => rfl) (fun _ => rfl) hrun
  have hunheld : i.uuid ∉ w.gui.holdings.ids := fun hmem => hfresh (hin.used i.uuid hmem)
  obtain ⟨hgone, hpositioned⟩ := gui_of_asked hgui hin hholds hrep (by exact not_false) hcall
  rcases asked hgui hin hholds hrep hcall with ⟨hup, -, hcode⟩ | ⟨hup, b, b', resp, rfl, hb, -, hholdings,
    hexec, -⟩
  · rw [hcode] at hanswers hnext
    refine ⟨_, t, hanswers, .noTab fun _ hroom => ?_, hgone, hnext ▸ hrep.tabled, hpositioned⟩
    rw [hroom.1] at hup
    cases hup
  have hnew : i.uuid ∉ b.list := by
    intro hmem
    obtain ⟨page, hpage⟩ := Option.isSome_iff_exists.mp (Std.ExtTreeMap.isSome_getElem?_iff_mem.mpr hmem)
    have hheld := Browser.pages_ne_none hpage
    rw [hholdings] at hheld
    exact hunheld (Or.inl hheld)
  obtain ⟨hresult, hextra, hnormal, hany⟩ := Browser.result_newWebTab hb.displayed hnew hexec
  have hnoExtra := noExtraPage_iff hin hrep hholdings
  have hfull := full_iff hin hrep hholdings
  rcases hresult with hok | herror
  · have hroom : t.Room preferredPos := by
      refine ⟨hup, fun hpos => hnoExtra.mp ((hextra hpos).mp hok), fun hpos hall => ?_⟩
      have hroom := hnormal hpos hok
      have hcount := hfull.mp hall
      omega
    rw [resultCode, hok] at hanswers hnext
    have hunlive : ¬ t.tabs.Live i.uuid := fun hlive =>
      hunheld (Or.inl ((live_iff_pages hin hrep i.uuid).mp hlive))
    refine ⟨_, _, hanswers, .newTab hroom, hgone, ?_, hpositioned⟩
    rw [hnext]
    exact tabled_newTab hin hrep huuid hunlive hroom
  · rw [resultCode, herror] at hanswers hnext
    refine ⟨_, t, hanswers, .noTab fun hpos hroom => ?_, hgone, hnext ▸ hrep.tabled, hpositioned⟩
    have hok : resp.result = .OK := by
      rcases hpos with hpos | hpos
      · exact (hextra hpos).mpr (hnoExtra.mpr (hroom.2.1 hpos))
      · refine hany hpos (not_le.mp fun hcount => hroom.2.2 ?_ (hfull.mpr hcount))
        rw [hpos]
        decide
    rw [herror] at hok
    cases hok

omit hgui hholds in
/-- A browser that holds what the tables say has the shortcuts of the store, at their places. -/
theorem positions_eq {b : Browser} (hholdings : b.holdings = w.gui.holdings)
    (hpositioned : Positioned t.shortcuts b) : b.shortcutPositions = t.shortcuts.tags := by
  funext id
  have hlive : id ∈ b.shortcuts ↔ t.shortcuts.Live id := by
    rw [live_iff_shortcuts hin hrep id, ← hholdings]
    rfl
  rw [← isSome_tags] at hlive
  cases hpos : t.shortcuts.tags id with
  | none =>
    have hgone : id ∉ b.shortcuts := fun hmem => by
      rw [hpos] at hlive
      exact Bool.false_ne_true (hlive.mp hmem)
    rw [Browser.shortcutPositions, Std.ExtTreeMap.getElem?_eq_none hgone, Option.map_none]
  | some pos =>
    rw [hpos] at hlive
    obtain ⟨s, hs⟩ := Browser.mem_shortcuts_iff.mp (hlive.mpr rfl)
    have hpos' := Browser.shortcutPositions_eq_some_iff.mpr ⟨s, hs, rfl⟩
    rw [hpos', hpositioned id pos _ hpos hpos']

/-- **A new shortcut** gets its place, or there is none for it. -/
theorem served_newShortcut (hfresh : i.uuid ∉ used) {url iconUrl : String} {preferredPos flags : ℤ}
    (hrun : (plan P i bev w.server (.NewShortcut url iconUrl preferredPos flags)).run P i bev w = some w') :
    ∃ code t', Answers bev code w w'
      ∧ Serves (rulesOf config) bev i.now i.uuid t (.NewShortcut url iconUrl preferredPos flags) code t'
      ∧ Represents w' t' := by
  obtain ⟨gResp, hcall, hanswers, hnext⟩ := answers_of_askFor (fun _ => rfl) (fun _ => rfl) hrun
  rcases asked hgui hin hholds hrep hcall with ⟨hup, hsame, hcode⟩ | ⟨hup, b, b', resp, rfl, hb, hpositioned,
    hholdings, hexec, hgone⟩
  · rw [hcode] at hanswers hnext
    refine ⟨_, t, hanswers, .noShortcut fun pos hplace => ?_, hsame ▸ hrep.up, hnext ▸ hrep.tabled,
      hsame ▸ hrep.positioned⟩
    rw [hplace.up] at hup
    cases hup
  have hunheld : i.uuid ∉ w.gui.holdings.shortcuts := fun hmem => hfresh (hin.used i.uuid (Or.inr hmem))
  have hnew : i.uuid ∉ b.shortcuts := fun hmem => hunheld (hholdings ▸ hmem)
  have hpositions := positions_eq hin hrep hholdings hpositioned
  have hresult := Browser.result_newShortcut hb.shortcutsPlaced hnew (Option.some.inj hexec)
  rw [hb.runtimeConfig, hpositions] at hresult
  rcases hresult with ⟨herror, rfl, hnone⟩ | ⟨hok, pos, hgets, hplaced⟩
  · rw [resultCode, show resp.result = .EXEC_ERROR from herror] at hanswers hnext
    refine ⟨_, t, hanswers, .noShortcut fun pos hplace => hnone pos hplace.gets, ?_, hnext ▸ hrep.tabled, ?_⟩
    · rw [hup, hgone]
      rfl
    · rw [hgone]
      rintro _ ⟨⟩
      exact hpositioned
  · rw [resultCode, show resp.result = .OK from hok] at hanswers hnext
    have hunlive : ¬ t.shortcuts.Live i.uuid := fun hlive =>
      hunheld ((live_iff_shortcuts hin hrep i.uuid).mp hlive)
    refine ⟨_, _, hanswers, .newShortcut ⟨hup, hgets⟩, ?_, ?_, ?_⟩
    · rw [hgone]
      exact hup
    · rw [hnext]
      exact hrep.tabled.setShortcuts (hrep.tabled.shortcutLeases.register hunlive pos)
    · rw [hgone]
      rintro _ ⟨⟩ id pos₁ pos₂ hpos₁ hpos₂
      rw [tags_register] at hpos₁
      rw [hplaced, hpos₁, Option.some.injEq] at hpos₂
      exact hpos₂.symm

/-! ### Leases -/

/-- **A lease of a tab** is renewed, or the tab ends. -/
theorem served_aliveTab {id : String} {ttl : ℤ}
    (hrun : (plan P i bev w.server (.IAmAliveTab id ttl)).run P i bev w = some w') :
    ∃ code t', Answers bev code w w' ∧ Serves (rulesOf config) bev i.now i.uuid t (.IAmAliveTab id ttl) code t'
      ∧ Represents w' t' := by
  have hhas : w.server.hasTab id = true ↔ t.tabs.Live id :=
    decide_eq_true_iff.trans (hrep.tabled.tabLeases.mem_iff id)
  rw [plan] at hrun
  by_cases hlive : t.tabs.Live id
  · rw [hhas.mpr hlive, Bool.not_true, if_neg Bool.false_ne_true] at hrun
    split at hrun
    next hzero =>
      rw [hzero]
      obtain ⟨hanswers, hrep'⟩ := served_killTab hgui hin hholds hrep hrun
      have hup := up_of_held hrep (Or.inl ((live_iff_pages hin hrep id).mp hlive))
      rw [Store.answer_eq_ok_iff.mpr ⟨hup, hlive⟩] at hanswers
      refine ⟨_, _, hanswers, .endTab hlive, ?_⟩
      rw [Registry.drop, without_congr fun a _ _ => (and_iff_left rfl : a = id ∧ true = true ↔ a = id).symm]
      exact hrep'
    next hnonzero =>
      cases hrun
      exact ⟨_, _, ⟨_, rfl, rfl⟩, .renewTab hlive hnonzero, hrep.up, hrep.tabled.renewTab hlive _,
        hrep.positioned⟩
  · rw [Bool.eq_false_of_not_eq_true fun htrue => hlive (hhas.mp htrue), Bool.not_false, if_pos rfl] at hrun
    cases hrun
    exact ⟨_, t, ⟨_, rfl, rfl⟩, .noSuchTab hlive, hrep.up, hrep.tabled, hrep.positioned⟩

/-- **A lease of a shortcut** is renewed, or the shortcut ends. -/
theorem served_aliveShortcut {id : String} {ttl : ℤ}
    (hrun : (plan P i bev w.server (.IAmAliveShortcut id ttl)).run P i bev w = some w') :
    ∃ code t', Answers bev code w w'
      ∧ Serves (rulesOf config) bev i.now i.uuid t (.IAmAliveShortcut id ttl) code t' ∧ Represents w' t' := by
  have hhas : id ∈ w.server.shortcutLeases ↔ t.shortcuts.Live id := hrep.tabled.shortcutLeases.mem_iff id
  rw [plan] at hrun
  by_cases hlive : t.shortcuts.Live id
  · rw [if_neg (not_not_intro (hhas.mpr hlive))] at hrun
    split at hrun
    next hzero =>
      rw [hzero]
      obtain ⟨hanswers, hrep'⟩ := served_killShortcut hgui hin hholds hrep hrun
      have hup := up_of_held hrep (Or.inr ((live_iff_shortcuts hin hrep id).mp hlive))
      rw [Store.answer_eq_ok_iff.mpr ⟨hup, hlive⟩] at hanswers
      exact ⟨_, _, hanswers, .endShortcut hlive, hrep'⟩
    next hnonzero =>
      cases hrun
      refine ⟨_, _, ⟨_, rfl, rfl⟩, .renewShortcut hlive hnonzero, hrep.up,
        hrep.tabled.setShortcuts (hrep.tabled.shortcutLeases.renew hlive _), fun b hb => ?_⟩
      refine (hrep.positioned b hb).mono fun {a pos} hpos => ?_
      rwa [tags_renew] at hpos
  · rw [if_pos fun hmem => hlive (hhas.mp hmem)] at hrun
    cases hrun
    exact ⟨_, t, ⟨_, rfl, rfl⟩, .noSuchShortcut hlive, hrep.up, hrep.tabled, hrep.positioned⟩

/-! ### All requests for tabs and shortcuts -/

/-- **A request for tabs or shortcuts** is answered as the store answers it. -/
theorem serves_of_run (huuid : i.uuid ≠ "") (hfresh : i.uuid ∉ used) {request : Request}
    (htabs : Request.OfTabs request) (hrun : (plan P i bev w.server request).run P i bev w = some w') :
    ∃ code t', Answers bev code w w' ∧ Serves (rulesOf config) bev i.now i.uuid t request code t'
      ∧ Represents w' t' := by
  cases request with
  | Refused =>
    cases hrun
    exact ⟨_, t, ⟨_, rfl, rfl⟩, .refused, hrep.up, hrep.tabled, hrep.positioned⟩
  | NewWebTab requestedUrl iconUrl preferredPos flags =>
    exact served_newWebTab hgui hin hholds hrep huuid hfresh hrun
  | NewShortcut url iconUrl preferredPos flags =>
    exact served_newShortcut hgui hin hholds hrep hfresh hrun
  | NavigateTo id url =>
    obtain ⟨hanswers, hrep'⟩ := served_relay hgui hin hholds hrep rfl Iff.rfl hrun
    exact ⟨_, t, hanswers, .navigateTo id url, hrep'⟩
  | BlinkTab id =>
    obtain ⟨hanswers, hrep'⟩ := served_relay hgui hin hholds hrep rfl Iff.rfl hrun
    exact ⟨_, t, hanswers, .blinkTab id, hrep'⟩
  | ActivateTab id =>
    obtain ⟨hanswers, hrep'⟩ := served_relay hgui hin hholds hrep rfl Iff.rfl hrun
    exact ⟨_, t, hanswers, .activateTab id, hrep'⟩
  | KillTab id =>
    obtain ⟨hanswers, hrep'⟩ := served_killTab hgui hin hholds hrep hrun
    have hsame : (t.tabs.without fun a item => a = id ∧ item.tag.extra = false)
        = t.tabs.without fun a _ => a = id ∧ (!w.server.isExtraTab id) = true := by
      refine without_congr fun a item hitem => and_congr_right ?_
      rintro rfl
      rw [hrep.tabled.extra a item hitem, Bool.not_eq_true']
    rw [← hsame] at hrep'
    exact ⟨_, _, hanswers, .killTab id, hrep'⟩
  | KillShortcut id =>
    obtain ⟨hanswers, hrep'⟩ := served_killShortcut hgui hin hholds hrep hrun
    exact ⟨_, _, hanswers, .killShortcut id, hrep'⟩
  | IAmAliveTab id ttl => exact served_aliveTab hgui hin hholds hrep hrun
  | IAmAliveShortcut id ttl => exact served_aliveShortcut hgui hin hholds hrep hrun
  | _ => exact htabs.elim

end Request

end OpenMadt.Server
