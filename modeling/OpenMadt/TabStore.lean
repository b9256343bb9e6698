import OpenMadt.FailedRequests
import OpenMadt.Library.Registry
import OpenMadt.Placement
import OpenMadt.Shortcuts

/-!
# The server as a store of tabs

What the server and the browser are together, seen by their clients: a store of tabs and shortcuts, in
which every request happens at once.  Which of the two keeps what, the commands in between and the kills
that nobody waits for are not seen any more.

* `tells_exec`, `result_newWebTab`, `result_newShortcut` — what the browser's answers tell about what it holds.
* `Store`, `Serves`, `StoreStep` — the store, what it answers to a request, and what can happen to it.
* `usable_of_store` — a request for a tab succeeds exactly if the tab was handed out and has not ended since.
* `Represents` — the server's tables and the browser, as a store.
-/

namespace OpenMadt.Gui

/-! ### What the browser answers -/

/-- The result tells whether something was found. -/
def ResultCode.Tells (result : ResultCode) (found : Prop) : Prop :=
  result = .OK ∧ found ∨ result = .TAB_NOT_FOUND ∧ ¬ found

/-- What the signal is about is there. -/
def Holdings.Finds (h : Holdings) : Browser.Signal → Prop
  | .ActivateTab id | .NavigateTo id _ | .BlinkTab id | .KillTab id _ => h.pages id ≠ none
  | .KillShortcut id => id ∈ h.shortcuts
  | _ => True

namespace Browser

variable {b b' : Browser} {uuid : String} {resp : CmdResponse}

theorem pages_ne_none {page : BrowserPage} (hpage : b.list[uuid]? = some page) :
    b.holdings.pages uuid ≠ none := by
  simp [holdings, hpage]

theorem pages_eq_none (hpage : b.list[uuid]? = none) : ¬ b.holdings.pages uuid ≠ none := by
  simp [holdings, hpage]

theorem tells_onActivateTab (b : Browser) (uuid : String) :
    (b.onActivateTab uuid).2.result.Tells (b.holdings.pages uuid ≠ none) := by
  unfold onActivateTab
  cases hpage : b.list[uuid]? with
  | none => exact Or.inr ⟨rfl, pages_eq_none hpage⟩
  | some page => exact Or.inl ⟨rfl, pages_ne_none hpage⟩

theorem tells_onBlinkTab (hb : b.TabBar) (uuid : String) :
    (b.onBlinkTab uuid).2.result.Tells (b.holdings.pages uuid ≠ none) := by
  unfold onBlinkTab
  cases hpage : b.list[uuid]? with
  | none => exact Or.inr ⟨rfl, pages_eq_none hpage⟩
  | some page =>
    refine Or.inl ⟨?_, pages_ne_none hpage⟩
    dsimp only
    cases hextra : isExtraPage page with
    | true => rfl
    | false =>
      -- a normal page has a tab
      have hmem := (hb.refreshed.populated.mem_views_iff hpage).mpr hextra
      have htab : 0 ≤ (b.updatePageIndex uuid).tabs.indexOf uuid :=
        QTabWidget.indexOf_nonneg_iff.mpr hmem
      rw [if_neg Bool.false_ne_true, if_pos htab]
      split <;> rfl

theorem tells_onKillTab (b : Browser) (uuid : String) (forceDestroy : Bool) :
    (b.onKillTab uuid forceDestroy).2.result.Tells (b.holdings.pages uuid ≠ none) := by
  unfold onKillTab
  cases hpage : b.list[uuid]? with
  | none => exact Or.inr ⟨rfl, pages_eq_none hpage⟩
  | some page =>
    refine Or.inl ⟨?_, pages_ne_none hpage⟩
    dsimp only
    split
    · rfl
    · split <;> rfl

theorem tells_onNavigateTo {url : String} (h : b.onNavigateTo uuid url = some (b', resp)) :
    resp.result.Tells (b.holdings.pages uuid ≠ none) := by
  cases hpage : b.list[uuid]? with
  | none =>
    unfold onNavigateTo at h
    rw [hpage] at h
    cases h
    exact Or.inr ⟨rfl, pages_eq_none hpage⟩
  | some page =>
    refine Or.inl ⟨?_, pages_ne_none hpage⟩
    unfold onNavigateTo at h
    rw [hpage] at h
    dsimp only at h
    split at h
    · cases h
      rfl
    split at h
    · cases hplaced : ((b.modifyPage uuid fun p => { p with url := url }).applyPageLabel
          uuid).allocateZonePosition uuid page.preferredPos with
      | none =>
        rw [hplaced] at h
        cases h
      | some r =>
        rw [hplaced] at h
        cases h
        rfl
    · cases h
      rfl

theorem tells_onKillShortcut (b : Browser) (shortcutId : String) :
    (b.onKillShortcut shortcutId).2.result.Tells (shortcutId ∈ b.holdings.shortcuts) := by
  unfold onKillShortcut
  by_cases hmem : shortcutId ∈ b.shortcuts
  · rw [if_pos hmem]
    exact Or.inl ⟨rfl, hmem⟩
  · rw [if_neg hmem]
    exact Or.inr ⟨rfl, hmem⟩

/-- **A signal that brings nothing in** succeeds exactly if it finds what it is about. -/
theorem tells_exec (hb : b.TabBar) {signal : Signal} (hnew : signal.newId? = none)
    (h : b.exec signal = some (b', resp)) : resp.result.Tells (b.holdings.Finds signal) := by
  have htotal : ∀ {r : Browser × CmdResponse}, some r = some (b', resp) →
      r.2.result.Tells (b.holdings.Finds signal) → resp.result.Tells (b.holdings.Finds signal) := by
    rintro r ⟨⟩ hr
    exact hr
  cases signal with
  | NewWebTab url iconUrl preferredPos flags uuid => cases hnew
  | NewShortcut url iconUrl preferredPos flags shortcutId => cases hnew
  | ActivateTab uuid => exact htotal h (tells_onActivateTab b uuid)
  | NavigateTo uuid url => exact tells_onNavigateTo h
  | BlinkTab uuid => exact htotal h (tells_onBlinkTab hb uuid)
  | KillTab uuid forceDestroy => exact htotal h (tells_onKillTab b uuid forceDestroy)
  | KillShortcut shortcutId => exact htotal h (tells_onKillShortcut b shortcutId)
  | GetTabMap => exact htotal h (Or.inl ⟨rfl, trivial⟩)
  | GetShortcuts => exact htotal h (Or.inl ⟨rfl, trivial⟩)

/-- **A new page** is taken in or refused: the extra page if there is none, a page without a preference if
there is room, and any other page only if there is room. -/
theorem result_newWebTab (hb : Displayed b) {url iconUrl : String} {preferredPos flags : ℤ}
    (hfresh : uuid ∉ b.list) (h : b.onNewWebTab url iconUrl preferredPos flags uuid = some (b', resp)) :
    (resp.result = .OK ∨ resp.result = .EXEC_ERROR)
      ∧ (preferredPos = POS_EXTRA → (resp.result = .OK ↔ b.hasExtraPage = false))
      ∧ (preferredPos ≠ POS_EXTRA → resp.result = .OK → b.normalPageCount < MAX_TABS)
      ∧ (preferredPos = POS_ANY → b.normalPageCount < MAX_TABS → resp.result = .OK) := by
  refine ⟨?_, ?_, fun hnormal hok => ?_, ?_⟩
  · rcases onNewWebTab_outcome h with ⟨herror, -⟩ | ⟨herror, -⟩ | ⟨hok, -⟩
    · exact Or.inr herror
    · exact Or.inr herror
    · exact Or.inl hok
  · rintro rfl
    unfold onNewWebTab at h
    dsimp only at h
    rw [if_neg (by simp)] at h
    cases hextra : b.hasExtraPage with
    | true =>
      rw [hextra, if_pos (by simp)] at h
      cases h
      exact iff_of_false nofun Bool.noConfusion
    | false =>
      have hpage : (b.list.insert uuid (newPage url iconUrl POS_EXTRA flags uuid))[uuid]?
          = some (newPage url iconUrl POS_EXTRA flags uuid) := Std.ExtTreeMap.getElem?_insert_self
      have hplaced := allocateLogicalPosition_extra
        (b := { b with list := b.list.insert uuid (newPage url iconUrl POS_EXTRA flags uuid) }) hpage rfl
      rw [newPage] at hplaced
      rw [hextra, if_neg (by simp), hplaced] at h
      cases h
      exact iff_of_true rfl rfl
  · by_contra hfull
    rw [onNewWebTab_of_full hnormal (by omega)] at h
    cases h
    cases hok
  · rintro rfl hroom
    obtain ⟨b₁, resp₁, hexec, hok, -⟩ := onNewWebTab_any url iconUrl flags hb.laid.pagesPlaced hfresh
    obtain ⟨-, rfl⟩ := Prod.mk.inj (Option.some.inj (h.symm.trans hexec))
    exact hok.mpr hroom

/-- How many places there are for shortcuts. -/
def shortcutPlaces (config : RuntimeConfig) : ℤ :=
  if config.shortcutsEnabled then max 1 config.shortcutMaxCount else 0

/-- **A new shortcut** is taken in at the place that it gets, or refused if it gets none. -/
theorem result_newShortcut (hb : b.ShortcutsPlaced) {url iconUrl shortcutId : String} {preferredPos flags : ℤ}
    (hfresh : shortcutId ∉ b.shortcuts)
    (h : b.onNewShortcut url iconUrl preferredPos flags shortcutId = (b', resp)) :
    (resp.result = .EXEC_ERROR ∧ b' = b
        ∧ ∀ pos, ¬ Assignment.Gets b.shortcutPositions (shortcutPlaces b.runtimeConfig) preferredPos pos)
      ∨ resp.result = .OK
        ∧ ∃ pos, Assignment.Gets b.shortcutPositions (shortcutPlaces b.runtimeConfig) preferredPos pos
          ∧ b'.shortcutPositions = Function.update b.shortcutPositions shortcutId (some pos) := by
  unfold shortcutPlaces
  cases henabled : b.runtimeConfig.shortcutsEnabled with
  | false =>
    rw [onNewShortcut, henabled] at h
    cases h
    refine Or.inl ⟨rfl, rfl, fun pos hgets => ?_⟩
    obtain ⟨hlo, hhi⟩ := hgets.inRange
    rw [if_neg Bool.false_ne_true] at hhi
    omega
  | true =>
    rw [if_pos rfl]
    have houtcome := onNewShortcut_outcome hb henabled hfresh url iconUrl preferredPos flags
    rw [h] at houtcome
    rcases houtcome with ⟨herror, hno, rfl⟩ | ⟨hok, -, pos, hgets, hnext⟩
    · exact Or.inl ⟨herror, rfl, fun pos hgets => hno (hb.hasPlace hgets)⟩
    · refine Or.inr ⟨hok, pos, hgets, ?_⟩
      rw [show b' = _ from hnext, shortcutPositions_insert]

/-- The signal brings a shortcut in. -/
def Signal.BringsShortcut : Signal → Prop
  | .NewShortcut .. => True
  | _ => False

theorem Signal.not_bringsShortcut {signal : Signal} (hnew : signal.newId? = none) :
    ¬ signal.BringsShortcut := by
  cases signal with
  | NewShortcut url iconUrl preferredPos flags shortcutId => cases hnew
  | _ => exact not_false

/-- No other signal gives a shortcut a position. -/
theorem shortcutPositions_of_exec {signal : Signal} (hsignal : ¬ signal.BringsShortcut)
    (h : b.exec signal = some (b', resp)) {id : String} {pos : ℤ} (hpos : b'.shortcutPositions id = some pos) :
    b.shortcutPositions id = some pos := by
  cases signal with
  | NewShortcut url iconUrl preferredPos flags shortcutId => exact absurd trivial hsignal
  | KillShortcut shortcutId =>
    obtain rfl : (b.onKillShortcut shortcutId).1 = b' := congrArg Prod.fst (Option.some.inj h)
    unfold onKillShortcut at hpos
    split at hpos
    · rw [shortcutPositions_erase, Function.update_apply] at hpos
      split at hpos
      · cases hpos
      · exact hpos
    · exact hpos
  | _ =>
    have hrest : b'.shortcuts = b.shortcuts := congrArg Prod.fst (rest_exec h (by rintro ⟨⟩))
    rw [shortcutPositions, hrest] at hpos
    exact hpos

end Browser

end OpenMadt.Gui

namespace OpenMadt.Server

open Gui Run Registry

/-! ### The store -/

/-- The connection that a tab was opened through, and whether it is the extra tab. -/
structure TabTag where
  owner : Conn
  extra : Bool

/-- What the configuration says about the store: whether tabs end with the connection they were opened through,
and how many places there are for shortcuts. -/
structure StoreRules where
  byConnection : Bool
  shortcutPlaces : ℤ

def rulesOf (config : RuntimeConfig) : StoreRules where
  byConnection := config.tabLifetimeByConnection
  shortcutPlaces := Browser.shortcutPlaces config

/-- The tabs, and the shortcuts with their places, with their leases, and whether the browser is there already. -/
structure Store where
  up : Bool
  tabs : Registry String TabTag Time
  shortcuts : Registry String ℤ Time

namespace Store

/-- The store before anything has happened. -/
def start : Store where
  up := false
  tabs := Registry.empty
  shortcuts := Registry.empty

def IsExtra (t : Store) (id : String) : Prop := ∃ item, t.tabs id = some item ∧ item.tag.extra = true

def IsNormal (t : Store) (id : String) : Prop := ∃ item, t.tabs id = some item ∧ item.tag.extra = false

/-- There are as many normal tabs as there may be. -/
def Full (t : Store) : Prop :=
  ∃ ids : List String, ids.Nodup ∧ (ids.length : ℤ) = MAX_TABS ∧ ∀ id ∈ ids, t.IsNormal id

/-- There is room for a tab with this preference: there is only one extra tab. -/
def Room (t : Store) (preferredPos : ℤ) : Prop :=
  t.up = true ∧ (preferredPos = Gui.POS_EXTRA → ∀ id, ¬ t.IsExtra id)
    ∧ (preferredPos ≠ Gui.POS_EXTRA → ¬ t.Full)

/-- A shortcut with this preference gets this place: the one it asks for, if there is such a place, and the first
free one otherwise. -/
structure Places (t : Store) (rules : StoreRules) (preferredPos pos : ℤ) : Prop where
  up : t.up = true
  gets : Assignment.Gets t.shortcuts.tags rules.shortcutPlaces preferredPos pos

/-- The answer to a request for something that may be there or not. -/
def answer (t : Store) (found : Bool) : ReturnCode :=
  if t.up then if found then .MTSRC_OK else .MTSRC_INVALID_TAB else .MTSRC_EXEC_ERROR

end Store

/-- What the store answers to a request from `bev`, and the store after it.  The id is the one that a new
tab or shortcut gets.  A tab that asks for a certain place may be refused although there is room. -/
inductive Serves (rules : StoreRules) (bev : Conn) (now : Time) (uuid : String) (t : Store) :
    Request → ReturnCode → Store → Prop where
  | refused : Serves rules bev now uuid t .Refused .MTSRC_BAD_REQUEST t
  | newTab {requestedUrl iconUrl : String} {preferredPos flags : ℤ} (hroom : t.Room preferredPos) :
      Serves rules bev now uuid t (.NewWebTab requestedUrl iconUrl preferredPos flags) .MTSRC_OK
        { t with tabs := t.tabs.register uuid ⟨bev, decide (preferredPos = Gui.POS_EXTRA)⟩ }
  | noTab {requestedUrl iconUrl : String} {preferredPos flags : ℤ}
      (hfull : preferredPos = Gui.POS_EXTRA ∨ preferredPos = POS_ANY → ¬ t.Room preferredPos) :
      Serves rules bev now uuid t (.NewWebTab requestedUrl iconUrl preferredPos flags) .MTSRC_EXEC_ERROR t
  | newShortcut {url iconUrl : String} {preferredPos flags pos : ℤ} (hplace : t.Places rules preferredPos pos) :
      Serves rules bev now uuid t (.NewShortcut url iconUrl preferredPos flags) .MTSRC_OK
        { t with shortcuts := t.shortcuts.register uuid pos }
  | noShortcut {url iconUrl : String} {preferredPos flags : ℤ}
      (hnone : ∀ pos, ¬ t.Places rules preferredPos pos) :
      Serves rules bev now uuid t (.NewShortcut url iconUrl preferredPos flags) .MTSRC_EXEC_ERROR t
  | navigateTo (id url : String) :
      Serves rules bev now uuid t (.NavigateTo id url) (t.answer (t.tabs id).isSome) t
  | blinkTab (id : String) : Serves rules bev now uuid t (.BlinkTab id) (t.answer (t.tabs id).isSome) t
  | activateTab (id : String) : Serves rules bev now uuid t (.ActivateTab id) (t.answer (t.tabs id).isSome) t
  /-- The extra tab is only hidden. -/
  | killTab (id : String) :
      Serves rules bev now uuid t (.KillTab id) (t.answer (t.tabs id).isSome)
        { t with tabs := t.tabs.without fun a item => a = id ∧ item.tag.extra = false }
  | killShortcut (id : String) :
      Serves rules bev now uuid t (.KillShortcut id) (t.answer (t.shortcuts id).isSome)
        { t with shortcuts := t.shortcuts.drop id }
  | noSuchTab {id : String} {ttl : ℤ} (hnone : ¬ t.tabs.Live id) :
      Serves rules bev now uuid t (.IAmAliveTab id ttl) .MTSRC_INVALID_TAB t
  | endTab {id : String} (hlive : t.tabs.Live id) :
      Serves rules bev now uuid t (.IAmAliveTab id 0) .MTSRC_OK { t with tabs := t.tabs.drop id }
  | renewTab {id : String} {ttl : ℤ} (hlive : t.tabs.Live id) (httl : ttl ≠ 0) :
      Serves rules bev now uuid t (.IAmAliveTab id ttl) .MTSRC_OK
        { t with tabs := t.tabs.renew id (now + seconds ttl) }
  | noSuchShortcut {id : String} {ttl : ℤ} (hnone : ¬ t.shortcuts.Live id) :
      Serves rules bev now uuid t (.IAmAliveShortcut id ttl) .MTSRC_INVALID_TAB t
  | endShortcut {id : String} (hlive : t.shortcuts.Live id) :
      Serves rules bev now uuid t (.IAmAliveShortcut id 0) .MTSRC_OK
        { t with shortcuts := t.shortcuts.drop id }
  | renewShortcut {id : String} {ttl : ℤ} (hlive : t.shortcuts.Live id) (httl : ttl ≠ 0) :
      Serves rules bev now uuid t (.IAmAliveShortcut id ttl) .MTSRC_OK
        { t with shortcuts := t.shortcuts.renew id (now + seconds ttl) }

/-- What can happen to the store. -/
inductive StoreEvent where
  | served (bev : Conn) (now : Time) (uuid : String) (request : Request) (code : ReturnCode)
  /-- A request that has nothing to do with tabs or shortcuts. -/
  | other (bev : Conn)
  | close (bev : Conn)
  | tick (now : Time)
  | gui

/-- What these events do. -/
inductive StoreStep (rules : StoreRules) : Store → StoreEvent → Store → Prop where
  | served {t t' : Store} {bev : Conn} {now : Time} {uuid : String} {request : Request}
      {code : ReturnCode} (h : Serves rules bev now uuid t request code t') :
      StoreStep rules t (.served bev now uuid request code) t'
  | other {t : Store} {up : Bool} (bev : Conn) (hup : t.up = true → up = true) :
      StoreStep rules t (.other bev) { t with up := up }
  | close (t : Store) (bev : Conn) :
      StoreStep rules t (.close bev) { t with
        tabs := t.tabs.without fun _ item => rules.byConnection = true ∧ item.tag.owner = bev }
  | tick (t : Store) (now : Time) :
      StoreStep rules t (.tick now) { t with
        tabs := t.tabs.expire now, shortcuts := t.shortcuts.expire now }
  | gui {t : Store} {up : Bool} (hup : t.up = true → up = true) :
      StoreStep rules t .gui { t with up := up }

/-! ### What becomes of a tab -/

/-- The event hands out the tab, to a client that asked for a place like this. -/
def Opens (asked : ℤ → Prop) (id : String) : Store × StoreEvent × Store → Prop
  | (_, .served _ _ uuid (.NewWebTab _ _ preferredPos _) .MTSRC_OK, _) => uuid = id ∧ asked preferredPos
  | _ => False

/-- The event ends the tab: a kill, a lease that ends at once, the end of the connection it was opened
through, or the end of its lease. -/
def Ends (byConnection : Bool) (id : String) : Store × StoreEvent × Store → Prop
  | (t, .served _ _ _ (.KillTab a) .MTSRC_OK, _) => a = id ∧ t.IsNormal id
  | (_, .served _ _ _ (.IAmAliveTab a ttl) .MTSRC_OK, _) => a = id ∧ ttl = 0
  | (t, .close bev, _) => byConnection = true ∧ ∃ item, t.tabs id = some item ∧ item.tag.owner = bev
  | (t, .tick now, _) => ∃ item, t.tabs id = some item ∧ item.Due now
  | _ => False

/-- The request is one for the tab with this id. -/
def UsesTab (id : String) : Request → Prop
  | .NavigateTo a _ | .BlinkTab a | .ActivateTab a | .KillTab a | .IAmAliveTab a _ => a = id
  | _ => False

theorem Store.answer_eq_ok_iff {t : Store} {found : Bool} :
    t.answer found = .MTSRC_OK ↔ t.up = true ∧ found = true := by
  unfold Store.answer
  cases t.up <;> cases found <;> decide

/-- **One step, for one tab**: it is live afterwards if it was handed out, or was live and has not ended.
A tab is only live while the browser is there. -/
theorem StoreStep.live_iff {rules : StoreRules} {t t' : Store} {e : StoreEvent}
    (h : StoreStep rules t e t') (hup : ∀ id, t.tabs.Live id → t.up = true) (id : String) :
    t'.tabs.Live id ↔ Opens (fun _ => True) id (t, e, t')
      ∨ t.tabs.Live id ∧ ¬ Ends rules.byConnection id (t, e, t') := by
  have hsame : t.tabs.Live id ↔ False ∨ t.tabs.Live id ∧ ¬ False := by
    rw [false_or, not_false_eq_true, and_true]
  cases h with
  | served hserves =>
    cases hserves with
    | newTab hroom =>
      show (t.tabs.register _ _).Live id ↔ _ = id ∧ True ∨ t.tabs.Live id ∧ ¬ False
      rw [live_register_iff, not_false_eq_true, and_true, and_true]
      exact or_congr_left eq_comm
    | killTab a =>
      show (t.tabs.without fun a' item => a' = a ∧ item.tag.extra = false).Live id ↔ _
      rw [live_without_iff_and]
      cases hcode : t.answer (t.tabs a).isSome with
      | MTSRC_OK =>
        show _ ↔ False ∨ t.tabs.Live id ∧ ¬ (a = id ∧ t.IsNormal id)
        rw [false_or]
        refine and_congr_right fun _ => not_congr ⟨?_, ?_⟩
        · rintro ⟨item, hitem, rfl, hnormal⟩
          exact ⟨rfl, item, hitem, hnormal⟩
        · rintro ⟨rfl, item, hitem, hnormal⟩
          exact ⟨item, hitem, rfl, hnormal⟩
      | _ =>
        -- an answer that is not OK means that there is no such tab
        refine Iff.trans (and_iff_left_of_imp fun hlive => ?_) hsame
        rintro ⟨item, hitem, rfl, -⟩
        have hok : t.answer (t.tabs id).isSome = .MTSRC_OK :=
          Store.answer_eq_ok_iff.mpr ⟨hup id hlive, hlive⟩
        rw [hok] at hcode
        cases hcode
    | @endTab a hlive =>
      show (t.tabs.without fun a' _ => a' = a).Live id ↔ False ∨ t.tabs.Live id ∧ ¬ (a = id ∧ (0 : ℤ) = 0)
      rw [live_without_iff_and, false_or]
      refine and_congr_right fun hlive' => not_congr ⟨?_, ?_⟩
      · rintro ⟨item, hitem, rfl⟩
        exact ⟨rfl, rfl⟩
      · rintro ⟨rfl, -⟩
        obtain ⟨item, hitem⟩ := Registry.live_iff.mp hlive'
        exact ⟨item, hitem, rfl⟩
    | @renewTab a ttl hlive httl =>
      show (t.tabs.renew a _).Live id ↔ False ∨ t.tabs.Live id ∧ ¬ (a = id ∧ ttl = 0)
      rw [live_renew_iff, false_or]
      exact (and_iff_left fun hends => httl hends.2).symm
    | _ => exact hsame
  | close bev =>
    show (t.tabs.without _).Live id ↔ False ∨ t.tabs.Live id ∧ ¬ (rules.byConnection = true
      ∧ ∃ item, t.tabs id = some item ∧ item.tag.owner = bev)
    rw [live_without_iff_and, false_or]
    refine and_congr_right fun _ => not_congr ⟨?_, ?_⟩
    · rintro ⟨item, hitem, hflag, howner⟩
      exact ⟨hflag, item, hitem, howner⟩
    · rintro ⟨hflag, item, hitem, howner⟩
      exact ⟨item, hitem, hflag, howner⟩
  | tick now =>
    show (t.tabs.expire now).Live id ↔ False ∨ t.tabs.Live id ∧ ¬ ∃ item, t.tabs id = some item ∧ item.Due now
    rw [expire, live_without_iff_and, false_or]
  | other bev => exact hsame
  | gui => exact hsame

/-- **One step, and the tag of one tab**: it says what was asked for when the tab was handed out. -/
theorem StoreStep.tag_cases {rules : StoreRules} {t t' : Store} {e : StoreEvent} (h : StoreStep rules t e t')
    {id : String} {tag : TabTag} (htag : t'.tabs.tags id = some tag) :
    (Opens (fun _ => True) id (t, e, t') ∧ (tag.extra = true ↔ Opens (· = Gui.POS_EXTRA) id (t, e, t')))
      ∨ (∀ asked, ¬ Opens asked id (t, e, t')) ∧ t.tabs.tags id = some tag := by
  cases h with
  | served hserves =>
    cases hserves with
    | @newTab requestedUrl iconUrl preferredPos flags hroom =>
      rename_i bev now uuid
      rw [tags_register, Function.update_apply] at htag
      split at htag
      next hid =>
        obtain rfl := Option.some.inj htag
        exact Or.inl ⟨⟨hid.symm, trivial⟩, by simp [Opens, hid.symm]⟩
      next hid => exact Or.inr ⟨fun _ hopens => hid hopens.1.symm, htag⟩
    | renewTab hlive httl =>
      rw [tags_renew] at htag
      exact Or.inr ⟨fun _ hopens => hopens, htag⟩
    | killTab a => exact Or.inr ⟨fun _ hopens => hopens, tags_of_without htag⟩
    | endTab hlive => exact Or.inr ⟨fun _ hopens => hopens, tags_of_without htag⟩
    | _ => exact Or.inr ⟨fun _ hopens => hopens, htag⟩
  | close bev => exact Or.inr ⟨fun _ hopens => hopens, tags_of_without htag⟩
  | tick now => exact Or.inr ⟨fun _ hopens => hopens, tags_of_without htag⟩
  | other bev => exact Or.inr ⟨fun _ hopens => hopens, htag⟩
  | gui => exact Or.inr ⟨fun _ hopens => hopens, htag⟩

/-- **A tab is the extra one** if it was handed out as such. -/
theorem extra_of_store {rules : StoreRules} {trace : List (Store × StoreEvent × Store)} {t : Store}
    (h : Steps (Traced (StoreStep rules)) Store.start trace t) {id : String} {tag : TabTag}
    (htag : t.tabs.tags id = some tag) : tag.extra = true
      ↔ Since (Opens (· = Gui.POS_EXTRA) id) (Opens (fun _ => True) id) trace := by
  refine h.history (fun trace t => ∀ tag, t.tabs.tags id = some tag → (tag.extra = true
    ↔ Since (Opens (· = Gui.POS_EXTRA) id) (Opens (fun _ => True) id) trace)) ?_ (by rintro tag ⟨⟩) tag htag
  rintro before t₁ ⟨_, e, _⟩ t₂ - ih ⟨rfl, rfl, hstep⟩ tag htag
  rw [since_append_singleton]
  rcases hstep.tag_cases htag with ⟨hopens, hextra⟩ | ⟨hquiet, htag⟩
  · rw [hextra]
    exact (or_iff_left fun hsince => hsince.2 hopens).symm
  · rw [ih tag htag, or_iff_right (hquiet _), and_iff_left (hquiet _)]

/-- There are only tabs while the browser is there. -/
def Store.Sound (t : Store) : Prop := ∀ id, t.tabs.Live id → t.up = true

theorem StoreStep.sound {rules : StoreRules} {t t' : Store} {e : StoreEvent}
    (h : StoreStep rules t e t') (hsound : t.Sound) : t'.Sound := by
  have hwithout : ∀ gone, Store.Sound { t with tabs := t.tabs.without gone } := fun gone id hlive =>
    hsound id (live_without_iff_and.mp hlive).1
  cases h with
  | served hserves =>
    cases hserves with
    | newTab hroom => exact fun _ _ => hroom.1
    | killTab id => exact hwithout _
    | endTab hlive => exact hwithout _
    | renewTab hlive httl => exact fun id hid => hsound id (live_renew_iff.mp hid)
    | _ => exact hsound
  | close bev => exact hwithout _
  | tick now => exact hwithout _
  | other bev hup => exact fun id hid => hup (hsound id hid)
  | gui hup => exact fun id hid => hup (hsound id hid)

/-- The answer to a request for a tab says whether it is live. -/
theorem Serves.ok_iff {rules : StoreRules} {bev : Conn} {now : Time} {uuid : String} {t t' : Store}
    {request : Request} {code : ReturnCode} (h : Serves rules bev now uuid t request code t') (hsound : t.Sound) {id : String}
    (huses : UsesTab id request) : code = .MTSRC_OK ↔ t.tabs.Live id := by
  have hanswer : t.answer (t.tabs id).isSome = .MTSRC_OK ↔ t.tabs.Live id :=
    Store.answer_eq_ok_iff.trans (and_iff_right_of_imp (hsound id))
  cases h with
  | navigateTo a url => exact (show a = id from huses) ▸ hanswer
  | blinkTab a => exact (show a = id from huses) ▸ hanswer
  | activateTab a => exact (show a = id from huses) ▸ hanswer
  | killTab a => exact (show a = id from huses) ▸ hanswer
  | noSuchTab hnone => exact iff_of_false nofun ((show _ = id from huses) ▸ hnone)
  | endTab hlive => exact iff_of_true rfl ((show _ = id from huses) ▸ hlive)
  | renewTab hlive httl => exact iff_of_true rfl ((show _ = id from huses) ▸ hlive)
  | _ => exact huses.elim

/-- **A tab can be used** exactly from when it was handed out until it ends. -/
theorem usable_of_store {rules : StoreRules} {trace before after : List (Store × StoreEvent × Store)}
    {t t₁ t₂ : Store} (h : Steps (Traced (StoreStep rules)) Store.start trace t) {bev : Conn}
    {now : Time} {uuid id : String} {request : Request} {code : ReturnCode}
    (hsplit : trace = before ++ (t₁, .served bev now uuid request code, t₂) :: after)
    (huses : UsesTab id request) :
    code = .MTSRC_OK ↔ Since (Opens (fun _ => True) id) (Ends rules.byConnection id) before := by
  subst hsplit
  obtain ⟨t₀, t₃, hbefore, ⟨rfl, rfl, hstep⟩, -⟩ := h.split
  have hstart : Store.start.Sound := fun a hlive => absurd hlive (not_live_empty a)
  have hsound : t₁.Sound := by
    refine hbefore.invariant Store.Sound ?_ hstart
    rintro s ⟨_, e, _⟩ s' hs ⟨rfl, rfl, hl⟩
    exact hl.sound hs
  have hlive : t₁.tabs.Live id ↔ Since (Opens (fun _ => True) id) (Ends rules.byConnection id) before :=
    hbefore.since_iff (fun hs hl => hl.sound hs) (fun hs hl => hl.live_iff hs id) hstart
      (not_live_empty id)
  cases hstep with
  | served hserves => exact (hserves.ok_iff hsound huses).trans hlive

/-! ### The server and the browser as a store -/

/-- A table of leases is a registry, whose tags it does not know. -/
def Leased {Tag : Type} (leases : StdMap String (Option Time)) (r : Registry String Tag Time) : Prop :=
  ∀ id, leases[id]? = (r id).map Item.deadline

section Leased

variable {Tag : Type} {leases leases' : StdMap String (Option Time)} {r : Registry String Tag Time}
  (h : Leased leases r)

include h

theorem Leased.mem_iff (id : String) : id ∈ leases ↔ r.Live id := by
  rw [← Std.ExtTreeMap.isSome_getElem?_iff_mem, h id, Option.isSome_map]
  rfl

theorem Leased.register {id : String} (hfresh : ¬ r.Live id) (tag : Tag) :
    Leased (leases.insertIfNew id none) (r.register id tag) := by
  have hmem : id ∉ leases := fun hmem => hfresh ((h.mem_iff id).mp hmem)
  intro a
  simp only [Std.ExtTreeMap.getElem?_insertIfNew, Std.LawfulEqOrd.compare_eq_iff_eq]
  by_cases ha : id = a
  · rw [if_pos ⟨ha, hmem⟩, ← ha, register_self]
    rfl
  · rw [if_neg fun hnew => ha hnew.1, register_of_ne r tag (Ne.symm ha), h a]

theorem Leased.renew {id : String} (hlive : r.Live id) (deadline : Time) :
    Leased (leases.insert id (some deadline)) (r.renew id deadline) := by
  obtain ⟨item, hitem⟩ := Registry.live_iff.mp hlive
  intro a
  rw [StdMap.getElem?_insert]
  by_cases ha : id = a
  · rw [if_pos ha, ← ha, renew_self, hitem]
    rfl
  · rw [if_neg ha, renew_of_ne r deadline (Ne.symm ha), h a]

/-- Some leases are dropped. -/
theorem Leased.without {ids : Set String} (hgone : ∀ id ∈ ids, leases'[id]? = none)
    (hkept : ∀ id ∉ ids, leases'[id]? = leases[id]?) : Leased leases' (r.without fun id _ => id ∈ ids) := by
  intro id
  by_cases hid : id ∈ ids
  · rw [hgone id hid, without_of_gone fun _ => hid]
    rfl
  · rw [hkept id hid, without_of_kept fun _ => hid, h id]

theorem Leased.drop (id : String) : Leased (leases.erase id) (r.drop id) := by
  have hgone : ∀ a ∈ ({id} : Set String), (leases.erase id)[a]? = none := by
    rintro a rfl
    rw [StdMap.getElem?_erase, if_pos rfl]
  refine h.without hgone fun a ha => ?_
  rw [StdMap.getElem?_erase, if_neg fun heq => ha heq.symm]

/-- The leases that are due are those of the items that are due. -/
theorem Leased.mem_expired_iff (now : Time) (id : String) :
    id ∈ expired now leases ↔ ∃ item, r id = some item ∧ item.Due now := by
  rw [Server.mem_expired_iff]
  constructor
  · rintro ⟨deadline, hlease, hdue⟩
    rw [h id] at hlease
    obtain ⟨item, hitem, hdeadline⟩ := Option.map_eq_some_iff.mp hlease
    exact ⟨item, hitem, deadline, hdeadline, hdue⟩
  · rintro ⟨item, hitem, deadline, hdeadline, hdue⟩
    exact ⟨deadline, by rw [h id, hitem, Option.map_some, hdeadline], hdue⟩

/-- To drop what is due is to expire. -/
theorem Leased.without_expired (now : Time) :
    (r.without fun id _ => id ∈ expired now leases) = r.expire now := by
  refine without_congr fun id item hitem => ?_
  rw [h.mem_expired_iff now id]
  constructor
  · rintro ⟨item', hitem', hdue⟩
    rw [hitem, Option.some.injEq] at hitem'
    exact hitem' ▸ hdue
  · exact fun hdue => ⟨item, hitem, hdue⟩

end Leased

/-- The tables of the server, as registries.  Owners are only remembered where they matter. -/
structure Tabled (s : Server) (tabs : Registry String TabTag Time)
    (shortcuts : Registry String ℤ Time) : Prop where
  tabLeases : Leased s.tabLeases tabs
  extra : ∀ id item, tabs id = some item → item.tag.extra = s.isExtraTab id
  owners : ∀ bev id, s.Owns bev id
    ↔ s.runtimeConfig.tabLifetimeByConnection = true ∧ ∃ item, tabs id = some item ∧ item.tag.owner = bev
  shortcutLeases : Leased s.shortcutLeases shortcuts

/-- The shortcuts of the browser are at their places.  It may have others, which are to be killed. -/
def Positioned (shortcuts : Registry String ℤ Time) (b : Browser) : Prop :=
  ∀ id pos pos', shortcuts.tags id = some pos → b.shortcutPositions id = some pos' → pos' = pos

/-- The server and the browser are the store. -/
structure Represents (w : World GuiState) (t : Store) : Prop where
  up : t.up = w.gui.browser.isSome
  tabled : Tabled w.server t.tabs t.shortcuts
  positioned : ∀ b, w.gui.browser = some b → Positioned t.shortcuts b

/-- What is left of the shortcuts stays where it is. -/
theorem Positioned.mono {shortcuts shortcuts' : Registry String ℤ Time} {b : Browser}
    (h : Positioned shortcuts b)
    (hleft : ∀ {id pos}, shortcuts'.tags id = some pos → shortcuts.tags id = some pos) :
    Positioned shortcuts' b := fun id pos pos' hpos hpos' => h id pos pos' (hleft hpos) hpos'

theorem keptBySignals_positioned (config : RuntimeConfig) (shortcuts : Registry String ℤ Time) :
    KeptBySignals config (fun signal => ¬ signal.BringsShortcut) (Positioned shortcuts) where
  new := by
    intro id pos pos' _ hpos'
    simp [Browser.shortcutPositions, Browser.new] at hpos'
  exec := by
    intro b b' signal resp hb hadmitted _ hexec id pos pos' hpos hpos'
    have hsignal : ¬ signal.BringsShortcut := by
      rcases hadmitted with hkill | hsignal
      · cases signal <;> first | exact hkill.elim | exact not_false
      · exact hsignal
    exact hb id pos pos' hpos (Browser.shortcutPositions_of_exec hsignal hexec hpos')
  applySettings := fun _ hb => hb

/-- What holds of the browser behind the server whatever happens to it. -/
structure Arranged (config : RuntimeConfig) (b : Browser) : Prop where
  displayed : Displayed b
  shortcutsPlaced : b.ShortcutsPlaced
  runtimeConfig : b.runtimeConfig = config

theorem keptBySignals_arranged (config : RuntimeConfig) :
    KeptBySignals config (fun _ => True) (Arranged config) where
  new := ⟨(keptBySignals_displayed config).new, Browser.shortcutsPlaced_new config, rfl⟩
  exec := fun hb hadmitted hfresh hexec =>
    ⟨(keptBySignals_displayed config).exec hb.displayed hadmitted hfresh hexec,
      hb.shortcutsPlaced.exec hfresh hexec, (config_exec hexec).2.trans hb.runtimeConfig⟩
  applySettings := fun settings hb =>
    ⟨hb.displayed.applySettings settings, hb.shortcutsPlaced.of_same rfl rfl, hb.runtimeConfig⟩

section Tabled

variable {s s' : Server} {tabs : Registry String TabTag Time} {shortcuts : Registry String ℤ Time}
  (h : Tabled s tabs shortcuts)

include h

/-- A server with the same tables. -/
theorem Tabled.same (htables : s'.tables = s.tables) (hconfig : s'.runtimeConfig = s.runtimeConfig) :
    Tabled s' tabs shortcuts := by
  obtain ⟨htabs, hshortcuts, howners, hextra⟩ : s'.tabLeases = s.tabLeases
      ∧ s'.shortcutLeases = s.shortcutLeases ∧ s'.connectionTabs = s.connectionTabs
      ∧ s'.extraTabId = s.extraTabId := by
    simpa only [tables, Prod.mk.injEq] using htables
  refine ⟨htabs ▸ h.tabLeases, fun id item hitem => ?_, fun bev id => ?_, hshortcuts ▸ h.shortcutLeases⟩
  · rw [h.extra id item hitem, isExtraTab, isExtraTab, hextra]
  · rw [owns_of_connectionTabs howners, h.owners, hconfig]

/-- **Some tabs are forgotten.** -/
theorem Tabled.forgets {ids : Set String} (hforgets : Forgets ids s s') :
    Tabled s' (tabs.without fun id _ => id ∈ ids) shortcuts := by
  have hconfig : s'.runtimeConfig = s.runtimeConfig := (Prod.mk.inj hforgets.rest).1
  refine ⟨h.tabLeases.without hforgets.gone hforgets.kept, fun id item hitem => ?_, fun bev id => ?_,
    hforgets.shortcutLeases ▸ h.shortcutLeases⟩
  · obtain ⟨hold, hid⟩ := Registry.without_eq_some_iff.mp hitem
    rw [h.extra id item hold, isExtraTab, isExtraTab, decide_eq_decide]
    by_cases hextra : s.extraTabId ∈ ids
    · -- the extra tab is forgotten, and this is another one
      have hne : id ≠ s.extraTabId := fun heq => hid (heq ▸ hextra)
      rw [hforgets.extraGone hextra]
      exact iff_of_false (fun hold => hne hold.2) fun hnew => hnew.1 hnew.2
    · rw [hforgets.extraKept hextra]
  · rw [hforgets.owns, h.owners, hconfig]
    simp only [Registry.without_eq_some_iff]
    constructor
    · rintro ⟨⟨hflag, item, hitem, howner⟩, hid⟩
      exact ⟨hflag, item, ⟨hitem, hid⟩, howner⟩
    · rintro ⟨hflag, item, ⟨hitem, hid⟩, howner⟩
      exact ⟨⟨hflag, item, hitem, howner⟩, hid⟩

/-- **A tab is handed out**: `extraTabId` is what the server takes for the extra tab from now on. -/
theorem Tabled.rememberOwnedTab (bev : Conn) {id : String} (hid : id ≠ "") (hfresh : ¬ tabs.Live id)
    {extraTabId : String} {extra : Bool} (hnew : extra = decide (id = extraTabId))
    (hothers : ∀ a item, tabs a = some item → item.tag.extra = decide (a ≠ "" ∧ a = extraTabId)) :
    Tabled { s.rememberOwnedTab bev id with extraTabId := extraTabId } (tabs.register id ⟨bev, extra⟩)
      shortcuts := by
  have hremembered : (s.rememberOwnedTab bev id).tabLeases = s.tabLeases.insertIfNew id none
      ∧ (s.rememberOwnedTab bev id).shortcutLeases = s.shortcutLeases
      ∧ (s.rememberOwnedTab bev id).runtimeConfig = s.runtimeConfig := by
    rw [Server.rememberOwnedTab, if_neg hid]
    exact ⟨rfl, rfl, rfl⟩
  obtain ⟨hleases, hshortcuts, hconfig⟩ := hremembered
  refine ⟨?_, fun a item hitem => ?_, fun bev' a => ?_, ?_⟩
  · show Leased (s.rememberOwnedTab bev id).tabLeases _
    rw [hleases]
    exact h.tabLeases.register hfresh _
  · show item.tag.extra = decide (a ≠ "" ∧ a = extraTabId)
    by_cases ha : a = id
    · subst ha
      rw [register_self, Option.some.injEq] at hitem
      rw [← hitem, hnew, decide_eq_decide, and_iff_right hid]
    · rw [register_of_ne tabs _ ha] at hitem
      exact hothers a item hitem
  · show (s.rememberOwnedTab bev id).Owns bev' a ↔ (s.rememberOwnedTab bev id).runtimeConfig.tabLifetimeByConnection
      = true ∧ _
    rw [owns_rememberOwnedTab hid, h.owners, hconfig, ← and_or_left]
    refine and_congr_right fun _ => ?_
    by_cases ha : a = id
    · subst ha
      have hnone : ∀ item, tabs a ≠ some item := fun item hitem => hfresh (Registry.live_iff.mpr ⟨item, hitem⟩)
      simp [hnone, register_self]
    · rw [register_of_ne tabs _ ha]
      exact or_iff_left fun hsame => ha hsame.2.symm
  · show Leased (s.rememberOwnedTab bev id).shortcutLeases _
    rw [hshortcuts]
    exact h.shortcutLeases

/-- The lease of a live tab is renewed. -/
theorem Tabled.renewTab {id : String} (hlive : tabs.Live id) (deadline : Time) :
    Tabled { s with tabLeases := s.tabLeases.insert id (some deadline) } (tabs.renew id deadline)
      shortcuts := by
  have htag : ∀ {a item}, tabs.renew id deadline a = some item →
      ∃ old, tabs a = some old ∧ old.tag = item.tag := by
    intro a item hitem
    have hsame := congrFun (tags_renew tabs id deadline) a
    rw [tags, hitem, Option.map_some] at hsame
    exact Option.map_eq_some_iff.mp hsame.symm
  refine ⟨h.tabLeases.renew hlive deadline, fun a item hitem => ?_, fun bev a => ?_, h.shortcutLeases⟩
  · obtain ⟨old, hold, heq⟩ := htag hitem
    rw [← heq]
    exact h.extra a old hold
  · show s.Owns bev a ↔ _
    rw [h.owners]
    refine and_congr_right fun _ => ?_
    have hsame := congrFun (tags_renew tabs id deadline) a
    constructor
    · rintro ⟨old, hold, howner⟩
      rw [tags, tags, hold, Option.map_some] at hsame
      obtain ⟨item, hitem, heq⟩ := Option.map_eq_some_iff.mp hsame
      exact ⟨item, hitem, heq ▸ howner⟩
    · rintro ⟨item, hitem, howner⟩
      obtain ⟨old, hold, heq⟩ := htag hitem
      exact ⟨old, hold, heq ▸ howner⟩

/-- The table of the shortcuts changes. -/
theorem Tabled.setShortcuts {leases : StdMap String (Option Time)} {shortcuts' : Registry String ℤ Time}
    (hleases : Leased leases shortcuts') : Tabled { s with shortcutLeases := leases } tabs shortcuts' :=
  ⟨h.tabLeases, h.extra, h.owners, hleases⟩

end Tabled

end OpenMadt.Server
