import OpenMadt.Blinking
import OpenMadt.IconLoader

/-!
# The desktop

The rest of `Browser.cpp`: what a user sees besides the order and the texts of the tabs.  A desktop is a
browser together with the icons and colours of its tabs, the overlay of the extra zone, the launcher and
the popup of the shortcuts, and the settings that its pages were told.

* The members of `Desktop` other than `browser` are those that `Browser.lean` leaves out.  The slots are
  written once more, statement by statement, with both halves.
* `browser_exec` — the finer slots refine the coarser ones: they have the same responses, and lead to the
  same browsers.
* `DesktopStep` — the signals, and what Qt brings: clicks, timers, icons, sizes, documents.
* `DesktopStep.keeps` — so whatever signals, clicks and timers keep, the desktop keeps.

A `resize` and its event are one step, and a script runs at once in the document that the view shows.
Of the launcher its text is left out, and of the popup the place on the screen.
-/

namespace OpenMadt.Gui

/-! ### What is on the desktop -/

/-- The icon of a tab: the blank one of `makeBlankIcon`, or the icon of its page. -/
inductive TabIcon (Pixmap : Type) where
  | blank
  | page (icon : QIcon Pixmap)
  deriving DecidableEq

/-- The colour of a tab's text: `QPalette::WindowText` or `Qt::red`. -/
inductive TabTextColor where
  | windowText
  | red
  deriving DecidableEq, Repr

/-- What a tab shows besides its text and tooltip. -/
structure TabFace (Pixmap : Type) where
  icon : TabIcon Pixmap := .page none
  textColor : TabTextColor := .windowText
  deriving DecidableEq

/-- `QRect`. -/
structure QRect where
  x : ℤ
  y : ℤ
  width : ℤ
  height : ℤ
  deriving DecidableEq, Repr

/-- A button of the shortcut popup, with its cell in the grid and the id that its click handler holds. -/
structure ShortcutButton (Pixmap : Type) where
  row : ℕ
  column : ℕ
  icon : QIcon Pixmap
  text : String
  toolTip : String
  shortcutId : String

/-- The launcher and the popup of the shortcuts; `shortcutIcons` are the `icon`s of the entries. -/
structure ShortcutUi (Pixmap : Type) where
  launcherEnabled : Bool
  launcherVisible : Bool
  shortcutLayout : List (ShortcutButton Pixmap)
  popupVisible : Bool
  shortcutIcons : String → QIcon Pixmap

/-- The document in a view: whether `loadFinished(true)` came for it, and its `window.madtSettings`. -/
structure Document where
  finished : Bool := false
  madtSettings : Option Json := none

/-- `Browser`, with all that it shows; `opened` are the addresses given to `QDesktopServices::openUrl`. -/
structure Desktop (Pixmap : Type) where
  browser : Browser
  icons : String → QIcon Pixmap
  faces : String → TabFace Pixmap
  width : ℤ
  height : ℤ
  extraGeometry : QRect
  shortcutUi : ShortcutUi Pixmap
  opened : List String
  documents : String → Document

/-- The rectangle of `positionExtraZoneOverlay`, for a browser of the given size. -/
def extraZoneGeometry (config : RuntimeConfig) (width height : ℤ) : QRect :=
  match config.extraZonePlacement with
  | .Bottom =>
    let overlayHeight := max 1 config.extraZoneHeight
    ⟨0, max 0 (height - overlayHeight), width, overlayHeight⟩
  | .Free =>
    ⟨config.extraZoneRect.x, config.extraZoneRect.y, max 1 config.extraZoneRect.width,
      max 1 config.extraZoneRect.height⟩
  | .Top => ⟨0, 0, width, max 1 config.extraZoneHeight⟩

/-- What `applySettingsToView` tells a page: the settings, and the volume as two numbers. -/
def madtSettings (settings : SettingsState) : Json :=
  .obj (settingsMembers settings ++
    [("volumePercent", .int (settingsVolumeToPercent settings.volume)),
      ("volumeScalar", .float (settingsVolumeToPercent settings.volume / 100))])

namespace Desktop

variable {Pixmap : Type}

/-- The constructor, for a widget of the given size. -/
def new (runtimeConfig : RuntimeConfig) (width height : ℤ) : Desktop Pixmap where
  browser := Browser.new runtimeConfig
  icons := fun _ => none
  faces := fun _ => {}
  width := width
  height := height
  extraGeometry := extraZoneGeometry runtimeConfig width height
  shortcutUi :=
    { launcherEnabled := false
      launcherVisible := runtimeConfig.shortcutLauncherVisible && runtimeConfig.shortcutsEnabled
      shortcutLayout := []
      popupVisible := false
      shortcutIcons := fun _ => none }
  opened := []
  documents := fun _ => {}

/-! ### Tabs -/

/-- `setTabIcon` and `setTabTextColor`. -/
def setFace (d : Desktop Pixmap) (index : ℤ) (face : TabFace Pixmap) : Desktop Pixmap :=
  match d.browser.tabs.tabs[index.toNat]? with
  | some tab => { d with faces := Function.update d.faces tab.view face }
  | none => d

/-- The face of a tab that does not blink, or is in the visible half of its blinking. -/
def pageFace (d : Desktop Pixmap) (page : String) : TabFace Pixmap :=
  { icon := .page (d.icons page), textColor := .windowText }

/-- The face of a tab in the other half. -/
def blinkFace : TabFace Pixmap := { icon := .blank, textColor := .red }

/-- `applyPageIcon`. -/
def applyPageIcon (d : Desktop Pixmap) (page : String) : Desktop Pixmap :=
  let d := { d with browser := d.browser.updatePageIndex page }
  match d.browser.list[page]? with
  | none => d
  | some p => if p.index < 0 then d else d.setFace p.index (d.pageFace page)

/-- `stopBlink`. -/
def stopBlink (d : Desktop Pixmap) (page : String) : Desktop Pixmap :=
  { d with browser := d.browser.modifyPage page fun p =>
      { p with blinkTimer := false, blinkVisible := true } }.applyPageIcon page

/-- One round of the second loop of `syncTabOrder`. -/
def refreshPage (d : Desktop Pixmap) (page : BrowserPage) : Desktop Pixmap :=
  let d := { d with browser := (d.browser.updatePageIndex page.uuid).applyPageLabel page.uuid }
  if page.blinkVisible then d.applyPageIcon page.uuid else d

/-- `syncTabOrder`. -/
def syncTabOrder (d : Desktop Pixmap) : Desktop Pixmap :=
  let pages := d.browser.pagesInDisplayOrder
  let d := { d with browser :=
    { d.browser with tabs := pages.zipIdx.foldl Browser.moveToTarget d.browser.tabs } }
  pages.foldl refreshPage d

/-! ### The extra zone -/

/-- `positionExtraZoneOverlay`. -/
def positionExtraZoneOverlay (d : Desktop Pixmap) : Desktop Pixmap :=
  { d with extraGeometry := extraZoneGeometry d.browser.runtimeConfig d.width d.height }

/-- `showExtraZoneOverlay`. -/
def showExtraZoneOverlay (d : Desktop Pixmap) : Desktop Pixmap :=
  if !d.browser.hasExtraPage then d
  else
    let d := d.positionExtraZoneOverlay
    { d with browser := { d.browser with extraFrameVisible := true } }

/-- `hideExtraZoneOverlay`. -/
def hideExtraZoneOverlay (d : Desktop Pixmap) : Desktop Pixmap :=
  { d with browser := d.browser.hideExtraZoneOverlay }

/-- `updateExtraZoneVisibility`. -/
def updateExtraZoneVisibility (d : Desktop Pixmap) : Desktop Pixmap :=
  if !d.browser.hasExtraPage then d.hideExtraZoneOverlay
  else if d.browser.extraFrameVisible then d.showExtraZoneOverlay
  else d.positionExtraZoneOverlay

/-- `resizeEvent`, with the size that it reports. -/
def resizeEvent (d : Desktop Pixmap) (width height : ℤ) : Desktop Pixmap :=
  { d with width := width, height := height }.positionExtraZoneOverlay

/-! ### Shortcuts -/

/-- `updateShortcutLauncherState`. -/
def updateShortcutLauncherState (d : Desktop Pixmap) : Desktop Pixmap :=
  let hasShortcuts := !d.browser.shortcuts.isEmpty
  let config := d.browser.runtimeConfig
  { d with shortcutUi :=
    { d.shortcutUi with
      launcherEnabled := hasShortcuts
      launcherVisible := config.shortcutLauncherVisible && config.shortcutsEnabled
      popupVisible := hasShortcuts && d.shortcutUi.popupVisible } }

/-- The button that `rebuildShortcutPopup` makes of the `i`-th shortcut. -/
def shortcutButton (config : RuntimeConfig) (icon : QIcon Pixmap) (shortcut : ShortcutEntry) (i : ℕ) :
    ShortcutButton Pixmap :=
  let columns := (max 1 config.shortcutPopupColumns).toNat
  { row := i / columns
    column := i % columns
    icon := icon
    text := if config.tabBarShowLabels then "S" ++ toString (shortcut.shortcutPos + 1) else ""
    toolTip := if config.tabBarShowTooltips then shortcut.url else ""
    shortcutId := shortcut.shortcutId }

/-- `rebuildShortcutPopup`. -/
def rebuildShortcutPopup (d : Desktop Pixmap) : Desktop Pixmap :=
  { d with shortcutUi :=
    { d.shortcutUi with
      shortcutLayout := d.browser.shortcutsInDisplayOrder.zipIdx.map fun entry =>
        shortcutButton d.browser.runtimeConfig (d.shortcutUi.shortcutIcons entry.1.shortcutId) entry.1
          entry.2 } }

/-- `toggleShortcutPopup`. -/
def toggleShortcutPopup (d : Desktop Pixmap) : Desktop Pixmap :=
  if d.browser.shortcuts.isEmpty || !d.browser.runtimeConfig.shortcutsEnabled ||
      !d.browser.runtimeConfig.shortcutLauncherVisible then d
  else if d.shortcutUi.popupVisible then
    { d with shortcutUi := { d.shortcutUi with popupVisible := false } }
  else
    let d := d.rebuildShortcutPopup
    { d with shortcutUi := { d.shortcutUi with popupVisible := true } }

/-- `activateShortcut`. -/
def activateShortcut (d : Desktop Pixmap) (shortcutId : String) : Desktop Pixmap :=
  match d.browser.shortcuts[shortcutId]? with
  | none => d
  | some shortcut =>
    { d with
      opened := d.opened ++ [shortcut.url]
      shortcutUi := { d.shortcutUi with
        popupVisible := d.shortcutUi.popupVisible && !d.browser.runtimeConfig.shortcutAutoClose } }

/-! ### Icons and settings that arrive -/

/-- The callback that `onNewWebTab` gives to the icon loader. -/
def onPageIcon (d : Desktop Pixmap) (uuid : String) (icon : QIcon Pixmap) : Desktop Pixmap :=
  match d.browser.list[uuid]? with
  | none => d
  | some page =>
    let d := { d with icons := Function.update d.icons uuid icon }
    if page.blinkVisible then d.applyPageIcon uuid else d

/-- The callback that `onNewShortcut` gives to the icon loader. -/
def onShortcutIcon (d : Desktop Pixmap) (shortcutId : String) (icon : QIcon Pixmap) : Desktop Pixmap :=
  if shortcutId ∈ d.browser.shortcuts then
    { d with shortcutUi := { d.shortcutUi with
        shortcutIcons := Function.update d.shortcutUi.shortcutIcons shortcutId icon } }.rebuildShortcutPopup
  else d

/-- The call of the icon loader for an address, if there is one; `loaded` is the icon with which the loader
calls back at once, if it does. -/
def loadIcon (d : Desktop Pixmap) (iconUrl : String) (loaded : Option (QIcon Pixmap))
    (onLoaded : Desktop Pixmap → QIcon Pixmap → Desktop Pixmap) : Desktop Pixmap :=
  if iconUrl = "" then d
  else
    match loaded with
    | some icon => onLoaded d icon
    | none => d

/-- `applySettingsToView`. -/
def applySettingsToView (d : Desktop Pixmap) (view : String) : Desktop Pixmap :=
  { d with
    documents := Function.update d.documents view
      { d.documents view with madtSettings := some (madtSettings d.browser.currentSettings) } }

/-- `Browser::ApplySettings`. -/
def ApplySettings (d : Desktop Pixmap) (settings : SettingsState) : Desktop Pixmap :=
  let d := { d with browser := d.browser.ApplySettings settings }
  d.browser.list.keys.foldl applySettingsToView d

/-- The callback of `configureView`. -/
def onLoadFinished (d : Desktop Pixmap) (view : String) (ok : Bool) : Desktop Pixmap :=
  if ok then
    let d := { d with
      documents := Function.update d.documents view { d.documents view with finished := true } }
    d.applySettingsToView view
  else d

/-- The view shows a new document. -/
def newDocument (d : Desktop Pixmap) (view : String) : Desktop Pixmap :=
  { d with documents := Function.update d.documents view {} }

/-! ### The slots -/

/-- The part of `onNewWebTab` that adds a placed page to the tab widget. -/
def showNewTab (d : Desktop Pixmap) (uuid : String) : Desktop Pixmap :=
  let added := d.browser.tabs.addTab uuid ""
  let d := { d with
    browser := { d.browser with tabs := added.1 }.modifyPage uuid fun p => { p with index := added.2 }
    faces := Function.update d.faces uuid {} }.syncTabOrder
  let targetIndex := d.browser.tabs.indexOf uuid
  if d.browser.normalPageCount = 1 ∧ targetIndex ≥ 0 then
    { d with
      browser := { d.browser with tabs := d.browser.tabs.setCurrentIndex targetIndex }.modifyPage uuid
        fun p => { p with index := targetIndex } }
  else d

/-- `onNewWebTab`. -/
def onNewWebTab (d : Desktop Pixmap) (url iconUrl : String) (preferredPos flags : ℤ) (uuid : String)
    (loaded : Option (QIcon Pixmap)) : Option (Desktop Pixmap × CmdResponse) :=
  let extraPage := decide (preferredPos = POS_EXTRA)
  if !extraPage && decide (d.browser.normalPageCount ≥ MAX_TABS) then
    some (d, { result := .EXEC_ERROR })
  else if extraPage && d.browser.hasExtraPage then some (d, { result := .EXEC_ERROR })
  else
    let page := Browser.newPage url iconUrl preferredPos flags uuid
    let d := { d with
      browser := { d.browser with list := d.browser.list.insert uuid page }
      icons := Function.update d.icons uuid none }.newDocument uuid
    match d.browser.allocateLogicalPosition uuid with
    | none => none
    | some (b, false) =>
      some ({ d with browser := { b with list := b.list.erase uuid } }, { result := .EXEC_ERROR })
    | some (b, true) =>
      let d := { d with browser := b }
      let d := if extraPage then d.updateExtraZoneVisibility else d.showNewTab uuid
      some (d.loadIcon iconUrl loaded fun d icon => d.onPageIcon uuid icon, { result := .OK })

/-- `onActivateTab`. -/
def onActivateTab (d : Desktop Pixmap) (uuid : String) : Desktop Pixmap × CmdResponse :=
  match d.browser.list[uuid]? with
  | none => (d, { result := .TAB_NOT_FOUND })
  | some page =>
    let targetIndex := d.browser.tabs.indexOf uuid
    let d :=
      if isExtraPage page then d.showExtraZoneOverlay
      else if targetIndex ≥ 0 then
        { d with
          browser := { d.browser with tabs := d.browser.tabs.setCurrentIndex targetIndex }.modifyPage uuid
            fun p => { p with index := targetIndex } }
      else d
    (d.stopBlink uuid, { result := .OK })

/-- `onNavigateTo`. -/
def onNavigateTo (d : Desktop Pixmap) (uuid url : String) : Option (Desktop Pixmap × CmdResponse) :=
  match d.browser.list[uuid]? with
  | none => some (d, { result := .TAB_NOT_FOUND })
  | some page =>
    let d := { d with browser :=
      (d.browser.modifyPage uuid fun p => { p with url := url }).applyPageLabel uuid }
    if isExtraPage page then some (d.updateExtraZoneVisibility, { result := .OK })
    else if page.preferredPos = POS_BEGINNING ∨ page.preferredPos = POS_MIDDLE ∨
        page.preferredPos = POS_END then
      match d.browser.allocateZonePosition uuid page.preferredPos with
      | none => none
      | some (b, allocated) =>
        let d := { d with browser := b }
        some (if allocated then d.syncTabOrder else d, { result := .OK })
    else some (d, { result := .OK })

/-- `onKillTab`. -/
def onKillTab (d : Desktop Pixmap) (uuid : String) (forceDestroy : Bool) :
    Desktop Pixmap × CmdResponse :=
  match d.browser.list[uuid]? with
  | none => (d, { result := .TAB_NOT_FOUND })
  | some page =>
    let d := d.stopBlink uuid
    if isExtraPage page && !forceDestroy then (d.hideExtraZoneOverlay, { result := .OK })
    else if isExtraPage page then
      ({ d with browser := { d.browser with list := d.browser.list.erase uuid } }.updateExtraZoneVisibility,
        { result := .OK })
    else
      let index := d.browser.tabs.indexOf uuid
      let d := { d with browser := { d.browser with
        tabs := if index ≥ 0 then d.browser.tabs.removeTab index else d.browser.tabs
        list := d.browser.list.erase uuid } }
      (d.syncTabOrder, { result := .OK })

/-- `onBlinkTab`. -/
def onBlinkTab (d : Desktop Pixmap) (uuid : String) : Desktop Pixmap × CmdResponse :=
  match d.browser.list[uuid]? with
  | none => (d, { result := .TAB_NOT_FOUND })
  | some page =>
    if isExtraPage page then (d.showExtraZoneOverlay, { result := .OK })
    else
      let d := { d with browser := d.browser.updatePageIndex uuid }
      if d.browser.tabs.indexOf uuid ≥ 0 then
        if d.browser.tabs.current ≠ some uuid then
          ({ d with browser := d.browser.modifyPage uuid fun p =>
              { p with blinkTimer := true, blinkVisible := true } }, { result := .OK })
        else (d, { result := .OK })
      else (d, { result := .TAB_NOT_FOUND })

/-- The callback of the blink timer of a page. -/
def onBlinkTimer (d : Desktop Pixmap) (uuid : String) : Desktop Pixmap :=
  match d.browser.list[uuid]? with
  | none => d
  | some page =>
    if isExtraPage page then
      { d with browser := d.browser.modifyPage uuid fun p => { p with blinkTimer := false } }
    else
      let d := { d with browser := d.browser.updatePageIndex uuid }
      let index : ℤ := d.browser.tabs.indexOf uuid
      if index < 0 then
        { d with browser := d.browser.modifyPage uuid fun p => { p with blinkTimer := false } }
      else
        let d := { d with browser := d.browser.modifyPage uuid fun p =>
          { p with blinkVisible := !p.blinkVisible } }
        if page.blinkVisible then d.setFace index blinkFace else d.setFace index (d.pageFace uuid)

/-- `onNewShortcut`. -/
def onNewShortcut (d : Desktop Pixmap) (url iconUrl : String) (preferredPos flags : ℤ)
    (shortcutId : String) (loaded : Option (QIcon Pixmap)) : Desktop Pixmap × CmdResponse :=
  let placed := d.browser.onNewShortcut url iconUrl preferredPos flags shortcutId
  if placed.2.result = .OK then
    let d := { d with
      browser := placed.1
      shortcutUi := { d.shortcutUi with
        shortcutIcons := Function.update d.shortcutUi.shortcutIcons shortcutId none } }
    let d := d.loadIcon iconUrl loaded fun d icon => d.onShortcutIcon shortcutId icon
    (d.updateShortcutLauncherState.rebuildShortcutPopup, placed.2)
  else ({ d with browser := placed.1 }, placed.2)

/-- `onKillShortcut`. -/
def onKillShortcut (d : Desktop Pixmap) (shortcutId : String) : Desktop Pixmap × CmdResponse :=
  if shortcutId ∈ d.browser.shortcuts then
    ({ d with browser := { d.browser with
        shortcuts := d.browser.shortcuts.erase shortcutId } }.updateShortcutLauncherState.rebuildShortcutPopup,
      { result := .OK })
  else (d, { result := .TAB_NOT_FOUND })

/-- The slot that a signal is connected to. -/
def exec (d : Desktop Pixmap) (loaded : Option (QIcon Pixmap)) :
    Browser.Signal → Option (Desktop Pixmap × CmdResponse)
  | .NewWebTab url iconUrl preferredPos flags uuid =>
    d.onNewWebTab url iconUrl preferredPos flags uuid loaded
  | .ActivateTab uuid => some (d.onActivateTab uuid)
  | .NavigateTo uuid url => d.onNavigateTo uuid url
  | .GetTabMap => some (d, d.browser.onGetTabMap)
  | .KillTab uuid forceDestroy => some (d.onKillTab uuid forceDestroy)
  | .BlinkTab uuid => some (d.onBlinkTab uuid)
  | .NewShortcut url iconUrl preferredPos flags shortcutId =>
    some (d.onNewShortcut url iconUrl preferredPos flags shortcutId loaded)
  | .KillShortcut shortcutId => some (d.onKillShortcut shortcutId)
  | .GetShortcuts => some (d, d.browser.onGetShortcuts)

/-! ### What the tabs have nothing to do with -/

/-- Nothing but the browser and the faces of its tabs may have changed. -/
structure OnlyTabs (d d' : Desktop Pixmap) : Prop where
  icons : d'.icons = d.icons
  width : d'.width = d.width
  height : d'.height = d.height
  extraGeometry : d'.extraGeometry = d.extraGeometry
  shortcutUi : d'.shortcutUi = d.shortcutUi
  opened : d'.opened = d.opened
  documents : d'.documents = d.documents

theorem OnlyTabs.refl (d : Desktop Pixmap) : OnlyTabs d d := ⟨rfl, rfl, rfl, rfl, rfl, rfl, rfl⟩

theorem OnlyTabs.trans {d d' d'' : Desktop Pixmap} (h : OnlyTabs d d') (h' : OnlyTabs d' d'') :
    OnlyTabs d d'' :=
  ⟨h'.icons.trans h.icons, h'.width.trans h.width, h'.height.trans h.height,
    h'.extraGeometry.trans h.extraGeometry, h'.shortcutUi.trans h.shortcutUi, h'.opened.trans h.opened,
    h'.documents.trans h.documents⟩

theorem onlyTabs_browser (d : Desktop Pixmap) (b : Browser) : OnlyTabs d { d with browser := b } :=
  ⟨rfl, rfl, rfl, rfl, rfl, rfl, rfl⟩

theorem onlyTabs_setFace (d : Desktop Pixmap) (index : ℤ) (face : TabFace Pixmap) :
    OnlyTabs d (d.setFace index face) := by
  unfold setFace
  split
  · exact ⟨rfl, rfl, rfl, rfl, rfl, rfl, rfl⟩
  · exact OnlyTabs.refl d

theorem onlyTabs_applyPageIcon (d : Desktop Pixmap) (page : String) :
    OnlyTabs d (d.applyPageIcon page) := by
  have hindexed := d.onlyTabs_browser (d.browser.updatePageIndex page)
  unfold applyPageIcon
  dsimp only
  split
  · exact hindexed
  split
  · exact hindexed
  · exact hindexed.trans (onlyTabs_setFace _ _ _)

theorem onlyTabs_stopBlink (d : Desktop Pixmap) (page : String) : OnlyTabs d (d.stopBlink page) :=
  (d.onlyTabs_browser _).trans (onlyTabs_applyPageIcon _ page)

theorem onlyTabs_refreshPage (d : Desktop Pixmap) (page : BrowserPage) :
    OnlyTabs d (d.refreshPage page) := by
  unfold refreshPage
  dsimp only
  split
  · exact (d.onlyTabs_browser _).trans (onlyTabs_applyPageIcon _ page.uuid)
  · exact d.onlyTabs_browser _

theorem onlyTabs_refreshPages (pages : List BrowserPage) (d : Desktop Pixmap) :
    OnlyTabs d (pages.foldl refreshPage d) := by
  induction pages generalizing d with
  | nil => exact OnlyTabs.refl d
  | cons page pages ih => exact (d.onlyTabs_refreshPage page).trans (ih _)

theorem onlyTabs_syncTabOrder (d : Desktop Pixmap) : OnlyTabs d d.syncTabOrder :=
  (d.onlyTabs_browser _).trans (onlyTabs_refreshPages _ _)

theorem onlyTabs_showNewTab (d : Desktop Pixmap) (uuid : String) : OnlyTabs d (d.showNewTab uuid) := by
  have hadded : ∀ (b : Browser) (faces : String → TabFace Pixmap),
      OnlyTabs d { d with browser := b, faces := faces } := fun _ _ => ⟨rfl, rfl, rfl, rfl, rfl, rfl, rfl⟩
  unfold showNewTab
  dsimp only
  split
  · exact ((hadded _ _).trans (onlyTabs_syncTabOrder _)).trans (onlyTabs_browser _ _)
  · exact (hadded _ _).trans (onlyTabs_syncTabOrder _)

theorem onlyTabs_onBlinkTimer (d : Desktop Pixmap) (uuid : String) : OnlyTabs d (d.onBlinkTimer uuid) := by
  unfold onBlinkTimer
  split
  · exact OnlyTabs.refl d
  split
  · exact d.onlyTabs_browser _
  dsimp only
  split
  · exact d.onlyTabs_browser _
  split
  · exact (d.onlyTabs_browser _).trans (onlyTabs_setFace _ _ _)
  · exact (d.onlyTabs_browser _).trans (onlyTabs_setFace _ _ _)

/-! ### The browser underneath -/

@[simp] theorem browser_setFace (d : Desktop Pixmap) (index : ℤ) (face : TabFace Pixmap) :
    (d.setFace index face).browser = d.browser := by
  unfold setFace
  split <;> rfl

@[simp] theorem browser_applyPageIcon (d : Desktop Pixmap) (page : String) :
    (d.applyPageIcon page).browser = d.browser.applyPageIcon page := by
  unfold applyPageIcon
  dsimp only
  split
  · rfl
  split
  · rfl
  · rw [browser_setFace]
    rfl

@[simp] theorem browser_stopBlink (d : Desktop Pixmap) (page : String) :
    (d.stopBlink page).browser = d.browser.stopBlink page :=
  browser_applyPageIcon _ page

@[simp] theorem browser_refreshPage (d : Desktop Pixmap) (page : BrowserPage) :
    (d.refreshPage page).browser = d.browser.refreshPage page := by
  unfold refreshPage Browser.refreshPage
  dsimp only
  split
  · exact browser_applyPageIcon _ page.uuid
  · rfl

theorem browser_refreshPages (pages : List BrowserPage) (d : Desktop Pixmap) :
    (pages.foldl refreshPage d).browser = pages.foldl Browser.refreshPage d.browser := by
  induction pages generalizing d with
  | nil => rfl
  | cons page pages ih => rw [List.foldl_cons, ih, browser_refreshPage, List.foldl_cons]

@[simp] theorem browser_syncTabOrder (d : Desktop Pixmap) :
    d.syncTabOrder.browser = d.browser.syncTabOrder :=
  browser_refreshPages _ _

@[simp] theorem browser_showExtraZoneOverlay (d : Desktop Pixmap) :
    d.showExtraZoneOverlay.browser = d.browser.showExtraZoneOverlay := by
  unfold showExtraZoneOverlay Browser.showExtraZoneOverlay
  cases d.browser.hasExtraPage <;> rfl

@[simp] theorem browser_updateExtraZoneVisibility (d : Desktop Pixmap) :
    d.updateExtraZoneVisibility.browser = d.browser.updateExtraZoneVisibility := by
  unfold updateExtraZoneVisibility Browser.updateExtraZoneVisibility
  split
  · rfl
  split
  · exact browser_showExtraZoneOverlay d
  · rfl

@[simp] theorem browser_showNewTab (d : Desktop Pixmap) (uuid : String) :
    (d.showNewTab uuid).browser = d.browser.showNewTab uuid := by
  unfold showNewTab Browser.showNewTab
  dsimp only
  rw [browser_syncTabOrder]
  split
  · rfl
  · exact browser_syncTabOrder _

/-- An icon that arrives may make the browser look up the place of its page. -/
theorem browser_onPageIcon (d : Desktop Pixmap) (uuid : String) (icon : QIcon Pixmap) :
    (d.onPageIcon uuid icon).browser = d.browser
      ∨ (d.onPageIcon uuid icon).browser = d.browser.updatePageIndex uuid := by
  unfold onPageIcon
  split
  · exact Or.inl rfl
  dsimp only
  split
  · exact Or.inr (browser_applyPageIcon _ uuid)
  · exact Or.inl rfl

theorem browser_onShortcutIcon (d : Desktop Pixmap) (shortcutId : String) (icon : QIcon Pixmap) :
    (d.onShortcutIcon shortcutId icon).browser = d.browser := by
  unfold onShortcutIcon
  split <;> rfl

theorem browser_loadShortcutIcon (d : Desktop Pixmap) (shortcutId iconUrl : String)
    (loaded : Option (QIcon Pixmap)) :
    (d.loadIcon iconUrl loaded fun d icon => d.onShortcutIcon shortcutId icon).browser = d.browser := by
  unfold loadIcon
  split
  · rfl
  split
  · exact d.browser_onShortcutIcon shortcutId _
  · rfl

theorem browser_ApplySettings (d : Desktop Pixmap) (settings : SettingsState) :
    (d.ApplySettings settings).browser = d.browser.ApplySettings settings := by
  have hviews : ∀ (views : List String) (d : Desktop Pixmap),
      (views.foldl applySettingsToView d).browser = d.browser := by
    intro views
    induction views with
    | nil => exact fun d => rfl
    | cons view views ih => exact fun d => ih (d.applySettingsToView view)
  exact hviews _ _

theorem browser_onLoadFinished (d : Desktop Pixmap) (view : String) (ok : Bool) :
    (d.onLoadFinished view ok).browser = d.browser := by
  unfold onLoadFinished
  split <;> rfl

theorem browser_toggleShortcutPopup (d : Desktop Pixmap) : d.toggleShortcutPopup.browser = d.browser := by
  unfold toggleShortcutPopup
  split
  · rfl
  split <;> rfl

theorem browser_activateShortcut (d : Desktop Pixmap) (shortcutId : String) :
    (d.activateShortcut shortcutId).browser = d.browser := by
  unfold activateShortcut
  split <;> rfl

/-- A slot of the desktop does to the browser what the slot of the browser does, with its response. -/
def Refines (r : Desktop Pixmap × CmdResponse) (r' : Browser × CmdResponse) : Prop :=
  r.1.browser = r'.1 ∧ r.2 = r'.2

theorem browser_onActivateTab (d : Desktop Pixmap) (uuid : String) :
    Refines (d.onActivateTab uuid) (d.browser.onActivateTab uuid) := by
  unfold onActivateTab Browser.onActivateTab
  cases d.browser.list[uuid]? with
  | none => exact ⟨rfl, rfl⟩
  | some page =>
    dsimp only
    refine ⟨?_, rfl⟩
    dsimp only
    rw [browser_stopBlink]
    split
    · rw [browser_showExtraZoneOverlay]
    split <;> rfl

theorem browser_onKillTab (d : Desktop Pixmap) (uuid : String) (forceDestroy : Bool) :
    Refines (d.onKillTab uuid forceDestroy) (d.browser.onKillTab uuid forceDestroy) := by
  have hstop := d.browser_stopBlink uuid
  unfold onKillTab Browser.onKillTab
  cases d.browser.list[uuid]? with
  | none => exact ⟨rfl, rfl⟩
  | some page =>
    dsimp only
    rw [← hstop]
    split
    · exact ⟨rfl, rfl⟩
    split
    · exact ⟨browser_updateExtraZoneVisibility _, rfl⟩
    · exact ⟨browser_syncTabOrder _, rfl⟩

theorem browser_onBlinkTab (d : Desktop Pixmap) (uuid : String) :
    Refines (d.onBlinkTab uuid) (d.browser.onBlinkTab uuid) := by
  unfold onBlinkTab Browser.onBlinkTab
  cases d.browser.list[uuid]? with
  | none => exact ⟨rfl, rfl⟩
  | some page =>
    dsimp only
    split
    · exact ⟨d.browser_showExtraZoneOverlay, rfl⟩
    split
    · split <;> exact ⟨rfl, rfl⟩
    · exact ⟨rfl, rfl⟩

theorem browser_onBlinkTimer (d : Desktop Pixmap) (uuid : String) :
    (d.onBlinkTimer uuid).browser = d.browser.onBlinkTimer uuid := by
  unfold onBlinkTimer Browser.onBlinkTimer
  cases d.browser.list[uuid]? with
  | none => rfl
  | some page =>
    dsimp only
    split
    · rfl
    split
    · rfl
    split <;> exact browser_setFace _ _ _

theorem browser_onNavigateTo {d d' : Desktop Pixmap} {uuid url : String} {resp : CmdResponse}
    (h : d.onNavigateTo uuid url = some (d', resp)) :
    d.browser.onNavigateTo uuid url = some (d'.browser, resp) := by
  unfold onNavigateTo at h
  unfold Browser.onNavigateTo
  cases hpage : d.browser.list[uuid]? with
  | none =>
    rw [hpage] at h
    cases h
    rfl
  | some page =>
  rw [hpage] at h
  dsimp only at h ⊢
  split at h
  next hextra =>
    cases h
    rw [if_pos hextra, browser_updateExtraZoneVisibility]
  next hextra =>
  rw [if_neg hextra]
  split at h
  next hzone =>
    rw [if_pos hzone]
    cases hplaced : ((d.browser.modifyPage uuid fun p => { p with url := url }).applyPageLabel
        uuid).allocateZonePosition uuid page.preferredPos with
    | none =>
      rw [hplaced] at h
      cases h
    | some r =>
      obtain ⟨b, allocated⟩ := r
      rw [hplaced] at h
      cases h
      cases allocated with
      | true =>
        rw [if_pos rfl, browser_syncTabOrder]
        rfl
      | false => rfl
  next hzone =>
    cases h
    rw [if_neg hzone]

/-- There is no icon of this page yet, and no document. -/
def untouched (d : Desktop Pixmap) (uuid : String) : Desktop Pixmap :=
  { d with icons := Function.update d.icons uuid none }.newDocument uuid

/-- `onNewWebTab` refuses the page, takes it in and drops it again, or takes it in and shows it; then its
icon may be there at once. -/
theorem onNewWebTab_outcome {d d' : Desktop Pixmap} {url iconUrl uuid : String} {preferredPos flags : ℤ}
    {loaded : Option (QIcon Pixmap)} {resp : CmdResponse}
    (h : d.onNewWebTab url iconUrl preferredPos flags uuid loaded = some (d', resp)) :
    (d' = d ∧ d.browser.onNewWebTab url iconUrl preferredPos flags uuid = some (d.browser, resp))
      ∨ ∃ b placed, Browser.allocateLogicalPosition { d.browser with
          list := d.browser.list.insert uuid (Browser.newPage url iconUrl preferredPos flags uuid) } uuid
            = some (b, placed)
        ∧ ∃ shown : Desktop Pixmap,
          d.browser.onNewWebTab url iconUrl preferredPos flags uuid = some (shown.browser, resp)
          ∧ ((placed = false ∧ d' = shown
              ∧ shown = { d.untouched uuid with browser := { b with list := b.list.erase uuid } })
            ∨ (placed = true ∧ d' = shown.loadIcon iconUrl loaded (fun d icon => d.onPageIcon uuid icon)
              ∧ shown = if preferredPos = POS_EXTRA
                  then { d.untouched uuid with browser := b }.updateExtraZoneVisibility
                  else { d.untouched uuid with browser := b }.showNewTab uuid)) := by
  unfold onNewWebTab at h
  unfold Browser.onNewWebTab
  dsimp only [newDocument, Browser.newPage] at h ⊢
  split at h
  next hfull =>
    cases h
    exact Or.inl ⟨rfl, by rw [if_pos hfull]⟩
  next hfull =>
  rw [if_neg hfull]
  split at h
  next hextra =>
    cases h
    exact Or.inl ⟨rfl, by rw [if_pos hextra]⟩
  next hextra =>
  rw [if_neg hextra]
  cases hplaced : Browser.allocateLogicalPosition { d.browser with
      list := d.browser.list.insert uuid (Browser.newPage url iconUrl preferredPos flags uuid) } uuid with
  | none =>
    rw [Browser.newPage] at hplaced
    rw [hplaced] at h
    cases h
  | some r =>
  obtain ⟨b, placed⟩ := r
  rw [Browser.newPage] at hplaced
  rw [hplaced] at h ⊢
  cases placed with
  | false =>
    cases h
    exact Or.inr ⟨b, false, rfl, _, rfl, Or.inl ⟨rfl, rfl, rfl⟩⟩
  | true =>
    dsimp only at h ⊢
    by_cases hpos : preferredPos = POS_EXTRA
    · rw [if_pos (decide_eq_true hpos)] at h
      cases h
      refine Or.inr ⟨b, true, rfl, _, ?_, Or.inr ⟨rfl, rfl, (if_pos hpos).symm⟩⟩
      rw [if_pos (decide_eq_true hpos), browser_updateExtraZoneVisibility]
    · rw [if_neg fun heq => hpos (of_decide_eq_true heq)] at h
      cases h
      refine Or.inr ⟨b, true, rfl, _, ?_, Or.inr ⟨rfl, rfl, (if_neg hpos).symm⟩⟩
      rw [if_neg fun heq => hpos (of_decide_eq_true heq), browser_showNewTab]

theorem browser_onNewWebTab {d d' : Desktop Pixmap} {url iconUrl uuid : String} {preferredPos flags : ℤ}
    {loaded : Option (QIcon Pixmap)} {resp : CmdResponse}
    (h : d.onNewWebTab url iconUrl preferredPos flags uuid loaded = some (d', resp)) :
    ∃ b, d.browser.onNewWebTab url iconUrl preferredPos flags uuid = some (b, resp)
      ∧ (d'.browser = b ∨ d'.browser = b.updatePageIndex uuid) := by
  rcases onNewWebTab_outcome h with ⟨rfl, hb⟩ | ⟨-, -, -, shown, hb, ⟨-, rfl, -⟩ | ⟨-, rfl, -⟩⟩
  · exact ⟨_, hb, Or.inl rfl⟩
  · exact ⟨_, hb, Or.inl rfl⟩
  · refine ⟨_, hb, ?_⟩
    unfold loadIcon
    split
    · exact Or.inl rfl
    split
    · exact browser_onPageIcon shown uuid _
    · exact Or.inl rfl

theorem browser_onNewShortcut (d : Desktop Pixmap) (url iconUrl : String) (preferredPos flags : ℤ)
    (shortcutId : String) (loaded : Option (QIcon Pixmap)) :
    Refines (d.onNewShortcut url iconUrl preferredPos flags shortcutId loaded)
      (d.browser.onNewShortcut url iconUrl preferredPos flags shortcutId) := by
  unfold onNewShortcut
  dsimp only
  split
  · exact ⟨browser_loadShortcutIcon _ shortcutId iconUrl loaded, rfl⟩
  · exact ⟨rfl, rfl⟩

theorem browser_onKillShortcut (d : Desktop Pixmap) (shortcutId : String) :
    Refines (d.onKillShortcut shortcutId) (d.browser.onKillShortcut shortcutId) := by
  unfold onKillShortcut Browser.onKillShortcut
  split <;> exact ⟨rfl, rfl⟩

/-- **The finer slots refine the coarser ones.** -/
theorem browser_exec {d d' : Desktop Pixmap} {loaded : Option (QIcon Pixmap)} {signal : Browser.Signal}
    {resp : CmdResponse} (h : d.exec loaded signal = some (d', resp)) :
    ∃ b, d.browser.exec signal = some (b, resp)
      ∧ (d'.browser = b ∨ ∃ uuid, d'.browser = b.updatePageIndex uuid) := by
  have hsame : ∀ {r : Desktop Pixmap × CmdResponse} {r' : Browser × CmdResponse}, some r = some (d', resp) →
      Refines r r' → ∃ b, some r' = some (b, resp)
        ∧ (d'.browser = b ∨ ∃ uuid, d'.browser = b.updatePageIndex uuid) := by
    intro r r' heq hr
    obtain rfl := Option.some.inj heq
    exact ⟨r'.1, congrArg (fun resp => some (r'.1, resp)) hr.2.symm, Or.inl hr.1⟩
  cases signal with
  | NewWebTab url iconUrl preferredPos flags uuid =>
    obtain ⟨b, hb, hbrowser⟩ := browser_onNewWebTab h
    exact ⟨b, hb, hbrowser.imp_right fun hindex => ⟨uuid, hindex⟩⟩
  | NavigateTo uuid url => exact ⟨_, browser_onNavigateTo h, Or.inl rfl⟩
  | ActivateTab uuid => exact hsame h (d.browser_onActivateTab uuid)
  | KillTab uuid forceDestroy => exact hsame h (d.browser_onKillTab uuid forceDestroy)
  | BlinkTab uuid => exact hsame h (d.browser_onBlinkTab uuid)
  | NewShortcut url iconUrl preferredPos flags shortcutId =>
    exact hsame h (d.browser_onNewShortcut url iconUrl preferredPos flags shortcutId loaded)
  | KillShortcut shortcutId => exact hsame h (d.browser_onKillShortcut shortcutId)
  | GetTabMap => exact hsame h ⟨rfl, rfl⟩
  | GetShortcuts => exact hsame h ⟨rfl, rfl⟩

/-! ### What the pages have nothing to do with -/

/-- The shortcuts, the addresses that were opened and the documents are as before. -/
structure OnlyPages (d d' : Desktop Pixmap) : Prop where
  shortcutUi : d'.shortcutUi = d.shortcutUi
  opened : d'.opened = d.opened
  documents : d'.documents = d.documents

theorem OnlyPages.refl (d : Desktop Pixmap) : OnlyPages d d := ⟨rfl, rfl, rfl⟩

theorem OnlyPages.trans {d d' d'' : Desktop Pixmap} (h : OnlyPages d d') (h' : OnlyPages d' d'') :
    OnlyPages d d'' :=
  ⟨h'.shortcutUi.trans h.shortcutUi, h'.opened.trans h.opened, h'.documents.trans h.documents⟩

theorem OnlyTabs.onlyPages {d d' : Desktop Pixmap} (h : OnlyTabs d d') : OnlyPages d d' :=
  ⟨h.shortcutUi, h.opened, h.documents⟩

theorem onlyPages_browser (d : Desktop Pixmap) (b : Browser) : OnlyPages d { d with browser := b } :=
  ⟨rfl, rfl, rfl⟩

theorem onlyPages_showExtraZoneOverlay (d : Desktop Pixmap) : OnlyPages d d.showExtraZoneOverlay := by
  unfold showExtraZoneOverlay
  split <;> exact ⟨rfl, rfl, rfl⟩

theorem onlyPages_updateExtraZoneVisibility (d : Desktop Pixmap) :
    OnlyPages d d.updateExtraZoneVisibility := by
  unfold updateExtraZoneVisibility
  split
  · exact ⟨rfl, rfl, rfl⟩
  split
  · exact d.onlyPages_showExtraZoneOverlay
  · exact ⟨rfl, rfl, rfl⟩

theorem onlyPages_onPageIcon (d : Desktop Pixmap) (uuid : String) (icon : QIcon Pixmap) :
    OnlyPages d (d.onPageIcon uuid icon) := by
  have hicon : OnlyPages d { d with icons := Function.update d.icons uuid icon } := ⟨rfl, rfl, rfl⟩
  unfold onPageIcon
  split
  · exact OnlyPages.refl d
  dsimp only
  split
  · exact hicon.trans (onlyTabs_applyPageIcon _ uuid).onlyPages
  · exact hicon

/-- A page that comes in has a view, with no document yet. -/
theorem onlyPages_onNewWebTab {d d' : Desktop Pixmap} {url iconUrl uuid : String} {preferredPos flags : ℤ}
    {loaded : Option (QIcon Pixmap)} {resp : CmdResponse}
    (h : d.onNewWebTab url iconUrl preferredPos flags uuid loaded = some (d', resp)) :
    d' = d ∨ OnlyPages (d.untouched uuid) d' := by
  rcases onNewWebTab_outcome h with ⟨rfl, -⟩ | ⟨b, placed, -, shown, -, hcases⟩
  · exact Or.inl rfl
  refine Or.inr ?_
  rcases hcases with ⟨-, rfl, rfl⟩ | ⟨-, rfl, hshown⟩
  · exact onlyPages_browser _ _
  have hcame : OnlyPages (d.untouched uuid) shown := by
    rw [hshown]
    split
    · exact (onlyPages_browser _ b).trans (onlyPages_updateExtraZoneVisibility _)
    · exact (onlyPages_browser _ b).trans (onlyTabs_showNewTab _ uuid).onlyPages
  unfold loadIcon
  split
  · exact hcame
  split
  · exact hcame.trans (onlyPages_onPageIcon _ uuid _)
  · exact hcame

theorem onlyPages_onActivateTab (d : Desktop Pixmap) (uuid : String) :
    OnlyPages d (d.onActivateTab uuid).1 := by
  unfold onActivateTab
  split
  · exact OnlyPages.refl d
  dsimp only
  refine OnlyPages.trans ?_ (onlyTabs_stopBlink _ uuid).onlyPages
  split
  · exact d.onlyPages_showExtraZoneOverlay
  split
  · exact d.onlyPages_browser _
  · exact OnlyPages.refl d

theorem onlyPages_onNavigateTo {d d' : Desktop Pixmap} {uuid url : String} {resp : CmdResponse}
    (h : d.onNavigateTo uuid url = some (d', resp)) : OnlyPages d d' := by
  unfold onNavigateTo at h
  split at h
  · cases h
    exact OnlyPages.refl d
  dsimp only at h
  split at h
  · cases h
    exact (d.onlyPages_browser _).trans (onlyPages_updateExtraZoneVisibility _)
  split at h
  · split at h
    · cases h
    next b allocated hplaced =>
      cases h
      split
      · exact (d.onlyPages_browser b).trans (onlyTabs_syncTabOrder _).onlyPages
      · exact d.onlyPages_browser b
  · cases h
    exact d.onlyPages_browser _

theorem onlyPages_onKillTab (d : Desktop Pixmap) (uuid : String) (forceDestroy : Bool) :
    OnlyPages d (d.onKillTab uuid forceDestroy).1 := by
  have hstopped := (d.onlyTabs_stopBlink uuid).onlyPages
  unfold onKillTab
  split
  · exact OnlyPages.refl d
  dsimp only
  split
  · exact hstopped.trans (onlyPages_browser _ _)
  split
  · exact (hstopped.trans (onlyPages_browser _ _)).trans (onlyPages_updateExtraZoneVisibility _)
  · exact (hstopped.trans (onlyPages_browser _ _)).trans (onlyTabs_syncTabOrder _).onlyPages

theorem onlyPages_onBlinkTab (d : Desktop Pixmap) (uuid : String) :
    OnlyPages d (d.onBlinkTab uuid).1 := by
  unfold onBlinkTab
  split
  · exact OnlyPages.refl d
  split
  · exact d.onlyPages_showExtraZoneOverlay
  dsimp only
  split
  · split <;> exact d.onlyPages_browser _
  · exact d.onlyPages_browser _

/-- The signals for tabs: one that brings in a page makes a view, and the others leave all views alone. -/
theorem onlyPages_exec {d d' : Desktop Pixmap} {loaded : Option (QIcon Pixmap)} {signal : Browser.Signal}
    {resp : CmdResponse} (h : d.exec loaded signal = some (d', resp)) (hsignal : ¬ signal.ForShortcuts) :
    d' = d
      ∨ (OnlyPages d d' ∧ ∀ url iconUrl preferredPos flags uuid,
          signal ≠ .NewWebTab url iconUrl preferredPos flags uuid)
      ∨ ∃ url iconUrl preferredPos flags uuid,
          signal = .NewWebTab url iconUrl preferredPos flags uuid ∧ OnlyPages (d.untouched uuid) d' := by
  have hresult : ∀ {r : Desktop Pixmap × CmdResponse}, some r = some (d', resp) → OnlyPages d r.1 →
      OnlyPages d d' := by
    intro r heq hr
    obtain rfl := Option.some.inj heq
    exact hr
  cases signal with
  | NewWebTab url iconUrl preferredPos flags uuid =>
    rcases onlyPages_onNewWebTab h with rfl | hnew
    · exact Or.inl rfl
    · exact Or.inr (Or.inr ⟨url, iconUrl, preferredPos, flags, uuid, rfl, hnew⟩)
  | NavigateTo uuid url => exact Or.inr (Or.inl ⟨onlyPages_onNavigateTo h, nofun⟩)
  | ActivateTab uuid => exact Or.inr (Or.inl ⟨hresult h (d.onlyPages_onActivateTab uuid), nofun⟩)
  | KillTab uuid forceDestroy =>
    exact Or.inr (Or.inl ⟨hresult h (d.onlyPages_onKillTab uuid forceDestroy), nofun⟩)
  | BlinkTab uuid => exact Or.inr (Or.inl ⟨hresult h (d.onlyPages_onBlinkTab uuid), nofun⟩)
  | NewShortcut url iconUrl preferredPos flags shortcutId => exact absurd trivial hsignal
  | KillShortcut shortcutId => exact absurd trivial hsignal
  | GetTabMap => exact Or.inr (Or.inl ⟨hresult h (OnlyPages.refl d), nofun⟩)
  | GetShortcuts => exact Or.inr (Or.inl ⟨hresult h (OnlyPages.refl d), nofun⟩)

/-! ### What the shortcuts and the settings have nothing to do with -/

/-- The pages, their tabs and the overlay are as before. -/
structure SamePages (d d' : Desktop Pixmap) : Prop where
  browser : d'.browser = { d.browser with
    shortcuts := d'.browser.shortcuts, currentSettings := d'.browser.currentSettings }
  icons : d'.icons = d.icons
  faces : d'.faces = d.faces
  width : d'.width = d.width
  height : d'.height = d.height
  extraGeometry : d'.extraGeometry = d.extraGeometry

theorem SamePages.refl (d : Desktop Pixmap) : SamePages d d := ⟨rfl, rfl, rfl, rfl, rfl, rfl⟩

theorem SamePages.trans {d d' d'' : Desktop Pixmap} (h : SamePages d d') (h' : SamePages d' d'') :
    SamePages d d'' := by
  refine ⟨?_, h'.icons.trans h.icons, h'.faces.trans h.faces, h'.width.trans h.width,
    h'.height.trans h.height, h'.extraGeometry.trans h.extraGeometry⟩
  rw [h'.browser, h.browser]

theorem samePages_of_browser {d d' : Desktop Pixmap} (hbrowser : d'.browser = d.browser)
    (hicons : d'.icons = d.icons) (hfaces : d'.faces = d.faces) (hwidth : d'.width = d.width)
    (hheight : d'.height = d.height) (hgeometry : d'.extraGeometry = d.extraGeometry) : SamePages d d' :=
  ⟨by rw [hbrowser], hicons, hfaces, hwidth, hheight, hgeometry⟩

/-- Nothing but the shortcuts, their launcher and popup, and the addresses that were opened may have
changed. -/
structure OnlyShortcuts (d d' : Desktop Pixmap) : Prop where
  pages : SamePages d d'
  currentSettings : d'.browser.currentSettings = d.browser.currentSettings
  documents : d'.documents = d.documents

theorem OnlyShortcuts.refl (d : Desktop Pixmap) : OnlyShortcuts d d := ⟨SamePages.refl d, rfl, rfl⟩

theorem OnlyShortcuts.trans {d d' d'' : Desktop Pixmap} (h : OnlyShortcuts d d')
    (h' : OnlyShortcuts d' d'') : OnlyShortcuts d d'' :=
  ⟨h.pages.trans h'.pages, h'.currentSettings.trans h.currentSettings, h'.documents.trans h.documents⟩

theorem onlyShortcuts_shortcutUi (d : Desktop Pixmap) (ui : ShortcutUi Pixmap) :
    OnlyShortcuts d { d with shortcutUi := ui } :=
  ⟨samePages_of_browser rfl rfl rfl rfl rfl rfl, rfl, rfl⟩

theorem onlyShortcuts_onShortcutIcon (d : Desktop Pixmap) (shortcutId : String) (icon : QIcon Pixmap) :
    OnlyShortcuts d (d.onShortcutIcon shortcutId icon) := by
  unfold onShortcutIcon
  split
  · exact d.onlyShortcuts_shortcutUi _
  · exact OnlyShortcuts.refl d

theorem onlyShortcuts_onNewShortcut (d : Desktop Pixmap) (url iconUrl : String) (preferredPos flags : ℤ)
    (shortcutId : String) (loaded : Option (QIcon Pixmap)) :
    OnlyShortcuts d (d.onNewShortcut url iconUrl preferredPos flags shortcutId loaded).1 := by
  have hplaced := d.browser.onNewShortcut_eq url iconUrl preferredPos flags shortcutId
  have hbrowser : ∀ ui : ShortcutUi Pixmap, OnlyShortcuts d { d with
      browser := (d.browser.onNewShortcut url iconUrl preferredPos flags shortcutId).1
      shortcutUi := ui } := fun ui =>
    ⟨⟨by dsimp only; rw [hplaced], rfl, rfl, rfl, rfl, rfl⟩, by dsimp only; rw [hplaced], rfl⟩
  have hloaded : ∀ d : Desktop Pixmap, OnlyShortcuts d
      (d.loadIcon iconUrl loaded fun d icon => d.onShortcutIcon shortcutId icon) := by
    intro d
    unfold loadIcon
    split
    · exact OnlyShortcuts.refl d
    split
    · exact d.onlyShortcuts_onShortcutIcon shortcutId _
    · exact OnlyShortcuts.refl d
  have hbuilt : ∀ d : Desktop Pixmap,
      OnlyShortcuts d d.updateShortcutLauncherState.rebuildShortcutPopup := fun d =>
    (d.onlyShortcuts_shortcutUi _).trans (onlyShortcuts_shortcutUi _ _)
  unfold onNewShortcut
  dsimp only
  split
  · exact ((hbrowser _).trans (hloaded _)).trans (hbuilt _)
  · exact hbrowser _

theorem onlyShortcuts_onKillShortcut (d : Desktop Pixmap) (shortcutId : String) :
    OnlyShortcuts d (d.onKillShortcut shortcutId).1 := by
  unfold onKillShortcut
  split
  · exact ⟨⟨rfl, rfl, rfl, rfl, rfl, rfl⟩, rfl, rfl⟩
  · exact OnlyShortcuts.refl d

/-- The signals for shortcuts. -/
theorem onlyShortcuts_exec {d d' : Desktop Pixmap} {loaded : Option (QIcon Pixmap)}
    {signal : Browser.Signal} {resp : CmdResponse} (h : d.exec loaded signal = some (d', resp))
    (hsignal : signal.ForShortcuts) : OnlyShortcuts d d' := by
  cases signal with
  | NewShortcut url iconUrl preferredPos flags shortcutId =>
    obtain ⟨rfl, -⟩ := Prod.mk.inj (Option.some.inj h)
    exact d.onlyShortcuts_onNewShortcut url iconUrl preferredPos flags shortcutId loaded
  | KillShortcut shortcutId =>
    obtain ⟨rfl, -⟩ := Prod.mk.inj (Option.some.inj h)
    exact d.onlyShortcuts_onKillShortcut shortcutId
  | _ => exact hsignal.elim

theorem onlyShortcuts_toggleShortcutPopup (d : Desktop Pixmap) : OnlyShortcuts d d.toggleShortcutPopup := by
  unfold toggleShortcutPopup
  split
  · exact OnlyShortcuts.refl d
  split
  · exact d.onlyShortcuts_shortcutUi _
  · exact (d.onlyShortcuts_shortcutUi _).trans (onlyShortcuts_shortcutUi _ _)

theorem onlyShortcuts_activateShortcut (d : Desktop Pixmap) (shortcutId : String) :
    OnlyShortcuts d (d.activateShortcut shortcutId) := by
  unfold activateShortcut
  split
  · exact OnlyShortcuts.refl d
  · exact ⟨samePages_of_browser rfl rfl rfl rfl rfl rfl, rfl, rfl⟩

/-- Nothing but the documents and the settings may have changed. -/
structure OnlyDocuments (d d' : Desktop Pixmap) : Prop where
  pages : SamePages d d'
  shortcuts : d'.browser.shortcuts = d.browser.shortcuts
  shortcutUi : d'.shortcutUi = d.shortcutUi
  opened : d'.opened = d.opened

theorem OnlyDocuments.refl (d : Desktop Pixmap) : OnlyDocuments d d := ⟨SamePages.refl d, rfl, rfl, rfl⟩

theorem OnlyDocuments.trans {d d' d'' : Desktop Pixmap} (h : OnlyDocuments d d')
    (h' : OnlyDocuments d' d'') : OnlyDocuments d d'' :=
  ⟨h.pages.trans h'.pages, h'.shortcuts.trans h.shortcuts, h'.shortcutUi.trans h.shortcutUi,
    h'.opened.trans h.opened⟩

theorem onlyDocuments_documents (d : Desktop Pixmap) (documents : String → Document) :
    OnlyDocuments d { d with documents := documents } :=
  ⟨samePages_of_browser rfl rfl rfl rfl rfl rfl, rfl, rfl, rfl⟩

theorem onlyDocuments_onLoadFinished (d : Desktop Pixmap) (view : String) (ok : Bool) :
    OnlyDocuments d (d.onLoadFinished view ok) := by
  unfold onLoadFinished
  split
  · exact (d.onlyDocuments_documents _).trans (onlyDocuments_documents _ _)
  · exact OnlyDocuments.refl d

theorem onlyDocuments_ApplySettings (d : Desktop Pixmap) (settings : SettingsState) :
    OnlyDocuments d (d.ApplySettings settings) := by
  have hviews : ∀ (views : List String) (d : Desktop Pixmap),
      OnlyDocuments d (views.foldl applySettingsToView d) := by
    intro views
    induction views with
    | nil => exact OnlyDocuments.refl
    | cons view views ih => exact fun d => (d.onlyDocuments_documents _).trans (ih _)
  have hsettings : OnlyDocuments d { d with browser := d.browser.ApplySettings settings } :=
    ⟨⟨rfl, rfl, rfl, rfl, rfl, rfl⟩, rfl, rfl, rfl⟩
  exact hsettings.trans (hviews _ _)

end Desktop

/-! ### What happens on the desktop -/

/-- The signals, with the icon that the loader calls back with at once, and what Qt brings. -/
inductive DesktopEvent (Pixmap : Type) where
  | signal (s : Browser.Signal) (loaded : Option (QIcon Pixmap))
  /-- A click on a tab. -/
  | click (index : ℕ)
  | blinkTimer (uuid : String)
  /-- The loader calls back with the icon of a page, or of a shortcut. -/
  | pageIcon (uuid : String) (icon : QIcon Pixmap)
  | shortcutIcon (shortcutId : String) (icon : QIcon Pixmap)
  | resize (width height : ℤ)
  | launcherClicked
  /-- A click on the button of the popup with this number. -/
  | buttonClicked (i : ℕ)
  /-- A click somewhere else closes the popup. -/
  | popupClosed
  | ApplySettings (settings : SettingsState)
  | newDocument (uuid : String)
  | loadFinished (uuid : String) (ok : Bool)

variable {Pixmap : Type}

/-- What these events do.  An icon may arrive for a page or a shortcut that is gone. -/
inductive DesktopStep : Desktop Pixmap → DesktopEvent Pixmap → Desktop Pixmap → Prop where
  | signal {d d' : Desktop Pixmap} {s : Browser.Signal} {loaded : Option (QIcon Pixmap)}
      {resp : CmdResponse} (hfresh : Fresh d.browser s) (h : d.exec loaded s = some (d', resp)) :
      DesktopStep d (.signal s loaded) d'
  | click (d : Desktop Pixmap) {index : ℕ} (h : index < d.browser.tabs.tabs.length) :
      DesktopStep d (.click index)
        { d with browser := { d.browser with tabs := d.browser.tabs.setCurrentIndex index } }
  | blinkTimer (d : Desktop Pixmap) {uuid : String} (hrunning : d.browser.blinking uuid = some true) :
      DesktopStep d (.blinkTimer uuid) (d.onBlinkTimer uuid)
  | pageIcon (d : Desktop Pixmap) (uuid : String) (icon : QIcon Pixmap) :
      DesktopStep d (.pageIcon uuid icon) (d.onPageIcon uuid icon)
  | shortcutIcon (d : Desktop Pixmap) (shortcutId : String) (icon : QIcon Pixmap) :
      DesktopStep d (.shortcutIcon shortcutId icon) (d.onShortcutIcon shortcutId icon)
  | resize (d : Desktop Pixmap) (width height : ℤ) :
      DesktopStep d (.resize width height) (d.resizeEvent width height)
  | launcherClicked (d : Desktop Pixmap)
      (h : d.shortcutUi.launcherEnabled = true ∧ d.shortcutUi.launcherVisible = true) :
      DesktopStep d .launcherClicked d.toggleShortcutPopup
  | buttonClicked (d : Desktop Pixmap) {i : ℕ} {button : ShortcutButton Pixmap}
      (hvisible : d.shortcutUi.popupVisible = true)
      (hbutton : d.shortcutUi.shortcutLayout[i]? = some button) :
      DesktopStep d (.buttonClicked i) (d.activateShortcut button.shortcutId)
  | popupClosed (d : Desktop Pixmap) :
      DesktopStep d .popupClosed { d with shortcutUi := { d.shortcutUi with popupVisible := false } }
  | ApplySettings (d : Desktop Pixmap) (settings : SettingsState) :
      DesktopStep d (.ApplySettings settings) (d.ApplySettings settings)
  | newDocument (d : Desktop Pixmap) {uuid : String} (hlive : uuid ∈ d.browser.list) :
      DesktopStep d (.newDocument uuid) (d.newDocument uuid)
  | loadFinished (d : Desktop Pixmap) {uuid : String} (ok : Bool) (hlive : uuid ∈ d.browser.list) :
      DesktopStep d (.loadFinished uuid ok) (d.onLoadFinished uuid ok)

/-- What a step does to the browser: what an event of the display does, the lookup of a tab's place, new
settings, or nothing. -/
theorem DesktopStep.browser_cases {d d' : Desktop Pixmap} {event : DesktopEvent Pixmap}
    (h : DesktopStep d event d') :
    (∃ display b, DisplayStep d.browser display b
        ∧ (d'.browser = b ∨ ∃ uuid, d'.browser = b.updatePageIndex uuid))
      ∨ (∃ uuid, d'.browser = d.browser.updatePageIndex uuid)
      ∨ (∃ settings, d'.browser = d.browser.ApplySettings settings)
      ∨ d'.browser = d.browser := by
  cases h with
  | signal hfresh hexec =>
    obtain ⟨b, hb, hbrowser⟩ := Desktop.browser_exec hexec
    exact Or.inl ⟨_, b, .signal ⟨hfresh, _, hb⟩, hbrowser⟩
  | click hindex => exact Or.inl ⟨_, _, .click d.browser hindex, Or.inl rfl⟩
  | blinkTimer hrunning =>
    exact Or.inl ⟨_, _, .blinkTimer d.browser hrunning, Or.inl (d.browser_onBlinkTimer _)⟩
  | pageIcon uuid icon =>
    rcases d.browser_onPageIcon uuid icon with hsame | hindex
    · exact Or.inr (Or.inr (Or.inr hsame))
    · exact Or.inr (Or.inl ⟨uuid, hindex⟩)
  | ApplySettings settings =>
    exact Or.inr (Or.inr (Or.inl ⟨settings, d.browser_ApplySettings settings⟩))
  | shortcutIcon shortcutId icon =>
    exact Or.inr (Or.inr (Or.inr (d.browser_onShortcutIcon shortcutId icon)))
  | launcherClicked => exact Or.inr (Or.inr (Or.inr d.browser_toggleShortcutPopup))
  | buttonClicked => exact Or.inr (Or.inr (Or.inr (d.browser_activateShortcut _)))
  | loadFinished ok => exact Or.inr (Or.inr (Or.inr (d.browser_onLoadFinished _ ok)))
  | resize => exact Or.inr (Or.inr (Or.inr rfl))
  | popupClosed => exact Or.inr (Or.inr (Or.inr rfl))
  | newDocument => exact Or.inr (Or.inr (Or.inr rfl))

/-- **What the display keeps, the desktop keeps**: a property of the browser that does not depend on the
settings, and that no event of the display and no lookup of a place ends. -/
theorem DesktopStep.keeps {I : Browser → Prop}
    (hdisplay : ∀ {b display b'}, I b → DisplayStep b display b' → I b')
    (hindex : ∀ {b}, I b → ∀ uuid, I (b.updatePageIndex uuid))
    (hsettings : ∀ {b}, I b → ∀ settings, I (b.ApplySettings settings))
    {d d' : Desktop Pixmap} {event : DesktopEvent Pixmap} (h : DesktopStep d event d') (hd : I d.browser) :
    I d'.browser := by
  rcases h.browser_cases with ⟨_, b, hstep, rfl | ⟨uuid, heq⟩⟩ | ⟨uuid, heq⟩ | ⟨settings, heq⟩ | heq
  · exact hdisplay hd hstep
  · exact heq ▸ hindex (hdisplay hd hstep) uuid
  · exact heq ▸ hindex hd uuid
  · exact heq ▸ hsettings hd settings
  · exact heq ▸ hd

/-- The configuration stays. -/
theorem DesktopStep.runtimeConfig {d d' : Desktop Pixmap} {event : DesktopEvent Pixmap}
    (h : DesktopStep d event d') : d'.browser.runtimeConfig = d.browser.runtimeConfig := by
  refine h.keeps (I := fun b => b.runtimeConfig = d.browser.runtimeConfig) ?_ ?_ ?_ rfl
  · intro b display b' hb hstep
    cases hstep with
    | signal hsignal =>
      obtain ⟨-, resp, hexec⟩ := hsignal
      exact (config_exec hexec).2.trans hb
    | click hindex => exact hb
    | blinkTimer hrunning => exact (b.frame_onBlinkTimer _).runtimeConfig.trans hb
  · exact fun {b} hb uuid => (b.redisplayed_updatePageIndex uuid).frame.runtimeConfig.trans hb
  · exact fun hb settings => hb

theorem Displayed.updatePageIndex {b : Browser} (h : Displayed b) (uuid : String) :
    Displayed (b.updatePageIndex uuid) :=
  ⟨h.laid.frame (b.redisplayed_updatePageIndex uuid).frame, h.tabBar.updatePageIndex uuid⟩

/-- The pages stay laid out, with their tabs. -/
theorem DesktopStep.displayed {d d' : Desktop Pixmap} {event : DesktopEvent Pixmap}
    (h : DesktopStep d event d') (hd : Displayed d.browser) : Displayed d'.browser :=
  h.keeps displayed_step Displayed.updatePageIndex Displayed.applySettings hd

theorem displayed_new (runtimeConfig : RuntimeConfig) (width height : ℤ) :
    Displayed (Desktop.new runtimeConfig width height : Desktop Pixmap).browser :=
  ⟨wellLaid_of_run (.nil _), Browser.tabBar_new runtimeConfig⟩

theorem displayed_of_desktop {runtimeConfig : RuntimeConfig} {width height : ℤ}
    {events : List (DesktopEvent Pixmap)} {d : Desktop Pixmap}
    (h : Run.Steps DesktopStep (Desktop.new runtimeConfig width height) events d) : Displayed d.browser :=
  h.invariant (fun d => Displayed d.browser) (fun hd hstep => hstep.displayed hd)
    (displayed_new runtimeConfig width height)

end OpenMadt.Gui
