import Mathlib.Data.List.Sort
import OpenMadt.RuntimeConfig

/-!
# The browser

`Browser.cpp`: the pages and shortcuts of the terminal, where they are placed, and the tab widget
that shows them.  Every slot of the class is a function on the browser's state that gives the state
afterwards and the response for the caller.

* A page is owned by the map `list`, under its uuid, and nothing outlives its entry there; so a
  `BrowserPage*` is the key of the page, and a view is named by the uuid of its page.
* `none` is undefined behaviour: indexing a vector out of bounds, or following a pointer to a deleted
  page.
* Of the tab widget the model has what the code reads back and what a user sees of a tab: the order
  of the tabs, their texts and tooltips, and the current one.  Icons, geometry, the web views'
  contents and the shortcut popup are left out.
-/

namespace OpenMadt.Gui

/-! ### Responses -/

/-- `CmdResponse::ResultCode`. -/
inductive ResultCode where
  | OK
  | TAB_NOT_FOUND
  | EXEC_ERROR
  deriving DecidableEq, Repr

/-- `CmdResponse`, once it is ready. -/
structure CmdResponse where
  result : ResultCode
  payload : Json := .null

/-! ### The tab widget -/

/-- A tab of a `QTabWidget`. -/
structure QTab where
  view : String
  text : String := ""
  toolTip : String := ""
  deriving DecidableEq, Repr

/-- A `QTabWidget`: its tabs in order, and the current widget. -/
structure QTabWidget where
  tabs : List QTab := []
  current : Option String := none
  deriving DecidableEq, Repr

namespace QTabWidget

/-- `indexOf`, which is -1 for a widget that is not shown. -/
def indexOf (w : QTabWidget) (view : String) : ℤ :=
  match w.tabs.findIdx? (·.view = view) with
  | some i => i
  | none => -1

/-- `addTab`: the tab is appended, and becomes the current one if it is the first. -/
def addTab (w : QTabWidget) (view text : String) : QTabWidget × ℤ :=
  ({ tabs := w.tabs ++ [{ view := view, text := text }]
     current := if w.tabs = [] then some view else w.current }, w.tabs.length)

/-- `removeTab`: if the current tab goes, its right neighbour takes over, or the last tab. -/
def removeTab (w : QTabWidget) (index : ℤ) : QTabWidget :=
  let tabs := w.tabs.eraseIdx index.toNat
  let next := tabs[min index.toNat (tabs.length - 1)]?
  { tabs := tabs
    current := if (w.tabs[index.toNat]?).map QTab.view = w.current then next.map QTab.view
      else w.current }

/-- `tabBar()->moveTab`: the tab at `src` is taken out and put in at `dst`. -/
def moveTab (w : QTabWidget) (src dst : ℤ) : QTabWidget :=
  match w.tabs[src.toNat]? with
  | some tab => { w with tabs := (w.tabs.eraseIdx src.toNat).insertIdx dst.toNat tab }
  | none => w

def setCurrentIndex (w : QTabWidget) (index : ℤ) : QTabWidget :=
  match w.tabs[index.toNat]? with
  | some tab => { w with current := some tab.view }
  | none => w

def setTabText (w : QTabWidget) (index : ℤ) (text : String) : QTabWidget :=
  { w with tabs := w.tabs.modify index.toNat fun tab => { tab with text := text } }

def setTabToolTip (w : QTabWidget) (index : ℤ) (toolTip : String) : QTabWidget :=
  { w with tabs := w.tabs.modify index.toNat fun tab => { tab with toolTip := toolTip } }

end QTabWidget

/-! ### Pages, shortcuts, the browser -/

abbrev POS_ANY : ℤ := -1
abbrev POS_BEGINNING : ℤ := -2
abbrev POS_MIDDLE : ℤ := -3
abbrev POS_END : ℤ := -4
abbrev POS_EXTRA : ℤ := -10

/-- `BrowserPage`; `blinkTimer` says whether the timer is running. -/
structure BrowserPage where
  url : String
  iconUrl : String
  uuid : String
  index : ℤ
  logicalPos : ℤ
  preferredPos : ℤ
  flags : ℤ
  blinkTimer : Bool
  blinkVisible : Bool
  deriving DecidableEq, Repr

/-- `ShortcutEntry`. -/
structure ShortcutEntry where
  shortcutId : String
  iconUrl : String
  url : String
  shortcutPos : ℤ
  preferredPos : ℤ
  flags : ℤ
  deriving DecidableEq, Repr

/-- `Browser`. -/
structure Browser where
  runtimeConfig : RuntimeConfig
  currentSettings : SettingsState
  list : StdMap String BrowserPage
  shortcuts : StdMap String ShortcutEntry
  tabs : QTabWidget
  extraFrameVisible : Bool

/-- The constructor. -/
def Browser.new (runtimeConfig : RuntimeConfig) : Browser where
  runtimeConfig := runtimeConfig
  currentSettings := runtimeConfig.settings
  list := ∅
  shortcuts := ∅
  tabs := {}
  extraFrameVisible := false

/-! ### Orders and zones -/

/-- `pageUrlLess`. -/
def pageUrlLess (left right : BrowserPage) : Prop :=
  if left.url ≠ right.url then left.url < right.url else left.uuid < right.uuid

instance (left right : BrowserPage) : Decidable (pageUrlLess left right) := by
  unfold pageUrlLess
  infer_instance

/-- The order of `pagesInDisplayOrder`. -/
def pagePosLess (left right : BrowserPage) : Prop :=
  if left.logicalPos ≠ right.logicalPos then left.logicalPos < right.logicalPos
  else left.uuid < right.uuid

instance (left right : BrowserPage) : Decidable (pagePosLess left right) := by
  unfold pagePosLess
  infer_instance

/-- `shortcutPosLess`. -/
def shortcutPosLess (left right : ShortcutEntry) : Prop :=
  if left.shortcutPos ≠ right.shortcutPos then left.shortcutPos < right.shortcutPos
  else left.shortcutId < right.shortcutId

instance (left right : ShortcutEntry) : Decidable (shortcutPosLess left right) := by
  unfold shortcutPosLess
  infer_instance

/-- `std::sort` with the comparison `less`. -/
def sort {α : Type} (less : α → α → Prop) [DecidableRel less] (xs : List α) : List α :=
  xs.insertionSort fun a b => ¬ less b a

/-- `zoneStart`. -/
def zoneStart (preferredPos : ℤ) : ℤ :=
  let third := MAX_TABS / 3
  if preferredPos = POS_BEGINNING then 0
  else if preferredPos = POS_MIDDLE then third
  else if preferredPos = POS_END then third * 2
  else -1

/-- `zoneEnd`. -/
def zoneEnd (preferredPos : ℤ) : ℤ :=
  let third := MAX_TABS / 3
  if preferredPos = POS_BEGINNING then third - 1
  else if preferredPos = POS_MIDDLE then third * 2 - 1
  else if preferredPos = POS_END then MAX_TABS - 1
  else -1

/-- The integers from `start` to `stop`, as a `for` loop meets them. -/
def intRange (start stop : ℤ) : List ℤ :=
  (List.range (stop + 1 - start).toNat).map fun i : ℕ => start + i

/-- `isExtraPage`. -/
def isExtraPage (page : BrowserPage) : Bool := page.preferredPos = POS_EXTRA

namespace Browser

/-! ### Queries -/

/-- `hasExtraPage`. -/
def hasExtraPage (b : Browser) : Bool := b.list.toList.any fun entry => isExtraPage entry.2

/-- `normalPageCount`. -/
def normalPageCount (b : Browser) : ℤ :=
  (b.list.toList.filter fun entry => !isExtraPage entry.2).length

/-- `pagesInDisplayOrder`. -/
def pagesInDisplayOrder (b : Browser) : List BrowserPage :=
  sort pagePosLess ((b.list.toList.map Prod.snd).filter fun page => !isExtraPage page)

/-- `freePositionsInRange`.  The vector `occupied` is indexed with `pos`, so the range has to lie in
`[0, MAX_TABS)`. -/
def freePositionsInRange (b : Browser) (start stop : ℤ) : Option (List ℤ) :=
  let occupied := fun pos => b.list.toList.any fun entry =>
    0 ≤ entry.2.logicalPos ∧ entry.2.logicalPos < MAX_TABS ∧ entry.2.logicalPos = pos
  if ∀ pos ∈ intRange start stop, 0 ≤ pos ∧ pos < MAX_TABS then
    some ((intRange start stop).filter fun pos => !occupied pos)
  else none

/-- `maxShortcutCount`. -/
def maxShortcutCount (b : Browser) : ℤ := max 1 b.runtimeConfig.shortcutMaxCount

/-- `shortcutsInDisplayOrder`. -/
def shortcutsInDisplayOrder (b : Browser) : List ShortcutEntry :=
  sort shortcutPosLess (b.shortcuts.toList.map Prod.snd)

/-- `freeShortcutPositions`. -/
def freeShortcutPositions (b : Browser) : List ℤ :=
  let occupied := fun pos => b.shortcuts.toList.any fun entry =>
    0 ≤ entry.2.shortcutPos ∧ entry.2.shortcutPos < b.maxShortcutCount ∧ entry.2.shortcutPos = pos
  (intRange 0 (b.maxShortcutCount - 1)).filter fun pos => !occupied pos

/-! ### Changes to one page -/

/-- Writing to the page behind a pointer. -/
def modifyPage (b : Browser) (page : String) (f : BrowserPage → BrowserPage) : Browser :=
  { b with list := b.list.modify page f }

/-- `updatePageIndex`. -/
def updatePageIndex (b : Browser) (page : String) : Browser :=
  b.modifyPage page fun p =>
    { p with index := if isExtraPage p then -1 else b.tabs.indexOf p.uuid }

/-- `applyPageLabel`. -/
def applyPageLabel (b : Browser) (page : String) : Browser :=
  let b := b.updatePageIndex page
  match b.list[page]? with
  | none => b
  | some p =>
    if p.index < 0 then b
    else
      let text := if b.runtimeConfig.tabBarShowLabels then toString (p.logicalPos + 1) else ""
      let toolTip := if b.runtimeConfig.tabBarShowTooltips then p.url else ""
      { b with tabs := (b.tabs.setTabText p.index text).setTabToolTip p.index toolTip }

/-- `applyPageIcon`, of which only the refreshed index is modelled. -/
def applyPageIcon (b : Browser) (page : String) : Browser := b.updatePageIndex page

/-- `stopBlink`. -/
def stopBlink (b : Browser) (page : String) : Browser :=
  (b.modifyPage page fun p => { p with blinkTimer := false, blinkVisible := true }).applyPageIcon page

/-- `showExtraZoneOverlay`. -/
def showExtraZoneOverlay (b : Browser) : Browser :=
  if b.hasExtraPage then { b with extraFrameVisible := true } else b

/-- `hideExtraZoneOverlay`. -/
def hideExtraZoneOverlay (b : Browser) : Browser := { b with extraFrameVisible := false }

/-- `updateExtraZoneVisibility`. -/
def updateExtraZoneVisibility (b : Browser) : Browser :=
  if !b.hasExtraPage then b.hideExtraZoneOverlay
  else if b.extraFrameVisible then b.showExtraZoneOverlay
  else b

/-- One round of the first loop of `syncTabOrder`. -/
def moveToTarget (w : QTabWidget) (page : BrowserPage × ℕ) : QTabWidget :=
  let currentIndex := w.indexOf page.1.uuid
  let targetIndex : ℤ := page.2
  if currentIndex ≥ 0 ∧ currentIndex ≠ targetIndex then w.moveTab currentIndex targetIndex else w

/-- One round of the second loop of `syncTabOrder`. -/
def refreshPage (b : Browser) (page : BrowserPage) : Browser :=
  let b := (b.updatePageIndex page.uuid).applyPageLabel page.uuid
  if page.blinkVisible then b.applyPageIcon page.uuid else b

/-- `syncTabOrder`. -/
def syncTabOrder (b : Browser) : Browser :=
  let pages := b.pagesInDisplayOrder
  let b := { b with tabs := pages.zipIdx.foldl moveToTarget b.tabs }
  pages.foldl refreshPage b

/-! ### Placing a page -/

/-- `allocateAbsolutePosition`. -/
def allocateAbsolutePosition (b : Browser) (page : String) : Option (Browser × Bool) :=
  match b.list[page]? with
  | none => none
  | some p =>
    if p.preferredPos < 0 ∨ p.preferredPos ≥ MAX_TABS then some (b, false)
    else if b.list.toList.any fun entry =>
        entry.1 ≠ page ∧ entry.2.logicalPos = p.preferredPos then some (b, false)
    else some (b.modifyPage page fun q => { q with logicalPos := p.preferredPos }, true)

/-- The loop that gives each of `pages` its place. -/
def setPositions (b : Browser) (moves : List (String × ℤ)) : Browser :=
  moves.foldl (fun b move => b.modifyPage move.1 fun p => { p with logicalPos := move.2 }) b

/-- The pages, other than `page` itself, that share the zone with it. -/
def zonePages (b : Browser) (page : String) (preferredPos start stop : ℤ) :
    List (String × BrowserPage) :=
  b.list.toList.filter fun entry =>
    entry.1 ≠ page ∧ entry.2.preferredPos = preferredPos ∧ entry.2.logicalPos ≥ start ∧
      entry.2.logicalPos ≤ stop

/-- The positions that the pages of a zone are spread over, in order: those that the pages hold
already, `page` itself included if it is inside the zone, and the free ones. -/
def candidatePositions (others : List (String × BrowserPage)) (p : BrowserPage) (start stop : ℤ)
    (freePositions : List ℤ) : List ℤ :=
  sort (· < ·)
    (others.map (fun entry => entry.2.logicalPos)
      ++ (if p.logicalPos ≥ start ∧ p.logicalPos ≤ stop then [p.logicalPos] else [])
      ++ freePositions)

/-- The positions that are given out to `n` pages, the end zone being filled from its end. -/
def allocatedPositions (preferredPos : ℤ) (candidates : List ℤ) (n : ℕ) : List ℤ :=
  if preferredPos = POS_END then sort (· < ·) (candidates.drop (candidates.length - n))
  else candidates

/-- `allocateZonePosition`.  Both loops index the vector of positions with every page's number, and
the iterator `candidatePositions.end() - pages.size()` must not lie before the beginning; so there
have to be as many positions as pages. -/
def allocateZonePosition (b : Browser) (page : String) (preferredPos : ℤ) :
    Option (Browser × Bool) :=
  let start := zoneStart preferredPos
  let stop := zoneEnd preferredPos
  if start < 0 ∨ stop < start then some (b, false)
  else
    match b.list[page]?, b.freePositionsInRange start stop with
    | some p, some freePositions =>
      let others := b.zonePages page preferredPos start stop
      let candidates := candidatePositions others p start stop freePositions
      if candidates = [] then some (b, false)
      else
        let pages := sort (fun left right => pageUrlLess left.2 right.2) (others ++ [(page, p)])
        if candidates.length < pages.length then none
        else
          let positions := allocatedPositions preferredPos candidates pages.length
          some (b.setPositions ((pages.map Prod.fst).zip positions), true)
    | _, _ => none

/-- `allocateLogicalPosition`. -/
def allocateLogicalPosition (b : Browser) (page : String) : Option (Browser × Bool) :=
  match b.list[page]? with
  | none => none
  | some p =>
    if !isExtraPage p && decide (b.normalPageCount > MAX_TABS) then some (b, false)
    else if p.preferredPos = POS_ANY then
      match b.freePositionsInRange 0 (MAX_TABS - 1) with
      | none => none
      | some [] => some (b, false)
      | some (pos :: _) => some (b.modifyPage page fun q => { q with logicalPos := pos }, true)
    else if p.preferredPos = POS_BEGINNING ∨ p.preferredPos = POS_MIDDLE ∨
        p.preferredPos = POS_END then
      b.allocateZonePosition page p.preferredPos
    else if p.preferredPos = POS_EXTRA then
      some (b.modifyPage page fun q => { q with logicalPos := POS_EXTRA }, true)
    else b.allocateAbsolutePosition page

/-! ### The slots -/

/-- The part of `onNewWebTab` that adds a placed page to the tab widget. -/
def showNewTab (b : Browser) (uuid : String) : Browser :=
  let added := b.tabs.addTab uuid ""
  let b := ({ b with tabs := added.1 }.modifyPage uuid
    fun p => { p with index := added.2 }).syncTabOrder
  let targetIndex := b.tabs.indexOf uuid
  if b.normalPageCount = 1 ∧ targetIndex ≥ 0 then
    { b with tabs := b.tabs.setCurrentIndex targetIndex }.modifyPage uuid
      fun p => { p with index := targetIndex }
  else b

/-- `onNewWebTab`. -/
def onNewWebTab (b : Browser) (url iconUrl : String) (preferredPos flags : ℤ) (uuid : String) :
    Option (Browser × CmdResponse) :=
  let extraPage := decide (preferredPos = POS_EXTRA)
  if !extraPage && decide (b.normalPageCount ≥ MAX_TABS) then some (b, { result := .EXEC_ERROR })
  else if extraPage && b.hasExtraPage then some (b, { result := .EXEC_ERROR })
  else
    let page : BrowserPage :=
      { url := url, iconUrl := iconUrl, uuid := uuid, preferredPos := preferredPos, flags := flags
        index := -1, logicalPos := -1, blinkTimer := false, blinkVisible := true }
    match allocateLogicalPosition { b with list := b.list.insert uuid page } uuid with
    | none => none
    | some (b, false) => some ({ b with list := b.list.erase uuid }, { result := .EXEC_ERROR })
    | some (b, true) =>
      some (if extraPage then b.updateExtraZoneVisibility else b.showNewTab uuid, { result := .OK })

/-- `onActivateTab`. -/
def onActivateTab (b : Browser) (uuid : String) : Browser × CmdResponse :=
  match b.list[uuid]? with
  | none => (b, { result := .TAB_NOT_FOUND })
  | some page =>
    let targetIndex := b.tabs.indexOf uuid
    let b :=
      if isExtraPage page then b.showExtraZoneOverlay
      else if targetIndex ≥ 0 then
        { b with tabs := b.tabs.setCurrentIndex targetIndex }.modifyPage uuid
          fun p => { p with index := targetIndex }
      else b
    (b.stopBlink uuid, { result := .OK })

/-- `onNavigateTo`. -/
def onNavigateTo (b : Browser) (uuid url : String) : Option (Browser × CmdResponse) :=
  match b.list[uuid]? with
  | none => some (b, { result := .TAB_NOT_FOUND })
  | some page =>
    let b := (b.modifyPage uuid fun p => { p with url := url }).applyPageLabel uuid
    if isExtraPage page then some (b.updateExtraZoneVisibility, { result := .OK })
    else if page.preferredPos = POS_BEGINNING ∨ page.preferredPos = POS_MIDDLE ∨
        page.preferredPos = POS_END then
      match b.allocateZonePosition uuid page.preferredPos with
      | none => none
      | some (b, allocated) => some (if allocated then b.syncTabOrder else b, { result := .OK })
    else some (b, { result := .OK })

/-- One round of the second loop of `onGetTabMap`. -/
def tabMapStep (tabMap : List Json) (entry : String × BrowserPage) : List Json :=
  if 0 ≤ entry.2.logicalPos ∧ entry.2.logicalPos < MAX_TABS then
    tabMap.set entry.2.logicalPos.toNat (.str entry.1)
  else tabMap

/-- The array that `onGetTabMap` builds. -/
def tabMap (b : Browser) : List Json :=
  b.list.toList.foldl tabMapStep (List.replicate MAX_TABS.toNat (.int (-1)))

/-- `onGetTabMap`. -/
def onGetTabMap (b : Browser) : CmdResponse := { result := .OK, payload := .arr b.tabMap }

/-- `onKillTab`. -/
def onKillTab (b : Browser) (uuid : String) (forceDestroy : Bool) : Browser × CmdResponse :=
  match b.list[uuid]? with
  | none => (b, { result := .TAB_NOT_FOUND })
  | some page =>
    let b := b.stopBlink uuid
    if isExtraPage page && !forceDestroy then (b.hideExtraZoneOverlay, { result := .OK })
    else if isExtraPage page then
      ({ b with list := b.list.erase uuid }.updateExtraZoneVisibility, { result := .OK })
    else
      let index := b.tabs.indexOf uuid
      let b := { b with
        tabs := if index ≥ 0 then b.tabs.removeTab index else b.tabs
        list := b.list.erase uuid }
      (b.syncTabOrder, { result := .OK })

/-- `onBlinkTab`. -/
def onBlinkTab (b : Browser) (uuid : String) : Browser × CmdResponse :=
  match b.list[uuid]? with
  | none => (b, { result := .TAB_NOT_FOUND })
  | some page =>
    if isExtraPage page then (b.showExtraZoneOverlay, { result := .OK })
    else
      let b := b.updatePageIndex uuid
      if b.tabs.indexOf uuid ≥ 0 then
        if b.tabs.current ≠ some uuid then
          (b.modifyPage uuid fun p => { p with blinkTimer := true, blinkVisible := true },
            { result := .OK })
        else (b, { result := .OK })
      else (b, { result := .TAB_NOT_FOUND })

/-- The callback of the blink timer that `onNewWebTab` makes for a page. -/
def onBlinkTimer (b : Browser) (uuid : String) : Browser :=
  match b.list[uuid]? with
  | none => b
  | some page =>
    if isExtraPage page then b.modifyPage uuid fun p => { p with blinkTimer := false }
    else
      let b := b.updatePageIndex uuid
      if b.tabs.indexOf uuid < 0 then b.modifyPage uuid fun p => { p with blinkTimer := false }
      else b.modifyPage uuid fun p => { p with blinkVisible := !p.blinkVisible }

/-- `allocateShortcutPosition`. -/
def allocateShortcutPosition (b : Browser) (shortcut : ShortcutEntry) : Option ℤ :=
  let freePositions := b.freeShortcutPositions
  match freePositions with
  | [] => none
  | front :: _ =>
    if shortcut.preferredPos ≥ 0 ∧ shortcut.preferredPos < b.maxShortcutCount then
      if shortcut.preferredPos ∈ freePositions then some shortcut.preferredPos else none
    else some front

/-- `onNewShortcut`. -/
def onNewShortcut (b : Browser) (url iconUrl : String) (preferredPos flags : ℤ)
    (shortcutId : String) : Browser × CmdResponse :=
  if !b.runtimeConfig.shortcutsEnabled then (b, { result := .EXEC_ERROR })
  else if (b.shortcuts.size : ℤ) < b.maxShortcutCount then
    let shortcut : ShortcutEntry :=
      { shortcutId := shortcutId, iconUrl := iconUrl, url := url, preferredPos := preferredPos
        shortcutPos := -1, flags := flags }
    let b := { b with shortcuts := b.shortcuts.insert shortcutId shortcut }
    match b.allocateShortcutPosition shortcut with
    | none => ({ b with shortcuts := b.shortcuts.erase shortcutId }, { result := .EXEC_ERROR })
    | some pos =>
      ({ b with shortcuts := b.shortcuts.modify shortcutId fun s => { s with shortcutPos := pos } },
        { result := .OK })
  else (b, { result := .EXEC_ERROR })

/-- `onKillShortcut`. -/
def onKillShortcut (b : Browser) (shortcutId : String) : Browser × CmdResponse :=
  if shortcutId ∈ b.shortcuts then
    ({ b with shortcuts := b.shortcuts.erase shortcutId }, { result := .OK })
  else (b, { result := .TAB_NOT_FOUND })

/-- The entry of `onGetShortcuts` for one shortcut. -/
def shortcutToJson (shortcut : ShortcutEntry) : Json :=
  .obj [("shortcutId", .str shortcut.shortcutId), ("shortcutPos", .int shortcut.shortcutPos),
    ("flags", .int shortcut.flags), ("iconUrl", .str shortcut.iconUrl), ("url", .str shortcut.url)]

/-- `onGetShortcuts`. -/
def onGetShortcuts (b : Browser) : CmdResponse :=
  { result := .OK, payload := .arr (b.shortcutsInDisplayOrder.map shortcutToJson) }

/-- `Browser::ApplySettings`, without the script it runs in every view. -/
def ApplySettings (b : Browser) (settings : SettingsState) : Browser :=
  { b with currentSettings := settings }

/-- The signals of `Browser`, with their arguments. -/
inductive Signal where
  | NewWebTab (url iconUrl : String) (preferredPos flags : ℤ) (uuid : String)
  | ActivateTab (uuid : String)
  | NavigateTo (uuid url : String)
  | GetTabMap
  | KillTab (uuid : String) (forceDestroy : Bool)
  | BlinkTab (uuid : String)
  | NewShortcut (url iconUrl : String) (preferredPos flags : ℤ) (shortcutId : String)
  | KillShortcut (shortcutId : String)
  | GetShortcuts
  deriving DecidableEq

/-- The slot that a signal is connected to. -/
def exec (b : Browser) : Signal → Option (Browser × CmdResponse)
  | .NewWebTab url iconUrl preferredPos flags uuid =>
    b.onNewWebTab url iconUrl preferredPos flags uuid
  | .ActivateTab uuid => some (b.onActivateTab uuid)
  | .NavigateTo uuid url => b.onNavigateTo uuid url
  | .GetTabMap => some (b, b.onGetTabMap)
  | .KillTab uuid forceDestroy => some (b.onKillTab uuid forceDestroy)
  | .BlinkTab uuid => some (b.onBlinkTab uuid)
  | .NewShortcut url iconUrl preferredPos flags shortcutId =>
    some (b.onNewShortcut url iconUrl preferredPos flags shortcutId)
  | .KillShortcut shortcutId => some (b.onKillShortcut shortcutId)
  | .GetShortcuts => some (b, b.onGetShortcuts)

end Browser

end OpenMadt.Gui
