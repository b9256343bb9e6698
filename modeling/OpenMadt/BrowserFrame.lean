import Mathlib.Logic.Function.Basic
import OpenMadt.Browser

/-!
# What the browser's operations leave alone

Of a page, only its preference and its place decide where pages can go.  `slots` is that part of the
browser's state, as a function of the page's id.

* `Frame` — two states with the same slots, shortcuts, settings and configuration.
* `Redisplayed` — what refreshing the display does: the numbers and the texts of the tabs change, and
  nothing else.
* `slots_insert`, `slots_erase`, `slots_setPosition`, `slots_setPositions` — the operations that do
  change slots.
* `Repositioned` — what placing a page does: pages move, and nothing else changes.
* `onNewWebTab_outcome`, `onNavigateTo_outcome` — the two signals that place pages, by their outcomes.
* `rest_exec`, `exec_eq_of_forShortcuts`, `config_exec` — what the signals for tabs, the signals for
  shortcuts, and all signals leave alone.
-/

namespace OpenMadt.Gui

/-- The part of a page that its placement depends on. -/
structure Slot where
  preferredPos : ℤ
  logicalPos : ℤ
  deriving DecidableEq

def BrowserPage.slot (page : BrowserPage) : Slot := ⟨page.preferredPos, page.logicalPos⟩

/-- A page without the number of its tab. -/
def BrowserPage.unindexed (page : BrowserPage) : BrowserPage := { page with index := 0 }

/-- A page without its position. -/
def BrowserPage.unplaced (page : BrowserPage) : BrowserPage := { page with logicalPos := 0 }

namespace Browser

/-- The slots of the live pages. -/
def slots (b : Browser) (id : String) : Option Slot := b.list[id]?.map BrowserPage.slot

/-- Nothing changed but the display. -/
structure Frame (b b' : Browser) : Prop where
  slots : b'.slots = b.slots
  shortcuts : b'.shortcuts = b.shortcuts
  currentSettings : b'.currentSettings = b.currentSettings
  runtimeConfig : b'.runtimeConfig = b.runtimeConfig

theorem Frame.refl (b : Browser) : Frame b b := ⟨rfl, rfl, rfl, rfl⟩

theorem Frame.trans {b b' b'' : Browser} (h : Frame b b') (h' : Frame b' b'') : Frame b b'' :=
  ⟨h'.slots.trans h.slots, h'.shortcuts.trans h.shortcuts,
    h'.currentSettings.trans h.currentSettings, h'.runtimeConfig.trans h.runtimeConfig⟩

/-- The part of the browser that no tab has to do with. -/
def rest (b : Browser) : StdMap String ShortcutEntry × SettingsState × RuntimeConfig :=
  (b.shortcuts, b.currentSettings, b.runtimeConfig)

theorem Frame.rest {b b' : Browser} (h : Frame b b') : b'.rest = b.rest := by
  rw [Browser.rest, h.shortcuts, h.currentSettings, h.runtimeConfig]
  rfl

/-! ### Reading the page map -/

theorem slots_eq_some_iff {b : Browser} {id : String} {s : Slot} :
    b.slots id = some s ↔ ∃ page, b.list[id]? = some page ∧ page.slot = s :=
  Option.map_eq_some_iff

theorem slots_eq_none_iff {b : Browser} {id : String} : b.slots id = none ↔ id ∉ b.list := by
  rw [slots, Option.map_eq_none_iff, ← Std.ExtTreeMap.isSome_getElem?_iff_mem, Bool.not_eq_true,
    Option.isSome_eq_false_iff, Option.isNone_iff_eq_none]

theorem mem_toList_iff {b : Browser} {id : String} {page : BrowserPage} :
    (id, page) ∈ b.list.toList ↔ b.list[id]? = some page :=
  Std.ExtTreeMap.mem_toList_iff_getElem?_eq_some

/-- The entries of the page map have distinct ids. -/
theorem nodup_ids (b : Browser) : (b.list.toList.map Prod.fst).Nodup := by
  rw [List.Nodup, List.pairwise_map]
  exact b.list.distinct_keys_toList.imp fun h heq => h (Std.LawfulEqOrd.compare_eq_iff_eq.mpr heq)

/-! ### Changing the page map -/

theorem list_modifyPage (b : Browser) (page id : String) (f : BrowserPage → BrowserPage) :
    (b.modifyPage page f).list[id]? = if page = id then b.list[id]?.map f else b.list[id]? := by
  simp only [modifyPage, Std.ExtTreeMap.getElem?_modify, Std.LawfulEqOrd.compare_eq_iff_eq]
  split
  · next h => rw [h]
  · rfl

/-- Writing to a page without moving it. -/
theorem frame_modifyPage (b : Browser) (page : String) {f : BrowserPage → BrowserPage}
    (hf : ∀ p, (f p).slot = p.slot) : Frame b (b.modifyPage page f) := by
  refine ⟨funext fun id => ?_, rfl, rfl, rfl⟩
  rw [slots, list_modifyPage]
  split
  · rw [Option.map_map, slots]
    exact congrArg (Option.map · b.list[id]?) (funext hf)
  · rfl

theorem frame_tabs (b : Browser) (w : QTabWidget) : Frame b { b with tabs := w } :=
  ⟨rfl, rfl, rfl, rfl⟩

theorem frame_extraFrame (b : Browser) (visible : Bool) :
    Frame b { b with extraFrameVisible := visible } := ⟨rfl, rfl, rfl, rfl⟩

theorem slots_insert (b : Browser) (id : String) (page : BrowserPage) :
    ({ b with list := b.list.insert id page } : Browser).slots
      = Function.update b.slots id (some page.slot) := by
  funext a
  simp only [slots, StdMap.getElem?_insert, Function.update_apply]
  by_cases h : id = a
  · simp [h]
  · simp [h, Ne.symm h]

theorem slots_erase (b : Browser) (id : String) :
    ({ b with list := b.list.erase id } : Browser).slots = Function.update b.slots id none := by
  funext a
  simp only [slots, StdMap.getElem?_erase, Function.update_apply]
  by_cases h : id = a
  · simp [h]
  · simp [h, Ne.symm h]

/-- Moving one page. -/
theorem slots_setPosition (b : Browser) (id : String) (pos : ℤ) :
    (b.modifyPage id fun p => { p with logicalPos := pos }).slots
      = fun a => if id = a then (b.slots a).map fun s => { s with logicalPos := pos }
          else b.slots a := by
  funext a
  rw [slots, list_modifyPage]
  split
  · rw [slots, Option.map_map, Option.map_map]
    rfl
  · rfl

/-- Where a page with slot `s` is after the moves. -/
def movedTo (moves : List (String × ℤ)) (id : String) (s : Slot) : Slot :=
  match moves.lookup id with
  | some pos => { s with logicalPos := pos }
  | none => s

/-- Moving several pages, each once. -/
theorem slots_setPositions (b : Browser) {moves : List (String × ℤ)}
    (h : (moves.map Prod.fst).Nodup) :
    (b.setPositions moves).slots = fun id => (b.slots id).map (movedTo moves id) := by
  induction moves generalizing b with
  | nil =>
    funext id
    exact Option.map_id'.symm
  | cons move moves ih =>
    obtain ⟨k, pos⟩ := move
    obtain ⟨hk, hmoves⟩ := List.nodup_cons.mp h
    rw [setPositions, List.foldl_cons, ← setPositions, ih _ hmoves, slots_setPosition]
    funext id
    by_cases hid : k = id
    · have hnone : moves.lookup id = none := by
        rw [List.lookup_eq_none_iff]
        intro p hp
        rw [bne_iff_ne]
        intro heq
        exact hk (List.mem_map.mpr ⟨p, hp, heq.symm.trans hid.symm⟩)
      simp only [if_pos hid, Option.map_map]
      congr 1
      funext s
      simp [movedTo, hnone, hid]
    · simp only [if_neg hid]
      congr 1
      funext s
      simp [movedTo, List.lookup_cons, beq_eq_false_iff_ne.mpr (Ne.symm hid)]

/-! ### Refreshing the display -/

/-- Of the pages only the numbers of their tabs may have changed, the same tab is shown, and nothing
that is not on display has changed. -/
structure Redisplayed (b b' : Browser) : Prop where
  pages : ∀ id : String,
    b'.list[id]?.map BrowserPage.unindexed = b.list[id]?.map BrowserPage.unindexed
  current : b'.tabs.current = b.tabs.current
  rest : b'.rest = b.rest

theorem Redisplayed.refl (b : Browser) : Redisplayed b b := ⟨fun _ => rfl, rfl, rfl⟩

theorem Redisplayed.trans {b b' b'' : Browser} (h : Redisplayed b b') (h' : Redisplayed b' b'') :
    Redisplayed b b'' :=
  ⟨fun id => (h'.pages id).trans (h.pages id), h'.current.trans h.current, h'.rest.trans h.rest⟩

/-- What does not depend on the number of its tab is the same for every page. -/
theorem Redisplayed.map {b b' : Browser} (h : Redisplayed b b') {α : Type} {f : BrowserPage → α}
    (hf : ∀ p, f p.unindexed = f p) (id : String) : b'.list[id]?.map f = b.list[id]?.map f := by
  have hpage := congrArg (Option.map f) (h.pages id)
  rw [Option.map_map, Option.map_map, show f ∘ BrowserPage.unindexed = f from funext hf] at hpage
  exact hpage

theorem Redisplayed.frame {b b' : Browser} (h : Redisplayed b b') : Frame b b' := by
  have hrest := h.rest
  simp only [Browser.rest, Prod.mk.injEq] at hrest
  exact ⟨funext fun id => h.map (fun _ => rfl) id, hrest.1, hrest.2.1, hrest.2.2⟩

theorem redisplayed_extraFrame (b : Browser) (visible : Bool) :
    Redisplayed b { b with extraFrameVisible := visible } := ⟨fun _ => rfl, rfl, rfl⟩

theorem redisplayed_updatePageIndex (b : Browser) (page : String) :
    Redisplayed b (b.updatePageIndex page) := by
  refine ⟨fun id => ?_, rfl, rfl⟩
  rw [updatePageIndex, list_modifyPage]
  split
  · rw [Option.map_map]
    rfl
  · rfl

theorem redisplayed_applyPageLabel (b : Browser) (page : String) :
    Redisplayed b (b.applyPageLabel page) := by
  refine (b.redisplayed_updatePageIndex page).trans ?_
  unfold applyPageLabel
  dsimp only
  split
  · exact Redisplayed.refl _
  split
  · exact Redisplayed.refl _
  · exact ⟨fun _ => rfl, rfl, rfl⟩

theorem redisplayed_showExtraZoneOverlay (b : Browser) : Redisplayed b b.showExtraZoneOverlay := by
  unfold showExtraZoneOverlay
  split
  · exact b.redisplayed_extraFrame true
  · exact Redisplayed.refl b

theorem redisplayed_updateExtraZoneVisibility (b : Browser) :
    Redisplayed b b.updateExtraZoneVisibility := by
  unfold updateExtraZoneVisibility
  split
  · exact b.redisplayed_extraFrame false
  split
  · exact b.redisplayed_showExtraZoneOverlay
  · exact Redisplayed.refl b

theorem redisplayed_refreshPage (b : Browser) (page : BrowserPage) :
    Redisplayed b (b.refreshPage page) := by
  have hlabelled :=
    (b.redisplayed_updatePageIndex page.uuid).trans (redisplayed_applyPageLabel _ page.uuid)
  unfold refreshPage
  dsimp only
  split
  · exact hlabelled.trans (redisplayed_updatePageIndex _ _)
  · exact hlabelled

theorem redisplayed_refreshPages (pages : List BrowserPage) (b : Browser) :
    Redisplayed b (pages.foldl refreshPage b) := by
  induction pages generalizing b with
  | nil => exact Redisplayed.refl b
  | cons page pages ih => exact (b.redisplayed_refreshPage page).trans (ih _)

theorem current_moveToTarget (w : QTabWidget) (page : BrowserPage × ℕ) :
    (moveToTarget w page).current = w.current := by
  unfold moveToTarget
  dsimp only
  split
  · unfold QTabWidget.moveTab
    split <;> rfl
  · rfl

theorem current_moveToTargets (pages : List (BrowserPage × ℕ)) (w : QTabWidget) :
    (pages.foldl moveToTarget w).current = w.current := by
  induction pages generalizing w with
  | nil => rfl
  | cons page pages ih => exact (ih _).trans (current_moveToTarget w page)

theorem redisplayed_syncTabOrder (b : Browser) : Redisplayed b b.syncTabOrder := by
  have hmoved : Redisplayed b
      { b with tabs := b.pagesInDisplayOrder.zipIdx.foldl moveToTarget b.tabs } :=
    ⟨fun _ => rfl, current_moveToTargets _ b.tabs, rfl⟩
  exact hmoved.trans (redisplayed_refreshPages _ _)

/-- The blinking of a page stops. -/
theorem frame_stopBlink (b : Browser) (page : String) : Frame b (b.stopBlink page) := by
  refine Frame.trans ?_ (redisplayed_updatePageIndex _ page).frame
  exact b.frame_modifyPage page fun _ => rfl

theorem frame_showNewTab (b : Browser) (uuid : String) : Frame b (b.showNewTab uuid) := by
  have hsync : Frame b ({ b with tabs := (b.tabs.addTab uuid "").1 }.modifyPage uuid
      fun p => { p with index := (b.tabs.addTab uuid "").2 }).syncTabOrder := by
    refine (b.frame_tabs (b.tabs.addTab uuid "").1).trans (Frame.trans ?_ (redisplayed_syncTabOrder _).frame)
    exact frame_modifyPage _ uuid fun _ => rfl
  unfold showNewTab
  dsimp only
  split
  · exact hsync.trans ((frame_tabs _ _).trans (frame_modifyPage _ uuid fun _ => rfl))
  · exact hsync

/-- Activating a tab moves nothing. -/
theorem frame_onActivateTab (b : Browser) (uuid : String) : Frame b (b.onActivateTab uuid).1 := by
  unfold onActivateTab
  split
  · exact Frame.refl b
  · refine Frame.trans ?_ (frame_stopBlink _ uuid)
    split
    · exact b.redisplayed_showExtraZoneOverlay.frame
    · split
      · exact (b.frame_tabs _).trans (frame_modifyPage _ uuid fun _ => rfl)
      · exact Frame.refl b

/-- Nor does blinking one. -/
theorem frame_onBlinkTab (b : Browser) (uuid : String) : Frame b (b.onBlinkTab uuid).1 := by
  unfold onBlinkTab
  split
  · exact Frame.refl b
  · split
    · exact b.redisplayed_showExtraZoneOverlay.frame
    · refine (b.redisplayed_updatePageIndex uuid).frame.trans ?_
      dsimp only
      split
      · split
        · exact frame_modifyPage _ uuid fun _ => rfl
        · exact Frame.refl _
      · exact Frame.refl _

/-! ### Placing writes to positions only -/

/-- Pages may have moved, and nothing else has happened. -/
structure Repositioned (b b' : Browser) : Prop where
  only : b' = { b with list := b'.list }
  pages : ∀ id : String,
    b'.list[id]?.map BrowserPage.unplaced = b.list[id]?.map BrowserPage.unplaced

theorem Repositioned.refl (b : Browser) : Repositioned b b := ⟨rfl, fun _ => rfl⟩

theorem Repositioned.trans {b b' b'' : Browser} (h : Repositioned b b') (h' : Repositioned b' b'') :
    Repositioned b b'' := by
  refine ⟨?_, fun id => (h'.pages id).trans (h.pages id)⟩
  rw [h'.only, h.only]

/-- A page that has moved was there before. -/
theorem Repositioned.page {b b' : Browser} (h : Repositioned b b') {id : String} {p : BrowserPage}
    (hp : b'.list[id]? = some p) :
    ∃ q, b.list[id]? = some q ∧ p = { q with logicalPos := p.logicalPos } := by
  have hpage := h.pages id
  rw [hp, Option.map_some, eq_comm, Option.map_eq_some_iff] at hpage
  obtain ⟨q, hq, heq⟩ := hpage
  refine ⟨q, hq, ?_⟩
  rcases p with ⟨⟩
  rcases q with ⟨⟩
  simp only [BrowserPage.unplaced, BrowserPage.mk.injEq] at heq ⊢
  simp [heq]

theorem Repositioned.setTabs {b b' : Browser} (h : Repositioned b b') (w : QTabWidget) :
    Repositioned { b with tabs := w } { b' with tabs := w } := by
  refine ⟨?_, h.pages⟩
  rw [h.only]

theorem repositioned_setPosition (b : Browser) (page : String) (pos : ℤ) :
    Repositioned b (b.modifyPage page fun p => { p with logicalPos := pos }) := by
  refine ⟨rfl, fun id => ?_⟩
  rw [list_modifyPage]
  split
  · rw [Option.map_map]
    rfl
  · rfl

theorem repositioned_setPositions (b : Browser) (moves : List (String × ℤ)) :
    Repositioned b (b.setPositions moves) := by
  induction moves generalizing b with
  | nil => exact Repositioned.refl b
  | cons move moves ih => exact (b.repositioned_setPosition move.1 move.2).trans (ih _)

theorem repositioned_allocateZonePosition {b b' : Browser} {page : String} {preferredPos : ℤ}
    {allocated : Bool} (h : b.allocateZonePosition page preferredPos = some (b', allocated)) :
    Repositioned b b' := by
  unfold allocateZonePosition at h
  dsimp only at h
  split at h
  · cases h; exact Repositioned.refl b
  split at h
  · split at h
    · cases h; exact Repositioned.refl b
    split at h
    · cases h
    · cases h; exact b.repositioned_setPositions _
  · cases h

theorem repositioned_allocateAbsolutePosition {b b' : Browser} {page : String} {allocated : Bool}
    (h : b.allocateAbsolutePosition page = some (b', allocated)) : Repositioned b b' := by
  unfold allocateAbsolutePosition at h
  split at h
  · cases h
  split at h
  · cases h; exact Repositioned.refl b
  split at h
  · cases h; exact Repositioned.refl b
  · cases h; exact b.repositioned_setPosition page _

theorem repositioned_allocateLogicalPosition {b b' : Browser} {page : String} {allocated : Bool}
    (h : b.allocateLogicalPosition page = some (b', allocated)) : Repositioned b b' := by
  unfold allocateLogicalPosition at h
  split at h
  · cases h
  split at h
  · cases h; exact Repositioned.refl b
  split at h
  · split at h
    · cases h
    · cases h; exact Repositioned.refl b
    · cases h; exact b.repositioned_setPosition page _
  split at h
  · exact repositioned_allocateZonePosition h
  split at h
  · cases h; exact b.repositioned_setPosition page _
  · exact repositioned_allocateAbsolutePosition h

/-! ### Placing fails without a trace -/

theorem allocateZonePosition_failed {b b' : Browser} {page : String} {preferredPos : ℤ}
    (h : b.allocateZonePosition page preferredPos = some (b', false)) : b' = b := by
  unfold allocateZonePosition at h
  dsimp only at h
  split at h
  · cases h; rfl
  split at h
  · split at h
    · cases h; rfl
    split at h
    · cases h
    · cases h
  · cases h

theorem allocateAbsolutePosition_failed {b b' : Browser} {page : String}
    (h : b.allocateAbsolutePosition page = some (b', false)) : b' = b := by
  unfold allocateAbsolutePosition at h
  split at h
  · cases h
  split at h
  · cases h; rfl
  split at h
  · cases h; rfl
  · cases h

theorem allocateLogicalPosition_failed {b b' : Browser} {page : String}
    (h : b.allocateLogicalPosition page = some (b', false)) : b' = b := by
  unfold allocateLogicalPosition at h
  split at h
  · cases h
  split at h
  · cases h; rfl
  split at h
  · split at h
    · cases h
    · cases h; rfl
    · cases h
  split at h
  · exact allocateZonePosition_failed h
  split at h
  · cases h
  · exact allocateAbsolutePosition_failed h

/-! ### Outcomes -/

/-- The page that `onNewWebTab` takes in. -/
def newPage (url iconUrl : String) (preferredPos flags : ℤ) (uuid : String) : BrowserPage :=
  { url := url, iconUrl := iconUrl, uuid := uuid, preferredPos := preferredPos, flags := flags
    index := -1, logicalPos := -1, blinkTimer := false, blinkVisible := true }

/-- `onNewWebTab` refuses the page, takes it in and drops it again, or takes it in and shows it. -/
theorem onNewWebTab_outcome {b b' : Browser} {url iconUrl uuid : String} {preferredPos flags : ℤ}
    {resp : CmdResponse} (h : b.onNewWebTab url iconUrl preferredPos flags uuid = some (b', resp)) :
    (resp.result = .EXEC_ERROR ∧ b' = b)
      ∨ (resp.result = .EXEC_ERROR ∧ b' = { b with
          list := (b.list.insert uuid (newPage url iconUrl preferredPos flags uuid)).erase uuid })
      ∨ (resp.result = .OK ∧ (preferredPos = POS_EXTRA → b.hasExtraPage = false) ∧ ∃ b₁,
          allocateLogicalPosition { b with
            list := b.list.insert uuid (newPage url iconUrl preferredPos flags uuid) } uuid = some (b₁, true)
          ∧ b' = if preferredPos = POS_EXTRA then b₁.updateExtraZoneVisibility
              else b₁.showNewTab uuid) := by
  unfold onNewWebTab at h
  dsimp only at h
  split at h
  · cases h
    exact Or.inl ⟨rfl, rfl⟩
  split at h
  · cases h
    exact Or.inl ⟨rfl, rfl⟩
  next hextra =>
  split at h
  · cases h
  · next b₁ hplaced =>
    cases h
    rw [allocateLogicalPosition_failed hplaced]
    exact Or.inr (Or.inl ⟨rfl, rfl⟩)
  · next b₁ hplaced =>
    cases h
    refine Or.inr (Or.inr ⟨rfl, fun hpos => ?_, b₁, hplaced, ?_⟩)
    · simpa [hpos] using hextra
    · simp only [decide_eq_true_eq]

/-- The page with its new address, under its label. -/
def renamed (b : Browser) (uuid url : String) : Browser :=
  (b.modifyPage uuid fun p => { p with url := url }).applyPageLabel uuid

/-- `onNavigateTo` does not find the page, or gives it its address; a page of a zone is placed anew. -/
theorem onNavigateTo_outcome {b b' : Browser} {uuid url : String} {resp : CmdResponse}
    (h : b.onNavigateTo uuid url = some (b', resp)) :
    (resp.result = .TAB_NOT_FOUND ∧ b' = b)
      ∨ (resp.result = .OK ∧ ∃ page, b.list[uuid]? = some page
        ∧ ((isExtraPage page = true ∧ b' = (b.renamed uuid url).updateExtraZoneVisibility)
          ∨ (isExtraPage page = false ∧ (page.preferredPos = POS_BEGINNING ∨
                page.preferredPos = POS_MIDDLE ∨ page.preferredPos = POS_END)
              ∧ ∃ b₂ allocated,
                (b.renamed uuid url).allocateZonePosition uuid page.preferredPos = some (b₂, allocated)
                ∧ b' = if allocated = true then b₂.syncTabOrder else b₂)
          ∨ (isExtraPage page = false ∧ b' = b.renamed uuid url))) := by
  unfold onNavigateTo at h
  split at h
  · cases h
    exact Or.inl ⟨rfl, rfl⟩
  next page hpage =>
  dsimp only at h
  split at h
  next hextra =>
    cases h
    exact Or.inr ⟨rfl, page, hpage, Or.inl ⟨hextra, rfl⟩⟩
  next hextra =>
  have hextra := Bool.not_eq_true _ ▸ hextra
  split at h
  next hzone =>
    split at h
    · cases h
    next b₂ allocated hplaced =>
      cases h
      exact Or.inr ⟨rfl, page, hpage, Or.inr (Or.inl ⟨hextra, hzone, b₂, allocated, hplaced, rfl⟩)⟩
  next =>
    cases h
    exact Or.inr ⟨rfl, page, hpage, Or.inr (Or.inr ⟨hextra, rfl⟩)⟩

theorem frame_renamed (b : Browser) (uuid url : String) : Frame b (b.renamed uuid url) := by
  refine Frame.trans ?_ (redisplayed_applyPageLabel _ uuid).frame
  exact b.frame_modifyPage uuid fun _ => rfl

/-! ### What tabs have nothing to do with -/

theorem Repositioned.rest {b b' : Browser} (h : Repositioned b b') : b'.rest = b.rest := by
  rw [h.only]
  rfl

theorem rest_onNewWebTab {b b' : Browser} {url iconUrl uuid : String} {preferredPos flags : ℤ}
    {resp : CmdResponse} (h : b.onNewWebTab url iconUrl preferredPos flags uuid = some (b', resp)) :
    b'.rest = b.rest := by
  rcases onNewWebTab_outcome h with ⟨-, rfl⟩ | ⟨-, rfl⟩ | ⟨-, -, b₁, hplaced, rfl⟩
  · rfl
  · rfl
  · have hplaced := (repositioned_allocateLogicalPosition hplaced).rest
    split
    · exact (redisplayed_updateExtraZoneVisibility b₁).frame.rest.trans hplaced
    · exact (frame_showNewTab b₁ uuid).rest.trans hplaced

theorem rest_onNavigateTo {b b' : Browser} {uuid url : String} {resp : CmdResponse}
    (h : b.onNavigateTo uuid url = some (b', resp)) : b'.rest = b.rest := by
  have hrenamed := (b.frame_renamed uuid url).rest
  rcases onNavigateTo_outcome h with ⟨-, rfl⟩ | ⟨-, page, -, hpage⟩
  · rfl
  rcases hpage with ⟨-, rfl⟩ | ⟨-, -, b₂, allocated, hplaced, rfl⟩ | ⟨-, rfl⟩
  · exact (redisplayed_updateExtraZoneVisibility _).frame.rest.trans hrenamed
  · have hplaced := (repositioned_allocateZonePosition hplaced).rest.trans hrenamed
    split
    · exact (redisplayed_syncTabOrder b₂).frame.rest.trans hplaced
    · exact hplaced
  · exact hrenamed

theorem rest_onKillTab (b : Browser) (uuid : String) (forceDestroy : Bool) :
    (b.onKillTab uuid forceDestroy).1.rest = b.rest := by
  have hstopped := (b.frame_stopBlink uuid).rest
  unfold onKillTab
  split
  · rfl
  dsimp only
  split
  · exact hstopped
  split
  · exact (redisplayed_updateExtraZoneVisibility _).frame.rest.trans hstopped
  · exact (redisplayed_syncTabOrder _).frame.rest.trans hstopped

/-! ### What shortcuts have nothing to do with -/

theorem onNewShortcut_eq (b : Browser) (url iconUrl : String) (preferredPos flags : ℤ)
    (shortcutId : String) :
    (b.onNewShortcut url iconUrl preferredPos flags shortcutId).1 = { b with
      shortcuts := (b.onNewShortcut url iconUrl preferredPos flags shortcutId).1.shortcuts } := by
  unfold onNewShortcut
  split
  · rfl
  split
  · dsimp only
    split <;> rfl
  · rfl

theorem onKillShortcut_eq (b : Browser) (shortcutId : String) :
    (b.onKillShortcut shortcutId).1
      = { b with shortcuts := (b.onKillShortcut shortcutId).1.shortcuts } := by
  unfold onKillShortcut
  split <;> rfl

end Browser

/-- The id of a new tab or shortcut is fresh. -/
def Fresh (b : Browser) : Browser.Signal → Prop
  | .NewWebTab _ _ _ _ uuid => uuid ∉ b.list
  | .NewShortcut _ _ _ _ shortcutId => shortcutId ∉ b.shortcuts
  | _ => True

/-- The signals that have to do with shortcuts. -/
def Browser.Signal.ForShortcuts : Browser.Signal → Prop
  | .NewShortcut _ _ _ _ _ | .KillShortcut _ => True
  | _ => False

/-- The other signals leave everything but the tabs alone. -/
theorem rest_exec {b b' : Browser} {signal : Browser.Signal} {resp : CmdResponse}
    (h : b.exec signal = some (b', resp)) (hsignal : ¬ signal.ForShortcuts) : b'.rest = b.rest := by
  cases signal with
  | NewWebTab url iconUrl preferredPos flags uuid => exact Browser.rest_onNewWebTab h
  | NavigateTo uuid url => exact Browser.rest_onNavigateTo h
  | ActivateTab uuid =>
    obtain ⟨rfl, -⟩ := Prod.mk.inj (Option.some.inj h)
    exact (b.frame_onActivateTab uuid).rest
  | BlinkTab uuid =>
    obtain ⟨rfl, -⟩ := Prod.mk.inj (Option.some.inj h)
    exact (b.frame_onBlinkTab uuid).rest
  | KillTab uuid forceDestroy =>
    obtain ⟨rfl, -⟩ := Prod.mk.inj (Option.some.inj h)
    exact b.rest_onKillTab uuid forceDestroy
  | NewShortcut url iconUrl preferredPos flags shortcutId => exact absurd trivial hsignal
  | KillShortcut shortcutId => exact absurd trivial hsignal
  | GetTabMap =>
    obtain ⟨rfl, -⟩ := Prod.mk.inj (Option.some.inj h)
    rfl
  | GetShortcuts =>
    obtain ⟨rfl, -⟩ := Prod.mk.inj (Option.some.inj h)
    rfl

/-- The signals for shortcuts leave everything but the shortcuts alone. -/
theorem exec_eq_of_forShortcuts {b b' : Browser} {signal : Browser.Signal} {resp : CmdResponse}
    (h : b.exec signal = some (b', resp)) (hsignal : signal.ForShortcuts) :
    b' = { b with shortcuts := b'.shortcuts } := by
  cases signal with
  | NewShortcut url iconUrl preferredPos flags shortcutId =>
    obtain ⟨rfl, -⟩ := Prod.mk.inj (Option.some.inj h)
    exact b.onNewShortcut_eq url iconUrl preferredPos flags shortcutId
  | KillShortcut shortcutId =>
    obtain ⟨rfl, -⟩ := Prod.mk.inj (Option.some.inj h)
    exact b.onKillShortcut_eq shortcutId
  | _ => exact hsignal.elim

/-- **No signal changes the settings or the configuration.** -/
theorem config_exec {b b' : Browser} {signal : Browser.Signal} {resp : CmdResponse}
    (h : b.exec signal = some (b', resp)) :
    b'.currentSettings = b.currentSettings ∧ b'.runtimeConfig = b.runtimeConfig := by
  by_cases hsignal : signal.ForShortcuts
  · rw [exec_eq_of_forShortcuts h hsignal]
    exact ⟨rfl, rfl⟩
  · exact Prod.mk.inj (congrArg Prod.snd (rest_exec h hsignal))

end OpenMadt.Gui
