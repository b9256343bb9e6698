import OpenMadt.Desktop

/-!
# Icons and colours of the tabs

A tab shows the icon of its page in the normal colour, or no icon and red text in the dark half of its
blinking.  The blink timer, `stopBlink`, `syncTabOrder` and the icon loader all write to the tabs, an icon
may arrive in the dark half, and `onBlinkTab` begins a new light half without a change to the tab.

* `Faced` — what a tab shows, given the timer of its page and the half of its blinking.
* `faces_syncTabOrder` — every tab in its light half is drawn again, and no other one.
* `tabFaces_step`, `tabFaces_of_run` — every event keeps the tabs so, hence every run does.
-/

namespace OpenMadt.Gui

variable {Pixmap : Type}

/-! ### The blinking of a page -/

namespace Browser

/-- What the blinking of a page depends on: whether it is the extra page, its timer, its half. -/
def blinkState (b : Browser) (id : String) : Option (Bool × Bool × Bool) :=
  b.list[id]?.map fun p => (isExtraPage p, p.blinkTimer, p.blinkVisible)

theorem blinkState_eq_some_iff {b : Browser} {id : String} {extra timer visible : Bool} :
    b.blinkState id = some (extra, timer, visible) ↔ ∃ p, b.list[id]? = some p
      ∧ isExtraPage p = extra ∧ p.blinkTimer = timer ∧ p.blinkVisible = visible := by
  simp only [blinkState, Option.map_eq_some_iff, Prod.mk.injEq]

theorem Redisplayed.blinkState {b b' : Browser} (h : Redisplayed b b') : b'.blinkState = b.blinkState :=
  funext fun id => h.map (fun _ => rfl) id

theorem Repositioned.blinkState {b b' : Browser} (h : Repositioned b b') :
    b'.blinkState = b.blinkState := by
  funext id
  have hpage := congrArg (Option.map fun p : BrowserPage =>
    (isExtraPage p, p.blinkTimer, p.blinkVisible)) (h.pages id)
  rw [Option.map_map, Option.map_map] at hpage
  exact hpage

theorem blinkState_modifyPage (b : Browser) (page id : String) (f : BrowserPage → BrowserPage) :
    (b.modifyPage page f).blinkState id
      = if page = id then
          b.list[id]?.map fun p => (isExtraPage (f p), (f p).blinkTimer, (f p).blinkVisible)
        else b.blinkState id := by
  rw [blinkState, list_modifyPage]
  split
  · rw [Option.map_map]
    rfl
  · rfl

/-- A page's number, address and position do not matter. -/
theorem blinkState_modifyPage_same (b : Browser) (page : String) {f : BrowserPage → BrowserPage}
    (hf : ∀ p, (isExtraPage (f p), (f p).blinkTimer, (f p).blinkVisible)
      = (isExtraPage p, p.blinkTimer, p.blinkVisible)) :
    (b.modifyPage page f).blinkState = b.blinkState := by
  funext id
  rw [blinkState_modifyPage]
  split
  · rw [blinkState]
    exact congrArg (Option.map · b.list[id]?) (funext hf)
  · rfl

theorem blinkState_renamed (b : Browser) (uuid url : String) :
    (b.renamed uuid url).blinkState = b.blinkState :=
  (redisplayed_applyPageLabel _ uuid).blinkState.trans
    (b.blinkState_modifyPage_same uuid fun _ => rfl)

/-- A normal page has a tab. -/
theorem Populated.mem_views_of_blinkState {b : Browser} (h : b.Populated) {id : String}
    {timer visible : Bool} (hid : b.blinkState id = some (false, timer, visible)) : id ∈ b.tabs.views := by
  obtain ⟨p, hp, hnormal, -, -⟩ := blinkState_eq_some_iff.mp hid
  exact (h.mem_views_iff hp).mpr hnormal

/-- The first loop of `syncTabOrder` keeps the tabs together. -/
theorem Populated.moveToTargets {b : Browser} (h : b.Populated) :
    ({ b with tabs := b.pagesInDisplayOrder.zipIdx.foldl moveToTarget b.tabs } : Browser).Populated := by
  refine ⟨h.named, ?_, fun {id} => ?_⟩
  · exact h.views_moveToTargets ▸ nodup_pagesInDisplayOrder h.named
  · rw [h.views_moveToTargets, ← h.mem_views_iff_mem_pages]
    exact h.mem_views

theorem Populated.refreshPage {b : Browser} (h : b.Populated) (page : BrowserPage) :
    (b.refreshPage page).Populated :=
  have hnone : b.Refreshed ∅ := ⟨h, fun _ _ _ hid => hid.elim, fun _ _ hid => hid.elim⟩
  (hnone.refreshPage page).populated

end Browser

namespace Desktop

open Browser

/-! ### Drawing a tab -/

theorem faces_setFace (d : Desktop Pixmap) {view : String} (h : view ∈ d.browser.tabs.views)
    (face : TabFace Pixmap) :
    (d.setFace (d.browser.tabs.indexOf view) face).faces = Function.update d.faces view face := by
  obtain ⟨tab, htab, hview⟩ := QTabWidget.getElem?_indexOf h
  rw [setFace, htab, ← hview]

/-- `applyPageIcon` draws the tab of its page, if the page has one. -/
theorem faces_applyPageIcon {d : Desktop Pixmap} (h : d.browser.Populated) (page : String) :
    (d.applyPageIcon page).faces = if page ∈ d.browser.tabs.views
      then Function.update d.faces page (d.pageFace page) else d.faces := by
  have hplace := @index_updatePageIndex d.browser h.named page
  have hpages := (d.browser.redisplayed_updatePageIndex page).blinkState
  unfold applyPageIcon
  dsimp only
  split
  next hnone =>
    rw [if_neg]
    intro hmem
    obtain ⟨pref, hpage, -⟩ := h.mem_views.mp hmem
    obtain ⟨p, hp, -⟩ := Option.map_eq_some_iff.mp hpage
    rw [updatePageIndex, list_modifyPage, if_pos rfl, hp] at hnone
    cases hnone
  next p hp =>
  have hplace := hplace hp
  have hviews : (d.browser.updatePageIndex page).tabs = d.browser.tabs := rfl
  rw [hviews] at hplace
  split
  next hneg =>
    -- the extra page, or a page without a tab
    rw [if_neg]
    intro hmem
    have hindex := QTabWidget.indexOf_nonneg_iff.mpr hmem
    split at hplace
    next hextra =>
      have hstate : (d.browser.updatePageIndex page).blinkState page
          = some (true, p.blinkTimer, p.blinkVisible) :=
        blinkState_eq_some_iff.mpr ⟨p, hp, hextra, rfl, rfl⟩
      rw [hpages] at hstate
      obtain ⟨q, hq, hqextra, -, -⟩ := blinkState_eq_some_iff.mp hstate
      rw [(h.mem_views_iff hq).mp hmem] at hqextra
      cases hqextra
    next => omega
  next hpos =>
    have hindex : p.index = d.browser.tabs.indexOf page := by
      split at hplace
      · omega
      · exact hplace
    have hmem : page ∈ d.browser.tabs.views := QTabWidget.indexOf_nonneg_iff.mp (by omega)
    rw [if_pos hmem, hindex]
    exact faces_setFace { d with browser := d.browser.updatePageIndex page } hmem _

/-- One round of the second loop of `syncTabOrder`. -/
theorem faces_refreshPage {d : Desktop Pixmap} (h : d.browser.Populated) (page : BrowserPage) :
    (d.refreshPage page).faces
      = if page.blinkVisible = true ∧ page.uuid ∈ d.browser.tabs.views
        then Function.update d.faces page.uuid (d.pageFace page.uuid) else d.faces := by
  have hlabelled : ((d.browser.updatePageIndex page.uuid).applyPageLabel page.uuid).Populated := by
    have hnone : d.browser.Refreshed ∅ := ⟨h, fun _ _ _ hid => hid.elim, fun _ _ hid => hid.elim⟩
    obtain ⟨hpopulated, hlabelled, -⟩ := hnone.updatePageIndex page.uuid
    have hfirst : (d.browser.updatePageIndex page.uuid).Refreshed ∅ :=
      ⟨hpopulated, hlabelled, fun _ _ hid => hid.elim⟩
    exact (hfirst.applyPageLabel page.uuid).populated
  have hviews : ((d.browser.updatePageIndex page.uuid).applyPageLabel page.uuid).tabs.views
      = d.browser.tabs.views := (steady_applyPageLabel _ page.uuid).views
  unfold refreshPage
  dsimp only
  split
  next hvisible =>
    rw [faces_applyPageIcon hlabelled, hviews]
    simp only [hvisible, true_and]
    rfl
  next hdark => rw [if_neg fun hvisible => hdark hvisible.1]

/-- A tab that shows the icon of its page goes on doing so, and those of the pages in their light half do
afterwards. -/
theorem faces_refreshPages_of_visible (pages : List BrowserPage) {d : Desktop Pixmap}
    (h : d.browser.Populated) {id : String} (hid : id ∈ d.browser.tabs.views)
    (hvisible : d.faces id = d.pageFace id ∨ ∃ page ∈ pages, page.uuid = id ∧ page.blinkVisible = true) :
    (pages.foldl Desktop.refreshPage d).faces id = d.pageFace id := by
  induction pages generalizing d with
  | nil => exact hvisible.resolve_right (by simp)
  | cons page pages ih =>
    have hfaces := faces_refreshPage h page
    have hicons := (d.onlyTabs_refreshPage page).icons
    have hsteady := (d.browser.steady_refreshPage page).views
    rw [← browser_refreshPage] at hsteady
    have hpopulated : (d.refreshPage page).browser.Populated := by
      rw [browser_refreshPage]
      exact h.refreshPage page
    have hface : (d.refreshPage page).pageFace id = d.pageFace id := by rw [pageFace, hicons, pageFace]
    rw [List.foldl_cons, ← hface]
    refine ih hpopulated (hsteady ▸ hid) ?_
    by_cases hdrawn : page.uuid = id ∧ page.blinkVisible = true
    · obtain ⟨rfl, hlight⟩ := hdrawn
      rw [if_pos ⟨hlight, hid⟩] at hfaces
      exact Or.inl (by rw [hfaces, Function.update_self, hface])
    · rcases hvisible with hshown | ⟨page', hmem, hpage'⟩
      · refine Or.inl ?_
        rw [hfaces, hface]
        split
        next hother =>
          rw [Function.update_of_ne fun heq => hdrawn ⟨heq.symm, hother.1⟩]
          exact hshown
        next => exact hshown
      · refine Or.inr ⟨page', (List.mem_cons.mp hmem).resolve_left ?_, hpage'⟩
        rintro rfl
        exact hdrawn hpage'

/-- The other tabs are left alone. -/
theorem faces_refreshPages_of_dark (pages : List BrowserPage) {d : Desktop Pixmap}
    (h : d.browser.Populated) {id : String}
    (hdark : ∀ page ∈ pages, page.uuid = id → page.blinkVisible = false) :
    (pages.foldl Desktop.refreshPage d).faces id = d.faces id := by
  induction pages generalizing d with
  | nil => rfl
  | cons page pages ih =>
    obtain ⟨hfirst, hrest⟩ := List.forall_mem_cons.mp hdark
    have hpopulated : (d.refreshPage page).browser.Populated := by
      rw [browser_refreshPage]
      exact h.refreshPage page
    rw [List.foldl_cons, ih hpopulated hrest, faces_refreshPage h page]
    split
    next hdrawn =>
      rw [Function.update_of_ne]
      rintro rfl
      rw [hfirst rfl] at hdrawn
      exact Bool.false_ne_true hdrawn.1
    next => rfl

/-- **`syncTabOrder` draws the tabs in their light half**, and leaves the others alone. -/
theorem faces_syncTabOrder {d : Desktop Pixmap} (h : d.browser.Populated) {id : String}
    {timer visible : Bool} (hid : d.browser.blinkState id = some (false, timer, visible)) :
    d.syncTabOrder.faces id = if visible = true then d.pageFace id else d.faces id := by
  obtain ⟨p, hp, hnormal, -, rfl⟩ := blinkState_eq_some_iff.mp hid
  obtain rfl := h.named hp
  have hmem := (mem_pagesInDisplayOrder h.named).mpr ⟨hp, hnormal⟩
  have hview : p.uuid ∈ (d.browser.pagesInDisplayOrder.zipIdx.foldl moveToTarget d.browser.tabs).views := by
    rw [h.views_moveToTargets]
    exact List.mem_map_of_mem hmem
  have hmoved := h.moveToTargets
  unfold syncTabOrder
  dsimp only
  split
  next hvisible =>
    exact faces_refreshPages_of_visible d.browser.pagesInDisplayOrder
      (d := { d with browser := { d.browser with
        tabs := d.browser.pagesInDisplayOrder.zipIdx.foldl moveToTarget d.browser.tabs } })
      hmoved hview (Or.inr ⟨p, hmem, rfl, hvisible⟩)
  next hdark =>
    refine faces_refreshPages_of_dark d.browser.pagesInDisplayOrder
      (d := { d with browser := { d.browser with
        tabs := d.browser.pagesInDisplayOrder.zipIdx.foldl moveToTarget d.browser.tabs } })
      hmoved fun page hpage huuid => ?_
    obtain ⟨hlive, -⟩ := (mem_pagesInDisplayOrder h.named).mp hpage
    rw [huuid, hp] at hlive
    rw [← Option.some.inj hlive]
    exact Bool.not_eq_true _ ▸ hdark

/-! ### The invariant -/

/-- What the tab of a page shows, whose timer is running or not, in the light or in the dark half. -/
structure Faced (d : Desktop Pixmap) (id : String) (timer visible : Bool) : Prop where
  still : timer = false → visible = true ∧ d.faces id = d.pageFace id
  dark : visible = false → d.faces id = blinkFace
  drawn : d.faces id = d.pageFace id ∨ d.faces id = blinkFace

/-- The tabs of all normal pages are so. -/
def TabFaces (d : Desktop Pixmap) : Prop :=
  ∀ ⦃id : String⦄ ⦃timer visible : Bool⦄, d.browser.blinkState id = some (false, timer, visible) →
    d.Faced id timer visible

theorem faced_of_shown {d : Desktop Pixmap} {id : String} {timer visible : Bool}
    (hvisible : visible = true) (hface : d.faces id = d.pageFace id) : d.Faced id timer visible where
  still _ := ⟨hvisible, hface⟩
  dark hdark := absurd (hvisible.symm.trans hdark) (by decide)
  drawn := Or.inl hface

/-- The tab shows what it showed, and its page has the icon that it had. -/
theorem Faced.of_same {d d' : Desktop Pixmap} {id : String} {timer visible : Bool}
    (h : d.Faced id timer visible) (hface : d'.faces id = d.faces id) (hicon : d'.icons id = d.icons id) :
    d'.Faced id timer visible := by
  have hpage : d'.pageFace id = d.pageFace id := by rw [pageFace, hicon, pageFace]
  exact ⟨fun htimer => by rw [hface, hpage]; exact h.still htimer,
    fun hdark => by rw [hface]; exact h.dark hdark, by rw [hface, hpage]; exact h.drawn⟩

theorem TabFaces.of_same {d d' : Desktop Pixmap} (h : d.TabFaces)
    (hstate : d'.browser.blinkState = d.browser.blinkState) (hfaces : d'.faces = d.faces)
    (hicons : d'.icons = d.icons) : d'.TabFaces := by
  intro id timer visible hid
  rw [hstate] at hid
  exact (h hid).of_same (congrFun hfaces id) (congrFun hicons id)

theorem TabFaces.of_samePages {d d' : Desktop Pixmap} (h : d.TabFaces) (hsame : SamePages d d') :
    d'.TabFaces := by
  refine h.of_same ?_ hsame.faces hsame.icons
  rw [hsame.browser]
  rfl

section Operations

variable {d : Desktop Pixmap}

/-- After `syncTabOrder` only the tabs in their dark half still depend on what was there before. -/
theorem tabFaces_syncTabOrder (hpopulated : d.browser.Populated)
    (hdark : ∀ ⦃id timer⦄, d.browser.blinkState id = some (false, timer, false) → d.Faced id timer false) :
    d.syncTabOrder.TabFaces := by
  intro id timer visible hid
  rw [browser_syncTabOrder, d.browser.redisplayed_syncTabOrder.blinkState] at hid
  have hface := faces_syncTabOrder hpopulated hid
  have hicons := d.onlyTabs_syncTabOrder.icons
  cases visible with
  | true =>
    refine faced_of_shown rfl (hface.trans ?_)
    rw [if_pos rfl, pageFace, pageFace, hicons]
  | false => exact (hdark hid).of_same hface (congrFun hicons id)

theorem tabFaces_showExtraZoneOverlay (h : d.TabFaces) : d.showExtraZoneOverlay.TabFaces := by
  unfold showExtraZoneOverlay
  split <;> exact h.of_same rfl rfl rfl

theorem tabFaces_updateExtraZoneVisibility (h : d.TabFaces) : d.updateExtraZoneVisibility.TabFaces := by
  unfold updateExtraZoneVisibility
  split
  · exact h.of_same rfl rfl rfl
  split
  · exact tabFaces_showExtraZoneOverlay h
  · exact h.of_same rfl rfl rfl

theorem tabFaces_stopBlink (h : d.TabFaces) (hpopulated : d.browser.Populated) (uuid : String) :
    (d.stopBlink uuid).TabFaces := by
  intro id timer visible hid
  have hstopped : (d.browser.modifyPage uuid fun p =>
      { p with blinkTimer := false, blinkVisible := true }).Populated :=
    populated_modifyPage hpopulated (fun _ => rfl) fun _ => rfl
  have hfaces := faces_applyPageIcon (d := { d with browser := d.browser.modifyPage uuid fun p =>
    { p with blinkTimer := false, blinkVisible := true } }) hstopped uuid
  have hicons := (d.onlyTabs_stopBlink uuid).icons
  have hindexed := (redisplayed_updatePageIndex
    (d.browser.modifyPage uuid fun p => { p with blinkTimer := false, blinkVisible := true }) uuid).blinkState
  rw [browser_stopBlink, Browser.stopBlink, Browser.applyPageIcon, hindexed] at hid
  have hview := hstopped.mem_views_of_blinkState hid
  rw [blinkState_modifyPage] at hid
  split at hid
  next heq =>
    subst heq
    obtain ⟨p, -, hstate⟩ := Option.map_eq_some_iff.mp hid
    simp only [Prod.mk.injEq] at hstate
    refine faced_of_shown hstate.2.2.symm ?_
    rw [pageFace, hicons]
    exact (congrFun (hfaces.trans (if_pos hview)) uuid).trans (Function.update_self ..)
  next hne =>
    refine (h hid).of_same (Eq.trans (congrFun hfaces id) ?_) (congrFun hicons id)
    split
    · exact Function.update_of_ne (Ne.symm hne) _ _
    · rfl

/-- An icon that arrives in the dark half waits for the next light one. -/
theorem tabFaces_onPageIcon (h : d.TabFaces) (hpopulated : d.browser.Populated) (uuid : String)
    (icon : QIcon Pixmap) : (d.onPageIcon uuid icon).TabFaces := by
  unfold onPageIcon
  split
  · exact h
  next page hpage =>
  dsimp only
  split
  next hvisible =>
    intro id timer visible hid
    have hfaces := faces_applyPageIcon
      (d := { d with icons := Function.update d.icons uuid icon }) hpopulated uuid
    have hicons := (onlyTabs_applyPageIcon { d with icons := Function.update d.icons uuid icon } uuid).icons
    rw [browser_applyPageIcon, Browser.applyPageIcon,
      (redisplayed_updatePageIndex _ uuid).blinkState] at hid
    have hid : d.browser.blinkState id = some (false, timer, visible) := hid
    by_cases heq : id = uuid
    · subst heq
      obtain ⟨p, hp, -, -, rfl⟩ := blinkState_eq_some_iff.mp hid
      rw [hpage] at hp
      cases hp
      have hview := hpopulated.mem_views_of_blinkState hid
      refine faced_of_shown hvisible ?_
      rw [pageFace, hicons]
      exact (congrFun (hfaces.trans (if_pos hview)) id).trans (Function.update_self ..)
    · refine (h hid).of_same (Eq.trans (congrFun hfaces id) ?_) ?_
      · split
        · exact Function.update_of_ne heq _ _
        · rfl
      · rw [hicons]
        exact Function.update_of_ne heq _ _
  next hdark =>
    intro id timer visible hid
    have hid : d.browser.blinkState id = some (false, timer, visible) := hid
    by_cases heq : id = uuid
    · subst heq
      have hfaced := h hid
      obtain ⟨p, hp, -, -, rfl⟩ := blinkState_eq_some_iff.mp hid
      rw [hpage] at hp
      cases hp
      have hdark := Bool.not_eq_true _ ▸ hdark
      exact ⟨fun htimer => absurd (hfaced.still htimer).1 (by simp [hdark]), fun _ => hfaced.dark hdark,
        Or.inr (hfaced.dark hdark)⟩
    · exact (h hid).of_same rfl (Function.update_of_ne heq _ _)

theorem TabFaces.loadIcon (h : d.TabFaces) (hpopulated : d.browser.Populated) (uuid iconUrl : String)
    (loaded : Option (QIcon Pixmap)) :
    (d.loadIcon iconUrl loaded fun d icon => d.onPageIcon uuid icon).TabFaces := by
  unfold Desktop.loadIcon
  split
  · exact h
  split
  · exact tabFaces_onPageIcon h hpopulated uuid _
  · exact h

/-- A blinking tab that is drawn for its other half. -/
theorem tabFaces_turn (h : d.TabFaces) {uuid : String} (hview : uuid ∈ d.browser.tabs.views) {b : Browser}
    {visible : Bool} (htabs : b.tabs = d.browser.tabs)
    (hstate : ∀ id, b.blinkState id
      = if uuid = id then some (false, true, !visible) else d.browser.blinkState id) :
    ({ d with browser := b }.setFace (b.tabs.indexOf uuid)
      (if visible = true then blinkFace else d.pageFace uuid)).TabFaces := by
  have hview : uuid ∈ ({ d with browser := b } : Desktop Pixmap).browser.tabs.views := by
    rw [htabs]
    exact hview
  have hfaces := faces_setFace { d with browser := b } hview
    (if visible = true then blinkFace else d.pageFace uuid)
  have hicons := (onlyTabs_setFace { d with browser := b } (b.tabs.indexOf uuid)
    (if visible = true then blinkFace else d.pageFace uuid)).icons
  intro id timer half hid
  rw [browser_setFace, hstate] at hid
  split at hid
  next heq =>
    subst heq
    cases hid
    have hface := (congrFun hfaces uuid).trans (Function.update_self ..)
    cases visible with
    | true => exact ⟨fun hstopped => absurd hstopped (by decide), fun _ => hface, Or.inr hface⟩
    | false =>
      refine faced_of_shown rfl (hface.trans ?_)
      exact congrArg (fun icons : String → QIcon Pixmap => (⟨.page (icons uuid), .windowText⟩ : TabFace Pixmap))
        hicons.symm
  next hne =>
    refine (h hid).of_same ((congrFun hfaces id).trans ?_) (congrFun hicons id)
    exact Function.update_of_ne (Ne.symm hne) _ _

/-- A timer that fires turns its tab over. -/
theorem tabFaces_onBlinkTimer (h : d.TabFaces) (hpopulated : d.browser.Populated) {uuid : String}
    (hrunning : d.browser.blinking uuid = some true) : (d.onBlinkTimer uuid).TabFaces := by
  unfold onBlinkTimer
  split
  · exact h
  next page hpage =>
  obtain ⟨p, hp, htimer⟩ := Option.map_eq_some_iff.mp hrunning
  rw [hpage] at hp
  cases hp
  split
  next hextra =>
    -- the extra page has no tab
    intro id timer visible hid
    rw [blinkState_modifyPage] at hid
    split at hid
    next heq =>
      subst heq
      rw [hpage, Option.map_some, Option.some.injEq, Prod.mk.injEq] at hid
      exact absurd (hextra.symm.trans hid.1) (by decide)
    next => exact (h hid).of_same rfl rfl
  next hnormal =>
  have hnormal := Bool.not_eq_true _ ▸ hnormal
  have hview := (hpopulated.mem_views_iff hpage).mpr hnormal
  have hplace : ¬ (d.browser.updatePageIndex uuid).tabs.indexOf uuid < 0 :=
    not_lt.mpr (QTabWidget.indexOf_nonneg_iff.mpr hview)
  have hstate : ∀ id, ((d.browser.updatePageIndex uuid).modifyPage uuid fun p =>
      { p with blinkVisible := !p.blinkVisible }).blinkState id
        = if uuid = id then some (false, true, !page.blinkVisible) else d.browser.blinkState id := by
    intro id
    rw [blinkState_modifyPage, (d.browser.redisplayed_updatePageIndex uuid).blinkState]
    split
    next heq =>
      subst heq
      rw [updatePageIndex, list_modifyPage, if_pos rfl, hpage, ← hnormal, ← htimer]
      rfl
    next => rfl
  have hturned := tabFaces_turn h hview (b := (d.browser.updatePageIndex uuid).modifyPage uuid fun p =>
    { p with blinkVisible := !p.blinkVisible }) rfl hstate
  dsimp only
  rw [if_neg hplace]
  split
  next hvisible =>
    rw [if_pos hvisible] at hturned
    exact hturned
  next hdark =>
    rw [if_neg hdark] at hturned
    exact hturned

/-- A tab that begins to blink shows for now what it shows. -/
theorem tabFaces_onBlinkTab (h : d.TabFaces) (uuid : String) : (d.onBlinkTab uuid).1.TabFaces := by
  have hindexed := (d.browser.redisplayed_updatePageIndex uuid).blinkState
  unfold onBlinkTab
  split
  · exact h
  split
  · exact tabFaces_showExtraZoneOverlay h
  dsimp only
  split
  · split
    next =>
      intro id timer visible hid
      rw [blinkState_modifyPage] at hid
      split at hid
      next heq =>
        subst heq
        obtain ⟨p, hp, hstate⟩ := Option.map_eq_some_iff.mp hid
        simp only [Prod.mk.injEq] at hstate
        obtain ⟨hnormal, rfl, rfl⟩ := hstate
        have hbefore : (d.browser.updatePageIndex uuid).blinkState uuid
            = some (false, p.blinkTimer, p.blinkVisible) :=
          blinkState_eq_some_iff.mpr ⟨p, hp, hnormal, rfl, rfl⟩
        rw [hindexed] at hbefore
        exact ⟨fun hstopped => absurd hstopped (by decide), fun hdark => absurd hdark (by decide),
          (h hbefore).drawn⟩
      next => exact (h (hindexed ▸ hid)).of_same rfl rfl
    · exact h.of_same hindexed rfl rfl
  · exact h.of_same hindexed rfl rfl

theorem tabFaces_onActivateTab (h : d.TabFaces) (hb : d.browser.TabBar) (uuid : String) :
    (d.onActivateTab uuid).1.TabFaces := by
  have hstop : ∀ {b : Browser}, b.blinkState = d.browser.blinkState → b.Populated →
      (({ d with browser := b } : Desktop Pixmap).stopBlink uuid).TabFaces := by
    intro b hstate hpopulated
    have hsame : ({ d with browser := b } : Desktop Pixmap).TabFaces := h.of_same hstate rfl rfl
    exact tabFaces_stopBlink hsame hpopulated uuid
  unfold onActivateTab
  split
  · exact h
  dsimp only
  split
  · refine tabFaces_stopBlink (tabFaces_showExtraZoneOverlay h) ?_ uuid
    rw [browser_showExtraZoneOverlay]
    exact hb.showExtraZoneOverlay.refreshed.populated
  split
  · have hshown := (hb.setCurrentIndex (d.browser.tabs.indexOf uuid)).refreshed.populated
    refine hstop ?_ (populated_modifyPage hshown (fun _ => rfl) fun _ => rfl)
    exact blinkState_modifyPage_same _ uuid fun _ => rfl
  · exact tabFaces_stopBlink h hb.refreshed.populated uuid

/-- A page that goes takes its face with it. -/
theorem TabFaces.erase (h : d.TabFaces) (uuid : String) {b : Browser}
    (hlist : b.list = d.browser.list.erase uuid) : ({ d with browser := b } : Desktop Pixmap).TabFaces := by
  intro id timer visible hid
  refine (h (Eq.trans ?_ hid)).of_same rfl rfl
  have hne : uuid ≠ id := by
    rintro rfl
    rw [show ({ d with browser := b } : Desktop Pixmap).browser = b from rfl, Browser.blinkState, hlist,
      Std.ExtTreeMap.getElem?_erase_self] at hid
    cases hid
  show d.browser.list[id]?.map _ = b.list[id]?.map _
  rw [hlist, StdMap.getElem?_erase, if_neg hne]

theorem tabFaces_onKillTab (h : d.TabFaces) (hb : d.browser.TabBar) (uuid : String)
    (forceDestroy : Bool) : (d.onKillTab uuid forceDestroy).1.TabFaces := by
  have hstopped := tabFaces_stopBlink h hb.refreshed.populated uuid
  have hpopulated := (hb.stopBlink uuid).refreshed.populated
  have hviews : (d.browser.stopBlink uuid).tabs.views = d.browser.tabs.views := rfl
  unfold onKillTab
  split
  · exact h
  next page hpage =>
  dsimp only
  split
  · exact hstopped.of_same rfl rfl rfl
  split
  · exact tabFaces_updateExtraZoneVisibility (hstopped.erase uuid rfl)
  next hnormal =>
    have hview := (hb.refreshed.populated.mem_views_iff hpage).mpr (Bool.not_eq_true _ ▸ hnormal)
    have hplace : (d.stopBlink uuid).browser.tabs.indexOf uuid ≥ 0 := by
      rw [browser_stopBlink]
      exact QTabWidget.indexOf_nonneg_iff.mpr (hviews ▸ hview)
    rw [if_pos hplace]
    refine tabFaces_syncTabOrder ?_ fun id timer hid => hstopped.erase uuid rfl hid
    rw [browser_stopBlink]
    exact hpopulated.removeTab (hviews ▸ hview)

/-- A new address, and the new places that may follow from it. -/
theorem tabFaces_onNavigateTo (h : d.TabFaces) (hb : d.browser.TabBar) {d' : Desktop Pixmap}
    {uuid url : String} {resp : CmdResponse} (hnavigate : d.onNavigateTo uuid url = some (d', resp)) :
    d'.TabFaces := by
  have hrenamed : ({ d with browser := d.browser.renamed uuid url } : Desktop Pixmap).TabFaces :=
    h.of_same (d.browser.blinkState_renamed uuid url) rfl rfl
  have hpopulated := (hb.renamed uuid url).refreshed.populated
  unfold onNavigateTo at hnavigate
  split at hnavigate
  · cases hnavigate
    exact h
  dsimp only at hnavigate
  split at hnavigate
  · cases hnavigate
    exact tabFaces_updateExtraZoneVisibility hrenamed
  split at hnavigate
  · split at hnavigate
    · cases hnavigate
    next b allocated hplaced =>
      cases hnavigate
      have hmoved := repositioned_allocateZonePosition hplaced
      have hsame : ({ d with browser := b } : Desktop Pixmap).TabFaces :=
        hrenamed.of_same hmoved.blinkState rfl rfl
      split
      · exact tabFaces_syncTabOrder (hmoved.populated hpopulated) fun id timer hid => hsame hid
      · exact hsame
  · cases hnavigate
    exact hrenamed

/-- A page that comes in is in its light half. -/
theorem tabFaces_onNewWebTab (h : d.TabFaces) (hb : Displayed d.browser) {d' : Desktop Pixmap}
    {url iconUrl uuid : String} {preferredPos flags : ℤ} {loaded : Option (QIcon Pixmap)}
    {resp : CmdResponse} (hfresh : uuid ∉ d.browser.list)
    (hnew : d.onNewWebTab url iconUrl preferredPos flags uuid loaded = some (d', resp)) :
    d'.TabFaces := by
  rcases onNewWebTab_outcome hnew with ⟨rfl, -⟩ | ⟨b, placed, hplaced, shown, hshown, hcases⟩
  · exact h
  have hmoved := repositioned_allocateLogicalPosition hplaced
  have hstate : ∀ id, b.blinkState id = if uuid = id
      then some (decide (preferredPos = POS_EXTRA), false, true) else d.browser.blinkState id := by
    intro id
    rw [hmoved.blinkState, Browser.blinkState, StdMap.getElem?_insert]
    split <;> rfl
  -- the other pages, with the page that came in or without it
  have hothers : ∀ (b' : Browser) ⦃id timer visible⦄, id ≠ uuid →
      b.blinkState id = some (false, timer, visible) →
        ({ d.untouched uuid with browser := b' } : Desktop Pixmap).Faced id timer visible := by
    intro b' id timer visible hne hid
    rw [hstate, if_neg (Ne.symm hne)] at hid
    exact (h hid).of_same rfl (Function.update_of_ne hne _ _)
  rcases hcases with ⟨-, rfl, rfl⟩ | ⟨-, rfl, rfl⟩
  · intro id timer visible hid
    have herased : (b.list.erase uuid)[id]?.map (fun p => (isExtraPage p, p.blinkTimer, p.blinkVisible))
        = some (false, timer, visible) := hid
    rw [StdMap.getElem?_erase] at herased
    split at herased
    · cases herased
    next hne => exact hothers _ (Ne.symm hne) herased
  · have hpopulated := (tabBar_onNewWebTab hb.tabBar hb.laid hfresh hshown).refreshed.populated
    refine Desktop.TabFaces.loadIcon ?_ hpopulated uuid iconUrl loaded
    split
    next hextra =>
      refine tabFaces_updateExtraZoneVisibility fun id timer visible hid => ?_
      refine hothers _ ?_ hid
      rintro rfl
      rw [show ({ d.untouched id with browser := b } : Desktop Pixmap).browser.blinkState = b.blinkState from rfl,
        hstate, if_pos rfl, decide_eq_true hextra] at hid
      cases hid
    next hnormal =>
      let page := newPage url iconUrl preferredPos flags uuid
      have hadded : ({ d.browser with
          list := d.browser.list.insert page.uuid page
          tabs := (d.browser.tabs.addTab page.uuid "").1 } : Browser).Populated :=
        hb.tabBar.refreshed.populated.addTab hfresh hnormal
      have htabs : b.tabs = d.browser.tabs := by rw [hmoved.only]
      have hindexed : (({ b with tabs := (b.tabs.addTab uuid "").1 } : Browser).modifyPage uuid
          fun p => { p with index := (b.tabs.addTab uuid "").2 }).Populated := by
        rw [htabs]
        exact populated_modifyPage ((hmoved.setTabs _).populated hadded) (fun _ => rfl) fun _ => rfl
      have hplain : (({ b with tabs := (b.tabs.addTab uuid "").1 } : Browser).modifyPage uuid
          fun p => { p with index := (b.tabs.addTab uuid "").2 }).blinkState = b.blinkState :=
        blinkState_modifyPage_same _ uuid fun _ => rfl
      have hsynced := tabFaces_syncTabOrder (d := { d.untouched uuid with
        browser := ({ b with tabs := (b.tabs.addTab uuid "").1 } : Browser).modifyPage uuid
          fun p => { p with index := (b.tabs.addTab uuid "").2 }
        faces := Function.update d.faces uuid {} }) hindexed fun id timer hdark => by
          have hid : b.blinkState id = some (false, timer, false) := hplain ▸ hdark
          have hne : id ≠ uuid := by
            rintro rfl
            rw [hstate, if_pos rfl, Option.some.injEq, Prod.mk.injEq, Prod.mk.injEq] at hid
            exact Bool.noConfusion hid.2.2
          exact (hothers b hne hid).of_same (Function.update_of_ne hne _ _) rfl
      unfold showNewTab
      dsimp only
      split
      · refine hsynced.of_same ?_ rfl rfl
        exact blinkState_modifyPage_same _ uuid fun _ => rfl
      · exact hsynced

end Operations

theorem tabFaces_exec {d d' : Desktop Pixmap} {loaded : Option (QIcon Pixmap)} {signal : Browser.Signal}
    {resp : CmdResponse} (h : d.TabFaces) (hb : Displayed d.browser) (hfresh : Fresh d.browser signal)
    (hexec : d.exec loaded signal = some (d', resp)) : d'.TabFaces := by
  have hsame : ∀ {r : Desktop Pixmap × CmdResponse}, some r = some (d', resp) → r.1 = d' := fun heq =>
    congrArg Prod.fst (Option.some.inj heq)
  cases signal with
  | NewWebTab url iconUrl preferredPos flags uuid => exact tabFaces_onNewWebTab h hb hfresh hexec
  | NavigateTo uuid url => exact tabFaces_onNavigateTo h hb.tabBar hexec
  | ActivateTab uuid => exact hsame hexec ▸ tabFaces_onActivateTab h hb.tabBar uuid
  | KillTab uuid forceDestroy => exact hsame hexec ▸ tabFaces_onKillTab h hb.tabBar uuid forceDestroy
  | BlinkTab uuid => exact hsame hexec ▸ tabFaces_onBlinkTab h uuid
  | NewShortcut url iconUrl preferredPos flags shortcutId =>
    exact hsame hexec ▸ h.of_samePages
      (d.onlyShortcuts_onNewShortcut url iconUrl preferredPos flags shortcutId loaded).pages
  | KillShortcut shortcutId =>
    exact hsame hexec ▸ h.of_samePages (d.onlyShortcuts_onKillShortcut shortcutId).pages
  | GetTabMap => exact hsame hexec ▸ h
  | GetShortcuts => exact hsame hexec ▸ h

end Desktop

/-- **The step lemma**: whatever happens on the desktop, the tabs go on showing what they should. -/
theorem tabFaces_step {d d' : Desktop Pixmap} {event : DesktopEvent Pixmap} (h : d.TabFaces)
    (hb : Displayed d.browser) (hstep : DesktopStep d event d') : d'.TabFaces := by
  cases hstep with
  | signal hfresh hexec => exact Desktop.tabFaces_exec h hb hfresh hexec
  | click hindex => exact h.of_same rfl rfl rfl
  | blinkTimer hrunning => exact Desktop.tabFaces_onBlinkTimer h hb.tabBar.refreshed.populated hrunning
  | pageIcon uuid icon => exact Desktop.tabFaces_onPageIcon h hb.tabBar.refreshed.populated uuid icon
  | shortcutIcon shortcutId icon => exact h.of_samePages (d.onlyShortcuts_onShortcutIcon shortcutId icon).pages
  | ApplySettings settings => exact h.of_samePages (d.onlyDocuments_ApplySettings settings).pages
  | launcherClicked => exact h.of_samePages d.onlyShortcuts_toggleShortcutPopup.pages
  | buttonClicked => exact h.of_samePages (d.onlyShortcuts_activateShortcut _).pages
  | loadFinished ok => exact h.of_samePages (d.onlyDocuments_onLoadFinished _ ok).pages
  | resize => exact h.of_same rfl rfl rfl
  | popupClosed => exact h.of_same rfl rfl rfl
  | newDocument => exact h.of_same rfl rfl rfl

/-- **In every run** the tab of a page whose timer is off shows the icon of the page in the normal colour,
the tab of one in its dark half is blank and red, and every tab is drawn in one of the two ways. -/
theorem tabFaces_of_run {runtimeConfig : RuntimeConfig} {width height : ℤ}
    {events : List (DesktopEvent Pixmap)} {d : Desktop Pixmap}
    (h : Run.Steps DesktopStep (Desktop.new runtimeConfig width height) events d) {id : String}
    {p : BrowserPage} (hp : d.browser.list[id]? = some p) (hnormal : isExtraPage p = false) :
    (p.blinkTimer = false → p.blinkVisible = true ∧ d.faces id = d.pageFace id)
      ∧ (p.blinkVisible = false → d.faces id = Desktop.blinkFace)
      ∧ (d.faces id = d.pageFace id ∨ d.faces id = Desktop.blinkFace) := by
  have hstart : (Desktop.new runtimeConfig width height : Desktop Pixmap).TabFaces := by
    intro id timer visible hid
    obtain ⟨p, hp, -⟩ := Browser.blinkState_eq_some_iff.mp hid
    simp [Desktop.new, Browser.new] at hp
  have hfaces := h.invariant (fun d => Displayed d.browser ∧ d.TabFaces)
    (fun hd hstep => ⟨hstep.displayed hd.1, tabFaces_step hd.2 hd.1 hstep⟩)
    ⟨displayed_new runtimeConfig width height, hstart⟩
  have hfaced := hfaces.2 (Browser.blinkState_eq_some_iff.mpr ⟨p, hp, hnormal, rfl, rfl⟩)
  exact ⟨hfaced.still, hfaced.dark, hfaced.drawn⟩

/-- A tab that got its icon in the dark half of its blinking. -/
theorem tabFaces_of_run_dark : ∃ d p, Run.Steps DesktopStep (Desktop.new {} 800 480 : Desktop Unit)
    [.signal (.NewWebTab "u" "" POS_ANY 0 "a") none, .signal (.NewWebTab "v" "i" POS_ANY 0 "b") none,
      .signal (.BlinkTab "b") none, .blinkTimer "b", .pageIcon "b" (some ())] d
    ∧ d.browser.list["b"]? = some p ∧ p.blinkVisible = false
    ∧ d.faces "b" = Desktop.blinkFace ∧ d.pageFace "b" = ⟨.page (some ()), .windowText⟩ := by
  have hrun : Run.Steps DesktopStep (Desktop.new {} 800 480 : Desktop Unit)
      [.signal (.NewWebTab "u" "" POS_ANY 0 "a") none, .signal (.NewWebTab "v" "i" POS_ANY 0 "b") none,
        .signal (.BlinkTab "b") none, .blinkTimer "b", .pageIcon "b" (some ())] _ :=
    .cons (.signal (by decide : ¬ _ ∈ _) rfl) (.cons (.signal (by decide : ¬ _ ∈ _) rfl)
      (.cons (.signal trivial rfl) (.cons (.blinkTimer _ (by decide)) (.cons (.pageIcon _ _ _) (.nil _)))))
  obtain ⟨-, hdark, -⟩ := tabFaces_of_run hrun (rfl : _[("b" : String)]? = some _) (by decide)
  exact ⟨_, _, hrun, rfl, by decide, hdark (by decide), by decide⟩

end OpenMadt.Gui
