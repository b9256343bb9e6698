import Mathlib.Data.List.InsertIdx
import OpenMadt.Holdings
import OpenMadt.Library.Reorder
import OpenMadt.Slots

/-!
# The tab bar

The tab widget is a second copy of what the page map says: it has to show the normal pages in the
order of their positions, under their numbers and addresses, and every page remembers its own place
in it.  A zone reallocation changes many positions at once, and `syncTabOrder` repairs the widget.

* `Populated` — the widget has a tab for every normal page and no others, in whatever order.
* `Refreshed` — also, the tabs of some pages are up to date, and these pages know their places.
* `tabBar_syncTabOrder` — from a populated widget `syncTabOrder` makes a tab bar in order: the first
  loop moves every tab to its place (`Reorder.foldl_moves`), the second one refreshes them all.
* `tabBar_exec`, `tabBar_of_run` — every signal keeps the tab bar, so every run of the browser does.
-/

namespace OpenMadt.Gui

open Assignment Reorder

/-! ### The widget -/

namespace QTabWidget

/-- The views in the order of their tabs. -/
def views (w : QTabWidget) : List String := w.tabs.map QTab.view

theorem indexOf_eq (w : QTabWidget) (view : String) :
    w.indexOf view = if view ∈ w.views then (w.views.idxOf view : ℤ) else -1 := by
  have hfind : w.tabs.findIdx? (·.view = view) = w.views.idxOf? view := by
    rw [views, List.idxOf?, List.findIdx?_map]
    congr 1
  rw [indexOf, hfind]
  split
  next i hi =>
    obtain ⟨hlt, hidx⟩ := List.findIdx?_eq_some_iff_findIdx_eq.mp hi
    have hidx : w.views.idxOf view = i := hidx
    rw [hidx, if_pos (List.idxOf_lt_length_iff.mp (hidx ▸ hlt))]
  next hnone =>
    rw [List.idxOf?_eq_none_iff] at hnone
    rw [if_neg hnone]

theorem indexOf_nonneg_iff {w : QTabWidget} {view : String} :
    0 ≤ w.indexOf view ↔ view ∈ w.views := by
  rw [indexOf_eq]
  split
  next hmem => exact ⟨fun _ => hmem, fun _ => by omega⟩
  next hmem => exact ⟨fun h => by omega, fun h => absurd h hmem⟩

/-- The tab that `indexOf` finds. -/
theorem getElem?_indexOf {w : QTabWidget} {view : String} (h : view ∈ w.views) :
    ∃ tab, w.tabs[(w.indexOf view).toNat]? = some tab ∧ tab.view = view := by
  have hlt : w.views.idxOf view < w.tabs.length := by
    rw [← List.length_map (f := QTab.view)]
    exact List.idxOf_lt_length_iff.mpr h
  have hview : w.views[w.views.idxOf view]? = some view := by
    rw [List.getElem?_eq_getElem (List.idxOf_lt_length_iff.mpr h), List.getElem_idxOf]
  rw [indexOf_eq, if_pos h, Int.toNat_natCast]
  rwa [views, List.getElem?_map, Option.map_eq_some_iff] at hview

/-- No view has two tabs. -/
theorem eq_of_view_eq {w : QTabWidget} (h : w.views.Nodup) {i j : ℕ} {tab tab' : QTab}
    (hi : w.tabs[i]? = some tab) (hj : w.tabs[j]? = some tab') (heq : tab.view = tab'.view) :
    i = j := by
  have hlt : i < w.views.length := by
    rw [views, List.length_map]
    exact (List.getElem?_eq_some_iff.mp hi).1
  refine (List.getElem?_inj hlt h).mp ?_
  rw [views, List.getElem?_map, List.getElem?_map, hi, hj, Option.map_some, Option.map_some, heq]

theorem indexOf_congr {w w' : QTabWidget} (h : w'.views = w.views) (view : String) :
    w'.indexOf view = w.indexOf view := by
  rw [indexOf_eq, h, ← indexOf_eq]

/-! What the functions of the widget do to the views. -/

theorem views_addTab (w : QTabWidget) (view text : String) :
    (w.addTab view text).1.views = w.views ++ [view] := by
  simp [addTab, views]

theorem views_moveTab (w : QTabWidget) {view : String} (h : view ∈ w.views) (k : ℕ) :
    (w.moveTab (w.indexOf view) k).views = moveTo w.views view k := by
  obtain ⟨tab, htab, hview⟩ := getElem?_indexOf h
  rw [moveTab, htab]
  simp only [views, List.map_insertIdx, List.eraseIdx_map, moveTo, hview, Int.toNat_natCast]
  rw [indexOf_eq, if_pos h, Int.toNat_natCast, views]

theorem views_removeTab (w : QTabWidget) (view : String) (h : view ∈ w.views) :
    (w.removeTab (w.indexOf view)).views = w.views.erase view := by
  rw [indexOf_eq, if_pos h, removeTab, Int.toNat_natCast, views, ← List.eraseIdx_map,
    List.erase_eq_eraseIdx_of_idxOf rfl, views]

theorem views_setCurrentIndex (w : QTabWidget) (index : ℤ) :
    (w.setCurrentIndex index).tabs = w.tabs := by
  unfold setCurrentIndex
  split <;> rfl

/-- The tab at a place gets a text and a tooltip, and nothing else changes. -/
theorem getElem?_setTab (w : QTabWidget) (index : ℤ) (text toolTip : String) (j : ℕ) :
    ((w.setTabText index text).setTabToolTip index toolTip).tabs[j]?
      = if index.toNat = j then w.tabs[j]?.map fun tab => { tab with text := text, toolTip := toolTip }
        else w.tabs[j]? := by
  simp only [setTabToolTip, setTabText, List.getElem?_modify, Option.map_eq_map]
  split
  · rw [Option.map_map]
    rfl
  · rw [Option.map_id', Option.map_id']

theorem views_setTab (w : QTabWidget) (index : ℤ) (text toolTip : String) :
    ((w.setTabText index text).setTabToolTip index toolTip).views = w.views := by
  refine List.ext_getElem? fun j => ?_
  rw [views, views, List.getElem?_map, List.getElem?_map, getElem?_setTab]
  split
  · rw [Option.map_map]
    rfl
  · rfl

end QTabWidget

namespace Browser

/-! ### What the tab bar should be -/

/-- Every page is in the map under its own id. -/
def Named (b : Browser) : Prop :=
  ∀ ⦃id : String⦄ ⦃p : BrowserPage⦄, b.list[id]? = some p → p.uuid = id

/-- There is a tab for every normal page, and no other tab. -/
structure Populated (b : Browser) : Prop where
  named : b.Named
  nodup : b.tabs.views.Nodup
  mem_views : ∀ {id : String}, id ∈ b.tabs.views
    ↔ ∃ preferredPos, b.holdings.pages id = some preferredPos ∧ preferredPos ≠ POS_EXTRA

/-- The tab of a normal page, with its number and its address if they are to be shown. -/
def tabOf (b : Browser) (page : BrowserPage) : QTab where
  view := page.uuid
  text := if b.runtimeConfig.tabBarShowLabels then toString (page.logicalPos + 1) else ""
  toolTip := if b.runtimeConfig.tabBarShowTooltips then page.url else ""

/-- The tabs of these pages are up to date. -/
def Labelled (ids : Set String) (b : Browser) : Prop :=
  ∀ ⦃tab : QTab⦄ ⦃p : BrowserPage⦄, tab ∈ b.tabs.tabs → tab.view ∈ ids →
    b.list[tab.view]? = some p → tab = b.tabOf p

/-- These pages know their places. -/
def Indexed (ids : Set String) (b : Browser) : Prop :=
  ∀ ⦃id : String⦄ ⦃p : BrowserPage⦄, id ∈ ids → b.list[id]? = some p → isExtraPage p = false →
    p.index = b.tabs.indexOf id

/-- The tabs are in the order of their pages. -/
def Sorted (b : Browser) : Prop :=
  b.tabs.views.Pairwise fun id id' => ∀ s s', b.slots id = some s → b.slots id' = some s' →
    s.logicalPos < s'.logicalPos

/-- There are the right tabs, and what these pages have to do with them is up to date. -/
structure Refreshed (ids : Set String) (b : Browser) : Prop where
  populated : b.Populated
  labelled : b.Labelled ids
  indexed : b.Indexed ids

/-- The tab bar is in order. -/
structure TabBar (b : Browser) : Prop where
  refreshed : b.Refreshed Set.univ
  sorted : b.Sorted

/-! ### Writing to one page -/

section ModifyPage

variable {b : Browser} {page : String} {f : BrowserPage → BrowserPage}

theorem named_modifyPage (h : b.Named) (hf : ∀ p, (f p).uuid = p.uuid) :
    (b.modifyPage page f).Named := by
  intro id p hp
  rw [list_modifyPage] at hp
  split at hp
  · obtain ⟨q, hq, rfl⟩ := Option.map_eq_some_iff.mp hp
    exact (hf q).trans (h hq)
  · exact h hp

theorem populated_modifyPage (h : b.Populated) (huuid : ∀ p, (f p).uuid = p.uuid)
    (hpref : ∀ p, (f p).preferredPos = p.preferredPos) : (b.modifyPage page f).Populated := by
  refine ⟨named_modifyPage h.named huuid, h.nodup, fun {id} => ?_⟩
  rw [(b.kept_modifyPage page hpref).pages]
  exact h.mem_views

/-- The labels only depend on numbers and addresses. -/
theorem labelled_modifyPage {ids : Set String} (h : b.Labelled ids)
    (hf : ∀ p, (b.tabOf (f p)) = b.tabOf p) : (b.modifyPage page f).Labelled ids := by
  intro tab p htab hid hp
  rw [list_modifyPage] at hp
  split at hp
  · obtain ⟨q, hq, rfl⟩ := Option.map_eq_some_iff.mp hp
    exact (h htab hid hq).trans (hf q).symm
  · exact h htab hid hp

/-- A page that learns its place. -/
theorem indexed_modifyPage {ids : Set String} (h : b.Indexed ids)
    (hpref : ∀ p, (f p).preferredPos = p.preferredPos)
    (hindex : ∀ p, b.list[page]? = some p → isExtraPage p = false →
      (f p).index = b.tabs.indexOf page) : (b.modifyPage page f).Indexed (insert page ids) := by
  intro id p hid hp hnormal
  rw [list_modifyPage] at hp
  split at hp
  next heq =>
    obtain ⟨q, hq, rfl⟩ := Option.map_eq_some_iff.mp hp
    subst heq
    refine hindex q hq ?_
    rw [isExtraPage, hpref] at hnormal
    exact hnormal
  next hne => exact h (hid.resolve_left (Ne.symm hne)) hp hnormal

end ModifyPage

/-! ### Refreshing -/

/-- The tabs are where they were, and the same one is shown. -/
structure Steady (b b' : Browser) : Prop where
  views : b'.tabs.views = b.tabs.views
  current : b'.tabs.current = b.tabs.current

theorem Steady.refl (b : Browser) : Steady b b := ⟨rfl, rfl⟩

theorem Steady.trans {b b' b'' : Browser} (h : Steady b b') (h' : Steady b' b'') : Steady b b'' :=
  ⟨h'.views.trans h.views, h'.current.trans h.current⟩

theorem steady_applyPageLabel (b : Browser) (page : String) : Steady b (b.applyPageLabel page) := by
  unfold applyPageLabel
  dsimp only
  split
  · exact ⟨rfl, rfl⟩
  split
  · exact ⟨rfl, rfl⟩
  · exact ⟨QTabWidget.views_setTab _ _ _ _, rfl⟩

theorem steady_refreshPage (b : Browser) (page : BrowserPage) : Steady b (b.refreshPage page) := by
  have hlabel := (b.updatePageIndex page.uuid).steady_applyPageLabel page.uuid
  unfold refreshPage
  dsimp only
  split
  · exact ⟨hlabel.views, hlabel.current⟩
  · exact ⟨hlabel.views, hlabel.current⟩

theorem steady_refreshPages (pages : List BrowserPage) (b : Browser) :
    Steady b (pages.foldl refreshPage b) := by
  induction pages generalizing b with
  | nil => exact Steady.refl b
  | cons page pages ih => exact (b.steady_refreshPage page).trans (ih _)

section Refreshing

variable {b : Browser} {ids : Set String}

theorem Populated.mem_views_iff (h : b.Populated) {page : String} {p : BrowserPage}
    (hp : b.list[page]? = some p) : page ∈ b.tabs.views ↔ isExtraPage p = false := by
  have hpages : b.holdings.pages page = some p.preferredPos := by
    simp only [holdings, hp, Option.map_some]
  rw [h.mem_views, hpages, isExtraPage, decide_eq_false_iff_not]
  simp

theorem Populated.setTabs (h : b.Populated) {w : QTabWidget} (hviews : w.views = b.tabs.views) :
    ({ b with tabs := w } : Browser).Populated :=
  ⟨h.named, hviews ▸ h.nodup, fun {_} => hviews ▸ h.mem_views⟩

theorem Indexed.setTabs (h : b.Indexed ids) {w : QTabWidget} (hviews : w.views = b.tabs.views) :
    ({ b with tabs := w } : Browser).Indexed ids := by
  intro id p hid hp hnormal
  rw [QTabWidget.indexOf_congr hviews]
  exact h hid hp hnormal

/-- `updatePageIndex`: the page learns its place. -/
theorem Refreshed.updatePageIndex (h : b.Refreshed ids) (page : String) :
    (b.updatePageIndex page).Populated ∧ (b.updatePageIndex page).Labelled ids
      ∧ (b.updatePageIndex page).Indexed (insert page ids) := by
  refine ⟨populated_modifyPage h.populated (fun _ => rfl) fun _ => rfl,
    labelled_modifyPage h.labelled fun _ => rfl,
    indexed_modifyPage h.indexed (fun _ => rfl) fun p hp hnormal => ?_⟩
  rw [hnormal, h.populated.named hp]
  rfl

theorem index_updatePageIndex (h : b.Named) {page : String} {p : BrowserPage}
    (hp : (b.updatePageIndex page).list[page]? = some p) :
    p.index = if isExtraPage p then -1 else (b.updatePageIndex page).tabs.indexOf page := by
  rw [Browser.updatePageIndex, list_modifyPage, if_pos rfl] at hp
  obtain ⟨q, hq, rfl⟩ := Option.map_eq_some_iff.mp hp
  rw [← h hq]
  rfl

/-- `applyPageLabel`: its tab is up to date as well. -/
theorem Refreshed.applyPageLabel (h : b.Refreshed ids) (page : String) :
    (b.applyPageLabel page).Refreshed (insert page ids) := by
  obtain ⟨hpopulated, hlabelled, hindexed⟩ := h.updatePageIndex page
  have hplace := @index_updatePageIndex b h.populated.named page
  unfold Browser.applyPageLabel
  generalize b.updatePageIndex page = b₁ at hpopulated hlabelled hindexed hplace
  dsimp only
  split
  next hnone =>
    -- no page, no tab
    refine ⟨hpopulated, fun tab p htab hid hp => ?_, hindexed⟩
    refine hlabelled htab (hid.resolve_left fun heq => ?_) hp
    rw [heq, hnone] at hp
    cases hp
  next p hp =>
  have hplace := hplace hp
  split
  next hneg =>
    -- no place, no tab
    refine ⟨hpopulated, fun tab q htab hid hq => ?_, hindexed⟩
    refine hlabelled htab (hid.resolve_left fun heq => ?_) hq
    have hmem : page ∈ b₁.tabs.views := heq ▸ List.mem_map_of_mem htab
    have hnonneg := QTabWidget.indexOf_nonneg_iff.mpr hmem
    have hnormal := (hpopulated.mem_views_iff hp).mp hmem
    rw [if_neg (by simp [hnormal])] at hplace
    omega
  next hpos =>
    have hviews := b₁.tabs.views_setTab p.index
      (if b₁.runtimeConfig.tabBarShowLabels then toString (p.logicalPos + 1) else "")
      (if b₁.runtimeConfig.tabBarShowTooltips then p.url else "")
    refine ⟨hpopulated.setTabs hviews, fun tab q htab hid hq => ?_, hindexed.setTabs hviews⟩
    have hindex : p.index = b₁.tabs.indexOf page := by
      split at hplace
      · omega
      · exact hplace
    have hmem : page ∈ b₁.tabs.views := QTabWidget.indexOf_nonneg_iff.mp (by omega)
    obtain ⟨old, hold, hview⟩ := QTabWidget.getElem?_indexOf hmem
    obtain ⟨j, hj⟩ := List.mem_iff_getElem?.mp htab
    rw [QTabWidget.getElem?_setTab, hindex] at hj
    split at hj
    next heq =>
      -- the tab of the page itself
      rw [← heq, hold, Option.map_some, Option.some.injEq] at hj
      subst hj
      have hq : b₁.list[page]? = some q := hview ▸ hq
      obtain rfl := Option.some.inj (hp.symm.trans hq)
      rw [tabOf, hpopulated.named hp, ← hview]
    next hne =>
      refine hlabelled (List.mem_of_getElem? hj) (hid.resolve_left fun heq => hne ?_) hq
      exact QTabWidget.eq_of_view_eq hpopulated.nodup hold hj (hview.trans heq.symm)

theorem Refreshed.mono {ids' : Set String} (h : b.Refreshed ids) (hsub : ids' ⊆ ids) :
    b.Refreshed ids' :=
  ⟨h.populated, fun _ _ htab hid => h.labelled htab (hsub hid),
    fun _ _ hid => h.indexed (hsub hid)⟩

theorem Refreshed.refreshPage (h : b.Refreshed ids) (page : BrowserPage) :
    (b.refreshPage page).Refreshed (insert page.uuid ids) := by
  obtain ⟨hpopulated, hlabelled, hindexed⟩ := h.updatePageIndex page.uuid
  have hfirst : (b.updatePageIndex page.uuid).Refreshed ids :=
    ⟨hpopulated, hlabelled, fun _ _ hid => hindexed (Set.mem_insert_of_mem _ hid)⟩
  have hlabel := hfirst.applyPageLabel page.uuid
  unfold Browser.refreshPage
  dsimp only
  split
  · obtain ⟨hpopulated, hlabelled, hindexed⟩ := hlabel.updatePageIndex page.uuid
    exact ⟨hpopulated, hlabelled, fun _ _ hid => hindexed (Set.mem_insert_of_mem _ hid)⟩
  · exact hlabel

/-- After the second loop of `syncTabOrder` its pages are refreshed. -/
theorem Refreshed.refreshPages (pages : List BrowserPage) {b : Browser} {ids : Set String}
    (h : b.Refreshed ids) :
    (pages.foldl Browser.refreshPage b).Refreshed {id | id ∈ pages.map BrowserPage.uuid ∨ id ∈ ids} := by
  induction pages generalizing b ids with
  | nil => simpa using h
  | cons page pages ih =>
    refine (ih (h.refreshPage page)).mono fun id hid => ?_
    rcases hid with hid | hid
    · rcases List.mem_cons.mp hid with rfl | hid
      · exact Or.inr (Set.mem_insert _ _)
      · exact Or.inl hid
    · exact Or.inr (Set.mem_insert_of_mem _ hid)

end Refreshing

/-! ### The pages in the order of their display -/

section DisplayOrder

variable {b : Browser}

theorem mem_pagesInDisplayOrder (h : b.Named) {p : BrowserPage} :
    p ∈ b.pagesInDisplayOrder ↔ b.list[p.uuid]? = some p ∧ isExtraPage p = false := by
  rw [pagesInDisplayOrder, (sort_perm _ _).mem_iff, List.mem_filter, List.mem_map,
    Bool.not_eq_true']
  refine and_congr_left fun _ => ⟨?_, fun hp => ⟨(p.uuid, p), mem_toList_iff.mpr hp, rfl⟩⟩
  rintro ⟨⟨id, p⟩, hp, rfl⟩
  have hp := mem_toList_iff.mp hp
  rwa [← h hp] at hp

/-- No two pages have one id. -/
theorem nodup_uuids (h : b.Named) : ((b.list.toList.map Prod.snd).map BrowserPage.uuid).Nodup := by
  have hkeys : (b.list.toList.map Prod.snd).map BrowserPage.uuid = b.list.toList.map Prod.fst := by
    rw [List.map_map]
    exact List.map_congr_left fun entry hentry => h (mem_toList_iff.mp hentry)
  rw [hkeys]
  exact b.nodup_ids

theorem nodup_pagesInDisplayOrder (h : b.Named) :
    (b.pagesInDisplayOrder.map BrowserPage.uuid).Nodup := by
  rw [pagesInDisplayOrder, ((sort_perm _ _).map _).nodup_iff]
  exact (nodup_uuids h).sublist (List.filter_sublist.map _)

/-- With every normal page at a position of its own, the order is strict. -/
theorem pairwise_pagesInDisplayOrder (h : b.Named) (hdistinct : Distinct (positions b.slots)) :
    b.pagesInDisplayOrder.Pairwise fun p p' => p.logicalPos < p'.logicalPos := by
  have hperm := sort_perm pagePosLess
    ((b.list.toList.map Prod.snd).filter fun page => !isExtraPage page)
  have hnodup := (nodup_pagesInDisplayOrder h).of_map
  refine pairwise_sort (fun _ _ => Iff.rfl) (hperm.nodup_iff.mp hnodup) fun p hp p' hp' heq => ?_
  obtain ⟨hp, hnormal⟩ := (mem_pagesInDisplayOrder h).mp (hperm.mem_iff.mpr hp)
  obtain ⟨hp', hnormal'⟩ := (mem_pagesInDisplayOrder h).mp (hperm.mem_iff.mpr hp')
  have hheld := positions_of_page hp (of_decide_eq_false hnormal)
  have hheld' := positions_of_page hp' (of_decide_eq_false hnormal')
  have hsame : p.uuid = p'.uuid := hdistinct hheld (heq ▸ hheld')
  exact Option.some.inj (hp.symm.trans (hsame ▸ hp'))

end DisplayOrder

/-! ### syncTabOrder -/

/-- One move of the first loop. -/
theorem views_moveToTarget (w : QTabWidget) (page : BrowserPage) (k : ℕ)
    (h : page.uuid ∈ w.views) : (moveToTarget w (page, k)).views = moveTo w.views page.uuid k := by
  unfold moveToTarget
  dsimp only
  split
  · exact w.views_moveTab h k
  next hstay =>
    have hplace := QTabWidget.indexOf_nonneg_iff.mpr h
    have hk : w.views.idxOf page.uuid = k := by
      rw [QTabWidget.indexOf_eq, if_pos h] at hstay hplace
      omega
    rw [← hk, moveTo_self h]

section Sync

variable {b : Browser}

theorem Populated.mem_views_iff_mem_pages (h : b.Populated) {id : String} :
    id ∈ b.tabs.views ↔ id ∈ b.pagesInDisplayOrder.map BrowserPage.uuid := by
  rw [List.mem_map]
  constructor
  · intro hid
    obtain ⟨pref, hpages, hne⟩ := h.mem_views.mp hid
    obtain ⟨p, hp, rfl⟩ := Option.map_eq_some_iff.mp hpages
    have hname := h.named hp
    exact ⟨p, (mem_pagesInDisplayOrder h.named).mpr ⟨hname ▸ hp, decide_eq_false hne⟩, hname⟩
  · rintro ⟨p, hp, rfl⟩
    obtain ⟨hp, hnormal⟩ := (mem_pagesInDisplayOrder h.named).mp hp
    exact (h.mem_views_iff hp).mpr hnormal

/-- The first loop puts the tabs in the order of the pages. -/
theorem Populated.views_moveToTargets (h : b.Populated) :
    (b.pagesInDisplayOrder.zipIdx.foldl moveToTarget b.tabs).views
      = b.pagesInDisplayOrder.map BrowserPage.uuid := by
  have hperm : b.tabs.views.Perm (b.pagesInDisplayOrder.map BrowserPage.uuid) :=
    (List.perm_ext_iff_of_nodup h.nodup (nodup_pagesInDisplayOrder h.named)).mpr fun _ =>
      h.mem_views_iff_mem_pages
  have hviews : b.tabs.views = [] ++ b.tabs.views := rfl
  exact foldl_moves views_moveToTarget hviews hperm h.nodup

/-- To refresh all pages that have a tab is to refresh all pages. -/
theorem Refreshed.all {ids : Set String} (h : b.Refreshed ids)
    (hids : ∀ id ∈ b.tabs.views, id ∈ ids) : b.Refreshed Set.univ := by
  refine ⟨h.populated, fun tab p htab _ hp => ?_, fun id p _ hp hnormal => ?_⟩
  · exact h.labelled htab (hids tab.view (List.mem_map_of_mem htab)) hp
  · exact h.indexed (hids id ((h.populated.mem_views_iff hp).mpr hnormal)) hp hnormal

/-- **The repair**: whatever the order of the tabs was, after `syncTabOrder` the tab bar is in order,
and the same tab is shown. -/
theorem tabBar_syncTabOrder (h : b.Populated) (hdistinct : Distinct (positions b.slots)) :
    b.syncTabOrder.TabBar ∧ b.syncTabOrder.tabs.current = b.tabs.current := by
  have hframe := b.redisplayed_syncTabOrder.frame
  unfold syncTabOrder at hframe ⊢
  dsimp only at hframe ⊢
  have hviews := h.views_moveToTargets
  have hcurrent := current_moveToTargets b.pagesInDisplayOrder.zipIdx b.tabs
  generalize b.pagesInDisplayOrder.zipIdx.foldl moveToTarget b.tabs = w at hviews hcurrent hframe
  have hmoved : ({ b with tabs := w } : Browser).Refreshed ∅ := by
    refine ⟨⟨h.named, ?_, fun {id} => ?_⟩, fun _ _ _ hid => hid.elim, fun _ _ hid => hid.elim⟩
    · exact hviews ▸ nodup_pagesInDisplayOrder h.named
    · rw [show ({ b with tabs := w } : Browser).tabs.views = _ from hviews, ← h.mem_views_iff_mem_pages]
      exact h.mem_views
  have hsteady := steady_refreshPages b.pagesInDisplayOrder { b with tabs := w }
  have hrefreshed := hmoved.refreshPages b.pagesInDisplayOrder
  have hsorted := pairwise_pagesInDisplayOrder h.named hdistinct
  generalize b.pagesInDisplayOrder.foldl refreshPage { b with tabs := w } = b' at *
  have hviews' : b'.tabs.views = b.pagesInDisplayOrder.map BrowserPage.uuid :=
    hsteady.views.trans hviews
  refine ⟨⟨hrefreshed.all fun id hid => Or.inl (hviews' ▸ hid), ?_⟩, hsteady.current.trans hcurrent⟩
  -- the tabs are in the order of the pages, and the pages are where they were
  rw [Sorted, hviews', List.pairwise_map, hframe.slots]
  refine hsorted.imp_of_mem fun {p p'} hp hp' hlt s s' hs hs' => ?_
  have hp := slots_eq_some_iff.mpr ⟨p, ((mem_pagesInDisplayOrder h.named).mp hp).1, rfl⟩
  have hp' := slots_eq_some_iff.mpr ⟨p', ((mem_pagesInDisplayOrder h.named).mp hp').1, rfl⟩
  rw [← Option.some.inj (hp.symm.trans hs), ← Option.some.inj (hp'.symm.trans hs')]
  exact hlt

end Sync

/-! ### Operations that keep a tab bar -/

section Keeping

variable {b : Browser}

/-- Neither the current tab nor the overlay has to do with it. -/
theorem TabBar.of_same (h : b.TabBar) {b' : Browser} (hlist : b'.list = b.list)
    (htabs : b'.tabs.tabs = b.tabs.tabs) (hconfig : b'.runtimeConfig = b.runtimeConfig) :
    b'.TabBar := by
  have hviews : b'.tabs.views = b.tabs.views := congrArg (List.map QTab.view) htabs
  have hslots : b'.slots = b.slots := by
    funext id
    rw [slots, hlist, slots]
  have htabOf : b'.tabOf = b.tabOf := by
    funext p
    rw [tabOf, hconfig, tabOf]
  refine ⟨⟨⟨fun id p hp => ?_, hviews ▸ h.refreshed.populated.nodup, fun {id} => ?_⟩, ?_, ?_⟩, ?_⟩
  · exact h.refreshed.populated.named (hlist ▸ hp)
  · rw [hviews, h.refreshed.populated.mem_views, pages_eq_slots, pages_eq_slots, hslots]
  · intro tab p htab hid hp
    rw [htabOf]
    exact h.refreshed.labelled (htabs ▸ htab) hid (hlist ▸ hp)
  · intro id p hid hp hnormal
    rw [QTabWidget.indexOf_congr hviews]
    exact h.refreshed.indexed hid (hlist ▸ hp) hnormal
  · rw [Sorted, hviews, hslots]
    exact h.sorted

theorem TabBar.setCurrentIndex (h : b.TabBar) (index : ℤ) :
    ({ b with tabs := b.tabs.setCurrentIndex index } : Browser).TabBar :=
  h.of_same rfl (b.tabs.views_setCurrentIndex index) rfl

theorem TabBar.hideExtraZoneOverlay (h : b.TabBar) : b.hideExtraZoneOverlay.TabBar :=
  h.of_same rfl rfl rfl

theorem TabBar.showExtraZoneOverlay (h : b.TabBar) : b.showExtraZoneOverlay.TabBar := by
  unfold Browser.showExtraZoneOverlay
  split
  · exact h.of_same rfl rfl rfl
  · exact h

theorem TabBar.updateExtraZoneVisibility (h : b.TabBar) : b.updateExtraZoneVisibility.TabBar := by
  unfold Browser.updateExtraZoneVisibility
  split
  · exact h.hideExtraZoneOverlay
  split
  · exact h.showExtraZoneOverlay
  · exact h

/-- Writing to a page what the tab bar does not show. -/
theorem TabBar.modifyPage (h : b.TabBar) (page : String) {f : BrowserPage → BrowserPage}
    (huuid : ∀ p, (f p).uuid = p.uuid) (hslot : ∀ p, (f p).slot = p.slot)
    (htab : ∀ p, b.tabOf (f p) = b.tabOf p)
    (hindex : ∀ p, b.list[page]? = some p → isExtraPage p = false →
      (f p).index = b.tabs.indexOf page) : (b.modifyPage page f).TabBar := by
  have hpref : ∀ p, (f p).preferredPos = p.preferredPos := fun p =>
    congrArg Slot.preferredPos (hslot p)
  have hindexed := indexed_modifyPage h.refreshed.indexed hpref hindex
  refine ⟨⟨populated_modifyPage h.refreshed.populated huuid hpref,
    labelled_modifyPage h.refreshed.labelled htab,
    fun id p hid => hindexed (Set.mem_insert_of_mem page hid)⟩, ?_⟩
  rw [Sorted, (b.frame_modifyPage page hslot).slots]
  exact h.sorted

theorem TabBar.updatePageIndex (h : b.TabBar) (page : String) : (b.updatePageIndex page).TabBar := by
  refine h.modifyPage page (fun _ => rfl) (fun _ => rfl) (fun _ => rfl) fun p hp hnormal => ?_
  rw [hnormal, h.refreshed.populated.named hp]
  rfl

theorem TabBar.stopBlink (h : b.TabBar) (page : String) : (b.stopBlink page).TabBar := by
  refine TabBar.updatePageIndex ?_ page
  refine h.modifyPage page (fun _ => rfl) (fun _ => rfl) (fun _ => rfl) fun p hp hnormal => ?_
  show p.index = b.tabs.indexOf page
  exact h.refreshed.indexed (Set.mem_univ page) hp hnormal

/-- A page that gets a new address. -/
theorem TabBar.renamed (h : b.TabBar) (uuid url : String) : (b.renamed uuid url).TabBar := by
  have hframe := b.frame_renamed uuid url
  have hsteady := (b.modifyPage uuid fun p => { p with url := url }).steady_applyPageLabel uuid
  have hpopulated : (b.modifyPage uuid fun p => { p with url := url }).Populated :=
    populated_modifyPage h.refreshed.populated (fun _ => rfl) fun _ => rfl
  have hothers : (b.modifyPage uuid fun p => { p with url := url }).Refreshed {id | id ≠ uuid} := by
    refine ⟨hpopulated, fun tab p htab hid hp => ?_, fun id p hid hp => ?_⟩
    · rw [list_modifyPage, if_neg (Ne.symm hid)] at hp
      exact h.refreshed.labelled htab (Set.mem_univ _) hp
    · rw [list_modifyPage, if_neg (Ne.symm hid)] at hp
      exact h.refreshed.indexed (Set.mem_univ _) hp
  refine ⟨(hothers.applyPageLabel uuid).mono fun id _ => ?_, ?_⟩
  · exact (eq_or_ne id uuid).imp_right fun hne => hne
  · rw [Sorted, hframe.slots, show (b.renamed uuid url).tabs.views = _ from hsteady.views]
    exact h.sorted

end Keeping

/-! ### Pages come and go -/

section Members

variable {b b' : Browser}

theorem Repositioned.populated (h : Repositioned b b') (hb : b.Populated) : b'.Populated := by
  have htabs : b'.tabs = b.tabs := by rw [h.only]
  refine ⟨fun id p hp => ?_, htabs ▸ hb.nodup, fun {id} => ?_⟩
  · obtain ⟨q, hq, heq⟩ := h.page hp
    have huuid : p.uuid = q.uuid := by rw [heq]
    exact huuid.trans (hb.named hq)
  · rw [htabs, h.kept.pages]
    exact hb.mem_views

theorem named_insert (h : b.Named) (page : BrowserPage) :
    ({ b with list := b.list.insert page.uuid page } : Browser).Named := by
  intro id p hp
  rw [StdMap.getElem?_insert] at hp
  split at hp
  next heq => exact Option.some.inj hp ▸ heq
  next => exact h hp

theorem named_erase (h : b.Named) (uuid : String) :
    ({ b with list := b.list.erase uuid } : Browser).Named := by
  intro id p hp
  rw [StdMap.getElem?_erase] at hp
  split at hp
  · cases hp
  · exact h hp

theorem Populated.not_mem_views (h : b.Populated) {uuid : String} (hfresh : uuid ∉ b.list) :
    uuid ∉ b.tabs.views := by
  intro hmem
  obtain ⟨pref, hpages, -⟩ := h.mem_views.mp hmem
  obtain ⟨p, hp, -⟩ := Option.map_eq_some_iff.mp hpages
  rw [Std.ExtTreeMap.getElem?_eq_none hfresh] at hp
  cases hp

/-- A normal page comes in, with its tab. -/
theorem Populated.addTab (h : b.Populated) {page : BrowserPage} (hfresh : page.uuid ∉ b.list)
    (hnormal : page.preferredPos ≠ POS_EXTRA) :
    ({ b with list := b.list.insert page.uuid page, tabs := (b.tabs.addTab page.uuid "").1 } :
      Browser).Populated := by
  have hviews := b.tabs.views_addTab page.uuid ""
  refine ⟨named_insert h.named page, ?_, fun {id} => ?_⟩
  · rw [hviews]
    refine h.nodup.append (List.nodup_singleton _) ?_
    exact List.disjoint_singleton.mpr (h.not_mem_views hfresh)
  · rw [hviews, List.mem_append, List.mem_singleton, h.mem_views,
      show ({ b with list := b.list.insert page.uuid page, tabs := (b.tabs.addTab page.uuid "").1 } :
        Browser).holdings.pages = _ from b.pages_insert page.uuid page]
    by_cases hid : id = page.uuid
    · simp [hid, hnormal]
    · simp [hid]

/-- The tab of a normal page goes with it. -/
theorem Populated.removeTab (h : b.Populated) {uuid : String} (hmem : uuid ∈ b.tabs.views) :
    ({ b with tabs := b.tabs.removeTab (b.tabs.indexOf uuid), list := b.list.erase uuid } :
      Browser).Populated := by
  have hviews := b.tabs.views_removeTab uuid hmem
  refine ⟨named_erase h.named uuid, hviews ▸ h.nodup.erase uuid, fun {id} => ?_⟩
  rw [hviews, h.nodup.mem_erase_iff, h.mem_views,
    show ({ b with tabs := b.tabs.removeTab (b.tabs.indexOf uuid), list := b.list.erase uuid } :
      Browser).holdings.pages = _ from b.pages_erase uuid]
  by_cases hid : id = uuid
  · simp [hid]
  · simp [hid]

/-- The extra page has no tab, whether it comes in or goes. -/
theorem TabBar.of_others (h : b.TabBar) {uuid : String} (hmem : uuid ∉ b.tabs.views)
    (hnamed : b'.Named) (hothers : ∀ id, id ≠ uuid → b'.list[id]? = b.list[id]?)
    (hextra : ∀ p, b'.list[uuid]? = some p → isExtraPage p = true) (htabs : b'.tabs = b.tabs)
    (hconfig : b'.runtimeConfig = b.runtimeConfig) : b'.TabBar := by
  have hne : ∀ {id}, id ∈ b.tabs.views → id ≠ uuid := by
    rintro id hid rfl
    exact hmem hid
  have htabOf : b'.tabOf = b.tabOf := by
    funext p
    rw [tabOf, hconfig, tabOf]
  refine ⟨⟨⟨hnamed, htabs ▸ h.refreshed.populated.nodup, fun {id} => ?_⟩, ?_, ?_⟩, ?_⟩
  · rw [htabs]
    by_cases hid : id = uuid
    · subst hid
      refine ⟨fun hid => absurd hid hmem, ?_⟩
      rintro ⟨pref, hpages, hpref⟩
      obtain ⟨p, hp, rfl⟩ := Option.map_eq_some_iff.mp hpages
      exact absurd (of_decide_eq_true (hextra p hp)) hpref
    · rw [h.refreshed.populated.mem_views]
      simp only [holdings, hothers id hid]
  · intro tab p htab hid hp
    rw [htabs] at htab
    rw [htabOf]
    refine h.refreshed.labelled htab hid ?_
    rwa [hothers tab.view (hne (List.mem_map_of_mem htab))] at hp
  · intro id p hid hp hnormal
    rw [htabs]
    by_cases heq : id = uuid
    · rw [hextra p (heq ▸ hp)] at hnormal
      cases hnormal
    · exact h.refreshed.indexed hid (hothers id heq ▸ hp) hnormal
  · rw [Sorted, htabs]
    refine h.sorted.imp_of_mem fun {id id'} hid hid' hlt s s' hs hs' => hlt s s' ?_ ?_
    · rwa [slots, hothers id (hne hid)] at hs
    · rwa [slots, hothers id' (hne hid')] at hs'

end Members

/-! ### Signals -/

section Signals

variable {b b' : Browser}

/-- Where the extra page goes. -/
theorem allocateLogicalPosition_extra {page : String} {p : BrowserPage}
    (hp : b.list[page]? = some p) (hextra : p.preferredPos = POS_EXTRA) :
    b.allocateLogicalPosition page
      = some (b.modifyPage page fun q => { q with logicalPos := POS_EXTRA }, true) := by
  have hisExtra : isExtraPage p = true := decide_eq_true hextra
  have hany : ¬ (POS_EXTRA = POS_ANY) := by decide
  have hzone : ¬ (POS_EXTRA = POS_BEGINNING ∨ POS_EXTRA = POS_MIDDLE ∨ POS_EXTRA = POS_END) := by
    decide
  simp only [allocateLogicalPosition, hp, hisExtra, hextra, Bool.not_true, Bool.false_and,
    Bool.false_eq_true, if_false, if_neg hany, if_neg hzone, if_true]

/-- A new extra page. -/
theorem TabBar.newExtra (h : b.TabBar) {uuid : String} (hfresh : uuid ∉ b.list) {page : BrowserPage}
    (huuid : page.uuid = uuid) (hextra : page.preferredPos = POS_EXTRA) {b₁ : Browser}
    (hplaced : allocateLogicalPosition { b with list := b.list.insert uuid page } uuid
      = some (b₁, true)) : b₁.TabBar := by
  subst huuid
  have hpage : (b.list.insert page.uuid page)[page.uuid]? = some page := by simp
  rw [allocateLogicalPosition_extra hpage hextra] at hplaced
  cases hplaced
  refine h.of_others (h.refreshed.populated.not_mem_views hfresh)
    (named_modifyPage (named_insert h.refreshed.populated.named page) fun _ => rfl) ?_ ?_ rfl rfl
  · intro id hid
    rw [list_modifyPage, if_neg (Ne.symm hid), Std.ExtTreeMap.getElem?_insert,
      if_neg (by simpa using Ne.symm hid)]
  · intro p hp
    rw [list_modifyPage, if_pos rfl, hpage] at hp
    cases hp
    exact decide_eq_true hextra

/-- A new normal page: the tab is appended, and then finds its place. -/
theorem Populated.showNewTab {uuid : String} (hadded : ({ b with tabs := (b.tabs.addTab uuid "").1 } :
      Browser).Populated) (hdistinct : Distinct (positions b.slots)) : (b.showNewTab uuid).TabBar := by
  have hindexed : (({ b with tabs := (b.tabs.addTab uuid "").1 } : Browser).modifyPage uuid
      fun p => { p with index := (b.tabs.addTab uuid "").2 }).Populated :=
    populated_modifyPage hadded (fun _ => rfl) fun _ => rfl
  have hframe : Frame b (({ b with tabs := (b.tabs.addTab uuid "").1 } : Browser).modifyPage uuid
      fun p => { p with index := (b.tabs.addTab uuid "").2 }) := by
    refine (b.frame_tabs (b.tabs.addTab uuid "").1).trans ?_
    exact frame_modifyPage _ uuid fun _ => rfl
  have hsync := (tabBar_syncTabOrder hindexed (hframe.slots ▸ hdistinct)).1
  unfold Browser.showNewTab
  dsimp only
  generalize (({ b with tabs := (b.tabs.addTab uuid "").1 } : Browser).modifyPage uuid
    fun p => { p with index := (b.tabs.addTab uuid "").2 }).syncTabOrder = b₁ at hsync ⊢
  split
  · refine (hsync.setCurrentIndex _).modifyPage uuid (fun _ => rfl) (fun _ => rfl) (fun _ => rfl)
      fun p hp hnormal => ?_
    exact (QTabWidget.indexOf_congr
      (congrArg (List.map QTab.view) (b₁.tabs.views_setCurrentIndex _)) uuid).symm
  · exact hsync

theorem tabBar_onNewWebTab {url iconUrl uuid : String} {preferredPos flags : ℤ} {resp : CmdResponse}
    (hb : b.TabBar) (hlaid : WellLaid b) (hfresh : uuid ∉ b.list)
    (h : b.onNewWebTab url iconUrl preferredPos flags uuid = some (b', resp)) : b'.TabBar := by
  obtain ⟨L, hL⟩ := layout_onNewWebTab hlaid hfresh h
  rcases onNewWebTab_outcome h with ⟨-, rfl⟩ | ⟨-, rfl⟩ | ⟨-, -, b₁, hplaced, rfl⟩
  · exact hb
  · rw [StdMap.erase_insert hfresh]
    exact hb
  · split
    next hextra => exact (hb.newExtra hfresh rfl hextra hplaced).updateExtraZoneVisibility
    next hnormal =>
      rw [if_neg hnormal] at hL
      have hslots := (b₁.frame_showNewTab uuid).slots
      have hrepositioned := repositioned_allocateLogicalPosition hplaced
      have hfresh : (newPage url iconUrl preferredPos flags uuid).uuid ∉ b.list := hfresh
      have hadded := hb.refreshed.populated.addTab hfresh hnormal
      refine Populated.showNewTab ?_ (by rw [← hslots, hL]; exact L.distinct)
      have htabs : b₁.tabs = b.tabs := by rw [hrepositioned.only]
      rw [htabs]
      exact (hrepositioned.setTabs _).populated hadded

theorem tabBar_onNavigateTo {uuid url : String} {resp : CmdResponse} (hb : b.TabBar)
    (hlaid : WellLaid b) (h : b.onNavigateTo uuid url = some (b', resp)) : b'.TabBar := by
  obtain ⟨L, hL⟩ := layout_onNavigateTo hlaid h
  have hrenamed := hb.renamed uuid url
  rcases onNavigateTo_outcome h with ⟨-, rfl⟩ | ⟨-, page, -, hcases⟩
  · exact hb
  rcases hcases with ⟨-, rfl⟩ | ⟨-, -, b₂, allocated, hplaced, rfl⟩ | ⟨-, rfl⟩
  · exact hrenamed.updateExtraZoneVisibility
  · cases allocated with
    | true =>
      -- pages of the zone may have changed places
      have hslots := b₂.redisplayed_syncTabOrder.frame.slots
      have hpopulated := (repositioned_allocateZonePosition hplaced).populated hrenamed.refreshed.populated
      rw [if_pos rfl] at hL ⊢
      exact (tabBar_syncTabOrder hpopulated (by rw [← hslots, hL]; exact L.distinct)).1
    | false =>
      rw [allocateZonePosition_failed hplaced]
      exact hrenamed
  · exact hrenamed

/-- The extra page goes. -/
theorem TabBar.eraseExtra (h : b.TabBar) {uuid : String} {p : BrowserPage}
    (hp : b.list[uuid]? = some p) (hextra : isExtraPage p = true) :
    ({ b with list := b.list.erase uuid } : Browser).TabBar := by
  have hmem : uuid ∉ b.tabs.views := by
    rw [h.refreshed.populated.mem_views_iff hp, hextra]
    simp
  refine h.of_others hmem (named_erase h.refreshed.populated.named uuid) ?_ ?_ rfl rfl
  · intro id hid
    rw [StdMap.getElem?_erase, if_neg (Ne.symm hid)]
  · intro q hq
    rw [Std.ExtTreeMap.getElem?_erase_self] at hq
    cases hq

theorem tabBar_onKillTab (hb : b.TabBar) (hlaid : WellLaid b) (uuid : String) (forceDestroy : Bool) :
    (b.onKillTab uuid forceDestroy).1.TabBar := by
  obtain ⟨L, hL⟩ := layout_onKillTab hlaid uuid forceDestroy
  have hstopped := hb.stopBlink uuid
  unfold onKillTab at hL ⊢
  split at hL
  next => exact hb
  next page hpage =>
  obtain ⟨p, hp, hslot⟩ : ∃ p, (b.stopBlink uuid).list[uuid]? = some p ∧ p.slot = page.slot := by
    rw [← slots_eq_some_iff, (b.frame_stopBlink uuid).slots]
    exact slots_eq_some_iff.mpr ⟨page, hpage, rfl⟩
  have hsame : isExtraPage p = isExtraPage page := by
    rw [isExtraPage, isExtraPage, show p.preferredPos = page.preferredPos from
      congrArg Slot.preferredPos hslot]
  generalize b.stopBlink uuid = b₁ at hstopped hp hL ⊢
  dsimp only at hL ⊢
  split
  · exact hstopped.hideExtraZoneOverlay
  next hshown =>
  rw [if_neg hshown] at hL
  split
  next hextra => exact (hstopped.eraseExtra hp (hsame.trans hextra)).updateExtraZoneVisibility
  next hnormal =>
    rw [if_neg hnormal] at hL
    have hmem : uuid ∈ b₁.tabs.views := by
      rw [hstopped.refreshed.populated.mem_views_iff hp, hsame]
      exact Bool.not_eq_true _ ▸ hnormal
    have hindex := QTabWidget.indexOf_nonneg_iff.mpr hmem
    rw [if_pos hindex] at hL ⊢
    have hpopulated := hstopped.refreshed.populated.removeTab hmem
    have hslots := (redisplayed_syncTabOrder { b₁ with
      tabs := b₁.tabs.removeTab (b₁.tabs.indexOf uuid), list := b₁.list.erase uuid }).frame.slots
    exact (tabBar_syncTabOrder hpopulated (by rw [← hslots, hL]; exact L.distinct)).1

theorem tabBar_onActivateTab (hb : b.TabBar) (uuid : String) : (b.onActivateTab uuid).1.TabBar := by
  unfold onActivateTab
  split
  · exact hb
  next page hpage =>
  refine TabBar.stopBlink ?_ uuid
  split
  · exact hb.showExtraZoneOverlay
  split
  · refine (hb.setCurrentIndex _).modifyPage uuid (fun _ => rfl) (fun _ => rfl) (fun _ => rfl)
      fun p hp hnormal => ?_
    exact (QTabWidget.indexOf_congr
      (congrArg (List.map QTab.view) (b.tabs.views_setCurrentIndex _)) uuid).symm
  · exact hb

theorem tabBar_onBlinkTab (hb : b.TabBar) (uuid : String) : (b.onBlinkTab uuid).1.TabBar := by
  unfold onBlinkTab
  split
  · exact hb
  split
  · exact hb.showExtraZoneOverlay
  have hindexed := hb.updatePageIndex uuid
  dsimp only
  split
  · split
    · refine hindexed.modifyPage uuid (fun _ => rfl) (fun _ => rfl) (fun _ => rfl) fun p hp hnormal => ?_
      show p.index = (b.updatePageIndex uuid).tabs.indexOf uuid
      exact hindexed.refreshed.indexed (Set.mem_univ uuid) hp hnormal
    · exact hindexed
  · exact hindexed

end Signals

end Browser

/-- **The step lemma**: every signal keeps the tab bar in order. -/
theorem tabBar_exec {b b' : Browser} {signal : Browser.Signal} {resp : CmdResponse} (hb : b.TabBar)
    (hlaid : WellLaid b) (hfresh : Fresh b signal) (h : b.exec signal = some (b', resp)) :
    b'.TabBar := by
  cases signal with
  | NewWebTab url iconUrl preferredPos flags uuid =>
    exact Browser.tabBar_onNewWebTab hb hlaid hfresh h
  | NavigateTo uuid url => exact Browser.tabBar_onNavigateTo hb hlaid h
  | ActivateTab uuid =>
    obtain ⟨rfl, -⟩ := Prod.mk.inj (Option.some.inj h)
    exact Browser.tabBar_onActivateTab hb uuid
  | BlinkTab uuid =>
    obtain ⟨rfl, -⟩ := Prod.mk.inj (Option.some.inj h)
    exact Browser.tabBar_onBlinkTab hb uuid
  | KillTab uuid forceDestroy =>
    obtain ⟨rfl, -⟩ := Prod.mk.inj (Option.some.inj h)
    exact Browser.tabBar_onKillTab hb hlaid uuid forceDestroy
  | GetTabMap =>
    obtain ⟨rfl, -⟩ := Prod.mk.inj (Option.some.inj h)
    exact hb
  | GetShortcuts =>
    obtain ⟨rfl, -⟩ := Prod.mk.inj (Option.some.inj h)
    exact hb
  | NewShortcut url iconUrl preferredPos flags shortcutId =>
    rw [exec_eq_of_forShortcuts h trivial]
    exact hb.of_same rfl rfl rfl
  | KillShortcut shortcutId =>
    rw [exec_eq_of_forShortcuts h trivial]
    exact hb.of_same rfl rfl rfl

/-- The pages are laid out, and there is a tab for each of them. -/
structure Displayed (b : Browser) : Prop where
  laid : WellLaid b
  tabBar : b.TabBar

theorem displayed_exec {b b' : Browser} {signal : Browser.Signal} {resp : CmdResponse}
    (hb : Displayed b) (hfresh : Fresh b signal) (h : b.exec signal = some (b', resp)) :
    Displayed b' :=
  ⟨layout_exec hb.laid hfresh h, tabBar_exec hb.tabBar hb.laid hfresh h⟩

theorem Displayed.applySettings {b : Browser} (h : Displayed b) (settings : SettingsState) :
    Displayed (b.ApplySettings settings) :=
  ⟨h.laid, h.tabBar.of_same rfl rfl rfl⟩

/-! ### What is shown -/

/-- The tab bar shows these pages, which are all normal pages there are, by their positions. -/
structure TabBarShows (config : RuntimeConfig) (b : Browser) (pages : List BrowserPage) : Prop where
  live : ∀ p ∈ pages, b.list[p.uuid]? = some p ∧ isExtraPage p = false
  all : ∀ (id : String) (p : BrowserPage), b.list[id]? = some p → isExtraPage p = false →
    p ∈ pages ∧ p.uuid = id
  ascending : pages.Pairwise fun p p' => p.logicalPos < p'.logicalPos
  tabs : b.tabs.tabs = pages.map fun p =>
    { view := p.uuid
      text := if config.tabBarShowLabels then toString (p.logicalPos + 1) else ""
      toolTip := if config.tabBarShowTooltips then p.url else "" }
  index : ∀ (i : ℕ) (p : BrowserPage), pages[i]? = some p → p.index = i

namespace Browser

section Shows

variable {b : Browser}

/-- Both are sorted by the same positions, and have the same members. -/
theorem TabBar.views_eq (h : b.TabBar) (hdistinct : Distinct (positions b.slots)) :
    b.tabs.views = b.pagesInDisplayOrder.map BrowserPage.uuid := by
  have hpopulated := h.refreshed.populated
  have hslot : ∀ {p}, p ∈ b.pagesInDisplayOrder → b.slots p.uuid = some p.slot := fun hp =>
    slots_eq_some_iff.mpr ⟨_, ((mem_pagesInDisplayOrder hpopulated.named).mp hp).1, rfl⟩
  have hperm : b.tabs.views.Perm (b.pagesInDisplayOrder.map BrowserPage.uuid) :=
    (List.perm_ext_iff_of_nodup hpopulated.nodup (nodup_pagesInDisplayOrder hpopulated.named)).mpr
      fun _ => hpopulated.mem_views_iff_mem_pages
  refine List.Perm.eq_of_pairwise ?_ h.sorted ?_ hperm
  · intro id id' hid hid' hlt hlt'
    obtain ⟨p, hp, rfl⟩ := List.mem_map.mp (hpopulated.mem_views_iff_mem_pages.mp hid)
    obtain ⟨p', hp', rfl⟩ := List.mem_map.mp hid'
    have hbefore := hlt _ _ (hslot hp) (hslot hp')
    have hafter := hlt' _ _ (hslot hp') (hslot hp)
    omega
  · rw [List.pairwise_map]
    refine (pairwise_pagesInDisplayOrder hpopulated.named hdistinct).imp_of_mem ?_
    intro p p' hp hp' hlt s s' hs hs'
    rw [← Option.some.inj ((hslot hp).symm.trans hs), ← Option.some.inj ((hslot hp').symm.trans hs')]
    exact hlt

theorem TabBar.shows (h : b.TabBar) (hdistinct : Distinct (positions b.slots)) :
    TabBarShows b.runtimeConfig b b.pagesInDisplayOrder := by
  have hnamed := h.refreshed.populated.named
  have hviews := h.views_eq hdistinct
  have hmem : ∀ {p}, p ∈ b.pagesInDisplayOrder ↔ b.list[p.uuid]? = some p ∧ isExtraPage p = false :=
    mem_pagesInDisplayOrder hnamed
  -- the tab and the page at one place belong together
  have hview : ∀ i : ℕ, b.tabs.tabs[i]?.map QTab.view = b.pagesInDisplayOrder[i]?.map BrowserPage.uuid := by
    intro i
    rw [← List.getElem?_map, ← List.getElem?_map, ← hviews, QTabWidget.views]
  refine ⟨fun p hp => hmem.mp hp, fun id p hp hnormal => ?_,
    pairwise_pagesInDisplayOrder hnamed hdistinct, ?_, fun i p hp => ?_⟩
  · have huuid := hnamed hp
    exact ⟨hmem.mpr ⟨huuid ▸ hp, hnormal⟩, huuid⟩
  · refine List.ext_getElem? fun i => ?_
    have hi := hview i
    rw [List.getElem?_map]
    cases htab : b.tabs.tabs[i]? with
    | none =>
      rw [htab, Option.map_none, eq_comm, Option.map_eq_none_iff] at hi
      rw [hi, Option.map_none]
    | some tab =>
      rw [htab, Option.map_some, eq_comm, Option.map_eq_some_iff] at hi
      obtain ⟨p, hp, huuid⟩ := hi
      have hpage := (hmem.mp (List.mem_of_getElem? hp)).1
      rw [hp, Option.map_some, h.refreshed.labelled (List.mem_of_getElem? htab) (Set.mem_univ _)
        (huuid ▸ hpage)]
      rfl
  · obtain ⟨hpage, hnormal⟩ := hmem.mp (List.mem_of_getElem? hp)
    have hplace : b.tabs.views[i]? = some p.uuid := by
      rw [hviews, List.getElem?_map, hp, Option.map_some]
    obtain ⟨hlt, hget⟩ := List.getElem?_eq_some_iff.mp hplace
    rw [h.refreshed.indexed (Set.mem_univ _) hpage hnormal, QTabWidget.indexOf_eq,
      if_pos (hget ▸ List.getElem_mem hlt), ← hget, h.refreshed.populated.nodup.idxOf_getElem i hlt]

end Shows

end Browser

/-! ### Runs -/

theorem Browser.tabBar_new (runtimeConfig : RuntimeConfig) : (Browser.new runtimeConfig).TabBar := by
  refine ⟨⟨⟨fun id p hp => ?_, List.nodup_nil, fun {id} => ?_⟩, ?_, ?_⟩, List.Pairwise.nil⟩
  · simp [Browser.new] at hp
  · simp [Browser.new, QTabWidget.views, Browser.holdings]
  · intro tab p htab
    simp [Browser.new] at htab
  · intro id p _ hp
    simp [Browser.new] at hp

/-- The invariant: the pages are laid out, and the tab bar shows them. -/
theorem tabBar_of_steps {runtimeConfig : RuntimeConfig} {signals : List Browser.Signal} {b : Browser}
    (h : Run.Steps BrowserStep (Browser.new runtimeConfig) signals b) :
    WellLaid b ∧ b.TabBar ∧ b.runtimeConfig = runtimeConfig := by
  refine h.invariant (fun b => WellLaid b ∧ b.TabBar ∧ b.runtimeConfig = runtimeConfig) ?_
    ⟨wellLaid_of_run (.nil _), Browser.tabBar_new runtimeConfig, rfl⟩
  rintro b signal b' ⟨hlaid, hb, hconfig⟩ ⟨hfresh, resp, hexec⟩
  exact ⟨layout_exec hlaid hfresh hexec, tabBar_exec hb hlaid hfresh hexec,
    (config_exec hexec).2.trans hconfig⟩

/-- **The tab bar shows the pages in every run**: all normal pages, each once, in strictly ascending
order, with their numbers and their addresses, and every page knows its place. -/
theorem tabBar_of_run {runtimeConfig : RuntimeConfig} {signals : List Browser.Signal} {b : Browser}
    (h : Run.Steps BrowserStep (Browser.new runtimeConfig) signals b) :
    ∃ pages, TabBarShows runtimeConfig b pages := by
  obtain ⟨⟨L, hL⟩, hb, hconfig⟩ := tabBar_of_steps h
  have hdistinct : Distinct (positions b.slots) := hL ▸ L.distinct
  exact ⟨b.pagesInDisplayOrder, hconfig ▸ hb.shows hdistinct⟩

/-- Three pages of the first zone in reverse order of their addresses, one of them renamed so that the
order turns round, and a page in the middle of them killed. -/
theorem tabBar_of_run_turned : ∃ b,
    Run.Steps BrowserStep (Browser.new {})
      [.NewWebTab "z" "" POS_BEGINNING 0 "a", .NewWebTab "y" "" POS_BEGINNING 0 "b",
        .NewWebTab "x" "" POS_BEGINNING 0 "c", .NavigateTo "a" "w", .KillTab "c" true] b ∧
      b.tabs.views = ["a", "b"] ∧ ∃ pages, TabBarShows {} b pages := by
  have hrun : Run.Steps BrowserStep (Browser.new {})
      [.NewWebTab "z" "" POS_BEGINNING 0 "a", .NewWebTab "y" "" POS_BEGINNING 0 "b",
        .NewWebTab "x" "" POS_BEGINNING 0 "c", .NavigateTo "a" "w", .KillTab "c" true] _ :=
    .cons ⟨(by decide : ¬ _ ∈ _), _, rfl⟩ (.cons ⟨(by decide : ¬ _ ∈ _), _, rfl⟩
      (.cons ⟨(by decide : ¬ _ ∈ _), _, rfl⟩ (.cons ⟨trivial, _, rfl⟩ (.cons ⟨trivial, _, rfl⟩ (.nil _)))))
  exact ⟨_, hrun, by decide, tabBar_of_run hrun⟩

end OpenMadt.Gui
