import OpenMadt.TabBar

/-!
# Blinking tabs

A tab blinks to ask for attention, so the tab that is shown should not blink.  `onBlinkTab` looks at
the current widget before it starts a timer, and `onActivateTab` stops the timer of the tab it shows;
but a click shows a tab as well, and so does the removal of the tab that was shown before.

* `DisplayStep` — the signals, clicks on tabs, and the blink timers.
* `Calm` — the tab that is shown does not blink.
* `Attentive` — the steps that keep this, exactly: `calm_iff_attentive` for every run.
-/

namespace OpenMadt.Gui

namespace QTabWidget

/-- The view that is shown if the tab of this one goes: the one to the right, or else to the left. -/
def neighbour (w : QTabWidget) (view : String) : Option String :=
  let i := w.views.idxOf view
  if i + 1 < w.views.length then w.views[i + 1]?
  else if i = 0 then none
  else w.views[i - 1]?

theorem current_removeTab {w : QTabWidget} {view : String} (h : view ∈ w.views) :
    (w.removeTab (w.indexOf view)).current
      = if w.current = some view then w.neighbour view else w.current := by
  obtain ⟨tab, htab, hview⟩ := getElem?_indexOf h
  have hlt := List.idxOf_lt_length_iff.mpr h
  have hlen : w.views.length = w.tabs.length := List.length_map _
  have hindex : (w.indexOf view).toNat = w.views.idxOf view := by
    rw [indexOf_eq, if_pos h, Int.toNat_natCast]
  rw [removeTab, htab, hindex, Option.map_some, hview, eq_comm]
  dsimp only
  split
  next hcurrent =>
    rw [if_pos hcurrent.symm, neighbour, ← List.getElem?_map, ← List.eraseIdx_map,
      List.length_eraseIdx_of_lt (hlen ▸ hlt), ← hlen]
    rw [show w.tabs.map QTab.view = w.views from rfl]
    generalize w.views.idxOf view = i at hlt
    split
    next hright => rw [Nat.min_eq_left (by omega), List.getElem?_eraseIdx, if_neg (by omega)]
    next hright =>
      split
      next hfirst =>
        rw [eq_comm, List.getElem?_eq_none_iff, List.length_eraseIdx_of_lt hlt]
        omega
      next hleft =>
        rw [show min i (w.views.length - 1 - 1) = i - 1 by omega, List.getElem?_eraseIdx,
          if_pos (by omega)]
  next hother => rw [if_neg (Ne.symm hother)]

theorem current_setCurrentIndex (w : QTabWidget) (index : ℤ) :
    (w.setCurrentIndex index).current = ((w.tabs[index.toNat]?.map QTab.view).or w.current) := by
  unfold setCurrentIndex
  split
  next tab htab => rw [htab, Option.map_some, Option.some_or]
  next hnone => rw [hnone, Option.map_none, Option.none_or]

end QTabWidget

/-! ### What happens to the display -/

/-- A signal, a click on a tab, or a blink timer that fires. -/
inductive DisplayEvent where
  | signal (s : Browser.Signal)
  | click (index : ℕ)
  | blinkTimer (uuid : String)

/-- Whether the timer of a page is running; none without the page. -/
def Browser.blinking (b : Browser) (id : String) : Option Bool :=
  b.list[id]?.map BrowserPage.blinkTimer

/-- What they do: a click makes its tab the current one, and only a running timer fires. -/
inductive DisplayStep : Browser → DisplayEvent → Browser → Prop where
  | signal {b b' : Browser} {s : Browser.Signal} (h : BrowserStep b s b') :
      DisplayStep b (.signal s) b'
  | click (b : Browser) {index : ℕ} (h : index < b.tabs.tabs.length) :
      DisplayStep b (.click index) { b with tabs := b.tabs.setCurrentIndex index }
  | blinkTimer (b : Browser) {uuid : String} (hrunning : b.blinking uuid = some true) :
      DisplayStep b (.blinkTimer uuid) (b.onBlinkTimer uuid)

namespace Browser

/-- The tab that is shown does not blink. -/
def Calm (b : Browser) : Prop := ∀ id, b.tabs.current = some id → b.blinking id ≠ some true

/-- The event does not bring a blinking tab to the front: no click on such a tab, and no kill of the
current tab next to it. -/
def Attentive (b : Browser) : DisplayEvent → Prop
  | .click index => ∀ id, b.tabs.views[index]? = some id → b.blinking id ≠ some true
  | .signal (.KillTab uuid _) => uuid ∈ b.tabs.views → b.tabs.current = some uuid →
      ∀ id, b.tabs.neighbour uuid = some id → b.blinking id ≠ some true
  | _ => True

/-! ### Operations that start or stop no timer -/

/-- The same tab is shown, and the same tabs blink. -/
structure SameBlink (b b' : Browser) : Prop where
  current : b'.tabs.current = b.tabs.current
  blinking : b'.blinking = b.blinking

theorem SameBlink.refl (b : Browser) : SameBlink b b := ⟨rfl, rfl⟩

theorem SameBlink.trans {b b' b'' : Browser} (h : SameBlink b b') (h' : SameBlink b' b'') :
    SameBlink b b'' :=
  ⟨h'.current.trans h.current, h'.blinking.trans h.blinking⟩

theorem SameBlink.calm_iff {b b' : Browser} (h : SameBlink b b') : b'.Calm ↔ b.Calm := by
  rw [Calm, Calm, h.current, h.blinking]

theorem blinking_modifyPage (b : Browser) (page id : String) (f : BrowserPage → BrowserPage) :
    (b.modifyPage page f).blinking id
      = if page = id then b.list[id]?.map fun p => (f p).blinkTimer else b.blinking id := by
  rw [blinking, list_modifyPage]
  split
  · rw [Option.map_map]
    rfl
  · rfl

theorem sameBlink_modifyPage (b : Browser) (page : String) {f : BrowserPage → BrowserPage}
    (hf : ∀ p, (f p).blinkTimer = p.blinkTimer) : SameBlink b (b.modifyPage page f) := by
  refine ⟨rfl, funext fun id => ?_⟩
  rw [blinking_modifyPage]
  split
  · rw [blinking]
    exact congrArg (Option.map · b.list[id]?) (funext hf)
  · rfl

theorem Redisplayed.sameBlink {b b' : Browser} (h : Redisplayed b b') : SameBlink b b' :=
  ⟨h.current, funext fun id => h.map (fun _ => rfl) id⟩

theorem Repositioned.sameBlink {b b' : Browser} (h : Repositioned b b') : SameBlink b b' := by
  refine ⟨by rw [h.only], funext fun id => ?_⟩
  have hpage := congrArg (Option.map BrowserPage.blinkTimer) (h.pages id)
  rw [Option.map_map, Option.map_map] at hpage
  exact hpage

theorem sameBlink_renamed (b : Browser) (uuid url : String) : SameBlink b (b.renamed uuid url) := by
  refine SameBlink.trans ?_ (redisplayed_applyPageLabel _ uuid).sameBlink
  exact b.sameBlink_modifyPage uuid fun _ => rfl

/-! ### Operations that start or stop one -/

theorem blinking_stopBlink (b : Browser) (uuid id : String) :
    (b.stopBlink uuid).blinking id
      = if uuid = id then b.list[id]?.map fun _ => false else b.blinking id := by
  have hindexed := (redisplayed_updatePageIndex
    (b.modifyPage uuid fun p => { p with blinkTimer := false, blinkVisible := true }) uuid).sameBlink
  exact (congrFun hindexed.blinking id).trans (b.blinking_modifyPage uuid id _)

theorem current_stopBlink (b : Browser) (uuid : String) :
    (b.stopBlink uuid).tabs.current = b.tabs.current := rfl

/-- Without the blinking of one page, the tab that is shown is that page or as calm as before. -/
theorem Calm.of_others {b b' : Browser} (h : b.Calm) (uuid : String)
    (hcurrent : b'.tabs.current = some uuid ∨ b'.tabs.current = b.tabs.current)
    (hself : b'.blinking uuid ≠ some true)
    (hothers : ∀ id, id ≠ uuid → b'.blinking id = b.blinking id) : b'.Calm := by
  intro id hid
  by_cases heq : id = uuid
  · rw [heq]
    exact hself
  · rw [hothers id heq]
    rcases hcurrent with hcurrent | hcurrent
    · exact absurd (Option.some.inj (hid.symm.trans hcurrent)) heq
    · exact h id (hcurrent ▸ hid)

/-- The tab that a page gets is shown if it is the first one. -/
theorem showNewTab_blink (b : Browser) (uuid : String) :
    (b.showNewTab uuid).blinking = b.blinking ∧
      ((b.showNewTab uuid).tabs.current = some uuid
        ∨ (b.showNewTab uuid).tabs.current = b.tabs.current) := by
  have hindexed := sameBlink_modifyPage { b with tabs := (b.tabs.addTab uuid "").1 } uuid
    (f := fun p => { p with index := (b.tabs.addTab uuid "").2 }) fun _ => rfl
  have hsynced := hindexed.trans (redisplayed_syncTabOrder _).sameBlink
  unfold showNewTab
  dsimp only
  generalize (({ b with tabs := (b.tabs.addTab uuid "").1 } : Browser).modifyPage uuid
    fun p => { p with index := (b.tabs.addTab uuid "").2 }).syncTabOrder = b₁ at hsynced ⊢
  split
  next hfirst =>
    have hshown := sameBlink_modifyPage { b₁ with
      tabs := b₁.tabs.setCurrentIndex (b₁.tabs.indexOf uuid) } uuid
      (f := fun p => { p with index := b₁.tabs.indexOf uuid }) fun _ => rfl
    obtain ⟨tab, htab, hview⟩ :=
      QTabWidget.getElem?_indexOf (QTabWidget.indexOf_nonneg_iff.mp hfirst.2)
    refine ⟨hshown.blinking.trans hsynced.blinking, Or.inl (hshown.current.trans ?_)⟩
    rw [QTabWidget.current_setCurrentIndex, htab, Option.map_some, hview, Option.some_or]
  next =>
    refine ⟨hsynced.blinking, ?_⟩
    rw [hsynced.current]
    show (if b.tabs.tabs = [] then some uuid else b.tabs.current) = _ ∨
      (if b.tabs.tabs = [] then some uuid else b.tabs.current) = _
    split
    · exact Or.inl rfl
    · exact Or.inr rfl

theorem blinking_insert (b : Browser) (page : BrowserPage) :
    ({ b with list := b.list.insert page.uuid page } : Browser).blinking
      = Function.update b.blinking page.uuid (some page.blinkTimer) := by
  funext id
  simp only [blinking, StdMap.getElem?_insert, Function.update_apply]
  by_cases h : page.uuid = id
  · simp [h]
  · simp [h, Ne.symm h]

/-- A page that comes in does not blink. -/
theorem calm_onNewWebTab {b b' : Browser} {url iconUrl uuid : String} {preferredPos flags : ℤ}
    {resp : CmdResponse} (hb : b.Calm) (hfresh : uuid ∉ b.list)
    (h : b.onNewWebTab url iconUrl preferredPos flags uuid = some (b', resp)) : b'.Calm := by
  rcases onNewWebTab_outcome h with ⟨-, rfl⟩ | ⟨-, rfl⟩ | ⟨-, -, b₁, hplaced, rfl⟩
  · exact hb
  · rw [StdMap.erase_insert hfresh]
    exact hb
  have hmoved := (repositioned_allocateLogicalPosition hplaced).sameBlink
  have hblinking : b₁.blinking = Function.update b.blinking uuid (some false) :=
    hmoved.blinking.trans (b.blinking_insert (newPage url iconUrl preferredPos flags uuid))
  have hcalm : ∀ {b' : Browser}, b'.blinking = b₁.blinking →
      (b'.tabs.current = some uuid ∨ b'.tabs.current = b₁.tabs.current) → b'.Calm := by
    intro b' hsame hcurrent
    rw [hmoved.current] at hcurrent
    refine hb.of_others uuid hcurrent ?_ fun id hid => ?_
    · rw [hsame, hblinking, Function.update_self]
      simp
    · rw [hsame, hblinking, Function.update_of_ne hid]
  split
  · have hextra := b₁.redisplayed_updateExtraZoneVisibility
    exact hcalm hextra.sameBlink.blinking (Or.inr hextra.current)
  · obtain ⟨hsame, hcurrent⟩ := b₁.showNewTab_blink uuid
    exact hcalm hsame hcurrent

theorem sameBlink_onNavigateTo {b b' : Browser} {uuid url : String} {resp : CmdResponse}
    (h : b.onNavigateTo uuid url = some (b', resp)) : SameBlink b b' := by
  have hrenamed := b.sameBlink_renamed uuid url
  rcases onNavigateTo_outcome h with ⟨-, rfl⟩ | ⟨-, page, -, hcases⟩
  · exact SameBlink.refl _
  rcases hcases with ⟨-, rfl⟩ | ⟨-, -, b₂, allocated, hplaced, rfl⟩ | ⟨-, rfl⟩
  · exact hrenamed.trans (redisplayed_updateExtraZoneVisibility _).sameBlink
  · have hplaced := hrenamed.trans (repositioned_allocateZonePosition hplaced).sameBlink
    split
    · exact hplaced.trans (redisplayed_syncTabOrder b₂).sameBlink
    · exact hplaced
  · exact hrenamed

/-- The tab that is activated stops blinking. -/
theorem calm_onActivateTab {b : Browser} (hb : b.Calm) (uuid : String) :
    (b.onActivateTab uuid).1.Calm := by
  unfold onActivateTab
  split
  · exact hb
  next page hpage =>
  dsimp only
  have hcalm : ∀ {b₁ : Browser}, b₁.blinking = b.blinking →
      (b₁.tabs.current = some uuid ∨ b₁.tabs.current = b.tabs.current) → (b₁.stopBlink uuid).Calm := by
    intro b₁ hsame hcurrent
    refine hb.of_others uuid hcurrent ?_ fun id hid => ?_
    · rw [blinking_stopBlink, if_pos rfl]
      simp
    · rw [blinking_stopBlink, if_neg (Ne.symm hid), hsame]
  split
  · have hextra := b.redisplayed_showExtraZoneOverlay
    exact hcalm hextra.sameBlink.blinking (Or.inr hextra.current)
  split
  next hplace =>
    have hshown := sameBlink_modifyPage { b with
      tabs := b.tabs.setCurrentIndex (b.tabs.indexOf uuid) } uuid
      (f := fun p => { p with index := b.tabs.indexOf uuid }) fun _ => rfl
    obtain ⟨tab, htab, hview⟩ :=
      QTabWidget.getElem?_indexOf (QTabWidget.indexOf_nonneg_iff.mp hplace)
    refine hcalm hshown.blinking (Or.inl (hshown.current.trans ?_))
    rw [QTabWidget.current_setCurrentIndex, htab, Option.map_some, hview, Option.some_or]
  · exact hcalm rfl (Or.inr rfl)

/-- Only a tab that is not shown begins to blink. -/
theorem calm_onBlinkTab {b : Browser} (hb : b.Calm) (uuid : String) : (b.onBlinkTab uuid).1.Calm := by
  unfold onBlinkTab
  split
  · exact hb
  split
  · exact b.redisplayed_showExtraZoneOverlay.sameBlink.calm_iff.mpr hb
  have hindexed := (b.redisplayed_updatePageIndex uuid).sameBlink
  have hcalm := hindexed.calm_iff.mpr hb
  dsimp only
  split
  · split
    next hother =>
      intro id hid
      have hne : uuid ≠ id := by
        rintro rfl
        exact hother hid
      rw [blinking_modifyPage, if_neg hne]
      exact hcalm id hid
    · exact hcalm
  · exact hcalm

/-- A blink timer that fires may stop, but does not start. -/
theorem calm_onBlinkTimer {b : Browser} (hb : b.Calm) (uuid : String) : (b.onBlinkTimer uuid).Calm := by
  have hstop : ∀ {b₁ : Browser}, SameBlink b b₁ →
      (b₁.modifyPage uuid fun p => { p with blinkTimer := false }).Calm := by
    intro b₁ hsame
    refine hb.of_others uuid (Or.inr hsame.current) ?_ fun id hid => ?_
    · rw [blinking_modifyPage, if_pos rfl]
      simp
    · rw [blinking_modifyPage, if_neg (Ne.symm hid), hsame.blinking]
  have hindexed := (b.redisplayed_updatePageIndex uuid).sameBlink
  unfold onBlinkTimer
  split
  · exact hb
  split
  · exact hstop (SameBlink.refl b)
  dsimp only
  split
  · exact hstop hindexed
  · have hvisible := sameBlink_modifyPage (b.updatePageIndex uuid) uuid
      (f := fun p => { p with blinkVisible := !p.blinkVisible }) fun _ => rfl
    exact (hindexed.trans hvisible).calm_iff.mpr hb

/-! ### A kill -/

theorem Calm.stopBlink {b : Browser} (hb : b.Calm) (uuid : String) : (b.stopBlink uuid).Calm := by
  refine hb.of_others uuid (Or.inr (b.current_stopBlink uuid)) ?_ fun id hid => ?_
  · rw [blinking_stopBlink, if_pos rfl]
    simp
  · rw [blinking_stopBlink, if_neg (Ne.symm hid)]

theorem blinking_erase (b : Browser) (uuid : String) :
    ({ b with list := b.list.erase uuid } : Browser).blinking = Function.update b.blinking uuid none := by
  funext id
  simp only [blinking, StdMap.getElem?_erase, Function.update_apply]
  by_cases h : uuid = id
  · simp [h]
  · simp [h, Ne.symm h]

theorem Calm.erase {b : Browser} (hb : b.Calm) (uuid : String) :
    ({ b with list := b.list.erase uuid } : Browser).Calm := by
  refine hb.of_others uuid (Or.inr rfl) ?_ fun id hid => ?_
  · rw [blinking_erase, Function.update_self]
    simp
  · rw [blinking_erase, Function.update_of_ne hid]

/-- If a page goes, its neighbour may take over. -/
theorem calm_removed_iff {b b' : Browser} (hb : b.Calm) {uuid : String}
    (hcurrent : b'.tabs.current
      = if b.tabs.current = some uuid then b.tabs.neighbour uuid else b.tabs.current)
    (hblinking : b'.blinking = Function.update b.blinking uuid none) :
    b'.Calm ↔ (b.tabs.current = some uuid →
      ∀ id, b.tabs.neighbour uuid = some id → b.blinking id ≠ some true) := by
  rw [Calm, hcurrent, hblinking]
  split
  next hshown =>
    rw [forall_prop_of_true hshown]
    refine forall₂_congr fun id _ => ?_
    by_cases hid : id = uuid
    · have hcalm := hb uuid hshown
      rw [hid, Function.update_self]
      exact iff_of_true (by simp) hcalm
    · rw [Function.update_of_ne hid]
  next hother =>
    refine ⟨fun _ hshown => absurd hshown hother, fun _ id hid => ?_⟩
    have hne : id ≠ uuid := by
      rintro rfl
      exact hother hid
    rw [Function.update_of_ne hne]
    exact hb id hid

/-- **The kill of a tab** leaves a calm display exactly if its neighbour does not take over blinking. -/
theorem calm_onKillTab_iff {b : Browser} (hb : b.Calm) (hpopulated : b.Populated) (uuid : String)
    (forceDestroy : Bool) :
    (b.onKillTab uuid forceDestroy).1.Calm
      ↔ b.Attentive (.signal (.KillTab uuid forceDestroy)) := by
  have hstopped := hb.stopBlink uuid
  unfold onKillTab
  split
  next hnone =>
    refine ⟨fun _ hmem => absurd hmem (hpopulated.not_mem_views fun hlive => ?_), fun _ => hb⟩
    rw [← Std.ExtTreeMap.isSome_getElem?_iff_mem, hnone] at hlive
    cases hlive
  next page hpage =>
  have hmem := hpopulated.mem_views_iff hpage
  dsimp only
  split
  next hhidden =>
    have hextra : isExtraPage page = true := by
      rw [Bool.and_eq_true] at hhidden
      exact hhidden.1
    refine ⟨fun _ hview => ?_, fun _ => (redisplayed_extraFrame _ false).sameBlink.calm_iff.mpr hstopped⟩
    rw [hmem, hextra] at hview
    cases hview
  split
  next hextra =>
    refine ⟨fun _ hview => ?_, fun _ => (redisplayed_updateExtraZoneVisibility _).sameBlink.calm_iff.mpr
      (hstopped.erase uuid)⟩
    rw [hmem, hextra] at hview
    cases hview
  next hnormal =>
    have hview := hmem.mpr (Bool.not_eq_true _ ▸ hnormal)
    have hplace : (b.stopBlink uuid).tabs.indexOf uuid ≥ 0 := QTabWidget.indexOf_nonneg_iff.mpr hview
    rw [if_pos hplace, (redisplayed_syncTabOrder _).sameBlink.calm_iff]
    have hblinking : ({ b.stopBlink uuid with
        tabs := (b.stopBlink uuid).tabs.removeTab ((b.stopBlink uuid).tabs.indexOf uuid)
        list := (b.stopBlink uuid).list.erase uuid } : Browser).blinking
        = Function.update b.blinking uuid none := by
      refine ((b.stopBlink uuid).blinking_erase uuid).trans (funext fun id => ?_)
      by_cases hid : id = uuid
      · rw [hid, Function.update_self, Function.update_self]
      · rw [Function.update_of_ne hid, Function.update_of_ne hid, blinking_stopBlink,
          if_neg (Ne.symm hid)]
    rw [calm_removed_iff hb (QTabWidget.current_removeTab hview) hblinking]
    exact ⟨fun h _ => h, fun h => h hview⟩

/-! ### The tab bar during clicks and blinks -/

theorem frame_onBlinkTimer (b : Browser) (uuid : String) : Frame b (b.onBlinkTimer uuid) := by
  unfold onBlinkTimer
  split
  · exact Frame.refl b
  split
  · exact b.frame_modifyPage uuid fun _ => rfl
  dsimp only
  split
  · exact (b.redisplayed_updatePageIndex uuid).frame.trans (frame_modifyPage _ uuid fun _ => rfl)
  · exact (b.redisplayed_updatePageIndex uuid).frame.trans (frame_modifyPage _ uuid fun _ => rfl)

theorem tabBar_onBlinkTimer {b : Browser} (hb : b.TabBar) (uuid : String) :
    (b.onBlinkTimer uuid).TabBar := by
  have htimer : ∀ {b : Browser} {f : BrowserPage → BrowserPage}, b.TabBar →
      (∀ p, (f p).uuid = p.uuid) → (∀ p, (f p).slot = p.slot) → (∀ p, b.tabOf (f p) = b.tabOf p) →
      (∀ p, (f p).index = p.index) → (b.modifyPage uuid f).TabBar := by
    intro b f hb huuid hslot htab hindex
    refine hb.modifyPage uuid huuid hslot htab fun p hp hnormal => ?_
    rw [hindex]
    exact hb.refreshed.indexed (Set.mem_univ uuid) hp hnormal
  have hindexed := hb.updatePageIndex uuid
  unfold onBlinkTimer
  split
  · exact hb
  split
  · exact htimer hb (fun _ => rfl) (fun _ => rfl) (fun _ => rfl) fun _ => rfl
  dsimp only
  split
  · exact htimer hindexed (fun _ => rfl) (fun _ => rfl) (fun _ => rfl) fun _ => rfl
  · exact htimer hindexed (fun _ => rfl) (fun _ => rfl) (fun _ => rfl) fun _ => rfl

end Browser

theorem displayed_step {b b' : Browser} {event : DisplayEvent} (hb : Displayed b)
    (h : DisplayStep b event b') : Displayed b' := by
  cases h with
  | signal hstep =>
    obtain ⟨hfresh, resp, hexec⟩ := hstep
    exact displayed_exec hb hfresh hexec
  | click hindex => exact ⟨hb.laid.frame (b.frame_tabs _), hb.tabBar.setCurrentIndex _⟩
  | blinkTimer hrunning =>
    exact ⟨hb.laid.frame (b.frame_onBlinkTimer _), b.tabBar_onBlinkTimer hb.tabBar _⟩

/-- A click shows its tab. -/
theorem calm_click_iff {b : Browser} {index : ℕ} (hindex : index < b.tabs.tabs.length) :
    ({ b with tabs := b.tabs.setCurrentIndex index } : Browser).Calm ↔ b.Attentive (.click index) := by
  have hcurrent := b.tabs.current_setCurrentIndex index
  obtain ⟨tab, htab⟩ : ∃ tab, b.tabs.tabs[index]? = some tab :=
    ⟨_, List.getElem?_eq_getElem hindex⟩
  rw [Int.toNat_natCast, htab, Option.map_some, Option.some_or] at hcurrent
  have hview : b.tabs.views[index]? = some tab.view := by
    rw [QTabWidget.views, List.getElem?_map, htab, Option.map_some]
  rw [Browser.Calm, hcurrent, Browser.Attentive, hview]
  exact Iff.rfl

/-- **The step lemma**: attentive steps, and no others, keep the display calm. -/
theorem calm_step_iff {b b' : Browser} {event : DisplayEvent} (hb : Displayed b) (hcalm : b.Calm)
    (h : DisplayStep b event b') : b'.Calm ↔ b.Attentive event := by
  cases h with
  | click hindex => exact calm_click_iff hindex
  | blinkTimer hrunning => exact iff_of_true (Browser.calm_onBlinkTimer hcalm _) trivial
  | @signal _ s hstep =>
    obtain ⟨hfresh, resp, hexec⟩ := hstep
    cases s with
    | NewWebTab url iconUrl preferredPos flags uuid =>
      exact iff_of_true (Browser.calm_onNewWebTab hcalm hfresh hexec) trivial
    | NavigateTo uuid url =>
      exact iff_of_true ((Browser.sameBlink_onNavigateTo hexec).calm_iff.mpr hcalm) trivial
    | ActivateTab uuid =>
      obtain rfl : (b.onActivateTab uuid).1 = b' := congrArg Prod.fst (Option.some.inj hexec)
      exact iff_of_true (Browser.calm_onActivateTab hcalm uuid) trivial
    | BlinkTab uuid =>
      obtain rfl : (b.onBlinkTab uuid).1 = b' := congrArg Prod.fst (Option.some.inj hexec)
      exact iff_of_true (Browser.calm_onBlinkTab hcalm uuid) trivial
    | KillTab uuid forceDestroy =>
      obtain rfl : (b.onKillTab uuid forceDestroy).1 = b' :=
        congrArg Prod.fst (Option.some.inj hexec)
      exact Browser.calm_onKillTab_iff hcalm hb.tabBar.refreshed.populated uuid forceDestroy
    | GetTabMap =>
      obtain rfl : b = b' := congrArg Prod.fst (Option.some.inj hexec)
      exact iff_of_true hcalm trivial
    | GetShortcuts =>
      obtain rfl : b = b' := congrArg Prod.fst (Option.some.inj hexec)
      exact iff_of_true hcalm trivial
    | NewShortcut url iconUrl preferredPos flags shortcutId =>
      rw [exec_eq_of_forShortcuts hexec trivial]
      exact iff_of_true hcalm trivial
    | KillShortcut shortcutId =>
      rw [exec_eq_of_forShortcuts hexec trivial]
      exact iff_of_true hcalm trivial

/-- **When the tab that is shown never blinks**: in a run from the start, with any signals, clicks and
blink timers, every state is calm exactly if every step is attentive. -/
theorem calm_iff_attentive {runtimeConfig : RuntimeConfig}
    {trace : List (Browser × DisplayEvent × Browser)} {b : Browser}
    (hrun : Run.Steps (Run.Traced DisplayStep) (Browser.new runtimeConfig) trace b) :
    (∀ entry ∈ trace, entry.2.2.Calm) ↔ ∀ entry ∈ trace, entry.1.Attentive entry.2.1 := by
  have hstart : (Browser.new runtimeConfig).Calm := by
    intro id hid
    cases hid
  have hsteps := hrun.forall_iff (I := fun b => Displayed b ∧ b.Calm)
    (fun hb h => calm_step_iff hb.1 hb.2 h) (fun hb h hcalm => ⟨displayed_step hb.1 h, hcalm⟩)
    ⟨⟨wellLaid_of_run (.nil _), Browser.tabBar_new runtimeConfig⟩, hstart⟩
  exact hsteps

/-- Two tabs, of which the second blinks. -/
def blinkingPair : List DisplayEvent :=
  [.signal (.NewWebTab "u" "" POS_ANY 0 "a"), .signal (.NewWebTab "v" "" POS_ANY 0 "b"),
    .signal (.BlinkTab "b")]

/-- The second tab is activated, and only after that it is clicked. -/
theorem calm_of_activated : ∃ trace b,
    Run.Steps (Run.Traced DisplayStep) (Browser.new {}) trace b
      ∧ trace.map (fun entry => entry.2.1) = blinkingPair ++
        [.blinkTimer "b", .signal (.ActivateTab "b"), .signal (.BlinkTab "a"), .click 1]
      ∧ b.blinking "a" = some true ∧ ∀ entry ∈ trace, entry.2.2.Calm := by
  have hrun : Run.Steps (Run.Traced DisplayStep) (Browser.new {})
      [(_, .signal (.NewWebTab "u" "" POS_ANY 0 "a"), _), (_, .signal (.NewWebTab "v" "" POS_ANY 0 "b"), _),
        (_, .signal (.BlinkTab "b"), _), (_, .blinkTimer "b", _), (_, .signal (.ActivateTab "b"), _),
        (_, .signal (.BlinkTab "a"), _), (_, .click 1, _)] _ :=
    .cons ⟨rfl, rfl, .signal ⟨(by decide : ¬ _ ∈ _), _, rfl⟩⟩
      (.cons ⟨rfl, rfl, .signal ⟨(by decide : ¬ _ ∈ _), _, rfl⟩⟩
        (.cons ⟨rfl, rfl, .signal ⟨trivial, _, rfl⟩⟩ (.cons ⟨rfl, rfl, .blinkTimer _ (by decide)⟩
          (.cons ⟨rfl, rfl, .signal ⟨trivial, _, rfl⟩⟩ (.cons ⟨rfl, rfl, .signal ⟨trivial, _, rfl⟩⟩
            (.cons ⟨rfl, rfl, .click _ (by decide)⟩ (.nil _)))))))
  refine ⟨_, _, hrun, rfl, by decide, (calm_iff_attentive hrun).mpr ?_⟩
  iterate 6 refine List.forall_mem_cons.mpr ⟨trivial, ?_⟩
  refine List.forall_mem_cons.mpr ⟨fun id hid => ?_, fun _ hentry => absurd hentry List.not_mem_nil⟩
  have hclicked : some "b" = some id := Eq.trans (by decide) hid
  rw [← Option.some.inj hclicked]
  decide

/-- **A click on a blinking tab** shows it, and it goes on blinking; so does the neighbour of a current
tab that is killed. -/
theorem not_calm_of_click :
    (∃ b, Run.Steps DisplayStep (Browser.new {}) (blinkingPair ++ [.click 1]) b ∧ ¬ b.Calm)
      ∧ ∃ b, Run.Steps DisplayStep (Browser.new {})
        (blinkingPair ++ [.signal (.KillTab "a" true)]) b ∧ ¬ b.Calm := by
  constructor
  · refine ⟨_, .cons (.signal ⟨(by decide : ¬ _ ∈ _), _, rfl⟩)
      (.cons (.signal ⟨(by decide : ¬ _ ∈ _), _, rfl⟩)
        (.cons (.signal ⟨trivial, _, rfl⟩) (.cons (.click _ (by decide)) (.nil _)))), fun hcalm => ?_⟩
    exact hcalm "b" (by decide) (by decide)
  · refine ⟨_, .cons (.signal ⟨(by decide : ¬ _ ∈ _), _, rfl⟩)
      (.cons (.signal ⟨(by decide : ¬ _ ∈ _), _, rfl⟩)
        (.cons (.signal ⟨trivial, _, rfl⟩) (.cons (.signal ⟨trivial, _, rfl⟩) (.nil _)))),
      fun hcalm => ?_⟩
    exact hcalm "b" (by decide) (by decide)

end OpenMadt.Gui
