import OpenMadt.Desktop

/-!
# The overlay of the extra zone

The extra page has no tab: it lies in an overlay, which comes up when the page is activated or asked to
blink, and goes when the page is killed, whether for good or not.  New pages, new addresses and new sizes
leave it as it is, although `updateExtraZoneVisibility` and `showExtraZoneOverlay` are called there too.

* `AsksForExtra`, `DismissesExtra` — the signals that bring the overlay up, and those that take it away.
* `extraFrame_exec` — what a signal does to the overlay, from its state before.
* `extraZone_of_run` — in every run the overlay is up exactly if it was asked for and not dismissed since;
  then there is an extra page, and the overlay lies where the configuration puts it in the present size.
-/

namespace OpenMadt.Gui

namespace Browser

/-! ### Which signals have to do with the overlay -/

/-- The signal activates the extra page, or makes it blink. -/
def AsksForExtra (b : Browser) : Signal → Prop
  | .ActivateTab uuid | .BlinkTab uuid => b.holdings.pages uuid = some POS_EXTRA
  | _ => False

/-- The signal kills the extra page, by force or not. -/
def DismissesExtra (b : Browser) : Signal → Prop
  | .KillTab uuid _ => b.holdings.pages uuid = some POS_EXTRA
  | _ => False

/-- The overlay is only up if there is an extra page. -/
def ExtraShown (b : Browser) : Prop := b.extraFrameVisible = true → b.hasExtraPage = true

theorem hasExtraPage_congr {b b' : Browser} (h : b'.holdings.pages = b.holdings.pages) :
    b'.hasExtraPage = b.hasExtraPage := by
  rw [Bool.eq_iff_iff, hasExtraPage_iff, hasExtraPage_iff, h]

theorem extra_of_page {b : Browser} {uuid : String} {page : BrowserPage} (hpage : b.list[uuid]? = some page) :
    b.holdings.pages uuid = some POS_EXTRA ↔ isExtraPage page = true := by
  have hpages : b.holdings.pages uuid = some page.preferredPos := by simp [holdings, hpage]
  rw [hpages, Option.some.injEq, isExtraPage, decide_eq_true_eq]

/-- A page is only lost to a kill, and an extra page only to a kill that dismisses it. -/
theorem hasExtraPage_exec {b b' : Browser} {signal : Signal} {resp : CmdResponse} (hfresh : Fresh b signal)
    (h : b.exec signal = some (b', resp)) (hextra : b.hasExtraPage = true)
    (hkept : ¬ b.DismissesExtra signal) : b'.hasExtraPage = true := by
  obtain ⟨id, hid⟩ := hasExtraPage_iff.mp hextra
  refine hasExtraPage_iff.mpr ⟨id, ?_⟩
  rw [holdings_exec hfresh h]
  generalize resp.result = result
  cases signal with
  | NewWebTab url iconUrl preferredPos flags uuid =>
    have hne : id ≠ uuid := by
      rintro rfl
      obtain ⟨p, hp, -⟩ := Option.map_eq_some_iff.mp hid
      rw [Std.ExtTreeMap.getElem?_eq_none hfresh] at hp
      cases hp
    cases result with
    | OK => exact (Function.update_of_ne hne _ _).trans hid
    | _ => exact hid
  | KillTab uuid forceDestroy =>
    have hne : id ≠ uuid := by
      rintro rfl
      exact hkept hid
    cases result with
    | OK =>
      rw [Holdings.after]
      split
      · exact hid
      · exact (Function.update_of_ne hne _ _).trans hid
    | _ => exact hid
  | _ => cases result <;> exact hid

/-! ### What leaves the overlay alone -/

theorem extraFrameVisible_applyPageLabel (b : Browser) (page : String) :
    (b.applyPageLabel page).extraFrameVisible = b.extraFrameVisible := by
  unfold applyPageLabel
  dsimp only
  split
  · rfl
  split <;> rfl

theorem extraFrameVisible_syncTabOrder (b : Browser) :
    b.syncTabOrder.extraFrameVisible = b.extraFrameVisible := by
  have hpages : ∀ (pages : List BrowserPage) (b : Browser),
      (pages.foldl refreshPage b).extraFrameVisible = b.extraFrameVisible := by
    intro pages
    induction pages with
    | nil => exact fun b => rfl
    | cons page pages ih =>
      intro b
      rw [List.foldl_cons, ih, refreshPage]
      split <;> exact extraFrameVisible_applyPageLabel _ page.uuid
  exact hpages _ _

theorem extraFrameVisible_showNewTab (b : Browser) (uuid : String) :
    (b.showNewTab uuid).extraFrameVisible = b.extraFrameVisible := by
  unfold showNewTab
  dsimp only
  split <;> exact extraFrameVisible_syncTabOrder _

theorem extraFrameVisible_showExtraZoneOverlay {b : Browser} (h : b.hasExtraPage = true) :
    b.showExtraZoneOverlay.extraFrameVisible = true := by
  rw [showExtraZoneOverlay, if_pos h]

/-- `updateExtraZoneVisibility` hides the overlay if the page is gone, and leaves it alone otherwise. -/
theorem extraFrameVisible_updateExtraZoneVisibility (b : Browser) :
    b.updateExtraZoneVisibility.extraFrameVisible = (b.hasExtraPage && b.extraFrameVisible) := by
  unfold updateExtraZoneVisibility
  cases hextra : b.hasExtraPage with
  | false => rfl
  | true =>
    cases hvisible : b.extraFrameVisible with
    | false => exact hvisible
    | true => exact extraFrameVisible_showExtraZoneOverlay hextra

/-- A page with an address that is new to it has its preference. -/
theorem hasExtraPage_renamed (b : Browser) (uuid url : String) :
    (b.renamed uuid url).hasExtraPage = b.hasExtraPage :=
  hasExtraPage_congr (b.frame_renamed uuid url).kept.pages

/-! ### One signal -/

section Signals

variable {b b' : Browser}

theorem extraFrame_onNewWebTab {url iconUrl uuid : String} {preferredPos flags : ℤ} {resp : CmdResponse}
    (hb : b.ExtraShown) (h : b.onNewWebTab url iconUrl preferredPos flags uuid = some (b', resp)) :
    b'.extraFrameVisible = b.extraFrameVisible := by
  rcases onNewWebTab_outcome h with ⟨-, rfl⟩ | ⟨-, rfl⟩ | ⟨-, hextra, b₁, hplaced, rfl⟩
  · rfl
  · rfl
  have hsame : b₁.extraFrameVisible = b.extraFrameVisible := by
    rw [(repositioned_allocateLogicalPosition hplaced).only]
  split
  next hpos =>
    -- the overlay cannot have been up for another page
    have hdown : b.extraFrameVisible = false := by
      by_contra hup
      exact Bool.false_ne_true ((hextra hpos).symm.trans (hb (Bool.not_eq_false _ ▸ hup)))
    rw [extraFrameVisible_updateExtraZoneVisibility, hsame, hdown, Bool.and_false]
  next => rw [extraFrameVisible_showNewTab, hsame]

theorem extraFrame_onNavigateTo {uuid url : String} {resp : CmdResponse} (hb : b.ExtraShown)
    (h : b.onNavigateTo uuid url = some (b', resp)) : b'.extraFrameVisible = b.extraFrameVisible := by
  have hrenamed : (b.renamed uuid url).extraFrameVisible = b.extraFrameVisible :=
    extraFrameVisible_applyPageLabel _ uuid
  rcases onNavigateTo_outcome h with ⟨-, rfl⟩ | ⟨-, page, -, hcases⟩
  · rfl
  rcases hcases with ⟨-, rfl⟩ | ⟨-, -, b₂, allocated, hplaced, rfl⟩ | ⟨-, rfl⟩
  · rw [extraFrameVisible_updateExtraZoneVisibility, hasExtraPage_renamed, hrenamed]
    cases hvisible : b.extraFrameVisible with
    | false => exact Bool.and_false _
    | true => rw [hb hvisible, Bool.and_true]
  · have hsame : b₂.extraFrameVisible = b.extraFrameVisible := by
      rw [(repositioned_allocateZonePosition hplaced).only, hrenamed]
    split
    · rw [extraFrameVisible_syncTabOrder, hsame]
    · exact hsame
  · exact hrenamed

theorem extraFrame_onActivateTab (b : Browser) (uuid : String) :
    (b.onActivateTab uuid).1.extraFrameVisible = true
      ↔ b.holdings.pages uuid = some POS_EXTRA ∨ b.extraFrameVisible = true := by
  unfold onActivateTab
  cases hpage : b.list[uuid]? with
  | none => simp [holdings, hpage]
  | some page =>
    rw [extra_of_page hpage]
    dsimp only
    split
    next hextra =>
      have hup := extraFrameVisible_showExtraZoneOverlay
        (hasExtraPage_iff.mpr ⟨uuid, (extra_of_page hpage).mpr hextra⟩)
      exact iff_of_true hup (Or.inl hextra)
    next hnormal =>
      rw [or_iff_right hnormal]
      split <;> exact Iff.rfl

theorem extraFrame_onBlinkTab (b : Browser) (uuid : String) :
    (b.onBlinkTab uuid).1.extraFrameVisible = true
      ↔ b.holdings.pages uuid = some POS_EXTRA ∨ b.extraFrameVisible = true := by
  unfold onBlinkTab
  cases hpage : b.list[uuid]? with
  | none => simp [holdings, hpage]
  | some page =>
    rw [extra_of_page hpage]
    dsimp only
    split
    next hextra =>
      have hup := extraFrameVisible_showExtraZoneOverlay
        (hasExtraPage_iff.mpr ⟨uuid, (extra_of_page hpage).mpr hextra⟩)
      exact iff_of_true hup (Or.inl hextra)
    next hnormal =>
      rw [or_iff_right hnormal]
      split
      · split <;> exact Iff.rfl
      · exact Iff.rfl

/-- With the one extra page the overlay goes. -/
theorem extraFrame_onKillTab (hone : OneExtra b.slots) (uuid : String) (forceDestroy : Bool) :
    (b.onKillTab uuid forceDestroy).1.extraFrameVisible = true
      ↔ b.extraFrameVisible = true ∧ b.holdings.pages uuid ≠ some POS_EXTRA := by
  have hstopped : (b.stopBlink uuid).extraFrameVisible = b.extraFrameVisible := rfl
  unfold onKillTab
  cases hpage : b.list[uuid]? with
  | none => simp [holdings, hpage]
  | some page =>
    rw [Ne, extra_of_page hpage]
    dsimp only
    split
    next hhidden =>
      rw [Bool.and_eq_true] at hhidden
      exact iff_of_false Bool.false_ne_true fun hup => hup.2 hhidden.1
    split
    next hextra =>
      have hgone : ({ b.stopBlink uuid with list := (b.stopBlink uuid).list.erase uuid } :
          Browser).hasExtraPage = false := by
        by_contra hother
        obtain ⟨id, hid⟩ := hasExtraPage_iff.mp (Bool.not_eq_false _ ▸ hother)
        rw [pages_erase, (b.frame_stopBlink uuid).kept.pages] at hid
        have hne : id ≠ uuid := by
          rintro rfl
          rw [Function.update_self] at hid
          cases hid
        rw [Function.update_of_ne hne] at hid
        obtain ⟨p, hp, hpref⟩ := Option.map_eq_some_iff.mp hid
        exact hne (hone (slots_eq_some_iff.mpr ⟨p, hp, rfl⟩) (slots_eq_some_iff.mpr ⟨page, hpage, rfl⟩)
          hpref (of_decide_eq_true hextra))
      rw [extraFrameVisible_updateExtraZoneVisibility, hgone]
      exact iff_of_false Bool.false_ne_true fun hup => hup.2 hextra
    next hnormal =>
      rw [extraFrameVisible_syncTabOrder]
      exact (and_iff_left hnormal).symm

end Signals

/-- **What a signal does to the overlay.** -/
theorem extraFrame_exec {b b' : Browser} {signal : Signal} {resp : CmdResponse}
    (hone : OneExtra b.slots) (hb : b.ExtraShown) (h : b.exec signal = some (b', resp)) :
    b'.extraFrameVisible = true
      ↔ b.AsksForExtra signal ∨ b.extraFrameVisible = true ∧ ¬ b.DismissesExtra signal := by
  have hsame : b'.extraFrameVisible = b.extraFrameVisible →
      (b'.extraFrameVisible = true ↔ False ∨ b.extraFrameVisible = true ∧ ¬ False) := by
    intro hsame
    rw [hsame, false_or, not_false_eq_true, and_true]
  have hresult : ∀ {r : Browser × CmdResponse}, some r = some (b', resp) → r.1 = b' := fun heq =>
    congrArg Prod.fst (Option.some.inj heq)
  cases signal with
  | NewWebTab url iconUrl preferredPos flags uuid => exact hsame (extraFrame_onNewWebTab hb h)
  | NavigateTo uuid url => exact hsame (extraFrame_onNavigateTo hb h)
  | ActivateTab uuid =>
    rw [← hresult h, extraFrame_onActivateTab]
    simp [AsksForExtra, DismissesExtra]
  | BlinkTab uuid =>
    rw [← hresult h, extraFrame_onBlinkTab]
    simp [AsksForExtra, DismissesExtra]
  | KillTab uuid forceDestroy =>
    rw [← hresult h, extraFrame_onKillTab hone]
    simp [AsksForExtra, DismissesExtra]
  | GetTabMap => exact hsame (by rw [← hresult h])
  | GetShortcuts => exact hsame (by rw [← hresult h])
  | NewShortcut url iconUrl preferredPos flags shortcutId =>
    exact hsame (by rw [exec_eq_of_forShortcuts h trivial])
  | KillShortcut shortcutId => exact hsame (by rw [exec_eq_of_forShortcuts h trivial])

/-- A blink timer that fires leaves the overlay alone. -/
theorem extraFrameVisible_onBlinkTimer (b : Browser) (uuid : String) :
    (b.onBlinkTimer uuid).extraFrameVisible = b.extraFrameVisible := by
  unfold onBlinkTimer
  split
  · rfl
  split
  · rfl
  dsimp only
  split <;> rfl

end Browser

/-! ### Where the overlay lies -/

namespace Desktop

variable {Pixmap : Type}

/-- The overlay lies where the configuration puts it in the present size. -/
def ExtraPlaced (config : RuntimeConfig) (d : Desktop Pixmap) : Prop :=
  d.extraGeometry = extraZoneGeometry config d.width d.height

section Geometry

variable {config : RuntimeConfig} {d d' : Desktop Pixmap}

theorem ExtraPlaced.of_same (h : d.ExtraPlaced config) (hgeometry : d'.extraGeometry = d.extraGeometry)
    (hwidth : d'.width = d.width) (hheight : d'.height = d.height) : d'.ExtraPlaced config := by
  rw [ExtraPlaced, hgeometry, hwidth, hheight]
  exact h

theorem ExtraPlaced.of_onlyTabs (h : d.ExtraPlaced config) (honly : OnlyTabs d d') : d'.ExtraPlaced config :=
  h.of_same honly.extraGeometry honly.width honly.height

theorem ExtraPlaced.of_samePages (h : d.ExtraPlaced config) (hsame : SamePages d d') :
    d'.ExtraPlaced config :=
  h.of_same hsame.extraGeometry hsame.width hsame.height

theorem ExtraPlaced.showExtraZoneOverlay (h : d.ExtraPlaced config)
    (hconfig : d.browser.runtimeConfig = config) : d.showExtraZoneOverlay.ExtraPlaced config := by
  subst hconfig
  unfold Desktop.showExtraZoneOverlay
  split
  · exact h
  · rfl

theorem ExtraPlaced.updateExtraZoneVisibility (h : d.ExtraPlaced config)
    (hconfig : d.browser.runtimeConfig = config) : d.updateExtraZoneVisibility.ExtraPlaced config := by
  unfold Desktop.updateExtraZoneVisibility
  split
  · exact h.of_same rfl rfl rfl
  split
  · exact h.showExtraZoneOverlay hconfig
  · subst hconfig
    rfl

theorem ExtraPlaced.onPageIcon (h : d.ExtraPlaced config) (uuid : String) (icon : QIcon Pixmap) :
    (d.onPageIcon uuid icon).ExtraPlaced config := by
  unfold Desktop.onPageIcon
  split
  · exact h
  dsimp only
  split
  · refine ExtraPlaced.of_onlyTabs ?_ (onlyTabs_applyPageIcon _ uuid)
    exact h.of_same rfl rfl rfl
  · exact h.of_same rfl rfl rfl

theorem ExtraPlaced.onNewWebTab (h : d.ExtraPlaced config) (hconfig : d.browser.runtimeConfig = config)
    {url iconUrl uuid : String} {preferredPos flags : ℤ} {loaded : Option (QIcon Pixmap)}
    {resp : CmdResponse} (hnew : d.onNewWebTab url iconUrl preferredPos flags uuid loaded = some (d', resp)) :
    d'.ExtraPlaced config := by
  rcases onNewWebTab_outcome hnew with ⟨rfl, -⟩ | ⟨b, placed, hplaced, shown, -, hcases⟩
  · exact h
  have hsame : ({ d.untouched uuid with browser := b } : Desktop Pixmap).ExtraPlaced config :=
    h.of_same rfl rfl rfl
  have hconfig : b.runtimeConfig = config := by
    rw [(Browser.repositioned_allocateLogicalPosition hplaced).only]
    exact hconfig
  rcases hcases with ⟨-, rfl, rfl⟩ | ⟨-, rfl, hshown⟩
  · exact h.of_same rfl rfl rfl
  have hcame : shown.ExtraPlaced config := by
    rw [hshown]
    split
    · exact hsame.updateExtraZoneVisibility hconfig
    · exact hsame.of_onlyTabs (onlyTabs_showNewTab _ uuid)
  unfold loadIcon
  split
  · exact hcame
  split
  · exact hcame.onPageIcon uuid _
  · exact hcame

theorem ExtraPlaced.onActivateTab (h : d.ExtraPlaced config) (hconfig : d.browser.runtimeConfig = config)
    (uuid : String) : (d.onActivateTab uuid).1.ExtraPlaced config := by
  unfold Desktop.onActivateTab
  split
  · exact h
  dsimp only
  refine ExtraPlaced.of_onlyTabs ?_ (onlyTabs_stopBlink _ uuid)
  split
  · exact h.showExtraZoneOverlay hconfig
  split
  · exact h.of_same rfl rfl rfl
  · exact h

theorem ExtraPlaced.onNavigateTo (h : d.ExtraPlaced config) (hconfig : d.browser.runtimeConfig = config)
    {uuid url : String} {resp : CmdResponse} (hnavigate : d.onNavigateTo uuid url = some (d', resp)) :
    d'.ExtraPlaced config := by
  have hrenamed : ({ d with browser := d.browser.renamed uuid url } : Desktop Pixmap).ExtraPlaced config :=
    h.of_same rfl rfl rfl
  unfold Desktop.onNavigateTo at hnavigate
  split at hnavigate
  · cases hnavigate
    exact h
  dsimp only at hnavigate
  split at hnavigate
  · cases hnavigate
    refine hrenamed.updateExtraZoneVisibility ?_
    exact (d.browser.frame_renamed uuid url).runtimeConfig.trans hconfig
  split at hnavigate
  · split at hnavigate
    · cases hnavigate
    · cases hnavigate
      split
      · refine ExtraPlaced.of_onlyTabs ?_ (onlyTabs_syncTabOrder _)
        exact h.of_same rfl rfl rfl
      · exact h.of_same rfl rfl rfl
  · cases hnavigate
    exact hrenamed

theorem ExtraPlaced.onKillTab (h : d.ExtraPlaced config) (hconfig : d.browser.runtimeConfig = config)
    (uuid : String) (forceDestroy : Bool) : (d.onKillTab uuid forceDestroy).1.ExtraPlaced config := by
  have hstopped := h.of_onlyTabs (d.onlyTabs_stopBlink uuid)
  have hframe : (d.stopBlink uuid).browser.runtimeConfig = config := by
    rw [browser_stopBlink]
    exact (d.browser.frame_stopBlink uuid).runtimeConfig.trans hconfig
  unfold Desktop.onKillTab
  split
  · exact h
  dsimp only
  split
  · exact hstopped.of_same rfl rfl rfl
  split
  · exact ExtraPlaced.updateExtraZoneVisibility (hstopped.of_same rfl rfl rfl) hframe
  · refine ExtraPlaced.of_onlyTabs ?_ (onlyTabs_syncTabOrder _)
    exact hstopped.of_same rfl rfl rfl

theorem ExtraPlaced.onBlinkTab (h : d.ExtraPlaced config) (hconfig : d.browser.runtimeConfig = config)
    (uuid : String) : (d.onBlinkTab uuid).1.ExtraPlaced config := by
  unfold Desktop.onBlinkTab
  split
  · exact h
  split
  · exact h.showExtraZoneOverlay hconfig
  dsimp only
  split
  · split <;> exact h.of_same rfl rfl rfl
  · exact h.of_same rfl rfl rfl

theorem ExtraPlaced.exec (h : d.ExtraPlaced config) (hconfig : d.browser.runtimeConfig = config)
    {loaded : Option (QIcon Pixmap)} {signal : Browser.Signal} {resp : CmdResponse}
    (hexec : d.exec loaded signal = some (d', resp)) : d'.ExtraPlaced config := by
  have hresult : ∀ {r : Desktop Pixmap × CmdResponse}, some r = some (d', resp) → r.1 = d' := fun heq =>
    congrArg Prod.fst (Option.some.inj heq)
  cases signal with
  | NewWebTab url iconUrl preferredPos flags uuid => exact h.onNewWebTab hconfig hexec
  | NavigateTo uuid url => exact h.onNavigateTo hconfig hexec
  | ActivateTab uuid => exact hresult hexec ▸ h.onActivateTab hconfig uuid
  | KillTab uuid forceDestroy => exact hresult hexec ▸ h.onKillTab hconfig uuid forceDestroy
  | BlinkTab uuid => exact hresult hexec ▸ h.onBlinkTab hconfig uuid
  | NewShortcut url iconUrl preferredPos flags shortcutId =>
    exact hresult hexec ▸ h.of_samePages
      (d.onlyShortcuts_onNewShortcut url iconUrl preferredPos flags shortcutId loaded).pages
  | KillShortcut shortcutId =>
    exact hresult hexec ▸ h.of_samePages (d.onlyShortcuts_onKillShortcut shortcutId).pages
  | GetTabMap => exact hresult hexec ▸ h
  | GetShortcuts => exact hresult hexec ▸ h

/-- Whatever happens, and in whatever size, the overlay lies where it should. -/
theorem ExtraPlaced.step (h : d.ExtraPlaced config) (hconfig : d.browser.runtimeConfig = config)
    {event : DesktopEvent Pixmap} (hstep : DesktopStep d event d') : d'.ExtraPlaced config := by
  cases hstep with
  | signal hfresh hexec => exact h.exec hconfig hexec
  | resize width height =>
    subst hconfig
    rfl
  | blinkTimer hrunning => exact h.of_onlyTabs (d.onlyTabs_onBlinkTimer _)
  | pageIcon uuid icon => exact h.onPageIcon uuid icon
  | shortcutIcon shortcutId icon => exact h.of_samePages (d.onlyShortcuts_onShortcutIcon shortcutId icon).pages
  | ApplySettings settings => exact h.of_samePages (d.onlyDocuments_ApplySettings settings).pages
  | launcherClicked => exact h.of_samePages d.onlyShortcuts_toggleShortcutPopup.pages
  | buttonClicked => exact h.of_samePages (d.onlyShortcuts_activateShortcut _).pages
  | loadFinished ok => exact h.of_samePages (d.onlyDocuments_onLoadFinished _ ok).pages
  | click hindex => exact h.of_same rfl rfl rfl
  | popupClosed => exact h.of_same rfl rfl rfl
  | newDocument hlive => exact h.of_same rfl rfl rfl

end Geometry

/-! ### Runs -/

/-- The step asks for the extra page. -/
def AsksForExtra (entry : Desktop Pixmap × DesktopEvent Pixmap × Desktop Pixmap) : Prop :=
  match entry.2.1 with
  | .signal s _ => entry.1.browser.AsksForExtra s
  | _ => False

/-- The step kills the extra page, by force or not. -/
def DismissesExtra (entry : Desktop Pixmap × DesktopEvent Pixmap × Desktop Pixmap) : Prop :=
  match entry.2.1 with
  | .signal s _ => entry.1.browser.DismissesExtra s
  | _ => False

end Desktop

variable {Pixmap : Type}

theorem Browser.not_dismisses_of_asks {b : Browser} {signal : Browser.Signal} (h : b.AsksForExtra signal) :
    b.hasExtraPage = true ∧ ¬ b.DismissesExtra signal := by
  cases signal with
  | ActivateTab uuid => exact ⟨hasExtraPage_iff.mpr ⟨uuid, h⟩, fun hdismissed => hdismissed⟩
  | BlinkTab uuid => exact ⟨hasExtraPage_iff.mpr ⟨uuid, h⟩, fun hdismissed => hdismissed⟩
  | _ => exact h.elim

/-- **The step lemma** for the overlay. -/
theorem DesktopStep.extraFrame {d d' : Desktop Pixmap} {event : DesktopEvent Pixmap}
    (h : DesktopStep d event d') (hlaid : WellLaid d.browser) (hd : d.browser.ExtraShown) :
    (d'.browser.extraFrameVisible = true ↔ Desktop.AsksForExtra (d, event, d')
        ∨ d.browser.extraFrameVisible = true ∧ ¬ Desktop.DismissesExtra (d, event, d'))
      ∧ d'.browser.ExtraShown := by
  have hsame : ∀ {b : Browser}, b.extraFrameVisible = d.browser.extraFrameVisible →
      b.holdings.pages = d.browser.holdings.pages →
      (b.extraFrameVisible = true ↔ False ∨ d.browser.extraFrameVisible = true ∧ ¬ False)
        ∧ b.ExtraShown := by
    intro b hvisible hpages
    refine ⟨by rw [hvisible, false_or, not_false_eq_true, and_true], fun hup => ?_⟩
    rw [Browser.hasExtraPage_congr hpages]
    exact hd (hvisible ▸ hup)
  have hindexed : ∀ (b : Browser) (uuid : String),
      (b.updatePageIndex uuid).holdings.pages = b.holdings.pages := fun b uuid =>
    (b.redisplayed_updatePageIndex uuid).frame.kept.pages
  have hpages : ∀ {d' : Desktop Pixmap}, Desktop.SamePages d d' →
      d'.browser.extraFrameVisible = d.browser.extraFrameVisible
        ∧ d'.browser.holdings.pages = d.browser.holdings.pages := by
    intro d' h
    rw [h.browser]
    exact ⟨rfl, rfl⟩
  cases h with
  | @signal _ signal loaded _ hfresh hexec =>
    obtain ⟨b, hb, hbrowser⟩ := Desktop.browser_exec hexec
    obtain ⟨L, hL⟩ := hlaid
    have hframe := Browser.extraFrame_exec (hL ▸ L.oneExtra) hd hb
    have hshown : b.ExtraShown := by
      intro hup
      rcases hframe.mp hup with hasks | ⟨hbefore, hkept⟩
      · obtain ⟨hextra, hkept⟩ := Browser.not_dismisses_of_asks hasks
        exact Browser.hasExtraPage_exec hfresh hb hextra hkept
      · exact Browser.hasExtraPage_exec hfresh hb (hd hbefore) hkept
    rcases hbrowser with hbrowser | ⟨uuid, hbrowser⟩
    · rw [hbrowser]
      exact ⟨hframe, hshown⟩
    · rw [hbrowser]
      refine ⟨hframe, fun hup => ?_⟩
      rw [Browser.hasExtraPage_congr (hindexed b uuid)]
      exact hshown hup
  | blinkTimer hrunning =>
    rw [d.browser_onBlinkTimer]
    exact hsame (d.browser.extraFrameVisible_onBlinkTimer _) (d.browser.frame_onBlinkTimer _).kept.pages
  | pageIcon uuid icon =>
    rcases d.browser_onPageIcon uuid icon with heq | heq
    · rw [heq]
      exact hsame rfl rfl
    · rw [heq]
      exact hsame rfl (hindexed d.browser uuid)
  | shortcutIcon shortcutId icon =>
    obtain ⟨hvisible, hheld⟩ := hpages (d.onlyShortcuts_onShortcutIcon shortcutId icon).pages
    exact hsame hvisible hheld
  | ApplySettings settings =>
    obtain ⟨hvisible, hheld⟩ := hpages (d.onlyDocuments_ApplySettings settings).pages
    exact hsame hvisible hheld
  | launcherClicked =>
    obtain ⟨hvisible, hheld⟩ := hpages d.onlyShortcuts_toggleShortcutPopup.pages
    exact hsame hvisible hheld
  | buttonClicked =>
    obtain ⟨hvisible, hheld⟩ := hpages (d.onlyShortcuts_activateShortcut _).pages
    exact hsame hvisible hheld
  | loadFinished ok =>
    obtain ⟨hvisible, hheld⟩ := hpages (d.onlyDocuments_onLoadFinished _ ok).pages
    exact hsame hvisible hheld
  | click hindex => exact hsame rfl rfl
  | resize => exact hsame rfl rfl
  | popupClosed => exact hsame rfl rfl
  | newDocument => exact hsame rfl rfl

/-- **The overlay, in every run**: it is up exactly if the extra page was asked for and has not been killed
since, and then there is an extra page; wherever the sizes go, it lies where the configuration wants it. -/
theorem extraZone_of_run {runtimeConfig : RuntimeConfig} {width height : ℤ}
    {trace : List (Desktop Pixmap × DesktopEvent Pixmap × Desktop Pixmap)} {d : Desktop Pixmap}
    (h : Run.Steps (Run.Traced DesktopStep) (Desktop.new runtimeConfig width height) trace d) :
    (d.browser.extraFrameVisible = true
        ↔ Run.Since Desktop.AsksForExtra Desktop.DismissesExtra trace)
      ∧ (d.browser.extraFrameVisible = true → d.browser.hasExtraPage = true)
      ∧ d.extraGeometry = extraZoneGeometry runtimeConfig d.width d.height := by
  have hrun := h.history (fun trace d => Displayed d.browser ∧ d.browser.ExtraShown
      ∧ d.browser.runtimeConfig = runtimeConfig ∧ d.ExtraPlaced runtimeConfig
      ∧ (d.browser.extraFrameVisible = true
        ↔ Run.Since Desktop.AsksForExtra Desktop.DismissesExtra trace)) ?_ ?_
  · exact ⟨hrun.2.2.2.2, hrun.2.1, hrun.2.2.2.1⟩
  · rintro before d₁ ⟨d₀, event, d₂⟩ d₃ - ⟨hdisplayed, hshown, hconfig, hplaced, hsince⟩ ⟨rfl, rfl, hstep⟩
    obtain ⟨hframe, hshown'⟩ := hstep.extraFrame hdisplayed.laid hshown
    refine ⟨hstep.displayed hdisplayed, hshown', hstep.runtimeConfig.trans hconfig,
      hplaced.step hconfig hstep, ?_⟩
    rw [Run.since_append_singleton, ← hsince]
    exact hframe
  · refine ⟨displayed_new runtimeConfig width height, fun hup => ?_, rfl, rfl, ?_⟩
    · exact absurd hup Bool.false_ne_true
    · exact iff_of_false Bool.false_ne_true Run.not_since_nil

/-- The extra page blinks, is hidden, and is activated again in another size. -/
theorem extraZone_of_run_twice : ∃ trace d,
    Run.Steps (Run.Traced DesktopStep) (Desktop.new {} 800 480 : Desktop Unit) trace d
      ∧ trace.map (fun entry => entry.2.1) =
        [.signal (.NewWebTab "u" "" POS_EXTRA 0 "e") none, .signal (.BlinkTab "e") none,
          .signal (.KillTab "e" false) none, .resize 400 300, .signal (.ActivateTab "e") none]
      ∧ d.browser.extraFrameVisible = true ∧ d.browser.hasExtraPage = true
      ∧ d.extraGeometry = ⟨0, 0, 400, 160⟩ := by
  have hrun : Run.Steps (Run.Traced DesktopStep) (Desktop.new {} 800 480 : Desktop Unit)
      [(_, .signal (.NewWebTab "u" "" POS_EXTRA 0 "e") none, _), (_, .signal (.BlinkTab "e") none, _),
        (_, .signal (.KillTab "e" false) none, _), (_, .resize 400 300, _),
        (_, .signal (.ActivateTab "e") none, _)] _ :=
    .cons ⟨rfl, rfl, .signal (by decide : ¬ _ ∈ _) rfl⟩ (.cons ⟨rfl, rfl, .signal trivial rfl⟩
      (.cons ⟨rfl, rfl, .signal trivial rfl⟩ (.cons ⟨rfl, rfl, .resize _ _ _⟩
        (.cons ⟨rfl, rfl, .signal trivial rfl⟩ (.nil _)))))
  obtain ⟨hvisible, hextra, hgeometry⟩ := extraZone_of_run hrun
  have hup := hvisible.mpr ⟨[_, _, _, _], _, [], rfl,
    (rfl : _ = some POS_EXTRA), by simp⟩
  exact ⟨_, _, hrun, rfl, hup, hextra hup, hgeometry⟩

end OpenMadt.Gui
