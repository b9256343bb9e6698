import OpenMadt.Desktop
import OpenMadt.FailedRequests
import OpenMadt.Shortcuts

/-!
# The popup of the shortcuts

The buttons of the popup are made by `rebuildShortcutPopup`, and hold the id of their shortcut, not the
shortcut itself.  Shortcuts come and go, and icons arrive, while the popup is open or closed.

* `PopupBuilt` — the buttons are those of the present shortcuts, and the launcher knows if there are any.
* `popupBuilt_step` — every event keeps it so.
* `ButtonsOf` — one button for each shortcut, in their order, row by row, each in a cell of its own.
* `shortcutPopup_of_run` — in every run the popup is up to date, it is open only over some shortcut, and the
  addresses that were opened are those of the clicks, one for each.
-/

namespace OpenMadt.Gui

variable {Pixmap : Type}

namespace Browser

theorem isEmpty_shortcuts_iff {b : Browser} :
    b.shortcuts.isEmpty = true ↔ b.shortcutsInDisplayOrder = [] := by
  have hlength : b.shortcutsInDisplayOrder.length = b.shortcuts.size := by
    rw [shortcutsInDisplayOrder, (sort_perm _ _).length_eq, List.length_map, Std.ExtTreeMap.length_toList]
  rw [Std.ExtTreeMap.isEmpty_eq_size_beq_zero, beq_iff_eq, ← hlength, List.length_eq_zero_iff]

end Browser

namespace Desktop

/-! ### The popup is up to date -/

/-- The buttons that `rebuildShortcutPopup` makes. -/
def shortcutButtons (d : Desktop Pixmap) : List (ShortcutButton Pixmap) :=
  d.browser.shortcutsInDisplayOrder.zipIdx.map fun entry =>
    shortcutButton d.browser.runtimeConfig (d.shortcutUi.shortcutIcons entry.1.shortcutId) entry.1 entry.2

/-- The launcher is there, for a click to open the popup. -/
def launcherShown (config : RuntimeConfig) : Bool := config.shortcutLauncherVisible && config.shortcutsEnabled

structure PopupBuilt (d : Desktop Pixmap) : Prop where
  built : d.shortcutUi.shortcutLayout = d.shortcutButtons
  enabled : d.shortcutUi.launcherEnabled = !d.browser.shortcuts.isEmpty
  shown : d.shortcutUi.launcherVisible = launcherShown d.browser.runtimeConfig
  popup : d.shortcutUi.popupVisible = true →
    d.browser.shortcuts.isEmpty = false ∧ launcherShown d.browser.runtimeConfig = true

section Operations

variable {d d' : Desktop Pixmap}

/-- Only the shortcuts and the configuration matter. -/
theorem PopupBuilt.of_same (h : d.PopupBuilt) (hshortcuts : d'.browser.shortcuts = d.browser.shortcuts)
    (hconfig : d'.browser.runtimeConfig = d.browser.runtimeConfig) (hui : d'.shortcutUi = d.shortcutUi) :
    d'.PopupBuilt := by
  refine ⟨?_, ?_, ?_, ?_⟩
  · rw [hui, h.built, shortcutButtons, shortcutButtons, hui, hconfig, Browser.shortcutsInDisplayOrder,
      Browser.shortcutsInDisplayOrder, hshortcuts]
  · rw [hui, hshortcuts, h.enabled]
  · rw [hui, hconfig, h.shown]
  · rw [hui, hshortcuts, hconfig]
    exact h.popup

theorem PopupBuilt.of_rest (h : d.PopupBuilt) (hrest : d'.browser.rest = d.browser.rest)
    (hui : d'.shortcutUi = d.shortcutUi) : d'.PopupBuilt :=
  h.of_same (congrArg Prod.fst hrest) (congrArg (fun rest => rest.2.2) hrest) hui

/-- New icons, and then new buttons. -/
theorem popupBuilt_onShortcutIcon (h : d.PopupBuilt) (shortcutId : String) (icon : QIcon Pixmap) :
    (d.onShortcutIcon shortcutId icon).PopupBuilt := by
  unfold onShortcutIcon
  split
  · exact ⟨rfl, h.enabled, h.shown, h.popup⟩
  · exact h

/-- However the shortcuts have changed, the launcher and the popup follow. -/
theorem popupBuilt_rebuilt (hpopup : d.shortcutUi.popupVisible = true →
      launcherShown d.browser.runtimeConfig = true) :
    d.updateShortcutLauncherState.rebuildShortcutPopup.PopupBuilt := by
  refine ⟨rfl, rfl, rfl, fun hup => ?_⟩
  have hup : (!d.browser.shortcuts.isEmpty && d.shortcutUi.popupVisible) = true := hup
  rw [Bool.and_eq_true, Bool.not_eq_true'] at hup
  exact ⟨hup.1, hpopup hup.2⟩

theorem popupBuilt_onNewShortcut (h : d.PopupBuilt) (url iconUrl : String) (preferredPos flags : ℤ)
    {shortcutId : String} (hfresh : shortcutId ∉ d.browser.shortcuts) (loaded : Option (QIcon Pixmap)) :
    (d.onNewShortcut url iconUrl preferredPos flags shortcutId loaded).1.PopupBuilt := by
  have hconfig : (d.browser.onNewShortcut url iconUrl preferredPos flags shortcutId).1.runtimeConfig
      = d.browser.runtimeConfig := by
    rw [d.browser.onNewShortcut_eq url iconUrl preferredPos flags shortcutId]
  have hloaded : ∀ d : Desktop Pixmap,
      (d.loadIcon iconUrl loaded fun d icon => d.onShortcutIcon shortcutId icon).shortcutUi.popupVisible
        = d.shortcutUi.popupVisible := by
    intro d
    have hicon : ∀ icon, (d.onShortcutIcon shortcutId icon).shortcutUi.popupVisible
        = d.shortcutUi.popupVisible := by
      intro icon
      unfold onShortcutIcon
      split <;> rfl
    unfold loadIcon
    split
    · rfl
    split
    · exact hicon _
    · rfl
  unfold onNewShortcut
  dsimp only
  split
  next hok =>
    refine popupBuilt_rebuilt fun hup => ?_
    rw [hloaded] at hup
    rw [browser_loadShortcutIcon]
    dsimp only
    rw [hconfig]
    exact (h.popup hup).2
  next hrefused =>
    rw [Browser.onNewShortcut_failed hfresh hrefused]
    exact h

theorem popupBuilt_onKillShortcut (h : d.PopupBuilt) (shortcutId : String) :
    (d.onKillShortcut shortcutId).1.PopupBuilt := by
  unfold onKillShortcut
  split
  · exact popupBuilt_rebuilt fun hup => (h.popup hup).2
  · exact h

theorem popupBuilt_toggleShortcutPopup (h : d.PopupBuilt) : d.toggleShortcutPopup.PopupBuilt := by
  unfold toggleShortcutPopup
  split
  · exact h
  next hthere =>
  split
  · exact ⟨h.built, h.enabled, h.shown, fun hup => absurd hup Bool.false_ne_true⟩
  · refine ⟨rfl, h.enabled, h.shown, fun _ => ?_⟩
    simp only [Bool.or_eq_true, Bool.not_eq_true', not_or, Bool.not_eq_true, Bool.not_eq_false] at hthere
    exact ⟨hthere.1.1, by
      show (d.browser.runtimeConfig.shortcutLauncherVisible && d.browser.runtimeConfig.shortcutsEnabled) = true
      rw [hthere.2, hthere.1.2, Bool.and_true]⟩

theorem popupBuilt_activateShortcut (h : d.PopupBuilt) (shortcutId : String) :
    (d.activateShortcut shortcutId).PopupBuilt := by
  unfold activateShortcut
  split
  · exact h
  · refine ⟨h.built, h.enabled, h.shown, fun hup => ?_⟩
    have hup : (d.shortcutUi.popupVisible && !d.browser.runtimeConfig.shortcutAutoClose) = true := hup
    rw [Bool.and_eq_true] at hup
    exact h.popup hup.1

end Operations

/-- **The step lemma**: whatever happens, the popup is up to date. -/
theorem popupBuilt_step {d d' : Desktop Pixmap} {event : DesktopEvent Pixmap} (h : d.PopupBuilt)
    (hstep : DesktopStep d event d') : d'.PopupBuilt := by
  cases hstep with
  | @signal _ signal loaded resp hfresh hexec =>
    have hresult : ∀ {r : Desktop Pixmap × CmdResponse}, some r = some (d', resp) → r.1 = d' := fun heq =>
      congrArg Prod.fst (Option.some.inj heq)
    by_cases hsignal : signal.ForShortcuts
    · cases signal with
      | NewShortcut url iconUrl preferredPos flags shortcutId =>
        exact hresult hexec ▸ popupBuilt_onNewShortcut h url iconUrl preferredPos flags hfresh loaded
      | KillShortcut shortcutId => exact hresult hexec ▸ popupBuilt_onKillShortcut h shortcutId
      | _ => exact hsignal.elim
    · have hui : d'.shortcutUi = d.shortcutUi := by
        rcases onlyPages_exec hexec hsignal with rfl | ⟨hpages, -⟩ | ⟨_, _, _, _, uuid, -, hpages⟩
        · rfl
        · exact hpages.shortcutUi
        · exact hpages.shortcutUi
      obtain ⟨b, hb, hbrowser⟩ := browser_exec hexec
      refine h.of_rest (Eq.trans ?_ (rest_exec hb hsignal)) hui
      rcases hbrowser with hbrowser | ⟨uuid, hbrowser⟩
      · rw [hbrowser]
      · rw [hbrowser]
        exact (b.redisplayed_updatePageIndex uuid).rest
  | blinkTimer hrunning =>
    refine h.of_rest ?_ (d.onlyTabs_onBlinkTimer _).shortcutUi
    rw [browser_onBlinkTimer]
    exact (d.browser.frame_onBlinkTimer _).rest
  | pageIcon uuid icon =>
    refine h.of_rest ?_ (d.onlyPages_onPageIcon uuid icon).shortcutUi
    rcases d.browser_onPageIcon uuid icon with hbrowser | hbrowser
    · rw [hbrowser]
    · rw [hbrowser]
      exact (d.browser.redisplayed_updatePageIndex uuid).rest
  | shortcutIcon shortcutId icon => exact popupBuilt_onShortcutIcon h shortcutId icon
  | launcherClicked => exact popupBuilt_toggleShortcutPopup h
  | buttonClicked => exact popupBuilt_activateShortcut h _
  | ApplySettings settings =>
    refine h.of_same ?_ ?_ (d.onlyDocuments_ApplySettings settings).shortcutUi
    · rw [browser_ApplySettings]
      rfl
    · rw [browser_ApplySettings]
      rfl
  | loadFinished ok =>
    exact h.of_rest (by rw [browser_onLoadFinished]) (d.onlyDocuments_onLoadFinished _ ok).shortcutUi
  | popupClosed => exact ⟨h.built, h.enabled, h.shown, fun hup => absurd hup Bool.false_ne_true⟩
  | click hindex => exact h.of_rest rfl rfl
  | resize => exact h.of_rest rfl rfl
  | newDocument => exact h.of_rest rfl rfl

/-! ### The addresses that are opened -/

/-- The shortcut whose button is clicked: the one in that place of the display order. -/
def clicked (entry : Desktop Pixmap × DesktopEvent Pixmap × Desktop Pixmap) : Option ShortcutEntry :=
  match entry.2.1 with
  | .buttonClicked i => entry.1.browser.shortcutsInDisplayOrder[i]?
  | _ => none

theorem opened_onShortcutIcon (d : Desktop Pixmap) (shortcutId : String) (icon : QIcon Pixmap) :
    (d.onShortcutIcon shortcutId icon).opened = d.opened := by
  unfold onShortcutIcon
  split <;> rfl

theorem opened_exec {d d' : Desktop Pixmap} {loaded : Option (QIcon Pixmap)} {signal : Browser.Signal}
    {resp : CmdResponse} (h : d.exec loaded signal = some (d', resp)) : d'.opened = d.opened := by
  by_cases hsignal : signal.ForShortcuts
  · cases signal with
    | NewShortcut url iconUrl preferredPos flags shortcutId =>
      obtain rfl : (d.onNewShortcut url iconUrl preferredPos flags shortcutId loaded).1 = d' :=
        congrArg Prod.fst (Option.some.inj h)
      have hloaded : ∀ d : Desktop Pixmap,
          (d.loadIcon iconUrl loaded fun d icon => d.onShortcutIcon shortcutId icon).opened = d.opened := by
        intro d
        unfold loadIcon
        split
        · rfl
        split
        · exact d.opened_onShortcutIcon shortcutId _
        · rfl
      unfold onNewShortcut
      dsimp only
      split
      · exact hloaded _
      · rfl
    | KillShortcut shortcutId =>
      obtain rfl : (d.onKillShortcut shortcutId).1 = d' := congrArg Prod.fst (Option.some.inj h)
      unfold onKillShortcut
      split <;> rfl
    | _ => exact hsignal.elim
  · rcases onlyPages_exec h hsignal with rfl | ⟨hpages, -⟩ | ⟨_, _, _, _, uuid, -, hpages⟩
    · rfl
    · exact hpages.opened
    · exact hpages.opened

/-- A click on a button opens the address of its shortcut, which is still there. -/
theorem opened_buttonClicked {d : Desktop Pixmap} (h : d.PopupBuilt) (hplaced : d.browser.ShortcutsPlaced)
    {i : ℕ} {button : ShortcutButton Pixmap} (hbutton : d.shortcutUi.shortcutLayout[i]? = some button) :
    ∃ s, d.browser.shortcutsInDisplayOrder[i]? = some s
      ∧ (d.activateShortcut button.shortcutId).opened = d.opened ++ [s.url] := by
  rw [h.built, shortcutButtons, List.getElem?_map, List.getElem?_zipIdx] at hbutton
  obtain ⟨⟨s, j⟩, hs, rfl⟩ := Option.map_eq_some_iff.mp hbutton
  obtain ⟨s', hs', heq⟩ := Option.map_eq_some_iff.mp hs
  obtain ⟨rfl, -⟩ := Prod.mk.inj heq
  have hlive := hplaced.listed.live s' (List.mem_of_getElem? hs')
  refine ⟨s', hs', ?_⟩
  show (d.activateShortcut s'.shortcutId).opened = _
  rw [activateShortcut, hlive]

/-- **What one event opens.** -/
theorem opened_step {d d' : Desktop Pixmap} {event : DesktopEvent Pixmap} (h : d.PopupBuilt)
    (hplaced : d.browser.ShortcutsPlaced) (hstep : DesktopStep d event d') :
    d'.opened = d.opened ++ ((clicked (d, event, d')).map ShortcutEntry.url).toList
      ∧ ∀ i, event = .buttonClicked i → (clicked (d, event, d')).isSome = true := by
  have hnone : ∀ {d' : Desktop Pixmap}, d'.opened = d.opened → d'.opened = d.opened ++ [] := by
    intro d' hsame
    rw [hsame, List.append_nil]
  cases hstep with
  | signal hfresh hexec => exact ⟨hnone (opened_exec hexec), nofun⟩
  | @buttonClicked i button hvisible hbutton =>
    obtain ⟨s, hs, hopened⟩ := opened_buttonClicked h hplaced hbutton
    have hclicked : clicked (d, .buttonClicked i, d.activateShortcut button.shortcutId) = some s := hs
    exact ⟨by rw [hopened, hclicked]; rfl, fun _ _ => by rw [hclicked]; rfl⟩
  | blinkTimer hrunning => exact ⟨hnone (d.onlyTabs_onBlinkTimer _).opened, nofun⟩
  | pageIcon uuid icon => exact ⟨hnone (d.onlyPages_onPageIcon uuid icon).opened, nofun⟩
  | shortcutIcon shortcutId icon => exact ⟨hnone (d.opened_onShortcutIcon shortcutId icon), nofun⟩
  | ApplySettings settings => exact ⟨hnone (d.onlyDocuments_ApplySettings settings).opened, nofun⟩
  | loadFinished ok => exact ⟨hnone (d.onlyDocuments_onLoadFinished _ ok).opened, nofun⟩
  | launcherClicked =>
    refine ⟨hnone ?_, nofun⟩
    unfold toggleShortcutPopup
    split
    · rfl
    split <;> rfl
  | click hindex => exact ⟨hnone rfl, nofun⟩
  | resize => exact ⟨hnone rfl, nofun⟩
  | popupClosed => exact ⟨hnone rfl, nofun⟩
  | newDocument => exact ⟨hnone rfl, nofun⟩

end Desktop

/-! ### Runs -/

/-- One button for each shortcut, in their order, row by row. -/
structure ButtonsOf (config : RuntimeConfig) (icons : String → QIcon Pixmap) (entries : List ShortcutEntry)
    (buttons : List (ShortcutButton Pixmap)) : Prop where
  ids : buttons.map ShortcutButton.shortcutId = entries.map ShortcutEntry.shortcutId
  drawn : ∀ (i : ℕ) (s : ShortcutEntry) (button : ShortcutButton Pixmap), entries[i]? = some s →
    buttons[i]? = some button → button.icon = icons s.shortcutId
      ∧ button.text = (if config.tabBarShowLabels then "S" ++ toString (s.shortcutPos + 1) else "")
      ∧ button.toolTip = (if config.tabBarShowTooltips then s.url else "")
  /-- The cells are taken from left to right, in rows of the configured length. -/
  cell : ∀ (i : ℕ) (button : ShortcutButton Pixmap), buttons[i]? = some button →
    (button.column : ℤ) < max 1 config.shortcutPopupColumns
      ∧ (i : ℤ) = button.row * max 1 config.shortcutPopupColumns + button.column

theorem Desktop.PopupBuilt.buttonsOf {d : Desktop Pixmap} (h : d.PopupBuilt) :
    ButtonsOf d.browser.runtimeConfig d.shortcutUi.shortcutIcons d.browser.shortcutsInDisplayOrder
      d.shortcutUi.shortcutLayout := by
  have hbutton : ∀ i, d.shortcutUi.shortcutLayout[i]? = d.browser.shortcutsInDisplayOrder[i]?.map fun s =>
      shortcutButton d.browser.runtimeConfig (d.shortcutUi.shortcutIcons s.shortcutId) s i := by
    intro i
    rw [h.built, shortcutButtons, List.getElem?_map, List.getElem?_zipIdx, Option.map_map, Nat.zero_add]
    rfl
  refine ⟨?_, ?_, ?_⟩
  · refine List.ext_getElem? fun i => ?_
    rw [List.getElem?_map, hbutton, Option.map_map, List.getElem?_map]
    rfl
  · intro i s button hs hfound
    rw [hbutton, hs] at hfound
    obtain rfl := Option.some.inj hfound
    exact ⟨rfl, rfl, rfl⟩
  · intro i button hfound
    rw [hbutton] at hfound
    obtain ⟨s, -, rfl⟩ := Option.map_eq_some_iff.mp hfound
    obtain ⟨columns, hcolumns⟩ : ∃ n : ℕ, max 1 d.browser.runtimeConfig.shortcutPopupColumns = n :=
      Int.eq_ofNat_of_zero_le (le_trans (by decide) (le_max_left 1 _))
    have hpos : 0 < columns := by
      have := le_max_left 1 d.browser.runtimeConfig.shortcutPopupColumns
      omega
    simp only [shortcutButton, hcolumns, Int.toNat_natCast]
    exact ⟨by exact_mod_cast Nat.mod_lt i hpos, by exact_mod_cast (Nat.div_add_mod' i columns).symm⟩

/-- The shortcuts have their places, and the popup shows them. -/
structure PopupInOrder (runtimeConfig : RuntimeConfig) (d : Desktop Pixmap) : Prop where
  placed : d.browser.ShortcutsPlaced
  built : d.PopupBuilt
  config : d.browser.runtimeConfig = runtimeConfig

theorem popupInOrder_step {runtimeConfig : RuntimeConfig} {d d' : Desktop Pixmap}
    {event : DesktopEvent Pixmap} (h : PopupInOrder runtimeConfig d) (hstep : DesktopStep d event d') :
    PopupInOrder runtimeConfig d' := by
  refine ⟨?_, Desktop.popupBuilt_step h.built hstep, hstep.runtimeConfig.trans h.config⟩
  refine hstep.keeps ?_ ?_ ?_ h.placed
  · intro b display b' hb hdisplay
    cases hdisplay with
    | signal hsignal =>
      obtain ⟨hfresh, resp, hexec⟩ := hsignal
      exact hb.exec hfresh hexec
    | click hindex => exact hb.of_same rfl rfl
    | blinkTimer hrunning =>
      exact hb.of_same (b.frame_onBlinkTimer _).shortcuts (b.frame_onBlinkTimer _).runtimeConfig
  · exact fun hb uuid => hb.of_same rfl rfl
  · exact fun hb settings => hb.of_same rfl rfl

theorem popupInOrder_new (runtimeConfig : RuntimeConfig) (width height : ℤ) :
    PopupInOrder runtimeConfig (Desktop.new runtimeConfig width height : Desktop Pixmap) := by
  refine ⟨Browser.shortcutsPlaced_new runtimeConfig, ⟨?_, ?_, rfl, nofun⟩, rfl⟩
  · have hnone : (Browser.new runtimeConfig).shortcutsInDisplayOrder = [] :=
      Browser.isEmpty_shortcuts_iff.mp rfl
    rw [Desktop.shortcutButtons, show (Desktop.new runtimeConfig width height : Desktop Pixmap).browser
      = Browser.new runtimeConfig from rfl, hnone]
    rfl
  · rfl

/-- **The popup, in every run**: its buttons are those of the shortcuts that are there, with their icons,
numbers and addresses of now; the launcher works if there are any, and the popup is open only over some;
and what was opened are the addresses of the shortcuts that were clicked, no click in vain. -/
theorem shortcutPopup_of_run {runtimeConfig : RuntimeConfig} {width height : ℤ}
    {trace : List (Desktop Pixmap × DesktopEvent Pixmap × Desktop Pixmap)} {d : Desktop Pixmap}
    (h : Run.Steps (Run.Traced DesktopStep) (Desktop.new runtimeConfig width height) trace d) :
    (∃ entries, ShortcutsListed d.browser entries
        ∧ ButtonsOf runtimeConfig d.shortcutUi.shortcutIcons entries d.shortcutUi.shortcutLayout
        ∧ (d.shortcutUi.launcherEnabled = true ↔ entries ≠ [])
        ∧ (d.shortcutUi.popupVisible = true → entries ≠ [] ∧ Desktop.launcherShown runtimeConfig = true))
      ∧ d.opened = (trace.filterMap Desktop.clicked).map ShortcutEntry.url
      ∧ ∀ entry ∈ trace, ∀ i, entry.2.1 = .buttonClicked i → (Desktop.clicked entry).isSome = true := by
  have htoList : ∀ found : Option ShortcutEntry,
      (found.map ShortcutEntry.url).toList = found.toList.map ShortcutEntry.url := by
    intro found
    cases found <;> rfl
  have hrun := h.history (fun trace d => PopupInOrder runtimeConfig d
      ∧ d.opened = (trace.filterMap Desktop.clicked).map ShortcutEntry.url
      ∧ ∀ entry ∈ trace, ∀ i, entry.2.1 = .buttonClicked i → (Desktop.clicked entry).isSome = true) ?_ ?_
  · obtain ⟨⟨hplaced, hbuilt, rfl⟩, hopened⟩ := hrun
    have hsome : d.browser.shortcuts.isEmpty = false ↔ d.browser.shortcutsInDisplayOrder ≠ [] := by
      rw [Ne, ← Browser.isEmpty_shortcuts_iff, Bool.not_eq_true]
    refine ⟨⟨_, hplaced.listed, hbuilt.buttonsOf, ?_, fun hup => ?_⟩, hopened⟩
    · rw [hbuilt.enabled, Bool.not_eq_true', hsome]
    · exact (hbuilt.popup hup).imp_left hsome.mp
  · rintro before d₁ ⟨d₀, event, d₂⟩ d₃ - ⟨horder, hopened, hclicks⟩ ⟨rfl, rfl, hstep⟩
    obtain ⟨hnext, hclick⟩ := Desktop.opened_step horder.built horder.placed hstep
    refine ⟨popupInOrder_step horder hstep, ?_, ?_⟩
    · rw [hnext, hopened, Run.filterMap_concat, List.map_append, htoList]
    · intro entry hentry
      rcases List.mem_append.mp hentry with hentry | hentry
      · exact hclicks entry hentry
      · rw [List.mem_singleton.mp hentry]
        exact hclick
  · exact ⟨popupInOrder_new runtimeConfig width height, rfl, fun _ hentry => absurd hentry List.not_mem_nil⟩

/-- Two shortcuts; the icon of the second one arrives while the popup is open, and then it is clicked. -/
theorem shortcutPopup_of_run_clicked : ∃ trace d,
    Run.Steps (Run.Traced DesktopStep) (Desktop.new {} 800 480 : Desktop Unit) trace d
      ∧ trace.map (fun entry => entry.2.1) =
        [.signal (.NewShortcut "m" "i" 1 0 "a") none, .signal (.NewShortcut "k" "" 0 0 "b") none,
          .launcherClicked, .shortcutIcon "a" (some ()), .buttonClicked 1]
      ∧ d.opened = ["m"] ∧ d.shortcutUi.launcherEnabled = true := by
  have hrun : Run.Steps (Run.Traced DesktopStep) (Desktop.new {} 800 480 : Desktop Unit)
      [(_, .signal (.NewShortcut "m" "i" 1 0 "a") none, _), (_, .signal (.NewShortcut "k" "" 0 0 "b") none, _),
        (_, .launcherClicked, _), (_, .shortcutIcon "a" (some ()), _), (_, .buttonClicked 1, _)] _ :=
    .cons ⟨rfl, rfl, .signal (by decide : ¬ _ ∈ _) rfl⟩ (.cons ⟨rfl, rfl, .signal (by decide : ¬ _ ∈ _) rfl⟩
      (.cons ⟨rfl, rfl, .launcherClicked _ ⟨rfl, rfl⟩⟩ (.cons ⟨rfl, rfl, .shortcutIcon _ _ _⟩
        (.cons ⟨rfl, rfl, .buttonClicked _ rfl rfl⟩ (.nil _)))))
  obtain ⟨-, hopened, -⟩ := shortcutPopup_of_run hrun
  exact ⟨_, _, hrun, rfl, hopened.trans rfl, rfl⟩

end OpenMadt.Gui
