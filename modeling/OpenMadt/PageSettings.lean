import OpenMadt.Desktop
import OpenMadt.SettingsPatches
import OpenMadt.Volume

/-!
# What the pages are told

A page learns the settings by a script that sets `window.madtSettings`: once its load has finished, and
again whenever the settings change.  In between pages are created and killed, reload and navigate.

* `Informed` — every live page whose load has finished has the settings of the browser.
* `informed_step`, `pageSettings_of_run` — so it is in every run, and these are the settings applied last.
* `madtSettings_laws` — what is told contains the settings: it is itself a patch that is accepted, and
  merging it gives them back.
* `TellsVolume` — and it has the volume as a number on the scale that the text is written in.
-/

namespace OpenMadt.Gui

variable {Pixmap : Type}

/-- The settings that the last of the events applied. -/
def appliedSettings (settings : SettingsState) (events : List (DesktopEvent Pixmap)) : SettingsState :=
  events.foldl (fun settings event =>
    match event with
    | .ApplySettings settings => settings
    | _ => settings) settings

theorem Browser.Frame.mem_list {b b' : Browser} (h : b.Frame b') {id : String} :
    id ∈ b'.list ↔ id ∈ b.list := by
  have hslots := congrArg Option.isSome (congrFun h.slots id)
  rw [Browser.slots, Browser.slots, Option.isSome_map, Option.isSome_map] at hslots
  rw [← Std.ExtTreeMap.isSome_getElem?_iff_mem, ← Std.ExtTreeMap.isSome_getElem?_iff_mem, hslots]

/-- A page that is there after a signal was there before, or has just come in. -/
theorem live_exec {b b' : Browser} {signal : Browser.Signal} {resp : CmdResponse} (hfresh : Fresh b signal)
    (h : b.exec signal = some (b', resp)) {id : String} (hid : id ∈ b'.list) :
    id ∈ b.list ∨ ∃ url iconUrl preferredPos flags, signal = .NewWebTab url iconUrl preferredPos flags id := by
  have hlive : ∀ {b : Browser}, id ∈ b.list ↔ (b.holdings.pages id).isSome = true := by
    intro b
    rw [Browser.holdings, Option.isSome_map, Std.ExtTreeMap.isSome_getElem?_iff_mem]
  rw [hlive] at hid ⊢
  rw [holdings_exec hfresh h] at hid
  generalize resp.result = result at hid
  cases signal with
  | NewWebTab url iconUrl preferredPos flags uuid =>
    by_cases heq : id = uuid
    · subst heq
      exact Or.inr ⟨url, iconUrl, preferredPos, flags, rfl⟩
    · refine Or.inl ?_
      cases result with
      | OK =>
        have hid : (Function.update b.holdings.pages uuid (some preferredPos) id).isSome = true := hid
        rwa [Function.update_of_ne heq] at hid
      | _ => exact hid
  | KillTab uuid forceDestroy =>
    refine Or.inl ?_
    cases result with
    | OK =>
      rw [Holdings.after] at hid
      split at hid
      · exact hid
      · have hid : (Function.update b.holdings.pages uuid none id).isSome = true := hid
        rw [Function.update_apply] at hid
        split at hid
        · cases hid
        · exact hid
    | _ => exact hid
  | _ => exact Or.inl (by cases result <;> exact hid)

namespace Desktop

/-- Every live page whose load has finished was told the settings of now. -/
def Informed (d : Desktop Pixmap) : Prop :=
  ∀ id ∈ d.browser.list, (d.documents id).finished = true →
    (d.documents id).madtSettings = some (madtSettings d.browser.currentSettings)

theorem Informed.of_same {d d' : Desktop Pixmap} (h : d.Informed)
    (hlive : ∀ id ∈ d'.browser.list, id ∈ d.browser.list)
    (hsettings : d'.browser.currentSettings = d.browser.currentSettings)
    (hdocuments : d'.documents = d.documents) : d'.Informed := by
  intro id hid
  rw [hsettings, hdocuments]
  exact h id (hlive id hid)

theorem Informed.of_onlyShortcuts {d d' : Desktop Pixmap} (h : d.Informed) (honly : OnlyShortcuts d d') :
    d'.Informed := by
  refine h.of_same (fun id hid => ?_) honly.currentSettings honly.documents
  rw [honly.pages.browser] at hid
  exact hid

/-- A view that shows a new document, or the view of a new page. -/
theorem Informed.newDocument {d d' : Desktop Pixmap} (h : d.Informed) (uuid : String)
    (hlive : ∀ id ∈ d'.browser.list, id ≠ uuid → id ∈ d.browser.list)
    (hsettings : d'.browser.currentSettings = d.browser.currentSettings)
    (hdocuments : d'.documents = Function.update d.documents uuid {}) : d'.Informed := by
  intro id hid
  rw [hsettings, hdocuments]
  by_cases heq : id = uuid
  · rw [heq, Function.update_self]
    exact fun hfinished => absurd hfinished Bool.false_ne_true
  · rw [Function.update_of_ne heq]
    exact h id (hlive id hid heq)

theorem informed_exec {d d' : Desktop Pixmap} {loaded : Option (QIcon Pixmap)} {signal : Browser.Signal}
    {resp : CmdResponse} (h : d.Informed) (hfresh : Fresh d.browser signal)
    (hexec : d.exec loaded signal = some (d', resp)) : d'.Informed := by
  obtain ⟨b, hb, hbrowser⟩ := browser_exec hexec
  have hmem : ∀ id, id ∈ d'.browser.list → id ∈ b.list := by
    intro id hid
    rcases hbrowser with hbrowser | ⟨uuid, hbrowser⟩
    · exact hbrowser ▸ hid
    · rw [hbrowser] at hid
      exact (b.redisplayed_updatePageIndex uuid).frame.mem_list.mp hid
  have hsettings : d'.browser.currentSettings = d.browser.currentSettings := by
    refine Eq.trans ?_ (config_exec hb).1
    rcases hbrowser with hbrowser | ⟨uuid, hbrowser⟩
    · rw [hbrowser]
    · rw [hbrowser]
      rfl
  by_cases hsignal : signal.ForShortcuts
  · exact h.of_onlyShortcuts (onlyShortcuts_exec hexec hsignal)
  rcases onlyPages_exec hexec hsignal with
    rfl | ⟨honly, hold⟩ | ⟨url, iconUrl, preferredPos, flags, uuid, rfl, honly⟩
  · exact h
  · refine h.of_same (fun id hid => ?_) hsettings honly.documents
    refine (live_exec hfresh hb (hmem id hid)).resolve_right ?_
    rintro ⟨url, iconUrl, preferredPos, flags, heq⟩
    exact hold url iconUrl preferredPos flags id heq
  · refine h.newDocument uuid (fun id hid hne => ?_) hsettings honly.documents
    refine (live_exec hfresh hb (hmem id hid)).resolve_right ?_
    rintro ⟨_, _, _, _, heq⟩
    cases heq
    exact hne rfl

/-- The settings reach the views of all pages. -/
theorem documents_ApplySettings (d : Desktop Pixmap) (settings : SettingsState) (id : String) :
    (d.ApplySettings settings).documents id
      = if id ∈ d.browser.list
        then { d.documents id with madtSettings := some (madtSettings settings) } else d.documents id := by
  have hviews : ∀ (views : List String) (d : Desktop Pixmap),
      (views.foldl applySettingsToView d).documents id = if id ∈ views
        then { d.documents id with madtSettings := some (madtSettings d.browser.currentSettings) }
        else d.documents id := by
    intro views
    induction views with
    | nil => exact fun d => rfl
    | cons view views ih =>
      intro d
      have hfirst : (d.applySettingsToView view).documents id = if id = view
          then { d.documents id with madtSettings := some (madtSettings d.browser.currentSettings) }
          else d.documents id := by
        rw [applySettingsToView]
        dsimp only
        rw [Function.update_apply]
        split
        next heq => rw [heq]
        next => rfl
      rw [List.foldl_cons, ih, hfirst]
      by_cases hview : id = view
      · subst hview
        simp [applySettingsToView]
      · simp [hview, applySettingsToView]
  have hkeys : id ∈ d.browser.list.keys ↔ id ∈ d.browser.list := by simp
  rw [ApplySettings, hviews]
  simp only [Browser.ApplySettings, hkeys]

theorem informed_ApplySettings (d : Desktop Pixmap) (settings : SettingsState) :
    (d.ApplySettings settings).Informed := by
  intro id hid
  rw [browser_ApplySettings] at hid ⊢
  have hid : id ∈ d.browser.list := hid
  rw [documents_ApplySettings, if_pos hid]
  exact fun _ => rfl

theorem informed_onLoadFinished {d : Desktop Pixmap} (h : d.Informed) (uuid : String) (ok : Bool) :
    (d.onLoadFinished uuid ok).Informed := by
  unfold onLoadFinished
  split
  · intro id hid
    rw [applySettingsToView]
    dsimp only
    by_cases heq : id = uuid
    · rw [heq, Function.update_self]
      exact fun _ => rfl
    · rw [Function.update_of_ne heq, Function.update_of_ne heq]
      exact h id hid
  · exact h

end Desktop

/-- **The step lemma**: whatever happens, the pages know the settings. -/
theorem informed_step {d d' : Desktop Pixmap} {event : DesktopEvent Pixmap} (h : d.Informed)
    (hstep : DesktopStep d event d') : d'.Informed := by
  cases hstep with
  | signal hfresh hexec => exact Desktop.informed_exec h hfresh hexec
  | ApplySettings settings => exact d.informed_ApplySettings settings
  | loadFinished ok hlive => exact Desktop.informed_onLoadFinished h _ ok
  | newDocument hlive => exact h.newDocument _ (fun id hid _ => hid) rfl rfl
  | blinkTimer hrunning =>
    have hframe := d.browser.frame_onBlinkTimer
    refine h.of_same (fun id hid => ?_) ?_ (d.onlyTabs_onBlinkTimer _).documents
    · rw [d.browser_onBlinkTimer] at hid
      exact (hframe _).mem_list.mp hid
    · rw [d.browser_onBlinkTimer]
      exact (hframe _).currentSettings
  | pageIcon uuid icon =>
    have hframe := (d.browser.redisplayed_updatePageIndex uuid).frame
    refine h.of_same (fun id hid => ?_) ?_ (d.onlyPages_onPageIcon uuid icon).documents
    · rcases d.browser_onPageIcon uuid icon with heq | heq
      · exact heq ▸ hid
      · exact hframe.mem_list.mp (heq ▸ hid)
    · rcases d.browser_onPageIcon uuid icon with heq | heq
      · rw [heq]
      · rw [heq]
        exact hframe.currentSettings
  | shortcutIcon shortcutId icon => exact h.of_onlyShortcuts (d.onlyShortcuts_onShortcutIcon shortcutId icon)
  | launcherClicked => exact h.of_onlyShortcuts d.onlyShortcuts_toggleShortcutPopup
  | buttonClicked => exact h.of_onlyShortcuts (d.onlyShortcuts_activateShortcut _)
  | click hindex => exact h.of_same (fun id hid => hid) rfl rfl
  | resize => exact h.of_same (fun id hid => hid) rfl rfl
  | popupClosed => exact h.of_same (fun id hid => hid) rfl rfl

/-- Only `ApplySettings` changes the settings. -/
theorem DesktopStep.currentSettings {d d' : Desktop Pixmap} {event : DesktopEvent Pixmap}
    (h : DesktopStep d event d') :
    d'.browser.currentSettings = appliedSettings d.browser.currentSettings [event] := by
  cases h with
  | signal hfresh hexec =>
    obtain ⟨b, hb, hbrowser⟩ := Desktop.browser_exec hexec
    refine Eq.trans ?_ (config_exec hb).1
    rcases hbrowser with hbrowser | ⟨uuid, hbrowser⟩
    · rw [hbrowser]
    · rw [hbrowser]
      rfl
  | blinkTimer hrunning =>
    rw [d.browser_onBlinkTimer]
    exact (d.browser.frame_onBlinkTimer _).currentSettings
  | pageIcon uuid icon =>
    rcases d.browser_onPageIcon uuid icon with heq | heq
    · rw [heq]
      rfl
    · rw [heq]
      rfl
  | ApplySettings settings =>
    rw [d.browser_ApplySettings]
    rfl
  | shortcutIcon shortcutId icon => exact (d.onlyShortcuts_onShortcutIcon shortcutId icon).currentSettings
  | launcherClicked => exact d.onlyShortcuts_toggleShortcutPopup.currentSettings
  | buttonClicked => exact (d.onlyShortcuts_activateShortcut _).currentSettings
  | loadFinished ok =>
    rw [d.browser_onLoadFinished]
    rfl
  | click hindex => rfl
  | resize => rfl
  | popupClosed => rfl
  | newDocument => rfl

/-! ### What is told -/

/-- The ten settings are among the members. -/
theorem find?_madtSettings (settings : SettingsState) :
    ∀ key ∈ settingsKeys, (madtSettings settings).find? key = (settingsToJson settings).find? key := by
  simp only [settingsKeys, settingsMembers, List.map_cons, List.map_nil, List.forall_mem_cons,
    List.not_mem_nil, false_implies, implies_true, and_true]
  exact ⟨rfl, rfl, rfl, rfl, rfl, rfl, rfl, rfl, rfl, rfl⟩

/-- **What a page is told contains the settings**: sent back as a patch, it is accepted and restores
them. -/
theorem madtSettings_laws (undefinedCast : Rat → ℤ) (current : SettingsState) {settings : SettingsState}
    (h : settings.Valid) : isValidSettingsPatch undefinedCast (madtSettings settings) = .ok none
      ∧ mergeSettings undefinedCast current (madtSettings settings) = .ok settings := by
  have hrules := (accepted_iff undefinedCast rfl).mpr (patchRules_settingsToJson h).narrowed
  have hobject : (madtSettings settings).isObject = (settingsToJson settings).isObject := rfl
  obtain ⟨hvalid, hmerged⟩ := congr_of_settings undefinedCast current hobject (find?_madtSettings settings)
  rw [hvalid, hmerged]
  exact ⟨hrules, by rw [mergeSettings_of_accepted current hrules, merged_settingsToJson current h]⟩

/-- The volume as two numbers: a decimal numeral up to 100 is the percentage, and any other numeral is one on the
scale of 32 bits. -/
structure TellsVolume (volume : String) (told : Json) (percent : ℤ) : Prop where
  integer : told.find? "volumePercent" = some (.int percent)
  scalar : told.find? "volumeScalar" = some (.float (percent / 100))
  value : percent = settingsVolumeToPercent volume
  hexadecimal : ∀ n, IsHexadecimal volume n → percent = percentOf n
  decimal : ∀ n, IsDecimal volume n → percent = if n ≤ 100 then (n : ℤ) else percentOf n
  range : 0 ≤ percent ∧ percent ≤ 100

theorem tellsVolume_madtSettings (settings : SettingsState) :
    TellsVolume settings.volume (madtSettings settings) (settingsVolumeToPercent settings.volume) where
  integer := rfl
  scalar := rfl
  value := rfl
  hexadecimal n hn := (percent_hexadecimal hn).trans (scaled_eq_percentOf n)
  decimal n hn := by rw [percent_decimal hn, scaled_eq_percentOf]
  range := percent_range settings.volume

/-! ### Runs -/

/-- **Every page is told the settings**: in every run, a live page whose load has finished has the settings
that were applied last, and their volume as a number; and if these are valid, what it has can be sent back as a
patch and restores them. -/
theorem pageSettings_of_run {runtimeConfig : RuntimeConfig} {width height : ℤ}
    {events : List (DesktopEvent Pixmap)} {d : Desktop Pixmap}
    (h : Run.Steps DesktopStep (Desktop.new runtimeConfig width height) events d) {id : String}
    (hlive : id ∈ d.browser.list) (hfinished : (d.documents id).finished = true) :
    ∃ settings told percent, settings = appliedSettings runtimeConfig.settings events
      ∧ (d.documents id).madtSettings = some told
      ∧ (∀ key ∈ settingsKeys, told.find? key = (settingsToJson settings).find? key)
      ∧ (settings.Valid → ∀ undefinedCast current, isValidSettingsPatch undefinedCast told = .ok none
        ∧ mergeSettings undefinedCast current told = .ok settings)
      ∧ TellsVolume settings.volume told percent := by
  have hrun := h.history (fun events d => d.Informed
      ∧ d.browser.currentSettings = appliedSettings runtimeConfig.settings events) ?_ ?_
  · obtain ⟨hinformed, hsettings⟩ := hrun
    have htold := hinformed id hlive hfinished
    rw [hsettings] at htold
    exact ⟨_, _, _, rfl, htold, find?_madtSettings _,
      fun hvalid undefinedCast current => madtSettings_laws undefinedCast current hvalid,
      tellsVolume_madtSettings _⟩
  · rintro before d₁ event d₂ - ⟨hinformed, hsettings⟩ hstep
    refine ⟨informed_step hinformed hstep, ?_⟩
    rw [hstep.currentSettings, hsettings, appliedSettings, appliedSettings, appliedSettings, List.foldl_append]
  · refine ⟨fun id hid => ?_, rfl⟩
    simp [Desktop.new, Browser.new] at hid

/-- A page that loads, is told of a change, and loads again. -/
theorem pageSettings_of_run_reloaded : ∃ d told, Run.Steps DesktopStep (Desktop.new {} 800 480 : Desktop Unit)
    [.signal (.NewWebTab "u" "" POS_ANY 0 "a") none, .loadFinished "a" true,
      .ApplySettings { volume := "25", brightness := 40 }, .newDocument "a", .loadFinished "a" true] d
    ∧ (d.documents "a").madtSettings = some told ∧ told.find? "brightness" = some (.int 40)
    ∧ told.find? "volumePercent" = some (.int 25) := by
  have hrun : Run.Steps DesktopStep (Desktop.new {} 800 480 : Desktop Unit)
      [.signal (.NewWebTab "u" "" POS_ANY 0 "a") none, .loadFinished "a" true,
        .ApplySettings { volume := "25", brightness := 40 }, .newDocument "a", .loadFinished "a" true] _ :=
    .cons (.signal (by decide : ¬ _ ∈ _) rfl) (.cons (.loadFinished _ _ (by decide))
      (.cons (.ApplySettings _ _) (.cons (.newDocument _ (by decide)) (.cons (.loadFinished _ _ (by decide))
        (.nil _)))))
  obtain ⟨settings, told, percent, rfl, htold, hkeys, -, hvolume⟩ :=
    pageSettings_of_run hrun (by decide : "a" ∈ _) rfl
  have hdecimal : IsDecimal "25" 25 := ⟨⟨by decide, List.all_eq_true.mp (by decide)⟩, rfl⟩
  refine ⟨_, told, hrun, htold, hkeys "brightness" (by decide), ?_⟩
  rw [hvolume.integer, hvolume.decimal 25 hdecimal]
  rfl

end OpenMadt.Gui
