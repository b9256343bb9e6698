import Mathlib.Data.Set.Insert
import OpenMadt.BrowserFrame

/-!
# What the browser holds

The browser seen from the server: which pages there are, with their preferences, and which shortcuts.
Positions, tabs and everything on display are forgotten.

* `Holdings` — this view, and `Holdings.after`, what a signal with a given result does to it.
* `Kept` — the operations that hold on to all pages, shortcuts and settings.
* `holdings_exec` — executing a signal on a browser is `after` on its holdings.
* `ids_after` — no signal brings in an id that is not its own.
-/

namespace OpenMadt.Gui

/-- The preferences of the live pages, and the live shortcuts. -/
@[ext]
structure Holdings where
  pages : String → Option ℤ
  shortcuts : Set String

namespace Holdings

/-- Nothing. -/
def empty : Holdings := ⟨fun _ => none, ∅⟩

/-- Without a page. -/
def dropPage (h : Holdings) (id : String) : Holdings :=
  { h with pages := Function.update h.pages id none }

/-- Without a shortcut. -/
def dropShortcut (h : Holdings) (id : String) : Holdings :=
  { h with shortcuts := {a | a ∈ h.shortcuts ∧ a ≠ id} }

/-- After a signal with this result. -/
def after (h : Holdings) : Browser.Signal → ResultCode → Holdings
  | .NewWebTab _ _ preferredPos _ uuid, .OK =>
    { h with pages := Function.update h.pages uuid (some preferredPos) }
  | .KillTab uuid forceDestroy, .OK =>
    if forceDestroy = false ∧ h.pages uuid = some POS_EXTRA then h else h.dropPage uuid
  | .NewShortcut _ _ _ _ shortcutId, .OK => { h with shortcuts := insert shortcutId h.shortcuts }
  | .KillShortcut shortcutId, .OK => h.dropShortcut shortcutId
  | _, _ => h

end Holdings

namespace Browser

/-- What the browser holds. -/
def holdings (b : Browser) : Holdings where
  pages id := b.list[id]?.map BrowserPage.preferredPos
  shortcuts := {id | id ∈ b.shortcuts}

/-- All pages, with their preferences, all shortcuts and the settings are kept. -/
structure Kept (b b' : Browser) : Prop where
  pages : b'.holdings.pages = b.holdings.pages
  shortcuts : b'.shortcuts = b.shortcuts
  currentSettings : b'.currentSettings = b.currentSettings

theorem Kept.refl (b : Browser) : Kept b b := ⟨rfl, rfl, rfl⟩

theorem Kept.trans {b b' b'' : Browser} (h : Kept b b') (h' : Kept b' b'') : Kept b b'' :=
  ⟨h'.pages.trans h.pages, h'.shortcuts.trans h.shortcuts,
    h'.currentSettings.trans h.currentSettings⟩

theorem Kept.holdings {b b' : Browser} (h : Kept b b') : b'.holdings = b.holdings :=
  Holdings.ext h.pages (by rw [Browser.holdings, h.shortcuts]; rfl)

theorem pages_eq_slots (b : Browser) :
    b.holdings.pages = fun id => (b.slots id).map Slot.preferredPos := by
  funext id
  simp only [Browser.holdings, slots, Option.map_map]
  rfl

/-- An operation on the display keeps everything. -/
theorem Frame.kept {b b' : Browser} (h : Frame b b') : Kept b b' :=
  ⟨by rw [pages_eq_slots, pages_eq_slots, h.slots], h.shortcuts, h.currentSettings⟩

theorem kept_modifyPage (b : Browser) (page : String) {f : BrowserPage → BrowserPage}
    (hf : ∀ p, (f p).preferredPos = p.preferredPos) : Kept b (b.modifyPage page f) := by
  refine ⟨funext fun id => ?_, rfl, rfl⟩
  simp only [Browser.holdings, list_modifyPage]
  split
  · rw [Option.map_map]
    exact congrArg (Option.map · b.list[id]?) (funext hf)
  · rfl

/-! ### Placing a page -/

theorem Repositioned.kept {b b' : Browser} (h : Repositioned b b') : Kept b b' := by
  refine ⟨funext fun id => ?_, ?_, ?_⟩
  · have hpage := congrArg (Option.map BrowserPage.preferredPos) (h.pages id)
    rw [Option.map_map, Option.map_map] at hpage
    exact hpage
  · rw [h.only]
  · rw [h.only]

/-! ### The slots -/

theorem pages_insert (b : Browser) (id : String) (page : BrowserPage) :
    ({ b with list := b.list.insert id page } : Browser).holdings.pages
      = Function.update b.holdings.pages id (some page.preferredPos) := by
  rw [pages_eq_slots, slots_insert, pages_eq_slots]
  funext a
  by_cases h : a = id
  · simp [h, BrowserPage.slot]
  · simp [Function.update_of_ne h]

theorem pages_erase (b : Browser) (id : String) :
    ({ b with list := b.list.erase id } : Browser).holdings.pages
      = Function.update b.holdings.pages id none := by
  rw [pages_eq_slots, slots_erase, pages_eq_slots]
  funext a
  by_cases h : a = id
  · simp [h]
  · simp [Function.update_of_ne h]

theorem hasExtraPage_iff {b : Browser} :
    b.hasExtraPage = true ↔ ∃ id, b.holdings.pages id = some POS_EXTRA := by
  simp only [hasExtraPage, List.any_eq_true, Prod.exists, mem_toList_iff, isExtraPage,
    decide_eq_true_eq, holdings, Option.map_eq_some_iff]

/-- What `onNewWebTab` can do: refuse the page, take it in and drop it again, or keep it. -/
theorem onNewWebTab_cases {b b' : Browser} {url iconUrl uuid : String} {preferredPos flags : ℤ}
    {resp : CmdResponse} (h : b.onNewWebTab url iconUrl preferredPos flags uuid = some (b', resp)) :
    (resp.result = .EXEC_ERROR ∧ b' = b)
      ∨ (resp.result = .EXEC_ERROR ∧ ∃ page b₁, Kept { b with list := b.list.insert uuid page } b₁
          ∧ b' = { b₁ with list := b₁.list.erase uuid })
      ∨ (resp.result = .OK ∧ ∃ page, page.preferredPos = preferredPos
          ∧ Kept { b with list := b.list.insert uuid page } b'
          ∧ (preferredPos = POS_EXTRA → b.hasExtraPage = false)) := by
  rcases onNewWebTab_outcome h with
    ⟨herror, rfl⟩ | ⟨herror, rfl⟩ | ⟨hok, hextra, b₁, hplaced, rfl⟩
  · exact Or.inl ⟨herror, rfl⟩
  · exact Or.inr (Or.inl ⟨herror, _, _, Kept.refl _, rfl⟩)
  · refine Or.inr (Or.inr ⟨hok, _, rfl, (repositioned_allocateLogicalPosition hplaced).kept.trans ?_, hextra⟩)
    split
    · exact (redisplayed_updateExtraZoneVisibility b₁).frame.kept
    · exact (frame_showNewTab b₁ uuid).kept

/-- A new page is there in case of success, and otherwise everything is as before. -/
theorem holdings_onNewWebTab {b b' : Browser} {url iconUrl uuid : String} {preferredPos flags : ℤ}
    {resp : CmdResponse} (hfresh : uuid ∉ b.list)
    (h : b.onNewWebTab url iconUrl preferredPos flags uuid = some (b', resp)) :
    b'.holdings = b.holdings.after (.NewWebTab url iconUrl preferredPos flags uuid) resp.result := by
  have hnone : b.holdings.pages uuid = none := by
    simp only [holdings, Std.ExtTreeMap.getElem?_eq_none hfresh, Option.map_none]
  rcases onNewWebTab_cases h with
    ⟨herror, rfl⟩ | ⟨herror, page, b₁, hkept, rfl⟩ | ⟨hok, page, hpos, hkept, -⟩
  · rw [herror]
    rfl
  · rw [herror]
    refine Holdings.ext ?_ ?_
    · rw [pages_erase, hkept.pages, pages_insert, Function.update_idem, ← hnone,
        Function.update_eq_self]
      rfl
    · simp only [holdings, hkept.shortcuts]
      rfl
  · rw [hok]
    refine Holdings.ext ?_ ?_
    · rw [hkept.pages, pages_insert, hpos]
      rfl
    · simp only [holdings, hkept.shortcuts]
      rfl

/-- An extra page is only taken in if there is none. -/
theorem noExtra_of_newExtra {b b' : Browser} {url iconUrl uuid : String} {flags : ℤ}
    {resp : CmdResponse} (h : b.onNewWebTab url iconUrl POS_EXTRA flags uuid = some (b', resp))
    (hok : resp.result = .OK) (id : String) : b.holdings.pages id ≠ some POS_EXTRA := by
  rcases onNewWebTab_cases h with ⟨herror, -⟩ | ⟨herror, -⟩ | ⟨-, page, -, -, hnone⟩
  · rw [herror] at hok
    cases hok
  · rw [herror] at hok
    cases hok
  · intro hid
    rw [hasExtraPage_iff.mpr ⟨id, hid⟩] at hnone
    cases hnone rfl

theorem kept_onNavigateTo {b b' : Browser} {uuid url : String} {resp : CmdResponse}
    (h : b.onNavigateTo uuid url = some (b', resp)) : Kept b b' := by
  have hrenamed := (b.frame_renamed uuid url).kept
  rcases onNavigateTo_outcome h with ⟨-, rfl⟩ | ⟨-, page, -, hpage⟩
  · exact Kept.refl _
  rcases hpage with ⟨-, rfl⟩ | ⟨-, -, b₂, allocated, hplaced, rfl⟩ | ⟨-, rfl⟩
  · exact hrenamed.trans (redisplayed_updateExtraZoneVisibility _).frame.kept
  · refine hrenamed.trans ((repositioned_allocateZonePosition hplaced).kept.trans ?_)
    split
    · exact (redisplayed_syncTabOrder b₂).frame.kept
    · exact Kept.refl b₂
  · exact hrenamed

/-- A page is gone, unless it is the extra page and only hidden. -/
theorem holdings_onKillTab (b : Browser) (uuid : String) (forceDestroy : Bool) :
    (b.onKillTab uuid forceDestroy).1.holdings
      = b.holdings.after (.KillTab uuid forceDestroy) (b.onKillTab uuid forceDestroy).2.result := by
  have hkept := (frame_stopBlink b uuid).kept
  unfold onKillTab
  split
  · rfl
  next page hpage =>
  have hpages : b.holdings.pages uuid = some page.preferredPos := by simp [holdings, hpage]
  -- what is left when the page has been erased
  have herased : ∀ b' : Browser,
      Kept { b.stopBlink uuid with list := (b.stopBlink uuid).list.erase uuid } b' →
      b'.holdings = b.holdings.dropPage uuid := by
    intro b' h
    refine Holdings.ext ?_ ?_
    · rw [h.pages, pages_erase, hkept.pages]
      rfl
    · simp only [holdings, h.shortcuts, hkept.shortcuts]
      rfl
  dsimp only
  by_cases hextra : isExtraPage page = true
  · have hpos : page.preferredPos = POS_EXTRA := of_decide_eq_true hextra
    cases forceDestroy with
    | false =>
      simp only [hextra, Bool.not_false, Bool.and_true, if_true, Holdings.after, hpages, hpos, and_true]
      exact (hkept.trans (frame_extraFrame _ false).kept).holdings
    | true =>
      simp only [hextra, Bool.not_true, Bool.and_false, Bool.false_eq_true, if_false, if_true,
        Holdings.after, reduceCtorEq, false_and]
      exact herased _ (redisplayed_updateExtraZoneVisibility _).frame.kept
  · have hpos : page.preferredPos ≠ POS_EXTRA := of_decide_eq_false (Bool.not_eq_true _ ▸ hextra)
    simp only [hextra, Bool.false_and, Bool.false_eq_true, if_false, Holdings.after, hpages,
      Option.some.injEq, hpos, and_false]
    refine herased _ (Kept.trans ?_ (redisplayed_syncTabOrder _).frame.kept)
    exact (frame_tabs _ _).kept

theorem holdings_onNewShortcut (b : Browser) (url iconUrl : String) (preferredPos flags : ℤ)
    {shortcutId : String} (hfresh : shortcutId ∉ b.shortcuts) :
    (b.onNewShortcut url iconUrl preferredPos flags shortcutId).1.holdings
      = b.holdings.after (.NewShortcut url iconUrl preferredPos flags shortcutId)
          (b.onNewShortcut url iconUrl preferredPos flags shortcutId).2.result := by
  unfold onNewShortcut
  split
  · rfl
  · split
    · dsimp only
      split
      · refine Holdings.ext rfl (Set.ext fun id => ?_)
        simp only [holdings, Holdings.after, Set.mem_ofPred_eq, Std.ExtTreeMap.mem_erase,
          Std.ExtTreeMap.mem_insert, ne_eq, Std.LawfulEqOrd.compare_eq_iff_eq]
        constructor
        · rintro ⟨hne, rfl | hmem⟩
          · exact absurd rfl hne
          · exact hmem
        · exact fun hmem => ⟨fun heq => hfresh (heq ▸ hmem), Or.inr hmem⟩
      · refine Holdings.ext rfl (Set.ext fun id => ?_)
        simp only [holdings, Holdings.after, Set.mem_ofPred_eq, Std.ExtTreeMap.mem_modify,
          Std.ExtTreeMap.mem_insert, Std.LawfulEqOrd.compare_eq_iff_eq, Set.mem_insert_iff]
        exact or_congr_left eq_comm
    · rfl

theorem holdings_onKillShortcut (b : Browser) (shortcutId : String) :
    (b.onKillShortcut shortcutId).1.holdings
      = b.holdings.after (.KillShortcut shortcutId) (b.onKillShortcut shortcutId).2.result := by
  unfold onKillShortcut
  split
  · refine Holdings.ext rfl (Set.ext fun id => ?_)
    simp only [holdings, Holdings.after, Holdings.dropShortcut, Set.mem_ofPred_eq,
      Std.ExtTreeMap.mem_erase, ne_eq, Std.LawfulEqOrd.compare_eq_iff_eq]
    exact ⟨fun h => ⟨h.2, fun heq => h.1 heq.symm⟩, fun h => ⟨fun heq => h.2 heq.symm, h.1⟩⟩
  · rfl

end Browser

/-! ### Signals -/

/-- **Executing a signal**, seen from the server. -/
theorem holdings_exec {b b' : Browser} {signal : Browser.Signal} {resp : CmdResponse}
    (hfresh : Fresh b signal) (h : b.exec signal = some (b', resp)) :
    b'.holdings = b.holdings.after signal resp.result := by
  cases signal with
  | NewWebTab url iconUrl preferredPos flags uuid => exact Browser.holdings_onNewWebTab hfresh h
  | NavigateTo uuid url => exact (Browser.kept_onNavigateTo h).holdings
  | ActivateTab uuid =>
    obtain ⟨rfl, rfl⟩ := Prod.mk.inj (Option.some.inj h)
    exact (b.frame_onActivateTab uuid).kept.holdings
  | BlinkTab uuid =>
    obtain ⟨rfl, rfl⟩ := Prod.mk.inj (Option.some.inj h)
    exact (b.frame_onBlinkTab uuid).kept.holdings
  | KillTab uuid forceDestroy =>
    obtain ⟨rfl, rfl⟩ := Prod.mk.inj (Option.some.inj h)
    exact b.holdings_onKillTab uuid forceDestroy
  | NewShortcut url iconUrl preferredPos flags shortcutId =>
    obtain ⟨rfl, rfl⟩ := Prod.mk.inj (Option.some.inj h)
    exact (b.holdings_onNewShortcut url iconUrl preferredPos flags hfresh)
  | KillShortcut shortcutId =>
    obtain ⟨rfl, rfl⟩ := Prod.mk.inj (Option.some.inj h)
    exact b.holdings_onKillShortcut shortcutId
  | GetTabMap =>
    obtain ⟨rfl, rfl⟩ := Prod.mk.inj (Option.some.inj h)
    rfl
  | GetShortcuts =>
    obtain ⟨rfl, rfl⟩ := Prod.mk.inj (Option.some.inj h)
    rfl

/-! ### Ids -/

/-- The id that a signal brings into the browser. -/
def Browser.Signal.newId? : Browser.Signal → Option String
  | .NewWebTab _ _ _ _ uuid => some uuid
  | .NewShortcut _ _ _ _ shortcutId => some shortcutId
  | _ => none

/-- The ids of what is held. -/
def Holdings.ids (h : Holdings) : Set String := {id | h.pages id ≠ none ∨ id ∈ h.shortcuts}

theorem ids_after (h : Holdings) (signal : Browser.Signal) (result : ResultCode) {id : String}
    (hid : id ∈ (h.after signal result).ids) : id ∈ h.ids ∨ signal.newId? = some id := by
  have hdrop : ∀ uuid, id ∈ (h.dropPage uuid).ids → id ∈ h.ids := by
    intro uuid hmem
    refine hmem.imp_left fun hpage hnone => hpage ?_
    by_cases heq : id = uuid
    · simp [Holdings.dropPage, heq]
    · simp [Holdings.dropPage, Function.update_of_ne heq, hnone]
  cases result with
  | OK =>
    cases signal with
    | NewWebTab url iconUrl preferredPos flags uuid =>
      by_cases heq : uuid = id
      · exact Or.inr (congrArg some heq)
      · refine Or.inl (hid.imp_left fun hpage => ?_)
        simpa only [Holdings.after, Function.update_of_ne (Ne.symm heq)] using hpage
    | KillTab uuid forceDestroy =>
      simp only [Holdings.after] at hid
      split at hid
      · exact Or.inl hid
      · exact Or.inl (hdrop uuid hid)
    | NewShortcut url iconUrl preferredPos flags shortcutId =>
      rcases hid with hpage | rfl | hshortcut
      · exact Or.inl (Or.inl hpage)
      · exact Or.inr rfl
      · exact Or.inl (Or.inr hshortcut)
    | KillShortcut shortcutId => exact Or.inl (hid.imp_right And.left)
    | _ => exact Or.inl hid
  | _ => exact Or.inl (by cases signal <;> exact hid)

/-- Signals that leave everything where it is. -/
def Browser.Signal.Quiet : Browser.Signal → Prop
  | .NavigateTo _ _ | .ActivateTab _ | .BlinkTab _ | .GetTabMap | .GetShortcuts => True
  | _ => False

theorem after_quiet (h : Holdings) {signal : Browser.Signal} (hquiet : signal.Quiet)
    (result : ResultCode) : h.after signal result = h := by
  cases signal with
  | NavigateTo uuid url => cases result <;> rfl
  | ActivateTab uuid => cases result <;> rfl
  | BlinkTab uuid => cases result <;> rfl
  | GetTabMap => cases result <;> rfl
  | GetShortcuts => cases result <;> rfl
  | _ => exact hquiet.elim

theorem newId_quiet {signal : Browser.Signal} (hquiet : signal.Quiet) : signal.newId? = none := by
  cases signal with
  | NewWebTab url iconUrl preferredPos flags uuid => exact hquiet.elim
  | NewShortcut url iconUrl preferredPos flags shortcutId => exact hquiet.elim
  | _ => rfl

theorem after_error (h : Holdings) (signal : Browser.Signal) {result : ResultCode}
    (herror : result ≠ .OK) : h.after signal result = h := by
  cases result with
  | OK => exact absurd rfl herror
  | _ => cases signal <;> rfl

end OpenMadt.Gui
