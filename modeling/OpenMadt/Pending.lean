import OpenMadt.GuiHoldings

/-!
# Queued kills

The kills that the server does not wait for are executed later.  `GuiState.pending` is the browser as
it will be once its queue is empty.

* `Without` — some pages and shortcuts are gone, and all others are there as before, up to the places
  of their tabs.
* `pending_killTabs`, `pending_killShortcuts` — a list of kills that are sent.
-/

namespace OpenMadt.Gui

/-- The pages and shortcuts that are named are gone; everything else is as before, except for the
display. -/
structure Without (pages shortcuts : Set String) (b b' : Browser) : Prop where
  pagesGone : ∀ id ∈ pages, b'.list[id]? = none
  pagesKept : ∀ id ∉ pages,
    b'.list[id]?.map BrowserPage.unindexed = b.list[id]?.map BrowserPage.unindexed
  shortcutsGone : ∀ id ∈ shortcuts, b'.shortcuts[id]? = none
  shortcutsKept : ∀ id ∉ shortcuts, b'.shortcuts[id]? = b.shortcuts[id]?

theorem Without.nothing (b : Browser) : Without ∅ ∅ b b :=
  ⟨fun _ h => h.elim, fun _ _ => rfl, fun _ h => h.elim, fun _ _ => rfl⟩

theorem Without.trans {pages pages' shortcuts shortcuts' : Set String} {b b' b'' : Browser}
    (h : Without pages shortcuts b b') (h' : Without pages' shortcuts' b' b'') :
    Without (pages ∪ pages') (shortcuts ∪ shortcuts') b b'' := by
  refine ⟨fun id hid => ?_, fun id hid => ?_, fun id hid => ?_, fun id hid => ?_⟩
  · by_cases hlast : id ∈ pages'
    · exact h'.pagesGone id hlast
    · have hgone := h'.pagesKept id hlast
      rw [h.pagesGone id (hid.resolve_right hlast), Option.map_none, Option.map_eq_none_iff] at hgone
      exact hgone
  · rw [Set.mem_union, not_or] at hid
    exact (h'.pagesKept id hid.2).trans (h.pagesKept id hid.1)
  · by_cases hlast : id ∈ shortcuts'
    · exact h'.shortcutsGone id hlast
    · rw [h'.shortcutsKept id hlast]
      exact h.shortcutsGone id (hid.resolve_right hlast)
  · rw [Set.mem_union, not_or] at hid
    exact (h'.shortcutsKept id hid.2).trans (h.shortcutsKept id hid.1)

/-! ### One kill -/

/-- A page that is destroyed takes nothing else with it. -/
theorem without_killTab (b : Browser) (uuid : String) :
    Without {uuid} ∅ b (b.onKillTab uuid true).1 := by
  have hstopped : ∀ id, id ≠ uuid → (b.stopBlink uuid).list[id]?.map BrowserPage.unindexed
      = b.list[id]?.map BrowserPage.unindexed := by
    intro id hid
    have hindexed := (b.modifyPage uuid fun p =>
      { p with blinkTimer := false, blinkVisible := true }).redisplayed_updatePageIndex uuid
    refine (hindexed.pages id).trans ?_
    rw [Browser.list_modifyPage, if_neg (Ne.symm hid)]
  -- the page is taken out of the map, and the display is refreshed
  have herased : ∀ {b₁ b' : Browser}, b₁.list = (b.stopBlink uuid).list.erase uuid →
      Browser.Redisplayed b₁ b' → b'.shortcuts = b.shortcuts → Without {uuid} ∅ b b' := by
    intro b₁ b' hlist hdisplay hshortcuts
    refine ⟨fun id hid => ?_, fun id hid => ?_, fun id hid => hid.elim, fun id _ => by rw [hshortcuts]⟩
    · have hgone := hdisplay.pages id
      rw [Set.mem_singleton_iff.mp hid, hlist, Std.ExtTreeMap.getElem?_erase_self, Option.map_none,
        Option.map_eq_none_iff] at hgone
      rw [Set.mem_singleton_iff.mp hid]
      exact hgone
    · rw [Set.mem_singleton_iff] at hid
      rw [hdisplay.pages id, hlist, StdMap.getElem?_erase, if_neg (Ne.symm hid)]
      exact hstopped id hid
  have hshortcuts := (Prod.mk.inj (b.rest_onKillTab uuid true)).1
  unfold Browser.onKillTab at hshortcuts ⊢
  cases hpage : b.list[uuid]? with
  | none =>
    refine ⟨fun id hid => ?_, fun _ _ => rfl, fun id hid => hid.elim, fun _ _ => rfl⟩
    rw [Set.mem_singleton_iff.mp hid]
    exact hpage
  | some page =>
    rw [hpage] at hshortcuts
    dsimp only at hshortcuts ⊢
    rw [if_neg (by simp)] at hshortcuts ⊢
    split
    next hextra =>
      rw [if_pos hextra] at hshortcuts
      exact herased rfl (Browser.redisplayed_updateExtraZoneVisibility _) hshortcuts
    next hnormal =>
      rw [if_neg hnormal] at hshortcuts
      exact herased rfl (Browser.redisplayed_syncTabOrder _) hshortcuts

theorem without_killShortcut (b : Browser) (shortcutId : String) :
    Without ∅ {shortcutId} b (b.onKillShortcut shortcutId).1 := by
  refine ⟨fun id hid => hid.elim, fun id _ => ?_, fun id hid => ?_, fun id hid => ?_⟩
  · rw [b.onKillShortcut_eq]
  · rw [Set.mem_singleton_iff.mp hid]
    unfold Browser.onKillShortcut
    split
    · exact Std.ExtTreeMap.getElem?_erase_self
    next hnone => exact Std.ExtTreeMap.getElem?_eq_none hnone
  · rw [Set.mem_singleton_iff] at hid
    unfold Browser.onKillShortcut
    split
    · exact (StdMap.getElem?_erase _ _ _).trans (if_neg (Ne.symm hid))
    · rfl

/-! ### The queue -/

namespace GuiState

/-- The browser once it has executed its queue. -/
def pending (g : GuiState) : Option Browser := g.browser.bind fun b => execAll b g.queue

theorem execAll_append (b : Browser) (queue : List Browser.Signal) (signal : Browser.Signal) :
    execAll b (queue ++ [signal])
      = (execAll b queue).bind fun b => (b.exec signal).map Prod.fst := by
  induction queue generalizing b with
  | nil =>
    show execAll b [signal] = (b.exec signal).map Prod.fst
    rw [execAll]
    cases b.exec signal with
    | none => rfl
    | some r => rfl
  | cons first queue ih =>
    rw [List.cons_append, execAll, execAll]
    cases b.exec first with
    | none => rfl
    | some r => exact ih r.1

/-- Kills can always be executed. -/
theorem exists_execAll {queue : List Browser.Signal} (hkills : ∀ signal ∈ queue, IsKill signal)
    (b : Browser) : ∃ b', execAll b queue = some b' := by
  induction queue generalizing b with
  | nil => exact ⟨b, rfl⟩
  | cons signal queue ih =>
    rw [List.forall_mem_cons] at hkills
    cases signal with
    | KillTab uuid forceDestroy => exact ih hkills.2 _
    | KillShortcut shortcutId => exact ih hkills.2 _
    | _ => exact hkills.1.elim

theorem exists_pending {g : GuiState} (h : Settled g) {b : Browser} (hbrowser : g.browser = some b) :
    ∃ b', g.pending = some b' := by
  obtain ⟨b', hb'⟩ := exists_execAll h.kills b
  exact ⟨b', by rw [pending, hbrowser]; exact hb'⟩

/-- A signal that is not waited for comes after the queue. -/
theorem pending_post (g : GuiState) (signal : Browser.Signal) :
    (g.post signal).pending = g.pending.bind fun b => (b.exec signal).map Prod.fst := by
  unfold post
  cases hbrowser : g.browser with
  | none => simp [pending, hbrowser]
  | some b =>
    simp only [pending, hbrowser, Option.bind_some]
    exact execAll_append b g.queue signal

theorem pending_killTabs (tabIds : List String) {g : GuiState} {b : Browser} (h : g.pending = some b) :
    ∃ b', (tabIds.foldl (fun g tabId => g.post (.KillTab tabId true)) g).pending = some b'
      ∧ Without {id | id ∈ tabIds} ∅ b b' := by
  induction tabIds generalizing g b with
  | nil => exact ⟨b, h, by simpa using Without.nothing b⟩
  | cons tabId tabIds ih =>
    have hfirst : (g.post (.KillTab tabId true)).pending = some (b.onKillTab tabId true).1 := by
      rw [pending_post, h]
      rfl
    obtain ⟨b', hb', hwithout⟩ := ih hfirst
    have hset : {tabId} ∪ {id | id ∈ tabIds} = {id | id ∈ tabId :: tabIds} := by
      ext id
      simp
    refine ⟨b', hb', ?_⟩
    rw [← hset, ← Set.union_self ∅]
    exact (without_killTab b tabId).trans hwithout

theorem pending_killShortcuts (shortcutIds : List String) {g : GuiState} {b : Browser}
    (h : g.pending = some b) :
    ∃ b', (shortcutIds.foldl (fun g id => g.post (.KillShortcut id)) g).pending = some b'
      ∧ Without ∅ {id | id ∈ shortcutIds} b b' := by
  induction shortcutIds generalizing g b with
  | nil => exact ⟨b, h, by simpa using Without.nothing b⟩
  | cons shortcutId shortcutIds ih =>
    have hfirst : (g.post (.KillShortcut shortcutId)).pending
        = some (b.onKillShortcut shortcutId).1 := by
      rw [pending_post, h]
      rfl
    obtain ⟨b', hb', hwithout⟩ := ih hfirst
    have hset : {shortcutId} ∪ {id | id ∈ shortcutIds} = {id | id ∈ shortcutId :: shortcutIds} := by
      ext id
      simp
    refine ⟨b', hb', ?_⟩
    rw [← hset, ← Set.union_self ∅]
    exact (without_killShortcut b shortcutId).trans hwithout

end GuiState

end OpenMadt.Gui
