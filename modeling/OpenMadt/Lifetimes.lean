import OpenMadt.StoreRefinement

/-!
# From when, and until when, a tab can be used

The clients know nothing of tables.  What they can rely on is said by what happened: who was given the tab,
and which events end it.

* `Finishes` — the end of a tab, by what happened before it; `InUse` — there was none yet.
* `Removes` — the end of a tab, by the tables of the server; `removes_iff_finishes` — the same, for a tab
  that is held.
* `held_iff_inUse` — the server holds a tab as long.
* `usable_of_run` — a client can use it as long.
-/

namespace OpenMadt.Server

open Gui Run Registry

variable {P : Platform Outside GuiState} {i : Input Outside} {bev : Conn} {w w' : World GuiState}
  {t : Store}

/-! ### By what happened -/

/-- A request creates the tab, at a place that was asked for like this, and is told so. -/
def CreatesAt (P : Platform Outside GuiState) (asked : ℤ → Prop) (id : String) :
    World GuiState × Event Outside × World GuiState → Prop
  | (w, .request i bev requestText, w') => i.uuid = id
    ∧ (∃ requestedUrl iconUrl preferredPos flags,
        decode P requestText = .ok (.NewWebTab requestedUrl iconUrl preferredPos flags) ∧ asked preferredPos)
    ∧ Confirmed bev w w'
  | _ => False

/-- The tab was created as the extra tab. -/
def CreatedExtra (P : Platform Outside GuiState)
    (past : List (World GuiState × Event Outside × World GuiState)) (id : String) : Prop :=
  Since (CreatesAt P (· = Gui.POS_EXTRA) id) (CreatesAt P (fun _ => True) id) past

/-- The event is the end of the tab, after this past.  A kill ends it if it is not the extra tab, an
`IAmAlive` if it has no time; the end of the connection it was created through, if tabs belong to
connections; and a tick, once the time of the last `IAmAlive` is over. -/
def Finishes (P : Platform Outside GuiState) (byConnection : Bool) (id : String)
    (past : List (World GuiState × Event Outside × World GuiState)) :
    World GuiState × Event Outside × World GuiState → Prop
  | (w, .request _ bev requestText, w') =>
    Confirmed bev w w' ∧ (decode P requestText = .ok (.KillTab id) ∧ ¬ CreatedExtra P past id
      ∨ decode P requestText = .ok (.IAmAliveTab id 0))
  | (_, .close bev, _) => byConnection = true ∧ CreatedThrough P past bev id
  | (_, .tick now, _) => ∃ deadline, LastRenewal P .tab past id deadline ∧ deadline ≤ now
  | (_, .gui, _) => False

/-- The tab was created, and has not ended since. -/
def InUse (P : Platform Outside GuiState) (byConnection : Bool) (id : String)
    (past : List (World GuiState × Event Outside × World GuiState)) : Prop :=
  SinceGiven (fun entry => ∃ bev, Creates P bev id entry) (Finishes P byConnection id) past

theorem exists_creates_iff {id : String} {entry : World GuiState × Event Outside × World GuiState} :
    (∃ bev, Creates P bev id entry) ↔ CreatesAt P (fun _ => True) id entry := by
  obtain ⟨w, e, w'⟩ := entry
  cases e with
  | request i bev requestText =>
    simp only [Creates, CreatesAt, and_true]
    exact ⟨fun ⟨_, heq, h⟩ => heq ▸ h, fun h => ⟨bev, rfl, h⟩⟩
  | _ => exact ⟨fun ⟨_, h⟩ => h.elim, False.elim⟩

/-! ### By the tables -/

/-- The event takes the tab out of the table of the server. -/
def Removes (P : Platform Outside GuiState) (id : String) :
    World GuiState × Event Outside × World GuiState → Prop
  | (w, .request _ bev requestText, w') =>
    Confirmed bev w w' ∧ (decode P requestText = .ok (.KillTab id) ∧ w.server.isExtraTab id = false
      ∨ decode P requestText = .ok (.IAmAliveTab id 0))
  | (w, .close bev, _) => w.server.Owns bev id
  | (w, .tick now, _) => id ∈ expired now w.server.tabLeases
  | (_, .gui, _) => False

theorem UsesTab.ofTabs {id : String} {request : Request} (h : UsesTab id request) :
    Request.OfTabs request := by
  cases request <;> trivial

theorem Answers.confirmed_iff {code : ReturnCode} (h : Answers bev code w w') :
    Confirmed bev w w' ↔ code = .MTSRC_OK := by
  obtain ⟨json, hsent, hcode⟩ := h
  rw [Server.confirmed_iff hsent, Succeeds, hcode, Option.some.injEq]
  cases code <;> simp [ReturnCode.toJson]

/-- A kill that succeeds is one of a live tab. -/
theorem live_of_killTab {rules : StoreRules} {t' : Store} {now : Time} {uuid id : String}
    (h : StoreStep rules t (.served bev now uuid (.KillTab id) .MTSRC_OK) t') : t.tabs.Live id := by
  cases h with
  | served hserves =>
    generalize hcode : ReturnCode.MTSRC_OK = code at hserves
    cases hserves with
    | killTab => exact (Store.answer_eq_ok_iff.mp hcode.symm).2

section Refines

variable {config : RuntimeConfig} {entry : World GuiState × Event Outside × World GuiState}
  {step : Store × StoreEvent × Store} (h : Refines P config entry step) (id : String)

include h

/-- A tab is handed out to who creates it. -/
theorem Refines.opens_iff (asked : ℤ → Prop) : CreatesAt P asked id entry ↔ Opens asked id step := by
  obtain ⟨w, e, w'⟩ := entry
  obtain ⟨t, event, t'⟩ := step
  cases h.observes with
  | @served i bev requestText request code _ _ hdecode htabs hanswers =>
    constructor
    · rintro ⟨rfl, ⟨requestedUrl, iconUrl, preferredPos, flags, hnew, hasked⟩, hconfirmed⟩
      rw [hdecode, Except.ok.injEq] at hnew
      rw [hnew, hanswers.confirmed_iff.mp hconfirmed]
      exact ⟨rfl, hasked⟩
    · intro hopens
      cases request with
      | NewWebTab requestedUrl iconUrl preferredPos flags =>
        cases code with
        | MTSRC_OK =>
          exact ⟨hopens.1, ⟨requestedUrl, iconUrl, preferredPos, flags, hdecode, hopens.2⟩,
            hanswers.confirmed_iff.mpr rfl⟩
        | _ => exact hopens.elim
      | _ => exact hopens.elim
  | @other i bev requestText request _ _ hdecode hother =>
    refine iff_of_false ?_ fun hopens => hopens
    rintro ⟨rfl, ⟨requestedUrl, iconUrl, preferredPos, flags, hnew, -⟩, -⟩
    rw [hdecode, Except.ok.injEq] at hnew
    exact hother (hnew ▸ trivial)
  | _ => exact Iff.rfl

/-- A tab ends for the server when it ends for the store. -/
theorem Refines.ends_iff : Removes P id entry ↔ Ends config.tabLifetimeByConnection id step := by
  obtain ⟨w, e, w'⟩ := entry
  obtain ⟨t, event, t'⟩ := step
  have htabled : Tabled w.server t.tabs t.shortcuts := h.before.tabled
  have hconfig : w.server.runtimeConfig = config := h.configured
  cases h.observes with
  | @served i bev requestText request code _ _ hdecode htabs hanswers =>
    have hremoves : Removes P id (w, .request i bev requestText, w') ↔ code = .MTSRC_OK
        ∧ (request = .KillTab id ∧ w.server.isExtraTab id = false ∨ request = .IAmAliveTab id 0) := by
      rw [Removes, hanswers.confirmed_iff, hdecode, Except.ok.injEq, Except.ok.injEq]
    rw [hremoves]
    cases request with
    | KillTab a =>
      cases code with
      | MTSRC_OK =>
        have hlive : t.tabs.Live a := live_of_killTab h.taken
        simp only [true_and, Request.KillTab.injEq, reduceCtorEq, or_false]
        refine and_congr_right ?_
        rintro rfl
        obtain ⟨item, hitem⟩ := Registry.live_iff.mp hlive
        rw [← htabled.extra a item hitem]
        refine ⟨fun hnormal => ⟨item, hitem, hnormal⟩, ?_⟩
        rintro ⟨item', hitem', hnormal⟩
        rw [hitem, Option.some.injEq] at hitem'
        exact hitem' ▸ hnormal
      | _ => exact iff_of_false (fun hremoved => by cases hremoved.1) fun hends => hends
    | IAmAliveTab a ttl =>
      cases code with
      | MTSRC_OK =>
        simp only [true_and, Request.IAmAliveTab.injEq, reduceCtorEq, false_and, false_or]
        rfl
      | _ => exact iff_of_false (fun hremoved => by cases hremoved.1) fun hends => hends
    | _ =>
      refine iff_of_false ?_ fun hends => hends
      rintro ⟨-, ⟨hkill, -⟩ | hend⟩
      · cases hkill
      · cases hend
  | @other i bev requestText request _ _ hdecode hother =>
    refine iff_of_false ?_ fun hends => hends
    rintro ⟨-, ⟨hkill, -⟩ | hend⟩
    · rw [hdecode, Except.ok.injEq] at hkill
      exact hother (hkill ▸ trivial)
    · rw [hdecode, Except.ok.injEq] at hend
      exact hother (hend ▸ trivial)
  | close =>
    show w.server.Owns _ id ↔ _
    rw [htabled.owners, hconfig]
    rfl
  | tick => exact htabled.tabLeases.mem_expired_iff _ id
  | gui => exact Iff.rfl

end Refines

/-! ### Runs -/

/-- The ids are fresh before an event of the run, too. -/
theorem fresh_of_split {before after : List (World GuiState × Event Outside × World GuiState)}
    (hnonempty : "" ∉ uuids (before ++ after)) (hfresh : (uuids (before ++ after)).Nodup) :
    "" ∉ uuids before ∧ (uuids before).Nodup := by
  rw [uuids, List.filterMap_append] at hnonempty hfresh
  exact ⟨fun hmem => hnonempty (List.mem_append_left _ hmem), (List.nodup_append.mp hfresh).1⟩

section Runs

variable (hgui : P.gui = GuiState.port) {softwareVersion timestamp : String} {config : RuntimeConfig}
  {trace : List (World GuiState × Event Outside × World GuiState)}
  (hrun : Steps (Traced (Step P GuiState.Moves))
    (World.start softwareVersion timestamp config (GuiState.start config)) trace w)
  (hnonempty : "" ∉ uuids trace) (hfresh : (uuids trace).Nodup)

include hgui hrun hnonempty hfresh

/-- A tab is held from when it is handed out until it is taken out of the table. -/
theorem held_iff_since (id : String) : id ∈ w.server.tabLeases
    ↔ Since (fun entry => ∃ bev, Creates P bev id entry) (Removes P id) trace := by
  obtain ⟨-, steps, t, hrefines, hsteps, hrep⟩ := simulated_of_run hgui hrun hnonempty hfresh
  have hstart : Store.start.Sound := fun a hlive => absurd hlive (not_live_empty a)
  have hlive : t.tabs.Live id
      ↔ Since (Opens (fun _ => True) id) (Ends config.tabLifetimeByConnection id) steps :=
    hsteps.since_iff (fun hs hl => hl.sound hs) (fun hs hl => hl.live_iff hs id) hstart (not_live_empty id)
  rw [hrep.tabled.tabLeases.mem_iff, hlive]
  exact (since_iff_of_forall₂ (fun hentry => exists_creates_iff.trans (hentry.opens_iff id _))
    (fun hentry => hentry.ends_iff id) hrefines).symm

/-- A tab that is held is the extra tab if it was created as such. -/
theorem isExtraTab_iff_createdExtra {id : String} (hheld : id ∈ w.server.tabLeases) :
    w.server.isExtraTab id = true ↔ CreatedExtra P trace id := by
  obtain ⟨-, steps, t, hrefines, hsteps, hrep⟩ := simulated_of_run hgui hrun hnonempty hfresh
  obtain ⟨item, hitem⟩ := Registry.live_iff.mp ((hrep.tabled.tabLeases.mem_iff id).mp hheld)
  have htag : t.tabs.tags id = some item.tag := by rw [tags, hitem, Option.map_some]
  rw [← hrep.tabled.extra id item hitem, extra_of_store hsteps htag]
  exact (since_iff_of_forall₂ (fun hentry => hentry.opens_iff id _) (fun hentry => hentry.opens_iff id _)
    hrefines).symm

/-- **For a tab that is held**, what happened and the tables tell the same about its end. -/
theorem removes_iff_finishes {id : String} (hheld : id ∈ w.server.tabLeases) (e : Event Outside)
    (w' : World GuiState) :
    Removes P id (w, e, w') ↔ Finishes P config.tabLifetimeByConnection id trace (w, e, w') := by
  cases e with
  | request i bev requestText =>
    refine and_congr_right fun _ => or_congr_left (and_congr_right fun _ => ?_)
    rw [← isExtraTab_iff_createdExtra hgui hrun hnonempty hfresh hheld, Bool.not_eq_true]
  | close bev =>
    have hconfig := (simulated_of_run hgui hrun hnonempty hfresh).1
    show w.server.Owns bev id ↔ config.tabLifetimeByConnection = true ∧ CreatedThrough P trace bev id
    rw [(owners_of_run hrun hnonempty hfresh).owners, hconfig, and_iff_left hheld]
  | tick now =>
    have hlog := leaseLog_of_run hrun hnonempty hfresh .tab
    exact (hlog.mem_expired_iff now id).trans (and_iff_right hheld)
  | gui => exact Iff.rfl

/-- **The server holds a tab** as long as it is in use. -/
theorem held_iff_inUse (id : String) :
    id ∈ w.server.tabLeases ↔ InUse P config.tabLifetimeByConnection id trace := by
  rw [held_iff_since hgui hrun hnonempty hfresh]
  refine since_iff_sinceGiven fun past entry after hsplit hsince => ?_
  subst hsplit
  obtain ⟨w₁, w₂, hpast, ⟨rfl, rfl, -⟩, -⟩ := hrun.split
  obtain ⟨hnonempty, hfresh⟩ := fresh_of_split hnonempty hfresh
  have hheld := (held_iff_since hgui hpast hnonempty hfresh id).mpr hsince
  exact removes_iff_finishes hgui hpast hnonempty hfresh hheld entry.2.1 entry.2.2

/-- **A tab can be used** exactly from when it was handed out until it ends: so much can be relied on without
knowing who keeps what. -/
theorem usable_of_run {before after : List (World GuiState × Event Outside × World GuiState)}
    {w₁ w₂ : World GuiState} {requestText : Bytes} {request : Request} {id : String}
    (hsplit : trace = before ++ (w₁, .request i bev requestText, w₂) :: after)
    (hdecode : decode P requestText = .ok request) (huses : UsesTab id request) :
    Confirmed bev w₁ w₂ ↔ InUse P config.tabLifetimeByConnection id before := by
  subst hsplit
  obtain ⟨-, steps, t, hrefines, hsteps, -⟩ := simulated_of_run hgui hrun hnonempty hfresh
  -- the steps of the store before this request, and the one that is this request
  have hbefore := List.forall₂_take before.length hrefines
  have hrest := List.forall₂_drop before.length hrefines
  rw [List.take_left] at hbefore
  rw [List.drop_left] at hrest
  obtain ⟨⟨t₁, event, t₂⟩, rest, hentry, -, hdrop⟩ := List.forall₂_cons_left_iff.mp hrest
  have hsteps' : steps = steps.take before.length ++ (t₁, event, t₂) :: rest := by
    rw [← hdrop, List.take_append_drop]
  obtain ⟨_, _, hpast, ⟨rfl, -, -⟩, -⟩ := hrun.split
  obtain ⟨hnonempty, hfresh⟩ := fresh_of_split hnonempty hfresh
  cases hentry.observes with
  | served hdecode' htabs hanswers =>
    rw [hdecode, Except.ok.injEq] at hdecode'
    subst hdecode'
    rw [hanswers.confirmed_iff, usable_of_store hsteps hsteps' huses,
      ← held_iff_inUse hgui hpast hnonempty hfresh, held_iff_since hgui hpast hnonempty hfresh]
    exact (since_iff_of_forall₂ (fun hentry => exists_creates_iff.trans (hentry.opens_iff id _))
      (fun hentry => hentry.ends_iff id) hbefore).symm
  | other hdecode' hother =>
    rw [hdecode, Except.ok.injEq] at hdecode'
    subst hdecode'
    exact absurd huses.ofTabs hother

end Runs

/-- The tab is used while its lease runs. -/
theorem usable_of_lease : ∃ before w₁ w₂,
    Steps (Traced (Step tabPlatform GuiState.Moves)) (World.start "1" "2024-01-01T00:00:00Z" {} (.start {}))
        (before ++ [(w₁, .request sampleInput 7 aliveText, w₂)]) w₂
      ∧ Confirmed 7 w₁ w₂ ∧ InUse tabPlatform false leasedId before := by
  have hrun : Steps (Traced (Step tabPlatform GuiState.Moves))
      (World.start "1" "2024-01-01T00:00:00Z" {} (.start {}))
      ([(_, .gui, _), (_, .request { sampleInput with uuid := leasedId } 7 newTabText, _)]
        ++ [(_, .request sampleInput 7 aliveText, _)]) _ :=
    .cons ⟨rfl, rfl, .gui .startup⟩ (.cons ⟨rfl, rfl, .request rfl⟩
      (.cons ⟨rfl, rfl, .request rfl⟩ (.nil _)))
  have hdecode : decode tabPlatform aliveText = .ok (.IAmAliveTab leasedId 30) := rfl
  have hok : Succeeds (response .MTSRC_OK) := succeeds_response_iff.mpr rfl
  refine ⟨_, _, _, hrun, ⟨_, rfl, hok⟩, ?_⟩
  exact (usable_of_run rfl hrun (by decide) (by decide) rfl hdecode rfl).mp ⟨_, rfl, hok⟩

end OpenMadt.Server
