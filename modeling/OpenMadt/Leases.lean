import OpenMadt.Agreement

/-!
# The server's tables of leases and owners

Which tabs and shortcuts are leased until when, and which tabs each connection owns.  There are few
ways in which the tables change; each is described once, exactly.

* `Forgets` — some tabs disappear from all tables, and nothing else happens; `forgets_dropTabs` for a
  whole list of them, while the sets of owned tabs are walked and emptied.
* `TableEffect` — what a request does to the tables; `Effect.tables` shows that there is nothing else.
-/

namespace OpenMadt.Server

open Gui Run

/-- The connection has the tab among its own. -/
def Owns (s : Server) (bev : Conn) (id : String) : Prop :=
  ∃ owned : StdSet String, s.connectionTabs[bev]? = some owned ∧ id ∈ owned

/-- No set of owned tabs is empty. -/
def NoEmptySet (s : Server) : Prop :=
  ∀ (bev : Conn) (owned : StdSet String), s.connectionTabs[bev]? = some owned → owned.isEmpty = false

/-- The tables of tabs and shortcuts. -/
def tables (s : Server) :
    StdMap String (Option Time) × StdMap String (Option Time) × StdMap Conn (StdSet String) × String :=
  (s.tabLeases, s.shortcutLeases, s.connectionTabs, s.extraTabId)

/-! ### Forgetting tabs -/

/-- The tabs `ids` are in no table any more, and everything else is as before. -/
structure Forgets (ids : Set String) (s s' : Server) : Prop where
  gone : ∀ id ∈ ids, s'.tabLeases[id]? = none
  kept : ∀ id ∉ ids, s'.tabLeases[id]? = s.tabLeases[id]?
  owns : ∀ bev id, s'.Owns bev id ↔ s.Owns bev id ∧ id ∉ ids
  noEmptySet : s.NoEmptySet → s'.NoEmptySet
  extraGone : s.extraTabId ∈ ids → s'.extraTabId = ""
  extraKept : s.extraTabId ∉ ids → s'.extraTabId = s.extraTabId
  shortcutLeases : s'.shortcutLeases = s.shortcutLeases
  rest : s'.rest = s.rest

theorem Forgets.nothing (s : Server) : Forgets ∅ s s where
  gone := fun _ hid => hid.elim
  kept := fun _ _ => rfl
  owns := fun _ _ => (and_iff_left id).symm
  noEmptySet := id
  extraGone := fun hid => hid.elim
  extraKept := fun _ => rfl
  shortcutLeases := rfl
  rest := rfl

theorem Forgets.trans {ids ids' : Set String} {s s' s'' : Server} (h : Forgets ids s s')
    (h' : Forgets ids' s' s'') : Forgets (ids ∪ ids') s s'' := by
  refine ⟨fun id hid => ?_, fun id hid => ?_, fun bev id => ?_, h'.noEmptySet ∘ h.noEmptySet, fun hid => ?_,
    fun hid => ?_, h'.shortcutLeases.trans h.shortcutLeases, h'.rest.trans h.rest⟩
  · by_cases hlast : id ∈ ids'
    · exact h'.gone id hlast
    · rw [h'.kept id hlast]
      exact h.gone id (hid.resolve_right hlast)
  · rw [Set.mem_union, not_or] at hid
    rw [h'.kept id hid.2, h.kept id hid.1]
  · rw [h'.owns, h.owns, Set.mem_union, not_or, and_assoc]
  · by_cases hfirst : s.extraTabId ∈ ids
    · have hempty := h.extraGone hfirst
      by_cases hlast : s'.extraTabId ∈ ids'
      · exact h'.extraGone hlast
      · rw [h'.extraKept hlast, hempty]
    · have hsame := h.extraKept hfirst
      exact h'.extraGone (hsame ▸ hid.resolve_left hfirst)
  · rw [Set.mem_union, not_or] at hid
    have hsame := h.extraKept hid.1
    rw [h'.extraKept (hsame ▸ hid.2), hsame]

/-- A set of owned tabs without one of them; nothing if it is empty then. -/
def without (tabId : String) (owned : StdSet String) : Option (StdSet String) :=
  if (owned.erase tabId).isEmpty then none else some (owned.erase tabId)

theorem getElem?_forgetFrom (tabId : String) (tabs : StdMap Conn (StdSet String)) (bev bev' : Conn) :
    (forgetFrom tabId tabs bev)[bev']?
      = if bev = bev' then tabs[bev']?.bind (without tabId) else tabs[bev']? := by
  unfold forgetFrom
  by_cases hbev : bev = bev'
  · subst hbev
    cases howned : tabs[bev]? with
    | none => simp [howned]
    | some owned =>
      dsimp only
      rw [if_pos rfl, Option.bind_some, without]
      split
      · exact Std.ExtTreeMap.getElem?_erase_self
      · exact Std.ExtTreeMap.getElem?_insert_self
  · rw [if_neg hbev]
    split
    · rfl
    · split
      · rw [StdMap.getElem?_erase, if_neg hbev]
      · rw [StdMap.getElem?_insert, if_neg hbev]

/-- The walk over all sets: each is met once. -/
theorem getElem?_forget (tabId : String) (tabs : StdMap Conn (StdSet String)) (bev : Conn) :
    (tabs.keys.foldl (forgetFrom tabId) tabs)[bev]? = tabs[bev]?.bind (without tabId) := by
  have hwalk : ∀ (bevs : List Conn), bevs.Nodup → ∀ tabs : StdMap Conn (StdSet String),
      (bevs.foldl (forgetFrom tabId) tabs)[bev]?
        = if bev ∈ bevs then tabs[bev]?.bind (without tabId) else tabs[bev]? := by
    intro bevs
    induction bevs with
    | nil => exact fun _ tabs => (if_neg List.not_mem_nil).symm
    | cons first bevs ih =>
      intro hnodup tabs
      obtain ⟨hfirst, hrest⟩ := List.nodup_cons.mp hnodup
      rw [List.foldl_cons, ih hrest, getElem?_forgetFrom]
      by_cases hbev : first = bev
      · subst hbev
        simp [hfirst]
      · simp [hbev, Ne.symm hbev]
  have hnodup : tabs.keys.Nodup :=
    Std.ExtTreeMap.distinct_keys.imp fun hne heq => hne (Std.LawfulEqOrd.compare_eq_iff_eq.mpr heq)
  rw [hwalk tabs.keys hnodup tabs]
  split
  next => rfl
  next hmissing =>
    rw [Std.ExtTreeMap.mem_keys] at hmissing
    rw [Std.ExtTreeMap.getElem?_eq_none hmissing, Option.bind_none]

theorem without_eq_some_iff {tabId : String} {owned owned' : StdSet String} :
    without tabId owned = some owned' ↔ owned'.isEmpty = false ∧ owned' = owned.erase tabId := by
  unfold without
  cases hempty : (owned.erase tabId).isEmpty with
  | true =>
    simp only [if_true, reduceCtorEq, false_iff, not_and]
    rintro hfilled rfl
    rw [hempty] at hfilled
    cases hfilled
  | false =>
    simp only [Bool.false_eq_true, if_false, Option.some.injEq]
    constructor
    · rintro rfl
      exact ⟨hempty, rfl⟩
    · exact fun h => h.2.symm

theorem forgets_forgetOwnedTab {tabId : String} (hid : tabId ≠ "") (s : Server) :
    Forgets {tabId} s (s.forgetOwnedTab tabId) := by
  have hrest := s.rest_forgetOwnedTab tabId
  unfold forgetOwnedTab at hrest ⊢
  rw [if_neg hid] at hrest ⊢
  refine ⟨fun id h => ?_, fun id h => ?_, fun bev id => ?_, fun _ bev owned h => ?_, fun h => if_pos h,
    fun h => if_neg h, rfl, hrest⟩
  · rw [Set.mem_singleton_iff] at h
    rw [h]
    exact Std.ExtTreeMap.getElem?_erase_self
  · rw [Set.mem_singleton_iff] at h
    exact (StdMap.getElem?_erase _ _ _).trans (if_neg (Ne.symm h))
  · simp only [Owns, getElem?_forget, Option.bind_eq_some_iff, without_eq_some_iff,
      Set.mem_singleton_iff]
    constructor
    · rintro ⟨owned', ⟨owned, howned, -, rfl⟩, hmem⟩
      rw [Std.ExtTreeSet.mem_erase] at hmem
      exact ⟨⟨owned, howned, hmem.2⟩, fun heq => hmem.1 (by simp [heq])⟩
    · rintro ⟨⟨owned, howned, hmem⟩, hne⟩
      have hstays : id ∈ owned.erase tabId :=
        Std.ExtTreeSet.mem_erase.mpr ⟨by simpa using Ne.symm hne, hmem⟩
      exact ⟨_, ⟨owned, howned,
        Std.ExtTreeSet.isEmpty_eq_false_iff.mpr (Std.ExtTreeSet.ne_empty_of_mem hstays), rfl⟩, hstays⟩
  · simp only [getElem?_forget, Option.bind_eq_some_iff, without_eq_some_iff] at h
    obtain ⟨_, -, hfilled, -⟩ := h
    exact hfilled

section Drops

variable {I G : Type} (P : Platform I G)

/-- Several tabs are killed and forgotten, one after the other. -/
theorem forgets_dropTabs {tabIds : List String} (hids : "" ∉ tabIds) (w : World G) :
    Forgets {id | id ∈ tabIds} w.server (tabIds.foldl (dropTab P) w).server := by
  induction tabIds generalizing w with
  | nil => simpa using Forgets.nothing w.server
  | cons tabId tabIds ih =>
    rw [List.mem_cons, not_or] at hids
    have hfirst := forgets_forgetOwnedTab (Ne.symm hids.1) w.server
    have hall := hfirst.trans (ih hids.2 (dropTab P w tabId))
    have hset : {tabId} ∪ {id | id ∈ tabIds} = {id | id ∈ tabId :: tabIds} := by
      ext id
      simp
    rw [List.foldl_cons, ← hset]
    exact hall

theorem gui_dropTabs (tabIds : List String) (w : World G) :
    (tabIds.foldl (dropTab P) w).gui
      = tabIds.foldl (fun g tabId => P.gui.post (.KillTab tabId true) g) w.gui := by
  induction tabIds generalizing w with
  | nil => rfl
  | cons tabId tabIds ih => exact ih _

theorem shortcutLeases_dropShortcuts (shortcutIds : List String) (w : World G) (id : String) :
    (shortcutIds.foldl (dropShortcut P) w).server.shortcutLeases[id]?
      = if id ∈ shortcutIds then none else w.server.shortcutLeases[id]? := by
  induction shortcutIds generalizing w with
  | nil => exact (if_neg List.not_mem_nil).symm
  | cons shortcutId shortcutIds ih =>
    have herased : (dropShortcut P w shortcutId).server.shortcutLeases[id]?
        = if shortcutId = id then none else w.server.shortcutLeases[id]? := by
      exact StdMap.getElem?_erase _ _ _
    rw [List.foldl_cons, ih, herased]
    by_cases hid : shortcutId = id
    · rw [if_pos hid, ite_self, if_pos (List.mem_cons.mpr (Or.inl hid.symm))]
    · rw [if_neg hid]
      simp only [List.mem_cons, Ne.symm hid, false_or]

theorem gui_dropShortcuts (shortcutIds : List String) (w : World G) :
    (shortcutIds.foldl (dropShortcut P) w).gui
      = shortcutIds.foldl (fun g id => P.gui.post (.KillShortcut id) g) w.gui := by
  induction shortcutIds generalizing w with
  | nil => rfl
  | cons shortcutId shortcutIds ih => exact ih _

/-- The tabs have nothing to do with it. -/
theorem server_dropShortcuts (shortcutIds : List String) (w : World G) :
    (shortcutIds.foldl (dropShortcut P) w).server = { w.server with
      shortcutLeases := (shortcutIds.foldl (dropShortcut P) w).server.shortcutLeases } := by
  induction shortcutIds generalizing w with
  | nil => rfl
  | cons shortcutId shortcutIds ih => exact ih _

/-- The lease timer drops tabs first; after that, the tabs have nothing to do with it. -/
theorem tabs_pruneExpiredTabs (now : Time) (w : World G) :
    (pruneExpiredTabs P now w).server.tabLeases
        = ((expired now w.server.tabLeases).foldl (dropTab P) w).server.tabLeases
      ∧ (pruneExpiredTabs P now w).server.connectionTabs
        = ((expired now w.server.tabLeases).foldl (dropTab P) w).server.connectionTabs
      ∧ (pruneExpiredTabs P now w).server.extraTabId
        = ((expired now w.server.tabLeases).foldl (dropTab P) w).server.extraTabId := by
  have hshortcuts := server_dropShortcuts P (expired now ((expired now w.server.tabLeases).foldl
    (dropTab P) w).server.shortcutLeases) ((expired now w.server.tabLeases).foldl (dropTab P) w)
  simp only [pruneExpiredTabs]
  rw [hshortcuts]
  exact ⟨rfl, rfl, rfl⟩

end Drops

/-- A lease that has ended has a deadline that has come. -/
theorem mem_expired_iff {now : Time} {leases : StdMap String (Option Time)} {id : String} :
    id ∈ expired now leases ↔ ∃ deadline, leases[id]? = some (some deadline) ∧ deadline ≤ now := by
  simp only [expired, List.mem_map, List.mem_filter, Prod.exists,
    Std.ExtTreeMap.mem_toList_iff_getElem?_eq_some]
  constructor
  · rintro ⟨_, lease, ⟨hlease, hdue⟩, rfl⟩
    cases lease with
    | none => cases hdue
    | some deadline => exact ⟨deadline, hlease, by simpa using hdue⟩
  · rintro ⟨deadline, hlease, hdue⟩
    exact ⟨id, some deadline, ⟨hlease, by simpa using hdue⟩, rfl⟩

/-! ### Requests -/

/-- The answer says that the request was carried out. -/
def Succeeds (json : Json) : Prop := json.find? "retCode" = some ReturnCode.MTSRC_OK.toJson

theorem succeeds_response_iff {code : ReturnCode} {members : List (String × Json)} :
    Succeeds (response code members) ↔ code = .MTSRC_OK := by
  rw [Succeeds, response, Json.find?_obj, List.lookup_cons_self, Option.some.injEq]
  refine ⟨fun h => ?_, fun h => by rw [h]⟩
  cases code with
  | MTSRC_OK => rfl
  | _ => cases h

/-- The request is to change the tables, if it is carried out. -/
def Writes (s : Server) : Request → Prop
  | .NewWebTab .. | .NewShortcut .. | .KillShortcut _ | .IAmAliveTab .. | .IAmAliveShortcut .. => True
  | .KillTab tabId => s.isExtraTab tabId = false
  | _ => False

/-- What a request does to the tables. -/
inductive TableEffect {I : Type} (i : Input I) (bev : Conn) (s : Server) :
    Request → Server → Json → Prop where
  /-- Nothing, and this is not hidden if it should have been something. -/
  | same {request : Request} {s' : Server} {json : Json} (htables : s'.tables = s.tables)
      (hfailed : Writes s request → ¬ Succeeds json) : TableEffect i bev s request s' json
  | newTab {requestedUrl iconUrl : String} {preferredPos flags : ℤ} :
      TableEffect i bev s (.NewWebTab requestedUrl iconUrl preferredPos flags)
        (if preferredPos = OpenMadt.POS_EXTRA then
          { s.rememberOwnedTab bev i.uuid with extraTabId := i.uuid }
        else s.rememberOwnedTab bev i.uuid)
        (response .MTSRC_OK [("tabId", .str i.uuid)])
  | newShortcut {url iconUrl : String} {preferredPos flags : ℤ} :
      TableEffect i bev s (.NewShortcut url iconUrl preferredPos flags)
        { s with shortcutLeases := s.shortcutLeases.insertIfNew i.uuid none }
        (response .MTSRC_OK [("shortcutId", .str i.uuid)])
  | forgetTab {request : Request} {tabId : String}
      (hrequest : request = .KillTab tabId ∧ s.isExtraTab tabId = false
        ∨ request = .IAmAliveTab tabId 0) :
      TableEffect i bev s request (s.forgetOwnedTab tabId) (response .MTSRC_OK)
  | forgetShortcut {request : Request} {shortcutId : String}
      (hrequest : request = .KillShortcut shortcutId ∨ request = .IAmAliveShortcut shortcutId 0) :
      TableEffect i bev s request
        { s with shortcutLeases := s.shortcutLeases.erase shortcutId } (response .MTSRC_OK)
  | leaseTab {tabId : String} {ttl : ℤ} (hmem : tabId ∈ s.tabLeases) (httl : ttl ≠ 0) :
      TableEffect i bev s (.IAmAliveTab tabId ttl)
        { s with tabLeases := s.tabLeases.insert tabId (some (i.now + seconds ttl)) }
        (response .MTSRC_OK)
  | leaseShortcut {shortcutId : String} {ttl : ℤ} (hmem : shortcutId ∈ s.shortcutLeases)
      (httl : ttl ≠ 0) :
      TableEffect i bev s (.IAmAliveShortcut shortcutId ttl)
        { s with shortcutLeases := s.shortcutLeases.insert shortcutId (some (i.now + seconds ttl)) }
        (response .MTSRC_OK)

section Requests

variable {I G : Type} {P : Platform I G} {i : Input I} {bev : Conn} {s s' : Server}
  {request : Request} {x : Exchange} {json : Json}

theorem tables_afterRequest (request : Request) (s : Server) :
    (afterRequest P i s request).tables = s.tables := by
  unfold afterRequest
  split
  · rw [authorize_server]
    rfl
  · split
    · split <;> rfl
    · rfl

/-- The other requests leave the tables alone. -/
theorem Effect.tables (h : Effect P i bev s request x s' json) (hquiet : ¬ Writes s request)
    (hkill : ∀ tabId, request ≠ .KillTab tabId) : s'.tables = s.tables := by
  cases h with
  | answer _ => exact tables_afterRequest request s
  | issue _ _ _ => rfl
  | exit hcontrol _ =>
    rw [← afterRequest_control (P := P) (i := i) hcontrol]
    exact tables_afterRequest request s
  | failure _ _ => exact tables_afterRequest request s
  | query _ _ _ => exact tables_afterRequest request s
  | settings _ => rfl
  | hideTab _ _ => rfl
  | killTab hrequest _ =>
    rcases hrequest with rfl | rfl
    · exact absurd rfl (hkill _)
    · exact absurd trivial hquiet
  | killShortcut hrequest _ => rcases hrequest with rfl | rfl <;> exact absurd trivial hquiet
  | _ => exact absurd trivial hquiet

theorem Plan.Ensures.mono {Q Q' : Exchange → Server → Json → Prop} {p : Plan} (h : p.Ensures Q)
    (hQ : ∀ {x s json}, Q x s json → Q' x s json) : p.Ensures Q' := by
  cases p with
  | answer s json => exact hQ h
  | stop s json exitCode => exact hQ h
  | ask c k => exact fun gResp => hQ (h gResp)

/-- A question that does not succeed is answered with an error, and the tables are as before. -/
theorem tableEffect_of_failed {gResp : Option CmdResponse} {code : ReturnCode}
    (hfailed : Failed gResp code) : TableEffect i bev s request s (response code) :=
  .same rfl fun _ hok => hfailed.2.1 (succeeds_response_iff.mp hok)

/-- **There is nothing else that a request does to the tables.** -/
theorem ensures_tables (bev : Conn) (s : Server) (request : Request) :
    (plan P i bev s request).Ensures fun _ s' json => TableEffect i bev s request s' json := by
  by_cases hwrites : Writes s request
  · cases request with
    | NewWebTab requestedUrl iconUrl preferredPos flags =>
      exact ensures_askFor tableEffect_of_failed fun _ => .newTab
    | NewShortcut url iconUrl preferredPos flags =>
      exact ensures_askFor tableEffect_of_failed fun _ => .newShortcut
    | KillTab tabId =>
      have hextra : s.isExtraTab tabId = false := hwrites
      simp only [plan, hextra]
      exact ensures_askFor tableEffect_of_failed fun _ => .forgetTab (Or.inl ⟨rfl, hextra⟩)
    | KillShortcut shortcutId =>
      exact ensures_askFor tableEffect_of_failed fun _ => .forgetShortcut (Or.inl rfl)
    | IAmAliveTab tabId ttl =>
      simp only [plan]
      split
      next => exact .same rfl fun _ hok => by cases succeeds_response_iff.mp hok
      next hmem =>
        split
        next httl =>
          exact ensures_askFor tableEffect_of_failed fun _ => .forgetTab (Or.inr (by rw [httl]))
        next httl => exact .leaseTab (by simpa [hasTab] using hmem) httl
    | IAmAliveShortcut shortcutId ttl =>
      simp only [plan]
      split
      next => exact .same rfl fun _ hok => by cases succeeds_response_iff.mp hok
      next hmem =>
        split
        next httl =>
          exact ensures_askFor tableEffect_of_failed fun _ =>
            .forgetShortcut (Or.inr (by rw [httl]))
        next httl => exact .leaseShortcut (not_not.mp hmem) httl
    | _ => exact hwrites.elim
  · by_cases hkill : ∃ tabId, request = .KillTab tabId
    · obtain ⟨tabId, rfl⟩ := hkill
      have hextra : s.isExtraTab tabId = true := by simpa [Writes] using hwrites
      simp only [plan, hextra]
      exact ensures_askFor tableEffect_of_failed fun _ => .same rfl fun h => absurd h hwrites
    · rw [not_exists] at hkill
      exact (ensures_effect bev s request).mono fun h =>
        .same (h.tables hwrites hkill) fun h => absurd h hwrites

/-- The effect of a request that is processed on the tables. -/
theorem tableEffect_of_outcome {w w' : World G} {requestText : Bytes}
    (h : outcome (processFrame P i bev requestText) w = .ok w') :
    ∃ request json, decode P requestText = .ok request
      ∧ TableEffect i bev w.server request w'.server json ∧ w'.sent = w.sent ++ [(bev, json)] := by
  obtain ⟨request, hdecode, hrun⟩ := decoded_of_outcome h
  obtain ⟨x, json, htables, -, hsent⟩ := (ensures_tables bev w.server request).run hrun
  exact ⟨request, json, hdecode, htables, hsent⟩

end Requests

end OpenMadt.Server
