import OpenMadt.Ownership

/-!
# When leases end

A tab or a shortcut is in its table from its creation until there is a cause for it to leave, and its
lease is what the last `IAmAlive` for it has made of it.

* `Kind` — tabs and shortcuts have tables of the same kind.
* `LastRenewal` — the deadline that the last confirmed `IAmAlive` has set.
* `Turn` — what an event does to one lease: there are four cases, and `Cause` says when it ends.
* `leases_of_run` — the leases along a run, what the timer removes, and why anything is removed.
-/

namespace OpenMadt.Server

open Gui Run

/-- The two kinds of things that are leased. -/
inductive Kind where
  | tab
  | shortcut
  deriving DecidableEq

namespace Kind

/-- The table. -/
def leases : Kind → Server → StdMap String (Option Time)
  | .tab, s => s.tabLeases
  | .shortcut, s => s.shortcutLeases

/-- `IAmAlive` for one of them. -/
def alive : Kind → String → ℤ → Request
  | .tab => .IAmAliveTab
  | .shortcut => .IAmAliveShortcut

/-- `KillTab` or `KillShortcut`. -/
def kill : Kind → String → Request
  | .tab => .KillTab
  | .shortcut => .KillShortcut

end Kind

section Leases

variable {I G : Type} {P : Platform I G} {moves : G → G → Prop} {k : Kind}
  {trace : List (World G × Event I × World G)}

/-! ### Renewals -/

/-- A confirmed `IAmAlive` that sets the deadline of the lease. -/
def Renews (P : Platform I G) (k : Kind) (id : String) (deadline : Time) :
    World G × Event I × World G → Prop
  | (w, .request i bev requestText, w') =>
    (∃ ttl, decode P requestText = .ok (k.alive id ttl) ∧ ttl ≠ 0 ∧ deadline = i.now + seconds ttl)
      ∧ Confirmed bev w w'
  | _ => False

/-- The last confirmed `IAmAlive` has set this deadline. -/
def LastRenewal (P : Platform I G) (k : Kind) (trace : List (World G × Event I × World G))
    (id : String) (deadline : Time) : Prop :=
  Since (Renews P k id deadline) (fun entry => ∃ deadline', Renews P k id deadline' entry) trace

theorem Renews.unique {id : String} {deadline deadline' : Time} {entry : World G × Event I × World G}
    (h : Renews P k id deadline entry) (h' : Renews P k id deadline' entry) : deadline = deadline' := by
  obtain ⟨w, e, w'⟩ := entry
  cases e with
  | request i bev requestText =>
    obtain ⟨⟨ttl, hdecode, -, rfl⟩, -⟩ := h
    obtain ⟨⟨ttl', hdecode', -, rfl⟩, -⟩ := h'
    have hsame : k.alive id ttl = k.alive id ttl' := by simpa [hdecode] using hdecode'
    cases k with
    | tab => cases hsame; rfl
    | shortcut => cases hsame; rfl
  | _ => exact h.elim

/-! ### One event and one lease -/

/-- Why something leaves its table. -/
def Cause (P : Platform I G) (k : Kind) (trace : List (World G × Event I × World G)) (id : String) :
    World G × Event I × World G → Prop
  -- the deadline of the last `IAmAlive` has come
  | (_, .tick now, _) => ∃ deadline, LastRenewal P k trace id deadline ∧ deadline ≤ now
  -- its owner is gone
  | (_, .close bev, _) => k = .tab ∧ CreatedThrough P trace bev id
  -- a kill, though not of the extra tab, or an `IAmAlive` without time
  | (w, .request _ bev requestText, w') =>
    (decode P requestText = .ok (k.kill id) ∧ (k = .tab → w.server.isExtraTab id = false)
        ∨ decode P requestText = .ok (k.alive id 0))
      ∧ Confirmed bev w w'
  | (_, .gui, _) => False

/-- What an event does to a lease. -/
inductive Turn (P : Platform I G) (k : Kind) (trace : List (World G × Event I × World G))
    (entry : World G × Event I × World G) (id : String) : Prop where
  | stays (hquiet : ∀ deadline, ¬ Renews P k id deadline entry)
      (hlease : (k.leases entry.2.2.server)[id]? = (k.leases entry.1.server)[id]?)
  | begins (hquiet : ∀ deadline, ¬ Renews P k id deadline entry)
      (huuid : entry.2.1.uuid? = some id) (hlease : (k.leases entry.2.2.server)[id]? = some none)
  | renewed {deadline : Time} (hrenews : Renews P k id deadline entry)
      (hmem : id ∈ k.leases entry.1.server)
      (hlease : (k.leases entry.2.2.server)[id]? = some (some deadline))
  | ends (hquiet : ∀ deadline, ¬ Renews P k id deadline entry) (hcause : Cause P k trace id entry)
      (hlease : (k.leases entry.2.2.server)[id]? = none)

/-- Every lease is what the last `IAmAlive` has made of it. -/
structure LeaseLog (P : Platform I G) (k : Kind) (trace : List (World G × Event I × World G))
    (s : Server) : Prop where
  used : ∀ id ∈ k.leases s, id ∈ uuids trace
  renewed : ∀ id deadline, LastRenewal P k trace id deadline → id ∈ uuids trace
  lease : ∀ id deadline, (k.leases s)[id]? = some (some deadline)
    ↔ id ∈ k.leases s ∧ LastRenewal P k trace id deadline

theorem mem_of_getElem? {leases leases' : StdMap String (Option Time)} {id : String}
    (h : leases'[id]? = leases[id]?) : id ∈ leases' ↔ id ∈ leases := by
  rw [← Std.ExtTreeMap.isSome_getElem?_iff_mem, h, Std.ExtTreeMap.isSome_getElem?_iff_mem]

/-- **The step lemma**: if an event does one of the four to every lease, the leases stay what they
should be. -/
theorem LeaseLog.step {entry : World G × Event I × World G}
    (h : LeaseLog P k trace entry.1.server) (hturn : ∀ id, Turn P k trace entry id)
    (hfresh : ∀ uuid, entry.2.1.uuid? = some uuid → uuid ∉ uuids trace) :
    LeaseLog P k (trace ++ [entry]) entry.2.2.server := by
  refine ⟨fun id hid => ?_, fun id deadline hlast => ?_, fun id deadline => ?_⟩
  · rw [uuids_append, List.mem_append]
    cases hturn id with
    | stays hquiet hlease => exact Or.inl (h.used id ((mem_of_getElem? hlease).mp hid))
    | begins hquiet huuid hlease => exact Or.inr (by simp [huuid])
    | renewed hrenews hmem hlease => exact Or.inl (h.used id hmem)
    | ends hquiet hcause hlease =>
      rw [← Std.ExtTreeMap.isSome_getElem?_iff_mem, hlease] at hid
      cases hid
  · rw [uuids_append, List.mem_append]
    refine Or.inl ?_
    rcases since_append_singleton.mp hlast with hrenews | ⟨hlast, -⟩
    · cases hturn id with
      | renewed hrenews' hmem hlease => exact h.used id hmem
      | stays hquiet hlease => exact absurd hrenews (hquiet deadline)
      | begins hquiet huuid hlease => exact absurd hrenews (hquiet deadline)
      | ends hquiet hcause hlease => exact absurd hrenews (hquiet deadline)
    · exact h.renewed id deadline hlast
  · have hkept : (∀ deadline, ¬ Renews P k id deadline entry) →
        (LastRenewal P k (trace ++ [entry]) id deadline ↔ LastRenewal P k trace id deadline) := by
      intro hquiet
      rw [LastRenewal, since_append_singleton]
      exact ⟨fun hlast => (hlast.resolve_left (hquiet deadline)).1,
        fun hlast => Or.inr ⟨hlast, fun ⟨deadline', hrenews⟩ => hquiet deadline' hrenews⟩⟩
    cases hturn id with
    | stays hquiet hlease => rw [hkept hquiet, hlease, mem_of_getElem? hlease, h.lease]
    | begins hquiet huuid hlease =>
      rw [hkept hquiet, hlease]
      simp only [Option.some.injEq, reduceCtorEq, false_iff, not_and]
      exact fun _ hlast => hfresh id huuid (h.renewed id deadline hlast)
    | @renewed deadline' hrenews hmem hlease =>
      have hmem' : id ∈ k.leases entry.2.2.server :=
        Std.ExtTreeMap.isSome_getElem?_iff_mem.mp (by rw [hlease]; rfl)
      rw [hlease, LastRenewal, since_append_singleton, Option.some.injEq, Option.some.injEq]
      constructor
      · rintro rfl
        exact ⟨hmem', Or.inl hrenews⟩
      · rintro ⟨-, hnew | ⟨-, hnot⟩⟩
        · exact hrenews.unique hnew
        · exact absurd ⟨deadline', hrenews⟩ hnot
    | ends hquiet hcause hlease =>
      rw [← Std.ExtTreeMap.isSome_getElem?_iff_mem, hlease]
      simp

/-! ### Requests -/

section Requests

variable {w w' : World G} {i : Input I} {bev : Conn} {requestText : Bytes} {request : Request}
  {json : Json}

theorem Kind.alive_inj {k k' : Kind} {id id' : String} {ttl ttl' : ℤ}
    (h : k.alive id ttl = k'.alive id' ttl') : k = k' ∧ id = id' ∧ ttl = ttl' := by
  cases k with
  | tab =>
    cases k' with
    | tab => cases h; exact ⟨rfl, rfl, rfl⟩
    | shortcut => cases h
  | shortcut =>
    cases k' with
    | tab => cases h
    | shortcut => cases h; exact ⟨rfl, rfl, rfl⟩

theorem Kind.kill_ne_alive (k k' : Kind) (id id' : String) (ttl : ℤ) : k.kill id ≠ k'.alive id' ttl := by
  cases k with
  | tab => cases k' <;> rintro ⟨⟩
  | shortcut => cases k' <;> rintro ⟨⟩

/-- What is no tab is a shortcut. -/
theorem Kind.leases_of_ne_tab {s s' : Server} (h : s'.shortcutLeases = s.shortcutLeases)
    (hkind : k ≠ .tab) : k.leases s' = k.leases s := by
  cases k with
  | tab => exact absurd rfl hkind
  | shortcut => exact h

theorem Kind.leases_of_ne_shortcut {s s' : Server} (h : s'.tabLeases = s.tabLeases)
    (hkind : k ≠ .shortcut) : k.leases s' = k.leases s := by
  cases k with
  | tab => exact h
  | shortcut => exact absurd rfl hkind

/-- What renews which lease, once the request and the answer are known. -/
theorem renews_iff (hdecode : decode P requestText = .ok request)
    (hsent : w'.sent = w.sent ++ [(bev, json)]) (k : Kind) (id : String) (deadline : Time) :
    Renews P k id deadline (w, .request i bev requestText, w')
      ↔ (∃ ttl, request = k.alive id ttl ∧ ttl ≠ 0 ∧ deadline = i.now + seconds ttl)
        ∧ Succeeds json := by
  rw [Renews, confirmed_iff hsent, hdecode]
  simp only [Except.ok.injEq]

/-- Only `IAmAlive` with time renews. -/
theorem not_renews (hdecode : decode P requestText = .ok request)
    (hsent : w'.sent = w.sent ++ [(bev, json)])
    (hother : ∀ ttl : ℤ, ttl ≠ 0 → ∀ (k : Kind) (id : String), request ≠ k.alive id ttl) (k : Kind)
    (id : String) (deadline : Time) :
    ¬ Renews P k id deadline (w, .request i bev requestText, w') := by
  rw [renews_iff hdecode hsent]
  exact fun ⟨⟨ttl, heq, httl, _⟩, _⟩ => hother ttl httl k id heq

/-- Something new is in a table. -/
theorem Turn.new {entry : World G × Event I × World G} {tabId id : String}
    (hquiet : ∀ deadline, ¬ Renews P k id deadline entry) (huuid : entry.2.1.uuid? = some tabId)
    (hleases : k.leases entry.2.2.server = (k.leases entry.1.server).insertIfNew tabId none) :
    Turn P k trace entry id := by
  by_cases hnew : tabId = id ∧ tabId ∉ k.leases entry.1.server
  · refine .begins hquiet (hnew.1 ▸ huuid) ?_
    rw [hleases, Std.ExtTreeMap.getElem?_insertIfNew, if_pos (by simpa using hnew)]
  · refine .stays hquiet ?_
    rw [hleases, Std.ExtTreeMap.getElem?_insertIfNew, if_neg (by simpa using hnew)]

/-- Something is taken out of a table. -/
theorem Turn.erased {entry : World G × Event I × World G} {tabId id : String}
    (hquiet : ∀ deadline, ¬ Renews P k id deadline entry)
    (hcause : tabId = id → Cause P k trace id entry)
    (hleases : k.leases entry.2.2.server = (k.leases entry.1.server).erase tabId) :
    Turn P k trace entry id := by
  have hlookup : (k.leases entry.2.2.server)[id]?
      = if tabId = id then none else (k.leases entry.1.server)[id]? := by
    rw [hleases, StdMap.getElem?_erase]
  by_cases hid : tabId = id
  · exact .ends hquiet (hcause hid) (by rw [hlookup, if_pos hid])
  · exact .stays hquiet (by rw [hlookup, if_neg hid])

/-- A lease is renewed. -/
theorem Turn.inserted {entry : World G × Event I × World G} {tabId id : String} {deadline : Time}
    (hrenews : ∀ id deadline', Renews P k id deadline' entry ↔ id = tabId ∧ deadline' = deadline)
    (hmem : tabId ∈ k.leases entry.1.server)
    (hleases : k.leases entry.2.2.server
      = (k.leases entry.1.server).insert tabId (some deadline)) : Turn P k trace entry id := by
  have hlookup : (k.leases entry.2.2.server)[id]?
      = if tabId = id then some (some deadline) else (k.leases entry.1.server)[id]? := by
    rw [hleases, StdMap.getElem?_insert]
  by_cases hid : tabId = id
  · subst hid
    exact .renewed ((hrenews tabId deadline).mpr ⟨rfl, rfl⟩) hmem (by rw [hlookup, if_pos rfl])
  · refine .stays (fun deadline' h => ?_) (by rw [hlookup, if_neg hid])
    exact hid ((hrenews id deadline').mp h).1.symm

/-- A confirmed kill, or `IAmAlive` without time, erases what it names from its own table. -/
theorem turn_forget (k' : Kind) {tabId : String}
    (hrequest : request = k'.kill tabId ∧ (k' = .tab → w.server.isExtraTab tabId = false)
      ∨ request = k'.alive tabId 0)
    (hdecode : decode P requestText = .ok request)
    (hsent : w'.sent = w.sent ++ [(bev, response .MTSRC_OK)])
    (hleases : k'.leases w'.server = (k'.leases w.server).erase tabId)
    (hothers : k ≠ k' → k.leases w'.server = k.leases w.server) (id : String) :
    Turn P k trace (w, .request i bev requestText, w') id := by
  have hquiet : ∀ deadline, ¬ Renews P k id deadline (w, .request i bev requestText, w') := by
    refine not_renews hdecode hsent (fun ttl httl k id heq => ?_) k id
    rcases hrequest with ⟨rfl, -⟩ | rfl
    · exact Kind.kill_ne_alive k' k tabId id ttl heq
    · exact httl (Kind.alive_inj heq).2.2.symm
  by_cases hkind : k = k'
  · subst hkind
    refine .erased hquiet ?_ hleases
    rintro rfl
    refine ⟨?_, (confirmed_iff hsent).mpr (succeeds_response_iff.mpr rfl)⟩
    rcases hrequest with ⟨rfl, hextra⟩ | rfl
    · exact Or.inl ⟨hdecode, hextra⟩
    · exact Or.inr hdecode
  · exact .stays hquiet (by rw [hothers hkind])

/-- A confirmed `IAmAlive` sets the lease of what it names. -/
theorem turn_lease (k' : Kind) {tabId : String} {ttl : ℤ} (httl : ttl ≠ 0)
    (hmem : tabId ∈ k'.leases w.server) (hdecode : decode P requestText = .ok (k'.alive tabId ttl))
    (hsent : w'.sent = w.sent ++ [(bev, response .MTSRC_OK)])
    (hleases : k'.leases w'.server
      = (k'.leases w.server).insert tabId (some (i.now + seconds ttl)))
    (hothers : k ≠ k' → k.leases w'.server = k.leases w.server) (id : String) :
    Turn P k trace (w, .request i bev requestText, w') id := by
  have hrenews := renews_iff (P := P) (i := i) hdecode hsent
  by_cases hkind : k = k'
  · subst hkind
    refine .inserted (fun id' deadline' => ?_) hmem hleases
    rw [hrenews]
    constructor
    · rintro ⟨⟨ttl', heq, -, rfl⟩, -⟩
      obtain ⟨-, rfl, rfl⟩ := Kind.alive_inj heq
      exact ⟨rfl, rfl⟩
    · rintro ⟨rfl, rfl⟩
      exact ⟨⟨ttl, rfl, httl, rfl⟩, succeeds_response_iff.mpr rfl⟩
  · refine .stays (fun deadline h => ?_) (by rw [hothers hkind])
    obtain ⟨⟨ttl', heq, -⟩, -⟩ := (hrenews k id deadline).mp h
    exact hkind (Kind.alive_inj heq).1.symm

/-- **What a request does to a lease.** -/
theorem turn_request (heffect : TableEffect i bev w.server request w'.server json)
    (hdecode : decode P requestText = .ok request) (hsent : w'.sent = w.sent ++ [(bev, json)])
    (k : Kind) (id : String) : Turn P k trace (w, .request i bev requestText, w') id := by
  have hrenews := renews_iff (P := P) (i := i) hdecode hsent
  have hquiet := not_renews (P := P) (i := i) hdecode hsent
  generalize hserver : (w, Event.request i bev requestText, w').2.2.server = s' at heffect
  cases heffect with
  | same htables hfailed =>
    have hleases : k.leases s' = k.leases w.server := by
      simp only [tables, Prod.mk.injEq] at htables
      cases k with
      | tab => exact htables.1
      | shortcut => exact htables.2.1
    refine .stays (fun deadline h => ?_) (by rw [hserver, hleases])
    obtain ⟨⟨ttl, rfl, -⟩, hok⟩ := (hrenews k id deadline).mp h
    refine hfailed ?_ hok
    cases k <;> trivial
  | newTab =>
    have hnot := hquiet (fun ttl _ k id => by cases k <;> rintro ⟨⟩) k id
    by_cases hid : i.uuid = ""
    · refine .stays hnot ?_
      rw [hserver, rememberOwnedTab, if_pos hid]
      cases k <;> split <;> rfl
    · rw [rememberOwnedTab, if_neg hid] at hserver
      cases k with
      | tab =>
        refine .new hnot rfl ?_
        rw [hserver]
        split <;> rfl
      | shortcut =>
        refine .stays hnot ?_
        rw [hserver]
        split <;> rfl
  | newShortcut =>
    have hnot := hquiet (fun ttl _ k id => by cases k <;> rintro ⟨⟩) k id
    cases k with
    | tab => exact .stays hnot (by rw [hserver]; rfl)
    | shortcut => exact .new hnot rfl (by rw [hserver]; rfl)
  | @forgetTab _ tabId hrequest =>
    by_cases hid : tabId = ""
    · refine .stays (hquiet (fun ttl httl k id heq => ?_) k id)
        (by rw [hserver, forgetOwnedTab, if_pos hid])
      rcases hrequest with ⟨rfl, -⟩ | rfl
      · exact Kind.kill_ne_alive .tab k tabId id ttl heq
      · exact httl (Kind.alive_inj (k := .tab) heq).2.2.symm
    · rw [forgetOwnedTab, if_neg hid] at hserver
      have hshortcuts := congrArg shortcutLeases hserver
      exact turn_forget .tab (hrequest.imp_left fun h => ⟨h.1, fun _ => h.2⟩) hdecode hsent
        (congrArg tabLeases hserver) (Kind.leases_of_ne_tab hshortcuts) id
  | forgetShortcut hrequest =>
    have htabs := congrArg tabLeases hserver
    exact turn_forget .shortcut (hrequest.imp_left fun h => ⟨h, by rintro ⟨⟩⟩) hdecode hsent
      (congrArg shortcutLeases hserver) (Kind.leases_of_ne_shortcut htabs) id
  | leaseTab hmem httl =>
    have hshortcuts := congrArg shortcutLeases hserver
    exact turn_lease .tab httl hmem hdecode hsent (congrArg tabLeases hserver)
      (Kind.leases_of_ne_tab hshortcuts) id
  | leaseShortcut hmem httl =>
    have htabs := congrArg tabLeases hserver
    exact turn_lease .shortcut httl hmem hdecode hsent (congrArg shortcutLeases hserver)
      (Kind.leases_of_ne_shortcut htabs) id

end Requests

/-! ### Steps -/

/-- What is to be removed at a time: its last `IAmAlive` was long enough ago. -/
def Due (P : Platform I G) (k : Kind) (trace : List (World G × Event I × World G)) (now : Time)
    (s : Server) : Set String :=
  {id | id ∈ k.leases s ∧ ∃ deadline, LastRenewal P k trace id deadline ∧ deadline ≤ now}

theorem LeaseLog.mem_expired_iff {s : Server} (h : LeaseLog P k trace s) (now : Time) (id : String) :
    id ∈ expired now (k.leases s) ↔ id ∈ Due P k trace now s := by
  simp only [Server.mem_expired_iff, h.lease, Due, Set.mem_ofPred_eq]
  constructor
  · exact fun ⟨deadline, ⟨hmem, hlast⟩, hdue⟩ => ⟨hmem, deadline, hlast, hdue⟩
  · exact fun ⟨hmem, deadline, hlast, hdue⟩ => ⟨deadline, ⟨hmem, hlast⟩, hdue⟩

section Steps

variable {w w' : World G}

/-- The two passes of the timer: what has expired is gone, and the other leases are as before. -/
theorem leases_pruneExpiredTabs (h : Owners P trace w.server) (k : Kind) (now : Time) (id : String) :
    (k.leases (pruneExpiredTabs P now w).server)[id]?
      = if id ∈ expired now (k.leases w.server) then none else (k.leases w.server)[id]? := by
  have hdropped := forgets_dropTabs P (h.named_expired now) w
  cases k with
  | tab =>
    show (pruneExpiredTabs P now w).server.tabLeases[id]? = _
    rw [(tabs_pruneExpiredTabs P now w).1]
    split
    next hid => exact hdropped.gone id hid
    next hid => exact hdropped.kept id hid
  | shortcut =>
    have hpassed := shortcutLeases_dropShortcuts P (expired now ((expired now w.server.tabLeases).foldl
      (dropTab P) w).server.shortcutLeases) ((expired now w.server.tabLeases).foldl (dropTab P) w) id
    rw [hdropped.shortcutLeases] at hpassed
    show (pruneExpiredTabs P now w).server.shortcutLeases[id]? = _
    simp only [pruneExpiredTabs, hdropped.shortcutLeases]
    exact hpassed

/-- **One event and one lease.** -/
theorem Step.turn {e : Event I} (howners : Owners P trace w.server)
    (h : LeaseLog P k trace w.server) (hstep : Step P moves w e w') (id : String) :
    Turn P k trace (w, e, w') id := by
  cases hstep with
  | request hout =>
    obtain ⟨request, json, hdecode, heffect, hsent⟩ := tableEffect_of_outcome hout
    exact turn_request heffect hdecode hsent k id
  | close bev =>
    have hforgets := forgets_closeConnection howners bev
    cases k with
    | tab =>
      by_cases howns : w.server.Owns bev id
      · exact .ends (fun _ h => h) ⟨rfl, ((howners.owners bev id).mp howns).2.1⟩ (hforgets.gone id howns)
      · exact .stays (fun _ h => h) (hforgets.kept id howns)
    | shortcut => exact .stays (fun _ h => h) (congrArg (·[id]?) hforgets.shortcutLeases)
  | tick now =>
    have hlookup := leases_pruneExpiredTabs howners k now id
    by_cases hexpired : id ∈ expired now (k.leases w.server)
    · rw [if_pos hexpired] at hlookup
      exact .ends (fun _ h => h) ((h.mem_expired_iff now id).mp hexpired).2 hlookup
    · rw [if_neg hexpired] at hlookup
      exact .stays (fun _ h => h) hlookup
  | gui _ => exact .stays (fun _ h => h) rfl

theorem leaseLog_start (softwareVersion timestamp : String) (config : RuntimeConfig) (k : Kind) :
    LeaseLog P k [] (Server.start softwareVersion timestamp config) := by
  have hempty : k.leases (Server.start softwareVersion timestamp config) = ∅ := by cases k <;> rfl
  refine ⟨fun id hid => ?_, fun id deadline hlast => absurd hlast not_since_nil, fun id deadline => ?_⟩
  · rw [hempty] at hid
    exact absurd hid Std.ExtTreeMap.not_mem_empty
  · rw [hempty]
    simp

theorem leaseLog_of_run {softwareVersion timestamp : String} {config : RuntimeConfig} {g : G}
    (hrun : Steps (Traced (Step P moves)) (World.start softwareVersion timestamp config g) trace w)
    (hnonempty : "" ∉ uuids trace) (hfresh : (uuids trace).Nodup) (k : Kind) :
    LeaseLog P k trace w.server := by
  refine fresh_history (fun trace w => LeaseLog P k trace w.server)
    (leaseLog_start softwareVersion timestamp config k) ?_ hrun hnonempty hfresh
  intro before w₁ e w₂ hbefore hnonempty hfresh hlog hstep _ hnew
  have howners := owners_of_run hbefore hnonempty hfresh
  exact hlog.step (fun id => Step.turn howners hlog hstep id) hnew

end Steps

end Leases

/-! ### The timer -/

section Timer

variable {P : Platform Outside GuiState} {trace : List (World GuiState × Event Outside × World GuiState)}
  {w : World GuiState}

/-- What holds of the leases in every state of a run. -/
structure LeasesKept (P : Platform Outside GuiState)
    (trace : List (World GuiState × Event Outside × World GuiState)) (w : World GuiState) : Prop where
  lease : ∀ (k : Kind) (id : String) (deadline : Time),
    (k.leases w.server)[id]? = some (some deadline)
      ↔ id ∈ k.leases w.server ∧ LastRenewal P k trace id deadline
  /-- The timer removes exactly what is due. -/
  removed : ∀ (k : Kind) (now : Time) (id : String),
    id ∈ k.leases (pruneExpiredTabs P now w).server
      ↔ id ∈ k.leases w.server ∧ id ∉ Due P k trace now w.server
  kept : ∀ (k : Kind) (now : Time) (id : String),
    id ∈ k.leases (pruneExpiredTabs P now w).server →
      (k.leases (pruneExpiredTabs P now w).server)[id]? = (k.leases w.server)[id]?
  noneDue : ∀ (k : Kind) (now : Time) (id : String) (deadline : Time),
    (k.leases (pruneExpiredTabs P now w).server)[id]? = some (some deadline) → now < deadline
  /-- It does so in the browser, too. -/
  browser : ∀ (now : Time) (b : Browser), w.gui.browser = some b →
    ∃ b₁ b₂, w.gui.pending = some b₁ ∧ (pruneExpiredTabs P now w).gui.pending = some b₂
      ∧ Without (Due P .tab trace now w.server) (Due P .shortcut trace now w.server) b₁ b₂
  /-- Whatever leaves its table next has a cause. -/
  cause : ∀ (k : Kind) (id : String) (e : Event Outside) (w' : World GuiState),
    Step P GuiState.Moves w e w' → id ∈ k.leases w.server → id ∉ k.leases w'.server →
      Cause P k trace id (w, e, w')

/-- **When leases end**: in every run with fresh ids, with requests, closed connections and the timer
in any order. -/
theorem leases_of_run (hgui : P.gui = GuiState.port) {softwareVersion timestamp : String}
    {config : RuntimeConfig}
    (hrun : Steps (Traced (Step P GuiState.Moves))
      (World.start softwareVersion timestamp config (GuiState.start config)) trace w)
    (hnonempty : "" ∉ uuids trace) (hfresh : (uuids trace).Nodup) : LeasesKept P trace w := by
  have howners := owners_of_run hrun hnonempty hfresh
  have hlog := leaseLog_of_run hrun hnonempty hfresh
  have hlookup := leases_pruneExpiredTabs howners
  have hremoved : ∀ (k : Kind) (now : Time) (id : String),
      id ∈ k.leases (pruneExpiredTabs P now w).server
        ↔ id ∈ k.leases w.server ∧ id ∉ Due P k trace now w.server := by
    intro k now id
    rw [← (hlog k).mem_expired_iff, ← Std.ExtTreeMap.isSome_getElem?_iff_mem, hlookup,
      ← Std.ExtTreeMap.isSome_getElem?_iff_mem]
    split
    next hexpired => simp [hexpired]
    next hnot => simp [hnot]
  refine ⟨fun k => (hlog k).lease, hremoved, fun k now id hmem => ?_, fun k now id deadline hlease => ?_,
    fun now b hbrowser => ?_, fun k id e w' hstep hmem hgone => ?_⟩
  · rw [hlookup, if_neg fun hexpired =>
      ((hremoved k now id).mp hmem).2 (((hlog k).mem_expired_iff now id).mp hexpired)]
  · rw [hlookup] at hlease
    split at hlease
    next => cases hlease
    next hnot => exact Int.not_le.mp fun hdue => hnot (mem_expired_iff.mpr ⟨deadline, hlease, hdue⟩)
  · have hsettled := (inStep_of_trace hgui hrun hnonempty hfresh).settled
    obtain ⟨b₁, hb₁⟩ := GuiState.exists_pending hsettled hbrowser
    obtain ⟨b', hb', htabs⟩ := GuiState.pending_killTabs (expired now w.server.tabLeases) hb₁
    obtain ⟨b₂, hb₂, hshortcuts⟩ :=
      GuiState.pending_killShortcuts (expired now w.server.shortcutLeases) hb'
    have hdue : ∀ k : Kind, {id | id ∈ expired now (k.leases w.server)} = Due P k trace now w.server :=
      fun k => Set.ext fun id => (hlog k).mem_expired_iff now id
    refine ⟨b₁, b₂, hb₁, ?_, ?_⟩
    · have hpassed := (forgets_dropTabs P (howners.named_expired now) w).shortcutLeases
      simp only [pruneExpiredTabs, gui_dropShortcuts, gui_dropTabs, hpassed, hgui]
      exact hb₂
    · rw [← hdue .tab, ← hdue .shortcut, ← Set.union_empty {id | id ∈ expired now (Kind.tab.leases _)},
        ← Set.empty_union {id | id ∈ expired now (Kind.shortcut.leases _)}]
      exact htabs.trans hshortcuts
  · have hturn := Step.turn howners (hlog k) hstep id
    have hmem' := Std.ExtTreeMap.isSome_getElem?_iff_mem.mpr hmem
    have hgone' : (k.leases w'.server)[id]? = none := Std.ExtTreeMap.getElem?_eq_none hgone
    cases hturn with
    | stays hquiet hlease =>
      rw [← hlease, hgone'] at hmem'
      cases hmem'
    | begins hquiet huuid hlease =>
      rw [hgone'] at hlease
      cases hlease
    | renewed hrenews hmem hlease =>
      rw [hgone'] at hlease
      cases hlease
    | ends hquiet hcause hlease => exact hcause

/-- The run of a tab whose lease is extended once, before the timer. -/
theorem leases_of_lease : ∃ trace w, trace.map (fun entry => entry.2.1) = leaseEvents.take 4
    ∧ Steps (Traced (Step tabPlatform GuiState.Moves))
        (World.start "1" "2024-01-01T00:00:00Z" {} (.start {})) trace w
    ∧ w.server.tabLeases[leasedId]? = some (some (seconds 30)) ∧ LeasesKept tabPlatform trace w := by
  have hrun : Steps (Step tabPlatform GuiState.Moves)
      (World.start "1" "2024-01-01T00:00:00Z" {} (.start {})) (leaseEvents.take 4) _ :=
    .cons (.gui .startup) (.cons (.request rfl) (.cons (.request rfl) (.cons (.request rfl) (.nil _))))
  obtain ⟨trace, hevents, htraced⟩ := hrun.traced
  have huuids : uuids trace = [extraId, leasedId, sampleInput.uuid] := by
    rw [uuids_eq, hevents]
    rfl
  refine ⟨trace, _, hevents, htraced, by decide +kernel, ?_⟩
  exact leases_of_run rfl htraced (by rw [huuids]; decide) (by rw [huuids]; decide)

end Timer

end OpenMadt.Server
