import OpenMadt.Leases
import OpenMadt.Pending

/-!
# Whose tabs they are

With `tabLifetimeByConnection`, a tab lives no longer than the connection that it was created through.

* `CreatedThrough` — the tab was created through the connection, which was not closed since.
* `Owners` — the invariant: the sets of owned tabs are the live tabs by connection.
* `Owners.step` — what a step does to them; `forgets_closeConnection` for the end of a connection.
* `owned_of_run` — the invariant along a run, and what the end of a connection destroys.
-/

namespace OpenMadt.Server

open Gui Run

/-! ### Owners -/

section Owners

variable {I G : Type} {P : Platform I G} {moves : G → G → Prop}

/-- The connection is told that its request was carried out. -/
def Confirmed (bev : Conn) (w w' : World G) : Prop :=
  ∃ json, w'.sent = w.sent ++ [(bev, json)] ∧ Succeeds json

theorem confirmed_iff {bev : Conn} {w w' : World G} {json : Json}
    (hsent : w'.sent = w.sent ++ [(bev, json)]) : Confirmed bev w w' ↔ Succeeds json := by
  constructor
  · rintro ⟨json', hsent', hok⟩
    rw [hsent, List.append_cancel_left_eq, List.singleton_inj, Prod.mk.injEq] at hsent'
    exact hsent'.2 ▸ hok
  · exact fun hok => ⟨json, hsent, hok⟩

/-- A request of the connection creates the tab, and is told so. -/
def Creates (P : Platform I G) (bev : Conn) (id : String) : World G × Event I × World G → Prop
  | (w, .request i bev' requestText, w') =>
    bev' = bev ∧ i.uuid = id
      ∧ (∃ requestedUrl iconUrl preferredPos flags,
          decode P requestText = .ok (.NewWebTab requestedUrl iconUrl preferredPos flags))
      ∧ Confirmed bev w w'
  | _ => False

/-- The connection ends. -/
def Closes (bev : Conn) : World G × Event I × World G → Prop
  | (_, .close bev', _) => bev' = bev
  | _ => False

/-- The tab was created through the connection, which was not closed since.  Its pointer may have
belonged to other connections before. -/
def CreatedThrough (P : Platform I G) (trace : List (World G × Event I × World G)) (bev : Conn)
    (id : String) : Prop :=
  Since (Creates P bev id) (Closes bev) trace

/-- The ids that the events of a trace may have used. -/
def uuids (trace : List (World G × Event I × World G)) : List String :=
  trace.filterMap fun entry => entry.2.1.uuid?

theorem uuids_eq (trace : List (World G × Event I × World G)) :
    uuids trace = (trace.map fun entry => entry.2.1).filterMap Event.uuid? := by
  rw [List.filterMap_map]
  rfl

theorem uuids_append (trace : List (World G × Event I × World G))
    (entry : World G × Event I × World G) :
    uuids (trace ++ [entry]) = uuids trace ++ entry.2.1.uuid?.toList := by
  rw [uuids, uuids, List.filterMap_append]
  cases huuid : entry.2.1.uuid? <;> simp [huuid]

/-- **The history rule** for runs with fresh ids: every event meets only ids that are not its own. -/
theorem fresh_history {start w : World G} {trace : List (World G × Event I × World G)}
    (Q : List (World G × Event I × World G) → World G → Prop) (hstart : Q [] start)
    (hstep : ∀ {before w₁ e w₂}, Steps (Traced (Step P moves)) start before w₁ → "" ∉ uuids before →
      (uuids before).Nodup → Q before w₁ → Step P moves w₁ e w₂ → e.uuid? ≠ some "" →
      (∀ uuid, e.uuid? = some uuid → uuid ∉ uuids before) → Q (before ++ [(w₁, e, w₂)]) w₂)
    (hrun : Steps (Traced (Step P moves)) start trace w) (hnonempty : "" ∉ uuids trace)
    (hfresh : (uuids trace).Nodup) : Q trace w := by
  refine hrun.history (fun trace w => "" ∉ uuids trace → (uuids trace).Nodup → Q trace w) ?_
    (fun _ _ => hstart) hnonempty hfresh
  rintro before w₁ ⟨_, e, _⟩ w₂ hbefore ih ⟨rfl, rfl, hlast⟩ hnonempty hfresh
  rw [uuids_append] at hnonempty hfresh
  rw [List.mem_append, not_or] at hnonempty
  rw [List.nodup_append] at hfresh
  refine hstep hbefore hnonempty.1 hfresh.1 (ih hnonempty.1 hfresh.1) hlast (fun huuid => ?_)
    fun uuid huuid hmem => ?_
  · exact hnonempty.2 (by simp [huuid])
  · exact hfresh.2.2 uuid hmem uuid (by simp [huuid]) rfl

/-- The sets of owned tabs are the live tabs by connection, if there are such sets at all. -/
structure Owners (P : Platform I G) (trace : List (World G × Event I × World G)) (s : Server) :
    Prop where
  used : ∀ id ∈ s.tabLeases, id ∈ uuids trace
  named : "" ∉ s.tabLeases
  owners : ∀ bev id, s.Owns bev id
    ↔ s.runtimeConfig.tabLifetimeByConnection = true ∧ CreatedThrough P trace bev id
      ∧ id ∈ s.tabLeases
  one : ∀ bev bev' id, s.Owns bev id → s.Owns bev' id → bev = bev'
  noEmptySet : s.NoEmptySet

theorem Owners.leased {trace : List (World G × Event I × World G)} {s : Server} (h : Owners P trace s)
    {bev : Conn} {id : String} (howns : s.Owns bev id) : id ∈ s.tabLeases :=
  ((h.owners bev id).mp howns).2.2

theorem owns_of_connectionTabs {s s' : Server} (h : s'.connectionTabs = s.connectionTabs) (bev : Conn)
    (id : String) : s'.Owns bev id ↔ s.Owns bev id := by
  rw [Owns, h, Owns]

theorem noEmptySet_of_connectionTabs {s s' : Server} (h : s'.connectionTabs = s.connectionTabs)
    (hempty : s.NoEmptySet) : s'.NoEmptySet := by
  rw [NoEmptySet, h]
  exact hempty

theorem Forgets.mem_tabLeases_iff {ids : Set String} {s s' : Server} (h : Forgets ids s s')
    (id : String) : id ∈ s'.tabLeases ↔ id ∈ s.tabLeases ∧ id ∉ ids := by
  rw [← Std.ExtTreeMap.isSome_getElem?_iff_mem, ← Std.ExtTreeMap.isSome_getElem?_iff_mem]
  by_cases hid : id ∈ ids
  · simp [h.gone id hid, hid]
  · simp [h.kept id hid, hid]

/-! ### Steps that create nothing and close nothing -/

section Keep

variable {trace : List (World G × Event I × World G)} {entry : World G × Event I × World G}
  {s s' : Server}

theorem Owners.keep (h : Owners P trace s) (hcreates : ∀ bev id, ¬ Creates P bev id entry)
    (hcloses : ∀ bev, ¬ Closes bev entry) (hconfig : s'.runtimeConfig = s.runtimeConfig)
    (hmem : ∀ id ∈ s'.tabLeases, id ∈ s.tabLeases)
    (howns : ∀ bev id, s'.Owns bev id ↔ s.Owns bev id ∧ id ∈ s'.tabLeases) (hempty : s'.NoEmptySet) :
    Owners P (trace ++ [entry]) s' := by
  refine ⟨fun id hid => ?_, fun hnamed => h.named (hmem "" hnamed), fun bev id => ?_,
    fun bev bev' id hbev hbev' => ?_, hempty⟩
  · rw [uuids_append]
    exact List.mem_append_left _ (h.used id (hmem id hid))
  · have hcreated : CreatedThrough P (trace ++ [entry]) bev id ↔ CreatedThrough P trace bev id := by
      rw [CreatedThrough, since_append_singleton]
      exact ⟨fun hsince => (hsince.resolve_left (hcreates bev id)).1,
        fun hsince => Or.inr ⟨hsince, hcloses bev⟩⟩
    rw [howns, h.owners, hconfig, hcreated]
    constructor
    · exact fun ⟨⟨hflag, hthrough, _⟩, hid⟩ => ⟨hflag, hthrough, hid⟩
    · exact fun ⟨hflag, hthrough, hid⟩ => ⟨⟨hflag, hthrough, hmem id hid⟩, hid⟩
  · exact h.one bev bev' id ((howns bev id).mp hbev).1 ((howns bev' id).mp hbev').1

/-- Some tabs are forgotten. -/
theorem Owners.forgets (h : Owners P trace s) (hcreates : ∀ bev id, ¬ Creates P bev id entry)
    (hcloses : ∀ bev, ¬ Closes bev entry) {ids : Set String} (hforgets : Forgets ids s s')
    (hconfig : s'.runtimeConfig = s.runtimeConfig) : Owners P (trace ++ [entry]) s' := by
  refine h.keep hcreates hcloses hconfig (fun id hid => ((hforgets.mem_tabLeases_iff id).mp hid).1)
    (fun bev id => ?_) (hforgets.noEmptySet h.noEmptySet)
  rw [hforgets.owns, hforgets.mem_tabLeases_iff]
  exact ⟨fun ⟨howns, hid⟩ => ⟨howns, h.leased howns, hid⟩, fun ⟨howns, _, hid⟩ => ⟨howns, hid⟩⟩

/-- The tabs and their owners are the same. -/
theorem Owners.same (h : Owners P trace s) (hcreates : ∀ bev id, ¬ Creates P bev id entry)
    (hcloses : ∀ bev, ¬ Closes bev entry) (hconfig : s'.runtimeConfig = s.runtimeConfig)
    (hmem : ∀ id, id ∈ s'.tabLeases ↔ id ∈ s.tabLeases)
    (htabs : s'.connectionTabs = s.connectionTabs) : Owners P (trace ++ [entry]) s' := by
  refine h.keep hcreates hcloses hconfig (fun id hid => (hmem id).mp hid) (fun bev id => ?_)
    (noEmptySet_of_connectionTabs htabs h.noEmptySet)
  rw [owns_of_connectionTabs htabs, hmem]
  exact ⟨fun howns => ⟨howns, h.leased howns⟩, fun howns => howns.1⟩

end Keep

/-! ### A new tab -/

theorem owns_rememberOwnedTab {tabId : String} (hid : tabId ≠ "") (s : Server) (bev bev' : Conn)
    (id : String) : (s.rememberOwnedTab bev tabId).Owns bev' id
      ↔ s.Owns bev' id
        ∨ s.runtimeConfig.tabLifetimeByConnection = true ∧ bev = bev' ∧ tabId = id := by
  simp only [Owns, rememberOwnedTab, if_neg hid]
  cases hflag : s.runtimeConfig.tabLifetimeByConnection with
  | false => simp
  | true =>
    simp only [if_true, StdMap.getElem?_insert, true_and]
    by_cases hbev : bev = bev'
    · subst hbev
      simp only [if_true, Option.some.injEq, exists_eq_left', Std.ExtTreeSet.mem_insert,
        Std.LawfulEqOrd.compare_eq_iff_eq, true_and]
      cases howned : s.connectionTabs[bev]? with
      | none => simp
      | some owned => simp [or_comm]
    · simp [hbev]

theorem noEmptySet_rememberOwnedTab {s : Server} (h : s.NoEmptySet) (bev : Conn) (tabId : String) :
    (s.rememberOwnedTab bev tabId).NoEmptySet := by
  unfold rememberOwnedTab
  split
  · exact h
  · intro bev' owned howned
    dsimp only at howned
    split at howned
    · rw [StdMap.getElem?_insert] at howned
      split at howned
      · rw [← Option.some.inj howned]
        exact Std.ExtTreeSet.isEmpty_eq_false_iff.mpr Std.ExtTreeSet.insert_ne_empty
      · exact h bev' owned howned
    · exact h bev' owned howned

theorem mem_rememberOwnedTab {tabId : String} (hid : tabId ≠ "") (s : Server) (bev : Conn)
    (id : String) : id ∈ (s.rememberOwnedTab bev tabId).tabLeases ↔ tabId = id ∨ id ∈ s.tabLeases := by
  simp only [rememberOwnedTab, hid, if_false, Std.ExtTreeMap.mem_insertIfNew,
    Std.LawfulEqOrd.compare_eq_iff_eq]

/-! ### One step -/

section Step

variable {trace : List (World G × Event I × World G)} {w w' : World G} {i : Input I} {bev : Conn}
  {requestText : Bytes}

/-- Who creates what, once the request and the answer are known. -/
theorem creates_iff {request : Request} {json : Json} (hdecode : decode P requestText = .ok request)
    (hsent : w'.sent = w.sent ++ [(bev, json)]) (bev' : Conn) (id : String) :
    Creates P bev' id (w, .request i bev requestText, w')
      ↔ bev = bev' ∧ i.uuid = id
        ∧ (∃ requestedUrl iconUrl preferredPos flags,
            request = .NewWebTab requestedUrl iconUrl preferredPos flags) ∧ Succeeds json := by
  constructor
  · rintro ⟨rfl, rfl, ⟨requestedUrl, iconUrl, preferredPos, flags, hdecode'⟩, hconfirmed⟩
    rw [hdecode, Except.ok.injEq] at hdecode'
    exact ⟨rfl, rfl, ⟨requestedUrl, iconUrl, preferredPos, flags, hdecode'⟩,
      (confirmed_iff hsent).mp hconfirmed⟩
  · rintro ⟨rfl, rfl, ⟨requestedUrl, iconUrl, preferredPos, flags, rfl⟩, hok⟩
    exact ⟨rfl, rfl, ⟨requestedUrl, iconUrl, preferredPos, flags, hdecode⟩,
      (confirmed_iff hsent).mpr hok⟩

/-- A new tab belongs to the connection that it is created through. -/
theorem Owners.newTab {s s' : Server} {entry : World G × Event I × World G} (h : Owners P trace s)
    (bev : Conn) {tabId : String} (hid : tabId ≠ "") (hfresh : tabId ∉ uuids trace)
    (huuid : entry.2.1.uuid? = some tabId)
    (hcreates : ∀ bev' id, Creates P bev' id entry ↔ bev = bev' ∧ tabId = id)
    (hcloses : ∀ bev, ¬ Closes bev entry) (hconfig : s'.runtimeConfig = s.runtimeConfig)
    (hleases : s'.tabLeases = (s.rememberOwnedTab bev tabId).tabLeases)
    (htabs : s'.connectionTabs = (s.rememberOwnedTab bev tabId).connectionTabs) :
    Owners P (trace ++ [entry]) s' := by
  have hmem : ∀ id, id ∈ s'.tabLeases ↔ tabId = id ∨ id ∈ s.tabLeases := by
    rw [hleases]
    exact mem_rememberOwnedTab hid s bev
  have howns : ∀ bev' id, s'.Owns bev' id ↔ s.Owns bev' id
      ∨ s.runtimeConfig.tabLifetimeByConnection = true ∧ bev = bev' ∧ tabId = id := by
    intro bev' id
    rw [owns_of_connectionTabs htabs, owns_rememberOwnedTab hid]
  have hnew : ∀ bev', ¬ s.Owns bev' tabId := fun bev' hbev' => hfresh (h.used tabId (h.leased hbev'))
  refine ⟨fun id hmem' => ?_, fun hnamed => ?_, fun bev' id => ?_, fun bev₁ bev₂ id h₁ h₂ => ?_,
    noEmptySet_of_connectionTabs htabs (noEmptySet_rememberOwnedTab h.noEmptySet bev tabId)⟩
  · rw [uuids_append, List.mem_append, huuid, Option.toList_some, List.mem_singleton]
    rcases (hmem id).mp hmem' with rfl | hold
    · exact Or.inr rfl
    · exact Or.inl (h.used id hold)
  · exact ((hmem "").mp hnamed).elim hid h.named
  · rw [howns, h.owners, hconfig, hmem, CreatedThrough, CreatedThrough, since_append_singleton, hcreates]
    constructor
    · rintro (⟨hflag, hthrough, hlive⟩ | ⟨hflag, rfl, rfl⟩)
      · exact ⟨hflag, Or.inr ⟨hthrough, hcloses bev'⟩, Or.inr hlive⟩
      · exact ⟨hflag, Or.inl ⟨rfl, rfl⟩, Or.inl rfl⟩
    · rintro ⟨hflag, ⟨rfl, rfl⟩ | ⟨hthrough, -⟩, hlive⟩
      · exact Or.inr ⟨hflag, rfl, rfl⟩
      · rcases hlive with rfl | hlive
        · -- the id was not used before
          obtain ⟨created, hcreated, hentry⟩ := hthrough.exists
          refine absurd (List.mem_filterMap.mpr ⟨created, hcreated, ?_⟩) hfresh
          obtain ⟨w₁, e, w₂⟩ := created
          cases e with
          | request i' _ _ => exact congrArg some hentry.2.1
          | _ => exact hentry.elim
        · exact Or.inl ⟨hflag, hthrough, hlive⟩
  · rcases (howns bev₁ id).mp h₁ with h₁ | ⟨-, rfl, rfl⟩
    · rcases (howns bev₂ id).mp h₂ with h₂ | ⟨-, rfl, rfl⟩
      · exact h.one bev₁ bev₂ id h₁ h₂
      · exact absurd h₁ (hnew bev₁)
    · rcases (howns bev₂ tabId).mp h₂ with h₂ | ⟨-, rfl, -⟩
      · exact absurd h₂ (hnew bev₂)
      · rfl

/-- A request. -/
theorem Owners.request {s' : Server} {request : Request} {json : Json}
    (h : Owners P trace w.server) (heffect : TableEffect i bev w.server request s' json)
    (hconfig : s'.runtimeConfig = w.server.runtimeConfig)
    (hdecode : decode P requestText = .ok request) (hsent : w'.sent = w.sent ++ [(bev, json)])
    (hnonempty : i.uuid ≠ "") (hfresh : i.uuid ∉ uuids trace) :
    Owners P (trace ++ [(w, .request i bev requestText, w')]) s' := by
  have hcreates := creates_iff (P := P) (i := i) hdecode hsent
  have hcloses : ∀ bev', ¬ Closes bev' (w, .request i bev requestText, w') := fun _ => id
  cases heffect with
  | same htables hfailed =>
    obtain ⟨hleases, -, htabs, -⟩ : s'.tabLeases = _ ∧ _ ∧ s'.connectionTabs = _ ∧ _ := by
      simpa [tables] using htables
    refine h.same (fun bev' id hnew => ?_) hcloses hconfig (fun id => by rw [hleases]) htabs
    obtain ⟨-, -, ⟨_, _, _, _, rfl⟩, hok⟩ := (hcreates bev' id).mp hnew
    exact hfailed trivial hok
  | newTab =>
    refine h.newTab bev hnonempty hfresh rfl (fun bev' id => ?_) hcloses hconfig ?_ ?_
    · rw [hcreates]
      exact ⟨fun hnew => ⟨hnew.1, hnew.2.1⟩, fun hnew =>
        ⟨hnew.1, hnew.2, ⟨_, _, _, _, rfl⟩, succeeds_response_iff.mpr rfl⟩⟩
    · split <;> rfl
    · split <;> rfl
  | newShortcut =>
    refine h.same (fun bev' id hnew => ?_) hcloses hconfig (fun _ => Iff.rfl) rfl
    obtain ⟨-, -, ⟨_, _, _, _, hrequest⟩, -⟩ := (hcreates bev' id).mp hnew
    cases hrequest
  | @forgetTab _ tabId hrequest =>
    have hquiet : ∀ bev' id, ¬ Creates P bev' id (w, .request i bev requestText, w') := by
      intro bev' id hnew
      obtain ⟨-, -, ⟨_, _, _, _, rfl⟩, -⟩ := (hcreates bev' id).mp hnew
      rcases hrequest with ⟨heq, -⟩ | heq <;> cases heq
    by_cases hid : tabId = ""
    · refine h.same hquiet hcloses hconfig (fun id => ?_) ?_
      · rw [forgetOwnedTab, if_pos hid]
      · rw [forgetOwnedTab, if_pos hid]
    · exact h.forgets hquiet hcloses (forgets_forgetOwnedTab hid w.server) hconfig
  | forgetShortcut hrequest =>
    refine h.same (fun bev' id hnew => ?_) hcloses hconfig (fun _ => Iff.rfl) rfl
    obtain ⟨-, -, ⟨_, _, _, _, rfl⟩, -⟩ := (hcreates bev' id).mp hnew
    rcases hrequest with heq | heq <;> cases heq
  | @leaseTab tabId ttl hmem httl =>
    refine h.same (fun bev' id hnew => ?_) hcloses hconfig (fun id => ?_) rfl
    · obtain ⟨-, -, ⟨_, _, _, _, hrequest⟩, -⟩ := (hcreates bev' id).mp hnew
      cases hrequest
    · rw [Std.ExtTreeMap.mem_insert, Std.LawfulEqOrd.compare_eq_iff_eq]
      exact ⟨fun hid => hid.elim (fun heq => heq ▸ hmem) fun hid => hid, Or.inr⟩
  | leaseShortcut hmem httl =>
    refine h.same (fun bev' id hnew => ?_) hcloses hconfig (fun _ => Iff.rfl) rfl
    obtain ⟨-, -, ⟨_, _, _, _, hrequest⟩, -⟩ := (hcreates bev' id).mp hnew
    cases hrequest

/-- The end of a connection kills the tabs that it owns, one after the other. -/
theorem exists_eraseOwnedTabs (h : Owners P trace w.server) (bev : Conn) :
    ∃ tabIds : List String, (∀ id, id ∈ tabIds ↔ w.server.Owns bev id)
      ∧ eraseOwnedTabs P bev w = tabIds.foldl (dropTab P) w := by
  have hnone : (∀ id, ¬ w.server.Owns bev id) → ∃ tabIds : List String,
      (∀ id, id ∈ tabIds ↔ w.server.Owns bev id) ∧ w = tabIds.foldl (dropTab P) w :=
    fun hnot => ⟨[], fun id => by simp [hnot id], rfl⟩
  unfold eraseOwnedTabs
  split
  next hflag =>
    refine hnone fun id howns => ?_
    simp [((h.owners bev id).mp howns).1] at hflag
  split
  next hmissing =>
    refine hnone fun id howns => ?_
    obtain ⟨owned, howned, -⟩ := howns
    rw [hmissing] at howned
    cases howned
  next owned howned =>
    have howns : ∀ id, w.server.Owns bev id ↔ id ∈ owned := fun id => by simp [Owns, howned]
    refine ⟨_, fun id => ?_, rfl⟩
    rw [howns, List.mem_filter, Std.ExtTreeSet.mem_toList]
    constructor
    · exact fun hid => hid.1
    · refine fun hid => ⟨hid, ?_⟩
      have hleased := h.leased ((howns id).mpr hid)
      have hne : id ≠ "" := by
        rintro rfl
        exact h.named hleased
      simpa using hne

/-- **What the end of a connection destroys**: the tabs that it owns. -/
theorem forgets_closeConnection (h : Owners P trace w.server) (bev : Conn) :
    Forgets {id | w.server.Owns bev id} w.server (closeConnection P bev w).server := by
  obtain ⟨tabIds, howned, herased⟩ := exists_eraseOwnedTabs h bev
  have hnamed : "" ∉ tabIds := fun hmem => h.named (h.leased ((howned "").mp hmem))
  have hdropped := forgets_dropTabs P hnamed w
  rw [show {id | id ∈ tabIds} = {id | w.server.Owns bev id} from Set.ext howned] at hdropped
  have hserver : (closeConnection P bev w).server
      = { (tabIds.foldl (dropTab P) w).server with
          connectionTabs := (tabIds.foldl (dropTab P) w).server.connectionTabs.erase bev } := by
    rw [← herased]
    rfl
  rw [hserver]
  refine ⟨hdropped.gone, hdropped.kept, fun bev' id => ?_, fun hempty bev' owned hfound => ?_,
    hdropped.extraGone, hdropped.extraKept, hdropped.shortcutLeases, hdropped.rest⟩
  · -- nothing is left of the connection's own set
    rw [← hdropped.owns]
    simp only [Owns, StdMap.getElem?_erase]
    by_cases hbev : bev = bev'
    · subst hbev
      simp only [if_true, reduceCtorEq, false_and, exists_false, false_iff]
      intro hleft
      have howns := (hdropped.owns bev id).mp hleft
      exact howns.2 howns.1
    · simp only [hbev, if_false]
  · rw [StdMap.getElem?_erase] at hfound
    split at hfound
    · cases hfound
    · exact hdropped.noEmptySet hempty bev' owned hfound

/-- The end of a connection. -/
theorem Owners.close (h : Owners P trace w.server) (bev : Conn) :
    Owners P (trace ++ [(w, .close bev, closeConnection P bev w)]) (closeConnection P bev w).server := by
  have hforgets := forgets_closeConnection h bev
  refine ⟨fun id hid => ?_, fun hnamed => h.named ((hforgets.mem_tabLeases_iff "").mp hnamed).1,
    fun bev' id => ?_, fun bev₁ bev₂ id h₁ h₂ => ?_, hforgets.noEmptySet h.noEmptySet⟩
  · rw [uuids_append]
    exact List.mem_append_left _ (h.used id ((hforgets.mem_tabLeases_iff id).mp hid).1)
  · have hconfig := (Prod.mk.inj hforgets.rest).1
    rw [hforgets.owns, hforgets.mem_tabLeases_iff, h.owners, hconfig, CreatedThrough, CreatedThrough,
      since_append_singleton, Set.mem_ofPred_eq]
    constructor
    · rintro ⟨⟨hflag, hthrough, hlive⟩, hother⟩
      refine ⟨hflag, Or.inr ⟨hthrough, ?_⟩, hlive, hother⟩
      rintro rfl
      exact hother ((h.owners bev id).mpr ⟨hflag, hthrough, hlive⟩)
    · rintro ⟨hflag, hcreated | ⟨hthrough, -⟩, hlive, hother⟩
      · exact hcreated.elim
      · exact ⟨⟨hflag, hthrough, hlive⟩, hother⟩
  · exact h.one bev₁ bev₂ id ((hforgets.owns bev₁ id).mp h₁).1 ((hforgets.owns bev₂ id).mp h₂).1

theorem Owners.named_expired (h : Owners P trace w.server) (now : Time) :
    "" ∉ expired now w.server.tabLeases := by
  rw [mem_expired_iff]
  rintro ⟨deadline, hlease, -⟩
  exact h.named (Std.ExtTreeMap.isSome_getElem?_iff_mem.mp (by rw [hlease]; rfl))

/-- The lease timer. -/
theorem Owners.tick (h : Owners P trace w.server) (now : Time) :
    Owners P (trace ++ [(w, .tick now, pruneExpiredTabs P now w)])
      (pruneExpiredTabs P now w).server := by
  have hdropped := forgets_dropTabs P (h.named_expired now) w
  obtain ⟨hleases, htabs, -⟩ := tabs_pruneExpiredTabs P now w
  refine h.keep (fun _ _ => id) (fun _ => id) (Prod.mk.inj (rest_pruneExpiredTabs P now w)).1 ?_ ?_
    (noEmptySet_of_connectionTabs htabs (hdropped.noEmptySet h.noEmptySet))
  · rw [hleases]
    exact fun id hid => ((hdropped.mem_tabLeases_iff id).mp hid).1
  · intro bev id
    rw [owns_of_connectionTabs htabs, hleases, hdropped.owns, hdropped.mem_tabLeases_iff]
    exact ⟨fun ⟨howns, hid⟩ => ⟨howns, h.leased howns, hid⟩, fun ⟨howns, _, hid⟩ => ⟨howns, hid⟩⟩

/-- **One step** keeps the sets of owned tabs right. -/
theorem Owners.step {e : Event I} (h : Owners P trace w.server) (hstep : Step P moves w e w')
    (hnonempty : e.uuid? ≠ some "") (hfresh : ∀ uuid, e.uuid? = some uuid → uuid ∉ uuids trace) :
    Owners P (trace ++ [(w, e, w')]) w'.server := by
  have hconfig := hstep.runtimeConfig
  cases hstep with
  | request hout =>
    rename_i i bev requestText
    obtain ⟨request, json, hdecode, heffect, hsent⟩ := tableEffect_of_outcome hout
    exact h.request heffect hconfig hdecode hsent (fun heq => hnonempty (congrArg some heq))
      (hfresh i.uuid rfl)
  | close bev => exact h.close bev
  | tick now => exact h.tick now
  | gui _ => exact h.same (fun _ _ => id) (fun _ => id) rfl (fun _ => Iff.rfl) rfl

theorem owners_start (softwareVersion timestamp : String) (config : RuntimeConfig) :
    Owners P [] (Server.start softwareVersion timestamp config) where
  used := by simp [Server.start]
  named := by simp [Server.start]
  owners := by simp [Server.start, Owns]
  one := by simp [Server.start, Owns]
  noEmptySet := by simp [Server.start, NoEmptySet]

/-- The sets of owned tabs are right along every run. -/
theorem owners_of_run {softwareVersion timestamp : String} {config : RuntimeConfig} {g : G}
    (hrun : Steps (Traced (Step P moves)) (World.start softwareVersion timestamp config g) trace w)
    (hnonempty : "" ∉ uuids trace) (hfresh : (uuids trace).Nodup) : Owners P trace w.server :=
  fresh_history (fun trace w => Owners P trace w.server)
    (owners_start softwareVersion timestamp config)
    (fun _ _ _ howners hstep => howners.step hstep) hrun hnonempty hfresh

end Step

end Owners

/-! ### What a connection takes with it -/

section Closing

variable {P : Platform Outside GuiState} {trace : List (World GuiState × Event Outside × World GuiState)}
  {w : World GuiState}

/-- The connection sent something, and was not closed since. -/
def IsOpen (bev : Conn) (trace : List (World GuiState × Event Outside × World GuiState)) : Prop :=
  Since (fun entry => ∃ i requestText, entry.2.1 = .request i bev requestText) (Closes bev) trace

theorem CreatedThrough.isOpen {bev : Conn} {id : String} (h : CreatedThrough P trace bev id) :
    IsOpen bev trace := by
  refine Since.mono h ?_
  rintro ⟨w, e, w'⟩ hcreates
  cases e with
  | request i bev' requestText =>
    obtain rfl : bev' = bev := hcreates.1
    exact ⟨i, requestText, rfl⟩
  | _ => exact hcreates.elim

/-- The tabs are destroyed: they are in no table, and not in the browser once it has executed its
queue.  Everything else is as before. -/
structure Destroys (destroyed : Set String) (w w' : World GuiState) : Prop where
  tables : Forgets destroyed w.server w'.server
  browser : ∀ b, w.gui.browser = some b → ∃ b₁ b₂, w.gui.pending = some b₁ ∧ w'.gui.pending = some b₂
    ∧ (∀ id ∈ destroyed, id ∈ b₁.list) ∧ Without destroyed ∅ b₁ b₂

/-- The browser that executes its queue holds what the tables say. -/
theorem InStep.sameView_pending {used : List String} (h : InStep used w) {b : Browser}
    (hpending : w.gui.pending = some b) : SameView w.server b := by
  obtain ⟨b₀, hbrowser, hall⟩ := Option.bind_eq_some_iff.mp hpending
  have hholdings : w.gui.holdings = b.holdings := by
    rw [GuiState.holdings, hbrowser, execAll_holdings h.settled.kills hall]
  exact (hholdings ▸ h.agrees).sameView

/-- The end of a connection destroys the tabs that it owns. -/
theorem Owners.destroys {used : List String} (hgui : P.gui = GuiState.port)
    (h : Owners P trace w.server) (hstep : InStep used w) (bev : Conn) :
    Destroys {id | w.server.Owns bev id} w (closeConnection P bev w) := by
  refine ⟨forgets_closeConnection h bev, fun b hbrowser => ?_⟩
  obtain ⟨b₁, hb₁⟩ := GuiState.exists_pending hstep.settled hbrowser
  obtain ⟨tabIds, howned, herased⟩ := exists_eraseOwnedTabs h bev
  obtain ⟨b₂, hb₂, hwithout⟩ := GuiState.pending_killTabs tabIds hb₁
  rw [show {id | id ∈ tabIds} = {id | w.server.Owns bev id} from Set.ext howned] at hwithout
  refine ⟨b₁, b₂, hb₁, ?_, fun id howns => ?_, hwithout⟩
  · have hkilled : (closeConnection P bev w).gui
        = tabIds.foldl (fun g tabId => g.post (.KillTab tabId true)) w.gui := by
      show (eraseOwnedTabs P bev w).gui = _
      rw [herased, gui_dropTabs, hgui]
      rfl
    rw [hkilled]
    exact hb₂
  · exact ((hstep.sameView_pending hb₁).tabs id).mp (h.leased howns)

/-- Without tabs that are owned, nothing happens. -/
theorem closeConnection_of_shared (h : Owners P trace w.server)
    (hflag : w.server.runtimeConfig.tabLifetimeByConnection = false) (bev : Conn) :
    closeConnection P bev w = w := by
  have hnone : w.server.connectionTabs[bev]? = none := by
    cases howned : w.server.connectionTabs[bev]? with
    | none => rfl
    | some owned =>
      refine absurd (Std.ExtTreeSet.eq_empty_iff_forall_not_mem.mpr fun id hid => ?_)
        (Std.ExtTreeSet.isEmpty_eq_false_iff.mp (h.noEmptySet bev owned howned))
      have howns := (h.owners bev id).mp ⟨owned, howned, hid⟩
      rw [hflag] at howns
      cases howns.1
  have herase : w.server.connectionTabs.erase bev = w.server.connectionTabs := by
    refine Std.ExtTreeMap.ext_getElem? fun bev' => ?_
    rw [StdMap.getElem?_erase]
    split
    next hbev => rw [← hbev, hnone]
    next => rfl
  show eraseConnection bev (eraseOwnedTabs P bev w) = w
  have hkept : eraseOwnedTabs P bev w = w := by
    rw [eraseOwnedTabs, hflag]
    rfl
  rw [hkept, eraseConnection, herase]

theorem inStep_of_trace (hgui : P.gui = GuiState.port) {softwareVersion timestamp : String}
    {config : RuntimeConfig}
    (hrun : Steps (Traced (Step P GuiState.Moves))
      (World.start softwareVersion timestamp config (GuiState.start config)) trace w)
    (hnonempty : "" ∉ uuids trace) (hfresh : (uuids trace).Nodup) : InStep (uuids trace) w := by
  rw [uuids_eq] at hnonempty hfresh ⊢
  exact inStep_of_run hgui hrun.untraced
    (fun e he huuid => hnonempty (List.mem_filterMap.mpr ⟨e, he, huuid⟩)) hfresh

/-- What holds of the tabs of connections in every state of a run. -/
structure OwnedTabs (P : Platform Outside GuiState)
    (trace : List (World GuiState × Event Outside × World GuiState)) (w : World GuiState) : Prop where
  created : ∀ bev id,
    w.server.Owns bev id ↔ CreatedThrough P trace bev id ∧ id ∈ w.server.tabLeases
  leased : ∀ bev id, w.server.Owns bev id → id ∈ w.server.tabLeases ∧ IsOpen bev trace
  one : ∀ bev bev' id, w.server.Owns bev id → w.server.Owns bev' id → bev = bev'
  noEmptySet : w.server.NoEmptySet
  /-- The end of a connection destroys exactly the live tabs that were created through it. -/
  closed : ∀ bev, Destroys {id | CreatedThrough P trace bev id ∧ id ∈ w.server.tabLeases} w
    (closeConnection P bev w)

/-- **Whose tabs they are**: in every run with fresh ids, over any number of connections whose
pointers may be used again, the sets of owned tabs are right, and the end of a connection destroys its
own tabs and no others.  Without `tabLifetimeByConnection` it does nothing. -/
theorem owned_of_run (hgui : P.gui = GuiState.port) {softwareVersion timestamp : String}
    {config : RuntimeConfig}
    (hrun : Steps (Traced (Step P GuiState.Moves))
      (World.start softwareVersion timestamp config (GuiState.start config)) trace w)
    (hnonempty : "" ∉ uuids trace) (hfresh : (uuids trace).Nodup) :
    (config.tabLifetimeByConnection = true → OwnedTabs P trace w)
      ∧ (config.tabLifetimeByConnection = false → ∀ bev, closeConnection P bev w = w) := by
  have howners := owners_of_run hrun hnonempty hfresh
  have hconfig : w.server.runtimeConfig = config :=
    hrun.untraced.invariant (fun w => w.server.runtimeConfig = config)
      (fun hbefore hstep => hstep.runtimeConfig.trans hbefore) rfl
  constructor
  · intro hflag
    have hcreated : ∀ bev id,
        w.server.Owns bev id ↔ CreatedThrough P trace bev id ∧ id ∈ w.server.tabLeases := by
      intro bev id
      rw [howners.owners, hconfig]
      exact and_iff_right hflag
    refine ⟨hcreated, fun bev id howns => ⟨howners.leased howns, ((hcreated bev id).mp howns).1.isOpen⟩,
      howners.one, howners.noEmptySet, fun bev => ?_⟩
    rw [show {id | CreatedThrough P trace bev id ∧ id ∈ w.server.tabLeases}
      = {id | w.server.Owns bev id} from Set.ext fun id => (hcreated bev id).symm]
    exact howners.destroys hgui (inStep_of_trace hgui hrun hnonempty hfresh) bev
  · intro hflag
    rw [← hconfig] at hflag
    exact closeConnection_of_shared howners hflag

/-- Two connections open a tab each, the first one ends, and its pointer is used again. -/
def reuseEvents : List (Event Outside) :=
  [.gui, .request { sampleInput with uuid := "1" } 7 newTabText,
    .request { sampleInput with uuid := "2" } 8 newTabText, .close 7,
    .request { sampleInput with uuid := "3" } 7 newTabText]

theorem owned_of_reuse : ∃ trace w, trace.map (fun entry => entry.2.1) = reuseEvents
    ∧ Steps (Traced (Step tabPlatform GuiState.Moves))
        (World.start "1" "2024-01-01T00:00:00Z" { tabLifetimeByConnection := true }
          (.start { tabLifetimeByConnection := true })) trace w
    ∧ w.server.tabLeases.keys = ["2", "3"] ∧ OwnedTabs tabPlatform trace w := by
  have hrun : Steps (Step tabPlatform GuiState.Moves)
      (World.start "1" "2024-01-01T00:00:00Z" { tabLifetimeByConnection := true }
        (.start { tabLifetimeByConnection := true })) reuseEvents _ :=
    .cons (.gui .startup) (.cons (.request rfl) (.cons (.request rfl) (.cons (.close _ _)
      (.cons (.request rfl) (.nil _)))))
  obtain ⟨trace, hevents, htraced⟩ := hrun.traced
  have huuids : uuids trace = ["1", "2", "3"] := by
    rw [uuids_eq, hevents]
    rfl
  refine ⟨trace, _, hevents, htraced, by decide +kernel, ?_⟩
  exact (owned_of_run rfl htraced (by rw [huuids]; decide) (by rw [huuids]; decide)).1 rfl

end Closing

end OpenMadt.Server
