import OpenMadt.ServiceNames
import OpenMadt.Settings

/-!
# What the server announces

The server and the advertiser that it owns: `start` makes the advertiser and tells it a TXT record,
`handleSetSettings` tells it another one, and Avahi calls it back whenever it likes.

* `Host` — the server with its advertiser; `HostStep` — an event of the server, or a callback of Avahi.
* `stores` — whether a request stores settings; `advertiserAfter` — the call of `setTxt` that follows.
* `publishedAt` — the time stamp of the record; `fills` — what makes the advertiser fill its group.
* `advertised_of_run` — what is announced is what the server would answer to a `GetSettings`.

That `start` of the advertiser throws is left out, and so is a callback in the middle of a call.
-/

namespace OpenMadt

open CString (cstr)
open AvahiService Run Server

variable {I G : Type} (P : Platform I G)

/-! ### The server and its advertiser -/

/-- The process: the server, and its member `dnsSdAdvertiser`. -/
structure Host (G : Type) where
  world : World G
  dnsSdAdvertiser : Option AvahiService

/-- The advertiser that `start` makes; it is told the record before it runs. -/
def advertise (gethostname : Option String) (m_port : ℤ) (timestamp : String)
    (runtimeConfig : RuntimeConfig) : Option AvahiService :=
  if runtimeConfig.dnsSdEnabled then
    let record := (Server.start P.SOFTWARE_VERSION timestamp runtimeConfig).dnsSdRecord P.SOFTWARE_VERSION
      timestamp
    let advertiser := (AvahiService.new (buildDnsSdServiceName gethostname runtimeConfig)
      "_itxpt_socket._tcp" (.ofInt m_port)).setTxt done record
    some { advertiser with m_running := true }
  else none

/-- The process in which the server begins to listen. -/
def Host.start (gethostname : Option String) (m_port : ℤ) (timestamp : String)
    (runtimeConfig : RuntimeConfig) (g : G) : Host G where
  world := World.start P.SOFTWARE_VERSION timestamp runtimeConfig g
  dnsSdAdvertiser := advertise P gethostname m_port timestamp runtimeConfig

/-- The request makes `handleSetSettings` store settings: it is accepted, and the GUI applies them. -/
def stores (i : Input I) (requestText : Bytes) (w : World G) : Bool :=
  match decode P requestText with
  | .ok (.SetSettings patch) =>
    match P.gui.call i.gui (.ApplySettings (merged w.server.settingsState patch)) w.gui with
    | some (some gResp, _) => gResp.result = .OK
    | _ => false
  | _ => false

/-- The advertiser after an event of the server that leads from `w` to `w'`. -/
def advertiserAfter (returns : AvahiReturns) (w w' : World G) (advertiser : Option AvahiService) :
    Event I → Option AvahiService
  | .request i _ requestText =>
    if stores P i requestText w then
      advertiser.map (AvahiService.setTxt returns (w'.server.dnsSdRecord P.SOFTWARE_VERSION i.timestamp))
    else advertiser
  | _ => advertiser

/-- What can happen, with what Avahi answers in it. -/
inductive HostEvent (I : Type) where
  | server (event : Event I) (returns : AvahiReturns)
  | clientCallback (state : AvahiClientState) (returns : AvahiReturns)
  | groupCallback (state : AvahiEntryGroupState) (returns : AvahiReturns)

/-- Avahi does what it is asked to. -/
def HostEvent.Accepted : HostEvent I → Prop
  | .server _ returns | .clientCallback _ returns | .groupCallback _ returns =>
    returns.group = true ∧ 0 ≤ returns.add

/-- What an event does; `moves` are the GUI's own moves. -/
inductive HostStep (moves : G → G → Prop) : Host G → HostEvent I → Host G → Prop where
  | server {h : Host G} {w' : World G} {event : Event I} (returns : AvahiReturns)
      (hstep : Server.Step P moves h.world event w') :
      HostStep moves h (.server event returns)
        { world := w', dnsSdAdvertiser := advertiserAfter P returns h.world w' h.dnsSdAdvertiser event }
  | clientCallback {h : Host G} {s s' : AvahiService} (state : AvahiClientState) (returns : AvahiReturns)
      (hadvertiser : h.dnsSdAdvertiser = some s) (hstep : AvahiStep s (.clientCallback state returns) s') :
      HostStep moves h (.clientCallback state returns) { h with dnsSdAdvertiser := some s' }
  | groupCallback {h : Host G} {s s' : AvahiService} (state : AvahiEntryGroupState)
      (returns : AvahiReturns) (hadvertiser : h.dnsSdAdvertiser = some s)
      (hstep : AvahiStep s (.groupCallback state returns) s') :
      HostStep moves h (.groupCallback state returns) { h with dnsSdAdvertiser := some s' }

/-- One step with the states around it. -/
abbrev HostEntry (I G : Type) := Host G × HostEvent I × Host G

/-- The time stamp of the record after a step. -/
def stampAfter (latest : String) (entry : HostEntry I G) : String :=
  match entry.2.1 with
  | .server (.request i _ requestText) _ =>
    if stores P i requestText entry.1.world then i.timestamp else latest
  | _ => latest

/-- The time stamp of the record: that of `start`, or of the last request that stored settings. -/
def publishedAt (timestamp : String) (trace : List (HostEntry I G)) : String :=
  trace.foldl (stampAfter P) timestamp

/-- The step makes the advertiser fill its group. -/
def fills (entry : HostEntry I G) : Bool :=
  match entry.2.1 with
  | .server (.request i _ requestText) _ => stores P i requestText entry.1.world
  | .clientCallback .running _ => true
  | _ => false

variable {P} {moves : G → G → Prop} {i : Input I} {bev : Conn} {requestText : Bytes}

/-! ### What the server stores -/

/-- What the record is made of, and the record. -/
def published (s : Server) : RuntimeConfig × SettingsState × Option Txt :=
  (s.runtimeConfig, s.settingsState, s.dnsSdTxt)

theorem published_of_rest {s s' : Server} (h : s'.rest = s.rest) : published s' = published s :=
  congrArg (fun rest => (rest.1, rest.2.1, rest.2.2.1)) h

theorem published_afterRequest (request : Request) (s : Server) :
    published (afterRequest P i s request) = published s := by
  unfold afterRequest
  split
  · rw [authorize_server]
    rfl
  · split
    · split <;> rfl
    · rfl

/-- All requests but one kind leave it as it is. -/
theorem Server.Effect.published {s s' : Server} {request : Request} {x : Exchange} {json : Json}
    (h : Effect P i bev s request x s' json) (hother : ∀ patch, request ≠ .SetSettings patch) :
    published s' = published s := by
  cases h with
  | answer _ => exact published_afterRequest request s
  | failure _ _ => exact published_afterRequest request s
  | query _ _ _ => exact published_afterRequest request s
  | exit hcontrol _ =>
    rw [← afterRequest_control (P := P) (i := i) hcontrol]
    exact published_afterRequest request s
  | settings _ => exact absurd rfl (hother _)
  | newTab _ =>
    have hremember := published_of_rest (rest_rememberOwnedTab bev i.uuid s)
    split
    · exact hremember
    · exact hremember
  | killTab _ _ => exact published_of_rest (rest_forgetOwnedTab _ s)
  | _ => rfl

/-- **A request that stores settings**, and what the server has then. -/
theorem stored_of_stores {w w' : World G} (hstep : Server.Step P moves w (.request i bev requestText) w')
    (hstores : stores P i requestText w = true) :
    ∃ settings, w'.server = w.server.storeSettings P.SOFTWARE_VERSION i.timestamp settings := by
  obtain ⟨request, hdecode, hrun⟩ := hstep.decoded
  unfold stores at hstores
  rw [hdecode] at hstores
  cases request with
  | SetSettings patch =>
    dsimp only at hstores
    obtain ⟨⟨gResp, g⟩, hcall, rfl⟩ := Option.map_eq_some_iff.mp hrun
    rw [hcall] at hstores
    cases gResp with
    | none => cases hstores
    | some gResp =>
      have hok : gResp.result = .OK := of_decide_eq_true hstores
      refine ⟨merged w.server.settingsState patch, ?_⟩
      show (if gResp.result = .OK then _ else _ : Server × Json).1 = _
      rw [if_pos hok]
  | _ => cases hstores

/-- A request that does not store settings. -/
theorem published_of_not_stores {w w' : World G}
    (hstep : Server.Step P moves w (.request i bev requestText) w')
    (hstores : stores P i requestText w = false) : published w'.server = published w.server := by
  obtain ⟨request, hdecode, hrun⟩ := hstep.decoded
  by_cases hsettings : ∃ patch, request = .SetSettings patch
  · obtain ⟨patch, rfl⟩ := hsettings
    unfold stores at hstores
    rw [hdecode] at hstores
    dsimp only at hstores
    obtain ⟨⟨gResp, g⟩, hcall, rfl⟩ := Option.map_eq_some_iff.mp hrun
    rw [hcall] at hstores
    cases gResp with
    | none => rfl
    | some gResp =>
      have herror : gResp.result ≠ .OK := of_decide_eq_false hstores
      show published (if gResp.result = .OK then _ else _ : Server × Json).1 = _
      rw [if_neg herror]
  · obtain ⟨x, json, heffect, -⟩ := effect_of_run hrun
    exact heffect.published fun patch hpatch => hsettings ⟨patch, hpatch⟩

/-- An event that is no request. -/
theorem published_of_step {w w' : World G} {event : Event I} (hstep : Server.Step P moves w event w')
    (hother : ∀ i bev requestText, event ≠ .request i bev requestText) :
    published w'.server = published w.server := by
  cases hstep with
  | request _ => exact absurd rfl (hother _ _ _)
  | close bev => exact published_of_rest (rest_closeConnection P bev w)
  | tick now =>
    have hrest := rest_pruneExpiredTabs P now w
    exact congrArg (fun rest => (rest.1, rest.2.1, rest.2.2.1)) hrest
  | gui _ => rfl

/-- The record depends on nothing else. -/
theorem dnsSdRecord_of_published {s s' : Server} (h : published s' = published s)
    (softwareVersion timestamp : String) :
    s'.dnsSdRecord softwareVersion timestamp = s.dnsSdRecord softwareVersion timestamp := by
  obtain ⟨hconfig, hrest⟩ := Prod.mk.inj h
  obtain ⟨hsettings, -⟩ := Prod.mk.inj hrest
  simp only [dnsSdRecord, currentActiveModeDnsSdValue, hconfig, hsettings]

/-! ### An Avahi that does what it is asked to -/

/-- An accepted call leaves the service announced. -/
theorem AvahiService.createOrUpdateService_accepted {returns : AvahiReturns} {s : AvahiService}
    (hgroup : returns.group = true) (hadd : 0 ≤ returns.add) (hcurrent : s.Current) :
    s.createOrUpdateService returns = { s with m_group := some [s.entry] } := by
  have hadded : ∀ t : AvahiService, t.addService returns [] = { t with m_group := some [t.entry] } := by
    intro t
    rw [addService, if_neg (not_not_intro rfl), if_neg (by omega)]
    rfl
  cases hold : s.m_group with
  | none =>
    rw [createOrUpdateService, hold]
    show (if returns.group = true then _ else _) = _
    rw [if_pos hgroup, hadded]
    rfl
  | some entries =>
    rw [createOrUpdateService, hold]
    show s.addService returns entries = _
    rcases hcurrent entries hold with rfl | rfl
    · rw [hadded]
    · rw [addService, if_pos (List.cons_ne_nil _ _), ← hold]

/-! ### The record and the group -/

/-- The service type. -/
abbrev SERVICE_TYPE : String := "_itxpt_socket._tcp"

/-- What the advertiser `s` has to do with the server, after the events of the trace. -/
structure Advertises (P : Platform I G) (name : String) (port : UInt16) (timestamp : String)
    (trace : List (HostEntry I G)) (h : Host G) (s : AvahiService) : Prop where
  running : s.m_running = true
  /-- The advertiser has gone through a run of its own. -/
  run : ∃ calls, Steps (Traced AvahiStep) (AvahiService.new name SERVICE_TYPE port) calls s
  record : s.m_txt
    = h.world.server.dnsSdRecord P.SOFTWARE_VERSION (publishedAt P timestamp trace)
  told : h.world.server.dnsSdTxt = some s.m_txt
  group : (∀ entry ∈ trace, entry.2.1.Accepted) →
    s.m_group = if trace.any (fills P) then some [s.entry] else none

variable {name : String} {port : UInt16} {timestamp : String} {trace : List (HostEntry I G)}
  {h h' : Host G} {s s' : AvahiService} {event : HostEvent I}

theorem publishedAt_append (entry : HostEntry I G) :
    publishedAt P timestamp (trace ++ [entry]) = stampAfter P (publishedAt P timestamp trace) entry := by
  rw [publishedAt, List.foldl_append]
  rfl

theorem any_fills_append (entry : HostEntry I G) :
    (trace ++ [entry]).any (fills P) = (trace.any (fills P) || fills P entry) := by
  rw [List.any_append, List.any_cons, List.any_nil, Bool.or_false]

/-- The advertiser's own invariant. -/
theorem Advertises.current (ha : Advertises P name port timestamp trace h s) : s.Current := by
  obtain ⟨calls, hcalls⟩ := ha.run
  exact (announcing_of_run hcalls).current

/-- A step that neither the record nor the advertiser takes part in. -/
theorem Advertises.keep (ha : Advertises P name port timestamp trace h s)
    (hpublished : published h'.world.server = published h.world.server)
    (hstamp : stampAfter P (publishedAt P timestamp trace) (h, event, h') = publishedAt P timestamp trace)
    (hfills : fills P (h, event, h') = false) :
    Advertises P name port timestamp (trace ++ [(h, event, h')]) h' s where
  running := ha.running
  run := ha.run
  record := by
    rw [publishedAt_append, hstamp, dnsSdRecord_of_published hpublished]
    exact ha.record
  told := (congrArg (fun facts => facts.2.2) hpublished).trans ha.told
  group := by
    intro hall
    rw [any_fills_append, hfills, Bool.or_false]
    exact ha.group fun entry hentry => hall entry (List.mem_append_left _ hentry)

/-- A step in which the advertiser fills its group. -/
theorem advertises_create {t : AvahiService} {returns : AvahiReturns}
    (hrun : ∃ calls, Steps (Traced AvahiStep) (AvahiService.new name SERVICE_TYPE port) calls
      (t.createOrUpdateService returns))
    (hrunning : t.m_running = true) (hcurrent : t.Current)
    (hrecord : t.m_txt = h'.world.server.dnsSdRecord P.SOFTWARE_VERSION
      (stampAfter P (publishedAt P timestamp trace) (h, event, h')))
    (htold : h'.world.server.dnsSdTxt = some t.m_txt)
    (hreturns : event.Accepted → returns.group = true ∧ 0 ≤ returns.add)
    (hfills : (∀ entry ∈ trace, entry.2.1.Accepted) →
      trace.any (fills P) = true ∨ fills P (h, event, h') = true) :
    Advertises P name port timestamp (trace ++ [(h, event, h')]) h' (t.createOrUpdateService returns) := by
  obtain ⟨group, heq, -⟩ := createOrUpdateService_spec returns hcurrent
  refine ⟨by rw [heq]; exact hrunning, hrun, ?_, by rw [heq]; exact htold, fun hall => ?_⟩
  · rw [heq, publishedAt_append]
    exact hrecord
  · obtain ⟨hgroup, hadd⟩ := hreturns (hall (h, event, h') (by simp))
    have hany : (trace ++ [(h, event, h')]).any (fills P) = true := by
      rw [any_fills_append, Bool.or_eq_true]
      exact hfills fun entry hentry => hall entry (List.mem_append_left _ hentry)
    rw [createOrUpdateService_accepted hgroup hadd hcurrent, if_pos hany]
    rfl

/-- One more step of the advertiser's own run. -/
theorem Advertises.next (ha : Advertises P name port timestamp trace h s) {call : AvahiEvent}
    (hstep : AvahiStep s call s') :
    ∃ calls, Steps (Traced AvahiStep) (AvahiService.new name SERVICE_TYPE port) calls s' := by
  obtain ⟨calls, hcalls⟩ := ha.run
  exact ⟨calls ++ [(s, call, s')], hcalls.append (.cons ⟨rfl, rfl, hstep⟩ (.nil _))⟩

/-- `setTxt` after the settings are stored. -/
theorem Advertises.store (ha : Advertises P name port timestamp trace h s) {w' : World G}
    (returns : AvahiReturns)
    (hstep : Server.Step P moves h.world (.request i bev requestText) w')
    (hstores : stores P i requestText h.world = true) {h' : Host G} (hworld : h'.world = w') :
    Advertises P name port timestamp
      (trace ++ [(h, .server (.request i bev requestText) returns, h')]) h'
      (s.setTxt returns (w'.server.dnsSdRecord P.SOFTWARE_VERSION i.timestamp)) := by
  obtain ⟨settings, hstored⟩ := stored_of_stores hstep hstores
  have hset : s.setTxt returns (w'.server.dnsSdRecord P.SOFTWARE_VERSION i.timestamp)
      = { s with m_txt := w'.server.dnsSdRecord P.SOFTWARE_VERSION i.timestamp }.resetGroup.createOrUpdateService
        returns := by
    simp only [AvahiService.setTxt, ha.running, Bool.not_true, Bool.false_eq_true, if_false]
  have hnext := ha.next (.setTxt (w'.server.dnsSdRecord P.SOFTWARE_VERSION i.timestamp) returns)
  rw [hset] at hnext ⊢
  apply advertises_create hnext ha.running (current_resetGroup _)
  · show w'.server.dnsSdRecord _ i.timestamp = h'.world.server.dnsSdRecord _
      (if stores P i requestText h.world then i.timestamp else publishedAt P timestamp trace)
    rw [if_pos hstores, hworld]
  · show h'.world.server.dnsSdTxt = some (w'.server.dnsSdRecord _ i.timestamp)
    rw [hworld, hstored]
    show h.world.server.dnsSdTxt.map _ = _
    rw [ha.told]
    rfl
  · exact id
  · exact fun _ => Or.inr hstores

/-- The client runs, or the name collides: the group is filled with the record that it has. -/
theorem Advertises.callback (ha : Advertises P name port timestamp trace h s) {t : AvahiService}
    {returns : AvahiReturns}
    (hrun : ∃ calls, Steps (Traced AvahiStep) (AvahiService.new name SERVICE_TYPE port) calls
      (t.createOrUpdateService returns))
    (hrunning : t.m_running = true) (hcurrent : t.Current) (htxt : t.m_txt = s.m_txt)
    (hworld : h'.world = h.world)
    (hstamp : stampAfter P (publishedAt P timestamp trace) (h, event, h') = publishedAt P timestamp trace)
    (hreturns : event.Accepted → returns.group = true ∧ 0 ≤ returns.add)
    (hfills : (∀ entry ∈ trace, entry.2.1.Accepted) →
      trace.any (fills P) = true ∨ fills P (h, event, h') = true) :
    Advertises P name port timestamp (trace ++ [(h, event, h')]) h' (t.createOrUpdateService returns) := by
  apply advertises_create hrun hrunning hcurrent
  · rw [htxt, hstamp, hworld]
    exact ha.record
  · rw [htxt, hworld]
    exact ha.told
  · exact hreturns
  · exact hfills

/-- A callback of the client. -/
theorem Advertises.clientCallback (ha : Advertises P name port timestamp trace h s)
    (state : AvahiClientState) (returns : AvahiReturns)
    (hstep : AvahiStep s (.clientCallback state returns) s') (hworld : h'.world = h.world) :
    Advertises P name port timestamp (trace ++ [(h, .clientCallback state returns, h')]) h' s' := by
  have hsame : published h'.world.server = published h.world.server := by rw [hworld]
  have hnext := ha.next hstep
  cases hstep with
  | clientCallback _ _ hrunning =>
    cases state with
    | running => exact ha.callback hnext ha.running ha.current rfl hworld rfl id fun _ => Or.inr rfl
    | registering => exact ha.keep hsame rfl rfl
    | collision => exact ha.keep hsame rfl rfl
    | failure => exact ha.keep hsame rfl rfl
    | connecting => exact ha.keep hsame rfl rfl

/-- A callback of the group: there is one only if the group has been filled before. -/
theorem Advertises.groupCallback (ha : Advertises P name port timestamp trace h s)
    (state : AvahiEntryGroupState) (returns : AvahiReturns)
    (hstep : AvahiStep s (.groupCallback state returns) s') (hworld : h'.world = h.world) :
    Advertises P name port timestamp (trace ++ [(h, .groupCallback state returns, h')]) h' s' := by
  have hsame : published h'.world.server = published h.world.server := by rw [hworld]
  have hnext := ha.next hstep
  cases hstep with
  | groupCallback _ _ hgroup hhandle =>
    cases state with
    | collision =>
      obtain ⟨t, ht, rfl⟩ := Option.map_eq_some_iff.mp hhandle
      have hrename : t = { s with m_renameCount := t.m_renameCount, m_currentName := t.m_currentName } := by
        unfold nextName at ht
        split at ht
        · cases ht
          rfl
        · cases ht
      have hrunning : t.m_running = true := by
        rw [hrename]
        exact ha.running
      have htxt : t.m_txt = s.m_txt := by rw [hrename]
      apply ha.callback hnext hrunning (current_resetGroup t) htxt hworld rfl id
      intro hall
      cases hany : trace.any (fills P) with
      | true => exact Or.inl rfl
      | false =>
        have hnone := ha.group hall
        rw [hany, if_neg Bool.false_ne_true] at hnone
        rw [hnone] at hgroup
        cases hgroup
    | uncommited => obtain rfl := Option.some.inj hhandle; exact ha.keep hsame rfl rfl
    | registering => obtain rfl := Option.some.inj hhandle; exact ha.keep hsame rfl rfl
    | established => obtain rfl := Option.some.inj hhandle; exact ha.keep hsame rfl rfl
    | failure => obtain rfl := Option.some.inj hhandle; exact ha.keep hsame rfl rfl

/-- An event of the server. -/
theorem Advertises.server (ha : Advertises P name port timestamp trace h s)
    (hadvertiser : h.dnsSdAdvertiser = some s) {w' : World G} {event : Event I} (returns : AvahiReturns)
    (hstep : Server.Step P moves h.world event w') (hworld : h'.world = w')
    (hafter : h'.dnsSdAdvertiser = advertiserAfter P returns h.world w' h.dnsSdAdvertiser event) :
    ∃ s', h'.dnsSdAdvertiser = some s'
      ∧ Advertises P name port timestamp (trace ++ [(h, .server event returns, h')]) h' s' := by
  rw [hadvertiser] at hafter
  cases event with
  | request i bev requestText =>
    cases hstores : stores P i requestText h.world with
    | true =>
      refine ⟨_, ?_, ha.store returns hstep hstores hworld⟩
      rw [hafter, advertiserAfter, if_pos hstores]
      rfl
    | false =>
      refine ⟨s, by rw [hafter, advertiserAfter, hstores, if_neg Bool.false_ne_true], ?_⟩
      apply ha.keep (hworld ▸ published_of_not_stores hstep hstores)
      · show (if stores P i requestText h.world then _ else _) = _
        rw [hstores, if_neg Bool.false_ne_true]
      · exact hstores
  | close bev => exact ⟨s, hafter, ha.keep (hworld ▸ published_of_step hstep nofun) rfl rfl⟩
  | tick now => exact ⟨s, hafter, ha.keep (hworld ▸ published_of_step hstep nofun) rfl rfl⟩
  | gui => exact ⟨s, hafter, ha.keep (hworld ▸ published_of_step hstep nofun) rfl rfl⟩

/-- **The step lemma.** -/
theorem Advertises.step (ha : Advertises P name port timestamp trace h s)
    (hadvertiser : h.dnsSdAdvertiser = some s) (hstep : HostStep P moves h event h') :
    ∃ s', h'.dnsSdAdvertiser = some s'
      ∧ Advertises P name port timestamp (trace ++ [(h, event, h')]) h' s' := by
  cases hstep with
  | server returns hserver => exact ha.server hadvertiser returns hserver rfl rfl
  | clientCallback state returns hsame hcall =>
    obtain rfl := Option.some.inj (hadvertiser.symm.trans hsame)
    exact ⟨_, rfl, ha.clientCallback state returns hcall rfl⟩
  | groupCallback state returns hsame hcall =>
    obtain rfl := Option.some.inj (hadvertiser.symm.trans hsame)
    exact ⟨_, rfl, ha.groupCallback state returns hcall rfl⟩

/-- A server without an advertiser never gets one. -/
theorem silent_step (hstep : HostStep P moves h event h') (hsilent : h.dnsSdAdvertiser = none) :
    h'.dnsSdAdvertiser = none := by
  cases hstep with
  | @server w' event returns _ =>
    show advertiserAfter P returns h.world w' h.dnsSdAdvertiser event = none
    rw [hsilent]
    cases event with
    | request i bev requestText =>
      rw [advertiserAfter]
      split
      · rfl
      · rfl
    | close bev => rfl
    | tick now => rfl
    | gui => rfl
  | clientCallback state returns hsome _ =>
    rw [hsilent] at hsome
    cases hsome
  | groupCallback state returns hsome _ =>
    rw [hsilent] at hsome
    cases hsome

/-- A service that is told a record and started has gone through these two steps. -/
theorem run_of_start (name : String) (port : UInt16) (txt : Txt) :
    ∃ calls, Steps (Traced AvahiStep) (AvahiService.new name SERVICE_TYPE port) calls
      { (AvahiService.new name SERVICE_TYPE port).setTxt done txt with m_running := true } :=
  ⟨[(_, .setTxt txt done, _), (_, .start, _)],
    .cons ⟨rfl, rfl, .setTxt txt done⟩ (.cons ⟨rfl, rfl, .start rfl⟩ (.nil _))⟩

/-- When the server begins to listen, the record is that of the configuration. -/
theorem advertises_start {gethostname : Option String} {m_port : ℤ} {timestamp : String}
    {runtimeConfig : RuntimeConfig} {g : G}
    (hadvertiser : (Host.start P gethostname m_port timestamp runtimeConfig g).dnsSdAdvertiser = some s) :
    Advertises P (buildDnsSdServiceName gethostname runtimeConfig) (.ofInt m_port) timestamp []
      (Host.start P gethostname m_port timestamp runtimeConfig g) s := by
  have hadvertise : advertise P gethostname m_port timestamp runtimeConfig = some s := hadvertiser
  unfold advertise at hadvertise
  split at hadvertise
  next henabled =>
    obtain rfl := Option.some.inj hadvertise
    refine ⟨rfl, run_of_start _ _ _, rfl, ?_, fun _ => rfl⟩
    show (if runtimeConfig.dnsSdEnabled then _ else _) = _
    rw [if_pos henabled]
    rfl
  next => cases hadvertise

/-- **The run lemma**: without an advertiser nothing is announced, and an advertiser keeps to the server. -/
theorem advertises_of_run {gethostname : Option String} {m_port : ℤ} {timestamp : String}
    {runtimeConfig : RuntimeConfig} {g : G}
    (hrun : Steps (Traced (HostStep P moves))
      (Host.start P gethostname m_port timestamp runtimeConfig g) trace h) :
    (runtimeConfig.dnsSdEnabled = false ∧ h.dnsSdAdvertiser = none)
      ∨ runtimeConfig.dnsSdEnabled = true ∧ ∃ s, h.dnsSdAdvertiser = some s
        ∧ Advertises P (buildDnsSdServiceName gethostname runtimeConfig) (.ofInt m_port) timestamp trace h
          s := by
  cases henabled : runtimeConfig.dnsSdEnabled with
  | false =>
    have hsilent : (Host.start P gethostname m_port timestamp runtimeConfig g).dnsSdAdvertiser = none := by
      show (if runtimeConfig.dnsSdEnabled then _ else none) = none
      rw [henabled, if_neg Bool.false_ne_true]
    have hkeep := hrun.untraced.invariant (fun h => h.dnsSdAdvertiser = none)
      (fun hbefore hstep => silent_step hstep hbefore) hsilent
    exact Or.inl ⟨rfl, hkeep⟩
  | true =>
    have hsome : (advertise P gethostname m_port timestamp runtimeConfig).isSome = true := by
      rw [advertise, if_pos henabled]
      rfl
    obtain ⟨s, hadvertiser⟩ := Option.isSome_iff_exists.mp hsome
    refine Or.inr ⟨rfl, hrun.history (fun trace h => ∃ s, h.dnsSdAdvertiser = some s
      ∧ Advertises P (buildDnsSdServiceName gethostname runtimeConfig) (.ofInt m_port) timestamp trace h s)
      ?_ ⟨s, hadvertiser, advertises_start hadvertiser⟩⟩
    intro before h₁ entry h₂ _ hbefore hentry
    obtain ⟨rfl, rfl, hstep⟩ := hentry
    obtain ⟨s, hadvertiser, ha⟩ := hbefore
    exact ha.step hadvertiser hstep

/-! ### The announcement -/

/-- What no call changes. -/
def AvahiService.fixed (s : AvahiService) : String × String × UInt16 := (s.m_baseName, s.m_type, s.m_port)

theorem AvahiService.fixed_createOrUpdateService (returns : AvahiReturns) (s : AvahiService) :
    (s.createOrUpdateService returns).fixed = s.fixed := by
  have hadd : ∀ (entries : List ServiceEntry) (t : AvahiService),
      (t.addService returns entries).fixed = t.fixed := by
    intro entries t
    unfold addService
    split
    · rfl
    · split
      · rfl
      · rfl
  unfold createOrUpdateService
  split
  · exact hadd _ s
  · split
    · exact hadd [] { s with m_group := some [] }
    · rfl

theorem AvahiService.fixed_step {call : AvahiEvent} (hstep : AvahiStep s call s') : s'.fixed = s.fixed := by
  cases hstep with
  | start _ => rfl
  | stop _ => rfl
  | setTxt txt returns =>
    unfold AvahiService.setTxt
    dsimp only
    split
    · rfl
    · exact fixed_createOrUpdateService returns _
  | clientCallback state returns _ =>
    cases state with
    | running => exact fixed_createOrUpdateService returns s
    | registering => rfl
    | collision => rfl
    | failure => rfl
    | connecting => rfl
  | groupCallback state returns _ hhandle =>
    cases state with
    | collision =>
      obtain ⟨t, ht, rfl⟩ := Option.map_eq_some_iff.mp hhandle
      rw [fixed_createOrUpdateService]
      unfold nextName at ht
      split at ht
      · obtain rfl := Option.some.inj ht
        rfl
      · cases ht
    | uncommited => obtain rfl := Option.some.inj hhandle; rfl
    | registering => obtain rfl := Option.some.inj hhandle; rfl
    | established => obtain rfl := Option.some.inj hhandle; rfl
    | failure => obtain rfl := Option.some.inj hhandle; rfl

/-- The service as the server would announce it now, under the name that its advertiser has come to. -/
def Host.announcement (P : Platform I G) (m_port : ℤ) (stamp : String) (h : Host G) (s : AvahiService) :
    ServiceEntry where
  name := cstr s.m_currentName
  type := cstr SERVICE_TYPE
  port := .ofInt m_port
  txt := txtList (h.world.server.dnsSdRecord P.SOFTWARE_VERSION stamp)

theorem Advertises.entry {m_port : ℤ} (ha : Advertises P name (.ofInt m_port) timestamp trace h s) :
    s.entry = h.announcement P m_port (publishedAt P timestamp trace) s := by
  obtain ⟨calls, hcalls⟩ := ha.run
  have hfixed : s.fixed = (name, SERVICE_TYPE, .ofInt m_port) :=
    hcalls.untraced.invariant (fun s => s.fixed = (name, SERVICE_TYPE, .ofInt m_port))
      (fun hbefore hstep => (fixed_step hstep).trans hbefore) rfl
  obtain ⟨-, hrest⟩ := Prod.mk.inj hfixed
  obtain ⟨htype, hport⟩ := Prod.mk.inj hrest
  rw [AvahiService.entry, Host.announcement, htype, hport, ha.record]

/-- **The announcement is that of the server.**  In every run, with Avahi's callbacks anywhere between the
events of the server: there is an advertiser exactly if the configuration asks for one; all that its group may
hold is one service, with a record of the settings that the server has now; and if Avahi does what it is
asked to, the service is announced from when its client runs, or settings are stored, and ever after. -/
theorem advertised_of_run {gethostname : Option String} {m_port : ℤ} {timestamp : String}
    {runtimeConfig : RuntimeConfig} {g : G}
    (hrun : Steps (Traced (HostStep P moves))
      (Host.start P gethostname m_port timestamp runtimeConfig g) trace h) :
    (h.dnsSdAdvertiser.isSome = true ↔ runtimeConfig.dnsSdEnabled = true)
      ∧ ∀ s, h.dnsSdAdvertiser = some s →
        h.world.server.dnsSdTxt = some s.m_txt
        ∧ (∀ entries, s.m_group = some entries →
            entries = [] ∨ entries = [h.announcement P m_port (publishedAt P timestamp trace) s])
        ∧ ((∀ entry ∈ trace, entry.2.1.Accepted) →
            s.m_group = if trace.any (fills P) then
              some [h.announcement P m_port (publishedAt P timestamp trace) s] else none) := by
  rcases advertises_of_run hrun with ⟨hdisabled, hsilent⟩ | ⟨henabled, s, hadvertiser, ha⟩
  · rw [hsilent, hdisabled]
    exact ⟨by simp, nofun⟩
  · rw [hadvertiser, henabled]
    refine ⟨by simp, ?_⟩
    rintro _ ⟨⟩
    rw [← ha.entry]
    exact ⟨ha.told, ha.current, ha.group⟩

/-- The request that makes the server take second place. -/
def subordinatedText : Bytes :=
  utf8 "\x7b\"req\":\"SetSettings\",\"activeMode\":\"SUBORDINATED\"\x7d"

def subordinatedPlatform : Platform Gui.Outside Gui.GuiState :=
  .sample [(subordinatedText, .obj [("req", .str "SetSettings"), ("activeMode", .str "SUBORDINATED")])]

/-- The name collides, and then the mode changes. -/
theorem advertised_of_collision : ∃ (trace : List (HostEntry Gui.Outside Gui.GuiState))
      (h : Host Gui.GuiState) (s : AvahiService),
    Steps (Traced (HostStep subordinatedPlatform Gui.GuiState.Moves))
        (Host.start subordinatedPlatform none 5000 "2024-01-01T00:00:00Z" busConfig (.start busConfig)) trace h
      ∧ h.dnsSdAdvertiser = some s
      ∧ s.m_group = some [{
          name := "bus-7_madt-1".toList, type := "_itxpt_socket._tcp".toList, port := 5000
          txt := [("txtvers".toList, "1".toList), ("version".toList, SPEC_VERSION.toList),
            ("release".toList, "unknown".toList), ("swvers".toList, "1".toList),
            ("manufacturer".toList, "unknown".toList), ("atdatetime".toList, sampleInput.timestamp.toList),
            ("interval".toList, "10".toList), ("activemode".toList, "subordinated".toList)] }] := by
  have hrun : Steps (Traced (HostStep subordinatedPlatform Gui.GuiState.Moves))
      (Host.start subordinatedPlatform none 5000 "2024-01-01T00:00:00Z" busConfig (.start busConfig))
      [(_, .server .gui done, _), (_, .clientCallback .running done, _), (_, .groupCallback .collision done, _),
        (_, .server (.request sampleInput 7 subordinatedText) done, _)] _ :=
    .cons ⟨rfl, rfl, .server done (.gui .startup)⟩ <|
      .cons ⟨rfl, rfl, .clientCallback .running done rfl (.clientCallback .running done rfl)⟩ <|
      .cons ⟨rfl, rfl, .groupCallback .collision done rfl (.groupCallback .collision done rfl rfl)⟩ <|
      .cons ⟨rfl, rfl, .server done (.request rfl)⟩ <| .nil _
  obtain ⟨-, hall⟩ := advertised_of_run hrun
  obtain ⟨-, -, hgroup⟩ := hall _ rfl
  refine ⟨_, _, _, hrun, rfl, ?_⟩
  have haccepts : done.group = true ∧ 0 ≤ done.add := by decide
  have hannounced := hgroup (by
    simp only [List.forall_mem_cons, List.not_mem_nil, false_implies, implies_true, and_true]
    exact ⟨haccepts, haccepts, haccepts, haccepts⟩)
  refine hannounced.trans ?_
  decide +kernel

end OpenMadt
