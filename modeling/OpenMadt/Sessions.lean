import OpenMadt.Effects
import OpenMadt.Transport

/-!
# Sessions

What comes in on the sockets becomes a run of the server, and what the server answers goes out on them.

* `worldEvents`, `trafficOf` — what an event of the transport is to the server, and to its buffers.
* `TransportStep.steps`, `world_of_run` — every run of the transport is a run of the server.
* `Exchanged` — the texts and the answers of a connection, along a run of the server.
* `answered_of_session` — what a session is answered: every object it sends, once and in order, whatever the
  sockets and the other connections do.
-/

namespace OpenMadt

open Run Server

variable {I G : Type}

namespace Transport

/-! ### What the events are to the server -/

/-- What the rounds of `readcb` take from the input. -/
def chunks : ℕ → Bytes → List Bytes
  | 0, _ => []
  | fuel + 1, input => if input = [] then [] else input.take 1024 :: chunks fuel (input.drop 1024)

/-- The requests in the chunks, behind what is in the buffer. -/
def readEvents (inputs : ℕ → ℕ → Input I) (bev : Conn) : ℕ → Bytes → List Bytes → List (Event I)
  | _, _, [] => []
  | j, buffer, data :: rest =>
    requests (inputs j) bev 0 (Framing.frames (buffer ++ data)).1
      ++ readEvents inputs bev (j + 1) (Framing.frames (buffer ++ data)).2 rest

/-- What a step of the transport is to the server. -/
def worldEvents : Transport G × TransportEvent I × Transport G → List (Event I)
  | (t, .read inputs bev input, _) =>
    readEvents inputs bev 0 (t.service.buffers.of bev) (chunks input.length input)
  | (t, .event bev events, _) => if (t.freed bev events).isSome then [.close bev] else []
  | (_, .tick now, _) => [.tick now]
  | (_, .gui, _) => [.gui]
  | _ => []

/-- What it is to the buffers. -/
def trafficOf : Transport G × TransportEvent I × Transport G → List Framing.Traffic
  | (_, .read _ bev input, _) => (chunks input.length input).map (.chunk bev)
  | (t, .event bev events, _) => if (t.freed bev events).isSome then [.close bev] else []
  | _ => []

/-- The bytes that come in on the connection. -/
def received (bev : Conn) : Transport G × TransportEvent I × Transport G → Bytes
  | (_, .read _ bev' input, _) => if bev' = bev then input else []
  | _ => []

theorem flatten_chunks {fuel : ℕ} {input : Bytes} (h : input.length ≤ fuel) :
    (chunks fuel input).flatten = input := by
  induction fuel generalizing input with
  | zero =>
    rw [List.length_eq_zero_iff.mp (Nat.le_zero.mp h)]
    rfl
  | succ fuel ih =>
    rw [chunks]
    split
    next hempty =>
      rw [hempty]
      rfl
    next hne =>
      have hpos := List.length_pos_of_ne_nil hne
      rw [List.flatten_cons, ih (by rw [List.length_drop]; omega), List.take_append_drop]

/-- **The loop of `readcb`** is a run of the server, and passes its chunks to the buffers. -/
theorem steps_readLoop {P : Platform I G} (moves : G → G → Prop) {inputs : ℕ → ℕ → Input I} {bev : Conn}
    {fuel j : ℕ} {input : Bytes} {s s' : Service G}
    (h : readLoop P inputs bev fuel j input s = .ok s') :
    Steps (Step P moves) s.world (readEvents inputs bev j (s.buffers.of bev) (chunks fuel input)) s'.world
      ∧ s'.buffers = (Framing.traffic s.buffers ((chunks fuel input).map (.chunk bev))).2 := by
  induction fuel generalizing j input s with
  | zero =>
    cases h
    exact ⟨.nil _, rfl⟩
  | succ fuel ih =>
    rw [readLoop] at h
    rw [chunks]
    split at h
    next hempty =>
      cases h
      rw [if_pos hempty]
      exact ⟨.nil _, rfl⟩
    next hne =>
      rw [if_neg hne]
      cases hrequest : Service.request P (inputs j) bev (input.take 1024) s with
      | error fault =>
        rw [hrequest] at h
        cases h
      | ok s₁ =>
        rw [hrequest] at h
        have hbuffers : s₁.buffers = (s.buffers.request bev (input.take 1024)).2 := by
          rw [request_eq] at hrequest
          cases hserve : serveAll P (inputs j) bev 0
              (Framing.frames (s.buffers.of bev ++ input.take 1024)).1 s.world with
          | error fault =>
            rw [hserve] at hrequest
            cases hrequest
          | ok w =>
            rw [hserve] at hrequest
            cases hrequest
            rfl
        obtain ⟨hsteps, hrest⟩ := ih h
        rw [hbuffers, Framing.Buffers.request, Framing.of_insert, if_pos rfl] at hsteps
        refine ⟨(request_steps hrequest).append hsteps, ?_⟩
        rw [hrest, hbuffers]
        rfl

end Transport

open Transport

section Steps

variable {P : Platform I G} {moves : G → G → Prop} {t t' : Transport G} {e : TransportEvent I}

/-- **Every step** of the transport is a run of the server. -/
theorem TransportStep.steps (h : TransportStep P moves t e t') :
    Steps (Step P moves) t.service.world (worldEvents (t, e, t')) t'.service.world := by
  cases h with
  | accept hbev => exact .nil _
  | read hbev hread => exact (steps_readLoop moves hread).1
  | writeReady hbev => exact .nil _
  | @event bev c events hbev =>
    show Steps (Step P moves) _ (if (t.freed bev events).isSome then [.close bev] else []) _
    unfold eventcb
    cases t.freed bev events with
    | none => exact .nil _
    | some c => exact .cons (.close _ bev) (.nil _)
  | tick now => exact .cons (.tick _ now) (.nil _)
  | gui hmoves => exact .cons (.gui hmoves) (.nil _)

/-- The buffers take the traffic. -/
theorem TransportStep.buffers (h : TransportStep P moves t e t') :
    t'.service.buffers = (Framing.traffic t.service.buffers (trafficOf (t, e, t'))).2 := by
  cases h with
  | accept hbev => rfl
  | read hbev hread => exact (steps_readLoop moves hread).2
  | writeReady hbev => rfl
  | @event bev c events hbev =>
    show _ = (Framing.traffic t.service.buffers
      (if (t.freed bev events).isSome then [.close bev] else [])).2
    unfold eventcb
    cases t.freed bev events with
    | none => rfl
    | some c => rfl
  | tick now => rfl
  | gui hmoves => rfl

end Steps

/-! ### Texts and answers -/

/-- The text that an event hands to the server on the connection. -/
def Server.Event.textOn (bev : Conn) : Event I → Option Bytes
  | .request _ bev' requestText => if bev' = bev then some requestText else none
  | _ => none

/-- The text of a request on the connection, and what is answered. -/
def exchange (bev : Conn) : World G × Event I × World G → Option (Bytes × Json)
  | (w, .request _ bev' requestText, w') =>
    if bev' = bev then (w'.sent.drop w.sent.length).head?.map fun sent => (requestText, sent.2) else none
  | _ => none

section Exchanges

variable {P : Platform I G} {moves : G → G → Prop} {w w' : World G}

theorem sent_dropTabs (tabIds : List String) (w : World G) :
    (tabIds.foldl (dropTab P) w).sent = w.sent := by
  induction tabIds generalizing w with
  | nil => rfl
  | cons tabId tabIds ih => exact ih _

theorem sent_dropShortcuts (shortcutIds : List String) (w : World G) :
    (shortcutIds.foldl (dropShortcut P) w).sent = w.sent := by
  induction shortcutIds generalizing w with
  | nil => rfl
  | cons shortcutId shortcutIds ih => exact ih _

theorem sent_closeConnection (bev : Conn) (w : World G) : (closeConnection P bev w).sent = w.sent := by
  show (eraseOwnedTabs P bev w).sent = w.sent
  unfold eraseOwnedTabs
  split
  · rfl
  · split
    · rfl
    · exact sent_dropTabs _ w

theorem sent_pruneExpiredTabs (now : Time) (w : World G) : (pruneExpiredTabs P now w).sent = w.sent :=
  (sent_dropShortcuts _ _).trans (sent_dropTabs _ w)

/-- **One event** of the server: what is sent on the connection is the answer to the text on it. -/
theorem exchange_step {e : Event I} (bev : Conn) (h : Step P moves w e w') :
    ∃ sent, w'.sent = w.sent ++ sent
      ∧ ((exchange bev (w, e, w')).map Prod.fst).toList = (e.textOn bev).toList
      ∧ ((exchange bev (w, e, w')).map Prod.snd).toList
        = (sent.filter fun sent => sent.1 = bev).map Prod.snd := by
  cases h with
  | request hout =>
    rename_i i bev' requestText
    obtain ⟨request, -, hrun⟩ := decoded_of_outcome hout
    obtain ⟨x, json, -, -, hsent⟩ := effect_of_run hrun
    refine ⟨_, hsent, ?_⟩
    simp only [exchange, Event.textOn, hsent, List.drop_left]
    by_cases hbev : bev' = bev
    · simp [hbev]
    · simp [hbev]
  | close bev' => exact ⟨[], by rw [sent_closeConnection, List.append_nil], rfl, rfl⟩
  | tick now => exact ⟨[], by rw [sent_pruneExpiredTabs, List.append_nil], rfl, rfl⟩
  | gui hmoves => exact ⟨[], by rw [List.append_nil], rfl, rfl⟩

theorem filterMap_cons_eq {α β : Type} (f : α → Option β) (a : α) (l : List α) :
    (a :: l).filterMap f = (f a).toList ++ l.filterMap f := by
  cases h : f a <;> simp [h]

/-- **A run** of the server: the answers on the connection are those to its texts, in order. -/
theorem exchange_run (bev : Conn) {trace : List (World G × Event I × World G)}
    (h : Steps (Traced (Step P moves)) w trace w') :
    ∃ sent, w'.sent = w.sent ++ sent
      ∧ (trace.filterMap (exchange bev)).map Prod.fst
        = (trace.map fun entry => entry.2.1).filterMap (Event.textOn bev)
      ∧ (trace.filterMap (exchange bev)).map Prod.snd
        = (sent.filter fun sent => sent.1 = bev).map Prod.snd := by
  induction h with
  | nil w => exact ⟨[], (List.append_nil _).symm, rfl, rfl⟩
  | @cons w₁ w₂ w₃ entry trace hentry _ ih =>
    obtain ⟨_, e, _⟩ := entry
    obtain ⟨rfl, rfl, hstep⟩ := hentry
    obtain ⟨first, hfirst, htexts, hanswers⟩ := exchange_step bev hstep
    obtain ⟨rest, hrest, htexts', hanswers'⟩ := ih
    refine ⟨first ++ rest, by rw [hrest, hfirst, List.append_assoc], ?_, ?_⟩
    · rw [filterMap_cons_eq, List.map_cons, filterMap_cons_eq, List.map_append, htexts', ← htexts,
        Option.toList_map]
    · rw [filterMap_cons_eq, List.map_append, hanswers', ← Option.toList_map, hanswers, List.filter_append,
        List.map_append]

end Exchanges

/-! ### What comes in -/

namespace Transport

theorem textOn_requests (inputs : ℕ → Input I) (bev bev' : Conn) (k : ℕ) (texts : List Bytes) :
    (requests inputs bev' k texts).filterMap (Event.textOn bev) = if bev' = bev then texts else [] := by
  induction texts generalizing k with
  | nil => exact (ite_self _).symm
  | cons requestText texts ih =>
    rw [requests, filterMap_cons_eq, ih, Event.textOn]
    by_cases hbev : bev' = bev
    · simp only [hbev, if_true]
      rfl
    · simp only [hbev, if_false]
      rfl

theorem textOn_readEvents (inputs : ℕ → ℕ → Input I) (bev bev' : Conn) (j : ℕ) (input : List Bytes)
    (bufs : Framing.Buffers) :
    (readEvents inputs bev' j (bufs.of bev') input).filterMap (Event.textOn bev)
      = Framing.textsOf bev (Framing.traffic bufs (input.map (.chunk bev'))).1 := by
  induction input generalizing j bufs with
  | nil => rfl
  | cons data input ih =>
    have hrest := ih (j + 1) (bufs.request bev' data).2
    rw [Framing.Buffers.request, Framing.of_insert, if_pos rfl] at hrest
    rw [readEvents, List.filterMap_append, textOn_requests, hrest, List.map_cons, Framing.traffic,
      Framing.textsOf_append, Framing.textsOf_map]
    rfl

theorem textOn_worldEvents (bev : Conn) (entry : Transport G × TransportEvent I × Transport G) :
    (worldEvents entry).filterMap (Event.textOn bev)
      = Framing.textsOf bev (Framing.traffic entry.1.service.buffers (trafficOf entry)).1 := by
  obtain ⟨t, e, t'⟩ := entry
  cases e with
  | read inputs bev' input => exact textOn_readEvents inputs bev bev' 0 _ _
  | event bev' events =>
    unfold worldEvents trafficOf
    dsimp only
    split <;> rfl
  | _ => rfl

theorem traffic_append_fst (bufs : Framing.Buffers) (past events : List Framing.Traffic) :
    (Framing.traffic bufs (past ++ events)).1
      = (Framing.traffic bufs past).1 ++ (Framing.traffic (Framing.traffic bufs past).2 events).1 := by
  induction past generalizing bufs with
  | nil => rfl
  | cons e past ih =>
    cases e with
    | chunk bev data =>
      rw [List.cons_append, Framing.traffic, ih, Framing.traffic, List.append_assoc]
    | close bev => exact ih _

theorem chunksOf_append (bev : Conn) (past events : List Framing.Traffic) :
    Framing.chunksOf bev (past ++ events) = Framing.chunksOf bev past ++ Framing.chunksOf bev events := by
  induction past with
  | nil => rfl
  | cons e past ih =>
    cases e with
    | chunk other data =>
      rw [List.cons_append, Framing.chunksOf, Framing.chunksOf, ih]
      split <;> rfl
    | close other => exact ih

theorem chunksOf_map (bev bev' : Conn) (input : List Bytes) :
    Framing.chunksOf bev (input.map (.chunk bev')) = if bev' = bev then input else [] := by
  induction input with
  | nil => exact (ite_self _).symm
  | cons data input ih =>
    rw [List.map_cons, Framing.chunksOf, ih]
    split <;> rfl

/-- The chunks of a connection are the bytes that come in on it. -/
theorem flatten_chunksOf (bev : Conn) (trace : List (Transport G × TransportEvent I × Transport G)) :
    (Framing.chunksOf bev (trace.flatMap trafficOf)).flatten = trace.flatMap (received bev) := by
  induction trace with
  | nil => rfl
  | cons entry trace ih =>
    rw [List.flatMap_cons, chunksOf_append, List.flatten_append, ih, List.flatMap_cons]
    congr 1
    obtain ⟨t, e, t'⟩ := entry
    cases e with
    | read inputs bev' input =>
      show (Framing.chunksOf bev ((chunks input.length input).map (.chunk bev'))).flatten
        = if bev' = bev then input else []
      rw [chunksOf_map]
      split
      · exact flatten_chunks le_rfl
      · rfl
    | event bev' events =>
      unfold trafficOf
      dsimp only
      split <;> rfl
    | _ => rfl

/-- The event is the end of the session. -/
def EndsSession (bev : Conn) : Transport G × TransportEvent I × Transport G → Prop
  | (t, .event bev' events, _) => bev' = bev ∧ (t.freed bev events).isSome = true
  | _ => False

theorem not_close_of_session {bev : Conn} {entry : Transport G × TransportEvent I × Transport G}
    (h : ¬ EndsSession bev entry) : ∀ e ∈ trafficOf entry, e ≠ .close bev := by
  obtain ⟨t, e, t'⟩ := entry
  intro traffic htraffic
  cases e with
  | read inputs bev' input =>
    obtain ⟨data, -, rfl⟩ := List.mem_map.mp htraffic
    exact Framing.Traffic.noConfusion
  | event bev' events =>
    unfold trafficOf at htraffic
    dsimp only at htraffic
    split at htraffic
    next hfreed =>
      rw [List.mem_singleton.mp htraffic]
      rintro ⟨⟩
      exact h ⟨rfl, hfreed⟩
    next => cases htraffic
  | _ => cases htraffic

end Transport

section Sessions

variable {P : Platform I G} {moves : G → G → Prop} {t t' : Transport G} {e : TransportEvent I} {bev : Conn}
  {c : Connection}

theorem sentOn_eq {s s' : Service G} {sent : List (Conn × Json)}
    (h : s'.world.sent = s.world.sent ++ sent) :
    sentOn bev s s' = (sent.filter fun sent => sent.1 = bev).map Prod.snd := by
  rw [sentOn, h, List.drop_left]

theorem sentOn_self {s s' : Service G} (h : s'.world.sent = s.world.sent) : sentOn bev s s' = [] := by
  rw [sentOn, h, List.drop_length]
  rfl

theorem responses_sendResponses (dump : Json → Bytes) (c : Connection) (responses : List Json) :
    (responses.foldl (Connection.sendResponse dump) c).responses = c.responses ++ responses := by
  induction responses generalizing c with
  | nil => exact (List.append_nil _).symm
  | cons response responses ih =>
    rw [List.foldl_cons, ih, Connection.sendResponse, List.append_assoc]
    rfl

/-- **One step of a session**: the connection stays, and what is answered on it goes to its buffer. -/
theorem TransportStep.session (h : TransportStep P moves t e t') (hends : ¬ EndsSession bev (t, e, t'))
    (hopen : t.connections bev = some c) :
    ∃ c', t'.connections bev = some c' ∧ c'.responses = c.responses ++ sentOn bev t.service t'.service := by
  have hkept : ∀ {bev' : Conn} {c? : Option Connection}, bev ≠ bev' →
      Function.update t.connections bev' c? bev = some c := by
    intro bev' c? hne
    rw [Function.update_of_ne hne, hopen]
  have hsame : ∀ {s : Service G}, s.world.sent = t.service.world.sent →
      c.responses = c.responses ++ sentOn bev t.service s := by
    intro s hsent
    rw [sentOn_self hsent, List.append_nil]
  cases h with
  | @accept bev' hbev =>
    refine ⟨c, hkept ?_, hsame rfl⟩
    rintro rfl
    rw [hopen] at hbev
    cases hbev
  | @read bev' c₁ inputs input s hbev hread =>
    by_cases hsession : bev = bev'
    · subst hsession
      obtain rfl : c = c₁ := Option.some.inj (hopen.symm.trans hbev)
      exact ⟨_, Function.update_self _ _ _, responses_sendResponses P.dump c _⟩
    · refine ⟨c, hkept hsession, ?_⟩
      rw [sentOn_eq (sent_readcb hread), List.filter_eq_nil_iff.mpr, List.map_nil, List.append_nil]
      intro sent hsent
      obtain ⟨json, -, rfl⟩ := List.mem_map.mp hsent
      simpa using Ne.symm hsession
  | @writeReady bev' c₁ n hbev =>
    by_cases hsession : bev = bev'
    · subst hsession
      obtain rfl : c = c₁ := Option.some.inj (hopen.symm.trans hbev)
      exact ⟨_, Function.update_self _ _ _, hsame rfl⟩
    · exact ⟨c, hkept hsession, hsame rfl⟩
  | @event bev' c₁ events hbev =>
    unfold eventcb
    cases hfreed : t.freed bev' events with
    | none => exact ⟨c, hopen, hsame rfl⟩
    | some freed =>
      have hsession : bev ≠ bev' := by
        rintro rfl
        exact hends ⟨rfl, by rw [hfreed]; rfl⟩
      exact ⟨c, hkept hsession, hsame (sent_closeConnection bev' _)⟩
  | tick now => exact ⟨c, hopen, hsame (sent_pruneExpiredTabs now _)⟩
  | gui hmoves => exact ⟨c, hopen, hsame rfl⟩

/-- **A session**: the answers that go to its buffer are those to the texts that its buffer yields. -/
theorem session_run {session : List (Transport G × TransportEvent I × Transport G)}
    (h : Steps (Traced (TransportStep P moves)) t session t')
    (hends : ∀ entry ∈ session, ¬ EndsSession bev entry) (hopen : t.connections bev = some c) :
    ∃ c' trace, t'.connections bev = some c'
      ∧ Steps (Traced (Step P moves)) t.service.world trace t'.service.world
      ∧ trace.map (fun entry => entry.2.1) = session.flatMap worldEvents
      ∧ (trace.filterMap (exchange bev)).map Prod.fst
        = Framing.textsOf bev (Framing.traffic t.service.buffers (session.flatMap trafficOf)).1
      ∧ c'.responses = c.responses ++ (trace.filterMap (exchange bev)).map Prod.snd := by
  induction h generalizing c with
  | nil t => exact ⟨c, [], hopen, .nil _, rfl, rfl, (List.append_nil _).symm⟩
  | @cons t₁ t₂ t₃ entry session hentry _ ih =>
    obtain ⟨_, e, _⟩ := entry
    obtain ⟨rfl, rfl, hstep⟩ := hentry
    obtain ⟨hfirst, hrest⟩ := List.forall_mem_cons.mp hends
    obtain ⟨c₂, hc₂, hresponses⟩ := hstep.session hfirst hopen
    obtain ⟨c₃, rest, hc₃, hsteps, hevents, htexts, hanswers⟩ := ih hrest hc₂
    obtain ⟨first, hevents₁, hsteps₁⟩ := hstep.steps.traced
    obtain ⟨sent, hsent, htexts₁, hanswers₁⟩ := exchange_run bev hsteps₁
    refine ⟨c₃, first ++ rest, hc₃, hsteps₁.append hsteps, ?_, ?_, ?_⟩
    · rw [List.map_append, hevents₁, hevents, List.flatMap_cons]
    · rw [List.filterMap_append, List.map_append, htexts₁, hevents₁, textOn_worldEvents, htexts,
        hstep.buffers, List.flatMap_cons, traffic_append_fst, Framing.textsOf_append]
    · rw [hanswers, hresponses, sentOn_eq hsent, ← hanswers₁, List.filterMap_append, List.map_append,
        List.append_assoc]

/-- There is nothing in the buffer of a connection that is not open. -/
def Transport.Idle (t : Transport G) : Prop := ∀ bev, t.connections bev = none → t.service.buffers.of bev = []

theorem none_of_update {connections : Conn → Option Connection} {bev bev' : Conn} {c : Connection}
    (h : Function.update connections bev' (some c) bev = none) : bev ≠ bev' ∧ connections bev = none := by
  by_cases hsame : bev = bev'
  · rw [hsame, Function.update_self] at h
    cases h
  · rw [Function.update_of_ne hsame] at h
    exact ⟨hsame, h⟩

theorem TransportStep.idle (h : TransportStep P moves t e t') (hidle : t.Idle) : t'.Idle := by
  intro bev hnone
  rw [h.buffers]
  cases h with
  | accept hbev => exact hidle bev (none_of_update hnone).2
  | @read bev' c inputs input s hbev hread =>
    obtain ⟨hother, hnone⟩ := none_of_update hnone
    have hends : ¬ EndsSession bev (t, .read inputs bev' input, t) := id
    have hbuffer := (Framing.traffic_receive bev _ t.service.buffers (not_close_of_session hends)).2
    rw [trafficOf, chunksOf_map, if_neg (Ne.symm hother)] at hbuffer
    exact hbuffer.trans (hidle bev hnone)
  | writeReady hbev => exact hidle bev (none_of_update hnone).2
  | @event bev' c events hbev =>
    show (Framing.traffic t.service.buffers
      (if (t.freed bev' events).isSome then [.close bev'] else [])).2.of bev = []
    unfold eventcb at hnone
    cases hfreed : t.freed bev' events with
    | none =>
      rw [hfreed] at hnone
      exact hidle bev hnone
    | some freed =>
      rw [hfreed] at hnone
      show (Framing.Buffers.eraseConnection t.service.buffers bev').of bev = []
      rw [Framing.of_erase]
      by_cases hsame : bev' = bev
      · rw [if_pos hsame]
      · have hnone : Function.update t.connections bev' none bev = none := hnone
        rw [Function.update_of_ne (Ne.symm hsame)] at hnone
        rw [if_neg hsame]
        exact hidle bev hnone
  | tick now => exact hidle bev hnone
  | gui hmoves => exact hidle bev hnone

/-- What is written and what is still to be written are the responses, in every run. -/
theorem sound_of_run {w : World G} {trace : List (Transport G × TransportEvent I × Transport G)}
    (hrun : Steps (Traced (TransportStep P moves)) (.start { buffers := ∅, world := w }) trace t) :
    t.Sound P := by
  refine hrun.invariant (fun t => t.Sound P) ?_ (by rintro bev c ⟨⟩)
  rintro t₁ ⟨_, e, _⟩ t₂ hsound ⟨rfl, rfl, hstep⟩
  exact hstep.sound hsound

/-- The texts and the answers of a session that sends valid objects. -/
theorem exchanges_of_session {w : World G} {a b : Transport G}
    {before session : List (Transport G × TransportEvent I × Transport G)} {objs : List Framing.Padded}
    (hbefore : Steps (Traced (TransportStep P moves)) (.start { buffers := ∅, world := w }) before a)
    (haccept : TransportStep P moves a (.accept bev) b)
    (hsession : Steps (Traced (TransportStep P moves)) b session t)
    (hends : ∀ entry ∈ session, ¬ EndsSession bev entry)
    (hbytes : session.flatMap (received bev) = Framing.streamOf objs) :
    ∃ c trace, t.connections bev = some c
      ∧ Steps (Traced (Step P moves)) a.service.world trace t.service.world
      ∧ trace.map (fun entry => entry.2.1) = session.flatMap worldEvents
      ∧ (trace.filterMap (exchange bev)).map Prod.fst = objs.map Framing.Padded.text
      ∧ (trace.filterMap (exchange bev)).map Prod.snd = c.responses := by
  have hidle : a.Idle := by
    refine hbefore.invariant Transport.Idle ?_ (fun _ _ => rfl)
    rintro t₁ ⟨_, e, _⟩ t₂ hidle ⟨rfl, rfl, hstep⟩
    exact hstep.idle hidle
  cases haccept with
  | accept hbev =>
    obtain ⟨c, trace, hc, hsteps, hevents, htexts, hanswers⟩ :=
      session_run hsession hends (Function.update_self _ _ _)
    refine ⟨c, trace, hc, hsteps, hevents, ?_, ?_⟩
    · have htraffic : ∀ e ∈ session.flatMap trafficOf, e ≠ .close bev := by
        intro e he
        obtain ⟨entry, hentry, he⟩ := List.mem_flatMap.mp he
        exact not_close_of_session (hends entry hentry) e he
      have hobj : Framing.objects ([] ++ (Framing.chunksOf bev (session.flatMap trafficOf)).flatten)
          = (objs.map Framing.Padded.text, []) := by
        rw [List.nil_append, flatten_chunksOf, hbytes, Framing.objects_streamOf]
      have hreceive := (Framing.receive_of_clean Framing.pending_nil (by rw [hobj]; rfl)).1
      rw [hobj] at hreceive
      rw [htexts, (Framing.traffic_receive bev _ _ htraffic).1, hidle bev hbev]
      exact hreceive
    · rw [hanswers]
      rfl

/-- **Every object of a session is answered** once, and in order.  The session of `bev` begins when it is
accepted and has not ended; `before` is all that happened until then, on this and on other connections, and
`session` has the events of all connections.  If what comes in on `bev` is a stream of valid objects, then the
texts that the server processes for it are these objects, the responses of the connection are the answers
that were given to them, and what was written to the socket is the beginning of them. -/
theorem answered_of_session {w : World G} {a b : Transport G}
    {before session : List (Transport G × TransportEvent I × Transport G)} {objs : List Framing.Padded}
    (hrun : Steps (Traced (TransportStep P moves)) (.start { buffers := ∅, world := w })
      (before ++ (a, .accept bev, b) :: session) t) (hends : ∀ entry ∈ session, ¬ EndsSession bev entry)
    (hbytes : session.flatMap (received bev) = Framing.streamOf objs) :
    ∃ c trace, t.connections bev = some c
      ∧ Steps (Traced (Step P moves)) a.service.world trace t.service.world
      ∧ trace.map (fun entry => entry.2.1) = session.flatMap worldEvents
      ∧ (trace.filterMap (exchange bev)).map Prod.fst = objs.map Framing.Padded.text
      ∧ (trace.filterMap (exchange bev)).map Prod.snd = c.responses
      ∧ c.written ++ c.output = c.responses.flatMap P.dump := by
  have hsound := sound_of_run hrun
  obtain ⟨_, _, hbefore, ⟨rfl, rfl, haccept⟩, hsession⟩ := hrun.split
  obtain ⟨c, trace, hc, hsteps, hevents, htexts, hanswers⟩ :=
    exchanges_of_session hbefore haccept hsession hends hbytes
  exact ⟨c, trace, hc, hsteps, hevents, htexts, hanswers, hsound bev c hc⟩

/-- The contents of a string without escapes. -/
theorem chars_of_printable {s : Bytes}
    (h : ∀ ch ∈ s, ch ≠ JsonText.quote ∧ ch ≠ JsonText.backslash ∧ 0x20 ≤ ch) : JsonText.Chars s := by
  induction s with
  | nil => exact .nil
  | cons ch s ih =>
    obtain ⟨⟨hquote, hbackslash, hprint⟩, hrest⟩ := List.forall_mem_cons.mp h
    exact .plain hquote hbackslash hprint (ih hrest)

theorem ws_nil : JsonText.Ws [] := fun _ hmem => by cases hmem

theorem ws_space : JsonText.Ws [0x20] := List.forall_mem_singleton.mpr (by decide)

theorem object_refusedText : JsonText.Text .object refusedText := by
  have hreq : JsonText.Chars (utf8 "req") := chars_of_printable (by decide +kernel)
  have hname : JsonText.Chars (utf8 "GetRandom") := chars_of_printable (by decide +kernel)
  exact .object (@JsonText.Text.member [] (utf8 "req") [] [] (JsonText.quoted (utf8 "GetRandom")) []
    ws_nil hreq ws_nil ws_nil (.string hname) ws_nil)

/-- The request `{"req":"GetRandom"}` as an object of a stream. -/
def refusedObject : Framing.Padded where
  before := []
  text := refusedText
  after := [0x20]
  before_ws := ws_nil
  text_object := object_refusedText
  after_ws := ws_space

/-- The object comes in two pieces, and another connection ends in between. -/
theorem answered_of_split : ∃ (a b t : Transport Gui.GuiState) (before session : List (Transport Gui.GuiState
      × TransportEvent Gui.Outside × Transport Gui.GuiState)),
    Steps (Traced (TransportStep refusedPlatform Gui.GuiState.Moves)) (.start sampleService)
        (before ++ (a, .accept 7, b) :: session) t
      ∧ ∃ c trace, t.connections 7 = some c
        ∧ Steps (Traced (Step refusedPlatform Gui.GuiState.Moves)) a.service.world trace t.service.world
        ∧ trace.map (fun entry => entry.2.1) = session.flatMap worldEvents
        ∧ (trace.filterMap (exchange 7)).map Prod.fst = [refusedText]
        ∧ (trace.filterMap (exchange 7)).map Prod.snd = c.responses
        ∧ c.written ++ c.output = c.responses.flatMap refusedPlatform.dump := by
  have hrun : Steps (Traced (TransportStep refusedPlatform Gui.GuiState.Moves)) (.start sampleService)
      ([(_, .accept 9, _)] ++ (_, .accept 7, _) ::
        [(_, .read (fun _ _ => sampleInput) 7 (refusedText.take 4), _), (_, .event 9 BEV_EVENT_EOF, _),
          (_, .read (fun _ _ => sampleInput) 7 (refusedText.drop 4 ++ [0x20]), _),
          (_, .writeReady 7 5, _)]) _ :=
    .cons ⟨rfl, rfl, .accept rfl⟩ (.cons ⟨rfl, rfl, .accept rfl⟩ (.cons ⟨rfl, rfl, .read rfl rfl⟩
      (.cons ⟨rfl, rfl, .event rfl⟩ (.cons ⟨rfl, rfl, .read rfl rfl⟩
        (.cons ⟨rfl, rfl, .writeReady rfl⟩ (.nil _))))))
  refine ⟨_, _, _, _, _, hrun, ?_⟩
  have hbytes : refusedText.take 4 ++ ([] ++ ((refusedText.drop 4 ++ [0x20]) ++ ([] ++ [])))
      = Framing.streamOf [refusedObject] := by decide
  refine answered_of_session hrun ?_ hbytes
  refine List.forall_mem_cons.mpr ⟨id, List.forall_mem_cons.mpr ⟨?_, ?_⟩⟩
  · rintro ⟨hsame, -⟩
    cases hsame
  · exact List.forall_mem_cons.mpr ⟨id, List.forall_mem_cons.mpr ⟨id, fun _ hentry => by cases hentry⟩⟩

end Sessions

end OpenMadt
