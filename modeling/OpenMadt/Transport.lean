import OpenMadt.GuiHoldings
import OpenMadt.Library.Backlog
import OpenMadt.Runs

/-!
# What is written to the socket

The callbacks of libevent at the top of `madt-server.cpp`, with an output buffer for every connection.
A response is appended to the buffer, the socket takes bytes from its front when it is ready, and
`eventcb` frees the connection with whatever is left.

* `Transport`, `TransportEvent`, `TransportStep` — the connections, and what can happen to them, in any
  order and with partial flushes of any size.
* `Connection.Sound` — what was written and what is buffered are the responses, in order.
* `Transport.Buffered` — how much is buffered, by the sizes of the reads and of the write-ready events so far.
* `delivered_iff_flushed` — in which orders of events all responses are written before their connection is freed.
-/

namespace OpenMadt

abbrev BEV_EVENT_EOF : UInt16 := 0x10
abbrev BEV_EVENT_ERROR : UInt16 := 0x20

/-- A `bufferevent` and its socket: the responses that were sent on it, what is left of them in the
output buffer, and what was written to the socket. -/
structure Connection where
  responses : List Json
  output : Bytes
  written : Bytes

namespace Connection

/-- `bufferevent_socket_new`. -/
def new : Connection := { responses := [], output := [], written := [] }

/-- `Server::sendResponse`, with `bufferevent_write`. -/
def sendResponse (dump : Json → Bytes) (c : Connection) (response : Json) : Connection :=
  { c with responses := c.responses ++ [response], output := c.output ++ dump response }

/-- The socket takes up to `n` bytes. -/
def flush (n : ℕ) (c : Connection) : Connection :=
  { c with output := c.output.drop n, written := c.written ++ c.output.take n }

/-- All responses were written. -/
def Delivered (dump : Json → Bytes) (c : Connection) : Prop := c.written = c.responses.flatMap dump

end Connection

/-- The server with the connections that are open. -/
structure Transport (G : Type) where
  service : Service G
  connections : Conn → Option Connection

namespace Transport

variable {I G : Type} (P : Platform I G)

/-- The loop of `readcb`, with fuel for its rounds; the `j`-th round takes `inputs j` from its
surroundings. -/
def readLoop (inputs : ℕ → ℕ → Input I) (bev : Conn) : ℕ → ℕ → Bytes → Service G →
    Except Fault (Service G)
  | 0, _, _, s => .ok s
  | fuel + 1, j, input, s =>
    if input = [] then .ok s
    else
      match Service.request P (inputs j) bev (input.take 1024) s with
      | .error fault => .error fault
      | .ok s => readLoop inputs bev fuel (j + 1) (input.drop 1024) s

/-- `readcb`: the input buffer is emptied. -/
def readcb (inputs : ℕ → ℕ → Input I) (bev : Conn) (input : Bytes) (s : Service G) :
    Except Fault (Service G) :=
  readLoop P inputs bev input.length 0 input s

/-- The responses that were sent on a connection between two states. -/
def sentOn (bev : Conn) (s s' : Service G) : List Json :=
  ((s'.world.sent.drop s.world.sent.length).filter fun entry => entry.1 = bev).map Prod.snd

/-- The connection that an event finds, if it makes `eventcb` free it. -/
def freed (t : Transport G) (bev : Conn) (events : UInt16) : Option Connection :=
  if events &&& (BEV_EVENT_EOF ||| BEV_EVENT_ERROR) ≠ 0 then t.connections bev else none

/-- `eventcb`. -/
def eventcb (bev : Conn) (events : UInt16) (t : Transport G) : Transport G :=
  match t.freed bev events with
  | none => t
  | some _ =>
    { service := t.service.close P bev, connections := Function.update t.connections bev none }

/-- The server begins to listen. -/
def start (s : Service G) : Transport G := { service := s, connections := fun _ => none }

end Transport

/-- What can happen to the server and its connections. -/
inductive TransportEvent (I : Type) where
  | accept (bev : Conn)
  /-- There are bytes in the input buffer of the connection. -/
  | read (inputs : ℕ → ℕ → Input I) (bev : Conn) (input : Bytes)
  /-- The socket of the connection is ready for `n` bytes. -/
  | writeReady (bev : Conn) (n : ℕ)
  /-- `eventcb` is called. -/
  | event (bev : Conn) (events : UInt16)
  | tick (now : Time)
  | gui

/-- What it does.  Only connections that are open have events. -/
inductive TransportStep {I G : Type} (P : Platform I G) (moves : G → G → Prop) :
    Transport G → TransportEvent I → Transport G → Prop where
  | accept {t : Transport G} {bev : Conn} (hbev : t.connections bev = none) :
      TransportStep P moves t (.accept bev)
        { t with connections := Function.update t.connections bev (some .new) }
  | read {t : Transport G} {bev : Conn} {c : Connection} {inputs : ℕ → ℕ → Input I} {input : Bytes}
      {s : Service G} (hbev : t.connections bev = some c)
      (h : Transport.readcb P inputs bev input t.service = .ok s) :
      TransportStep P moves t (.read inputs bev input)
        { service := s
          connections := Function.update t.connections bev
            (some ((Transport.sentOn bev t.service s).foldl (Connection.sendResponse P.dump) c)) }
  | writeReady {t : Transport G} {bev : Conn} {c : Connection} {n : ℕ}
      (hbev : t.connections bev = some c) :
      TransportStep P moves t (.writeReady bev n)
        { t with connections := Function.update t.connections bev (some (c.flush n)) }
  | event {t : Transport G} {bev : Conn} {c : Connection} {events : UInt16}
      (hbev : t.connections bev = some c) :
      TransportStep P moves t (.event bev events) (t.eventcb P bev events)
  | tick (t : Transport G) (now : Time) :
      TransportStep P moves t (.tick now)
        { t with service := { t.service with
            world := Server.pruneExpiredTabs P now t.service.world } }
  | gui {t : Transport G} {g : G} (h : moves t.service.world.gui g) :
      TransportStep P moves t .gui
        { t with service := { t.service with world := { t.service.world with gui := g } } }

/-! ### What a read sends -/

section Reads

open Run Server

variable {I G : Type} {P : Platform I G}

theorem sent_of_requests (moves : G → G → Prop) {inputs : ℕ → Input I} {bev : Conn} {texts : List Bytes}
    {k : ℕ} {w w' : World G} (h : Steps (Step P moves) w (requests inputs bev k texts) w') :
    ∃ responses : List Json, w'.sent = w.sent ++ responses.map (Prod.mk bev) := by
  induction texts generalizing k w with
  | nil =>
    cases h
    exact ⟨[], by simp⟩
  | cons requestText texts ih =>
    cases h with
    | cons hstep hrest =>
      obtain ⟨request, -, hrun⟩ := hstep.decoded
      obtain ⟨responses, hresponses⟩ := ih hrest
      rcases execute_answers P (inputs k) bev w (plan P (inputs k) bev w.server request) with
        hnone | ⟨w₁, json, hsome, hsent⟩
      · rw [execute, hrun] at hnone
        cases hnone
      · rw [execute, hrun] at hsome
        cases hsome
        exact ⟨json :: responses, by rw [hresponses, hsent, List.append_assoc]; rfl⟩

theorem sent_readLoop {inputs : ℕ → ℕ → Input I} {bev : Conn} {fuel j : ℕ} {input : Bytes}
    {s s' : Service G} (h : Transport.readLoop P inputs bev fuel j input s = .ok s') :
    ∃ responses : List Json, s'.world.sent = s.world.sent ++ responses.map (Prod.mk bev) := by
  induction fuel generalizing j input s with
  | zero =>
    cases h
    exact ⟨[], by simp⟩
  | succ fuel ih =>
    rw [Transport.readLoop] at h
    split at h
    · cases h
      exact ⟨[], by simp⟩
    · cases hrequest : Service.request P (inputs j) bev (input.take 1024) s with
      | error fault => rw [hrequest] at h; cases h
      | ok s₁ =>
        rw [hrequest] at h
        obtain ⟨responses, hfirst⟩ := sent_of_requests (fun _ _ => False) (request_steps hrequest)
        obtain ⟨responses', hrest⟩ := ih h
        exact ⟨responses ++ responses', by rw [hrest, hfirst, List.map_append, List.append_assoc]⟩

/-- **A read sends on its own connection**, and `sentOn` misses nothing. -/
theorem sent_readcb {inputs : ℕ → ℕ → Input I} {bev : Conn} {input : Bytes} {s s' : Service G}
    (h : Transport.readcb P inputs bev input s = .ok s') :
    s'.world.sent = s.world.sent ++ (Transport.sentOn bev s s').map (Prod.mk bev) := by
  obtain ⟨responses, hsent⟩ := sent_readLoop h
  have hall : (responses.map (Prod.mk bev)).filter (fun entry => entry.1 = bev)
      = responses.map (Prod.mk bev) := by
    refine List.filter_eq_self.mpr fun entry hentry => ?_
    obtain ⟨json, -, rfl⟩ := List.mem_map.mp hentry
    exact decide_eq_true rfl
  have hsnd : (responses.map (Prod.mk bev)).map Prod.snd = responses := by
    rw [List.map_map]
    exact List.map_id responses
  rw [Transport.sentOn, hsent, List.drop_left, hall, hsnd]

end Reads

/-! ### The bytes of a connection -/

namespace Connection

variable {dump : Json → Bytes} {c : Connection}

/-- What was written and what is in the buffer are the responses, in order. -/
def Sound (dump : Json → Bytes) (c : Connection) : Prop :=
  c.written ++ c.output = c.responses.flatMap dump

theorem sound_new : Sound dump .new := rfl

theorem Sound.sendResponse (h : c.Sound dump) (response : Json) :
    (c.sendResponse dump response).Sound dump := by
  show c.written ++ (c.output ++ dump response) = (c.responses ++ [response]).flatMap dump
  rw [← List.append_assoc, show c.written ++ c.output = _ from h, List.flatMap_append,
    List.flatMap_singleton]

theorem Sound.sendResponses (h : c.Sound dump) (responses : List Json) :
    (responses.foldl (Connection.sendResponse dump) c).Sound dump := by
  induction responses generalizing c with
  | nil => exact h
  | cons response responses ih => exact ih (h.sendResponse response)

theorem Sound.flush (h : c.Sound dump) (n : ℕ) : (c.flush n).Sound dump := by
  show c.written ++ c.output.take n ++ c.output.drop n = c.responses.flatMap dump
  rw [List.append_assoc, List.take_append_drop]
  exact h

/-- All responses were written if none is left in the buffer. -/
theorem Sound.delivered_iff (h : c.Sound dump) : c.Delivered dump ↔ c.output = [] := by
  rw [Delivered, ← show c.written ++ c.output = _ from h, List.self_eq_append_right]

end Connection

/-! ### Runs -/

section Runs

open Run

variable {I G : Type} {P : Platform I G} {moves : G → G → Prop}

/-- Every open connection is sound. -/
def Transport.Sound (P : Platform I G) (t : Transport G) : Prop :=
  ∀ bev c, t.connections bev = some c → c.Sound P.dump

theorem Transport.Sound.update {t t' : Transport G} (h : t.Sound P) {bev : Conn}
    {c? : Option Connection} (hc : ∀ c, c? = some c → c.Sound P.dump)
    (hupdate : t'.connections = Function.update t.connections bev c?) : t'.Sound P := by
  intro bev' c hbev'
  rw [hupdate] at hbev'
  by_cases hsame : bev' = bev
  · rw [hsame, Function.update_self] at hbev'
    exact hc c hbev'
  · rw [Function.update_of_ne hsame] at hbev'
    exact h bev' c hbev'

/-- **One step** keeps the connections sound. -/
theorem TransportStep.sound {t t' : Transport G} {e : TransportEvent I} (h : t.Sound P)
    (hstep : TransportStep P moves t e t') : t'.Sound P := by
  cases hstep with
  | accept hbev => exact h.update (by rintro c ⟨⟩; exact Connection.sound_new) rfl
  | read hbev hread => exact h.update (by rintro c ⟨⟩; exact (h _ _ hbev).sendResponses _) rfl
  | writeReady hbev => exact h.update (by rintro c ⟨⟩; exact (h _ _ hbev).flush _) rfl
  | event hbev =>
    unfold Transport.eventcb
    split
    · exact h
    · exact h.update (by rintro c ⟨⟩) rfl
  | tick now => exact h
  | gui hmoves => exact h

/-- The event makes `eventcb` free the connection, which is in this state. -/
def Frees (c : Connection) : Transport G × TransportEvent I × Transport G → Prop
  | (t, .event bev events, _) => t.freed bev events = some c
  | _ => False

/-! ### The order of the events -/

/-- The bytes of the responses to what the event reads on the connection. -/
def Transport.answered (P : Platform I G) (bev : Conn) : Transport G × TransportEvent I × Transport G → ℕ
  | (t, .read inputs bev' input, _) =>
    if bev' = bev then
      match Transport.readcb P inputs bev input t.service with
      | .ok s => ((Transport.sentOn bev t.service s).flatMap P.dump).length
      | .error _ => 0
    else 0
  | _ => 0

/-- The bytes for which the event finds the socket of the connection ready. -/
def Transport.room (bev : Conn) : Transport G × TransportEvent I × Transport G → ℕ
  | (_, .writeReady bev' n, _) => if bev' = bev then n else 0
  | _ => 0

/-- The event accepts the connection. -/
def Transport.accepts (bev : Conn) : Transport G × TransportEvent I × Transport G → Bool
  | (_, .accept bev', _) => decide (bev' = bev)
  | _ => false

/-- The write-ready events keep up with the reads: if `eventcb` is called for the end of a stream, then in each
stretch of events up to there, and since the connection was accepted, its socket was ready for at least as many
bytes as it was answered. -/
def Transport.Flushed (P : Platform I G) (trace : List (Transport G × TransportEvent I × Transport G)) : Prop :=
  ∀ before t bev events t' later, trace = before ++ (t, .event bev events, t') :: later →
    events &&& (BEV_EVENT_EOF ||| BEV_EVENT_ERROR) ≠ 0 →
      Backlog.Bounded (Transport.answered P bev) (Transport.room bev) (Transport.accepts bev) 0 before

/-- The output buffers hold what was answered and for which the sockets were not ready yet. -/
def Transport.Buffered (P : Platform I G) (t : Transport G)
    (trace : List (Transport G × TransportEvent I × Transport G)) : Prop :=
  ∀ bev c, t.connections bev = some c →
    c.output.length = Backlog.backlog (Transport.answered P bev) (Transport.room bev) (Transport.accepts bev) trace

theorem output_sendResponses (dump : Json → Bytes) (responses : List Json) (c : Connection) :
    (responses.foldl (Connection.sendResponse dump) c).output = c.output ++ responses.flatMap dump := by
  induction responses generalizing c with
  | nil => exact (List.append_nil _).symm
  | cons response responses ih =>
    rw [List.foldl_cons, ih, Connection.sendResponse, List.flatMap_cons, List.append_assoc]

section Log

variable {trace : List (Transport G × TransportEvent I × Transport G)} {t t' : Transport G}
  {e : TransportEvent I} (h : t.Buffered P trace)

include h

/-- An event that does nothing to the connections. -/
theorem Transport.Buffered.keep
    (hconnections : ∀ bev c, t'.connections bev = some c → t.connections bev = some c)
    (hanswered : ∀ bev, answered P bev (t, e, t') = 0) (hroom : ∀ bev, room bev (t, e, t') = 0)
    (haccepts : ∀ bev, accepts bev (t, e, t') = false) : t'.Buffered P (trace ++ [(t, e, t')]) := by
  intro bev c hc
  rw [Backlog.backlog_append_singleton, Backlog.after, haccepts, hanswered, hroom,
    h bev c (hconnections bev c hc)]
  rfl

/-- An event on one connection. -/
theorem Transport.Buffered.update {bev : Conn} {c' : Connection}
    (hconnections : t'.connections = Function.update t.connections bev (some c'))
    (hlength : c'.output.length
      = Backlog.after (Transport.answered P bev) (Transport.room bev) (Transport.accepts bev)
        (Backlog.backlog (Transport.answered P bev) (Transport.room bev) (Transport.accepts bev) trace) (t, e, t'))
    (hother : ∀ bev', bev ≠ bev' → Transport.answered P bev' (t, e, t') = 0 ∧ Transport.room bev' (t, e, t') = 0
      ∧ Transport.accepts bev' (t, e, t') = false) : t'.Buffered P (trace ++ [(t, e, t')]) := by
  intro bev' c hc
  rw [Backlog.backlog_append_singleton]
  rw [hconnections] at hc
  by_cases hbev : bev = bev'
  · subst hbev
    rw [Function.update_self] at hc
    obtain rfl := Option.some.inj hc
    exact hlength
  · rw [Function.update_of_ne (Ne.symm hbev)] at hc
    obtain ⟨hanswered, hroom, haccepts⟩ := hother bev' hbev
    rw [Backlog.after, haccepts, hanswered, hroom, h bev' c hc]
    rfl

/-- **One step** of the log. -/
theorem Transport.Buffered.step (hstep : TransportStep P moves t e t') :
    t'.Buffered P (trace ++ [(t, e, t')]) := by
  cases hstep with
  | accept hbev =>
    refine h.update rfl ?_ fun bev' hne => ⟨rfl, rfl, decide_eq_false hne⟩
    rw [Backlog.after, Transport.accepts, decide_eq_true rfl]
    rfl
  | @read bev c inputs input s hbev hread =>
    refine h.update rfl ?_ fun bev' hne => ⟨if_neg hne, rfl, rfl⟩
    rw [output_sendResponses, List.length_append, h bev c hbev, Backlog.after, Transport.answered,
      if_pos rfl, hread]
    rfl
  | @writeReady bev c n hbev =>
    refine h.update rfl ?_ fun bev' hne => ⟨rfl, if_neg hne, rfl⟩
    rw [Connection.flush, List.length_drop, h bev c hbev, Backlog.after, Transport.room, if_pos rfl]
    rfl
  | @event bev c events hbev =>
    refine h.keep (fun bev' c' hc' => ?_) (fun _ => rfl) (fun _ => rfl) fun _ => rfl
    unfold Transport.eventcb at hc'
    split at hc'
    · exact hc'
    · dsimp only at hc'
      by_cases hsame : bev' = bev
      · rw [hsame, Function.update_self] at hc'
        cases hc'
      · rwa [Function.update_of_ne hsame] at hc'
  | tick now => exact h.keep (fun _ _ hc => hc) (fun _ => rfl) (fun _ => rfl) fun _ => rfl
  | gui hmoves => exact h.keep (fun _ _ hc => hc) (fun _ => rfl) (fun _ => rfl) fun _ => rfl

end Log

/-- **When all responses are written**: in a run, over any connections and with their events in any order, all
responses are written before their connection is freed exactly if the write-ready events keep up with the
reads. -/
theorem delivered_iff_flushed {s : Service G} {t : Transport G}
    {trace : List (Transport G × TransportEvent I × Transport G)}
    (hrun : Steps (Traced (TransportStep P moves)) (.start s) trace t) :
    (∀ entry ∈ trace, ∀ c, Frees c entry → c.Delivered P.dump) ↔ Transport.Flushed P trace := by
  have hkept : ∀ {before : List (Transport G × TransportEvent I × Transport G)} {t : Transport G},
      Steps (Traced (TransportStep P moves)) (.start s) before t → t.Sound P ∧ t.Buffered P before := by
    intro before t hbefore
    refine hbefore.history (fun before t => t.Sound P ∧ t.Buffered P before) ?_
      ⟨by rintro bev c ⟨⟩, by rintro bev c ⟨⟩⟩
    rintro before t₁ ⟨_, e, _⟩ t₂ - ⟨hsound, hbuffered⟩ ⟨rfl, rfl, hstep⟩
    exact ⟨hstep.sound hsound, hbuffered.step hstep⟩
  -- when a connection is freed, its buffer is empty just if nothing is left of what was answered
  have hdelivered : ∀ {before later t₁ t₂ bev events}, trace = before ++ (t₁, .event bev events, t₂) :: later →
      ∀ {c}, t₁.connections bev = some c → (c.Delivered P.dump
        ↔ Backlog.Bounded (Transport.answered P bev) (Transport.room bev) (Transport.accepts bev) 0 before) := by
    intro before later t₁ t₂ bev events hsplit c hc
    obtain ⟨_, _, hbefore, ⟨rfl, -, -⟩, -⟩ := (hsplit ▸ hrun).split
    obtain ⟨hsound, hbuffered⟩ := hkept hbefore
    rw [(hsound bev c hc).delivered_iff, ← List.length_eq_zero_iff, hbuffered bev c hc,
      Backlog.backlog_eq_zero_iff]
  constructor
  · rintro hall before t₁ bev events t₂ later hsplit hends
    obtain ⟨_, _, -, ⟨rfl, -, hstep⟩, -⟩ := (hsplit ▸ hrun).split
    cases hstep with
    | @event _ c _ hbev =>
      have hentry : (t₁, .event bev events, t₂) ∈ trace :=
        hsplit ▸ List.mem_append_right before List.mem_cons_self
      exact (hdelivered hsplit hbev).mp (hall _ hentry c ((if_pos hends).trans hbev))
  · rintro hall ⟨t₁, e, t₂⟩ hentry c hfrees
    cases e with
    | event bev events =>
      obtain ⟨before, later, hsplit⟩ := List.append_of_mem hentry
      have hfreed : t₁.freed bev events = some c := hfrees
      unfold Transport.freed at hfreed
      split at hfreed
      next hends => exact (hdelivered hsplit hfreed).mpr (hall before t₁ bev events t₂ later hsplit hends)
      next => cases hfreed
    | _ => exact hfrees.elim

/-- A client without a key asks for a nonce, and this is the answer. -/
def refusedText : Bytes := utf8 "\x7b\"req\":\"GetRandom\"\x7d"

def refusedPlatform : Platform Gui.Outside Gui.GuiState :=
  .sample [(refusedText, .obj [("req", .str "GetRandom")])] [] (utf8 "\x7b\"retCode\":1\x7d")

/-- The socket is ready twice before the end of the client's stream is seen. -/
theorem delivered_of_flushed : ∃ trace t,
    Steps (Traced (TransportStep refusedPlatform Gui.GuiState.Moves)) (.start Server.sampleService)
        trace t
      ∧ (∃ entry ∈ trace, ∃ c, Frees c entry)
      ∧ ∀ entry ∈ trace, ∀ c, Frees c entry → c.Delivered refusedPlatform.dump := by
  have hrun : Steps (Traced (TransportStep refusedPlatform Gui.GuiState.Moves))
      (.start Server.sampleService)
      [(_, .accept 7, _), (_, .read (fun _ _ => Server.sampleInput) 7 refusedText, _),
        (_, .writeReady 7 5, _), (_, .writeReady 7 8, _), (_, .event 7 BEV_EVENT_EOF, _)] _ :=
    .cons ⟨rfl, rfl, .accept rfl⟩ (.cons ⟨rfl, rfl, .read rfl rfl⟩
      (.cons ⟨rfl, rfl, .writeReady rfl⟩ (.cons ⟨rfl, rfl, .writeReady rfl⟩
        (.cons ⟨rfl, rfl, .event rfl⟩ (.nil _)))))
  refine ⟨_, _, hrun, ⟨_, List.mem_of_getElem? (i := 4) rfl, _, rfl⟩, ?_⟩
  refine (delivered_iff_flushed hrun).mpr fun before t₁ bev events t₂ later hsplit hends => ?_
  -- only the last event is one of `eventcb`
  rcases before with _ | ⟨e₁, _ | ⟨e₂, _ | ⟨e₃, _ | ⟨e₄, _ | ⟨e₅, before⟩⟩⟩⟩⟩
  · cases hsplit
  · cases hsplit
  · cases hsplit
  · cases hsplit
  · cases hsplit
    exact Backlog.backlog_eq_zero_iff.mp rfl
  · simp at hsplit

/-- **A response is lost**: the client has sent all it had to, and the end of its stream is seen before
the socket is found ready. -/
theorem lost_at_eof : ∃ trace t,
    Steps (Traced (TransportStep refusedPlatform Gui.GuiState.Moves)) (.start Server.sampleService)
        trace t
      ∧ ∃ entry ∈ trace, ∃ c, Frees c entry ∧ c.responses = [response .MTSRC_BAD_REQUEST]
        ∧ c.written = [] ∧ ¬ c.Delivered refusedPlatform.dump := by
  have hrun : Steps (Traced (TransportStep refusedPlatform Gui.GuiState.Moves))
      (.start Server.sampleService)
      [(_, .accept 7, _), (_, .read (fun _ _ => Server.sampleInput) 7 refusedText, _),
        (_, .event 7 BEV_EVENT_EOF, _)] _ :=
    .cons ⟨rfl, rfl, .accept rfl⟩ (.cons ⟨rfl, rfl, .read rfl rfl⟩
      (.cons ⟨rfl, rfl, .event rfl⟩ (.nil _)))
  refine ⟨_, _, hrun, _, List.mem_of_getElem? (i := 2) rfl, _, rfl, rfl, rfl, ?_⟩
  intro hdelivered
  cases hdelivered

end Runs

end OpenMadt
