import OpenMadt.Library.Run
import OpenMadt.Responses

/-!
# Runs of the server

The server as a transition system: requests and closed connections, in any order and from any
connections, the lease timer, and the GUI thread in between.

* `Event`, `Step` — what can happen, and what it does.  The GUI's own moves are a parameter.
* `request_steps` — a chunk is a run: one request after the other.
* `Step.decoded` — a request that is processed was decoded, and its plan carried out.
-/

namespace OpenMadt

/-- The world in which the server begins to listen. -/
def World.start {G : Type} (softwareVersion timestamp : String) (runtimeConfig : RuntimeConfig) (g : G) :
    World G where
  server := Server.start softwareVersion timestamp runtimeConfig
  gui := g
  sent := []
  stopped := false

end OpenMadt

namespace OpenMadt.Server

open Run

variable {I G : Type} (P : Platform I G)

/-- What can happen to the server. -/
inductive Event (I : Type) where
  /-- A text from a connection, with what its processing takes from the surroundings. -/
  | request (i : Input I) (bev : Conn) (requestText : Bytes)
  /-- End of file or an error on a connection. -/
  | close (bev : Conn)
  /-- The lease timer. -/
  | tick (now : Time)
  /-- The GUI thread does something of its own. -/
  | gui

/-- The id that an event may use. -/
def Event.uuid? {I : Type} : Event I → Option String
  | .request i _ _ => some i.uuid
  | _ => none

/-- The event does not happen after this time. -/
def Event.NotAfter {I : Type} (now : Time) : Event I → Prop
  | .request i _ _ => i.now ≤ now
  | .tick at' => at' ≤ now
  | _ => True

/-- What an event does; `moves` are the GUI's own moves. -/
inductive Step (moves : G → G → Prop) : World G → Event I → World G → Prop where
  | request {w w' : World G} {i : Input I} {bev : Conn} {requestText : Bytes}
      (h : outcome (processFrame P i bev requestText) w = .ok w') :
      Step moves w (.request i bev requestText) w'
  | close (w : World G) (bev : Conn) : Step moves w (.close bev) (closeConnection P bev w)
  | tick (w : World G) (now : Time) : Step moves w (.tick now) (pruneExpiredTabs P now w)
  | gui {w : World G} {g : G} (h : moves w.gui g) : Step moves w .gui { w with gui := g }

variable {P} {moves : G → G → Prop} {w w' : World G} {i : Input I} {bev : Conn} {requestText : Bytes}

/-- A text that is processed is decoded, and the plan for it carried out. -/
theorem decoded_of_outcome (h : outcome (processFrame P i bev requestText) w = .ok w') :
    ∃ request, decode P requestText = .ok request
      ∧ (plan P i bev w.server request).run P i bev w = some w' := by
  rw [processFrame_eq] at h
  cases hdecode : decode P requestText with
  | error fault => rw [hdecode] at h; cases h
  | ok request =>
    rw [hdecode, serve, execute] at h
    cases hrun : (plan P i bev w.server request).run P i bev w with
    | none => rw [hrun] at h; cases h
    | some w'' => rw [hrun] at h; cases h; exact ⟨request, rfl, hrun⟩

theorem Step.decoded (h : Step P moves w (.request i bev requestText) w') :
    ∃ request, decode P requestText = .ok request
      ∧ (plan P i bev w.server request).run P i bev w = some w' := by
  cases h with
  | request h => exact decoded_of_outcome h

/-! ### Chunks -/

/-- The requests of a chunk, the first one with the surroundings `inputs k`. -/
def requests (inputs : ℕ → Input I) (bev : Conn) : ℕ → List Bytes → List (Event I)
  | _, [] => []
  | k, requestText :: texts => .request (inputs k) bev requestText :: requests inputs bev (k + 1) texts

theorem serveAll_steps (inputs : ℕ → Input I) (texts : List Bytes) :
    ∀ {k : ℕ} {w w' : World G}, serveAll P inputs bev k texts w = .ok w' →
      Steps (Step P moves) w (requests inputs bev k texts) w' := by
  induction texts with
  | nil =>
    intro k w w' h
    cases h
    exact .nil w
  | cons requestText texts ih =>
    intro k w w' h
    rw [serveAll] at h
    cases hstep : outcome (processFrame P (inputs k) bev requestText) w with
    | error fault => rw [hstep] at h; cases h
    | ok w₁ =>
      rw [hstep] at h
      exact .cons (.request hstep) (ih h)

/-- **A chunk is a run** of the server, one request after the other. -/
theorem request_steps {inputs : ℕ → Input I} {data : Bytes} {s s' : Service G}
    (h : Service.request P inputs bev data s = .ok s') :
    Steps (Step P moves) s.world
      (requests inputs bev 0 (Framing.frames (s.buffers.of bev ++ data)).1) s'.world := by
  rw [request_eq] at h
  cases hserve : serveAll P inputs bev 0 (Framing.frames (s.buffers.of bev ++ data)).1 s.world with
  | error fault => rw [hserve] at h; cases h
  | ok w =>
    rw [hserve] at h
    cases h
    exact serveAll_steps inputs _ hserve

end OpenMadt.Server
