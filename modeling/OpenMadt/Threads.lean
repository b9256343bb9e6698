import OpenMadt.FramingConnections
import OpenMadt.Runs

/-!
# The two threads of the program

`main.cpp` runs the server on a thread of its own and `Gui::run` on the main thread.  Here the two are
interleaved statement by statement, wherever one of them reads or writes what the other one does.

* `GuiThread` — where the main thread is, the variables of `gui.cpp` and the events queued to it.
* `Task`, `Program` — where the server thread is, and all that both threads share.
* `ServerStep`, `GuiStep`, `ThreadStep` — what the threads can do next, in any order.

The event loop and `processEvents` execute queued events one by one, as many as they like; `exec` ends
some time after it was told to quit.  A quit that is executed while `exec` is not running has no
effect.  The configuration is the one that the GUI loads at its start: nothing reads it before.
-/

namespace OpenMadt

open Gui (Call CmdResponse Browser GuiState Outside)

/-! ### The GUI thread -/

namespace Gui

/-- An event in the queue of the GUI thread. -/
inductive Posted where
  /-- A command whose response the server waits for. -/
  | command (c : Call)
  /-- A command with a null response. -/
  | signal (s : Browser.Signal)
  | quit

/-- The next statement of the main thread. -/
inductive Point where
  | setAppInstance
  | resetExitCode
  | resetStartup
  | processEvents
  | processEventsAgain
  | exec
  /-- The callback of the startup timer processes events; this happens within `exec`. -/
  | startup
  | cancelStartup
  | clearAppInstance
  | clearBrowser
  | returnExitCode
  /-- `Gui::run` has returned. -/
  | stopProcess (exitCode : ℤ)
  | join (exitCode : ℤ)
  | returned (exitCode : ℤ)
  deriving DecidableEq

namespace Point

/-- `app.exec()` has not been called. -/
def Starting : Point → Prop
  | .setAppInstance | .resetExitCode | .resetStartup | .processEvents | .processEventsAgain => True
  | _ => False

/-- `app.exec()` is running. -/
def Running (point : Point) : Prop := point = .exec ∨ point = .startup

/-- `app.exec()` has returned. -/
def Ended (point : Point) : Prop := ¬ point.Starting ∧ ¬ point.Running

/-- Queued events are executed. -/
def Processing (point : Point) : Prop :=
  point = .processEvents ∨ point = .processEventsAgain ∨ point.Running

instance : DecidablePred Starting := fun point => by
  unfold Starting
  split <;> infer_instance

instance : DecidablePred Running := fun point =>
  inferInstanceAs (Decidable (point = .exec ∨ point = .startup))

instance : DecidablePred Ended := fun point =>
  inferInstanceAs (Decidable (¬ point.Starting ∧ ¬ point.Running))

instance : DecidablePred Processing := fun point =>
  inferInstanceAs (Decidable (point = .processEvents ∨ point = .processEventsAgain ∨ point.Running))

end Point

/-- The main thread, with the variables of `gui.cpp` and the events queued to it. -/
structure GuiThread where
  point : Point
  runtimeConfig : RuntimeConfig
  appInstance : Bool
  browser : Option Browser
  startupCancelled : Bool
  requestedExitCode : ℤ
  posted : List Posted
  /-- The startup timer was started and has not fired. -/
  timer : Bool
  /-- `exec` was told to quit. -/
  quitting : Bool

/-- The signals among some events. -/
def Posted.signal? : Posted → Option Browser.Signal
  | .command (.signal s) => some s
  | .signal s => some s
  | _ => none

namespace GuiThread

/-- The start of `main`. -/
def start (runtimeConfig : RuntimeConfig) : GuiThread where
  point := .setAppInstance
  runtimeConfig := runtimeConfig
  appInstance := false
  browser := none
  startupCancelled := false
  requestedExitCode := 0
  posted := []
  timer := false
  quitting := false

/-- The variables, with the signals that are queued. -/
def state (t : GuiThread) : GuiState where
  runtimeConfig := t.runtimeConfig
  appInstance := t.appInstance
  browser := t.browser
  queue := t.posted.filterMap Posted.signal?
  startupCancelled := t.startupCancelled
  requestedExitCode := t.requestedExitCode

/-- An event at the end of the queue. -/
def post (t : GuiThread) (event : Posted) : GuiThread := { t with posted := t.posted ++ [event] }

/-- `setStartupState(false, cancelled)`. -/
def setStartupState (t : GuiThread) (cancelled : Bool) : GuiThread :=
  { t with startupCancelled := cancelled }

/-- The pointer that a function of `gui.cpp` tests before it queues a command. -/
def guard (t : GuiThread) : Call → Bool
  | .signal _ => t.browser.isSome
  | _ => t.appInstance

/-- The execution of a queued command. -/
def execCommand (o : Outside) (c : Call) (t : GuiThread) : Option (CmdResponse × GuiThread) :=
  match c with
  | .signal s =>
    match t.browser with
    | none => none
    | some b => (b.exec s).map fun r => (r.2, { t with browser := some r.1 })
  | .GetCharacteristics => none
  | .CaptureScreenshot fileName => some (t.state.captureScreenshot o fileName, t)
  | .ApplySettings settings =>
    (GuiState.applySettings o settings t.state).map fun r => (r.1, { t with browser := r.2.browser })
  | .PlaySound .. => some ({ result := .OK }, t)

/-- The callback of the startup timer, up to the point where it processes events. -/
def fireTimer (t : GuiThread) : GuiThread :=
  if t.startupCancelled then { t with timer := false }
  else
    { t with
      timer := false, point := .startup
      browser := some ((Browser.new t.runtimeConfig).ApplySettings t.runtimeConfig.settings) }

/-- A `quit` is executed. -/
def execQuit (t : GuiThread) : GuiThread :=
  if t.point.Running then { t with quitting := true } else t

theorem execQuit_of_running {t : GuiThread} (h : t.point.Running) :
    t.execQuit = { t with quitting := true } := if_pos h

theorem execQuit_of_not_running {t : GuiThread} (h : ¬ t.point.Running) : t.execQuit = t := if_neg h

@[simp] theorem fireTimer_posted (t : GuiThread) : t.fireTimer.posted = t.posted := by
  unfold fireTimer
  split <;> rfl

@[simp] theorem fireTimer_quitting (t : GuiThread) : t.fireTimer.quitting = t.quitting := by
  unfold fireTimer
  split <;> rfl

@[simp] theorem fireTimer_requestedExitCode (t : GuiThread) :
    t.fireTimer.requestedExitCode = t.requestedExitCode := by
  unfold fireTimer
  split <;> rfl

end GuiThread

/-- The functions that queue a command; `GetCharacteristics` makes the response itself. -/
def Call.IsQueued : Call → Bool
  | .GetCharacteristics => false
  | _ => true

/-- The functions that look at their pointer once more for their return value. -/
def Call.Rereads : Call → Bool
  | .signal (.NewWebTab ..) => false
  | .signal _ => true
  | _ => false

/-- A port that lists the signals it is given. -/
def recorder (I : Type) : Port I (List Browser.Signal) where
  call _ _ _ := none
  post s signals := signals ++ [s]
  requestExit _ signals := signals

end Gui

open Gui

/-! ### The server thread -/

/-- What is left to do of a `readcb`: the bytes in the input buffer of the connection, and the texts that
were extracted from the chunk before. -/
structure Reading where
  bev : Conn
  input : Bytes
  texts : List Bytes

/-- Where the server thread is in a function of `gui.cpp` with a response, or in the wait for it. -/
inductive Stage where
  | test
  | post
  | return
  | wait
  deriving DecidableEq

/-- What the server thread does next. -/
inductive Task where
  /-- Nothing: it is in `Process::run`. -/
  | listening
  | reading (r : Reading)
  /-- A call of the GUI, with what follows from its response. -/
  | call (stage : Stage) (c : Call) (k : Option CmdResponse → Server × Json) (r : Reading)
  /-- `requestExit`. -/
  | requestExit (exitCode : ℤ) (r : Reading)
  /-- `Gui::stop`, in a request or after `Process::run`. -/
  | stop (after : Option Reading)
  /-- `Gui::stop`, after its `setStartupState`. -/
  | quit (after : Option Reading)
  /-- Tabs and shortcuts are killed, and nobody waits for the responses. -/
  | kill (signals : List Browser.Signal)
  | ended

/-- The program: both threads, with the response of the call under way once it is ready.  The exit codes
of the requests to exit that were answered are recorded. -/
structure Program extends World GuiThread where
  buffers : Framing.Buffers
  task : Task
  gResp : Option CmdResponse
  accepted : List ℤ

namespace Program

/-- The start of the program: the server listens before `Gui::run` has done anything. -/
def start (softwareVersion timestamp : String) (runtimeConfig : RuntimeConfig) : Program where
  server := Server.start softwareVersion timestamp runtimeConfig
  gui := .start runtimeConfig
  sent := []
  stopped := false
  buffers := ∅
  task := .listening
  gResp := none
  accepted := []

/-- The server thread is done with a request. -/
def finish (p : Program) (r : Reading) (result : Server × Json) : Program :=
  { p with
    server := result.1, sent := p.sent ++ [(r.bev, result.2)], task := .reading r, gResp := none }

/-- The next chunk of at most 1024 bytes is taken from the input buffer, and split into texts. -/
def receive (p : Program) (r : Reading) : Program :=
  let extracted := p.buffers.request r.bev (r.input.take 1024)
  { p with
    buffers := extracted.2
    task := .reading { r with input := r.input.drop 1024, texts := extracted.1 } }

/-- A request is carried out up to the point where the GUI comes in. -/
def serve (p : Program) (r : Reading) : Server.Plan → Program
  | .answer s json => p.finish r (s, json)
  | .stop s json exitCode =>
    { p.finish r (s, json) with
      stopped := true, accepted := p.accepted ++ [exitCode], task := .requestExit exitCode r }
  | .ask c k => { p with task := .call .test c k r, gResp := none }

/-- The next step of a call. -/
def call (o : Outside) (p : Program) (c : Call) (k : Option CmdResponse → Server × Json)
    (r : Reading) : Stage → Option Program
  | .test =>
    if c.IsQueued then
      if p.gui.guard c then some { p with task := .call .post c k r }
      else if c.Rereads then some { p with task := .call .return c k r }
      else some (p.finish r (k none))
    else some (p.finish r (k (some (p.gui.state.callGetCharacteristics o))))
  | .post => some { p with gui := p.gui.post (.command c), task := .call .return c k r }
  | .return =>
    if c.Rereads && !p.gui.guard c then some (p.finish r (k none))
    else some { p with task := .call .wait c k r }
  | .wait => p.gResp.map fun gResp => p.finish r (k (some gResp))

/-- What the server thread does after `Gui::stop`. -/
def resume : Option Reading → Task
  | some r => .reading r
  | none => .ended

/-- The next statement of the main thread outside of the event loops. -/
def statement (p : Program) : Option Program :=
  match p.gui.point with
  | .setAppInstance => some { p with gui := { p.gui with appInstance := true, point := .resetExitCode } }
  | .resetExitCode => some { p with gui := { p.gui with requestedExitCode := 0, point := .resetStartup } }
  | .resetStartup =>
    some { p with gui := { p.gui.setStartupState false with point := .processEvents } }
  | .processEvents => some { p with gui := { p.gui with point := .processEventsAgain } }
  | .processEventsAgain => some { p with gui := { p.gui with timer := true, point := .exec } }
  | .exec => none
  | .startup => some { p with gui := { p.gui.setStartupState false with point := .exec } }
  | .cancelStartup =>
    some { p with gui := { p.gui.setStartupState true with point := .clearAppInstance } }
  | .clearAppInstance =>
    some { p with gui := { p.gui with appInstance := false, point := .clearBrowser } }
  | .clearBrowser => some { p with gui := { p.gui with browser := none, point := .returnExitCode } }
  | .returnExitCode =>
    some { p with gui := { p.gui with point := .stopProcess p.gui.requestedExitCode } }
  | .stopProcess exitCode =>
    some { p with stopped := true, gui := { p.gui with point := .join exitCode } }
  | .join _ | .returned _ => none

end Program

/-! ### Steps -/

/-- What the server thread can do. -/
inductive ServerEvent where
  /-- There are bytes in the input buffer of a connection. -/
  | read (bev : Conn) (input : Bytes)
  /-- End of file or an error on a connection. -/
  | close (bev : Conn)
  /-- The lease timer. -/
  | tick (now : Time)
  /-- The process is told to end. -/
  | signal
  /-- It goes on with what it does. -/
  | next (i : Input Outside)

/-- What the main thread can do. -/
inductive GuiEvent where
  | statement
  /-- The first event of the queue is executed. -/
  | execute (o : Outside)
  | timer
  /-- The user closes the window. -/
  | closeWindow
  /-- `exec` returns. -/
  | leave
  /-- The server thread is joined. -/
  | join
  /-- The user or a timer changes the browser. -/
  | browser

inductive ThreadEvent where
  | server (e : ServerEvent)
  | gui (e : GuiEvent)

/-- The platform with a port that lists the kills. -/
def Platform.recording {I G : Type} (P : Platform I G) : Platform I (List Browser.Signal) :=
  { P with gui := Gui.recorder I }

namespace Program

variable {G : Type} (P : Platform Outside G)

/-- The server with a list of kills that it has still to send. -/
def recorded (p : Program) : World (List Browser.Signal) :=
  { server := p.server, gui := [], sent := p.sent, stopped := p.stopped }

/-- The kills are to be sent. -/
def kill (p : Program) (w : World (List Browser.Signal)) : Program :=
  { p with server := w.server, task := .kill w.gui }

/-- The server thread does something. -/
inductive ServerStep : Program → ServerEvent → Program → Prop where
  | read {p : Program} {bev : Conn} {input : Bytes} (htask : p.task = .listening)
      (hstopped : p.stopped = false) :
      ServerStep p (.read bev input)
        { p with task := .reading { bev := bev, input := input, texts := [] } }
  | close {p : Program} {bev : Conn} (htask : p.task = .listening) (hstopped : p.stopped = false) :
      ServerStep p (.close bev)
        { p.kill (Server.closeConnection P.recording bev p.recorded) with
          buffers := p.buffers.eraseConnection bev }
  | tick {p : Program} {now : Time} (htask : p.task = .listening) (hstopped : p.stopped = false) :
      ServerStep p (.tick now) (p.kill (Server.pruneExpiredTabs P.recording now p.recorded))
  | signal {p : Program} (htask : p.task = .listening) :
      ServerStep p .signal { p with task := .stop none }
  | stopped {p : Program} {i : Input Outside} (htask : p.task = .listening)
      (hstopped : p.stopped = true) : ServerStep p (.next i) { p with task := .stop none }
  | receive {p : Program} {i : Input Outside} {r : Reading} (htask : p.task = .reading r)
      (htexts : r.texts = []) (hinput : r.input ≠ []) : ServerStep p (.next i) (p.receive r)
  | done {p : Program} {i : Input Outside} {r : Reading} (htask : p.task = .reading r)
      (htexts : r.texts = []) (hinput : r.input = []) :
      ServerStep p (.next i) { p with task := .listening }
  | request {p : Program} {i : Input Outside} {r : Reading} {requestText : Bytes} {texts : List Bytes}
      {request : Request} (htask : p.task = .reading r) (htexts : r.texts = requestText :: texts)
      (hdecode : Server.decode P requestText = .ok request) :
      ServerStep p (.next i)
        (p.serve { r with texts := texts } (Server.plan P i r.bev p.server request))
  | call {p p' : Program} {i : Input Outside} {stage : Stage} {c : Call}
      {k : Option CmdResponse → Server × Json} {r : Reading} (htask : p.task = .call stage c k r)
      (h : p.call i.gui c k r stage = some p') : ServerStep p (.next i) p'
  | requestExit {p : Program} {i : Input Outside} {exitCode : ℤ} {r : Reading}
      (htask : p.task = .requestExit exitCode r) :
      ServerStep p (.next i)
        { p with gui := { p.gui with requestedExitCode := exitCode }, task := .stop (some r) }
  | stop {p : Program} {i : Input Outside} {after : Option Reading} (htask : p.task = .stop after) :
      ServerStep p (.next i) { p with gui := p.gui.setStartupState true, task := .quit after }
  | quit {p : Program} {i : Input Outside} {after : Option Reading} (htask : p.task = .quit after) :
      ServerStep p (.next i)
        { p with gui := if p.gui.appInstance then p.gui.post .quit else p.gui, task := resume after }
  | kill {p : Program} {i : Input Outside} {s : Browser.Signal} {signals : List Browser.Signal}
      (htask : p.task = .kill (s :: signals)) :
      ServerStep p (.next i)
        { p with
          gui := if p.gui.browser.isSome then p.gui.post (.signal s) else p.gui
          task := .kill signals }
  | killed {p : Program} {i : Input Outside} (htask : p.task = .kill []) :
      ServerStep p (.next i) { p with task := .listening }

/-- The main thread does something; `moves` are the browser's own moves. -/
inductive GuiStep (moves : Browser → Browser → Prop) : Program → GuiEvent → Program → Prop where
  | statement {p p' : Program} (h : p.statement = some p') : GuiStep moves p .statement p'
  | command {p : Program} {o : Outside} {c : Call} {posted : List Posted} {gResp : CmdResponse}
      {gui : GuiThread} (hpoint : p.gui.point.Processing) (hposted : p.gui.posted = .command c :: posted)
      (h : GuiThread.execCommand o c { p.gui with posted := posted } = some (gResp, gui)) :
      GuiStep moves p (.execute o) { p with gui := gui, gResp := some gResp }
  | signal {p : Program} {o : Outside} {s : Browser.Signal} {posted : List Posted}
      {gResp : CmdResponse} {gui : GuiThread} (hpoint : p.gui.point.Processing)
      (hposted : p.gui.posted = .signal s :: posted)
      (h : GuiThread.execCommand o (.signal s) { p.gui with posted := posted } = some (gResp, gui)) :
      GuiStep moves p (.execute o) { p with gui := gui }
  | quit {p : Program} {o : Outside} {posted : List Posted} (hpoint : p.gui.point.Processing)
      (hposted : p.gui.posted = .quit :: posted) :
      GuiStep moves p (.execute o) { p with gui := { p.gui with posted := posted }.execQuit }
  | timer {p : Program} (hpoint : p.gui.point = .exec) (htimer : p.gui.timer = true) :
      GuiStep moves p .timer { p with gui := p.gui.fireTimer }
  | closeWindow {p : Program} (hpoint : p.gui.point.Running) :
      GuiStep moves p .closeWindow { p with gui := { p.gui with quitting := true } }
  | leave {p : Program} (hpoint : p.gui.point = .exec) (hquitting : p.gui.quitting = true) :
      GuiStep moves p .leave { p with gui := { p.gui with point := .cancelStartup } }
  | join {p : Program} {exitCode : ℤ} (hpoint : p.gui.point = .join exitCode) (htask : p.task = .ended) :
      GuiStep moves p .join { p with gui := { p.gui with point := .returned exitCode } }
  | browser {p : Program} {b b' : Browser} (hpoint : p.gui.point.Running)
      (hbrowser : p.gui.browser = some b) (h : moves b b') :
      GuiStep moves p .browser { p with gui := { p.gui with browser := some b' } }

/-- Either thread does something. -/
inductive ThreadStep (moves : Browser → Browser → Prop) : Program → ThreadEvent → Program → Prop where
  | server {p p' : Program} {e : ServerEvent} (h : ServerStep P p e p') :
      ThreadStep moves p (.server e) p'
  | gui {p p' : Program} {e : GuiEvent} (h : GuiStep moves p e p') : ThreadStep moves p (.gui e) p'

/-! ### What a step leaves as it is -/

variable {P} {moves : Browser → Browser → Prop} {p p' : Program}

/-- The same place in `Gui::run`, with the same pointers. -/
structure SamePlace (p p' : Program) : Prop where
  point : p'.gui.point = p.gui.point
  appInstance : p'.gui.appInstance = p.gui.appInstance
  browser : p'.gui.browser = p.gui.browser
  quitting : p'.gui.quitting = p.gui.quitting

theorem SamePlace.of_gui (h : p'.gui = p.gui) : SamePlace p p' := by
  constructor <;> rw [h]

theorem samePlace_serve (p : Program) (r : Reading) (plan : Server.Plan) :
    SamePlace p (p.serve r plan) := by
  cases plan <;> exact .of_gui rfl

/-- What the next step of a call can be. -/
theorem call_cases {o : Outside} {c : Call} {k : Option CmdResponse → Server × Json} {r : Reading}
    {stage : Stage} (h : p.call o c k r stage = some p') :
    (∃ gResp, p' = p.finish r (k gResp)) ∨ (∃ stage', p' = { p with task := .call stage' c k r })
      ∨ p' = { p with gui := p.gui.post (.command c), task := .call .return c k r } := by
  cases stage with
  | test =>
    simp only [call] at h
    split at h
    · split at h
      · cases h; exact Or.inr (Or.inl ⟨_, rfl⟩)
      · split at h <;> cases h
        · exact Or.inr (Or.inl ⟨_, rfl⟩)
        · exact Or.inl ⟨_, rfl⟩
    · cases h; exact Or.inl ⟨_, rfl⟩
  | post => cases h; exact Or.inr (Or.inr rfl)
  | «return» =>
    simp only [call] at h
    split at h <;> cases h
    · exact Or.inl ⟨_, rfl⟩
    · exact Or.inr (Or.inl ⟨_, rfl⟩)
  | wait =>
    obtain ⟨gResp, -, rfl⟩ := Option.map_eq_some_iff.mp h
    exact Or.inl ⟨_, rfl⟩

theorem samePlace_call {o : Outside} {c : Call} {k : Option CmdResponse → Server × Json} {r : Reading}
    {stage : Stage} (h : p.call o c k r stage = some p') : SamePlace p p' := by
  rcases call_cases h with ⟨gResp, rfl⟩ | ⟨stage', rfl⟩ | rfl
  · exact .of_gui rfl
  · exact .of_gui rfl
  · exact ⟨rfl, rfl, rfl, rfl⟩

/-- **The server thread** does not move the main thread. -/
theorem ServerStep.samePlace {e : ServerEvent} (h : ServerStep P p e p') : SamePlace p p' := by
  cases h with
  | request => exact samePlace_serve _ _ _
  | call _ hcall => exact samePlace_call hcall
  | requestExit => exact ⟨rfl, rfl, rfl, rfl⟩
  | stop => exact ⟨rfl, rfl, rfl, rfl⟩
  | quit =>
    constructor
    all_goals
      dsimp only
      split <;> rfl
  | kill =>
    constructor
    all_goals
      dsimp only
      split <;> rfl
  | _ => exact .of_gui rfl

/-- The execution of a command changes at most the browser. -/
theorem execCommand_eq {o : Outside} {c : Call} {t t' : GuiThread} {gResp : CmdResponse}
    (h : t.execCommand o c = some (gResp, t')) : t' = { t with browser := t'.browser } := by
  cases c with
  | signal s =>
    simp only [GuiThread.execCommand] at h
    split at h
    · cases h
    · obtain ⟨x, -, hx⟩ := Option.map_eq_some_iff.mp h
      cases hx
      rfl
  | GetCharacteristics => cases h
  | CaptureScreenshot fileName => cases h; rfl
  | ApplySettings settings =>
    obtain ⟨x, -, hx⟩ := Option.map_eq_some_iff.mp h
    cases hx
    rfl
  | PlaySound => cases h; rfl

/-- What the main thread does not touch. -/
structure SameServer (p p' : Program) : Prop where
  server : p'.server = p.server
  sent : p'.sent = p.sent
  buffers : p'.buffers = p.buffers
  task : p'.task = p.task
  accepted : p'.accepted = p.accepted

theorem sameServer_statement (h : p.statement = some p') : SameServer p p' := by
  unfold statement at h
  split at h <;> cases h <;> exact ⟨rfl, rfl, rfl, rfl, rfl⟩

theorem gResp_statement (h : p.statement = some p') : p'.gResp = p.gResp := by
  unfold statement at h
  split at h <;> cases h <;> rfl

/-- **The main thread** does not move the server thread. -/
theorem GuiStep.sameServer {e : GuiEvent} (h : GuiStep moves p e p') : SameServer p p' := by
  cases h with
  | statement h => exact sameServer_statement h
  | _ => exact ⟨rfl, rfl, rfl, rfl, rfl⟩

/-! ### An event loop that has ended -/

theorem not_ended_of_processing {point : Point} (h : point.Processing) : ¬ point.Ended := by
  rcases h with rfl | rfl | hrunning
  · exact fun hended => hended.1 trivial
  · exact fun hended => hended.1 trivial
  · exact fun hended => hended.2 hrunning

/-- No statement ends the event loop. -/
theorem ended_statement (h : p.statement = some p') : p'.gui.point.Ended ↔ p.gui.point.Ended := by
  unfold statement at h
  split at h <;> cases h
  all_goals
    next hpoint =>
    rw [hpoint]
    simp [Point.Ended, Point.Starting, Point.Running]

theorem GuiStep.ended_iff {e : GuiEvent} (h : GuiStep moves p e p') (he : e ≠ .leave) :
    p'.gui.point.Ended ↔ p.gui.point.Ended := by
  cases h with
  | statement h => exact ended_statement h
  | command hpoint _ h => rw [execCommand_eq h]
  | signal hpoint _ h => rw [execCommand_eq h]
  | quit hpoint =>
    rw [GuiThread.execQuit]
    split <;> rfl
  | timer hpoint =>
    rw [hpoint, GuiThread.fireTimer]
    split
    · rw [hpoint]
    · show Point.startup.Ended ↔ Point.exec.Ended
      decide
  | closeWindow => rfl
  | leave => exact absurd rfl he
  | join hpoint =>
    rw [hpoint]
    simp [Point.Ended, Point.Starting, Point.Running]
  | browser => rfl

/-- What has ended does not start again. -/
theorem ThreadStep.ended {e : ThreadEvent} (h : ThreadStep P moves p e p') (hp : p.gui.point.Ended) :
    p'.gui.point.Ended := by
  cases h with
  | server h => rwa [h.samePlace.point]
  | @gui _ e h =>
    by_cases he : e = .leave
    · subst he
      cases h with
      | leave hpoint => exact absurd (Or.inl hpoint) hp.2
    · exact (h.ended_iff he).mpr hp

/-! ### A client -/

/-- The texts of a client that ends the program, or asks for its tabs. -/
def stopText : Bytes := utf8 "\x7b\"req\":\"Stop\"\x7d"

def restartText : Bytes := utf8 "\x7b\"req\":\"Restart\"\x7d"

def tabMapText : Bytes := utf8 "\x7b\"req\":\"GetTabMap\"\x7d"

def threadPlatform : Platform Outside GuiState :=
  .sample [(stopText, .obj [("req", .str "Stop")]), (restartText, .obj [("req", .str "Restart")]),
    (tabMapText, .obj [("req", .str "GetTabMap")])]

/-- The program with the default configuration. -/
def sampleStart : Program := start "1" "2024-01-01T00:00:00Z" {}

/-- The server thread goes on; its surroundings do not matter here. -/
abbrev goesOn : ThreadEvent := .server (.next Server.sampleInput)

end Program

end OpenMadt
