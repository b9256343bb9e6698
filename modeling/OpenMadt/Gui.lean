import OpenMadt.Browser

/-!
# The GUI as the server sees it

`gui.h` and `gui.cpp`: the functions through which the server thread commands the GUI thread.

* `Port` — what the server needs of a GUI: a call whose answer it waits for, a call it does not wait
  for, and the request to exit.  The server is modelled over any port.
* `GuiState.port` — the port of `gui.cpp`: the browser, once it exists, with its queue of commands.  A call
  that is waited for first lets the GUI thread empty the queue, then executes.
* `Outside` — what the world outside the program contributes to a call: processes, files, the screen,
  and whether the startup timer fires meanwhile.

The event loop is taken to run for as long as commands are queued; the two reads of `browser` that
most functions make are taken as one.
-/

namespace OpenMadt.Gui

/-! ### The interface -/

/-- The functions of `gui.h` that get a response to wait for.  A signal stands for the function that
has its name. -/
inductive Call where
  | signal (s : Browser.Signal)
  | GetCharacteristics
  | CaptureScreenshot (fileName : String)
  | ApplySettings (settings : SettingsState)
  | PlaySound (soundId : String) (soundFlags : ℕ) (soundFile soundPlayerCommand : String)

/-- A GUI with states `G` whose calls depend on an outside `I`.

* `call`: the function's return value and, if it is true, the response after the wait; no result at
  all if the wait never ends.
* `post`: a signal sent with a null response. -/
structure Port (I G : Type) where
  call : I → Call → G → Option (Option CmdResponse × G)
  post : Browser.Signal → G → G
  requestExit : ℤ → G → G

/-- Every queued command is answered. -/
def Port.Answers {I G : Type} (port : Port I G) : Prop :=
  ∀ (o : I) (c : Call) (g : G), (port.call o c g).isSome

/-! ### The outside -/

/-- When the callback of the startup timer runs, if it runs during a call. -/
inductive Startup where
  | no
  | beforeCommand
  | afterCommand
  deriving DecidableEq

/-- What a call finds outside the program. -/
structure Outside where
  /-- The command is started, ends normally and with exit code 0. -/
  runProcess : String → List String → Bool := fun _ _ => true
  /-- The integer that a file begins with, if it can be read. -/
  readInt : String → Option Int32 := fun _ => none
  writeFile : String → String → Bool := fun _ _ => true
  /-- The size of the current page or, failing that, of the browser. -/
  viewportSize : ℤ × ℤ := (0, 0)
  /-- The size of the grabbed pixmap; none if it is null. -/
  grab : Option (ℤ × ℤ) := none
  /-- The absolute path under which a pixmap is saved; none if saving fails. -/
  savePixmap : String → Option String := fun _ => none
  startup : Startup := .no

/-! ### Volume and backlight -/

/-- `applyAudioVolume`. -/
def applyAudioVolume (o : Outside) (config : RuntimeConfig) (settings : SettingsState) : Bool :=
  let percent := settingsVolumeToPercent settings.volume
  let percentArg := toString percent ++ "%"
  if config.audioVolume.script ≠ "" then
    o.runProcess config.audioVolume.script [toString percent]
  else if config.audioVolume.controlName = "" then true
  else
    o.runProcess config.audioVolume.command
      ["-q", "sset", config.audioVolume.controlName, percentArg]

/-- `readBacklightMaxValue`. -/
def readBacklightMaxValue (o : Outside) (config : RuntimeConfig) : Option ℤ :=
  let maxValue := if config.backlight.maxValue > 0 then config.backlight.maxValue else 0
  if config.backlight.maxValuePath = "" then
    if maxValue > 0 then some maxValue else none
  else
    match o.readInt config.backlight.maxValuePath with
    | none => none
    | some value => if value.toInt ≤ 0 then none else some value.toInt

/-- The `int` that `(brightness * maxValue + 127) / 255` computes; none if it overflows. -/
def rawBacklightValue (brightness maxValue : ℤ) : Option ℤ :=
  let scaled := brightness * maxValue
  if -2147483648 ≤ scaled ∧ scaled + 127 ≤ 2147483647 then some ((scaled + 127).tdiv 255) else none

/-- `applyBacklightBrightness`. -/
def applyBacklightBrightness (o : Outside) (config : RuntimeConfig) (brightness : ℤ) :
    Option Bool :=
  if config.backlight.command ≠ "" then
    some (o.runProcess config.backlight.command [toString ((brightness * 100 + 127).tdiv 255)])
  else if config.backlight.path = "" then some true
  else
    match readBacklightMaxValue o config with
    | none => some false
    | some maxValue =>
      (rawBacklightValue brightness maxValue).map fun rawValue =>
        o.writeFile config.backlight.path (toString rawValue)

/-! ### The GUI thread -/

/-- The state of `gui.cpp`, and the signals in the browser's event queue. -/
structure GuiState where
  runtimeConfig : RuntimeConfig
  appInstance : Bool
  browser : Option Browser
  queue : List Browser.Signal
  startupCancelled : Bool
  requestedExitCode : ℤ

/-- `Gui::run` before its startup timer fires. -/
def GuiState.start (runtimeConfig : RuntimeConfig) : GuiState where
  runtimeConfig := runtimeConfig
  appInstance := true
  browser := none
  queue := []
  startupCancelled := false
  requestedExitCode := 0

namespace GuiState

/-- The callback of the startup timer, which fires once. -/
def createBrowser (g : GuiState) : GuiState :=
  if g.startupCancelled || g.browser.isSome then g
  else
    { g with
      browser := some ((Browser.new g.runtimeConfig).ApplySettings g.runtimeConfig.settings) }

/-- Some signals executed in order. -/
def execAll (b : Browser) : List Browser.Signal → Option Browser
  | [] => some b
  | s :: queue =>
    match b.exec s with
    | none => none
    | some (b, _) => execAll b queue

/-- The GUI thread executes what is queued. -/
def drainQueue (g : GuiState) : Option GuiState :=
  match g.browser with
  | none => some { g with queue := [] }
  | some b => (execAll b g.queue).map fun b => { g with browser := some b, queue := [] }

/-- The GUI thread executes the first queued signal. -/
def execNext (g : GuiState) : Option GuiState :=
  match g.browser, g.queue with
  | some b, s :: queue => (b.exec s).map fun r => { g with browser := some r.1, queue := queue }
  | _, _ => some g

/-- The functions that emit a signal of the browser, if there is a browser. -/
def callSignal (s : Browser.Signal) (g : GuiState) : Option (Option CmdResponse × GuiState) :=
  match g.browser with
  | none => some (none, g)
  | some b =>
    match execAll b g.queue with
    | none => none
    | some b => (b.exec s).map fun r => (some r.2, { g with browser := some r.1, queue := [] })

/-- `GetCharacteristics`, which does not go through the queue. -/
def callGetCharacteristics (o : Outside) (g : GuiState) : CmdResponse :=
  match g.browser with
  | some _ =>
    { result := .OK
      payload := .obj [("winWidth", .int o.viewportSize.1), ("winHeight", .int o.viewportSize.2)] }
  | none => { result := .EXEC_ERROR }

/-- The lambda of `CaptureScreenshot`. -/
def captureScreenshot (o : Outside) (fileName : String) (g : GuiState) : CmdResponse :=
  match g.browser with
  | none => { result := .EXEC_ERROR }
  | some b =>
    match b.tabs.current, o.grab, o.savePixmap fileName with
    | some _, some (width, height), some path =>
      { result := .OK
        payload := .obj [("fileName", .str path), ("width", .int width), ("height", .int height)] }
    | _, _, _ => { result := .EXEC_ERROR }

/-- The lambda of `ApplySettings`: the browser takes over the settings before anything can fail. -/
def applySettings (o : Outside) (settings : SettingsState) (g : GuiState) :
    Option (CmdResponse × GuiState) :=
  let g := { g with browser := g.browser.map (·.ApplySettings settings) }
  let applied := applyAudioVolume o g.runtimeConfig settings
  match applyBacklightBrightness o g.runtimeConfig settings.brightness with
  | none => none
  | some backlight => some ({ result := if backlight && applied then .OK else .EXEC_ERROR }, g)

/-- A lambda queued on the application, with the startup timer firing before or after it, or not. -/
def invoke (o : Outside) (lambda : GuiState → Option (CmdResponse × GuiState)) (g : GuiState) :
    Option (Option CmdResponse × GuiState) :=
  if !g.appInstance then some (none, g)
  else
    match (if o.startup = .beforeCommand then g.createBrowser else g).drainQueue with
    | none => none
    | some g =>
      (lambda g).map fun r =>
        (some r.1, if o.startup = .afterCommand then r.2.createBrowser else r.2)

/-- The functions of `gui.cpp` that are waited for.  `PlaySound` answers `OK` whether the sound could
be played or not. -/
def call (o : Outside) : Call → GuiState → Option (Option CmdResponse × GuiState)
  | .signal s, g => g.callSignal s
  | .GetCharacteristics, g => some (some (g.callGetCharacteristics o), g)
  | .CaptureScreenshot fileName, g =>
    g.invoke o fun g => some (g.captureScreenshot o fileName, g)
  | .ApplySettings settings, g => g.invoke o (applySettings o settings)
  | .PlaySound .., g => g.invoke o fun g => some ({ result := .OK }, g)

/-- A signal that nobody waits for. -/
def post (s : Browser.Signal) (g : GuiState) : GuiState :=
  match g.browser with
  | none => g
  | some _ => { g with queue := g.queue ++ [s] }

/-- `requestExit` and `stop`, up to the `quit` they queue. -/
def requestExit (exitCode : ℤ) (g : GuiState) : GuiState :=
  { g with requestedExitCode := exitCode, startupCancelled := true }

/-- `gui.cpp` as a port. -/
def port : Port Outside GuiState where
  call := call
  post := post
  requestExit := requestExit

end GuiState

end OpenMadt.Gui
