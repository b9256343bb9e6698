import OpenMadt.Server

/-!
# Typed requests

The handlers interleave three things: reading the request, deciding what to do, and doing it.  Here
they are pulled apart.

* `decode` reads a request text into a `Request`, whose fields have the types that the handler works
  with; every refusal that depends on the text alone is `Refused`.
* `plan` decides, from the request and the server's state, either on an answer or on one question
  to the GUI and on what follows from its response.
* `Plan.run` carries a plan out.

`processFrame_eq` is the refinement: processing a text is decoding it and carrying out the plan.
-/

namespace OpenMadt

/-- A request that passed the checks of its handler. -/
inductive Request where
  /-- Anything that is answered with `MTSRC_BAD_REQUEST` for its text alone. -/
  | Refused
  | GetRandom
  | GetInfo
  | GetSettings
  | GetCharacteristics
  | PlaySound (soundId : String) (soundFlags : UInt32)
  | SetSettings (patch : Json)
  | Stop (password : Option String)
  | Restart (password : Option String)
  | CaptureScreenshot (password fileName : Option String)
  | GetTabMap (password : Option String)
  | GetShortcuts (password : Option String)
  | NewWebTab (requestedUrl iconUrl : String) (preferredPos flags : ℤ)
  | NewShortcut (url iconUrl : String) (preferredPos flags : ℤ)
  | NavigateTo (tabId url : String)
  | BlinkTab (tabId : String)
  | ActivateTab (tabId : String)
  | KillTab (tabId : String)
  | KillShortcut (shortcutId : String)
  | IAmAliveTab (tabId : String) (ttl : ℤ)
  | IAmAliveShortcut (shortcutId : String) (ttl : ℤ)

namespace Server

variable {I G : Type} (P : Platform I G) (i : Input I)

/-! ### Decoding -/

/-- Go on with the value of an expression; a thrown exception refuses the request. -/
def attempt {α : Type} (x : Except Fault α) (k : α → Except Fault Request) : Except Fault Request :=
  match x with
  | .ok a => k a
  | .error .exception => .ok .Refused
  | .error fault => .error fault

theorem attempt_eq_ok {α : Type} {x : Except Fault α} {k : α → Except Fault Request}
    {request : Request} (h : attempt x k = .ok request) :
    request = .Refused ∨ ∃ a, x = .ok a ∧ k a = .ok request := by
  match x, h with
  | .ok a, h => exact Or.inr ⟨a, rfl, h⟩
  | .error .exception, h => cases h; exact Or.inl rfl

/-- An attempt ends in a refusal or in what follows. -/
theorem attempt_rule {α : Type} {Q : Request → Prop} {x : Except Fault α}
    {k : α → Except Fault Request} {request : Request} (hrefused : Q .Refused)
    (h : attempt x k = .ok request) (hk : ∀ a request, k a = .ok request → Q request) : Q request := by
  rcases attempt_eq_ok h with rfl | ⟨a, -, ha⟩
  · exact hrefused
  · exact hk a request ha

/-- The string under a key, if there is one. -/
def stringMember (request : Json) (key : String) : Option String :=
  (request.find? key).bind asString

/-- The flags of `parseSoundFlags`. -/
def soundFlagsOf (request : Json) : Option UInt32 :=
  (stringMember request "soundFlags").bind fun encodedFlags =>
    let parsed := CString.strtoul 0 (CString.cstr encodedFlags)
    if parsed.outOfRange || parsed.rest ≠ [] then none else some (UInt32.ofNat parsed.value)

/-- The sound that is played for the given flags, if any. -/
def soundFor (soundId : String) (soundFlags : UInt32) : Option String :=
  if soundFlags &&& ~~~SUPPORTED_SOUND_FLAGS ≠ 0 then none
  else if soundFlags &&& SOUNDFLAG_ALIAS = 0 then none
  else if isSupportedSoundAlias soundId then some soundId
  else if soundFlags &&& SOUNDFLAG_NODEFAULT ≠ 0 then none
  else some "SystemNotification"

def decodePlaySound (request : Json) : Request :=
  match stringMember request "soundId", soundFlagsOf request with
  | some soundId, some soundFlags =>
    match soundFor soundId soundFlags with
    | some soundId => .PlaySound soundId soundFlags
    | none => .Refused
  | _, _ => .Refused

def decodeIAmAlive (request : Json) : Request :=
  match request.find? "TTL", stringMember request "tabId", stringMember request "shortcutId" with
  | some (.int n), some tabId, none =>
    if Json.toInt32 n < 0 then .Refused else .IAmAliveTab tabId (Json.toInt32 n)
  | some (.int n), none, some shortcutId =>
    if Json.toInt32 n < 0 then .Refused else .IAmAliveShortcut shortcutId (Json.toInt32 n)
  | _, _, _ => .Refused

def decodeNavigateTo (request : Json) : Except Fault Request :=
  if P.urlFirst then
    attempt (stringAt request "url") fun url =>
      attempt (stringAt request "tabId") fun tabId => .ok (.NavigateTo tabId url)
  else
    attempt (stringAt request "tabId") fun tabId =>
      attempt (stringAt request "url") fun url => .ok (.NavigateTo tabId url)

/-- The arguments of a new tab or shortcut. -/
def decodeNew (request : Json) (k : String → String → ℤ → ℤ → Request) : Except Fault Request :=
  attempt (request.value Json.getString "iconUrl" "") fun iconUrl =>
    attempt (request.value (Json.getInt P.undefinedCast) "preferredPos" (-1)) fun preferredPos =>
      attempt (request.value (Json.getInt P.undefinedCast) "flags" 0) fun flags =>
        attempt (stringAt request "url") fun url => .ok (k url iconUrl preferredPos flags)

/-- A request object by the value of its `req`. -/
def decodeAs (request : Json) : RequestCode → Except Fault Request
  | .GetRandom => .ok .GetRandom
  | .GetInfo => .ok .GetInfo
  | .GetSettings => .ok .GetSettings
  | .GetCharacteristics => .ok .GetCharacteristics
  | .PlaySound => .ok (decodePlaySound request)
  | .SetSettings =>
    .ok (if patchError request = none then .SetSettings request else .Refused)
  | .GetTabMap => .ok (.GetTabMap (stringMember request "password"))
  | .GetShortcuts => .ok (.GetShortcuts (stringMember request "password"))
  | .NavigateTo => decodeNavigateTo P request
  | .IAmAlive => .ok (decodeIAmAlive request)
  | .Stop => .ok (.Stop (stringMember request "password"))
  | .Restart => .ok (.Restart (stringMember request "password"))
  | .NewWebTab => decodeNew P request .NewWebTab
  | .NewShortcut => decodeNew P request .NewShortcut
  | .ActivateTab => attempt (stringAt request "tabId") fun tabId => .ok (.ActivateTab tabId)
  | .KillTab => attempt (stringAt request "tabId") fun tabId => .ok (.KillTab tabId)
  | .KillShortcut =>
    attempt (stringAt request "shortcutId") fun shortcutId => .ok (.KillShortcut shortcutId)
  | .CaptureScreenshot =>
    .ok (.CaptureScreenshot (stringMember request "password")
      ((stringMember request "fileName").filter (· ≠ "")))
  | .BlinkTab => attempt (stringAt request "tabId") fun tabId => .ok (.BlinkTab tabId)
  | .NewVncTab | .Unknown => .ok .Refused

/-- The request that a text stands for, unless reading it looks up an absent key. -/
def decode (requestText : Bytes) : Except Fault Request :=
  match P.parse requestText with
  | none => .ok .Refused
  | some request =>
    attempt (stringAt request "req") fun reqName =>
      decodeAs P request (convertStringToMadtRequest reqName)

/-! ### Plans -/

/-- What a handler does: it answers, it answers and stops the process, or it asks the GUI; then the
response of the GUI decides on the server's new state and the answer. -/
inductive Plan where
  | answer (s : Server) (json : Json)
  | stop (s : Server) (json : Json) (exitCode : ℤ)
  | ask (c : Gui.Call) (k : Option Gui.CmdResponse → Server × Json)

/-- Carrying out a plan, for the connection `bev`; there is no result if the GUI gives none. -/
def Plan.run (bev : Conn) (w : World G) : Plan → Option (World G)
  | .answer s json => some ({ w with server := s }.reply bev json)
  | .stop s json exitCode =>
    some ({ w with
      server := s, gui := P.gui.requestExit exitCode w.gui, stopped := true }.reply bev json)
  | .ask c k =>
    (P.gui.call i.gui c w.gui).map fun r =>
      { w with server := (k r.1).1, gui := r.2 }.reply bev (k r.1).2

/-- The plain answer to a request that is not carried out. -/
def refuse (s : Server) : Plan := .answer s (response .MTSRC_BAD_REQUEST)

/-- A question whose result code is the answer. -/
def relay (s : Server) (c : Gui.Call) : Plan := .ask c fun gResp => (s, response (resultCode gResp))

/-- A question with an answer, and perhaps a change of state, of its own in case of success. -/
def askFor (s : Server) (c : Gui.Call) (k : Gui.CmdResponse → Server × Json) : Plan :=
  .ask c fun gResp =>
    match gResp with
    | some gResp =>
      if gResp.result = .OK then k gResp else (s, response (convertGuiResultToMadt gResp.result))
    | none => (s, response .MTSRC_EXEC_ERROR)

/-- The password opens what `password` protects. -/
def opens (given : Option String) (password : String) : Bool :=
  password = "" || given = some password

/-- The control token in a password. -/
def tokenOf (password : String) : Option ControlToken :=
  (P.base64Decode (utf8 password)).bind fun decodedPassword =>
    (P.parse decodedPassword).bind fun token =>
      (stringMember token "nonceId").bind fun nonceId =>
        (stringMember token "timestamp").bind fun timestamp =>
          (stringMember token "auth").map fun auth =>
            { nonceId := nonceId, timestamp := timestamp, auth := auth }

/-- The verdict of `authorizeControlRequest`, and the server after it. -/
def authorize (password : Option String) (reqName : String) (s : Server) : Bool × Server :=
  if s.runtimeConfig.controlPsk = "" then (opens password s.runtimeConfig.controlPassword, s)
  else
    match password.bind (tokenOf P) with
    | none => (false, s)
    | some token => spendNonce P i token reqName s

/-- The check changes nothing but the nonces. -/
theorem authorize_server (password : Option String) (reqName : String) (s : Server) :
    (authorize P i password reqName s).2
      = { s with controlNonces := (authorize P i password reqName s).2.controlNonces } := by
  unfold authorize spendNonce
  split
  · rfl
  · split
    · rfl
    · split
      · rfl
      · dsimp only
        split
        · rfl
        · split <;> rfl

def planExit (password : Option String) (reqName : String) (exitCode : ℤ) (s : Server) : Plan :=
  if (authorize P i password reqName s).1 then
    .stop (authorize P i password reqName s).2 (response .MTSRC_OK) exitCode
  else refuse (authorize P i password reqName s).2

/-- The answer that is made of values from a payload; a value of the wrong type throws. -/
def fromPayload (x : Except Fault Json) : Json :=
  match x with
  | .ok json => json
  | .error _ => response .MTSRC_BAD_REQUEST

/-- The answer of `handleGetCharacteristics` to a successful call. -/
def characteristics (s : Server) (payload : Json) : Except Fault Json := do
  let winWidth ← payload.value (Json.getInt P.undefinedCast) "winWidth" 0
  let winHeight ← payload.value (Json.getInt P.undefinedCast) "winHeight" 0
  pure (response .MTSRC_OK
    [("winWidth", .int winWidth), ("winHeight", .int winHeight),
      ("iconWidth", .int s.runtimeConfig.tabBarWidth),
      ("iconHeight", .int s.runtimeConfig.tabBarHeight), ("maxTabs", .int MAX_TABS)])

/-- The answer of `handleCaptureScreenshot` to a successful call. -/
def screenshot (payload : Json) : Except Fault Json := do
  let savedName ← payload.value Json.getString "fileName" ""
  let width ← payload.value (Json.getInt P.undefinedCast) "width" 0
  let height ← payload.value (Json.getInt P.undefinedCast) "height" 0
  pure (response .MTSRC_OK
    [("fileName", .str savedName), ("width", .int width), ("height", .int height)])

def planCaptureScreenshot (password fileName : Option String) (s : Server) : Plan :=
  let s' := (authorize P i password "CaptureScreenshot" s).2
  if (authorize P i password "CaptureScreenshot" s).1 then
    match fileName with
    | none => refuse s'
    | some fileName =>
      askFor s' (.CaptureScreenshot fileName) fun gResp =>
        (s', fromPayload (screenshot P gResp.payload))
  else refuse s'

def planGetRandom (s : Server) : Plan :=
  if s.runtimeConfig.controlPsk = "" then refuse s
  else
    match P.generateRandomToken i.random with
    | none => .answer s (response .MTSRC_EXEC_ERROR)
    | some nonce =>
      .answer (issueNonce i nonce s) (response .MTSRC_OK
        [("nonceId", .str i.uuid), ("nonce", .str nonce),
          ("ttl", .int s.runtimeConfig.controlNonceTtlSeconds), ("algo", .str "HMAC-SHA256")])

/-- The kill of a tab; the server forgets it if it is destroyed. -/
def planKillTab (tabId : String) (forceDestroy : Bool) (s : Server) : Plan :=
  askFor s (.signal (.KillTab tabId forceDestroy)) fun _ =>
    (if forceDestroy then s.forgetOwnedTab tabId else s, response .MTSRC_OK)

def planKillShortcut (shortcutId : String) (s : Server) : Plan :=
  askFor s (.signal (.KillShortcut shortcutId)) fun _ =>
    ({ s with shortcutLeases := s.shortcutLeases.erase shortcutId }, response .MTSRC_OK)

/-- What the server does about a request of the connection `bev`. -/
def plan (bev : Conn) (s : Server) : Request → Plan
  | .Refused => refuse s
  | .GetRandom => planGetRandom P i s
  | .GetInfo => .answer s (response .MTSRC_OK
      [("version", .str SPEC_VERSION), ("swvers", .str P.SOFTWARE_VERSION),
        ("hasVNC", .int HAS_VNC),
        ("hasShortcut", .int (if s.runtimeConfig.shortcutsEnabled then HAS_SHORTCUT else 0)),
        ("hasSound", .int HAS_SOUND), ("extraInfo", .str EXTRA_INFO)])
  | .GetSettings => .answer s (response .MTSRC_OK (settingsMembers s.settingsState))
  | .GetCharacteristics =>
    askFor s .GetCharacteristics fun gResp => (s, fromPayload (characteristics P s gResp.payload))
  | .PlaySound soundId soundFlags =>
    relay s (.PlaySound soundId soundFlags.toNat (s.resolveSoundFile soundId)
      s.runtimeConfig.soundPlayerCommand)
  | .SetSettings patch =>
    let updatedSettings := merged s.settingsState patch
    askFor s (.ApplySettings updatedSettings) fun _ =>
      (s.storeSettings P.SOFTWARE_VERSION i.timestamp updatedSettings, response .MTSRC_OK)
  | .Stop password => planExit P i password "Stop" 0 s
  | .Restart password => planExit P i password "Restart" 1 s
  | .CaptureScreenshot password fileName => planCaptureScreenshot P i password fileName s
  | .GetTabMap password =>
    if opens password s.runtimeConfig.tabMapPassword then
      askFor s (.signal .GetTabMap) fun gResp =>
        (s, response .MTSRC_OK [("maxTabs", .int MAX_TABS), ("tabMap", gResp.payload)])
    else refuse s
  | .GetShortcuts password =>
    if opens password s.runtimeConfig.tabMapPassword then
      askFor s (.signal .GetShortcuts) fun gResp =>
        (s, response .MTSRC_OK [("shortcuts", gResp.payload)])
    else refuse s
  | .NewWebTab requestedUrl iconUrl preferredPos flags =>
    askFor s (.signal (.NewWebTab (buildWebTabUrl requestedUrl i.uuid flags) iconUrl preferredPos
        flags i.uuid)) fun _ =>
      (let s := s.rememberOwnedTab bev i.uuid
       if preferredPos = POS_EXTRA then { s with extraTabId := i.uuid } else s,
        response .MTSRC_OK [("tabId", .str i.uuid)])
  | .NewShortcut url iconUrl preferredPos flags =>
    askFor s (.signal (.NewShortcut url iconUrl preferredPos flags i.uuid)) fun _ =>
      ({ s with shortcutLeases := s.shortcutLeases.insertIfNew i.uuid none },
        response .MTSRC_OK [("shortcutId", .str i.uuid)])
  | .NavigateTo tabId url => relay s (.signal (.NavigateTo tabId url))
  | .BlinkTab tabId => relay s (.signal (.BlinkTab tabId))
  | .ActivateTab tabId => relay s (.signal (.ActivateTab tabId))
  | .KillTab tabId => planKillTab tabId (!s.isExtraTab tabId) s
  | .KillShortcut shortcutId => planKillShortcut shortcutId s
  | .IAmAliveTab tabId ttl =>
    if !s.hasTab tabId then .answer s (response .MTSRC_INVALID_TAB)
    else if ttl = 0 then planKillTab tabId true s
    else
      .answer { s with tabLeases := s.tabLeases.insert tabId (some (i.now + seconds ttl)) }
        (response .MTSRC_OK)
  | .IAmAliveShortcut shortcutId ttl =>
    if shortcutId ∉ s.shortcutLeases then .answer s (response .MTSRC_INVALID_TAB)
    else if ttl = 0 then planKillShortcut shortcutId s
    else
      .answer
        { s with shortcutLeases := s.shortcutLeases.insert shortcutId (some (i.now + seconds ttl)) }
        (response .MTSRC_OK)

end Server

end OpenMadt
