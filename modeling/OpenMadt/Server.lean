import OpenMadt.FramingConnections
import OpenMadt.Platform

/-!
# The server

`madt-server.cpp`, from the twenty request handlers to `Server::request`.

* `Server` is the state of the class, `World` adds what the handlers act on: the GUI, the responses
  written so far, and whether the process was told to stop.
* A handler is a `Handler` action.  A C++ exception is `Fault.exception`; it leaves all changes made
  so far in place, and `processFrame` catches it as `Server::request` does.  Nothing catches the
  other faults.
* The handlers read the request with the accessors of `Json`, in the order of the source, so that an
  unguarded `operator[]` shows up as `Fault.absentKey`.
-/

namespace OpenMadt

abbrev SPEC_VERSION : String := "3.0.1"
abbrev EXTRA_INFO : String := "madt"
abbrev HAS_VNC : ℤ := 0
abbrev HAS_SHORTCUT : ℤ := 1
abbrev HAS_SOUND : ℤ := 1
abbrev TXT_VERSION : ℤ := 1
abbrev POS_EXTRA : ℤ := -10
abbrev SOUNDFLAG_ASYNC : UInt32 := 0x00000001
abbrev SOUNDFLAG_NODEFAULT : UInt32 := 0x00000002
abbrev SOUNDFLAG_NOSTOP : UInt32 := 0x00000010
abbrev SOUNDFLAG_ALIAS : UInt32 := 0x00010000
abbrev SUPPORTED_SOUND_FLAGS : UInt32 :=
  SOUNDFLAG_ASYNC ||| SOUNDFLAG_NODEFAULT ||| SOUNDFLAG_NOSTOP ||| SOUNDFLAG_ALIAS

/-- `Server::returnCode`. -/
inductive ReturnCode where
  | MTSRC_OK
  | MTSRC_BAD_REQUEST
  | MTSRC_INVALID_TAB
  | MTSRC_EXEC_ERROR
  | MTSRC_BAD_ANSWER
  deriving DecidableEq, Repr

/-- The enumeration as a JSON number. -/
def ReturnCode.toJson : ReturnCode → Json
  | .MTSRC_OK => .int 0
  | .MTSRC_BAD_REQUEST => .int 1
  | .MTSRC_INVALID_TAB => .int 2
  | .MTSRC_EXEC_ERROR => .int 3
  | .MTSRC_BAD_ANSWER => .int 4

/-- A response with this `retCode` and further members. -/
def response (code : ReturnCode) (members : List (String × Json) := []) : Json :=
  .obj (("retCode", code.toJson) :: members)

/-- `Server::requestCode`. -/
inductive RequestCode where
  | GetRandom | GetInfo | PlaySound | GetSettings | SetSettings | Stop | Restart
  | GetCharacteristics | NewWebTab | NewVncTab | NewShortcut | NavigateTo | BlinkTab | ActivateTab
  | KillTab | KillShortcut | IAmAlive | GetTabMap | GetShortcuts | CaptureScreenshot | Unknown
  deriving DecidableEq, Repr

/-- The map in `convertStringToMadtRequest`. -/
def mapCmd : List (String × RequestCode) :=
  [("GetRandom", .GetRandom), ("GetInfo", .GetInfo), ("PlaySound", .PlaySound),
    ("GetSettings", .GetSettings), ("SetSettings", .SetSettings), ("Stop", .Stop),
    ("Restart", .Restart), ("GetCharacteristics", .GetCharacteristics), ("NewWebTab", .NewWebTab),
    ("NewVncTab", .NewVncTab), ("NewShortcut", .NewShortcut), ("NavigateTo", .NavigateTo),
    ("BlinkTab", .BlinkTab), ("ActivateTab", .ActivateTab), ("KillTab", .KillTab),
    ("KillShortcut", .KillShortcut), ("IAmAlive", .IAmAlive), ("GetTabMap", .GetTabMap),
    ("GetShortcuts", .GetShortcuts), ("CaptureScreenshot", .CaptureScreenshot)]

/-- `convertStringToMadtRequest`. -/
def convertStringToMadtRequest (str : String) : RequestCode := (mapCmd.lookup str).getD .Unknown

/-- `convertGuiResultToMadt`. -/
def convertGuiResultToMadt : Gui.ResultCode → ReturnCode
  | .OK => .MTSRC_OK
  | .EXEC_ERROR => .MTSRC_EXEC_ERROR
  | .TAB_NOT_FOUND => .MTSRC_INVALID_TAB

/-! ### State -/

/-- `Server::ControlNonce`. -/
structure ControlNonce where
  nonce : String
  expiresAt : Time
  used : Bool
  deriving DecidableEq

/-- `Server`; `dnsSdTxt` is the TXT record of the advertiser, if there is one. -/
structure Server where
  runtimeConfig : RuntimeConfig
  settingsState : SettingsState
  dnsSdTxt : Option (List (String × String))
  tabLeases : StdMap String (Option Time)
  shortcutLeases : StdMap String (Option Time)
  controlNonces : StdMap String ControlNonce
  connectionTabs : StdMap Conn (StdSet String)
  extraTabId : String

namespace Server

/-- `rememberOwnedTab`; a `bufferevent*` that is in use is not null. -/
def rememberOwnedTab (bev : Conn) (tabId : String) (s : Server) : Server :=
  if tabId = "" then s
  else
    { s with
      tabLeases := s.tabLeases.insertIfNew tabId none
      connectionTabs :=
        if s.runtimeConfig.tabLifetimeByConnection then
          s.connectionTabs.insert bev ((s.connectionTabs[bev]?.getD ∅).insert tabId)
        else s.connectionTabs }

/-- One round of the loop of `forgetOwnedTab`. -/
def forgetFrom (tabId : String) (tabs : StdMap Conn (StdSet String)) (bev : Conn) :
    StdMap Conn (StdSet String) :=
  match tabs[bev]? with
  | none => tabs
  | some owned =>
    if (owned.erase tabId).isEmpty then tabs.erase bev else tabs.insert bev (owned.erase tabId)

/-- `forgetOwnedTab`. -/
def forgetOwnedTab (tabId : String) (s : Server) : Server :=
  if tabId = "" then s
  else
    { s with
      tabLeases := s.tabLeases.erase tabId
      extraTabId := if s.extraTabId = tabId then "" else s.extraTabId
      connectionTabs := s.connectionTabs.keys.foldl (forgetFrom tabId) s.connectionTabs }

/-- `hasTab`. -/
def hasTab (s : Server) (tabId : String) : Bool := tabId ∈ s.tabLeases

/-- `isExtraTab`. -/
def isExtraTab (s : Server) (tabId : String) : Bool := tabId ≠ "" ∧ tabId = s.extraTabId

/-- `currentActiveModeDnsSdValue`: `std::tolower` changes ASCII letters only. -/
def currentActiveModeDnsSdValue (s : Server) : String :=
  String.ofList (s.settingsState.activeMode.toList.map Char.toLower)

/-- The TXT record that `start` and `handleSetSettings` set. -/
def dnsSdRecord (softwareVersion timestamp : String) (s : Server) : List (String × String) :=
  [("txtvers", toString TXT_VERSION), ("version", SPEC_VERSION),
    ("release", s.runtimeConfig.dnsSdRelease), ("swvers", softwareVersion),
    ("manufacturer", s.runtimeConfig.dnsSdManufacturer), ("atdatetime", timestamp),
    ("interval", toString s.runtimeConfig.dnsSdIntervalMinutes),
    ("activemode", s.currentActiveModeDnsSdValue)]

/-- `start`: the state in which the server begins to listen. -/
def start (softwareVersion timestamp : String) (runtimeConfig : RuntimeConfig) : Server :=
  let s : Server :=
    { runtimeConfig := runtimeConfig, settingsState := runtimeConfig.settings, dnsSdTxt := none
      tabLeases := ∅, shortcutLeases := ∅, controlNonces := ∅, connectionTabs := ∅, extraTabId := "" }
  { s with
    dnsSdTxt := if runtimeConfig.dnsSdEnabled then some (s.dnsSdRecord softwareVersion timestamp)
      else none }

/-- What `handleSetSettings` does once the GUI has applied the settings. -/
def storeSettings (softwareVersion timestamp : String) (updatedSettings : SettingsState)
    (s : Server) : Server :=
  let s := { s with settingsState := updatedSettings }
  { s with dnsSdTxt := s.dnsSdTxt.map fun _ => s.dnsSdRecord softwareVersion timestamp }

/-- `resolveSoundFile`. -/
def resolveSoundFile (s : Server) (soundId : String) : String :=
  s.runtimeConfig.soundFiles[soundId]?.getD ""

end Server

/-- What the handlers act on. -/
structure World (G : Type) where
  server : Server
  gui : G
  /-- The responses written so far, with their connections. -/
  sent : List (Conn × Json)
  /-- `Process::stop` was called. -/
  stopped : Bool

/-- The world with one more response. -/
def World.reply {G : Type} (w : World G) (bev : Conn) (json : Json) : World G :=
  { w with sent := w.sent ++ [(bev, json)] }

/-- A member function of the server: it acts on the world, and may be left by a fault. -/
abbrev Handler (G : Type) := ExceptT Fault (StateM (World G))

namespace Handler

variable {I G : Type}

/-- An expression that may fault but has no side effect. -/
def eval {α : Type} (x : Except Fault α) : Handler G α := ExceptT.mk (pure x)

def server : Handler G Server := do return (← get).server

def modifyServer (f : Server → Server) : Handler G Unit :=
  modify fun w => { w with server := f w.server }

/-- `sendResponse`. -/
def sendResponse (bev : Conn) (json : Json) : Handler G Unit :=
  modify fun w => w.reply bev json

/-- A call of the GUI and the wait for its response. -/
def call (P : Platform I G) (i : Input I) (c : Gui.Call) : Handler G (Option Gui.CmdResponse) :=
  ExceptT.mk fun w =>
    match P.gui.call i.gui c w.gui with
    | none => (.error .unanswered, w)
    | some (gResp, g) => (.ok gResp, { w with gui := g })

end Handler

namespace Server

open Handler

variable {I G : Type} (P : Platform I G) (i : Input I)

/-! ### Reading the request -/

/-- `request.contains(key) && test(request[key])`. -/
def guarded (request : Json) (key : String) (test : Json → Bool) : Except Fault Bool :=
  if request.contains key then do
    let v ← request.index key
    pure (test v)
  else pure false

/-- `request[key].get<std::string>()`, also where the conversion is implicit. -/
def stringAt (request : Json) (key : String) : Except Fault String := do
  let v ← request.index key
  v.getString

/-- `authorizeWithPassword`. -/
def authorizeWithPassword (request : Json) (password : String) : Except Fault Bool :=
  if password = "" then pure true
  else do
    if ← guarded request "password" Json.isString then
      let given ← stringAt request "password"
      pure (given == password)
    else pure false

/-- `buildWebTabUrl`, with bit 0 for `FLAG_APPEND_ID`. -/
def buildWebTabUrl (requestedUrl tabId : String) (flags : ℤ) : String :=
  if flags % 2 = 0 then requestedUrl
  else requestedUrl ++ (if '?' ∈ requestedUrl.toList then "&" else "?") ++ "tabid=" ++ tabId

/-- `parseSoundFlags`. -/
def parseSoundFlags (request : Json) : Except Fault (Option UInt32) := do
  if ← guarded request "soundFlags" Json.isString then
    let encodedFlags ← stringAt request "soundFlags"
    let parsed := CString.strtoul 0 (CString.cstr encodedFlags)
    if parsed.outOfRange || parsed.rest ≠ [] then pure none
    else pure (some (UInt32.ofNat parsed.value))
  else pure none

/-- `isSupportedSoundAlias`. -/
def isSupportedSoundAlias (soundId : String) : Bool :=
  soundId ∈ ["SystemAsterisk", "SystemExclamation", "SystemExit", "SystemHand",
    "SystemNotification", "SystemQuestion", "SystemStart"]

/-! ### Authorization -/

/-- The message that is authenticated. -/
def authMessage (reqName nonceId nonce timestamp : String) : String :=
  reqName ++ "\n" ++ nonceId ++ "\n" ++ nonce ++ "\n" ++ timestamp

/-- The members of a decoded control token. -/
structure ControlToken where
  nonceId : String
  timestamp : String
  auth : String
  deriving DecidableEq

/-- The checks of `authorizeControlRequest` on the members of a parsed token. -/
def readControlToken (token : Json) : Except Fault (Option ControlToken) :=
  if token.isObject && token.contains "nonceId" && token.contains "timestamp" &&
      token.contains "auth" then do
    let nonceId ← token.index "nonceId"
    let timestamp ← token.index "timestamp"
    let auth ← token.index "auth"
    if nonceId.isString && timestamp.isString && auth.isString then
      pure (some {
        nonceId := ← nonceId.getString
        timestamp := ← timestamp.getString
        auth := ← auth.getString })
    else pure none
  else pure none

/-- The part of `authorizeControlRequest` that decodes the password. -/
def decodeControlToken (request : Json) : Except Fault (Option ControlToken) := do
  if ← guarded request "password" Json.isString then
    let password ← stringAt request "password"
    match P.base64Decode (utf8 password) with
    | none => pure none
    | some decodedPassword =>
      match P.parse decodedPassword with
      | none => pure none
      | some token => readControlToken token
  else pure none

/-- The part of `authorizeControlRequest` that checks a decoded token and spends its nonce. -/
def spendNonce (token : ControlToken) (reqName : String) (s : Server) : Bool × Server :=
  match s.controlNonces[token.nonceId]? with
  | none => (false, { s with controlNonces := s.controlNonces.erase token.nonceId })
  | some entry =>
    if entry.used || decide (entry.expiresAt < i.now) then
      (false, { s with controlNonces := s.controlNonces.erase token.nonceId })
    else
      let message := authMessage reqName token.nonceId entry.nonce token.timestamp
      let expectedAuth := P.computeHmacSha256 s.runtimeConfig.controlPsk message
      if expectedAuth = "" || !secureEquals expectedAuth token.auth then (false, s)
      else
        (true, { s with
          controlNonces := s.controlNonces.insert token.nonceId { entry with used := true } })

/-- `authorizeControlRequest`. -/
def authorizeControlRequest (request : Json) (reqName : String) : Handler G Bool := do
  let s ← server
  if s.runtimeConfig.controlPsk = "" then
    eval (authorizeWithPassword request s.runtimeConfig.controlPassword)
  else
    match ← eval (decodeControlToken P request) with
    | none => pure false
    | some token => do
      let s ← server
      let result := spendNonce P i token reqName s
      modifyServer fun _ => result.2
      pure result.1

/-- A new entry of `controlNonces`. -/
def issueNonce (nonce : String) (s : Server) : Server :=
  { s with
    controlNonces := s.controlNonces.insert i.uuid
      { nonce := nonce, expiresAt := i.now + seconds s.runtimeConfig.controlNonceTtlSeconds
        used := false } }

/-- `buildControlPasswordToken`: the password and the server with the nonce it issues. -/
def buildControlPasswordToken (reqName : String) (s : Server) : String × Server :=
  if s.runtimeConfig.controlPsk = "" then ("", s)
  else
    match P.generateRandomToken i.random with
    | none => ("", s)
    | some nonce =>
      let auth := P.computeHmacSha256 s.runtimeConfig.controlPsk
        (authMessage reqName i.uuid nonce i.timestamp)
      if auth = "" then ("", s)
      else
        (P.base64Encode (P.dump (.obj [("v", .int 1), ("nonceId", .str i.uuid),
          ("timestamp", .str i.timestamp), ("auth", .str auth)])), issueNonce i nonce s)

/-! ### Handlers without arguments -/

/-- `handleGetInfo`. -/
def handleGetInfo (bev : Conn) : Handler G Unit := do
  let s ← server
  sendResponse bev (response .MTSRC_OK
    [("version", .str SPEC_VERSION), ("swvers", .str P.SOFTWARE_VERSION), ("hasVNC", .int HAS_VNC),
      ("hasShortcut", .int (if s.runtimeConfig.shortcutsEnabled then HAS_SHORTCUT else 0)),
      ("hasSound", .int HAS_SOUND), ("extraInfo", .str EXTRA_INFO)])

/-- `handleGetRandom`. -/
def handleGetRandom (bev : Conn) : Handler G Unit := do
  let s ← server
  if s.runtimeConfig.controlPsk = "" then sendResponse bev (response .MTSRC_BAD_REQUEST)
  else
    match P.generateRandomToken i.random with
    | none => sendResponse bev (response .MTSRC_EXEC_ERROR)
    | some nonce => do
      modifyServer (issueNonce i nonce)
      sendResponse bev (response .MTSRC_OK
        [("nonceId", .str i.uuid), ("nonce", .str nonce),
          ("ttl", .int s.runtimeConfig.controlNonceTtlSeconds), ("algo", .str "HMAC-SHA256")])

/-- The `retCode` that follows from a call: an error if the call returned false. -/
def resultCode : Option Gui.CmdResponse → ReturnCode
  | some gResp => convertGuiResultToMadt gResp.result
  | none => .MTSRC_EXEC_ERROR

/-- `handleGetCharacteristics`. -/
def handleGetCharacteristics (bev : Conn) : Handler G Unit := do
  match ← call P i .GetCharacteristics with
  | none => sendResponse bev (response .MTSRC_EXEC_ERROR)
  | some gResp =>
    if gResp.result = .OK then do
      let s ← server
      let winWidth ← eval (gResp.payload.value (Json.getInt P.undefinedCast) "winWidth" 0)
      let winHeight ← eval (gResp.payload.value (Json.getInt P.undefinedCast) "winHeight" 0)
      sendResponse bev (response .MTSRC_OK
        [("winWidth", .int winWidth), ("winHeight", .int winHeight),
          ("iconWidth", .int s.runtimeConfig.tabBarWidth),
          ("iconHeight", .int s.runtimeConfig.tabBarHeight), ("maxTabs", .int MAX_TABS)])
    else sendResponse bev (response (convertGuiResultToMadt gResp.result))

/-- `handleGetSettings`. -/
def handleGetSettings (bev : Conn) : Handler G Unit := do
  let s ← server
  sendResponse bev (response .MTSRC_OK (settingsMembers s.settingsState))

/-! ### Handlers behind the tab map password -/

/-- `handleGetTabMap` and `handleGetShortcuts`: a call whose payload is passed on. -/
def handleQuery (bev : Conn) (request : Json) (signal : Gui.Browser.Signal)
    (members : Json → List (String × Json)) : Handler G Unit := do
  let s ← server
  if ← eval (authorizeWithPassword request s.runtimeConfig.tabMapPassword) then
    match ← call P i (.signal signal) with
    | none => sendResponse bev (response .MTSRC_EXEC_ERROR)
    | some gResp =>
      if gResp.result = .OK then sendResponse bev (response .MTSRC_OK (members gResp.payload))
      else sendResponse bev (response (convertGuiResultToMadt gResp.result))
  else sendResponse bev (response .MTSRC_BAD_REQUEST)

def handleGetTabMap (bev : Conn) (request : Json) : Handler G Unit :=
  handleQuery P i bev request .GetTabMap fun payload =>
    [("maxTabs", .int MAX_TABS), ("tabMap", payload)]

def handleGetShortcuts (bev : Conn) (request : Json) : Handler G Unit :=
  handleQuery P i bev request .GetShortcuts fun payload => [("shortcuts", payload)]

/-! ### Handlers that pass a command on -/

/-- A call whose result code is the whole response. -/
def forward (bev : Conn) (c : Gui.Call) : Handler G Unit := do
  let gResp ← call P i c
  sendResponse bev (response (resultCode gResp))

/-- `handleNavigateTo`.  Both arguments are looked up and converted, in either order. -/
def handleNavigateTo (bev : Conn) (request : Json) : Handler G Unit := do
  let (tabId, url) ← eval <|
    if P.urlFirst then do
      let url ← stringAt request "url"
      let tabId ← stringAt request "tabId"
      pure (tabId, url)
    else do
      let tabId ← stringAt request "tabId"
      let url ← stringAt request "url"
      pure (tabId, url)
  forward P i bev (.signal (.NavigateTo tabId url))

/-- `handleBlinkTab`. -/
def handleBlinkTab (bev : Conn) (request : Json) : Handler G Unit := do
  let tabId ← eval (stringAt request "tabId")
  forward P i bev (.signal (.BlinkTab tabId))

/-- `handleActivateTab`. -/
def handleActivateTab (bev : Conn) (request : Json) : Handler G Unit := do
  let tabId ← eval (stringAt request "tabId")
  forward P i bev (.signal (.ActivateTab tabId))

/-- `handlePlaySound`. -/
def handlePlaySound (bev : Conn) (request : Json) : Handler G Unit := do
  if ← eval (guarded request "soundId" Json.isString) then
    match ← eval (parseSoundFlags request) with
    | none => sendResponse bev (response .MTSRC_BAD_REQUEST)
    | some soundFlags =>
      if soundFlags &&& ~~~SUPPORTED_SOUND_FLAGS ≠ 0 then
        sendResponse bev (response .MTSRC_BAD_REQUEST)
      else do
        let soundId ← eval (stringAt request "soundId")
        if soundFlags &&& SOUNDFLAG_ALIAS = 0 then sendResponse bev (response .MTSRC_BAD_REQUEST)
        else if !isSupportedSoundAlias soundId && soundFlags &&& SOUNDFLAG_NODEFAULT ≠ 0 then
          sendResponse bev (response .MTSRC_BAD_REQUEST)
        else do
          let soundId := if isSupportedSoundAlias soundId then soundId else "SystemNotification"
          let s ← server
          forward P i bev (.PlaySound soundId soundFlags.toNat (s.resolveSoundFile soundId)
            s.runtimeConfig.soundPlayerCommand)
  else sendResponse bev (response .MTSRC_BAD_REQUEST)

/-- `handleSetSettings`. -/
def handleSetSettings (bev : Conn) (request : Json) : Handler G Unit := do
  match ← eval (isValidSettingsPatch P.undefinedCast request) with
  | some _ => sendResponse bev (response .MTSRC_BAD_REQUEST)
  | none => do
    let s ← server
    let updatedSettings ← eval (mergeSettings P.undefinedCast s.settingsState request)
    match ← call P i (.ApplySettings updatedSettings) with
    | none => sendResponse bev (response .MTSRC_EXEC_ERROR)
    | some gResp => do
      if convertGuiResultToMadt gResp.result = .MTSRC_OK then
        modifyServer (storeSettings P.SOFTWARE_VERSION i.timestamp updatedSettings)
      sendResponse bev (response (convertGuiResultToMadt gResp.result))

/-! ### Tabs and shortcuts -/

/-- `killTabInternal`. -/
def killTabInternal (tabId : String) (forceDestroy : Bool) : Handler G ReturnCode := do
  match ← call P i (.signal (.KillTab tabId forceDestroy)) with
  | none => pure .MTSRC_EXEC_ERROR
  | some gResp => do
    if gResp.result = .OK ∧ forceDestroy then modifyServer (forgetOwnedTab tabId)
    pure (convertGuiResultToMadt gResp.result)

/-- `handleNewWebTab`. -/
def handleNewWebTab (bev : Conn) (request : Json) : Handler G Unit := do
  let uuid := i.uuid
  let iconUrl ← eval (request.value Json.getString "iconUrl" "")
  let preferredPos ← eval (request.value (Json.getInt P.undefinedCast) "preferredPos" (-1))
  let flags ← eval (request.value (Json.getInt P.undefinedCast) "flags" 0)
  let requestedUrl ← eval (stringAt request "url")
  let url := buildWebTabUrl requestedUrl uuid flags
  let gResp ← call P i (.signal (.NewWebTab url iconUrl preferredPos flags uuid))
  if resultCode gResp = .MTSRC_OK then do
    modifyServer (rememberOwnedTab bev uuid)
    if preferredPos = POS_EXTRA then modifyServer fun s => { s with extraTabId := uuid }
    sendResponse bev (response .MTSRC_OK [("tabId", .str uuid)])
  else sendResponse bev (response (resultCode gResp))

/-- `handleNewShortcut`. -/
def handleNewShortcut (bev : Conn) (request : Json) : Handler G Unit := do
  let shortcutId := i.uuid
  let iconUrl ← eval (request.value Json.getString "iconUrl" "")
  let preferredPos ← eval (request.value (Json.getInt P.undefinedCast) "preferredPos" (-1))
  let flags ← eval (request.value (Json.getInt P.undefinedCast) "flags" 0)
  let url ← eval (stringAt request "url")
  let gResp ← call P i (.signal (.NewShortcut url iconUrl preferredPos flags shortcutId))
  if resultCode gResp = .MTSRC_OK then do
    modifyServer fun s => { s with shortcutLeases := s.shortcutLeases.insertIfNew shortcutId none }
    sendResponse bev (response .MTSRC_OK [("shortcutId", .str shortcutId)])
  else sendResponse bev (response (resultCode gResp))

/-- `handleKillTab`: the extra tab is only hidden. -/
def handleKillTab (bev : Conn) (request : Json) : Handler G Unit := do
  let tabId ← eval (stringAt request "tabId")
  let s ← server
  let extraTab := s.isExtraTab tabId
  let code ← killTabInternal P i tabId (!extraTab)
  sendResponse bev (response code)

/-- `handleKillShortcut`. -/
def handleKillShortcut (bev : Conn) (request : Json) : Handler G Unit := do
  let shortcutId ← eval (stringAt request "shortcutId")
  match ← call P i (.signal (.KillShortcut shortcutId)) with
  | none => sendResponse bev (response .MTSRC_EXEC_ERROR)
  | some gResp => do
    if gResp.result = .OK then do
      let erased ← eval (stringAt request "shortcutId")
      modifyServer fun s => { s with shortcutLeases := s.shortcutLeases.erase erased }
    sendResponse bev (response (convertGuiResultToMadt gResp.result))

/-- `handleIAmAlive`. -/
def handleIAmAlive (bev : Conn) (request : Json) : Handler G Unit := do
  if ← eval (guarded request "TTL" Json.isNumberInteger) then
    let hasTabId ← eval (guarded request "tabId" Json.isString)
    let hasShortcutId ← eval (guarded request "shortcutId" Json.isString)
    if hasTabId = hasShortcutId then sendResponse bev (response .MTSRC_BAD_REQUEST)
    else do
      let ttl ← eval (do (← request.index "TTL").getInt P.undefinedCast)
      if ttl < 0 then sendResponse bev (response .MTSRC_BAD_REQUEST)
      else if hasTabId then do
        let tabId ← eval (stringAt request "tabId")
        let s ← server
        if !s.hasTab tabId then sendResponse bev (response .MTSRC_INVALID_TAB)
        else if ttl = 0 then do
          let code ← killTabInternal P i tabId true
          sendResponse bev (response code)
        else do
          modifyServer fun s =>
            { s with tabLeases := s.tabLeases.insert tabId (some (i.now + seconds ttl)) }
          sendResponse bev (response .MTSRC_OK)
      else do
        let shortcutId ← eval (stringAt request "shortcutId")
        let s ← server
        if shortcutId ∉ s.shortcutLeases then sendResponse bev (response .MTSRC_INVALID_TAB)
        else if ttl = 0 then handleKillShortcut P i bev (.obj [("shortcutId", .str shortcutId)])
        else do
          modifyServer fun s =>
            { s with shortcutLeases := s.shortcutLeases.insert shortcutId (some (i.now + seconds ttl)) }
          sendResponse bev (response .MTSRC_OK)
  else sendResponse bev (response .MTSRC_BAD_REQUEST)

/-! ### Control requests -/

/-- `Process::stop` and `Gui::requestExit`. -/
def exit (exitCode : ℤ) : Handler G Unit :=
  modify fun w => { w with stopped := true, gui := P.gui.requestExit exitCode w.gui }

/-- `handleStop` and `handleRestart`. -/
def handleExit (bev : Conn) (request : Json) (reqName : String) (exitCode : ℤ) : Handler G Unit := do
  if ← authorizeControlRequest P i request reqName then
    sendResponse bev (response .MTSRC_OK)
    exit P exitCode
  else sendResponse bev (response .MTSRC_BAD_REQUEST)

def handleStop (bev : Conn) (request : Json) : Handler G Unit := handleExit P i bev request "Stop" 0

def handleRestart (bev : Conn) (request : Json) : Handler G Unit :=
  handleExit P i bev request "Restart" 1

/-- `handleCaptureScreenshot`: the request is authorized before its file name is looked at. -/
def handleCaptureScreenshot (bev : Conn) (request : Json) : Handler G Unit := do
  if ← authorizeControlRequest P i request "CaptureScreenshot" then
    if ← eval (guarded request "fileName" Json.isString) then
      let fileName ← eval (stringAt request "fileName")
      if fileName = "" then sendResponse bev (response .MTSRC_BAD_REQUEST)
      else
        match ← call P i (.CaptureScreenshot fileName) with
        | none => sendResponse bev (response .MTSRC_EXEC_ERROR)
        | some gResp =>
          if gResp.result = .OK then do
            let savedName ← eval (gResp.payload.value Json.getString "fileName" "")
            let width ← eval (gResp.payload.value (Json.getInt P.undefinedCast) "width" 0)
            let height ← eval (gResp.payload.value (Json.getInt P.undefinedCast) "height" 0)
            sendResponse bev (response .MTSRC_OK
              [("fileName", .str savedName), ("width", .int width), ("height", .int height)])
          else sendResponse bev (response (convertGuiResultToMadt gResp.result))
    else sendResponse bev (response .MTSRC_BAD_REQUEST)
  else sendResponse bev (response .MTSRC_BAD_REQUEST)

/-! ### Dispatch -/

/-- The body of the `try` block of `Server::request`. -/
def dispatch (bev : Conn) (requestText : Bytes) : Handler G Unit := do
  let request ← eval (match P.parse requestText with
    | some request => .ok request
    | none => .error .exception)
  let reqName ← eval (stringAt request "req")
  match convertStringToMadtRequest reqName with
  | .GetRandom => handleGetRandom P i bev
  | .GetInfo => handleGetInfo P bev
  | .GetSettings => handleGetSettings bev
  | .PlaySound => handlePlaySound P i bev request
  | .SetSettings => handleSetSettings P i bev request
  | .GetCharacteristics => handleGetCharacteristics P i bev
  | .GetTabMap => handleGetTabMap P i bev request
  | .GetShortcuts => handleGetShortcuts P i bev request
  | .NavigateTo => handleNavigateTo P i bev request
  | .IAmAlive => handleIAmAlive P i bev request
  | .Stop => handleStop P i bev request
  | .Restart => handleRestart P i bev request
  | .NewWebTab => handleNewWebTab P i bev request
  | .NewShortcut => handleNewShortcut P i bev request
  | .ActivateTab => handleActivateTab P i bev request
  | .KillTab => handleKillTab P i bev request
  | .KillShortcut => handleKillShortcut P i bev request
  | .CaptureScreenshot => handleCaptureScreenshot P i bev request
  | .BlinkTab => handleBlinkTab P i bev request
  | .NewVncTab | .Unknown => sendResponse bev (response .MTSRC_BAD_REQUEST)

/-- One round of the loop of `Server::request`: the `try` block and its `catch (...)`. -/
def processFrame (bev : Conn) (requestText : Bytes) : Handler G Unit :=
  tryCatch (dispatch P i bev requestText) fun fault =>
    match fault with
    | .exception => sendResponse bev (response .MTSRC_BAD_REQUEST)
    | fault => throw fault

/-! ### Closed connections and the lease timer -/

/-- A `Gui::KillTab` or `Gui::KillShortcut` that nobody waits for. -/
def post (s : Gui.Browser.Signal) (w : World G) : World G := { w with gui := P.gui.post s w.gui }

/-- The kill of a tab whose lease or connection has ended. -/
def dropTab (w : World G) (tabId : String) : World G :=
  let w := post P (.KillTab tabId true) w
  { w with server := w.server.forgetOwnedTab tabId }

/-- The kill of a shortcut whose lease has ended. -/
def dropShortcut (w : World G) (shortcutId : String) : World G :=
  let w := post P (.KillShortcut shortcutId) w
  { w with server := { w.server with shortcutLeases := w.server.shortcutLeases.erase shortcutId } }

/-- `eraseOwnedTabs`. -/
def eraseOwnedTabs (bev : Conn) (w : World G) : World G :=
  if !w.server.runtimeConfig.tabLifetimeByConnection then w
  else
    match w.server.connectionTabs[bev]? with
    | none => w
    | some ownedTabs => (ownedTabs.toList.filter (· ≠ "")).foldl (dropTab P) w

/-- `eraseConnection`, the buffer of the connection aside. -/
def eraseConnection (bev : Conn) (w : World G) : World G :=
  { w with server := { w.server with connectionTabs := w.server.connectionTabs.erase bev } }

/-- `eventcb`. -/
def closeConnection (bev : Conn) (w : World G) : World G :=
  eraseConnection bev (eraseOwnedTabs P bev w)

/-- The ids of the leases that have ended. -/
def expired (now : Time) (leases : StdMap String (Option Time)) : List String :=
  (leases.toList.filter fun entry => entry.2.any fun deadline => deadline ≤ now).map Prod.fst

/-- The loop of `pruneExpiredTabs` over the nonces. -/
def pruneNonces (now : Time) (nonces : StdMap String ControlNonce) : StdMap String ControlNonce :=
  nonces.toList.foldl
    (fun kept entry =>
      if entry.2.used || decide (entry.2.expiresAt ≤ now) then kept.erase entry.1 else kept) nonces

/-- `pruneExpiredTabs`. -/
def pruneExpiredTabs (now : Time) (w : World G) : World G :=
  let w := (expired now w.server.tabLeases).foldl (dropTab P) w
  let w := (expired now w.server.shortcutLeases).foldl (dropShortcut P) w
  { w with server := { w.server with controlNonces := pruneNonces now w.server.controlNonces } }

end Server

/-! ### A chunk of a connection -/

/-- The whole server: the buffers of its connections, and the rest. -/
structure Service (G : Type) where
  buffers : Framing.Buffers
  world : World G

namespace Service

variable {I G : Type} (P : Platform I G)

/-- The next text of a chunk: the surroundings contribute `inputs k` to the `k`-th one. -/
def processNext (inputs : ℕ → Input I) (bev : Conn) (requestText : Bytes) :
    StateT ℕ (Handler G) Unit := do
  let k ← get
  set (k + 1)
  Server.processFrame P (inputs k) bev requestText

/-- `Server::request`.  There is no service after a fault that nobody catches. -/
def request (inputs : ℕ → Input I) (bev : Conn) (data : Bytes) (s : Service G) :
    Except Fault (Service G) :=
  let buffer := s.buffers.of bev ++ data
  let loop := Framing.requestLoop (processNext P inputs bev) (buffer.length + 1) buffer
  match (loop.run 0).run s.world with
  | (.ok (rest, _), w) => .ok { buffers := s.buffers.insert bev rest, world := w }
  | (.error fault, _) => .error fault

/-- `eventcb` on end of file or an error. -/
def close (bev : Conn) (s : Service G) : Service G where
  buffers := s.buffers.eraseConnection bev
  world := Server.closeConnection P bev s.world

end Service

end OpenMadt
