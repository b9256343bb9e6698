import OpenMadt.Requests

/-!
# The handlers carry out the plans

`processFrame_eq`: for every text, every state and all surroundings, the loop body of
`Server::request` does what `serve` says — decode the text, and carry out the plan.

A handler is stepped through under the `try` block, one rule for each of its actions (`under_eval`,
`under_ask`, ...); each handler then needs one short lemma.
-/

namespace OpenMadt.Server

open Handler

variable {I G : Type} (P : Platform I G) (i : Input I)

/-- What an action makes of a world, unless an uncaught fault ends it. -/
def outcome (h : Handler G Unit) (w : World G) : Except Fault (World G) :=
  match h.run w with
  | (.ok _, w') => .ok w'
  | (.error fault, _) => .error fault

/-- What an action makes of a world under the `try` block of `Server::request`. -/
def under (bev : Conn) (w : World G) (h : Handler G Unit) : Except Fault (World G) :=
  match h.run w with
  | (.ok _, w') => .ok w'
  | (.error .exception, w') => .ok (w'.reply bev (response .MTSRC_BAD_REQUEST))
  | (.error fault, _) => .error fault

/-- Carrying out a plan. -/
def execute (bev : Conn) (w : World G) (p : Plan) : Except Fault (World G) :=
  match p.run P i bev w with
  | some w' => .ok w'
  | none => .error .unanswered

/-- Carrying out the plan for a decoded request. -/
def serve (bev : Conn) (w : World G) : Except Fault Request → Except Fault (World G)
  | .error fault => .error fault
  | .ok request => execute P i bev w (plan P i bev w.server request)

/-! ### The rules of the `try` block -/

section Rules

variable {α : Type} (bev : Conn) (w : World G)

theorem outcome_processFrame (requestText : Bytes) :
    outcome (processFrame P i bev requestText) w = under bev w (dispatch P i bev requestText) := by
  simp only [outcome, under, processFrame, tryCatch, tryCatchThe, MonadExceptOf.tryCatch,
    ExceptT.tryCatch, ExceptT.run, ExceptT.mk, bind, StateT.bind]
  rcases dispatch P i bev requestText w with ⟨(_ | _ | _) | _, w'⟩ <;> rfl

theorem run_bind {β : Type} (h : Handler G α) (f : α → Handler G β) :
    (h >>= f).run w = match h.run w with
      | (.ok a, w') => (f a).run w'
      | (.error fault, w') => (.error fault, w') := by
  show (h >>= f) w = match h w with
    | (.ok a, w') => (f a).run w'
    | (.error fault, w') => (.error fault, w')
  simp only [bind, ExceptT.bind, ExceptT.mk, StateT.bind]
  rcases h w with ⟨_ | _, w'⟩ <;> rfl

theorem under_bind (h : Handler G α) (f : α → Handler G Unit) :
    under bev w (h >>= f) = match h.run w with
      | (.ok a, w') => under bev w' (f a)
      | (.error .exception, w') => .ok (w'.reply bev (response .MTSRC_BAD_REQUEST))
      | (.error fault, _) => .error fault := by
  unfold under
  rw [run_bind]
  rcases h.run w with ⟨(_ | _ | _) | _, w'⟩ <;> rfl

theorem under_eval (x : Except Fault α) (f : α → Handler G Unit) :
    under bev w (eval x >>= f) = match x with
      | .ok a => under bev w (f a)
      | .error .exception => .ok (w.reply bev (response .MTSRC_BAD_REQUEST))
      | .error fault => .error fault := by
  rcases x with (_ | _ | _) | _ <;> rfl

theorem under_eval_bind {β : Type} (x : Except Fault β) (g : β → Except Fault α)
    (f : α → Handler G Unit) :
    under bev w (eval (x >>= g) >>= f) = under bev w (eval x >>= fun b => eval (g b) >>= f) := by
  rcases x with (_ | _ | _) | _ <;> rfl

theorem under_eval_ok (a : α) (f : α → Handler G Unit) :
    under bev w (eval (.ok a) >>= f) = under bev w (f a) := rfl

theorem under_server (f : Server → Handler G Unit) :
    under bev w (server >>= f) = under bev w (f w.server) := rfl

/-- A question leaves nothing of the server's old state. -/
theorem execute_ask_server (s : Server) (c : Gui.Call)
    (k : Option Gui.CmdResponse → Server × Json) :
    execute P i bev { w with server := s } (.ask c k) = execute P i bev w (.ask c k) := rfl

/-- A call carries out a question if what follows it does so for every response. -/
theorem under_ask {c : Gui.Call} {f : Option Gui.CmdResponse → Handler G Unit}
    {k : Option Gui.CmdResponse → Server × Json}
    (h : ∀ gResp g, under bev { w with gui := g } (f gResp)
      = .ok ({ w with server := (k gResp).1, gui := g }.reply bev (k gResp).2)) :
    under bev w (call P i c >>= f) = execute P i bev w (.ask c k) := by
  rw [under_bind, execute, Plan.run]
  cases hc : P.gui.call i.gui c w.gui with
  | none =>
    have hrun : (call P i c).run w = (.error .unanswered, w) := by
      simp only [call, ExceptT.run, ExceptT.mk, hc]
    rw [hrun]
    rfl
  | some r =>
    have hrun : (call P i c).run w = (.ok r.1, { w with gui := r.2 }) := by
      simp only [call, ExceptT.run, ExceptT.mk, hc]
    rw [hrun]
    exact h r.1 r.2

/-- Reading a value carries out an attempt if what follows does so for every value. -/
theorem under_attempt {x : Except Fault α} {f : α → Handler G Unit} {k : α → Except Fault Request}
    (h : ∀ a, x = .ok a → under bev w (f a) = serve P i bev w (k a)) :
    under bev w (eval x >>= f) = serve P i bev w (attempt x k) := by
  rw [under_eval]
  rcases x with (_ | _ | _) | a
  · rfl
  · rfl
  · rfl
  · exact h a rfl

end Rules

/-! ### Guarded reads -/

section Reads

variable {request : Json} {key : String}

theorem guarded_eq (test : Json → Bool) :
    guarded request key test = .ok ((request.find? key).any test) := by
  unfold guarded Json.contains
  cases h : request.find? key with
  | none => rfl
  | some v =>
    simp only [Option.isSome_some, if_true, Json.index_of_find? h]
    rfl

/-- Behind the guard, the string is there. -/
theorem guarded_isString_eq :
    guarded request key Json.isString = .ok (stringMember request key).isSome := by
  rw [guarded_eq, stringMember]
  cases request.find? key with
  | none => rfl
  | some v => cases v <;> rfl

theorem stringAt_of_member {s : String} (h : stringMember request key = some s) :
    stringAt request key = .ok s := by
  obtain ⟨v, hv, hs⟩ := Option.bind_eq_some_iff.mp h
  cases v with
  | str t =>
    rw [stringAt, Json.index_of_find? hv]
    exact congrArg Except.ok (Option.some.inj hs)
  | _ => simp [asString] at hs

theorem authorizeWithPassword_eq (password : String) :
    authorizeWithPassword request password
      = .ok (opens (stringMember request "password") password) := by
  unfold authorizeWithPassword opens
  by_cases hempty : password = ""
  · simp [hempty, pure, Except.pure]
  · rw [if_neg hempty, guarded_isString_eq, ok_bind]
    cases h : stringMember request "password" with
    | none => simp [hempty, pure, Except.pure]
    | some given =>
      simp only [Option.isSome_some, if_true, stringAt_of_member h, ok_bind, hempty, decide_false,
        Bool.false_or, Option.some.injEq]
      rfl

theorem parseSoundFlags_eq : parseSoundFlags request = .ok (soundFlagsOf request) := by
  unfold parseSoundFlags soundFlagsOf
  rw [guarded_isString_eq, ok_bind]
  cases h : stringMember request "soundFlags" with
  | none => rfl
  | some encodedFlags =>
    simp only [Option.isSome_some, if_true, stringAt_of_member h, ok_bind, Option.bind_some]
    split <;> rfl

end Reads

/-! ### Control tokens -/

/-- A token is read if its three members are strings. -/
theorem readControlToken_eq (token : Json) :
    readControlToken token = .ok ((stringMember token "nonceId").bind fun nonceId =>
      (stringMember token "timestamp").bind fun timestamp =>
        (stringMember token "auth").map fun auth =>
          { nonceId := nonceId, timestamp := timestamp, auth := auth }) := by
  unfold readControlToken stringMember Json.contains
  rcases Option.eq_none_or_eq_some (token.find? "nonceId") with hid | ⟨nonceId, hid⟩
  · simp [hid, pure, Except.pure]
  rcases Option.eq_none_or_eq_some (token.find? "timestamp") with hts | ⟨timestamp, hts⟩
  · simp [hts, pure, Except.pure]
  rcases Option.eq_none_or_eq_some (token.find? "auth") with hauth | ⟨auth, hauth⟩
  · simp [hauth, pure, Except.pure]
  have hobject : token.isObject = true := by
    cases token with
    | obj members => rfl
    | _ => exact nomatch hid
  simp only [hid, hts, hauth, hobject, Json.index_of_find? hid, Json.index_of_find? hts,
    Json.index_of_find? hauth, Option.isSome_some, Bool.and_self, if_true, ok_bind,
    Option.bind_some]
  cases nonceId <;> cases timestamp <;> cases auth <;> rfl

/-- The password of a request, decoded. -/
theorem decodeControlToken_eq (request : Json) :
    decodeControlToken P request = .ok ((stringMember request "password").bind (tokenOf P)) := by
  unfold decodeControlToken tokenOf
  rw [guarded_isString_eq, ok_bind]
  cases hpassword : stringMember request "password" with
  | none => rfl
  | some password =>
    simp only [Option.isSome_some, if_true, stringAt_of_member hpassword, ok_bind, Option.bind_some]
    cases P.base64Decode (utf8 password) with
    | none => rfl
    | some decodedPassword =>
      simp only [Option.bind_some]
      cases P.parse decodedPassword with
      | none => rfl
      | some token =>
        simp only [Option.bind_some]
        exact readControlToken_eq token

theorem run_authorizeControlRequest (request : Json) (reqName : String) (w : World G) :
    (authorizeControlRequest P i request reqName).run w
      = (.ok (authorize P i (stringMember request "password") reqName w.server).1,
          { w with server := (authorize P i (stringMember request "password") reqName w.server).2 })
      := by
  show (if w.server.runtimeConfig.controlPsk = "" then
    eval (authorizeWithPassword request w.server.runtimeConfig.controlPassword)
    else _ : Handler G Bool) w = _
  unfold authorize
  split
  · rw [authorizeWithPassword_eq]
    rfl
  · rw [decodeControlToken_eq]
    cases (stringMember request "password").bind (tokenOf P) with
    | none => rfl
    | some token => rfl

/-! ### One lemma for each handler -/

section Handlers

variable (bev : Conn) (w : World G) (request : Json)

theorem under_forward (c : Gui.Call) :
    under bev w (forward P i bev c) = execute P i bev w (relay w.server c) :=
  under_ask P i bev w fun _ _ => rfl

theorem under_handleGetInfo :
    under bev w (handleGetInfo P bev) = serve P i bev w (.ok .GetInfo) := rfl

theorem under_handleGetSettings :
    under bev w (handleGetSettings bev) = serve P i bev w (.ok .GetSettings) := rfl

theorem under_handleGetRandom :
    under bev w (handleGetRandom P i bev) = serve P i bev w (.ok .GetRandom) := by
  rw [handleGetRandom, under_server, serve, plan, planGetRandom]
  split
  · rfl
  · cases P.generateRandomToken i.random with
    | none => rfl
    | some nonce => rfl

theorem under_handleGetCharacteristics :
    under bev w (handleGetCharacteristics P i bev) = serve P i bev w (.ok .GetCharacteristics) := by
  refine under_ask P i bev w fun gResp g => ?_
  cases gResp with
  | none => rfl
  | some gResp =>
    dsimp only
    split
    · rw [under_server, characteristics]
      rcases Json.value_okOrThrows (Json.getInt_okOrThrows P.undefinedCast) gResp.payload
        "winWidth" 0 with ⟨winWidth, hw⟩ | hw
      · rcases Json.value_okOrThrows (Json.getInt_okOrThrows P.undefinedCast) gResp.payload
          "winHeight" 0 with ⟨winHeight, hh⟩ | hh
        · simp only [hw, hh]
          rfl
        · simp only [hw, hh]
          rfl
      · simp only [hw]
        rfl
    · rfl

theorem under_handleQuery (signal : Gui.Browser.Signal) (members : Json → List (String × Json)) :
    under bev w (handleQuery P i bev request signal members)
      = execute P i bev w
          (if opens (stringMember request "password") w.server.runtimeConfig.tabMapPassword then
            askFor w.server (.signal signal) fun gResp =>
              (w.server, response .MTSRC_OK (members gResp.payload))
          else refuse w.server) := by
  rw [handleQuery, under_server, authorizeWithPassword_eq, under_eval_ok]
  split
  · refine under_ask P i bev w fun gResp g => ?_
    cases gResp with
    | none => rfl
    | some gResp =>
      dsimp only
      split <;> rfl
  · rfl

theorem under_handleNavigateTo :
    under bev w (handleNavigateTo P i bev request)
      = serve P i bev w (decodeNavigateTo P request) := by
  unfold handleNavigateTo decodeNavigateTo
  split
  · rw [under_eval_bind]
    refine under_attempt P i bev w fun url _ => ?_
    rw [under_eval_bind]
    exact under_attempt P i bev w fun tabId _ => under_forward P i bev w _
  · rw [under_eval_bind]
    refine under_attempt P i bev w fun tabId _ => ?_
    rw [under_eval_bind]
    exact under_attempt P i bev w fun url _ => under_forward P i bev w _

theorem under_handleBlinkTab :
    under bev w (handleBlinkTab P i bev request) = serve P i bev w (decodeAs P request .BlinkTab) :=
  under_attempt P i bev w fun _ _ => under_forward P i bev w _

theorem under_handleActivateTab :
    under bev w (handleActivateTab P i bev request)
      = serve P i bev w (decodeAs P request .ActivateTab) :=
  under_attempt P i bev w fun _ _ => under_forward P i bev w _

theorem under_killTabInternal (tabId : String) (forceDestroy : Bool) :
    under bev w (killTabInternal P i tabId forceDestroy >>= fun code =>
      sendResponse bev (response code))
      = execute P i bev w (planKillTab tabId forceDestroy w.server) := by
  rw [killTabInternal, bind_assoc]
  refine under_ask P i bev w fun gResp g => ?_
  cases gResp with
  | none => rfl
  | some gResp =>
    rcases gResp with ⟨_ | _ | _, payload⟩ <;> cases forceDestroy <;> rfl

theorem under_handleKillTab :
    under bev w (handleKillTab P i bev request) = serve P i bev w (decodeAs P request .KillTab) :=
  under_attempt P i bev w fun tabId _ =>
    under_killTabInternal P i bev w tabId (!w.server.isExtraTab tabId)

theorem under_handleKillShortcut :
    under bev w (handleKillShortcut P i bev request)
      = serve P i bev w (decodeAs P request .KillShortcut) := by
  refine under_attempt P i bev w fun shortcutId hid => ?_
  refine under_ask P i bev w fun gResp g => ?_
  cases gResp with
  | none => rfl
  | some gResp =>
    rcases gResp with ⟨_ | _ | _, payload⟩
    · simp only [hid]
      rfl
    · rfl
    · rfl

theorem under_handleNewWebTab :
    under bev w (handleNewWebTab P i bev request) = serve P i bev w (decodeAs P request .NewWebTab) := by
  refine under_attempt P i bev w fun iconUrl _ => under_attempt P i bev w fun preferredPos _ =>
    under_attempt P i bev w fun flags _ => under_attempt P i bev w fun requestedUrl _ => ?_
  refine under_ask P i bev w fun gResp g => ?_
  cases gResp with
  | none => rfl
  | some gResp =>
    rcases gResp with ⟨_ | _ | _, payload⟩
    · by_cases hextra : preferredPos = POS_EXTRA <;> simp only [hextra] <;> rfl
    · rfl
    · rfl

theorem under_handleNewShortcut :
    under bev w (handleNewShortcut P i bev request)
      = serve P i bev w (decodeAs P request .NewShortcut) := by
  refine under_attempt P i bev w fun iconUrl _ => under_attempt P i bev w fun preferredPos _ =>
    under_attempt P i bev w fun flags _ => under_attempt P i bev w fun url _ => ?_
  refine under_ask P i bev w fun gResp g => ?_
  cases gResp with
  | none => rfl
  | some gResp => rcases gResp with ⟨_ | _ | _, payload⟩ <;> rfl

theorem under_handlePlaySound :
    under bev w (handlePlaySound P i bev request) = serve P i bev w (decodeAs P request .PlaySound) := by
  rw [handlePlaySound, guarded_isString_eq, under_eval_ok, decodeAs, decodePlaySound]
  cases hid : stringMember request "soundId" with
  | none => rfl
  | some soundId =>
    simp only [Option.isSome_some, if_true]
    rw [parseSoundFlags_eq, under_eval_ok]
    cases soundFlagsOf request with
    | none => rfl
    | some soundFlags =>
      dsimp only
      unfold soundFor
      split
      · rfl
      · rw [stringAt_of_member hid, under_eval_ok]
        split
        · rfl
        · by_cases halias : isSupportedSoundAlias soundId = true
          · simp only [halias, Bool.not_true, Bool.false_and, Bool.false_eq_true, if_false, if_true]
            exact under_forward P i bev w _
          · by_cases hdefault : soundFlags &&& SOUNDFLAG_NODEFAULT ≠ 0
            · simp [halias, hdefault]
              rfl
            · simp [halias, hdefault]
              exact under_forward P i bev w _

theorem under_handleSetSettings :
    under bev w (handleSetSettings P i bev request)
      = serve P i bev w (decodeAs P request .SetSettings) := by
  rw [handleSetSettings, isValidSettingsPatch_eq, under_eval_ok, decodeAs]
  cases herror : patchError request with
  | some message => rfl
  | none =>
    dsimp only
    rw [under_server, mergeSettings_eq P.undefinedCast w.server.settingsState herror, under_eval_ok]
    refine under_ask P i bev w fun gResp g => ?_
    cases gResp with
    | none => rfl
    | some gResp => rcases gResp with ⟨_ | _ | _, payload⟩ <;> rfl

theorem under_handleExit (reqName : String) (exitCode : ℤ) :
    under bev w (handleExit P i bev request reqName exitCode)
      = execute P i bev w
          (planExit P i (stringMember request "password") reqName exitCode w.server) := by
  rw [handleExit, under_bind, run_authorizeControlRequest, planExit]
  dsimp only
  split <;> rfl

theorem under_handleCaptureScreenshot :
    under bev w (handleCaptureScreenshot P i bev request)
      = serve P i bev w (decodeAs P request .CaptureScreenshot) := by
  rw [handleCaptureScreenshot, under_bind, run_authorizeControlRequest, decodeAs, serve, plan]
  unfold planCaptureScreenshot
  dsimp only
  split
  · rw [guarded_isString_eq, under_eval_ok]
    cases hname : stringMember request "fileName" with
    | none => rfl
    | some fileName =>
      simp only [Option.isSome_some, if_true]
      rw [stringAt_of_member hname, under_eval_ok]
      by_cases hempty : fileName = ""
      · simp only [hempty, if_true]
        rfl
      · rw [if_neg hempty]
        simp only [Option.filter_some, hempty, ne_eq, not_false_eq_true, decide_true, if_true]
        refine (under_ask P i bev _ fun gResp g => ?_).trans (execute_ask_server P i bev w _ _ _)
        cases gResp with
        | none => rfl
        | some gResp =>
          dsimp only
          split
          · rw [screenshot]
            rcases Json.value_okOrThrows Json.getString_okOrThrows gResp.payload "fileName" ""
              with ⟨savedName, hn⟩ | hn
            · rcases Json.value_okOrThrows (Json.getInt_okOrThrows P.undefinedCast) gResp.payload
                "width" 0 with ⟨width, hw⟩ | hw
              · rcases Json.value_okOrThrows (Json.getInt_okOrThrows P.undefinedCast) gResp.payload
                  "height" 0 with ⟨height, hh⟩ | hh
                · simp only [hn, hw, hh]
                  rfl
                · simp only [hn, hw, hh]
                  rfl
              · simp only [hn, hw]
                rfl
            · simp only [hn]
              rfl
          · rfl
  · rfl

/-- The tail of `handleIAmAlive` for a tab. -/
theorem under_iAmAliveTab (tabId : String) (ttl : ℤ) :
    under bev w (do
      let s ← server
      if !s.hasTab tabId then sendResponse bev (response .MTSRC_INVALID_TAB)
      else if ttl = 0 then do
        let code ← killTabInternal P i tabId true
        sendResponse bev (response code)
      else do
        modifyServer fun s =>
          { s with tabLeases := s.tabLeases.insert tabId (some (i.now + seconds ttl)) }
        sendResponse bev (response .MTSRC_OK))
      = serve P i bev w (.ok (.IAmAliveTab tabId ttl)) := by
  rw [under_server, serve, plan]
  split
  · rfl
  · split
    · exact under_killTabInternal P i bev w tabId true
    · rfl

/-- The tail of `handleIAmAlive` for a shortcut. -/
theorem under_iAmAliveShortcut (shortcutId : String) (ttl : ℤ) :
    under bev w (do
      let s ← server
      if shortcutId ∉ s.shortcutLeases then sendResponse bev (response .MTSRC_INVALID_TAB)
      else if ttl = 0 then handleKillShortcut P i bev (.obj [("shortcutId", .str shortcutId)])
      else do
        modifyServer fun s =>
          { s with shortcutLeases := s.shortcutLeases.insert shortcutId (some (i.now + seconds ttl)) }
        sendResponse bev (response .MTSRC_OK))
      = serve P i bev w (.ok (.IAmAliveShortcut shortcutId ttl)) := by
  rw [under_server, serve, plan]
  split
  · rfl
  · split
    · rw [under_handleKillShortcut]
      rfl
    · rfl

theorem under_handleIAmAlive :
    under bev w (handleIAmAlive P i bev request) = serve P i bev w (decodeAs P request .IAmAlive) := by
  rw [handleIAmAlive, guarded_eq, under_eval_ok, decodeAs, decodeIAmAlive]
  rcases Option.eq_none_or_eq_some (request.find? "TTL") with hnone | ⟨v, hv⟩
  · simp only [hnone]
    rfl
  rw [hv, Option.any_some]
  cases v with
  | int n =>
    have hget : (do (← request.index "TTL").getInt P.undefinedCast : Except Fault ℤ)
        = .ok (Json.toInt32 n) := by
      rw [Json.index_of_find? hv]
      rfl
    simp only [Json.isNumberInteger, if_true, hget]
    rw [guarded_isString_eq, under_eval_ok, guarded_isString_eq, under_eval_ok]
    cases htab : stringMember request "tabId" with
    | some tabId =>
      cases hshortcut : stringMember request "shortcutId" with
      | some shortcutId => rfl
      | none =>
        simp only [Option.isSome_some, Option.isSome_none, Bool.true_eq_false, if_false]
        rw [under_eval_ok]
        split
        · rfl
        · rw [if_pos trivial, stringAt_of_member htab, under_eval_ok]
          exact under_iAmAliveTab P i bev w tabId _
    | none =>
      cases hshortcut : stringMember request "shortcutId" with
      | none => rfl
      | some shortcutId =>
        simp only [Option.isSome_some, Option.isSome_none, Bool.false_eq_true, if_false]
        rw [under_eval_ok]
        split
        · rfl
        · rw [stringAt_of_member hshortcut, under_eval_ok]
          exact under_iAmAliveShortcut P i bev w shortcutId _
  | _ => rfl

end Handlers

/-- **The refinement.**  Whatever the text, the state and the surroundings: the loop body of
`Server::request` decodes the text and carries out the plan for it. -/
theorem processFrame_eq (bev : Conn) (w : World G) (requestText : Bytes) :
    outcome (processFrame P i bev requestText) w = serve P i bev w (decode P requestText) := by
  rw [outcome_processFrame, dispatch, decode]
  cases P.parse requestText with
  | none => rfl
  | some request =>
    rw [under_eval_ok]
    refine under_attempt P i bev w fun reqName _ => ?_
    cases convertStringToMadtRequest reqName with
    | GetRandom => exact under_handleGetRandom P i bev w
    | GetInfo => exact under_handleGetInfo P i bev w
    | GetSettings => exact under_handleGetSettings P i bev w
    | PlaySound => exact under_handlePlaySound P i bev w request
    | SetSettings => exact under_handleSetSettings P i bev w request
    | GetCharacteristics => exact under_handleGetCharacteristics P i bev w
    | GetTabMap => exact under_handleQuery P i bev w request _ _
    | GetShortcuts => exact under_handleQuery P i bev w request _ _
    | NavigateTo => exact under_handleNavigateTo P i bev w request
    | IAmAlive => exact under_handleIAmAlive P i bev w request
    | Stop => exact under_handleExit P i bev w request "Stop" 0
    | Restart => exact under_handleExit P i bev w request "Restart" 1
    | NewWebTab => exact under_handleNewWebTab P i bev w request
    | NewShortcut => exact under_handleNewShortcut P i bev w request
    | ActivateTab => exact under_handleActivateTab P i bev w request
    | KillTab => exact under_handleKillTab P i bev w request
    | KillShortcut => exact under_handleKillShortcut P i bev w request
    | CaptureScreenshot => exact under_handleCaptureScreenshot P i bev w request
    | BlinkTab => exact under_handleBlinkTab P i bev w request
    | NewVncTab => rfl
    | Unknown => rfl

end OpenMadt.Server
