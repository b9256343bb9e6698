import OpenMadt.Effects

/-!
# The secrets of the configuration

Two passwords and a key are kept from the clients.  The answers of the server depend on them, since a
request may be refused; but on nothing else about them.

* `Secrets` — the three; `withSecrets` — the same configuration, server or world with other ones.
* `verdict?` — the one thing about a request that is decided by a secret.
* `plan_withSecrets`, `step_withSecrets` — with other secrets and the same verdict, the same happens.
* `indifferent_of_run` — the same for whole runs.
-/

namespace OpenMadt

/-- The members of the configuration that no client is to learn. -/
structure Secrets where
  tabMapPassword : String
  controlPassword : String
  controlPsk : String

/-- The configuration with other secrets. -/
def RuntimeConfig.withSecrets (k : Secrets) (config : RuntimeConfig) : RuntimeConfig :=
  { config with
    tabMapPassword := k.tabMapPassword
    controlPassword := k.controlPassword
    controlPsk := k.controlPsk }

def Server.withSecrets (k : Secrets) (s : Server) : Server :=
  { s with runtimeConfig := s.runtimeConfig.withSecrets k }

/-- Only the server changes: the GUI has loaded a configuration of its own. -/
def World.withSecrets {G : Type} (k : Secrets) (w : World G) : World G :=
  { w with server := w.server.withSecrets k }

namespace Server

open Run

variable {I G : Type} {P : Platform I G} {i : Input I} {bev : Conn} {k : Secrets} {s : Server}
  {w w' : World G} {moves : G → G → Prop}

/-! ### The verdict -/

/-- Whether the request passes the check that a secret decides, if there is one. -/
def verdict? (P : Platform I G) (i : Input I) (s : Server) (request : Request) : Option Bool :=
  match request with
  | .GetTabMap password | .GetShortcuts password => some (opens password s.runtimeConfig.tabMapPassword)
  | _ => (control? request).map fun control => (authorize P i control.1 control.2 s).1

/-- Both have a key, or neither has. -/
def SameScheme (k : Secrets) (config : RuntimeConfig) : Prop := config.controlPsk = "" ↔ k.controlPsk = ""

/-- **The nonces** after a check with the same verdict: the one of the token is spent, dropped or left alone,
whatever the key. -/
theorem spendNonce_withSecrets {token : ControlToken} {reqName : String}
    (hverdict : (spendNonce P i token reqName (s.withSecrets k)).1 = (spendNonce P i token reqName s).1) :
    (spendNonce P i token reqName (s.withSecrets k)).2
      = (spendNonce P i token reqName s).2.withSecrets k := by
  unfold spendNonce at hverdict ⊢
  have hnonces : (s.withSecrets k).controlNonces = s.controlNonces := rfl
  rw [hnonces] at hverdict ⊢
  cases hentry : s.controlNonces[token.nonceId]? with
  | none => rfl
  | some entry =>
    rw [hentry] at hverdict
    dsimp only at hverdict ⊢
    cases hover : (entry.used || decide (entry.expiresAt < i.now)) with
    | true => rfl
    | false =>
      rw [hover, if_neg Bool.false_ne_true, if_neg Bool.false_ne_true] at hverdict
      rw [if_neg Bool.false_ne_true, if_neg Bool.false_ne_true]
      split at hverdict
      next hwrong =>
        rw [if_pos hwrong]
        split at hverdict
        next hwrong' => rw [if_pos hwrong']
        next => cases hverdict
      next hright =>
        rw [if_neg hright]
        split at hverdict
        next => cases hverdict
        next hright' =>
          rw [if_neg hright']
          rfl

theorem authorize_withSecrets {password : Option String} {reqName : String}
    (hscheme : SameScheme k s.runtimeConfig)
    (hverdict : (authorize P i password reqName (s.withSecrets k)).1 = (authorize P i password reqName s).1) :
    (authorize P i password reqName (s.withSecrets k)).2 = (authorize P i password reqName s).2.withSecrets k := by
  have hpsk : (s.withSecrets k).runtimeConfig.controlPsk = k.controlPsk := rfl
  unfold authorize at hverdict ⊢
  rw [hpsk] at hverdict ⊢
  by_cases hnone : s.runtimeConfig.controlPsk = ""
  · rw [if_pos hnone, if_pos (hscheme.mp hnone)]
  · rw [if_neg hnone, if_neg fun h => hnone (hscheme.mpr h)] at hverdict ⊢
    cases htoken : password.bind (tokenOf P) with
    | none => rfl
    | some token =>
      rw [htoken] at hverdict
      exact spendNonce_withSecrets hverdict

/-! ### Plans -/

/-- The same plan for a server with other secrets. -/
def Plan.withSecrets (k : Secrets) : Plan → Plan
  | .answer s json => .answer (s.withSecrets k) json
  | .stop s json exitCode => .stop (s.withSecrets k) json exitCode
  | .ask c f => .ask c fun gResp => ((f gResp).1.withSecrets k, (f gResp).2)

theorem Plan.run_withSecrets (p : Plan) (w : World G) :
    (p.withSecrets k).run P i bev (w.withSecrets k) = (p.run P i bev w).map (World.withSecrets k) := by
  cases p with
  | answer s json => rfl
  | stop s json exitCode => rfl
  | ask c f =>
    show (P.gui.call i.gui c w.gui).map _ = ((P.gui.call i.gui c w.gui).map _).map _
    rw [Option.map_map]
    rfl

theorem askFor_withSecrets {c : Gui.Call} {f f' : Gui.CmdResponse → Server × Json}
    (h : ∀ gResp, f' gResp = ((f gResp).1.withSecrets k, (f gResp).2)) :
    askFor (s.withSecrets k) c f' = (askFor s c f).withSecrets k := by
  apply congrArg (Plan.ask c)
  funext gResp
  cases gResp with
  | none => rfl
  | some gResp =>
    dsimp only
    split
    · exact h gResp
    · rfl

theorem planExit_withSecrets {password : Option String} {reqName : String} {exitCode : ℤ}
    (hscheme : SameScheme k s.runtimeConfig)
    (hverdict : (authorize P i password reqName (s.withSecrets k)).1 = (authorize P i password reqName s).1) :
    planExit P i password reqName exitCode (s.withSecrets k)
      = (planExit P i password reqName exitCode s).withSecrets k := by
  rw [planExit, planExit, authorize_withSecrets hscheme hverdict, hverdict]
  split
  · rfl
  · rfl

theorem planCaptureScreenshot_withSecrets {password fileName : Option String}
    (hscheme : SameScheme k s.runtimeConfig)
    (hverdict : (authorize P i password "CaptureScreenshot" (s.withSecrets k)).1
      = (authorize P i password "CaptureScreenshot" s).1) :
    planCaptureScreenshot P i password fileName (s.withSecrets k)
      = (planCaptureScreenshot P i password fileName s).withSecrets k := by
  unfold planCaptureScreenshot
  rw [authorize_withSecrets hscheme hverdict, hverdict]
  dsimp only
  split
  · cases fileName with
    | none => rfl
    | some fileName => exact askFor_withSecrets fun _ => rfl
  · rfl

theorem planGetRandom_withSecrets (hscheme : SameScheme k s.runtimeConfig) :
    planGetRandom P i (s.withSecrets k) = (planGetRandom P i s).withSecrets k := by
  have hpsk : (s.withSecrets k).runtimeConfig.controlPsk = k.controlPsk := rfl
  unfold planGetRandom
  rw [hpsk]
  by_cases hnone : s.runtimeConfig.controlPsk = ""
  · rw [if_pos hnone, if_pos (hscheme.mp hnone)]
    rfl
  · rw [if_neg hnone, if_neg fun h => hnone (hscheme.mpr h)]
    cases P.generateRandomToken i.random with
    | none => rfl
    | some nonce => rfl

/-- The extra tab, the leases and the owners are no secrets. -/
theorem forgetOwnedTab_withSecrets (tabId : String) (s : Server) :
    (s.withSecrets k).forgetOwnedTab tabId = (s.forgetOwnedTab tabId).withSecrets k := by
  unfold forgetOwnedTab
  split
  · rfl
  · rfl

theorem rememberOwnedTab_withSecrets (bev : Conn) (tabId : String) (s : Server) :
    (s.withSecrets k).rememberOwnedTab bev tabId = (s.rememberOwnedTab bev tabId).withSecrets k := by
  unfold rememberOwnedTab
  split
  · rfl
  · rfl

theorem planKillTab_withSecrets (tabId : String) (forceDestroy : Bool) (s : Server) :
    planKillTab tabId forceDestroy (s.withSecrets k) = (planKillTab tabId forceDestroy s).withSecrets k := by
  apply askFor_withSecrets
  intro gResp
  cases forceDestroy with
  | false => rfl
  | true => exact congrArg (fun s => (s, response .MTSRC_OK)) (forgetOwnedTab_withSecrets tabId s)

theorem planKillShortcut_withSecrets (shortcutId : String) (s : Server) :
    planKillShortcut shortcutId (s.withSecrets k) = (planKillShortcut shortcutId s).withSecrets k :=
  askFor_withSecrets fun _ => rfl

/-- **The plan** is made without the secrets, once the verdict is there. -/
theorem plan_withSecrets {request : Request} (hscheme : SameScheme k s.runtimeConfig)
    (hverdict : verdict? P i (s.withSecrets k) request = verdict? P i s request) :
    plan P i bev (s.withSecrets k) request = (plan P i bev s request).withSecrets k := by
  cases request with
  | Refused => rfl
  | GetRandom => exact planGetRandom_withSecrets hscheme
  | GetInfo => rfl
  | GetSettings => rfl
  | GetCharacteristics => exact askFor_withSecrets fun _ => rfl
  | PlaySound soundId soundFlags => rfl
  | SetSettings patch => exact askFor_withSecrets fun _ => rfl
  | Stop password => exact planExit_withSecrets hscheme (Option.some.inj hverdict)
  | Restart password => exact planExit_withSecrets hscheme (Option.some.inj hverdict)
  | CaptureScreenshot password fileName =>
    exact planCaptureScreenshot_withSecrets hscheme (Option.some.inj hverdict)
  | GetTabMap password =>
    simp only [plan]
    rw [Option.some.inj hverdict]
    split
    · exact askFor_withSecrets fun _ => rfl
    · rfl
  | GetShortcuts password =>
    simp only [plan]
    rw [Option.some.inj hverdict]
    split
    · exact askFor_withSecrets fun _ => rfl
    · rfl
  | NewWebTab requestedUrl iconUrl preferredPos flags =>
    apply askFor_withSecrets
    intro gResp
    dsimp only
    rw [rememberOwnedTab_withSecrets]
    split
    · rfl
    · rfl
  | NewShortcut url iconUrl preferredPos flags => exact askFor_withSecrets fun _ => rfl
  | NavigateTo tabId url => rfl
  | BlinkTab tabId => rfl
  | ActivateTab tabId => rfl
  | KillTab tabId => exact planKillTab_withSecrets tabId _ s
  | KillShortcut shortcutId => exact planKillShortcut_withSecrets shortcutId s
  | IAmAliveTab tabId ttl =>
    simp only [plan]
    rw [show (s.withSecrets k).hasTab tabId = s.hasTab tabId from rfl]
    split
    · rfl
    · split
      · exact planKillTab_withSecrets tabId true s
      · rfl
  | IAmAliveShortcut shortcutId ttl =>
    simp only [plan]
    rw [show (s.withSecrets k).shortcutLeases = s.shortcutLeases from rfl]
    split
    · rfl
    · split
      · exact planKillShortcut_withSecrets shortcutId s
      · rfl

/-! ### Everything else -/

theorem dropTabs_withSecrets (tabIds : List String) (w : World G) :
    tabIds.foldl (dropTab P) (w.withSecrets k) = (tabIds.foldl (dropTab P) w).withSecrets k := by
  induction tabIds generalizing w with
  | nil => rfl
  | cons tabId tabIds ih =>
    have hfirst : dropTab P (w.withSecrets k) tabId = (dropTab P w tabId).withSecrets k := by
      show { w with gui := _, server := (w.server.withSecrets k).forgetOwnedTab tabId } = _
      rw [forgetOwnedTab_withSecrets]
      rfl
    rw [List.foldl_cons, List.foldl_cons, hfirst, ih]

theorem dropShortcuts_withSecrets (shortcutIds : List String) (w : World G) :
    shortcutIds.foldl (dropShortcut P) (w.withSecrets k)
      = (shortcutIds.foldl (dropShortcut P) w).withSecrets k := by
  induction shortcutIds generalizing w with
  | nil => rfl
  | cons shortcutId shortcutIds ih => exact ih (dropShortcut P w shortcutId)

theorem closeConnection_withSecrets (bev : Conn) (w : World G) :
    closeConnection P bev (w.withSecrets k) = (closeConnection P bev w).withSecrets k := by
  have hown : eraseOwnedTabs P bev (w.withSecrets k) = (eraseOwnedTabs P bev w).withSecrets k := by
    have hconfig : (w.withSecrets k).server.runtimeConfig.tabLifetimeByConnection
        = w.server.runtimeConfig.tabLifetimeByConnection := rfl
    have htabs : (w.withSecrets k).server.connectionTabs = w.server.connectionTabs := rfl
    unfold eraseOwnedTabs
    rw [hconfig, htabs]
    split
    · rfl
    · split
      · rfl
      · exact dropTabs_withSecrets _ w
  rw [closeConnection, hown]
  rfl

theorem pruneExpiredTabs_withSecrets (now : Time) (w : World G) :
    pruneExpiredTabs P now (w.withSecrets k) = (pruneExpiredTabs P now w).withSecrets k := by
  unfold pruneExpiredTabs
  rw [show (w.withSecrets k).server.tabLeases = w.server.tabLeases from rfl, dropTabs_withSecrets]
  dsimp only
  rw [show ∀ w : World G, (w.withSecrets k).server.shortcutLeases = w.server.shortcutLeases from fun _ => rfl,
    dropShortcuts_withSecrets]
  rfl

/-! ### Runs -/

/-- With other secrets, the check of the request comes out the same. -/
def SameVerdict (P : Platform I G) (k : Secrets) (w : World G) : Event I → Prop
  | .request i _ requestText => ∀ request, decode P requestText = .ok request →
    verdict? P i (w.server.withSecrets k) request = verdict? P i w.server request
  | _ => True

/-- **The step lemma.** -/
theorem step_withSecrets {e : Event I} (hscheme : SameScheme k w.server.runtimeConfig)
    (hverdict : SameVerdict P k w e) (hstep : Step P moves w e w') :
    Step P moves (w.withSecrets k) e (w'.withSecrets k) := by
  cases hstep with
  | request hout =>
    rename_i i bev requestText
    obtain ⟨request, hdecode, hrun⟩ := decoded_of_outcome hout
    apply Step.request
    rw [processFrame_eq, hdecode]
    show execute P i bev (w.withSecrets k) (plan P i bev (w.server.withSecrets k) request) = _
    rw [plan_withSecrets hscheme (hverdict request hdecode), execute, Plan.run_withSecrets, hrun]
    rfl
  | close bev =>
    rw [← closeConnection_withSecrets]
    exact .close _ bev
  | tick now =>
    rw [← pruneExpiredTabs_withSecrets]
    exact .tick _ now
  | gui hmoves => exact .gui hmoves

/-- **Nothing else depends on the secrets.**  Take any run of the server, over any GUI, and any other secrets
with which all checks of the run would have come out the same.  Then with these secrets the same events lead
to the same answers, the same GUI and the same server, but for the secrets: whoever sees all answers
to all clients learns no more about the secrets than which requests were let through. -/
theorem indifferent_of_run {softwareVersion timestamp : String} {config : RuntimeConfig} {g : G}
    {trace : List (World G × Event I × World G)} (k : Secrets) (hscheme : SameScheme k config)
    (hrun : Steps (Traced (Step P moves)) (World.start softwareVersion timestamp config g) trace w)
    (hverdicts : ∀ entry ∈ trace, SameVerdict P k entry.1 entry.2.1) :
    ∃ u, Steps (Step P moves) (World.start softwareVersion timestamp (config.withSecrets k) g)
        (trace.map fun entry => entry.2.1) u
      ∧ u.sent = w.sent ∧ u.gui = w.gui ∧ u.stopped = w.stopped ∧ u.server = w.server.withSecrets k := by
  have hstart : World.start softwareVersion timestamp (config.withSecrets k) g
      = (World.start softwareVersion timestamp config g).withSecrets k := by
    have hserver : Server.start softwareVersion timestamp (config.withSecrets k)
        = (Server.start softwareVersion timestamp config).withSecrets k := rfl
    rw [World.start, hserver]
    rfl
  obtain ⟨u, hsteps, hconfig, rfl⟩ := hrun.simulates
    (R := fun w u => w.server.runtimeConfig = config ∧ u = w.withSecrets k)
    (fun {w u e w'} hrelated hverdict hstep => by
      obtain ⟨hconfig, rfl⟩ := hrelated
      have hscheme' : SameScheme k w.server.runtimeConfig := by
        rw [hconfig]
        exact hscheme
      exact ⟨_, step_withSecrets hscheme' hverdict hstep, hstep.runtimeConfig.trans hconfig, rfl⟩)
    (t := World.start softwareVersion timestamp (config.withSecrets k) g) ⟨rfl, hstart⟩ hverdicts
  exact ⟨_, hsteps, rfl, rfl, rfl, rfl⟩

/-- A client guesses the password. -/
def guessText : Bytes := utf8 "\x7b\"req\":\"GetTabMap\",\"password\":\"green\"\x7d"

def guessPlatform : Platform Gui.Outside Gui.GuiState :=
  .sample [(guessText, .obj [("req", .str "GetTabMap"), ("password", .str "green")])]

/-- A wrong guess tells only that it is wrong. -/
theorem indifferent_of_guess : ∃ w u,
    Steps (Step guessPlatform Gui.GuiState.Moves)
        (World.start "1" "" { tabMapPassword := "red" } (.start {})) [.request sampleInput 7 guessText] w
      ∧ Steps (Step guessPlatform Gui.GuiState.Moves)
        (World.start "1" "" { tabMapPassword := "blue" } (.start {})) [.request sampleInput 7 guessText] u
      ∧ u.sent = w.sent := by
  have hrun : Steps (Traced (Step guessPlatform Gui.GuiState.Moves))
      (World.start "1" "" { tabMapPassword := "red" } (.start {}))
      [(_, .request sampleInput 7 guessText, _)] _ :=
    .cons ⟨rfl, rfl, .request rfl⟩ (.nil _)
  have hdecode : decode guessPlatform guessText = .ok (.GetTabMap (some "green")) := rfl
  have hscheme : SameScheme { tabMapPassword := "blue", controlPassword := "", controlPsk := "" }
    ({ tabMapPassword := "red" } : RuntimeConfig) := Iff.rfl
  obtain ⟨u, hsteps, hsent, -⟩ := indifferent_of_run _ hscheme hrun fun entry hentry => by
    obtain rfl := List.mem_singleton.mp hentry
    intro request hrequest
    obtain rfl := Except.ok.inj (hdecode.symm.trans hrequest)
    rfl
  exact ⟨_, u, hrun.untraced, hsteps, hsent⟩

end Server

end OpenMadt
