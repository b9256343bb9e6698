import OpenMadt.ConfigFile
import OpenMadt.Settings

/-!
# The rules for settings

`isValidSettingsPatch` states rules: brightness and contrast are bytes, and the four modes have one of
their names.  A patch that breaks them is refused, so what is merged keeps them.  The configuration
file is the other source of settings, and there the modes are read as plain strings.

* `SettingsState.Valid` — the rules, for settings; `valid_merged`, `valid_loadSettings_iff` — the two
  sources.
* `settingsFit_of_run_iff` — when the settings of the server keep the rules in every run.
-/

namespace OpenMadt

/-- The rules of `isValidSettingsPatch`, for settings. -/
structure SettingsState.Valid (settings : SettingsState) : Prop where
  brightness : 0 ≤ settings.brightness ∧ settings.brightness ≤ 255
  contrast : 0 ≤ settings.contrast ∧ settings.contrast ≤ 255
  defaultActiveMode : settings.defaultActiveMode ∈ activeModes
  activeMode : settings.activeMode ∈ activeModes
  defaultVisualMode : settings.defaultVisualMode ∈ visualModes
  visualMode : settings.visualMode ∈ visualModes

theorem valid_default : ({} : SettingsState).Valid := by
  refine ⟨by decide, by decide, ?_, ?_, ?_, ?_⟩ <;> simp [activeModes, visualModes]

/-! ### Patches -/

theorem mem_of_not_badMode {allowed : List String} {v : Json} (h : badMode allowed v = false) :
    ∃ name, v = .str name ∧ name ∈ allowed := by
  cases v with
  | str name => exact ⟨name, rfl, by simpa [badMode] using h⟩
  | _ => simp [badMode] at h

theorem byte_of_not_badByte {v : Json} (h : badByte v = false) :
    ∃ i, asInt32 v = some i ∧ 0 ≤ i ∧ i ≤ 255 := by
  cases v with
  | int n =>
    have hrange : ¬ Json.toInt32 n < 0 ∧ ¬ Json.toInt32 n > 255 := by simpa [badByte] using h
    exact ⟨Json.toInt32 n, rfl, by omega, by omega⟩
  | _ => simp [badByte] at h

theorem memberOr_mode {patch : Json} {key current : String} {allowed : List String}
    (hcurrent : current ∈ allowed)
    (h : ∀ v, patch.find? key = some v → badMode allowed v = false) :
    memberOr patch key asString current ∈ allowed := by
  unfold memberOr
  cases hv : patch.find? key with
  | none => exact hcurrent
  | some v =>
    obtain ⟨name, rfl, hname⟩ := mem_of_not_badMode (h v hv)
    exact hname

theorem memberOr_byte {patch : Json} {key : String} {current : ℤ} (hcurrent : 0 ≤ current ∧ current ≤ 255)
    (h : ∀ v, patch.find? key = some v → badByte v = false) :
    0 ≤ memberOr patch key asInt32 current ∧ memberOr patch key asInt32 current ≤ 255 := by
  unfold memberOr
  cases hv : patch.find? key with
  | none => exact hcurrent
  | some v =>
    obtain ⟨i, hi, hrange⟩ := byte_of_not_badByte (h v hv)
    rw [Option.bind_some, hi, Option.getD_some]
    exact hrange

/-- **An accepted patch** keeps the rules. -/
theorem valid_merged {current : SettingsState} {patch : Json} (hcurrent : current.Valid)
    (h : patchError patch = none) : (merged current patch).Valid := by
  have haccepted := accepted_of_patchError h
  exact {
    brightness := memberOr_byte hcurrent.brightness haccepted.brightness
    contrast := memberOr_byte hcurrent.contrast haccepted.contrast
    defaultActiveMode := memberOr_mode hcurrent.defaultActiveMode haccepted.defaultActiveMode
    activeMode := memberOr_mode hcurrent.activeMode haccepted.activeMode
    defaultVisualMode := memberOr_mode hcurrent.defaultVisualMode haccepted.defaultVisualMode
    visualMode := memberOr_mode hcurrent.visualMode haccepted.visualMode }

/-! ### The reply to `GetSettings` as a patch -/

/-- The reply to `GetSettings`, as the request `SetSettings`. -/
def sentBack (reply : Json) : Json :=
  match reply with
  | .obj members => .obj (("req", .str "SetSettings") :: members)
  | _ => reply

theorem badByte_eq_false {i : ℤ} (h : 0 ≤ i ∧ i ≤ 255) : badByte (.int i) = false := by
  have hi := Json.toInt32_of_range (i := i) (by omega)
  simp only [badByte, hi, Bool.or_eq_false_iff, decide_eq_false_iff_not]
  omega

theorem badMode_eq_false {allowed : List String} {name : String} (h : name ∈ allowed) :
    badMode allowed (.str name) = false := by
  simp [badMode, h]

/-- Valid settings are accepted as a patch. -/
theorem patchError_settings {settings : SettingsState} (h : settings.Valid) :
    patchError (sentBack (response .MTSRC_OK (settingsMembers settings))) = none := by
  have hmember : ∀ {key : String} {v : Json} {bad : Json → Bool}, bad v = false →
      (sentBack (response .MTSRC_OK (settingsMembers settings))).find? key = some v →
      ((sentBack (response .MTSRC_OK (settingsMembers settings))).find? key).any bad = false := by
    intro key v bad hv hfind
    rw [hfind, Option.any_some]
    exact hv
  simp only [patchError, rejected_eq_none_iff]
  refine ⟨rfl, rfl, hmember (badByte_eq_false h.brightness) rfl,
    hmember (badByte_eq_false h.contrast) rfl, rfl,
    hmember (badMode_eq_false h.defaultActiveMode) rfl, hmember (badMode_eq_false h.activeMode) rfl,
    hmember (badMode_eq_false h.defaultVisualMode) rfl, hmember (badMode_eq_false h.visualMode) rfl,
    trivial⟩

/-! ### The configuration file -/

/-- The members of the file that are modes, with their names. -/
def modeMembers : List (String × List String) :=
  [("defaultActiveMode", activeModes), ("activeMode", activeModes),
    ("defaultVisualMode", visualModes), ("visualMode", visualModes)]

/-- Every mode that the file gives as a string has one of its names. -/
def JsonFileLoadResult.ModesAllowed : JsonFileLoadResult → Prop
  | .Loaded document => ∀ mode ∈ modeMembers, ∀ name, document.find? mode.1 = some (.str name) →
      name ∈ mode.2
  | .Missing | .Error => True

theorem loadOptionalInt_mem {document : Json} {key : String} {destination minValue maxValue : ℤ}
    (h : minValue ≤ destination ∧ destination ≤ maxValue) :
    minValue ≤ loadOptionalInt document key destination minValue maxValue
      ∧ loadOptionalInt document key destination minValue maxValue ≤ maxValue := by
  unfold loadOptionalInt
  split
  · dsimp only
    split
    · exact h
    next hrange => omega
  · exact h

theorem loadOptionalString_mem_iff {document : Json} {key destination : String} {allowed : List String}
    (h : destination ∈ allowed) :
    loadOptionalString document key destination ∈ allowed
      ↔ ∀ name, document.find? key = some (.str name) → name ∈ allowed := by
  unfold loadOptionalString
  split
  next value hvalue =>
    rw [hvalue]
    refine ⟨fun hmem name hname => ?_, fun hall => hall value rfl⟩
    cases hname
    exact hmem
  next hother => exact iff_of_true h fun name hname => absurd hname (hother name)

/-- **The file** gives valid settings exactly if its modes have their names. -/
theorem valid_loadSettings_iff {document : Json} {destination : SettingsState}
    (h : destination.Valid) :
    (loadSettings document destination).Valid
      ↔ (JsonFileLoadResult.Loaded document).ModesAllowed := by
  have hmodes : (JsonFileLoadResult.Loaded document).ModesAllowed
      ↔ (loadSettings document destination).defaultActiveMode ∈ activeModes
        ∧ (loadSettings document destination).activeMode ∈ activeModes
        ∧ (loadSettings document destination).defaultVisualMode ∈ visualModes
        ∧ (loadSettings document destination).visualMode ∈ visualModes := by
    simp only [JsonFileLoadResult.ModesAllowed, modeMembers, List.forall_mem_cons,
      List.not_mem_nil, false_implies, implies_true, and_true, loadSettings]
    rw [loadOptionalString_mem_iff h.defaultActiveMode, loadOptionalString_mem_iff h.activeMode,
      loadOptionalString_mem_iff h.defaultVisualMode, loadOptionalString_mem_iff h.visualMode]
  rw [hmodes]
  constructor
  · intro hvalid
    exact ⟨hvalid.defaultActiveMode, hvalid.activeMode, hvalid.defaultVisualMode, hvalid.visualMode⟩
  · rintro ⟨hdefaultActive, hactive, hdefaultVisual, hvisual⟩
    exact ⟨loadOptionalInt_mem h.brightness, loadOptionalInt_mem h.contrast, hdefaultActive, hactive,
      hdefaultVisual, hvisual⟩

theorem settings_loadDocument (document : Json) (config : RuntimeConfig) :
    (loadDocument document config).settings = loadSettings document config.settings := by
  unfold loadDocument loadExtraZoneGeometry
  split <;> rfl

theorem valid_loadRuntimeConfig_iff (file : JsonFileLoadResult) :
    (loadRuntimeConfig file).settings.Valid ↔ file.ModesAllowed := by
  cases file with
  | Missing => exact iff_of_true valid_default trivial
  | Error => exact iff_of_true valid_default trivial
  | Loaded document =>
    rw [loadRuntimeConfig]
    split
    next hobject =>
      rw [settings_loadDocument]
      exact valid_loadSettings_iff valid_default
    next hnone =>
      refine iff_of_true valid_default fun mode _ name hname => ?_
      cases document with
      | obj members => exact absurd rfl hnone
      | _ => cases hname

/-! ### Runs -/

namespace Server

open Run

variable {I G : Type} {P : Platform I G} {moves : G → G → Prop}

/-- A `SetSettings` request that is carried out has an accepted patch. -/
def Accepting : Request → Prop
  | .SetSettings patch => patchError patch = none
  | _ => True

theorem accepting_of_attempt {α : Type} {x : Except Fault α} {k : α → Request} {request : Request}
    (h : attempt x (fun a => .ok (k a)) = .ok request) (hk : ∀ a, Accepting (k a)) :
    Accepting request := by
  refine attempt_rule (Q := Accepting) trivial h fun a request ha => ?_
  cases ha
  exact hk a

theorem accepting_of_decodeNew {json : Json} {k : String → String → ℤ → ℤ → Request}
    {request : Request} (h : decodeNew P json k = .ok request)
    (hk : ∀ url iconUrl pos flags, Accepting (k url iconUrl pos flags)) : Accepting request := by
  refine attempt_rule (Q := Accepting) trivial h fun iconUrl request h => ?_
  refine attempt_rule (Q := Accepting) trivial h fun preferredPos request h => ?_
  refine attempt_rule (Q := Accepting) trivial h fun flags request h => ?_
  exact accepting_of_attempt h fun url => hk url iconUrl preferredPos flags

theorem accepting_of_decodeAs {json : Json} {code : RequestCode} {request : Request}
    (h : decodeAs P json code = .ok request) : Accepting request := by
  cases code with
  | SetSettings =>
    cases h
    split
    next hnone => exact hnone
    next => trivial
  | NewWebTab => exact accepting_of_decodeNew h fun _ _ _ _ => trivial
  | NewShortcut => exact accepting_of_decodeNew h fun _ _ _ _ => trivial
  | ActivateTab => exact accepting_of_attempt h fun _ => trivial
  | BlinkTab => exact accepting_of_attempt h fun _ => trivial
  | KillTab => exact accepting_of_attempt h fun _ => trivial
  | KillShortcut => exact accepting_of_attempt h fun _ => trivial
  | NavigateTo =>
    simp only [decodeAs, decodeNavigateTo] at h
    split at h
    · exact attempt_rule (Q := Accepting) trivial h fun _ _ h => accepting_of_attempt h fun _ => trivial
    · exact attempt_rule (Q := Accepting) trivial h fun _ _ h => accepting_of_attempt h fun _ => trivial
  | PlaySound =>
    cases h
    unfold decodePlaySound
    split
    · split <;> trivial
    · trivial
  | IAmAlive =>
    cases h
    unfold decodeIAmAlive
    split
    · split <;> trivial
    · split <;> trivial
    · trivial
  | _ =>
    cases h
    trivial

theorem accepting_of_decode {requestText : Bytes} {request : Request}
    (h : decode P requestText = .ok request) : Accepting request := by
  unfold decode at h
  split at h
  · cases h
    trivial
  · exact attempt_rule (Q := Accepting) trivial h fun _ _ h => accepting_of_decodeAs h

/-- What a request stores is a merge of its patch. -/
theorem Effect.merged {i : Input I} {bev : Conn} {s s' : Server} {request : Request} {x : Exchange}
    {json : Json} (h : Effect P i bev s request x s' json) : s'.settingsState = s.settingsState
      ∨ ∃ patch, request = .SetSettings patch ∧ s'.settingsState = merged s.settingsState patch := by
  have hstored := h.settingsState
  cases h with
  | settings _ => exact Or.inr ⟨_, rfl, rfl⟩
  | failure _ hfailed => exact Or.inl (hstored.trans (stored_of_failed hfailed))
  | query _ hquiet _ => exact Or.inl (hstored.trans (stored_of_quiet hquiet _))
  | _ => exact Or.inl hstored

/-- **The step lemma**: whatever happens, the rules are kept. -/
theorem Step.valid {w w' : World G} {e : Event I} (h : Step P moves w e w')
    (hvalid : w.server.settingsState.Valid) : w'.server.settingsState.Valid := by
  cases h with
  | request hout =>
    obtain ⟨request, hdecode, hrun⟩ := decoded_of_outcome hout
    obtain ⟨x, json, heffect, -⟩ := effect_of_run hrun
    rcases heffect.merged with hsame | ⟨patch, rfl, hmerged⟩
    · rw [hsame]
      exact hvalid
    · rw [hmerged]
      exact valid_merged hvalid (accepting_of_decode hdecode)
  | close bev =>
    rw [settingsState_of_rest (rest_closeConnection P bev w)]
    exact hvalid
  | tick now =>
    rw [settingsState_of_rest (rest_pruneExpiredTabs P now w)]
    exact hvalid
  | gui _ => exact hvalid

/-- The settings are valid, and the reply to a `GetSettings` is accepted as a patch. -/
structure SettingsFit (P : Platform I G) (w : World G) : Prop where
  valid : w.server.settingsState.Valid
  accepted : ∀ {i : Input I} {bev : Conn} {requestText : Bytes} {w' : World G} {reply : Json},
    decode P requestText = .ok .GetSettings →
    outcome (processFrame P i bev requestText) w = .ok w' → w'.sent = w.sent ++ [(bev, reply)] →
    isValidSettingsPatch P.undefinedCast (sentBack reply) = .ok none

theorem settingsFit_of_valid {w : World G} (h : w.server.settingsState.Valid) : SettingsFit P w := by
  refine ⟨h, fun {i bev requestText w' reply} hdecode hout hsent => ?_⟩
  obtain ⟨request, hdecode', hrun⟩ := decoded_of_outcome hout
  obtain rfl : Request.GetSettings = request := Except.ok.inj (hdecode.symm.trans hdecode')
  cases hrun
  obtain rfl : response .MTSRC_OK (settingsMembers w.server.settingsState) = reply := by
    simpa [World.reply] using hsent
  rw [isValidSettingsPatch_eq, patchError_settings h]

/-- **When the settings keep the rules**: in every run from the start, with any requests and whatever
the GUI answers, the settings of the server are valid, exactly if the modes of the configuration file
have their names. -/
theorem settingsFit_of_run_iff (P : Platform I G) (moves : G → G → Prop)
    (softwareVersion timestamp : String) (file : JsonFileLoadResult) (g : G) :
    (∀ events w, Steps (Step P moves)
        (World.start softwareVersion timestamp (loadRuntimeConfig file) g) events w → SettingsFit P w)
      ↔ file.ModesAllowed := by
  rw [← valid_loadRuntimeConfig_iff]
  constructor
  · intro hall
    exact (hall [] _ (.nil _)).valid
  · intro hvalid events w hrun
    refine settingsFit_of_valid ?_
    exact hrun.invariant (fun w => w.server.settingsState.Valid) (fun hvalid h => h.valid hvalid) hvalid

/-- A file with a mode that does not exist. -/
def oddFile : JsonFileLoadResult := .Loaded (.obj [("activeMode", .str "FOO")])

/-- **The mode is loaded**, and sent back it is refused. -/
theorem oddFile_not_valid : ∃ w : World Gui.GuiState,
    Steps (Step (Platform.sample []) Gui.GuiState.Moves)
        (World.start "1" "" (loadRuntimeConfig oddFile) (.start (loadRuntimeConfig oddFile))) [] w
      ∧ ¬ w.server.settingsState.Valid
      ∧ isValidSettingsPatch (Platform.sample []).undefinedCast
          (sentBack (response .MTSRC_OK (settingsMembers w.server.settingsState)))
        = .ok (some "activeMode must be PRIMARY or SUBORDINATED") := by
  refine ⟨_, .nil _, fun hvalid => ?_, ?_⟩
  · have hmode : "FOO" ∈ activeModes := hvalid.activeMode
    simp [activeModes] at hmode
  · rw [isValidSettingsPatch_eq]
    rfl

end Server

end OpenMadt
