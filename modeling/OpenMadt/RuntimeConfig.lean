import OpenMadt.CString
import OpenMadt.Json
import Mathlib.Logic.Basic

/-!
# Runtime configuration and settings

`runtime-config.h` and the settings half of `runtime-config.cpp`: the configuration the server and
the GUI are started with, the settings, and the validation and merging of a settings patch.

The two functions on patches look up members with the `const` `operator[]`, each time behind a
`contains`.  `isValidSettingsPatch_eq` and `mergeSettings_eq` show that the guards hold: neither
function faults on an object, and both are the plain functions `patchError` and `merged` of the
patch's members.
-/

namespace OpenMadt

/-- `MAX_TABS`. -/
abbrev MAX_TABS : ℤ := 20

/-- `SettingsState` with its defaults. -/
structure SettingsState where
  volume : String := "0xFFFFFFFF"
  brightness : ℤ := 255
  contrast : ℤ := 255
  language : String := "en"
  defaultActiveMode : String := "PRIMARY"
  activeMode : String := "PRIMARY"
  defaultVisualMode : String := "UNMUTE"
  visualMode : String := "UNMUTE"
  extra1 : Json := .null
  extra2 : Json := .null
  deriving Inhabited

/-- `BacklightConfig`. -/
structure BacklightConfig where
  command : String := ""
  path : String := ""
  maxValue : ℤ := 255
  maxValuePath : String := ""

/-- `AudioVolumeConfig`. -/
structure AudioVolumeConfig where
  command : String := "amixer"
  controlName : String := ""
  script : String := ""

/-- `TabBarEdge`. -/
inductive TabBarEdge where
  | Top
  | Bottom
  | Left
  | Right
  deriving DecidableEq, Repr

/-- `ShortcutLauncherCorner`. -/
inductive ShortcutLauncherCorner where
  | TopLeft
  | TopRight
  deriving DecidableEq, Repr

/-- `ExtraZonePlacement`. -/
inductive ExtraZonePlacement where
  | Top
  | Bottom
  | Free
  deriving DecidableEq, Repr

/-- `ExtraZoneRect`. -/
structure ExtraZoneRect where
  x : ℤ := 0
  y : ℤ := 0
  width : ℤ := 640
  height : ℤ := 160

/-- `RuntimeConfig` with its defaults. -/
structure RuntimeConfig where
  tabMapPassword : String := ""
  controlPassword : String := ""
  controlPsk : String := ""
  controlNonceTtlSeconds : ℤ := 30
  listenAddress : String := "0.0.0.0"
  dnsSdEnabled : Bool := true
  dnsSdUniqueId : String := ""
  dnsSdRelease : String := "unknown"
  dnsSdManufacturer : String := "unknown"
  dnsSdIntervalMinutes : ℤ := 10
  soundPlayerCommand : String := "aplay"
  soundFiles : StdMap String String := ∅
  tabLifetimeByConnection : Bool := false
  tabBarVisible : Bool := true
  tabBarEdge : TabBarEdge := .Top
  tabBarWidth : ℤ := 96
  tabBarHeight : ℤ := 48
  tabBarShowLabels : Bool := true
  tabBarShowTooltips : Bool := true
  tabBarUseScrollButtons : Bool := true
  shortcutsEnabled : Bool := true
  shortcutLauncherVisible : Bool := true
  shortcutLauncherLabel : String := "Shortcuts"
  shortcutLauncherCorner : ShortcutLauncherCorner := .TopRight
  shortcutPopupTitle : String := "Emergency shortcuts"
  shortcutPopupColumns : ℤ := 3
  shortcutIconWidth : ℤ := 96
  shortcutIconHeight : ℤ := 96
  shortcutMaxCount : ℤ := 5
  shortcutAutoClose : Bool := true
  extraZonePlacement : ExtraZonePlacement := .Top
  extraZoneHeight : ℤ := 160
  extraZoneRect : ExtraZoneRect := {}
  backlight : BacklightConfig := {}
  audioVolume : AudioVolumeConfig := {}
  settings : SettingsState := {}

/-- The members of `settingsToJson`. -/
def settingsMembers (settings : SettingsState) : List (String × Json) :=
  [("volume", .str settings.volume), ("brightness", .int settings.brightness),
    ("contrast", .int settings.contrast), ("language", .str settings.language),
    ("defaultActiveMode", .str settings.defaultActiveMode),
    ("activeMode", .str settings.activeMode),
    ("defaultVisualMode", .str settings.defaultVisualMode),
    ("visualMode", .str settings.visualMode), ("extra1", settings.extra1),
    ("extra2", settings.extra2)]

/-- `settingsToJson`. -/
def settingsToJson (settings : SettingsState) : Json := .obj (settingsMembers settings)

/-- `settingsVolumeToPercent`.  The double division and `std::lround` are taken as exact rounding of
the quotient, half up. -/
def settingsVolumeToPercent (volume : String) : ℤ :=
  if volume = "" then 100
  else
    let isHex := match volume.toList with
      | '0' :: x :: _ :: _ => x == 'x' || x == 'X'
      | _ => false
    match CString.stoull volume (if isHex then 16 else 10) with
    | none => 100
    | some (raw, parsedChars) =>
      if parsedChars ≠ volume.toList.length then 100
      else if !isHex && raw ≤ 100 then raw
      else
        let clamped := min raw 4294967295
        ((clamped * 200 + 4294967295) / (2 * 4294967295) : ℕ)

/-! ### Validation of a patch -/

/-- The allowed names of `isValidMode` for the two kinds of mode. -/
def activeModes : List String := ["PRIMARY", "SUBORDINATED"]
def visualModes : List String := ["MUTE", "UNMUTE", "DEGRADED"]

/-- One check of `isValidSettingsPatch`: if the patch has the key and the value is `bad`, reject with
`message`; otherwise go on with `next`. -/
def rejectIf (patch : Json) (key : String) (bad : Json → Except Fault Bool) (message : String)
    (next : Except Fault (Option String)) : Except Fault (Option String) :=
  if patch.contains key then do
    let v ← patch.index key
    if ← bad v then pure (some message) else next
  else next

/-- `!v.is_string()`. -/
def notString (v : Json) : Except Fault Bool := pure !v.isString

/-- `!v.is_number_integer() || v.get<int>() < 0 || v.get<int>() > 255`. -/
def notByte (undefinedCast : Rat → ℤ) (v : Json) : Except Fault Bool :=
  if v.isNumberInteger then do
    let i ← v.getInt undefinedCast
    pure (i < 0 || i > 255)
  else pure true

/-- `!v.is_string() || !isValidMode(v.get<std::string>(), allowed)`. -/
def notMode (allowed : List String) (v : Json) : Except Fault Bool :=
  if v.isString then do
    let s ← v.getString
    pure !allowed.contains s
  else pure true

/-- `isValidSettingsPatch`: the error text of a rejected patch, or none for an accepted one. -/
def isValidSettingsPatch (undefinedCast : Rat → ℤ) (patch : Json) : Except Fault (Option String) :=
  if !patch.isObject then pure (some "settings patch must be a JSON object")
  else
    rejectIf patch "volume" notString "volume must be a string" <|
    rejectIf patch "brightness" (notByte undefinedCast)
      "brightness must be an integer in [0,255]" <|
    rejectIf patch "contrast" (notByte undefinedCast) "contrast must be an integer in [0,255]" <|
    rejectIf patch "language" notString "language must be a string" <|
    rejectIf patch "defaultActiveMode" (notMode activeModes)
      "defaultActiveMode must be PRIMARY or SUBORDINATED" <|
    rejectIf patch "activeMode" (notMode activeModes)
      "activeMode must be PRIMARY or SUBORDINATED" <|
    rejectIf patch "defaultVisualMode" (notMode visualModes)
      "defaultVisualMode must be MUTE, UNMUTE, or DEGRADED" <|
    rejectIf patch "visualMode" (notMode visualModes)
      "visualMode must be MUTE, UNMUTE, or DEGRADED" <|
    pure none

/-- One step of `mergeSettings`: if the patch has the key, store its value. -/
def mergeField {α : Type} (patch : Json) (key : String) (get : Json → Except Fault α)
    (store : α → SettingsState → SettingsState) (merged : SettingsState) :
    Except Fault SettingsState :=
  if patch.contains key then do
    let v ← patch.index key
    let a ← get v
    pure (store a merged)
  else pure merged

/-- `mergeSettings`. -/
def mergeSettings (undefinedCast : Rat → ℤ) (current : SettingsState) (patch : Json) :
    Except Fault SettingsState := do
  let merged ← mergeField patch "volume" Json.getString (fun v s => { s with volume := v }) current
  let merged ← mergeField patch "brightness" (Json.getInt undefinedCast)
    (fun v s => { s with brightness := v }) merged
  let merged ← mergeField patch "contrast" (Json.getInt undefinedCast)
    (fun v s => { s with contrast := v }) merged
  let merged ← mergeField patch "language" Json.getString (fun v s => { s with language := v })
    merged
  let merged ← mergeField patch "defaultActiveMode" Json.getString
    (fun v s => { s with defaultActiveMode := v }) merged
  let merged ← mergeField patch "activeMode" Json.getString (fun v s => { s with activeMode := v })
    merged
  let merged ← mergeField patch "defaultVisualMode" Json.getString
    (fun v s => { s with defaultVisualMode := v }) merged
  let merged ← mergeField patch "visualMode" Json.getString (fun v s => { s with visualMode := v })
    merged
  let merged ← mergeField patch "extra1" pure (fun v s => { s with extra1 := v }) merged
  mergeField patch "extra2" pure (fun v s => { s with extra2 := v }) merged

/-! ### The guards hold -/

/-- A value that `bad` never faults on, with the verdict as a plain function. -/
theorem rejectIf_eq {patch : Json} {key message : String} {bad : Json → Except Fault Bool}
    {verdict : Json → Bool} (hbad : ∀ v, bad v = .ok (verdict v)) (next : Option String) :
    rejectIf patch key bad message (.ok next) =
      .ok (if (patch.find? key).any verdict then some message else next) := by
  unfold rejectIf Json.contains
  cases h : patch.find? key with
  | none => rfl
  | some v =>
    simp only [Option.isSome_some, if_true, Json.index_of_find? h, Option.any_some]
    rw [ok_bind, hbad, ok_bind]
    exact (apply_ite Except.ok _ _ _).symm

theorem notString_eq (v : Json) : notString v = .ok !v.isString := rfl

/-- The value is no integer, or its low 32 bits are no byte. -/
def badByte : Json → Bool
  | .int i => Json.toInt32 i < 0 || Json.toInt32 i > 255
  | _ => true

theorem notByte_eq (undefinedCast : Rat → ℤ) (v : Json) :
    notByte undefinedCast v = .ok (badByte v) := by
  cases v <;> rfl

/-- The value is no string, or none of the allowed names. -/
def badMode (allowed : List String) : Json → Bool
  | .str s => !allowed.contains s
  | _ => true

theorem notMode_eq (allowed : List String) (v : Json) :
    notMode allowed v = .ok (badMode allowed v) := by
  cases v <;> rfl

/-- The error text of a patch, from its members alone. -/
def patchError (patch : Json) : Option String :=
  if !patch.isObject then some "settings patch must be a JSON object"
  else if (patch.find? "volume").any (fun v => !v.isString) then some "volume must be a string"
  else if (patch.find? "brightness").any badByte then
    some "brightness must be an integer in [0,255]"
  else if (patch.find? "contrast").any badByte then some "contrast must be an integer in [0,255]"
  else if (patch.find? "language").any (fun v => !v.isString) then some "language must be a string"
  else if (patch.find? "defaultActiveMode").any (badMode activeModes) then
    some "defaultActiveMode must be PRIMARY or SUBORDINATED"
  else if (patch.find? "activeMode").any (badMode activeModes) then
    some "activeMode must be PRIMARY or SUBORDINATED"
  else if (patch.find? "defaultVisualMode").any (badMode visualModes) then
    some "defaultVisualMode must be MUTE, UNMUTE, or DEGRADED"
  else if (patch.find? "visualMode").any (badMode visualModes) then
    some "visualMode must be MUTE, UNMUTE, or DEGRADED"
  else none

/-- **Validation never faults.** -/
theorem isValidSettingsPatch_eq (undefinedCast : Rat → ℤ) (patch : Json) :
    isValidSettingsPatch undefinedCast patch = .ok (patchError patch) := by
  unfold isValidSettingsPatch patchError
  rw [show (pure none : Except Fault (Option String)) = .ok none from rfl,
    rejectIf_eq (notMode_eq _), rejectIf_eq (notMode_eq _), rejectIf_eq (notMode_eq _),
    rejectIf_eq (notMode_eq _), rejectIf_eq notString_eq, rejectIf_eq (notByte_eq undefinedCast),
    rejectIf_eq (notByte_eq undefinedCast), rejectIf_eq notString_eq]
  exact (apply_ite Except.ok _ _ _).symm

/-- The member of the patch under `key` if it is there and `pick` takes it, else the current value. -/
def memberOr {α : Type} (patch : Json) (key : String) (pick : Json → Option α) (current : α) : α :=
  ((patch.find? key).bind pick).getD current

/-- A string member. -/
def asString : Json → Option String
  | .str s => some s
  | _ => none

/-- An integer member, as the code stores it. -/
def asInt32 : Json → Option ℤ
  | .int i => some (Json.toInt32 i)
  | _ => none

/-- The settings after an accepted patch, from its members alone. -/
def merged (current : SettingsState) (patch : Json) : SettingsState where
  volume := memberOr patch "volume" asString current.volume
  brightness := memberOr patch "brightness" asInt32 current.brightness
  contrast := memberOr patch "contrast" asInt32 current.contrast
  language := memberOr patch "language" asString current.language
  defaultActiveMode := memberOr patch "defaultActiveMode" asString current.defaultActiveMode
  activeMode := memberOr patch "activeMode" asString current.activeMode
  defaultVisualMode := memberOr patch "defaultVisualMode" asString current.defaultVisualMode
  visualMode := memberOr patch "visualMode" asString current.visualMode
  extra1 := memberOr patch "extra1" some current.extra1
  extra2 := memberOr patch "extra2" some current.extra2

/-- A step of the merge on a member that `get` can read. -/
theorem mergeField_eq {α : Type} {patch : Json} {key : String} {get : Json → Except Fault α}
    {pick : Json → Option α} {store : α → SettingsState → SettingsState}
    (read : SettingsState → α) (current : SettingsState)
    (hget : ∀ v, patch.find? key = some v → ∃ a, pick v = some a ∧ get v = .ok a)
    (hstore : store (read current) current = current) :
    mergeField patch key get store current
      = .ok (store (memberOr patch key pick (read current)) current) := by
  unfold mergeField Json.contains memberOr
  cases h : patch.find? key with
  | none =>
    simp only [Option.isSome_none, Option.bind_none, Option.getD_none, hstore]
    rfl
  | some v =>
    obtain ⟨a, hpick, hok⟩ := hget v h
    simp only [Option.isSome_some, if_true, Json.index_of_find? h, Option.bind_some, hpick,
      Option.getD_some]
    rw [ok_bind, hok, ok_bind]
    rfl

theorem asString_of_isString {v : Json} (h : v.isString = true) :
    ∃ s, asString v = some s ∧ v.getString = .ok s := by
  cases v with
  | str s => exact ⟨s, rfl, rfl⟩
  | _ => simp [Json.isString] at h

theorem isString_of_not_badMode {allowed : List String} {v : Json} (h : badMode allowed v = false) :
    v.isString = true := by
  cases v with
  | str s => rfl
  | _ => simp [badMode] at h

theorem asInt32_of_not_badByte (undefinedCast : Rat → ℤ) {v : Json} (h : badByte v = false) :
    ∃ i, asInt32 v = some i ∧ v.getInt undefinedCast = .ok i := by
  cases v with
  | int i => exact ⟨_, rfl, rfl⟩
  | _ => simp [badByte] at h

/-- What acceptance says about the eight checked members. -/
structure Accepted (patch : Json) : Prop where
  volume : ∀ v, patch.find? "volume" = some v → v.isString = true
  brightness : ∀ v, patch.find? "brightness" = some v → badByte v = false
  contrast : ∀ v, patch.find? "contrast" = some v → badByte v = false
  language : ∀ v, patch.find? "language" = some v → v.isString = true
  defaultActiveMode :
    ∀ v, patch.find? "defaultActiveMode" = some v → badMode activeModes v = false
  activeMode : ∀ v, patch.find? "activeMode" = some v → badMode activeModes v = false
  defaultVisualMode :
    ∀ v, patch.find? "defaultVisualMode" = some v → badMode visualModes v = false
  visualMode : ∀ v, patch.find? "visualMode" = some v → badMode visualModes v = false

theorem rejected_eq_none_iff {c : Bool} {message : String} {next : Option String} :
    (if c then some message else next) = none ↔ c = false ∧ next = none := by
  cases c <;> simp

theorem eq_false_of_any_eq_false {bad : Json → Bool} {o : Option Json} (h : o.any bad = false) :
    ∀ v, o = some v → bad v = false := by
  rintro v rfl
  exact h

theorem accepted_of_patchError {patch : Json} (h : patchError patch = none) : Accepted patch := by
  simp only [patchError, rejected_eq_none_iff] at h
  obtain ⟨-, hvol, hbri, hcon, hlang, hdact, hact, hdvis, hvis, -⟩ := h
  have hstring : ∀ {key : String}, (patch.find? key).any (fun v => !v.isString) = false →
      ∀ v, patch.find? key = some v → v.isString = true := by
    intro key hany v hv
    simpa using eq_false_of_any_eq_false hany v hv
  exact {
    volume := hstring hvol
    brightness := eq_false_of_any_eq_false hbri
    contrast := eq_false_of_any_eq_false hcon
    language := hstring hlang
    defaultActiveMode := eq_false_of_any_eq_false hdact
    activeMode := eq_false_of_any_eq_false hact
    defaultVisualMode := eq_false_of_any_eq_false hdvis
    visualMode := eq_false_of_any_eq_false hvis }

/-- **Merging an accepted patch never faults.** -/
theorem mergeSettings_eq (undefinedCast : Rat → ℤ) (current : SettingsState) {patch : Json}
    (h : patchError patch = none) :
    mergeSettings undefinedCast current patch = .ok (merged current patch) := by
  have ha := accepted_of_patchError h
  have hstring : ∀ {key : String}, (∀ v, patch.find? key = some v → v.isString = true) →
      ∀ v, patch.find? key = some v → ∃ a, asString v = some a ∧ v.getString = .ok a :=
    fun hkey v hv => asString_of_isString (hkey v hv)
  have hmode : ∀ {key : String} {allowed : List String},
      (∀ v, patch.find? key = some v → badMode allowed v = false) →
      ∀ v, patch.find? key = some v → ∃ a, asString v = some a ∧ v.getString = .ok a :=
    fun hkey v hv => asString_of_isString (isString_of_not_badMode (hkey v hv))
  have hbyte : ∀ {key : String}, (∀ v, patch.find? key = some v → badByte v = false) →
      ∀ v, patch.find? key = some v → ∃ a, asInt32 v = some a ∧ v.getInt undefinedCast = .ok a :=
    fun hkey v hv => asInt32_of_not_badByte undefinedCast (hkey v hv)
  have hany : ∀ {key : String} (v : Json), patch.find? key = some v →
      ∃ a : Json, some v = some a ∧ (pure v : Except Fault Json) = .ok a := fun v _ => ⟨v, rfl, rfl⟩
  unfold mergeSettings
  rw [mergeField_eq SettingsState.volume _ (hstring ha.volume) rfl, ok_bind,
    mergeField_eq SettingsState.brightness _ (hbyte ha.brightness) rfl, ok_bind,
    mergeField_eq SettingsState.contrast _ (hbyte ha.contrast) rfl, ok_bind,
    mergeField_eq SettingsState.language _ (hstring ha.language) rfl, ok_bind,
    mergeField_eq SettingsState.defaultActiveMode _ (hmode ha.defaultActiveMode) rfl, ok_bind,
    mergeField_eq SettingsState.activeMode _ (hmode ha.activeMode) rfl, ok_bind,
    mergeField_eq SettingsState.defaultVisualMode _ (hmode ha.defaultVisualMode) rfl, ok_bind,
    mergeField_eq SettingsState.visualMode _ (hmode ha.visualMode) rfl, ok_bind,
    mergeField_eq SettingsState.extra1 _ hany rfl, ok_bind,
    mergeField_eq SettingsState.extra2 _ hany rfl]
  rfl

end OpenMadt
