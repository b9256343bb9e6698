import OpenMadt.ConfigIntegers
import OpenMadt.SettingsRules

/-!
# Configurations and their documents

Which configurations can come out of `madt-config.json`, whatever is in it: those whose integers are in their
ranges, and whose extra zone has the defaults for what its placement leaves unread.  Each of them has a
document that it is read back from.

* `Loadable` — the condition; `configDocument` — the document of a configuration.
* `getElem?_loadSoundFiles` — what the loop over the sound files leaves in the map.
* `loadRuntimeConfig_document` — the round trip; `loaded_iff` — the image of the reader.
-/

namespace OpenMadt

open IntegerKey

/-- What the reader guarantees. -/
structure RuntimeConfig.Loadable (config : RuntimeConfig) : Prop where
  inRange : ∀ k : IntegerKey, k.InRange (k.field config)
  unread : ∀ k : IntegerKey, ¬ k.ReadFor config.extraZonePlacement → k.field config = k.fallback

/-- **Whatever is in the file**, what comes out is loadable. -/
theorem loadable_loadRuntimeConfig (file : JsonFileLoadResult) : (loadRuntimeConfig file).Loadable := by
  have hdefault : ({} : RuntimeConfig).Loadable := ⟨inRange_fallback, fun _ _ => rfl⟩
  refine ⟨fun k => inRange_field k file, ?_⟩
  cases file with
  | Missing => exact hdefault.unread
  | Error => exact hdefault.unread
  | Loaded document =>
    rw [loadRuntimeConfig]
    split
    · intro k hunread
      rw [field_loadDocument, if_neg hunread]
    · exact hdefault.unread

/-! ### The document -/

/-- The name of an edge in the file. -/
def TabBarEdge.name : TabBarEdge → String
  | .Top => "top"
  | .Bottom => "bottom"
  | .Left => "left"
  | .Right => "right"

/-- The name of a corner in the file. -/
def ShortcutLauncherCorner.name : ShortcutLauncherCorner → String
  | .TopLeft => "top-left"
  | .TopRight => "top-right"

/-- The name of a placement in the file. -/
def ExtraZonePlacement.name : ExtraZonePlacement → String
  | .Top => "top"
  | .Bottom => "bottom"
  | .Free => "free"

def ExtraZoneRect.document (rect : ExtraZoneRect) : Json :=
  .obj [("x", .int rect.x), ("y", .int rect.y), ("width", .int rect.width), ("height", .int rect.height)]

def BacklightConfig.document (backlight : BacklightConfig) : Json :=
  .obj [("command", .str backlight.command), ("path", .str backlight.path),
    ("maxValuePath", .str backlight.maxValuePath), ("maxValue", .int backlight.maxValue)]

def AudioVolumeConfig.document (audioVolume : AudioVolumeConfig) : Json :=
  .obj [("command", .str audioVolume.command), ("controlName", .str audioVolume.controlName),
    ("script", .str audioVolume.script)]

/-- The members for the extra zone, and the objects. -/
def objectMembers (config : RuntimeConfig) : List (String × Json) :=
  [("extraZonePlacement", .str config.extraZonePlacement.name),
    ("extraZoneHeight", .int config.extraZoneHeight), ("extraZoneRect", config.extraZoneRect.document),
    ("backlight", config.backlight.document), ("audioVolume", config.audioVolume.document),
    ("soundFiles", .obj (config.soundFiles.toList.map fun entry => (entry.1, .str entry.2)))]

/-- The members for the server. -/
def serverMembers (config : RuntimeConfig) : List (String × Json) :=
  [("tabMapPassword", .str config.tabMapPassword), ("controlPassword", .str config.controlPassword),
    ("controlPsk", .str config.controlPsk), ("listenAddress", .str config.listenAddress),
    ("controlNonceTtlSeconds", .int config.controlNonceTtlSeconds),
    ("dnsSdEnabled", .bool config.dnsSdEnabled), ("dnsSdUniqueId", .str config.dnsSdUniqueId),
    ("dnsSdRelease", .str config.dnsSdRelease), ("dnsSdManufacturer", .str config.dnsSdManufacturer),
    ("soundPlayerCommand", .str config.soundPlayerCommand),
    ("dnsSdIntervalMinutes", .int config.dnsSdIntervalMinutes),
    ("tabLifetimeByConnection", .bool config.tabLifetimeByConnection)]

/-- The members for the tab bar and the shortcuts. -/
def browserMembers (config : RuntimeConfig) : List (String × Json) :=
  [("tabBarVisible", .bool config.tabBarVisible), ("tabBarEdge", .str config.tabBarEdge.name),
    ("tabBarWidth", .int config.tabBarWidth), ("tabBarHeight", .int config.tabBarHeight),
    ("tabBarShowLabels", .bool config.tabBarShowLabels),
    ("tabBarShowTooltips", .bool config.tabBarShowTooltips),
    ("tabBarUseScrollButtons", .bool config.tabBarUseScrollButtons),
    ("shortcutsEnabled", .bool config.shortcutsEnabled),
    ("shortcutLauncherVisible", .bool config.shortcutLauncherVisible),
    ("shortcutLauncherLabel", .str config.shortcutLauncherLabel),
    ("shortcutLauncherCorner", .str config.shortcutLauncherCorner.name),
    ("shortcutPopupTitle", .str config.shortcutPopupTitle),
    ("shortcutPopupColumns", .int config.shortcutPopupColumns),
    ("shortcutIconWidth", .int config.shortcutIconWidth),
    ("shortcutIconHeight", .int config.shortcutIconHeight),
    ("shortcutMaxCount", .int config.shortcutMaxCount),
    ("shortcutAutoClose", .bool config.shortcutAutoClose)]

/-- All members. -/
def configMembers (config : RuntimeConfig) : List (String × Json) :=
  serverMembers config ++ browserMembers config ++ objectMembers config ++ settingsMembers config.settings

/-- The document of a configuration. -/
def configDocument (config : RuntimeConfig) : Json := .obj (configMembers config)

/-! ### The sound files -/

section SoundFiles

variable {members : List (String × Json)} {soundId : String}

/-- The body of the loop over the sound files. -/
def takeSoundFile (members : List (String × Json)) (soundFiles : StdMap String String) (soundId : String) :
    StdMap String String :=
  match members.lookup soundId with
  | some (.str file) => soundFiles.insert soundId file
  | _ => soundFiles

/-- What one round takes over. -/
def soundFile? : Option Json → Option String
  | some (.str file) => some file
  | _ => none

/-- **One round**: an entry that is a string is taken over, and everything else is left. -/
theorem getElem?_takeSoundFile (soundFiles : StdMap String String) (key : String) :
    (takeSoundFile members soundFiles key)[soundId]?
      = if soundId = key then (soundFile? (members.lookup key)).or soundFiles[soundId]?
        else soundFiles[soundId]? := by
  unfold takeSoundFile
  cases members.lookup key with
  | none => exact (ite_self _).symm
  | some value =>
    cases value with
    | str file =>
      show (soundFiles.insert key file)[soundId]? = _
      rw [Std.ExtTreeMap.getElem?_insert]
      by_cases hkey : soundId = key
      · subst hkey
        simp [soundFile?]
      · rw [if_neg (by simpa using fun heq : key = soundId => hkey heq.symm), if_neg hkey]
    | _ => exact (ite_self _).symm

/-- **All rounds.**  A second round for the same entry changes nothing. -/
theorem getElem?_foldl_takeSoundFile (keys : List String) (soundFiles : StdMap String String) :
    (keys.foldl (takeSoundFile members) soundFiles)[soundId]?
      = if soundId ∈ keys then (soundFile? (members.lookup soundId)).or soundFiles[soundId]?
        else soundFiles[soundId]? := by
  induction keys generalizing soundFiles with
  | nil => rfl
  | cons key keys ih =>
    rw [List.foldl_cons, ih, getElem?_takeSoundFile]
    by_cases hkey : soundId = key
    · subst hkey
      rw [if_pos rfl, if_pos List.mem_cons_self]
      cases soundFile? (members.lookup soundId) with
      | none => exact ite_self _
      | some file => exact ite_self _
    · rw [if_neg hkey]
      simp only [List.mem_cons, hkey, false_or]

/-- What the loop leaves in the map. -/
theorem getElem?_loadSoundFiles {document : Json} (h : document.find? "soundFiles" = some (.obj members))
    (destination : StdMap String String) :
    (loadSoundFiles document destination)[soundId]?
      = (soundFile? (members.lookup soundId)).or destination[soundId]? := by
  rw [loadSoundFiles, h]
  refine (getElem?_foldl_takeSoundFile (members.map Prod.fst) destination).trans ?_
  split
  · rfl
  next hnone =>
    have hlookup : members.lookup soundId = none := by
      apply List.lookup_eq_none_iff.mpr
      intro entry hentry
      simp only [bne_iff_ne, ne_eq]
      exact fun heq => hnone (heq ▸ List.mem_map_of_mem hentry)
    rw [hlookup]
    rfl

end SoundFiles

/-- With no key twice, every entry is found. -/
theorem lookup_of_mem {α β : Type} [BEq α] [LawfulBEq α] {entries : List (α × β)}
    (hdistinct : (entries.map Prod.fst).Nodup) {key : α} {value : β} (hmem : (key, value) ∈ entries) :
    entries.lookup key = some value := by
  induction entries with
  | nil => cases hmem
  | cons entry entries ih =>
    obtain ⟨hfirst, hrest⟩ := List.nodup_cons.mp hdistinct
    rcases List.mem_cons.mp hmem with rfl | hmem
    · exact List.lookup_cons_self
    · have hne : (key == entry.1) = false := by
        apply beq_false_of_ne
        intro heq
        exact hfirst (heq ▸ List.mem_map_of_mem hmem)
      rw [List.lookup_cons, hne]
      exact ih hrest hmem

/-- The sound files, entry by entry. -/
theorem lookup_soundFiles (soundFiles : StdMap String String) (soundId : String) :
    (soundFiles.toList.map fun entry => (entry.1, Json.str entry.2)).lookup soundId
      = soundFiles[soundId]?.map .str := by
  have hkeys : ((soundFiles.toList.map fun entry => (entry.1, Json.str entry.2)).map Prod.fst)
      = soundFiles.toList.map Prod.fst := by
    rw [List.map_map]
    rfl
  have hdistinct : (soundFiles.toList.map Prod.fst).Nodup := by
    rw [List.Nodup, List.pairwise_map]
    exact soundFiles.distinct_keys_toList.imp fun hne heq =>
      hne (Std.LawfulEqOrd.compare_eq_iff_eq.mpr heq)
  cases hfile : soundFiles[soundId]? with
  | some file =>
    have hmem := Std.ExtTreeMap.mem_toList_iff_getElem?_eq_some.mpr hfile
    exact lookup_of_mem (hkeys ▸ hdistinct) (List.mem_map_of_mem hmem)
  | none =>
    apply List.lookup_eq_none_iff.mpr
    intro entry hentry
    obtain ⟨⟨id, file⟩, hmem, rfl⟩ := List.mem_map.mp hentry
    have hsome := Std.ExtTreeMap.mem_toList_iff_getElem?_eq_some.mp hmem
    simp only [bne_iff_ne, ne_eq]
    intro heq
    rw [← heq, hfile] at hsome
    cases hsome

/-! ### The round trip -/

/-- Both fields of the extra zone, whatever its placement. -/
theorem loadExtraZoneGeometry_eq (document : Json) (config : RuntimeConfig) :
    loadExtraZoneGeometry document config =
      { config with
        extraZoneRect := if config.extraZonePlacement = .Free then
          loadExtraZoneRect document config.extraZoneRect else config.extraZoneRect
        extraZoneHeight := if config.extraZonePlacement = .Free then config.extraZoneHeight else
          loadOptionalInt document "extraZoneHeight" config.extraZoneHeight 1 MAX_EXTRA_ZONE_DIMENSION } := by
  unfold loadExtraZoneGeometry
  split
  · rfl
  · rfl

attribute [ext] RuntimeConfig SettingsState BacklightConfig ExtraZoneRect

/-- Every integer has its member. -/
theorem member_configDocument (config : RuntimeConfig) (k : IntegerKey) :
    k.member (configDocument config) = some (.int (k.field config)) := by
  cases k <;> rfl

theorem loadTabBarEdge_configDocument (config : RuntimeConfig) (destination : TabBarEdge) :
    loadTabBarEdge (configDocument config) destination = config.tabBarEdge := by
  show ((List.lookup config.tabBarEdge.name _).getD destination) = _
  cases config.tabBarEdge with
  | Top | Bottom | Left | Right => rfl

theorem loadShortcutLauncherCorner_configDocument (config : RuntimeConfig)
    (destination : ShortcutLauncherCorner) :
    loadShortcutLauncherCorner (configDocument config) destination = config.shortcutLauncherCorner := by
  show ((List.lookup config.shortcutLauncherCorner.name _).getD destination) = _
  cases config.shortcutLauncherCorner with
  | TopLeft | TopRight => rfl

theorem loadExtraZonePlacement_configDocument (config : RuntimeConfig) (destination : ExtraZonePlacement) :
    loadExtraZonePlacement (configDocument config) destination = config.extraZonePlacement := by
  show ((List.lookup config.extraZonePlacement.name _).getD destination) = _
  cases config.extraZonePlacement with
  | Top | Bottom | Free => rfl

/-- The sound files are read back. -/
theorem soundFiles_configDocument (config : RuntimeConfig) :
    loadSoundFiles (configDocument config) ∅ = config.soundFiles := by
  have hfound : (configDocument config).find? "soundFiles"
      = some (.obj (config.soundFiles.toList.map fun entry => (entry.1, .str entry.2))) := rfl
  apply Std.ExtTreeMap.ext_getElem?
  intro soundId
  rw [getElem?_loadSoundFiles hfound, lookup_soundFiles]
  cases config.soundFiles[soundId]? with
  | none => simp [soundFile?]
  | some file => rfl

/-- **Every integer is read back**, if it is one that can be read. -/
theorem field_configDocument {config : RuntimeConfig} (h : config.Loadable) (k : IntegerKey) :
    k.field (loadDocument (configDocument config) {}) = k.field config := by
  rw [field_loadDocument, placement_loadDocument, loadExtraZonePlacement_configDocument,
    member_configDocument]
  split
  · have hin := h.inRange k
    rw [taken, toInt32_of_inRange hin]
    exact if_pos hin
  next hunread => exact (h.unread k hunread).symm

/-- The settings are read back. -/
theorem settings_configDocument {config : RuntimeConfig} (h : config.Loadable) :
    loadSettings (configDocument config) {} = config.settings := by
  have hbrightness : (loadDocument (configDocument config) {}).settings.brightness = _ :=
    field_configDocument h brightness
  have hcontrast : (loadDocument (configDocument config) {}).settings.contrast = _ :=
    field_configDocument h contrast
  rw [settings_loadDocument] at hbrightness hcontrast
  apply SettingsState.ext
  case brightness => exact hbrightness
  case contrast => exact hcontrast
  all_goals rfl

/-- The backlight is read back. -/
theorem backlight_configDocument {config : RuntimeConfig} (h : config.Loadable) :
    loadBacklight (configDocument config) {} = config.backlight := by
  have hmaxValue := loadBacklight_maxValue (configDocument config) {}
  rw [member_configDocument, taken, toInt32_of_inRange (h.inRange backlightMaxValue)] at hmaxValue
  apply BacklightConfig.ext
  case maxValue => exact hmaxValue.trans (if_pos (h.inRange backlightMaxValue))
  all_goals rfl

/-- **The round trip.**  What can be read at all is read from its own document. -/
theorem loadRuntimeConfig_document {config : RuntimeConfig} (h : config.Loadable) :
    loadRuntimeConfig (.Loaded (configDocument config)) = config := by
  have hint := field_configDocument h
  show loadDocument (configDocument config) {} = config
  rw [loadDocument, loadExtraZoneGeometry_eq] at hint ⊢
  apply RuntimeConfig.ext
  case controlNonceTtlSeconds => exact hint controlNonceTtlSeconds
  case dnsSdIntervalMinutes => exact hint dnsSdIntervalMinutes
  case tabBarWidth => exact hint tabBarWidth
  case tabBarHeight => exact hint tabBarHeight
  case shortcutPopupColumns => exact hint shortcutPopupColumns
  case shortcutIconWidth => exact hint shortcutIconWidth
  case shortcutIconHeight => exact hint shortcutIconHeight
  case shortcutMaxCount => exact hint shortcutMaxCount
  case extraZoneHeight => exact hint extraZoneHeight
  case extraZoneRect =>
    exact ExtraZoneRect.ext (hint extraZoneX) (hint extraZoneY) (hint extraZoneWidth)
      (hint extraZoneRectHeight)
  case extraZonePlacement => exact loadExtraZonePlacement_configDocument config _
  case tabBarEdge => exact loadTabBarEdge_configDocument config _
  case shortcutLauncherCorner => exact loadShortcutLauncherCorner_configDocument config _
  case soundFiles => exact soundFiles_configDocument config
  case settings => exact settings_configDocument h
  case backlight => exact backlight_configDocument h
  all_goals rfl

/-- **What can be read.**  Some result of reading the file gives the configuration just if its integers are in
their ranges and its placement has left what it does not use at the defaults, and just then its own document does. -/
theorem loaded_iff (config : RuntimeConfig) :
    ((∃ file : JsonFileLoadResult, loadRuntimeConfig file = config) ↔ config.Loadable) ∧
      (loadRuntimeConfig (.Loaded (configDocument config)) = config ↔ config.Loadable) := by
  have loadable : ∀ file : JsonFileLoadResult, loadRuntimeConfig file = config → config.Loadable := by
    intro file h
    rw [← h]
    exact loadable_loadRuntimeConfig file
  constructor
  · constructor
    · intro ⟨file, h⟩
      exact loadable file h
    · intro h
      exact ⟨.Loaded (configDocument config), loadRuntimeConfig_document h⟩
  · constructor
    · intro h
      exact loadable _ h
    · intro h
      exact loadRuntimeConfig_document h

end OpenMadt
