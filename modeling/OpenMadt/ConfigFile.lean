import OpenMadt.RuntimeConfig

/-!
# The configuration file

The loading half of `runtime-config.cpp`: the readers for the single members of `madt-config.json`,
and `loadRuntimeConfig`, which starts from the defaults and takes over what the readers accept.  A
reader gets the current value of its destination and gives the new one; what it writes to the log is
left out.

* `loadOptionalString`, `loadOptionalInt`, ... — the readers.
* `loadRuntimeConfig` — the configuration that the server and the GUI are started with.
-/

namespace OpenMadt

/-- `JsonFileLoadResult`, with the document that was loaded. -/
inductive JsonFileLoadResult where
  | Loaded (document : Json)
  | Missing
  | Error

abbrev MAX_EXTRA_ZONE_DIMENSION : ℤ := 7680

/-! ### Readers -/

/-- `loadOptionalString`. -/
def loadOptionalString (document : Json) (key : String) (destination : String) : String :=
  match document.find? key with
  | some (.str value) => value
  | _ => destination

/-- `loadOptionalInt`: the range is compared with the value as an `int`. -/
def loadOptionalInt (document : Json) (key : String) (destination minValue maxValue : ℤ) : ℤ :=
  match document.find? key with
  | some (.int i) =>
    let value := Json.toInt32 i
    if value < minValue ∨ value > maxValue then destination else value
  | _ => destination

/-- `loadOptionalBool`, and the same steps for `dnsSdEnabled`, `tabLifetimeByConnection` and, in
`loadTabBarVisible`, for `tabBarVisible`. -/
def loadOptionalBool (document : Json) (key : String) (destination : Bool) : Bool :=
  match document.find? key with
  | some (.bool value) => value
  | _ => destination

/-- `loadTabBarDimension`. -/
def loadTabBarDimension (document : Json) (key : String) (destination : ℤ) : ℤ :=
  match document.find? key with
  | some (.int i) =>
    let value := Json.toInt32 i
    if value ≤ 0 then destination else value
  | _ => destination

/-- A reader for an enumeration, by the names of its values. -/
def loadOptionalName {α : Type} (document : Json) (key : String) (names : List (String × α))
    (destination : α) : α :=
  match document.find? key with
  | some (.str name) => (names.lookup name).getD destination
  | _ => destination

/-- `loadTabBarEdge`. -/
def loadTabBarEdge (document : Json) (destination : TabBarEdge) : TabBarEdge :=
  loadOptionalName document "tabBarEdge"
    [("top", .Top), ("bottom", .Bottom), ("left", .Left), ("right", .Right)] destination

/-- `loadShortcutLauncherCorner`. -/
def loadShortcutLauncherCorner (document : Json) (destination : ShortcutLauncherCorner) :
    ShortcutLauncherCorner :=
  loadOptionalName document "shortcutLauncherCorner"
    [("top-left", .TopLeft), ("top-right", .TopRight)] destination

/-- `loadExtraZonePlacement`. -/
def loadExtraZonePlacement (document : Json) (destination : ExtraZonePlacement) :
    ExtraZonePlacement :=
  loadOptionalName document "extraZonePlacement"
    [("top", .Top), ("bottom", .Bottom), ("free", .Free)] destination

/-- `loadExtraZoneRect`; its `loadRectInt` does what `loadOptionalInt` does. -/
def loadExtraZoneRect (document : Json) (destination : ExtraZoneRect) : ExtraZoneRect :=
  match document.find? "extraZoneRect" with
  | some (.obj members) =>
    let rect := Json.obj members
    { x := loadOptionalInt rect "x" destination.x 0 MAX_EXTRA_ZONE_DIMENSION
      y := loadOptionalInt rect "y" destination.y 0 MAX_EXTRA_ZONE_DIMENSION
      width := loadOptionalInt rect "width" destination.width 1 MAX_EXTRA_ZONE_DIMENSION
      height := loadOptionalInt rect "height" destination.height 1 MAX_EXTRA_ZONE_DIMENSION }
  | _ => destination

/-- `loadExtraZoneGeometry`: which of the two is read depends on the placement. -/
def loadExtraZoneGeometry (document : Json) (config : RuntimeConfig) : RuntimeConfig :=
  if config.extraZonePlacement = .Free then
    { config with extraZoneRect := loadExtraZoneRect document config.extraZoneRect }
  else
    { config with
      extraZoneHeight := loadOptionalInt document "extraZoneHeight" config.extraZoneHeight 1
        MAX_EXTRA_ZONE_DIMENSION }

/-- `loadBacklight`. -/
def loadBacklight (document : Json) (destination : BacklightConfig) : BacklightConfig :=
  match document.find? "backlight" with
  | some (.obj members) =>
    let backlight := Json.obj members
    { command := loadOptionalString backlight "command" destination.command
      path := loadOptionalString backlight "path" destination.path
      maxValuePath := loadOptionalString backlight "maxValuePath" destination.maxValuePath
      maxValue := loadOptionalInt backlight "maxValue" destination.maxValue 1 65535 }
  | _ => destination

/-- `loadAudioVolume`. -/
def loadAudioVolume (document : Json) (destination : AudioVolumeConfig) : AudioVolumeConfig :=
  match document.find? "audioVolume" with
  | some (.obj members) =>
    let audioVolume := Json.obj members
    { command := loadOptionalString audioVolume "command" destination.command
      controlName := loadOptionalString audioVolume "controlName" destination.controlName
      script := loadOptionalString audioVolume "script" destination.script }
  | _ => destination

/-- `loadSettings`: the modes are read as plain strings. -/
def loadSettings (document : Json) (destination : SettingsState) : SettingsState where
  volume := loadOptionalString document "volume" destination.volume
  brightness := loadOptionalInt document "brightness" destination.brightness 0 255
  contrast := loadOptionalInt document "contrast" destination.contrast 0 255
  language := loadOptionalString document "language" destination.language
  defaultActiveMode :=
    loadOptionalString document "defaultActiveMode" destination.defaultActiveMode
  activeMode := loadOptionalString document "activeMode" destination.activeMode
  defaultVisualMode :=
    loadOptionalString document "defaultVisualMode" destination.defaultVisualMode
  visualMode := loadOptionalString document "visualMode" destination.visualMode
  extra1 := (document.find? "extra1").getD destination.extra1
  extra2 := (document.find? "extra2").getD destination.extra2

/-- `loadSoundFiles`: one round of the loop for every entry that counts. -/
def loadSoundFiles (document : Json) (destination : StdMap String String) : StdMap String String :=
  match document.find? "soundFiles" with
  | some (.obj members) =>
    (members.map Prod.fst).foldl (fun soundFiles soundId =>
      match members.lookup soundId with
      | some (.str file) => soundFiles.insert soundId file
      | _ => soundFiles) destination
  | _ => destination

/-! ### The whole file -/

/-- The members of the document, each read over the default.  Only the geometry of the extra zone
depends on another member, its placement. -/
def loadDocument (document : Json) (config : RuntimeConfig) : RuntimeConfig :=
  loadExtraZoneGeometry document
    { tabMapPassword := loadOptionalString document "tabMapPassword" config.tabMapPassword
      controlPassword := loadOptionalString document "controlPassword" config.controlPassword
      controlPsk := loadOptionalString document "controlPsk" config.controlPsk
      listenAddress := loadOptionalString document "listenAddress" config.listenAddress
      controlNonceTtlSeconds :=
        loadOptionalInt document "controlNonceTtlSeconds" config.controlNonceTtlSeconds 1 300
      dnsSdEnabled := loadOptionalBool document "dnsSdEnabled" config.dnsSdEnabled
      dnsSdUniqueId := loadOptionalString document "dnsSdUniqueId" config.dnsSdUniqueId
      dnsSdRelease := loadOptionalString document "dnsSdRelease" config.dnsSdRelease
      dnsSdManufacturer := loadOptionalString document "dnsSdManufacturer" config.dnsSdManufacturer
      soundPlayerCommand :=
        loadOptionalString document "soundPlayerCommand" config.soundPlayerCommand
      dnsSdIntervalMinutes :=
        loadOptionalInt document "dnsSdIntervalMinutes" config.dnsSdIntervalMinutes 1 30
      soundFiles := loadSoundFiles document config.soundFiles
      tabLifetimeByConnection :=
        loadOptionalBool document "tabLifetimeByConnection" config.tabLifetimeByConnection
      tabBarVisible := loadOptionalBool document "tabBarVisible" config.tabBarVisible
      tabBarEdge := loadTabBarEdge document config.tabBarEdge
      tabBarWidth := loadTabBarDimension document "tabBarWidth" config.tabBarWidth
      tabBarHeight := loadTabBarDimension document "tabBarHeight" config.tabBarHeight
      tabBarShowLabels := loadOptionalBool document "tabBarShowLabels" config.tabBarShowLabels
      tabBarShowTooltips :=
        loadOptionalBool document "tabBarShowTooltips" config.tabBarShowTooltips
      tabBarUseScrollButtons :=
        loadOptionalBool document "tabBarUseScrollButtons" config.tabBarUseScrollButtons
      shortcutsEnabled := loadOptionalBool document "shortcutsEnabled" config.shortcutsEnabled
      shortcutLauncherVisible :=
        loadOptionalBool document "shortcutLauncherVisible" config.shortcutLauncherVisible
      shortcutLauncherLabel :=
        loadOptionalString document "shortcutLauncherLabel" config.shortcutLauncherLabel
      shortcutLauncherCorner := loadShortcutLauncherCorner document config.shortcutLauncherCorner
      shortcutPopupTitle :=
        loadOptionalString document "shortcutPopupTitle" config.shortcutPopupTitle
      shortcutPopupColumns :=
        loadOptionalInt document "shortcutPopupColumns" config.shortcutPopupColumns 1 8
      shortcutIconWidth :=
        loadOptionalInt document "shortcutIconWidth" config.shortcutIconWidth 1 512
      shortcutIconHeight :=
        loadOptionalInt document "shortcutIconHeight" config.shortcutIconHeight 1 512
      shortcutMaxCount := loadOptionalInt document "shortcutMaxCount" config.shortcutMaxCount 1 20
      shortcutAutoClose := loadOptionalBool document "shortcutAutoClose" config.shortcutAutoClose
      extraZonePlacement := loadExtraZonePlacement document config.extraZonePlacement
      extraZoneHeight := config.extraZoneHeight
      extraZoneRect := config.extraZoneRect
      backlight := loadBacklight document config.backlight
      audioVolume := loadAudioVolume document config.audioVolume
      settings := loadSettings document config.settings }

/-- `loadRuntimeConfig`. -/
def loadRuntimeConfig : JsonFileLoadResult → RuntimeConfig
  | .Loaded document => if document.isObject then loadDocument document {} else {}
  | .Missing | .Error => {}

end OpenMadt
