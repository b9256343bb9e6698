import OpenMadt.ControlPasswords
import OpenMadt.Sessions
import OpenMadt.SettingsPatches
import OpenMadt.SoundFlags

/-!
# The client

`madt_client_sim.py` makes a payload of its command line, sends it on a connection of its own and waits for
one answer.

* `Command`, `makePayload` — the command lines, and what is sent for each.
* `Command.Means` — the request that a command line stands for; `PlaySoundMeans` for sounds and their flags.
* `decode_payload` — the server reads that request, if the integers are values of `int` and the flags of a sound
  are none that it misreads.
* `answered_of_client` — it is carried out once, and its answer is all that the client gets.
-/

namespace OpenMadt

open Run Server Transport

/-- The options of `set-settings` that are given; `extra1` and `extra2` as `parse_extra_json` reads them. -/
structure SettingsOptions where
  volume : Option String := none
  brightness : Option ℤ := none
  contrast : Option ℤ := none
  language : Option String := none
  defaultActiveMode : Option String := none
  activeMode : Option String := none
  defaultVisualMode : Option String := none
  visualMode : Option String := none
  extra1 : Option Json := none
  extra2 : Option Json := none

/-- The command lines of `build_parser`, but for `raw`, which sends what it is given. -/
inductive Command where
  | getInfo
  | getRandom
  | getCharacteristics
  | getSettings
  | setSettings (options : SettingsOptions)
  | playSound (soundId soundFlags : String)
  | newWebTab (url iconUrl : String) (preferredPos flags : ℤ)
  | activateTab (tabId : String)
  | blinkTab (tabId : String)
  | navigateTo (tabId url : String)
  | killTab (tabId : String)
  | newShortcut (url iconUrl : String) (preferredPos flags : ℤ)
  | killShortcut (shortcutId : String)
  | getTabMap (password : String)
  | getShortcuts (password : String)
  | iamAliveTab (tabId : String) (ttl : ℤ)
  | iamAliveShortcut (shortcutId : String) (ttl : ℤ)
  | stop (password controlPsk : String)
  | restart (password controlPsk : String)

/-! ### Payloads -/

/-- The keys of the options, with the values that are given. -/
def SettingsOptions.entries (options : SettingsOptions) : List (String × Option Json) :=
  [("volume", options.volume.map .str), ("brightness", options.brightness.map .int),
    ("contrast", options.contrast.map .int), ("language", options.language.map .str),
    ("defaultActiveMode", options.defaultActiveMode.map .str), ("activeMode", options.activeMode.map .str),
    ("defaultVisualMode", options.defaultVisualMode.map .str), ("visualMode", options.visualMode.map .str),
    ("extra1", options.extra1), ("extra2", options.extra2)]

/-- The entries that have a value. -/
def given (entries : List (String × Option Json)) : List (String × Json) :=
  entries.filterMap fun entry => entry.2.map fun value => (entry.1, value)

section Payload

variable (token : String → String → Option String)

/-- The password of a `stop` or `restart`. -/
def controlPassword (reqName password controlPsk : String) : Option String :=
  if controlPsk ≠ "" then token reqName controlPsk else some password

/-- The payload of a `stop` or `restart`; none where `make_payload` raises. -/
def controlPayload (reqName password controlPsk : String) : Option Json :=
  (controlPassword token reqName password controlPsk).bind fun password =>
    if password = "" then none else some (.obj [("req", .str reqName), ("password", .str password)])

/-- `make_payload`; `token` is the result of `control_password_token` for a name and a key. -/
def makePayload : Command → Option Json
  | .getInfo => some (.obj [("req", .str "GetInfo")])
  | .getRandom => some (.obj [("req", .str "GetRandom")])
  | .getCharacteristics => some (.obj [("req", .str "GetCharacteristics")])
  | .getSettings => some (.obj [("req", .str "GetSettings")])
  | .setSettings options => some (.obj (("req", .str "SetSettings") :: given options.entries))
  | .playSound soundId soundFlags =>
    some (.obj [("req", .str "PlaySound"), ("soundFlags", .str soundFlags), ("soundId", .str soundId)])
  | .newWebTab url iconUrl preferredPos flags =>
    some (.obj [("req", .str "NewWebTab"), ("preferredPos", .int preferredPos), ("flags", .int flags),
      ("iconUrl", .str iconUrl), ("url", .str url)])
  | .activateTab tabId => some (.obj [("req", .str "ActivateTab"), ("tabId", .str tabId)])
  | .blinkTab tabId => some (.obj [("req", .str "BlinkTab"), ("tabId", .str tabId)])
  | .navigateTo tabId url =>
    some (.obj [("req", .str "NavigateTo"), ("tabId", .str tabId), ("url", .str url)])
  | .killTab tabId => some (.obj [("req", .str "KillTab"), ("tabId", .str tabId)])
  | .newShortcut url iconUrl preferredPos flags =>
    some (.obj [("req", .str "NewShortcut"), ("preferredPos", .int preferredPos), ("flags", .int flags),
      ("iconUrl", .str iconUrl), ("url", .str url)])
  | .killShortcut shortcutId => some (.obj [("req", .str "KillShortcut"), ("shortcutId", .str shortcutId)])
  | .getTabMap password => some (.obj [("req", .str "GetTabMap"), ("password", .str password)])
  | .getShortcuts password => some (.obj [("req", .str "GetShortcuts"), ("password", .str password)])
  | .iamAliveTab tabId ttl =>
    some (.obj [("req", .str "IAmAlive"), ("tabId", .str tabId), ("TTL", .int ttl)])
  | .iamAliveShortcut shortcutId ttl =>
    some (.obj [("req", .str "IAmAlive"), ("shortcutId", .str shortcutId), ("TTL", .int ttl)])
  | .stop password controlPsk => controlPayload token "Stop" password controlPsk
  | .restart password controlPsk => controlPayload token "Restart" password controlPsk

end Payload

/-! ### What is meant -/

/-- The rules for settings, for the options that are given. -/
structure SettingsOptions.Valid (options : SettingsOptions) : Prop where
  brightness : ∀ n ∈ options.brightness, 0 ≤ n ∧ n ≤ 255
  contrast : ∀ n ∈ options.contrast, 0 ≤ n ∧ n ≤ 255
  defaultActiveMode : ∀ name ∈ options.defaultActiveMode, name ∈ activeModes
  activeMode : ∀ name ∈ options.activeMode, name ∈ activeModes
  defaultVisualMode : ∀ name ∈ options.defaultVisualMode, name ∈ visualModes
  visualMode : ∀ name ∈ options.visualMode, name ∈ visualModes

/-- The settings with the options that are given. -/
def SettingsOptions.applied (options : SettingsOptions) (settings : SettingsState) : SettingsState where
  volume := options.volume.getD settings.volume
  brightness := options.brightness.getD settings.brightness
  contrast := options.contrast.getD settings.contrast
  language := options.language.getD settings.language
  defaultActiveMode := options.defaultActiveMode.getD settings.defaultActiveMode
  activeMode := options.activeMode.getD settings.activeMode
  defaultVisualMode := options.defaultVisualMode.getD settings.defaultVisualMode
  visualMode := options.visualMode.getD settings.visualMode
  extra1 := options.extra1.getD settings.extra1
  extra2 := options.extra2.getD settings.extra2

/-- The integers of a command line. -/
def Command.integers : Command → List ℤ
  | .setSettings options => options.brightness.toList ++ options.contrast.toList
  | .newWebTab _ _ preferredPos flags | .newShortcut _ _ preferredPos flags => [preferredPos, flags]
  | .iamAliveTab _ ttl | .iamAliveShortcut _ ttl => [ttl]
  | _ => []

/-- They are values of `int`. -/
def Command.Fits (command : Command) : Prop := ∀ n ∈ command.integers, -2147483648 ≤ n ∧ n ≤ 2147483647

/-- A patch that stores the options in whatever settings there are. -/
def SettingsOptions.StoredBy (options : SettingsOptions) (patch : Json) : Prop :=
  ∀ settings, merged settings patch = options.applied settings

/-- The standard sounds. -/
def soundAliases : List String :=
  ["SystemAsterisk", "SystemExclamation", "SystemExit", "SystemHand", "SystemNotification", "SystemQuestion",
    "SystemStart"]

/-- What a sound with flags stands for: the flags are an unsigned constant of C for supported flags, with the bit
for aliases, and what is no standard sound is replaced by the notification unless bit 1 says that it must not. -/
inductive PlaySoundMeans (soundId soundFlags : String) : Request → Prop where
  | standard {n : ℕ} (hflags : CString.Numeral soundFlags.toList n) (hsupported : SupportedFlags n)
      (hid : soundId ∈ soundAliases) :
      PlaySoundMeans soundId soundFlags (.PlaySound soundId (UInt32.ofNat n))
  | replaced {n : ℕ} (hflags : CString.Numeral soundFlags.toList n) (hsupported : SupportedFlags n)
      (hid : soundId ∉ soundAliases) (hreplace : n.testBit 1 = false) :
      PlaySoundMeans soundId soundFlags (.PlaySound "SystemNotification" (UInt32.ofNat n))
  | unknown {n : ℕ} (hflags : CString.Numeral soundFlags.toList n) (hsupported : SupportedFlags n)
      (hid : soundId ∉ soundAliases) (hkeep : n.testBit 1 = true) : PlaySoundMeans soundId soundFlags .Refused
  | noFlags (hflags : ¬ DenotesFlags soundFlags) : PlaySoundMeans soundId soundFlags .Refused

/-- The flags of a command line, which are a text. -/
def Command.soundFlags? : Command → Option String
  | .playSound _ soundFlags => some soundFlags
  | _ => none

/-- The request that a command line stands for. -/
def Command.Means (token : String → String → Option String) : Command → Request → Prop
  | .getInfo, request => request = .GetInfo
  | .getRandom, request => request = .GetRandom
  | .getCharacteristics, request => request = .GetCharacteristics
  | .getSettings, request => request = .GetSettings
  | .setSettings options, request =>
    (options.Valid ∧ ∃ patch, request = .SetSettings patch ∧ options.StoredBy patch)
      ∨ (¬ options.Valid ∧ request = .Refused)
  | .playSound soundId soundFlags, request => PlaySoundMeans soundId soundFlags request
  | .newWebTab url iconUrl preferredPos flags, request => request = .NewWebTab url iconUrl preferredPos flags
  | .activateTab tabId, request => request = .ActivateTab tabId
  | .blinkTab tabId, request => request = .BlinkTab tabId
  | .navigateTo tabId url, request => request = .NavigateTo tabId url
  | .killTab tabId, request => request = .KillTab tabId
  | .newShortcut url iconUrl preferredPos flags, request =>
    request = .NewShortcut url iconUrl preferredPos flags
  | .killShortcut shortcutId, request => request = .KillShortcut shortcutId
  | .getTabMap password, request => request = .GetTabMap (some password)
  | .getShortcuts password, request => request = .GetShortcuts (some password)
  | .iamAliveTab tabId ttl, request => request = if ttl < 0 then .Refused else .IAmAliveTab tabId ttl
  | .iamAliveShortcut shortcutId ttl, request =>
    request = if ttl < 0 then .Refused else .IAmAliveShortcut shortcutId ttl
  | .stop password controlPsk, request => request = .Stop (controlPassword token "Stop" password controlPsk)
  | .restart password controlPsk, request =>
    request = .Restart (controlPassword token "Restart" password controlPsk)

/-! ### What is read -/

section Reading

variable {I G : Type} {P : Platform I G} {token : String → String → Option String}

/-- With no key twice, a lookup finds what is given for the key. -/
theorem lookup_given {entries : List (String × Option Json)} (hdistinct : (entries.map Prod.fst).Nodup)
    (key : String) : (given entries).lookup key = (entries.lookup key).join := by
  induction entries with
  | nil => rfl
  | cons entry entries ih =>
    obtain ⟨key', value⟩ := entry
    obtain ⟨hfirst, hrest⟩ := List.nodup_cons.mp hdistinct
    cases value with
    | some value =>
      show List.lookup key ((key', value) :: given entries) = _
      rw [List.lookup_cons, List.lookup_cons]
      by_cases hkey : key = key'
      · rw [hkey, beq_self_eq_true]
        rfl
      · rw [beq_false_of_ne hkey]
        exact ih hrest
    | none =>
      show List.lookup key (given entries) = _
      rw [ih hrest, List.lookup_cons]
      by_cases hkey : key = key'
      · have hnone : entries.lookup key = none := by
          apply List.lookup_eq_none_iff.mpr
          intro entry hentry
          simp only [bne_iff_ne, ne_eq]
          intro heq
          have hmem : entry.1 ∈ entries.map Prod.fst := List.mem_map_of_mem hentry
          rw [← heq, hkey] at hmem
          exact hfirst hmem
        rw [hnone, hkey, beq_self_eq_true]
        rfl
      · rw [beq_false_of_ne hkey]

/-- What the document has under the key of an option. -/
theorem find?_options {options : SettingsOptions} {document : Json}
    (hmembers : ∀ key, document.find? key
      = (Json.obj (("req", .str "SetSettings") :: given options.entries)).find? key)
    {key : String} (hkey : key ≠ "req") : document.find? key = (options.entries.lookup key).join := by
  have hdistinct : (options.entries.map Prod.fst).Nodup := by
    simp only [SettingsOptions.entries, List.map_cons, List.map_nil]
    decide +kernel
  rw [hmembers, Json.find?_obj, List.lookup_cons, beq_false_of_ne hkey]
  exact lookup_given hdistinct key

theorem isByte_given {value : Option ℤ} (hfits : ∀ n ∈ value, -2147483648 ≤ n ∧ n ≤ 2147483647) :
    (∀ v, value.map Json.int = some v → IsByte Json.toInt32 v) ↔ ∀ n ∈ value, 0 ≤ n ∧ n ≤ 255 := by
  cases value with
  | none => simp
  | some n =>
    have hsame := Json.toInt32_of_range (hfits n rfl)
    constructor
    · intro h m hm
      obtain rfl := Option.some.inj hm
      obtain ⟨m, hm, hrange⟩ := h (.int n) rfl
      obtain rfl := Json.int.inj hm
      rwa [hsame] at hrange
    · intro h v hv
      obtain rfl := Option.some.inj hv
      refine ⟨n, rfl, ?_⟩
      rw [hsame]
      exact h n rfl

theorem isMode_given {allowed : List String} {value : Option String} :
    (∀ v, value.map Json.str = some v → IsMode allowed v) ↔ ∀ name ∈ value, name ∈ allowed := by
  cases value with
  | none => simp
  | some name => simp [IsMode]

theorem isText_given {value : Option String} : ∀ v, value.map Json.str = some v → IsText v := by
  intro v hv
  obtain ⟨s, -, rfl⟩ := Option.map_eq_some_iff.mp hv
  exact ⟨s, rfl⟩

section Options

variable {options : SettingsOptions} {document : Json}

/-- **Validation** of the options. -/
theorem patchRules_options
    (hmembers : ∀ key, key ≠ "req" → document.find? key = (options.entries.lookup key).join)
    (hfits : (Command.setSettings options).Fits) : PatchRules Json.toInt32 document ↔ options.Valid := by
  have hbrightness : ∀ n ∈ options.brightness, -2147483648 ≤ n ∧ n ≤ 2147483647 :=
    fun n hn => hfits n (List.mem_append_left _ (Option.mem_toList.mpr hn))
  have hcontrast : ∀ n ∈ options.contrast, -2147483648 ≤ n ∧ n ≤ 2147483647 :=
    fun n hn => hfits n (List.mem_append_right _ (Option.mem_toList.mpr hn))
  simp only [PatchRules, memberRules, List.forall_mem_cons, List.not_mem_nil, false_implies, implies_true,
    and_true]
  rw [hmembers "volume" (by decide), hmembers "brightness" (by decide), hmembers "contrast" (by decide),
    hmembers "language" (by decide), hmembers "defaultActiveMode" (by decide),
    hmembers "activeMode" (by decide), hmembers "defaultVisualMode" (by decide),
    hmembers "visualMode" (by decide)]
  constructor
  · intro h
    obtain ⟨-, h₁, h₂, -, h₃, h₄, h₅, h₆⟩ := h
    exact ⟨(isByte_given hbrightness).mp h₁, (isByte_given hcontrast).mp h₂, isMode_given.mp h₃,
      isMode_given.mp h₄, isMode_given.mp h₅, isMode_given.mp h₆⟩
  · intro h
    exact ⟨isText_given, (isByte_given hbrightness).mpr h.brightness, (isByte_given hcontrast).mpr h.contrast,
      isText_given, isMode_given.mpr h.defaultActiveMode, isMode_given.mpr h.activeMode,
      isMode_given.mpr h.defaultVisualMode, isMode_given.mpr h.visualMode⟩

theorem memberOr_string {key : String} {value : Option String} (h : document.find? key = value.map .str)
    (current : String) : memberOr document key asString current = value.getD current := by
  rw [memberOr, h]
  cases value <;> rfl

theorem memberOr_int {key : String} {value : Option ℤ} (h : document.find? key = value.map .int)
    (hfits : ∀ n ∈ value, -2147483648 ≤ n ∧ n ≤ 2147483647) (current : ℤ) :
    memberOr document key asInt32 current = value.getD current := by
  rw [memberOr, h]
  cases value with
  | none => rfl
  | some n => exact Json.toInt32_of_range (hfits n rfl)

theorem memberOr_json {key : String} {value : Option Json} (h : document.find? key = value)
    (current : Json) : memberOr document key some current = value.getD current := by
  rw [memberOr, h]
  cases value <;> rfl

/-- **Merging** the options. -/
theorem storedBy_options
    (hmembers : ∀ key, key ≠ "req" → document.find? key = (options.entries.lookup key).join)
    (hfits : (Command.setSettings options).Fits) : options.StoredBy document := by
  intro settings
  simp only [merged, SettingsOptions.applied, SettingsState.mk.injEq]
  refine ⟨memberOr_string (hmembers "volume" (by decide)) _,
    memberOr_int (hmembers "brightness" (by decide)) ?_ _,
    memberOr_int (hmembers "contrast" (by decide)) ?_ _,
    memberOr_string (hmembers "language" (by decide)) _,
    memberOr_string (hmembers "defaultActiveMode" (by decide)) _,
    memberOr_string (hmembers "activeMode" (by decide)) _,
    memberOr_string (hmembers "defaultVisualMode" (by decide)) _,
    memberOr_string (hmembers "visualMode" (by decide)) _,
    memberOr_json (hmembers "extra1" (by decide)) _, memberOr_json (hmembers "extra2" (by decide)) _⟩
  · intro n hn
    exact hfits n (List.mem_append_left _ (Option.mem_toList.mpr hn))
  · intro n hn
    exact hfits n (List.mem_append_right _ (Option.mem_toList.mpr hn))

end Options

theorem value_of_find? {α : Type} {get : Json → Except Fault α} {j v : Json} {key : String} (fallback : α)
    (h : j.find? key = some v) : j.value get key fallback = get v := by
  cases j with
  | obj members =>
    rw [Json.find?_obj] at h
    rw [Json.value, h]
  | _ => cases h

/-- The arguments of a new tab or shortcut. -/
theorem decodeNew_of_members {document : Json} {url iconUrl : String} {preferredPos flags : ℤ}
    (k : String → String → ℤ → ℤ → Request) (hurl : document.find? "url" = some (.str url))
    (hicon : document.find? "iconUrl" = some (.str iconUrl))
    (hpos : document.find? "preferredPos" = some (.int preferredPos))
    (hflags : document.find? "flags" = some (.int flags))
    (hfits : ∀ n ∈ [preferredPos, flags], -2147483648 ≤ n ∧ n ≤ 2147483647) :
    decodeNew P document k = .ok (k url iconUrl preferredPos flags) := by
  have hurl' : stringAt document "url" = .ok url := stringAt_of_member (by rw [stringMember, hurl]; rfl)
  have hpos' := Json.toInt32_of_range (hfits preferredPos List.mem_cons_self)
  have hflags' := Json.toInt32_of_range (hfits flags (List.mem_cons_of_mem _ List.mem_cons_self))
  rw [decodeNew, value_of_find? _ hicon, value_of_find? _ hpos, value_of_find? _ hflags, hurl']
  show Except.ok (k url iconUrl (Json.toInt32 preferredPos) (Json.toInt32 flags)) = _
  rw [hpos', hflags']

/-- The sound that is played for supported flags. -/
theorem soundFor_of_supported (soundId : String) {n : ℕ} (h : SupportedFlags n) :
    soundFor soundId (UInt32.ofNat n) = if soundId ∈ soundAliases then some soundId
      else if n.testBit 1 = true then none else some "SystemNotification" := by
  have hn : n % 4294967296 = n := Nat.mod_eq_of_lt (h.lt.trans (by decide))
  obtain ⟨hmask, halias⟩ := (supportedFlags_iff n).mpr (hn.symm ▸ h)
  have hdefault : UInt32.ofNat n &&& SOUNDFLAG_NODEFAULT ≠ 0 ↔ n.testBit 1 = true := by
    rw [and_bit_ne_zero_iff (k := 1) _ rfl, UInt32.toNat_ofNat']
    exact iff_of_eq (congrArg (fun n => Nat.testBit n 1 = true) hn)
  have hsupported : isSupportedSoundAlias soundId = true ↔ soundId ∈ soundAliases := decide_eq_true_iff
  rw [soundFor, if_neg (not_not_intro hmask), if_neg halias]
  exact if_congr hsupported rfl (if_congr hdefault rfl rfl)

/-- **A sound** is decoded as it is meant, unless its flags are misread. -/
theorem decodePlaySound_of_members {document : Json} {soundId soundFlags : String}
    (hid : stringMember document "soundId" = some soundId)
    (hflags : stringMember document "soundFlags" = some soundFlags) (hclear : ¬ Misread soundFlags) :
    PlaySoundMeans soundId soundFlags (decodePlaySound document) := by
  by_cases hdenotes : DenotesFlags soundFlags
  · obtain ⟨n, hnumeral, hsupported⟩ := hdenotes
    have hread := soundFlagsOf_of_numeral hflags hnumeral (hsupported.lt.trans (by decide))
    rw [decodePlaySound, hid, hread]
    dsimp only
    rw [soundFor_of_supported soundId hsupported]
    by_cases halias : soundId ∈ soundAliases
    · rw [if_pos halias]
      exact .standard hnumeral hsupported halias
    · rw [if_neg halias]
      cases hbit : n.testBit 1 with
      | true =>
        rw [if_pos rfl]
        exact .unknown hnumeral hsupported halias hbit
      | false =>
        rw [if_neg Bool.false_ne_true]
        exact .replaced hnumeral hsupported halias hbit
  · rw [decodePlaySound_refused fun hpasses => ?_]
    · exact .noFlags hdenotes
    · rcases denotesFlags_or_misread hflags hpasses with hdenotes' | hmisread
      · exact hdenotes hdenotes'
      · exact hclear hmisread

theorem decodeIAmAlive_tab {document : Json} {tabId : String} {ttl : ℤ}
    (hid : stringMember document "tabId" = some tabId) (hother : stringMember document "shortcutId" = none)
    (httl : document.find? "TTL" = some (.int ttl)) (hfits : (Command.iamAliveTab tabId ttl).Fits) :
    (Command.iamAliveTab tabId ttl).Means token (decodeIAmAlive document) := by
  show decodeIAmAlive document = _
  rw [decodeIAmAlive, httl, hid, hother]
  exact congrArg (fun n => if n < 0 then Request.Refused else .IAmAliveTab tabId n)
    (Json.toInt32_of_range (hfits ttl List.mem_cons_self))

theorem decodeIAmAlive_shortcut {document : Json} {shortcutId : String} {ttl : ℤ}
    (hid : stringMember document "shortcutId" = some shortcutId)
    (hother : stringMember document "tabId" = none) (httl : document.find? "TTL" = some (.int ttl))
    (hfits : (Command.iamAliveShortcut shortcutId ttl).Fits) :
    (Command.iamAliveShortcut shortcutId ttl).Means token (decodeIAmAlive document) := by
  show decodeIAmAlive document = _
  rw [decodeIAmAlive, httl, hother, hid]
  exact congrArg (fun n => if n < 0 then Request.Refused else .IAmAliveShortcut shortcutId n)
    (Json.toInt32_of_range (hfits ttl List.mem_cons_self))

section Documents

variable {document payload : Json} {requestText : Bytes}

theorem stringMember_of_payload (hmembers : ∀ key, document.find? key = payload.find? key) (key : String) :
    stringMember document key = stringMember payload key := by
  rw [stringMember, stringMember, hmembers]

theorem stringAt_of_payload (hmembers : ∀ key, document.find? key = payload.find? key) {key s : String}
    (h : stringMember payload key = some s) : stringAt document key = .ok s :=
  stringAt_of_member ((stringMember_of_payload hmembers key).trans h)

/-- The name of the request decides how the document is read. -/
theorem decode_of_req (hparse : P.parse requestText = some document)
    (hmembers : ∀ key, document.find? key = payload.find? key) {reqName : String}
    (hreq : stringMember payload "req" = some reqName) :
    decode P requestText = decodeAs P document (convertStringToMadtRequest reqName) := by
  rw [decode, hparse]
  show attempt (stringAt document "req") _ = _
  rw [stringAt_of_payload hmembers hreq]
  rfl

theorem members_of_controlPayload {reqName password controlPsk : String}
    (h : controlPayload token reqName password controlPsk = some payload) :
    stringMember payload "req" = some reqName
      ∧ stringMember payload "password" = controlPassword token reqName password controlPsk := by
  obtain ⟨sent, hsent, hsome⟩ := Option.bind_eq_some_iff.mp h
  split at hsome
  · cases hsome
  · obtain rfl := Option.some.inj hsome
    exact ⟨rfl, hsent.symm⟩

/-- **The patch** of the options is taken just if they are valid. -/
theorem decode_options {options : SettingsOptions}
    (hmembers : ∀ key, document.find? key
      = (Json.obj (("req", .str "SetSettings") :: given options.entries)).find? key)
    (hfits : (Command.setSettings options).Fits) :
    (Command.setSettings options).Means token
      (if patchError document = none then .SetSettings document else .Refused) := by
  have hfind : ∀ key, key ≠ "req" → document.find? key = (options.entries.lookup key).join :=
    fun key hkey => find?_options hmembers hkey
  have hobject : document.isObject = true := by
    have hreq := hmembers "req"
    cases document with
    | obj members => rfl
    | _ => cases hreq
  have hvalid := (accepted_iff (fun _ => 0) hobject).trans (patchRules_options hfind hfits)
  rw [isValidSettingsPatch_eq, Except.ok.injEq] at hvalid
  by_cases h : options.Valid
  · exact Or.inl ⟨h, document, if_pos (hvalid.mpr h), storedBy_options hfind hfits⟩
  · exact Or.inr ⟨h, if_neg fun hnone => h (hvalid.mp hnone)⟩

end Documents

/-- **What the server reads.**  From the text that a command line is sent as, it reads the request that the
command line stands for. -/
theorem decode_payload {command : Command} {payload : Json} {requestText : Bytes}
    (hpayload : makePayload token command = some payload) (hfits : command.Fits)
    (hclear : ∀ soundFlags ∈ command.soundFlags?, ¬ Misread soundFlags) (hreads : Reads P requestText payload) :
    ∃ request, decode P requestText = .ok request ∧ command.Means token request := by
  obtain ⟨document, hparse, hmembers⟩ := hreads
  have hmember := stringMember_of_payload hmembers
  have hstring : ∀ key {s}, stringMember payload key = some s → stringAt document key = .ok s :=
    fun key _ h => stringAt_of_payload hmembers h
  have hdecode : ∀ {reqName}, stringMember payload "req" = some reqName → _ :=
    fun h => decode_of_req hparse hmembers h
  cases command with
  | stop password controlPsk =>
    obtain ⟨hreq, hpassword⟩ := members_of_controlPayload hpayload
    exact ⟨_, hdecode hreq, congrArg Request.Stop ((hmember "password").trans hpassword)⟩
  | restart password controlPsk =>
    obtain ⟨hreq, hpassword⟩ := members_of_controlPayload hpayload
    exact ⟨_, hdecode hreq, congrArg Request.Restart ((hmember "password").trans hpassword)⟩
  | setSettings options =>
    obtain rfl := Option.some.inj hpayload
    exact ⟨_, hdecode rfl, decode_options hmembers hfits⟩
  | playSound soundId soundFlags =>
    obtain rfl := Option.some.inj hpayload
    exact ⟨_, hdecode rfl,
      decodePlaySound_of_members (hmember "soundId") (hmember "soundFlags") (hclear soundFlags rfl)⟩
  | newWebTab url iconUrl preferredPos flags =>
    obtain rfl := Option.some.inj hpayload
    have hnew := decodeNew_of_members (P := P) .NewWebTab (hmembers "url") (hmembers "iconUrl")
      (hmembers "preferredPos") (hmembers "flags") hfits
    exact ⟨_, (hdecode rfl).trans hnew, rfl⟩
  | newShortcut url iconUrl preferredPos flags =>
    obtain rfl := Option.some.inj hpayload
    have hnew := decodeNew_of_members (P := P) .NewShortcut (hmembers "url") (hmembers "iconUrl")
      (hmembers "preferredPos") (hmembers "flags") hfits
    exact ⟨_, (hdecode rfl).trans hnew, rfl⟩
  | activateTab tabId | blinkTab tabId | killTab tabId =>
    obtain rfl := Option.some.inj hpayload
    refine ⟨_, (hdecode rfl).trans ?_, rfl⟩
    show attempt (stringAt document "tabId") _ = _
    rw [hstring "tabId" rfl]
    rfl
  | killShortcut shortcutId =>
    obtain rfl := Option.some.inj hpayload
    refine ⟨_, (hdecode rfl).trans ?_, rfl⟩
    show attempt (stringAt document "shortcutId") _ = _
    rw [hstring "shortcutId" rfl]
    rfl
  | navigateTo tabId url =>
    obtain rfl := Option.some.inj hpayload
    refine ⟨_, (hdecode rfl).trans ?_, rfl⟩
    show decodeNavigateTo P document = _
    rw [decodeNavigateTo, hstring "tabId" rfl, hstring "url" rfl]
    exact ite_self _
  | iamAliveTab tabId ttl =>
    obtain rfl := Option.some.inj hpayload
    exact ⟨_, hdecode rfl, decodeIAmAlive_tab (hmember "tabId") (hmember "shortcutId") (hmembers "TTL") hfits⟩
  | iamAliveShortcut shortcutId ttl =>
    obtain rfl := Option.some.inj hpayload
    exact ⟨_, hdecode rfl,
      decodeIAmAlive_shortcut (hmember "shortcutId") (hmember "tabId") (hmembers "TTL") hfits⟩
  | getTabMap password =>
    obtain rfl := Option.some.inj hpayload
    exact ⟨_, hdecode rfl, congrArg Request.GetTabMap (hmember "password")⟩
  | getShortcuts password =>
    obtain rfl := Option.some.inj hpayload
    exact ⟨_, hdecode rfl, congrArg Request.GetShortcuts (hmember "password")⟩
  | _ =>
    obtain rfl := Option.some.inj hpayload
    exact ⟨_, hdecode rfl, rfl⟩

/-- An exchange on the connection is a request that was carried out. -/
theorem request_of_exchange {moves : G → G → Prop} {bev : Conn} {w w' : World G} {e : Event I}
    {requestText : Bytes} {json : Json} (hstep : Step P moves w e w')
    (h : exchange bev (w, e, w') = some (requestText, json)) :
    ∃ i request, e = .request i bev requestText ∧ decode P requestText = .ok request
      ∧ (plan P i bev w.server request).run P i bev w = some w' ∧ w'.sent = w.sent ++ [(bev, json)] := by
  cases hstep with
  | request hout =>
    rename_i i bev' requestText'
    obtain ⟨request, hdecode, hplan⟩ := decoded_of_outcome hout
    obtain ⟨x, json', -, -, hsent⟩ := effect_of_run hplan
    rw [exchange, hsent, List.drop_left] at h
    split at h
    next hbev =>
      obtain ⟨rfl, rfl⟩ := Prod.mk.inj (Option.some.inj h)
      subst hbev
      exact ⟨i, request, rfl, hdecode, hplan, hsent⟩
    next => cases h
  | close bev' => cases h
  | tick now => cases h
  | gui hmoves => cases h

/-- **A client gets its answer.**  A command line is sent on a connection of its own, in whatever pieces,
while the other connections, the timer and the GUI do whatever they do.  When all of it has come in, the server
has carried out one request for this connection, the one that is meant, and its answer is all that is
written to the connection. -/
theorem answered_of_client {moves : G → G → Prop} {py : Python} {command : Command} {payload : Json}
    (hpayload : makePayload token command = some payload) (hfits : command.Fits)
    (hclear : ∀ soundFlags ∈ command.soundFlags?, ¬ Misread soundFlags)
    (htext : JsonText.Text .object (py.dumps payload)) (hreads : Reads P (py.dumps payload) payload)
    {w : World G} {t a b : Transport G} {bev : Conn}
    {before session : List (Transport G × TransportEvent I × Transport G)}
    (hrun : Steps (Traced (TransportStep P moves)) (.start { buffers := ∅, world := w })
      (before ++ (a, .accept bev, b) :: session) t)
    (hends : ∀ entry ∈ session, ¬ EndsSession bev entry)
    (hbytes : session.flatMap (received bev) = py.dumps payload) :
    ∃ c past future i request json w₁ w₂, t.connections bev = some c
      ∧ Steps (Traced (Step P moves)) a.service.world
          (past ++ (w₁, .request i bev (py.dumps payload), w₂) :: future) t.service.world
      ∧ (∀ entry ∈ past ++ future, exchange bev entry = none)
      ∧ command.Means token request
      ∧ (plan P i bev w₁.server request).run P i bev w₁ = some w₂
      ∧ w₂.sent = w₁.sent ++ [(bev, json)]
      ∧ c.responses = [json] ∧ c.written ++ c.output = P.dump json := by
  obtain ⟨request, hdecode, hmeans⟩ := decode_payload hpayload hfits hclear hreads
  have hsound := sound_of_run hrun
  obtain ⟨_, _, hbefore, ⟨rfl, rfl, haccept⟩, hsession⟩ := hrun.split
  have hstream : Framing.streamOf [⟨[], py.dumps payload, [], ws_nil, htext, ws_nil⟩] = py.dumps payload := by
    simp [Framing.streamOf]
  obtain ⟨c, trace, hc, hsteps, -, htexts, hanswers⟩ :=
    exchanges_of_session hbefore haccept hsession hends (hbytes.trans hstream.symm)
  obtain ⟨⟨text, json⟩, hexchange⟩ : ∃ sent, trace.filterMap (exchange bev) = [sent] := by
    apply List.length_eq_one_iff.mp
    rw [← List.length_map (f := Prod.fst), htexts]
    rfl
  rw [hexchange] at htexts hanswers
  obtain ⟨past, entry, future, rfl, hpast, hentry, hfuture⟩ := List.filterMap_eq_cons_iff.mp hexchange
  have hnone : ∀ entry ∈ past ++ future, exchange bev entry = none := by
    intro entry hmem
    rcases List.mem_append.mp hmem with hmem | hmem
    · exact hpast entry hmem
    · exact List.filterMap_eq_nil_iff.mp hfuture entry hmem
  obtain ⟨_, _, -, ⟨rfl, rfl, hstep⟩, -⟩ := hsteps.split
  obtain ⟨w₁, e, w₂⟩ := entry
  obtain ⟨i, request', rfl, hdecode', hplan, hsent⟩ := request_of_exchange hstep hentry
  obtain rfl : text = py.dumps payload := List.head_eq_of_cons_eq htexts
  obtain rfl : request' = request := Except.ok.inj (hdecode'.symm.trans hdecode)
  have hwritten : c.written ++ c.output = c.responses.flatMap P.dump := hsound bev c hc
  have hresponses : c.responses = [json] := hanswers.symm
  refine ⟨c, past, future, i, request', json, w₁, w₂, hc, hsteps, hnone, hmeans, hplan, hsent, hresponses, ?_⟩
  rw [hwritten, hresponses]
  exact List.flatMap_singleton _ _

end Reading

/-! ### A client that plays a sound -/

def playSoundText : Bytes :=
  utf8 "\x7b\"req\":\"PlaySound\",\"soundFlags\":\"0x00010001\",\"soundId\":\"SystemExit\"\x7d"

def playSoundPayload : Json :=
  .obj [("req", .str "PlaySound"), ("soundFlags", .str "0x00010001"), ("soundId", .str "SystemExit")]

def playSoundPlatform : Platform Gui.Outside Gui.GuiState :=
  .sample [(playSoundText, playSoundPayload)] [] (utf8 "\x7b\"retCode\":0\x7d")

/-- A Python whose `json.dumps` is asked for this payload. -/
def playSoundPython : Python := { samplePython with dumps := fun _ => playSoundText }

theorem object_playSoundText : JsonText.Text .object playSoundText := by
  have hreq : JsonText.Chars (utf8 "req") := chars_of_printable (by decide +kernel)
  have hname : JsonText.Chars (utf8 "PlaySound") := chars_of_printable (by decide +kernel)
  have hflagsKey : JsonText.Chars (utf8 "soundFlags") := chars_of_printable (by decide +kernel)
  have hflags : JsonText.Chars (utf8 "0x00010001") := chars_of_printable (by decide +kernel)
  have hidKey : JsonText.Chars (utf8 "soundId") := chars_of_printable (by decide +kernel)
  have hid : JsonText.Chars (utf8 "SystemExit") := chars_of_printable (by decide +kernel)
  exact .object (@JsonText.Text.members [] (utf8 "req") [] [] (JsonText.quoted (utf8 "PlaySound")) [] _
    ws_nil hreq ws_nil ws_nil (.string hname) ws_nil
    (@JsonText.Text.members [] (utf8 "soundFlags") [] [] (JsonText.quoted (utf8 "0x00010001")) [] _
      ws_nil hflagsKey ws_nil ws_nil (.string hflags) ws_nil
      (@JsonText.Text.member [] (utf8 "soundId") [] [] (JsonText.quoted (utf8 "SystemExit")) []
        ws_nil hidKey ws_nil ws_nil (.string hid) ws_nil)))

/-- The flags that the client has by default. -/
theorem numeral_defaultFlags : CString.Numeral "0x00010001".toList 65537 := by
  have hdigits : CString.Digits 16 ['0', '0', '0', '1', '0', '0', '0', '1'] :=
    ⟨by decide, List.all_eq_true.mp (by decide)⟩
  have hvalue : CString.ofDigits 16 ['0', '0', '0', '1', '0', '0', '0', '1'] = 65537 := by decide
  exact hvalue ▸ .hexadecimal (Or.inl rfl) hdigits

theorem supportedFlags_default : SupportedFlags 65537 :=
  (supportedFlags_iff 65537).mp (by decide)

/-- The text comes in two pieces, with the timer in between. -/
theorem answered_of_client_playSound : ∃ (a b t : Transport Gui.GuiState) (before session : List
      (Transport Gui.GuiState × TransportEvent Gui.Outside × Transport Gui.GuiState)),
    Steps (Traced (TransportStep playSoundPlatform Gui.GuiState.Moves)) (.start sampleService)
        (before ++ (a, .accept 7, b) :: session) t
      ∧ ∃ c past future i request json w₁ w₂, t.connections 7 = some c
        ∧ Steps (Traced (Step playSoundPlatform Gui.GuiState.Moves)) a.service.world
            (past ++ (w₁, .request i 7 playSoundText, w₂) :: future) t.service.world
        ∧ (∀ entry ∈ past ++ future, exchange 7 entry = none)
        ∧ request = .PlaySound "SystemExit" 0x00010001
        ∧ (plan playSoundPlatform i 7 w₁.server request).run playSoundPlatform i 7 w₁ = some w₂
        ∧ w₂.sent = w₁.sent ++ [(7, json)]
        ∧ c.responses = [json] ∧ c.written ++ c.output = playSoundPlatform.dump json := by
  have hrun : Steps (Traced (TransportStep playSoundPlatform Gui.GuiState.Moves)) (.start sampleService)
      ([] ++ (_, .accept 7, _) ::
        [(_, .read (fun _ _ => sampleInput) 7 (playSoundText.take 9), _), (_, .tick 5, _),
          (_, .read (fun _ _ => sampleInput) 7 (playSoundText.drop 9), _)]) _ :=
    .cons ⟨rfl, rfl, .accept rfl⟩ (.cons ⟨rfl, rfl, .read rfl rfl⟩ (.cons ⟨rfl, rfl, .tick _ 5⟩
      (.cons ⟨rfl, rfl, .read rfl rfl⟩ (.nil _))))
  refine ⟨_, _, _, _, _, hrun, ?_⟩
  have hbytes : playSoundText.take 9 ++ ([] ++ (playSoundText.drop 9 ++ [])) = playSoundText := by decide
  have hpayload : makePayload (fun _ _ => none) (.playSound "SystemExit" "0x00010001")
      = some playSoundPayload := rfl
  have hfits : (Command.playSound "SystemExit" "0x00010001").Fits := fun _ hmem => by cases hmem
  have hdenotes : DenotesFlags "0x00010001" := ⟨_, numeral_defaultFlags, supportedFlags_default⟩
  have hclear : ∀ soundFlags ∈ (Command.playSound "SystemExit" "0x00010001").soundFlags?,
      ¬ Misread soundFlags := by
    rintro soundFlags ⟨⟩ hmisread
    exact not_denotesFlags_of_misread hmisread hdenotes
  have htext : JsonText.Text .object (playSoundPython.dumps playSoundPayload) := object_playSoundText
  have hreads : Reads playSoundPlatform (playSoundPython.dumps playSoundPayload) playSoundPayload :=
    ⟨playSoundPayload, rfl, fun _ => rfl⟩
  obtain ⟨c, past, future, i, request, json, w₁, w₂, hc, hsteps, hnone, hmeans, hrest⟩ :=
    answered_of_client hpayload hfits hclear htext hreads hrun (List.forall_mem_cons.mpr ⟨id,
      List.forall_mem_cons.mpr ⟨id, List.forall_mem_cons.mpr ⟨id, List.forall_mem_nil _⟩⟩⟩) hbytes
  refine ⟨c, past, future, i, request, json, w₁, w₂, hc, hsteps, hnone, ?_, hrest⟩
  have hstandard : "SystemExit" ∈ soundAliases := by decide
  cases hmeans with
  | standard hflags _ _ => rw [hflags.unique numeral_defaultFlags]; rfl
  | replaced _ _ hid _ => exact absurd hstandard hid
  | unknown _ _ hid _ => exact absurd hstandard hid
  | noFlags hflags => exact absurd hdenotes hflags

end OpenMadt
