import OpenMadt.SettingsRules

/-!
# Patches of the settings

`settingsToJson`, `isValidSettingsPatch` and `mergeSettings` are three passes over the same ten keys.
Here they are compared with each other, member by member.

* `PatchRules` — the rules for the members of a patch; `accepted_iff` — validation checks them, with the
  integers read as `int`.
* `find?_merged` — what a merge stores under each key.
* `checked_and_stored_iff` — for which patches that is what the patch says, integers of any size included.
* `settings_laws` — sending settings as a patch, merging twice, and members that are no settings.
-/

namespace OpenMadt

/-- The keys of the settings. -/
def settingsKeys : List String := (settingsMembers {}).map Prod.fst

/-! ### The rules -/

/-- The member is a string. -/
def IsText (v : Json) : Prop := ∃ s, v = .str s

/-- The member is an integer, and in range once it is read. -/
def IsByte (read : ℤ → ℤ) (v : Json) : Prop := ∃ n, v = .int n ∧ 0 ≤ read n ∧ read n ≤ 255

/-- The member is one of the names. -/
def IsMode (allowed : List String) (v : Json) : Prop := ∃ name ∈ allowed, v = .str name

/-- The rule for each key that is checked; `read` says which number an integer stands for. -/
def memberRules (read : ℤ → ℤ) : List (String × (Json → Prop)) :=
  [("volume", IsText), ("brightness", IsByte read), ("contrast", IsByte read), ("language", IsText),
    ("defaultActiveMode", IsMode activeModes), ("activeMode", IsMode activeModes),
    ("defaultVisualMode", IsMode visualModes), ("visualMode", IsMode visualModes)]

/-- Every member that the patch has keeps its rule. -/
def PatchRules (read : ℤ → ℤ) (patch : Json) : Prop :=
  ∀ rule ∈ memberRules read, ∀ v, patch.find? rule.1 = some v → rule.2 v

theorem isString_iff (v : Json) : (!v.isString) = false ↔ IsText v := by
  cases v with
  | str s => exact iff_of_true rfl ⟨s, rfl⟩
  | _ =>
    refine iff_of_false (by simp [Json.isString]) ?_
    rintro ⟨s, hs⟩
    cases hs

theorem badByte_iff (v : Json) : badByte v = false ↔ IsByte Json.toInt32 v := by
  constructor
  · intro h
    cases v with
    | int n =>
      have hrange : ¬ Json.toInt32 n < 0 ∧ ¬ Json.toInt32 n > 255 := by simpa [badByte] using h
      exact ⟨n, rfl, by omega, by omega⟩
    | _ => cases h
  · rintro ⟨n, rfl, hlo, hhi⟩
    simp only [badByte, Bool.or_eq_false_iff, decide_eq_false_iff_not]
    omega

theorem badMode_iff (allowed : List String) (v : Json) : badMode allowed v = false ↔ IsMode allowed v := by
  constructor
  · intro h
    obtain ⟨name, hname, hmem⟩ := mem_of_not_badMode h
    exact ⟨name, hmem, hname⟩
  · rintro ⟨name, hmem, rfl⟩
    exact badMode_eq_false hmem

/-- A check of a member that may be missing. -/
theorem any_eq_false_iff {bad : Json → Bool} {rule : Json → Prop} (h : ∀ v, bad v = false ↔ rule v)
    (member : Option Json) : member.any bad = false ↔ ∀ v, member = some v → rule v := by
  cases member with
  | none => simp
  | some v => simp [h]

/-- **Validation** checks the rules, with every integer read as an `int`. -/
theorem accepted_iff (undefinedCast : Rat → ℤ) {patch : Json} (hobject : patch.isObject = true) :
    isValidSettingsPatch undefinedCast patch = .ok none ↔ PatchRules Json.toInt32 patch := by
  rw [isValidSettingsPatch_eq, Except.ok.injEq]
  simp only [patchError, rejected_eq_none_iff, PatchRules, memberRules, List.forall_mem_cons,
    List.not_mem_nil, false_implies, implies_true, and_true, any_eq_false_iff isString_iff,
    any_eq_false_iff badByte_iff, any_eq_false_iff (badMode_iff _), hobject, Bool.not_true, true_and]

theorem mergeSettings_of_accepted {undefinedCast : Rat → ℤ} (current : SettingsState) {patch : Json}
    (h : isValidSettingsPatch undefinedCast patch = .ok none) :
    mergeSettings undefinedCast current patch = .ok (merged current patch) := by
  rw [isValidSettingsPatch_eq, Except.ok.injEq] at h
  exact mergeSettings_eq undefinedCast current h

theorem isObject_of_accepted {undefinedCast : Rat → ℤ} {patch : Json}
    (h : isValidSettingsPatch undefinedCast patch = .ok none) : patch.isObject = true := by
  rw [isValidSettingsPatch_eq, Except.ok.injEq] at h
  by_contra hnot
  rw [patchError, Bool.eq_false_of_not_eq_true hnot] at h
  cases h

/-- The rules for the numbers themselves are stricter than those for their low 32 bits. -/
theorem PatchRules.narrowed {patch : Json} (h : PatchRules id patch) : PatchRules Json.toInt32 patch := by
  have hbyte : ∀ {v}, IsByte id v → IsByte Json.toInt32 v := by
    rintro v ⟨n, rfl, hlo, hhi⟩
    refine ⟨n, rfl, ?_⟩
    rw [Json.toInt32_of_range (by simp only [id] at hlo hhi; omega)]
    exact ⟨hlo, hhi⟩
  simp only [PatchRules, memberRules, List.forall_mem_cons] at h ⊢
  obtain ⟨hvolume, hbrightness, hcontrast, hrest⟩ := h
  exact ⟨hvolume, fun v hv => hbyte (hbrightness v hv), fun v hv => hbyte (hcontrast v hv), hrest⟩

/-- The keys whose members are numbers. -/
def byteKeys : List String := ["brightness", "contrast"]

/-- The two are the same if all numbers are in range. -/
theorem patchRules_of_narrowed {patch : Json} (h : PatchRules Json.toInt32 patch)
    (hrange : ∀ key ∈ byteKeys, ∀ n, patch.find? key = some (.int n) → 0 ≤ n ∧ n ≤ 255) :
    PatchRules id patch := by
  have hbyte : ∀ key ∈ byteKeys, ∀ v, patch.find? key = some v → IsByte Json.toInt32 v → IsByte id v := by
    rintro key hkey v hv ⟨n, rfl, -⟩
    exact ⟨n, rfl, hrange key hkey n hv⟩
  simp only [PatchRules, memberRules, List.forall_mem_cons] at h ⊢
  obtain ⟨hvolume, hbrightness, hcontrast, hrest⟩ := h
  refine ⟨hvolume, fun v hv => ?_, fun v hv => ?_, hrest⟩
  · exact hbyte "brightness" (by simp [byteKeys]) v hv (hbrightness v hv)
  · exact hbyte "contrast" (by simp [byteKeys]) v hv (hcontrast v hv)

/-! ### What is stored -/

/-- A member that can be read and written back. -/
theorem find?_memberOr {α : Type} {patch : Json} {key : String} {pick : Json → Option α} (write : α → Json)
    (current : α) (h : ∀ v, patch.find? key = some v → ∃ a, pick v = some a ∧ write a = v) :
    some (write (memberOr patch key pick current)) = (patch.find? key).or (some (write current)) := by
  rw [memberOr]
  cases hv : patch.find? key with
  | none => rfl
  | some v =>
    obtain ⟨a, hpick, hwrite⟩ := h v hv
    rw [Option.bind_some, hpick, Option.getD_some, hwrite]
    rfl

theorem IsText.reads {v : Json} (h : IsText v) : ∃ s, asString v = some s ∧ Json.str s = v := by
  obtain ⟨s, rfl⟩ := h
  exact ⟨s, rfl, rfl⟩

theorem IsMode.reads {allowed : List String} {v : Json} (h : IsMode allowed v) :
    ∃ s, asString v = some s ∧ Json.str s = v := by
  obtain ⟨s, -, rfl⟩ := h
  exact ⟨s, rfl, rfl⟩

theorem IsByte.reads {v : Json} (h : IsByte id v) : ∃ n, asInt32 v = some n ∧ Json.int n = v := by
  obtain ⟨n, rfl, hlo, hhi⟩ := h
  simp only [id] at hlo hhi
  exact ⟨n, congrArg some (Json.toInt32_of_range (by omega)), rfl⟩

/-- **What a merge stores** under each key: the member of the patch, or the current one. -/
theorem find?_merged {patch : Json} (h : PatchRules id patch) (current : SettingsState) :
    ∀ key ∈ settingsKeys, (settingsToJson (merged current patch)).find? key
      = (patch.find? key).or ((settingsToJson current).find? key) := by
  simp only [PatchRules, memberRules, List.forall_mem_cons] at h
  obtain ⟨hvolume, hbrightness, hcontrast, hlanguage, hdefaultActive, hactive, hdefaultVisual, hvisual, -⟩ := h
  simp only [settingsKeys, settingsMembers, List.map_cons, List.map_nil, List.forall_mem_cons,
    List.not_mem_nil, false_implies, implies_true, and_true]
  exact ⟨find?_memberOr Json.str current.volume fun v hv => (hvolume v hv).reads,
    find?_memberOr Json.int current.brightness fun v hv => (hbrightness v hv).reads,
    find?_memberOr Json.int current.contrast fun v hv => (hcontrast v hv).reads,
    find?_memberOr Json.str current.language fun v hv => (hlanguage v hv).reads,
    find?_memberOr Json.str current.defaultActiveMode fun v hv => (hdefaultActive v hv).reads,
    find?_memberOr Json.str current.activeMode fun v hv => (hactive v hv).reads,
    find?_memberOr Json.str current.defaultVisualMode fun v hv => (hdefaultVisual v hv).reads,
    find?_memberOr Json.str current.visualMode fun v hv => (hvisual v hv).reads,
    find?_memberOr id current.extra1 fun v _ => ⟨v, rfl, rfl⟩,
    find?_memberOr id current.extra2 fun v _ => ⟨v, rfl, rfl⟩⟩

/-- **What `SetSettings` is to do with a patch**: it is accepted exactly if its members keep the rules, every
integer taken as it is; and then each of the ten settings is the member of the patch under its key, if
there is one, and the current setting otherwise. -/
structure CheckedAndStored (undefinedCast : Rat → ℤ) (current : SettingsState) (patch : Json) : Prop where
  checked : isValidSettingsPatch undefinedCast patch = .ok none ↔ PatchRules id patch
  stored : isValidSettingsPatch undefinedCast patch = .ok none →
    ∃ s, mergeSettings undefinedCast current patch = .ok s ∧ ∀ key ∈ settingsKeys,
      (settingsToJson s).find? key = (patch.find? key).or ((settingsToJson current).find? key)

/-- **For which patches it does so**: those without a number out of range, and those that break a rule even
with their numbers read as `int`. -/
theorem checked_and_stored_iff (undefinedCast : Rat → ℤ) (current : SettingsState) {patch : Json}
    (hobject : patch.isObject = true) : CheckedAndStored undefinedCast current patch
      ↔ (∀ key ∈ byteKeys, ∀ n, patch.find? key = some (.int n) → 0 ≤ n ∧ n ≤ 255)
        ∨ ¬ PatchRules Json.toInt32 patch := by
  have haccepted := accepted_iff undefinedCast hobject
  constructor
  · rintro ⟨hchecked, -⟩
    by_cases hnarrow : PatchRules Json.toInt32 patch
    · have hrules := hchecked.mp (haccepted.mpr hnarrow)
      simp only [PatchRules, memberRules, List.forall_mem_cons] at hrules
      obtain ⟨-, hbrightness, hcontrast, -⟩ := hrules
      refine Or.inl fun key hkey n hn => ?_
      have hbyte : IsByte id (.int n) := by
        rcases List.mem_cons.mp hkey with rfl | hkey
        · exact hbrightness _ hn
        · obtain rfl := List.mem_singleton.mp hkey
          exact hcontrast _ hn
      obtain ⟨m, hm, hrange⟩ := hbyte
      cases hm
      exact hrange
    · exact Or.inr hnarrow
  · intro hcond
    have hrules : PatchRules Json.toInt32 patch → PatchRules id patch := fun hnarrow =>
      patchRules_of_narrowed hnarrow (hcond.resolve_right (not_not.mpr hnarrow))
    refine ⟨haccepted.trans ⟨hrules, PatchRules.narrowed⟩, fun hok => ?_⟩
    exact ⟨merged current patch, mergeSettings_of_accepted current hok,
      find?_merged (hrules (haccepted.mp hok)) current⟩

/-- A dimmer screen and another mode. -/
def dimPatch : Json := .obj [("req", .str "SetSettings"), ("brightness", .int 40), ("visualMode", .str "MUTE")]

theorem checked_and_stored_dim : CheckedAndStored (fun _ => 0) {} dimPatch := by
  refine (checked_and_stored_iff (fun _ => 0) {} rfl).mpr (Or.inl fun key hkey n hn => ?_)
  rcases List.mem_cons.mp hkey with rfl | hkey
  · obtain rfl : (40 : ℤ) = n := Json.int.inj (Option.some.inj hn)
    decide
  · obtain rfl := List.mem_singleton.mp hkey
    cases hn

/-- A brightness of 2^32, which is zero as an `int`. -/
def brightPatch : Json := .obj [("brightness", .int 4294967296)]

/-- It is accepted. -/
theorem brightPatch_accepted : ¬ ∀ (undefinedCast : Rat → ℤ) (current : SettingsState) (patch : Json),
    patch.isObject = true → CheckedAndStored undefinedCast current patch := by
  intro hall
  have hrules := (hall (fun _ => 0) {} brightPatch rfl).checked.mp rfl
  simp only [PatchRules, memberRules, List.forall_mem_cons] at hrules
  obtain ⟨n, hn, -, hhi⟩ := hrules.2.1 _ rfl
  cases hn
  exact absurd hhi (by decide)

/-! ### Patches one after the other -/

/-- The patch `p`, overridden key by key by `q`. -/
def overridden : Json → Json → Json
  | .obj members, .obj members' => .obj (members' ++ members)
  | p, _ => p

theorem find?_overridden {p q : Json} (hp : p.isObject = true) (hq : q.isObject = true) (key : String) :
    (overridden p q).find? key = (q.find? key).or (p.find? key) := by
  cases p with
  | obj members =>
    cases q with
    | obj members' => exact List.lookup_append
    | _ => cases hq
  | _ => cases hp

theorem isObject_overridden {p q : Json} (hp : p.isObject = true) : (overridden p q).isObject = true := by
  cases p with
  | obj members => cases q <;> rfl
  | _ => cases hp

/-- The rules are about single members. -/
theorem PatchRules.overridden {read : ℤ → ℤ} {p q : Json} (hp : p.isObject = true) (hq : q.isObject = true)
    (h : PatchRules read p) (h' : PatchRules read q) : PatchRules read (overridden p q) := by
  intro rule hrule v hv
  rw [find?_overridden hp hq, Option.or_eq_some_iff] at hv
  rcases hv with hv | ⟨-, hv⟩
  · exact h' rule hrule v hv
  · exact h rule hrule v hv

/-- The later patch decides, and where it has no member the earlier one. -/
theorem memberOr_overridden {α : Type} {p q : Json} (hp : p.isObject = true) (hq : q.isObject = true)
    {key : String} {pick : Json → Option α} (current : α)
    (h : ∀ v, q.find? key = some v → ∃ a, pick v = some a) :
    memberOr (overridden p q) key pick current = memberOr q key pick (memberOr p key pick current) := by
  rw [memberOr, find?_overridden hp hq, memberOr]
  cases hv : q.find? key with
  | none => rfl
  | some v =>
    obtain ⟨a, ha⟩ := h v hv
    rw [Option.some_or, Option.bind_some, ha]
    rfl

theorem merged_overridden {p q : Json} (hp : p.isObject = true) (hq : q.isObject = true)
    (h : PatchRules Json.toInt32 q) (a : SettingsState) :
    merged a (overridden p q) = merged (merged a p) q := by
  have hread : ∀ {v}, (∃ s, asString v = some s ∧ Json.str s = v) → ∃ s, asString v = some s := by
    intro v hreads
    obtain ⟨s, hs, -⟩ := hreads
    exact ⟨s, hs⟩
  have hbyte : ∀ {v}, IsByte Json.toInt32 v → ∃ n, asInt32 v = some n := by
    rintro v ⟨n, rfl, -⟩
    exact ⟨_, rfl⟩
  simp only [PatchRules, memberRules, List.forall_mem_cons] at h
  obtain ⟨hvolume, hbrightness, hcontrast, hlanguage, hdefaultActive, hactive, hdefaultVisual, hvisual, -⟩ := h
  simp only [merged, SettingsState.mk.injEq]
  exact ⟨memberOr_overridden hp hq _ fun v hv => hread (hvolume v hv).reads,
    memberOr_overridden hp hq _ fun v hv => hbyte (hbrightness v hv),
    memberOr_overridden hp hq _ fun v hv => hbyte (hcontrast v hv),
    memberOr_overridden hp hq _ fun v hv => hread (hlanguage v hv).reads,
    memberOr_overridden hp hq _ fun v hv => hread (hdefaultActive v hv).reads,
    memberOr_overridden hp hq _ fun v hv => hread (hactive v hv).reads,
    memberOr_overridden hp hq _ fun v hv => hread (hdefaultVisual v hv).reads,
    memberOr_overridden hp hq _ fun v hv => hread (hvisual v hv).reads,
    memberOr_overridden hp hq _ fun v _ => ⟨v, rfl⟩, memberOr_overridden hp hq _ fun v _ => ⟨v, rfl⟩⟩

/-! ### Settings as a patch -/

/-- Settings are known by their members. -/
theorem settings_ext {s s' : SettingsState}
    (h : ∀ key ∈ settingsKeys, (settingsToJson s).find? key = (settingsToJson s').find? key) : s = s' := by
  simp only [settingsKeys, settingsMembers, List.map_cons, List.map_nil, List.forall_mem_cons] at h
  obtain ⟨hvolume, hbrightness, hcontrast, hlanguage, hdefaultActive, hactive, hdefaultVisual, hvisual, hextra1,
    hextra2, -⟩ := h
  have htext : ∀ {t t' : String}, some (Json.str t) = some (Json.str t') → t = t' :=
    fun h => Json.str.inj (Option.some.inj h)
  have hbyte : ∀ {n n' : ℤ}, some (Json.int n) = some (Json.int n') → n = n' :=
    fun h => Json.int.inj (Option.some.inj h)
  cases s
  cases s'
  rw [SettingsState.mk.injEq]
  exact ⟨htext hvolume, hbyte hbrightness, hbyte hcontrast, htext hlanguage, htext hdefaultActive,
    htext hactive, htext hdefaultVisual, htext hvisual, Option.some.inj hextra1, Option.some.inj hextra2⟩

/-- Valid settings keep the rules. -/
theorem patchRules_settingsToJson {b : SettingsState} (h : b.Valid) : PatchRules id (settingsToJson b) := by
  have hrule : ∀ {rule : Json → Prop} {member : Json}, rule member → ∀ v, some member = some v → rule v := by
    rintro rule member hmember v heq
    rwa [← Option.some.inj heq]
  simp only [PatchRules, memberRules, List.forall_mem_cons, List.not_mem_nil, false_implies, implies_true,
    and_true]
  exact ⟨hrule ⟨_, rfl⟩, hrule ⟨_, rfl, h.brightness⟩, hrule ⟨_, rfl, h.contrast⟩, hrule ⟨_, rfl⟩,
    hrule ⟨_, h.defaultActiveMode, rfl⟩, hrule ⟨_, h.activeMode, rfl⟩, hrule ⟨_, h.defaultVisualMode, rfl⟩,
    hrule ⟨_, h.visualMode, rfl⟩⟩

/-- They have all ten members. -/
theorem find?_settingsToJson (b : SettingsState) :
    ∀ key ∈ settingsKeys, ∃ v, (settingsToJson b).find? key = some v := by
  simp only [settingsKeys, settingsMembers, List.map_cons, List.map_nil, List.forall_mem_cons,
    List.not_mem_nil, false_implies, implies_true, and_true]
  exact ⟨⟨_, rfl⟩, ⟨_, rfl⟩, ⟨_, rfl⟩, ⟨_, rfl⟩, ⟨_, rfl⟩, ⟨_, rfl⟩, ⟨_, rfl⟩, ⟨_, rfl⟩, ⟨_, rfl⟩, ⟨_, rfl⟩⟩

theorem merged_settingsToJson (a : SettingsState) {b : SettingsState} (h : b.Valid) :
    merged a (settingsToJson b) = b := by
  refine settings_ext fun key hkey => ?_
  obtain ⟨v, hv⟩ := find?_settingsToJson b key hkey
  rw [find?_merged (patchRules_settingsToJson h) a key hkey, hv]
  rfl

/-! ### Other members -/

theorem mergeField_congr {α : Type} {p p' : Json} {key : String} (h : p.find? key = p'.find? key)
    (get : Json → Except Fault α) (store : α → SettingsState → SettingsState) (current : SettingsState) :
    mergeField p key get store current = mergeField p' key get store current := by
  rw [mergeField, mergeField, Json.contains, Json.contains, h]
  cases hv : p'.find? key with
  | none => rfl
  | some v => rw [Json.index_of_find? (h.trans hv), Json.index_of_find? hv]

/-- Two patches with the same settings in them. -/
theorem congr_of_settings (undefinedCast : Rat → ℤ) (a : SettingsState) {p p' : Json}
    (hobject : p.isObject = p'.isObject) (h : ∀ key ∈ settingsKeys, p.find? key = p'.find? key) :
    isValidSettingsPatch undefinedCast p = isValidSettingsPatch undefinedCast p'
      ∧ mergeSettings undefinedCast a p = mergeSettings undefinedCast a p' := by
  simp only [settingsKeys, settingsMembers, List.map_cons, List.map_nil, List.forall_mem_cons] at h
  obtain ⟨hvolume, hbrightness, hcontrast, hlanguage, hdefaultActive, hactive, hdefaultVisual, hvisual, hextra1,
    hextra2, -⟩ := h
  constructor
  · rw [isValidSettingsPatch_eq, isValidSettingsPatch_eq]
    simp only [patchError, hobject, hvolume, hbrightness, hcontrast, hlanguage, hdefaultActive, hactive,
      hdefaultVisual, hvisual]
  · simp only [mergeSettings, mergeField_congr hvolume, mergeField_congr hbrightness,
      mergeField_congr hcontrast, mergeField_congr hlanguage, mergeField_congr hdefaultActive,
      mergeField_congr hactive, mergeField_congr hdefaultVisual, mergeField_congr hvisual,
      mergeField_congr hextra1, mergeField_congr hextra2]

/-- **The laws of patches**: valid settings are accepted as a patch, and merging them gives these settings;
merging two accepted patches is merging the first one overridden by the second; and members that are no
settings have no effect. -/
theorem settings_laws (undefinedCast : Rat → ℤ) :
    (∀ a b : SettingsState, b.Valid → isValidSettingsPatch undefinedCast (settingsToJson b) = .ok none
      ∧ mergeSettings undefinedCast a (settingsToJson b) = .ok b) ∧
    (∀ (a : SettingsState) (p q : Json), isValidSettingsPatch undefinedCast p = .ok none →
      isValidSettingsPatch undefinedCast q = .ok none →
      isValidSettingsPatch undefinedCast (overridden p q) = .ok none ∧
      ∃ b c, mergeSettings undefinedCast a p = .ok b ∧ mergeSettings undefinedCast b q = .ok c
        ∧ mergeSettings undefinedCast a (overridden p q) = .ok c) ∧
    ∀ (a : SettingsState) (p p' : Json), p.isObject = p'.isObject →
      (∀ key ∈ settingsKeys, p.find? key = p'.find? key) →
      isValidSettingsPatch undefinedCast p = isValidSettingsPatch undefinedCast p'
        ∧ mergeSettings undefinedCast a p = mergeSettings undefinedCast a p' := by
  refine ⟨fun a b hb => ?_, fun a p q hp hq => ?_, fun a p p' => congr_of_settings undefinedCast a⟩
  · have hok := (accepted_iff undefinedCast rfl).mpr (patchRules_settingsToJson hb).narrowed
    exact ⟨hok, by rw [mergeSettings_of_accepted a hok, merged_settingsToJson a hb]⟩
  · have hp' := isObject_of_accepted hp
    have hq' := isObject_of_accepted hq
    have hrules := (accepted_iff undefinedCast hq').mp hq
    have hok := (accepted_iff undefinedCast (isObject_overridden hp')).mpr
      (((accepted_iff undefinedCast hp').mp hp).overridden hp' hq' hrules)
    refine ⟨hok, merged a p, merged (merged a p) q, mergeSettings_of_accepted a hp,
      mergeSettings_of_accepted _ hq, ?_⟩
    rw [mergeSettings_of_accepted a hok, merged_overridden hp' hq' hrules]

/-- Settings for the night, and two patches that both change the brightness. -/
def nightSettings : SettingsState :=
  { volume := "40%", brightness := 30, language := "de", visualMode := "MUTE", extra1 := .bool true }

def morningPatch : Json := .obj [("volume", .str "80%"), ("brightness", .int 200), ("extra1", .null)]

def cloudyPatch : Json :=
  .obj [("req", .str "SetSettings"), ("brightness", .int 120), ("visualMode", .str "UNMUTE")]

/-- The brightness is that of the second patch, the volume that of the first one, and the name of the request
has no effect. -/
theorem settings_laws_overlapping :
    isValidSettingsPatch (fun _ => 0) (settingsToJson nightSettings) = .ok none
    ∧ mergeSettings (fun _ => 0) {} (settingsToJson nightSettings) = .ok nightSettings
    ∧ (∃ b c, mergeSettings (fun _ => 0) nightSettings morningPatch = .ok b
      ∧ mergeSettings (fun _ => 0) b cloudyPatch = .ok c
      ∧ mergeSettings (fun _ => 0) nightSettings (overridden morningPatch cloudyPatch) = .ok c
      ∧ (c.volume, c.brightness, c.visualMode) = ("80%", 120, "UNMUTE"))
    ∧ mergeSettings (fun _ => 0) nightSettings cloudyPatch
      = mergeSettings (fun _ => 0) nightSettings
        (.obj [("brightness", .int 120), ("visualMode", .str "UNMUTE")]) := by
  obtain ⟨hown, hoverride, hquiet⟩ := settings_laws fun _ => 0
  have hvalid : nightSettings.Valid := by
    refine ⟨by decide, by decide, ?_, ?_, ?_, ?_⟩ <;> simp [nightSettings, activeModes, visualModes]
  have hmerged : mergeSettings (fun _ => 0) nightSettings (overridden morningPatch cloudyPatch)
      = .ok (merged nightSettings (overridden morningPatch cloudyPatch)) := mergeSettings_of_accepted _ rfl
  obtain ⟨-, b, c, hb, hc, hboth⟩ := hoverride nightSettings morningPatch cloudyPatch rfl rfl
  obtain rfl := Except.ok.inj (hmerged.symm.trans hboth)
  refine ⟨(hown {} nightSettings hvalid).1, (hown {} nightSettings hvalid).2, ⟨b, _, hb, hc, hboth, rfl⟩, ?_⟩
  refine (hquiet nightSettings cloudyPatch _ rfl ?_).2
  simp only [settingsKeys, settingsMembers]
  decide

end OpenMadt
