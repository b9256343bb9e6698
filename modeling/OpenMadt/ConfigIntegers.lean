import OpenMadt.ConfigFile
import Mathlib.Tactic.ByContra

/-!
# The integers of the configuration file

Sixteen members of `madt-config.json` are integers with a range.  Three readers look at them, and each
makes an `int` of the number before it compares it with the range.

* `IntegerKey` — the members: where each is found, its range, and the field it goes to.
* `field_loadDocument` — what the field gets; nothing but the member itself and the placement counts.
* `LoadedAsMeant` — the number if it is in the range, and else the default.
* `loadedAsMeant_iff` — for which numbers the file is read as it is meant.
-/

namespace OpenMadt

/-- The integer members of the configuration file. -/
inductive IntegerKey where
  | controlNonceTtlSeconds
  | dnsSdIntervalMinutes
  | tabBarWidth
  | tabBarHeight
  | shortcutPopupColumns
  | shortcutIconWidth
  | shortcutIconHeight
  | shortcutMaxCount
  | extraZoneHeight
  | extraZoneX
  | extraZoneY
  | extraZoneWidth
  | extraZoneRectHeight
  | backlightMaxValue
  | brightness
  | contrast
  deriving DecidableEq

namespace IntegerKey

abbrev INT_MAX : ℤ := 2147483647

/-- The object that has the member, if it is not the document itself, and the member's key. -/
def path : IntegerKey → Option String × String
  | controlNonceTtlSeconds => (none, "controlNonceTtlSeconds")
  | dnsSdIntervalMinutes => (none, "dnsSdIntervalMinutes")
  | tabBarWidth => (none, "tabBarWidth")
  | tabBarHeight => (none, "tabBarHeight")
  | shortcutPopupColumns => (none, "shortcutPopupColumns")
  | shortcutIconWidth => (none, "shortcutIconWidth")
  | shortcutIconHeight => (none, "shortcutIconHeight")
  | shortcutMaxCount => (none, "shortcutMaxCount")
  | extraZoneHeight => (none, "extraZoneHeight")
  | extraZoneX => (some "extraZoneRect", "x")
  | extraZoneY => (some "extraZoneRect", "y")
  | extraZoneWidth => (some "extraZoneRect", "width")
  | extraZoneRectHeight => (some "extraZoneRect", "height")
  | backlightMaxValue => (some "backlight", "maxValue")
  | brightness => (none, "brightness")
  | contrast => (none, "contrast")

/-- The least and the greatest value. -/
def range : IntegerKey → ℤ × ℤ
  | controlNonceTtlSeconds => (1, 300)
  | dnsSdIntervalMinutes => (1, 30)
  | tabBarWidth | tabBarHeight => (1, INT_MAX)
  | shortcutPopupColumns => (1, 8)
  | shortcutIconWidth | shortcutIconHeight => (1, 512)
  | shortcutMaxCount => (1, 20)
  | extraZoneX | extraZoneY => (0, MAX_EXTRA_ZONE_DIMENSION)
  | extraZoneHeight | extraZoneWidth | extraZoneRectHeight => (1, MAX_EXTRA_ZONE_DIMENSION)
  | backlightMaxValue => (1, 65535)
  | brightness | contrast => (0, 255)

/-- The field that the member goes to. -/
def field : IntegerKey → RuntimeConfig → ℤ
  | controlNonceTtlSeconds, config => config.controlNonceTtlSeconds
  | dnsSdIntervalMinutes, config => config.dnsSdIntervalMinutes
  | tabBarWidth, config => config.tabBarWidth
  | tabBarHeight, config => config.tabBarHeight
  | shortcutPopupColumns, config => config.shortcutPopupColumns
  | shortcutIconWidth, config => config.shortcutIconWidth
  | shortcutIconHeight, config => config.shortcutIconHeight
  | shortcutMaxCount, config => config.shortcutMaxCount
  | extraZoneHeight, config => config.extraZoneHeight
  | extraZoneX, config => config.extraZoneRect.x
  | extraZoneY, config => config.extraZoneRect.y
  | extraZoneWidth, config => config.extraZoneRect.width
  | extraZoneRectHeight, config => config.extraZoneRect.height
  | backlightMaxValue, config => config.backlight.maxValue
  | brightness, config => config.settings.brightness
  | contrast, config => config.settings.contrast

/-- The placement that the member is read for; the other members are always read. -/
def ReadFor : IntegerKey → ExtraZonePlacement → Prop
  | extraZoneHeight, placement => placement ≠ .Free
  | extraZoneX, placement | extraZoneY, placement | extraZoneWidth, placement
  | extraZoneRectHeight, placement => placement = .Free
  | _, _ => True

instance (k : IntegerKey) (placement : ExtraZonePlacement) : Decidable (k.ReadFor placement) := by
  cases k <;> unfold ReadFor <;> infer_instance

/-- The value that the document has for the member. -/
def member (k : IntegerKey) (document : Json) : Option Json :=
  match k.path.1 with
  | none => document.find? k.path.2
  | some parent => (document.find? parent).bind fun object => object.find? k.path.2

def InRange (k : IntegerKey) (n : ℤ) : Prop := k.range.1 ≤ n ∧ n ≤ k.range.2

instance (k : IntegerKey) (n : ℤ) : Decidable (k.InRange n) := inferInstanceAs (Decidable (_ ∧ _))

/-- The value of the field before the file is read. -/
def fallback (k : IntegerKey) : ℤ := k.field {}

/-- **Every default passes its own check.** -/
theorem inRange_fallback (k : IntegerKey) : k.InRange k.fallback := by
  cases k <;> decide

/-! ### The readers -/

/-- What a reader makes of a member, with its range and the value to keep. -/
def taken (range : ℤ × ℤ) (kept : ℤ) : Option Json → ℤ
  | some (.int i) => if range.1 ≤ Json.toInt32 i ∧ Json.toInt32 i ≤ range.2 then Json.toInt32 i else kept
  | _ => kept

theorem taken_of_not_int {range : ℤ × ℤ} {kept : ℤ} {value : Option Json}
    (h : ∀ i, value ≠ some (.int i)) : taken range kept value = kept := by
  unfold taken
  split
  next i => exact absurd rfl (h i)
  next => rfl

theorem loadOptionalInt_eq (document : Json) (key : String) (destination minValue maxValue : ℤ) :
    loadOptionalInt document key destination minValue maxValue
      = taken (minValue, maxValue) destination (document.find? key) := by
  unfold loadOptionalInt taken
  cases document.find? key with
  | none => rfl
  | some value =>
    cases value with
    | int i =>
      by_cases hrange : minValue ≤ Json.toInt32 i ∧ Json.toInt32 i ≤ maxValue
      · exact (if_neg (by omega)).trans (if_pos hrange).symm
      · exact (if_pos (by omega)).trans (if_neg hrange).symm
    | _ => rfl

/-- The reader without an upper bound stops at the greatest `int`. -/
theorem loadTabBarDimension_eq (document : Json) (key : String) (destination : ℤ) :
    loadTabBarDimension document key destination = taken (1, INT_MAX) destination (document.find? key) := by
  rw [← loadOptionalInt_eq]
  unfold loadTabBarDimension loadOptionalInt
  split
  next i h =>
    have hbounds := Json.toInt32_bounds i
    refine if_congr ?_ rfl rfl
    show Json.toInt32 i ≤ 0 ↔ Json.toInt32 i < 1 ∨ Json.toInt32 i > 2147483647
    omega
  next => rfl

/-- The members of a value that is no object are missing. -/
theorem missing_of_not_obj {document : Json} {parent : String}
    (h : ∀ members, document.find? parent = some (.obj members) → False) (key : String) :
    (document.find? parent).bind (fun object => object.find? key) = none := by
  cases hobject : document.find? parent with
  | none => rfl
  | some object =>
    cases object with
    | obj members => exact (h members hobject).elim
    | _ => rfl

theorem loadExtraZoneRect_eq (document : Json) (destination : ExtraZoneRect) :
    loadExtraZoneRect document destination =
      { x := taken (0, MAX_EXTRA_ZONE_DIMENSION) destination.x (extraZoneX.member document)
        y := taken (0, MAX_EXTRA_ZONE_DIMENSION) destination.y (extraZoneY.member document)
        width := taken (1, MAX_EXTRA_ZONE_DIMENSION) destination.width (extraZoneWidth.member document)
        height := taken (1, MAX_EXTRA_ZONE_DIMENSION) destination.height
          (extraZoneRectHeight.member document) } := by
  unfold loadExtraZoneRect member
  dsimp only [path]
  split
  next members h =>
    simp only [h, Option.bind_some, loadOptionalInt_eq]
  next h =>
    simp only [missing_of_not_obj h]
    rfl

theorem loadBacklight_maxValue (document : Json) (destination : BacklightConfig) :
    (loadBacklight document destination).maxValue
      = taken (1, 65535) destination.maxValue (backlightMaxValue.member document) := by
  unfold loadBacklight member
  dsimp only [path]
  split
  next members h =>
    rw [h]
    exact loadOptionalInt_eq _ _ _ _ _
  next h =>
    rw [missing_of_not_obj h]
    rfl

/-- The other fields are read before the geometry of the extra zone. -/
theorem field_loadExtraZoneGeometry {k : IntegerKey} (h : ∀ placement, k.ReadFor placement)
    (document : Json) (config : RuntimeConfig) :
    k.field (loadExtraZoneGeometry document config) = k.field config := by
  unfold loadExtraZoneGeometry
  cases k with
  | extraZoneHeight => exact absurd rfl (h .Free)
  | extraZoneX => cases h .Top
  | extraZoneY => cases h .Top
  | extraZoneWidth => cases h .Top
  | extraZoneRectHeight => cases h .Top
  | _ => split <;> rfl

theorem placement_loadDocument (document : Json) :
    (loadDocument document {}).extraZonePlacement = loadExtraZonePlacement document .Top := by
  unfold loadDocument loadExtraZoneGeometry
  split <;> rfl

/-- **What a field gets.**  The member itself counts, and for the extra zone the placement. -/
theorem field_loadDocument (k : IntegerKey) (document : Json) :
    k.field (loadDocument document {})
      = if k.ReadFor (loadDocument document {}).extraZonePlacement then
          taken k.range k.fallback (k.member document) else k.fallback := by
  rw [placement_loadDocument, loadDocument]
  cases k with
  | extraZoneHeight =>
    by_cases hfree : loadExtraZonePlacement document .Top = .Free
    · refine Eq.trans ?_ (if_neg (not_not_intro hfree)).symm
      rw [loadExtraZoneGeometry, if_pos hfree]
      rfl
    · refine Eq.trans ?_ (if_pos hfree).symm
      rw [loadExtraZoneGeometry, if_neg hfree]
      exact loadOptionalInt_eq _ _ _ _ _
  | extraZoneX | extraZoneY | extraZoneWidth | extraZoneRectHeight =>
    by_cases hfree : loadExtraZonePlacement document .Top = .Free
    · refine Eq.trans ?_ (if_pos hfree).symm
      rw [loadExtraZoneGeometry, if_pos hfree, loadExtraZoneRect_eq]
      rfl
    · refine Eq.trans ?_ (if_neg hfree).symm
      rw [loadExtraZoneGeometry, if_neg hfree]
      rfl
  | tabBarWidth | tabBarHeight =>
    refine (field_loadExtraZoneGeometry ?_ document _).trans (Eq.trans ?_ (if_pos trivial).symm)
    · exact fun _ => trivial
    · exact loadTabBarDimension_eq _ _ _
  | backlightMaxValue =>
    refine (field_loadExtraZoneGeometry ?_ document _).trans (Eq.trans ?_ (if_pos trivial).symm)
    · exact fun _ => trivial
    · exact loadBacklight_maxValue _ _
  | _ =>
    refine (field_loadExtraZoneGeometry ?_ document _).trans (Eq.trans ?_ (if_pos trivial).symm)
    · exact fun _ => trivial
    · exact loadOptionalInt_eq _ _ _ _ _

/-- A member that is taken is in its range. -/
theorem inRange_taken (k : IntegerKey) (value : Option Json) : k.InRange (taken k.range k.fallback value) := by
  unfold taken
  split
  · split
    next hin => exact hin
    next => exact k.inRange_fallback
  · exact k.inRange_fallback

/-- **Every loaded integer is in its range**, whatever the file contains. -/
theorem inRange_field (k : IntegerKey) (file : JsonFileLoadResult) :
    k.InRange (k.field (loadRuntimeConfig file)) := by
  cases file with
  | Loaded document =>
    rw [loadRuntimeConfig]
    split
    · rw [field_loadDocument]
      split
      · exact k.inRange_taken _
      · exact k.inRange_fallback
    · exact k.inRange_fallback
  | Missing => exact k.inRange_fallback
  | Error => exact k.inRange_fallback

/-! ### What is meant -/

/-- The number in the document that the key is read from: an integer, whatever its size. -/
def Given (k : IntegerKey) (document : Json) (n : ℤ) : Prop :=
  k.ReadFor (loadRuntimeConfig (.Loaded document)).extraZonePlacement ∧ k.member document = some (.int n)

/-- The field gets the number that is in the range, and otherwise keeps its default. -/
structure LoadedAsMeant (k : IntegerKey) (document : Json) : Prop where
  loaded : ∀ n, k.Given document n → k.InRange n → k.field (loadRuntimeConfig (.Loaded document)) = n
  kept : (∀ n, k.Given document n → ¬ k.InRange n) →
    k.field (loadRuntimeConfig (.Loaded document)) = k.fallback

/-- A number out of the range becomes another one that is in it. -/
def Narrowed (k : IntegerKey) (n : ℤ) : Prop :=
  ¬ k.InRange n ∧ k.InRange (Json.toInt32 n) ∧ Json.toInt32 n ≠ k.fallback

/-- The ranges are ranges of `int`. -/
theorem toInt32_of_inRange {k : IntegerKey} {n : ℤ} (h : k.InRange n) : Json.toInt32 n = n := by
  have hrange : -2147483648 ≤ k.range.1 ∧ k.range.2 ≤ 2147483647 := by
    cases k <;> decide
  exact Json.toInt32_of_range ⟨Int.le_trans hrange.1 h.1, Int.le_trans h.2 hrange.2⟩

theorem field_of_given {k : IntegerKey} {document : Json} {n : ℤ} (hobject : document.isObject = true)
    (h : k.Given document n) : k.field (loadRuntimeConfig (.Loaded document))
      = if k.InRange (Json.toInt32 n) then Json.toInt32 n else k.fallback := by
  obtain ⟨hread, hmember⟩ := h
  rw [loadRuntimeConfig, if_pos hobject] at hread ⊢
  rw [field_loadDocument, if_pos hread, hmember]
  rfl

theorem field_of_not_given {k : IntegerKey} {document : Json} (hobject : document.isObject = true)
    (h : ∀ n, ¬ k.Given document n) : k.field (loadRuntimeConfig (.Loaded document)) = k.fallback := by
  unfold Given at h
  rw [loadRuntimeConfig, if_pos hobject] at h ⊢
  rw [field_loadDocument]
  by_cases hread : k.ReadFor (loadDocument document {}).extraZonePlacement
  · rw [if_pos hread, taken_of_not_int fun n hn => h n ⟨hread, hn⟩]
  · rw [if_neg hread]

/-- **When the file is read as it is meant.**  For every document, every integer member and whatever else
the document contains: the field gets the number in the range or keeps its default, unless the number is out
of the range and its low 32 bits make an `int` in the range, other than the default. -/
theorem loadedAsMeant_iff (k : IntegerKey) {document : Json} (hobject : document.isObject = true) :
    k.LoadedAsMeant document ↔ ∀ n, k.Given document n → ¬ k.Narrowed n := by
  constructor
  · rintro h n hgiven ⟨hout, hin, hne⟩
    have hunique : ∀ m, k.Given document m → ¬ k.InRange m := by
      intro m hm
      have heq : some (Json.int m) = some (Json.int n) := hm.2.symm.trans hgiven.2
      cases heq
      exact hout
    have hkept := h.kept hunique
    rw [field_of_given hobject hgiven, if_pos hin] at hkept
    exact hne hkept
  · intro h
    refine ⟨fun n hgiven hin => ?_, fun hout => ?_⟩
    · have hsame := toInt32_of_inRange hin
      rw [field_of_given hobject hgiven, hsame, if_pos hin]
    · by_cases hsome : ∃ n, k.Given document n
      · obtain ⟨n, hgiven⟩ := hsome
        rw [field_of_given hobject hgiven]
        by_cases hin : k.InRange (Json.toInt32 n)
        · rw [if_pos hin]
          by_contra hne
          exact h n hgiven ⟨hout n hgiven, hin, hne⟩
        · rw [if_neg hin]
      · exact field_of_not_given hobject fun n hn => hsome ⟨n, hn⟩

/-- A document with the number `2^32 + 7` for the columns, and a lifetime of nonces that is in its range. -/
def wideDocument : Json :=
  .obj [("shortcutPopupColumns", .int 4294967303), ("controlNonceTtlSeconds", .int 60)]

/-- The lifetime is taken over. -/
theorem loadedAsMeant_ttl : controlNonceTtlSeconds.LoadedAsMeant wideDocument := by
  refine (loadedAsMeant_iff controlNonceTtlSeconds rfl).mpr ?_
  rintro n ⟨-, hmember⟩ ⟨hout, -⟩
  cases hmember
  exact hout (by decide)

/-- There are seven columns then. -/
theorem narrowed_columns : ¬ shortcutPopupColumns.LoadedAsMeant wideDocument := by
  intro h
  have hgiven : shortcutPopupColumns.Given wideDocument 4294967303 := ⟨trivial, rfl⟩
  have hkept := h.kept fun n hn => by
    have heq : some (Json.int n) = some (Json.int 4294967303) := hn.2.symm.trans hgiven.2
    cases heq
    decide
  revert hkept
  rw [field_of_given rfl hgiven]
  decide

end IntegerKey

end OpenMadt
