import OpenMadt.ConfigIntegers
import OpenMadt.Gui

/-!
# The raw value of the backlight

`applyBacklightBrightness` scales the brightness to the maximum of the hardware, in `int`.  The maximum
comes from the configuration, where it is at most 65535, or from a file, where any positive `int` is taken.

* `Scales` — the values for the brightnesses from 0 to 255 go from zero to the maximum.
* `rawBacklightValue_scales` — they do so as long as the greatest product fits an `int`.
* `scales_iff` — for every configuration file and every file with a maximum: when this holds.
-/

namespace OpenMadt.Gui

/-- The raw values are computed without overflow, and go from zero to the maximum as the brightness goes
from 0 to 255. -/
structure Scales (raw : ℤ → Option ℤ) (maxValue : ℤ) : Prop where
  computed : ∀ brightness, 0 ≤ brightness → brightness ≤ 255 →
    ∃ rawValue, raw brightness = some rawValue ∧ 0 ≤ rawValue ∧ rawValue ≤ maxValue
  dark : raw 0 = some 0
  full : raw 255 = some maxValue
  monotone : ∀ brightness brightness' rawValue rawValue', 0 ≤ brightness → brightness ≤ brightness' →
    brightness' ≤ 255 → raw brightness = some rawValue → raw brightness' = some rawValue' →
    rawValue ≤ rawValue'

section Raw

variable {brightness maxValue : ℤ}

/-- Without overflow the value is the rounded quotient. -/
theorem rawBacklightValue_eq (hmax : 0 < maxValue) (hfits : maxValue ≤ 8421504) (hlow : 0 ≤ brightness)
    (hhigh : brightness ≤ 255) :
    rawBacklightValue brightness maxValue = some ((brightness * maxValue + 127) / 255) := by
  have hproduct : 0 ≤ brightness * maxValue := Int.mul_nonneg hlow (Int.le_of_lt hmax)
  have hbound : brightness * maxValue ≤ 255 * 8421504 :=
    Int.mul_le_mul hhigh hfits (Int.le_of_lt hmax) (by decide)
  rw [rawBacklightValue, if_pos ⟨by omega, by omega⟩, Int.tdiv_eq_ediv_of_nonneg (by omega)]

theorem rawBacklightValue_overflow (h : 8421504 < maxValue) : rawBacklightValue 255 maxValue = none := by
  rw [rawBacklightValue, if_neg]
  omega

/-- **The scale**, for a maximum whose greatest product fits. -/
theorem rawBacklightValue_scales (hmax : 0 < maxValue) (hfits : maxValue ≤ 8421504) :
    Scales (rawBacklightValue · maxValue) maxValue := by
  refine ⟨fun brightness hlow hhigh => ?_, ?_, ?_, ?_⟩
  · have hproduct : 0 ≤ brightness * maxValue := Int.mul_nonneg hlow (Int.le_of_lt hmax)
    have hbound : brightness * maxValue ≤ 255 * maxValue :=
      Int.mul_le_mul_of_nonneg_right hhigh (Int.le_of_lt hmax)
    refine ⟨_, rawBacklightValue_eq hmax hfits hlow hhigh, ?_, ?_⟩
    · omega
    · omega
  · show rawBacklightValue 0 maxValue = some 0
    rw [rawBacklightValue_eq hmax hfits (by decide) (by decide)]
    congr 1
    omega
  · show rawBacklightValue 255 maxValue = some maxValue
    rw [rawBacklightValue_eq hmax hfits (by decide) (by decide)]
    congr 1
    omega
  · intro brightness brightness' rawValue rawValue' hlow hle hhigh hraw hraw'
    rw [rawBacklightValue_eq hmax hfits hlow (Int.le_trans hle hhigh)] at hraw
    rw [rawBacklightValue_eq hmax hfits (Int.le_trans hlow hle) hhigh] at hraw'
    have hproduct : brightness * maxValue ≤ brightness' * maxValue :=
      Int.mul_le_mul_of_nonneg_right hle (Int.le_of_lt hmax)
    cases hraw
    cases hraw'
    exact Int.ediv_le_ediv (by decide) (by omega)

end Raw

/-! ### The two sources of the maximum -/

section Sources

variable {o : Outside} {maxValue : ℤ}

/-- The maximum is positive, whatever its source. -/
theorem readBacklightMaxValue_pos {config : RuntimeConfig} (h : readBacklightMaxValue o config = some maxValue) :
    0 < maxValue := by
  unfold readBacklightMaxValue at h
  dsimp only at h
  split at h
  · split at h
    · cases h; assumption
    · cases h
  · split at h
    · cases h
    · split at h
      · cases h
      · cases h; omega

/-- Without a file the maximum is the one of the configuration. -/
theorem readBacklightMaxValue_config {config : RuntimeConfig} (hpath : config.backlight.maxValuePath = "")
    (h : readBacklightMaxValue o config = some maxValue) : maxValue = config.backlight.maxValue := by
  unfold readBacklightMaxValue at h
  rw [if_pos hpath] at h
  split at h
  · cases h; rfl
  · cases h

/-- With a file it is the number in the file. -/
theorem readBacklightMaxValue_file {config : RuntimeConfig} (hpath : config.backlight.maxValuePath ≠ "")
    (h : readBacklightMaxValue o config = some maxValue) :
    ∃ value, o.readInt config.backlight.maxValuePath = some value ∧ value.toInt = maxValue := by
  unfold readBacklightMaxValue at h
  rw [if_neg hpath] at h
  split at h
  · cases h
  next value hread =>
    split at h
    · cases h
    · cases h; exact ⟨value, hread, rfl⟩

/-- **When the backlight is scaled.**  For every configuration file and every maximum that is accepted: the
maximum is the one of the configuration, or the number in the file is at most 8421504. -/
theorem scales_iff (file : JsonFileLoadResult)
    (hmax : readBacklightMaxValue o (loadRuntimeConfig file) = some maxValue) :
    Scales (rawBacklightValue · maxValue) maxValue ↔
      (loadRuntimeConfig file).backlight.maxValuePath = ""
        ∨ ∃ value, o.readInt (loadRuntimeConfig file).backlight.maxValuePath = some value
            ∧ value.toInt ≤ 8421504 := by
  have hpos := readBacklightMaxValue_pos hmax
  constructor
  · intro h
    by_cases hpath : (loadRuntimeConfig file).backlight.maxValuePath = ""
    · exact Or.inl hpath
    · obtain ⟨value, hread, hvalue⟩ := readBacklightMaxValue_file hpath hmax
      refine Or.inr ⟨value, hread, ?_⟩
      by_contra hlarge
      have hnone := rawBacklightValue_overflow (by omega : 8421504 < maxValue)
      have hfull : rawBacklightValue 255 maxValue = some maxValue := h.full
      rw [hnone] at hfull
      cases hfull
  · intro h
    by_cases hpath : (loadRuntimeConfig file).backlight.maxValuePath = ""
    · have hconfig := readBacklightMaxValue_config hpath hmax
      have hrange := IntegerKey.backlightMaxValue.inRange_field file
      refine rawBacklightValue_scales hpos ?_
      rw [hconfig]
      exact Int.le_trans hrange.2 (by decide)
    · obtain ⟨value, hread, hsmall⟩ := h.resolve_left hpath
      obtain ⟨value', hread', hvalue'⟩ := readBacklightMaxValue_file hpath hmax
      rw [hread] at hread'
      cases hread'
      exact rawBacklightValue_scales hpos (by omega)

/-- A configuration with a file for the maximum. -/
def backlightFile : JsonFileLoadResult :=
  .Loaded (.obj [("backlight", .obj [("path", .str "brightness"), ("maxValuePath", .str "max_brightness")])])

/-- A panel with 937 steps. -/
theorem scales_937 : Scales (rawBacklightValue · 937) 937 :=
  (scales_iff (o := { readInt := fun _ => some 937 }) backlightFile (by decide)).mpr
    (Or.inr ⟨937, by decide, by decide⟩)

/-- A panel with 24 bits: at full brightness the product is no `int`. -/
theorem overflow_16777215 :
    readBacklightMaxValue { readInt := fun _ => some 16777215 } (loadRuntimeConfig backlightFile) = some 16777215
      ∧ rawBacklightValue 255 16777215 = none := by
  decide

end Sources

end OpenMadt.Gui
