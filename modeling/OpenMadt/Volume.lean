import OpenMadt.Numerals
import OpenMadt.RuntimeConfig
import Mathlib.Data.Rat.Floor
import Mathlib.Tactic.FieldSimp
import Mathlib.Tactic.Ring

/-!
# The volume in percent

The settings hold the volume as a text.  `settingsVolumeToPercent` reads hexadecimal numerals on the scale
of 32 bits, small decimal numerals as percents, and takes everything else for full volume.

* `percentOf` — the share of a number in the scale, in percent and rounded to nearest.
* `scaled_eq_percentOf` — the integer computation is that share.
* `VolumeCurve` — what holds for all volume texts together: range, hexadecimal curve, decimal numerals.
-/

namespace OpenMadt

open CString (Digits ofDigits stoull ulongModulus)

/-! ### The scale -/

/-- `std::numeric_limits<std::uint32_t>::max()`. -/
abbrev UINT32_MAX : ℕ := 4294967295

/-- `100 * min(n, 2^32 - 1) / (2^32 - 1)`, rounded to nearest. -/
def percentOf (n : ℕ) : ℤ := round (100 * (min n UINT32_MAX : ℕ) / (UINT32_MAX : ℕ) : ℚ)

/-- What `settingsVolumeToPercent` makes of a number on the scale. -/
def scaled (raw : ℕ) : ℤ := ((min raw UINT32_MAX * 200 + UINT32_MAX) / (2 * UINT32_MAX) : ℕ)

/-- **Adding half of the divisor rounds to nearest.** -/
theorem scaled_eq_percentOf (raw : ℕ) : scaled raw = percentOf raw := by
  have hhalf : (100 * (min raw UINT32_MAX : ℕ) / (UINT32_MAX : ℕ) + 1 / 2 : ℚ)
      = ((min raw UINT32_MAX * 200 + UINT32_MAX : ℕ) : ℚ) / ((2 * UINT32_MAX : ℕ) : ℚ) := by
    push_cast
    ring
  rw [scaled, percentOf, round_eq, hhalf, Rat.floor_natCast_div_natCast]
  rfl

theorem scaled_mono {m n : ℕ} (h : m ≤ n) : scaled m ≤ scaled n := by
  unfold scaled
  have hmin : min m UINT32_MAX ≤ min n UINT32_MAX := min_le_min_right _ h
  have hdiv := Nat.div_le_div_right (c := 2 * UINT32_MAX)
    (Nat.add_le_add_right (Nat.mul_le_mul_right 200 hmin) UINT32_MAX)
  exact_mod_cast hdiv

theorem scaled_range (raw : ℕ) : 0 ≤ scaled raw ∧ scaled raw ≤ 100 := by
  show 0 ≤ (((min raw 4294967295 * 200 + 4294967295) / (2 * 4294967295) : ℕ) : ℤ)
    ∧ (((min raw 4294967295 * 200 + 4294967295) / (2 * 4294967295) : ℕ) : ℤ) ≤ 100
  omega

/-- From the end of the scale on it is full volume. -/
theorem scaled_of_le {raw : ℕ} (h : UINT32_MAX ≤ raw) : scaled raw = 100 := by
  rw [scaled, min_eq_right h]
  rfl

/-! ### The numerals -/

/-- `0x` or `0X` and hexadecimal digits that denote `n`. -/
def IsHexadecimal (volume : String) (n : ℕ) : Prop :=
  ∃ x digits, volume.toList = '0' :: x :: digits ∧ (x = 'x' ∨ x = 'X') ∧ Digits 16 digits
    ∧ n = ofDigits 16 digits

/-- Decimal digits that denote `n`. -/
def IsDecimal (volume : String) (n : ℕ) : Prop := Digits 10 volume.toList ∧ n = ofDigits 10 volume.toList

/-- `isHex`. -/
def looksHexadecimal : List Char → Bool
  | '0' :: x :: _ :: _ => x == 'x' || x == 'X'
  | _ => false

theorem looksHexadecimal_of {volume : String} {n : ℕ} (h : IsHexadecimal volume n) :
    looksHexadecimal volume.toList = true := by
  obtain ⟨x, digits, hs, hx, hdigits, -⟩ := h
  rw [hs]
  cases digits with
  | nil => exact absurd rfl hdigits.1
  | cons d rest => rcases hx with rfl | rfl <;> rfl

theorem exists_letter {s : List Char} (h : looksHexadecimal s = true) : ∃ c ∈ s, c = 'x' ∨ c = 'X' := by
  unfold looksHexadecimal at h
  split at h
  next x _ _ => exact ⟨x, by simp, by simpa using h⟩
  next => cases h

/-- A decimal numeral has no letter in it. -/
theorem looksHexadecimal_of_decimal {volume : String} {n : ℕ} (h : IsDecimal volume n) :
    looksHexadecimal volume.toList = false := by
  by_contra hlooks
  obtain ⟨c, hc, hletter⟩ := exists_letter (Bool.not_eq_false _ ▸ hlooks)
  have hdigit := h.1.2 c hc
  rcases hletter with rfl | rfl
  · exact absurd hdigit (by decide)
  · exact absurd hdigit (by decide)

section Branches

variable {volume : String} {n raw : ℕ}

theorem ne_empty_of_toList {c : Char} {rest : List Char} (h : volume.toList = c :: rest) : volume ≠ "" := by
  rintro rfl
  cases h

/-- The base that is chosen for a text. -/
def baseOf (volume : String) : ℕ := if looksHexadecimal volume.toList then 16 else 10

/-- The whole text is a number in its base. -/
theorem percent_of_some (hne : volume ≠ "")
    (h : stoull volume (baseOf volume) = some (raw, volume.toList.length)) :
    settingsVolumeToPercent volume
      = if looksHexadecimal volume.toList = false ∧ raw ≤ 100 then (raw : ℤ) else scaled raw := by
  unfold settingsVolumeToPercent
  rw [if_neg hne]
  dsimp only
  split
  next hnone => exact absurd (hnone.symm.trans h) (by simp)
  next read parsed hsome =>
    have hread : some (read, parsed) = some (raw, volume.toList.length) := hsome.symm.trans h
    obtain ⟨rfl, rfl⟩ := Prod.mk.inj (Option.some.inj hread)
    rw [if_neg (not_not_intro rfl)]
    refine if_congr ?_ rfl rfl
    show (!looksHexadecimal volume.toList && decide (read ≤ 100)) = true ↔ _
    rw [Bool.and_eq_true, Bool.not_eq_true', decide_eq_true_eq]

/-- The text is beyond 64 bits, or no number. -/
theorem percent_of_none (h : stoull volume (baseOf volume) = none) :
    settingsVolumeToPercent volume = 100 := by
  unfold settingsVolumeToPercent
  split
  · rfl
  · dsimp only
    split
    next => rfl
    next read parsed hsome => exact absurd (hsome.symm.trans h) (by simp)

/-- Only a part of the text is a number. -/
theorem percent_of_part {parsed : ℕ} (h : stoull volume (baseOf volume) = some (raw, parsed))
    (hpart : parsed ≠ volume.toList.length) : settingsVolumeToPercent volume = 100 := by
  unfold settingsVolumeToPercent
  split
  · rfl
  · dsimp only
    split
    next => rfl
    next read parsed' hsome =>
      have hread : some (read, parsed') = some (raw, parsed) := hsome.symm.trans h
      obtain ⟨rfl, rfl⟩ := Prod.mk.inj (Option.some.inj hread)
      exact if_pos hpart

/-- Whatever the text, the result is a percentage. -/
theorem percent_range (volume : String) :
    0 ≤ settingsVolumeToPercent volume ∧ settingsVolumeToPercent volume ≤ 100 := by
  by_cases hne : volume = ""
  · rw [hne]
    decide
  · cases h : stoull volume (baseOf volume) with
    | none =>
      rw [percent_of_none h]
      decide
    | some read =>
      obtain ⟨raw, parsed⟩ := read
      by_cases hwhole : parsed = volume.toList.length
      · rw [percent_of_some hne (hwhole ▸ h)]
        by_cases hsmall : looksHexadecimal volume.toList = false ∧ raw ≤ 100
        · rw [if_pos hsmall]
          omega
        · rw [if_neg hsmall]
          exact scaled_range raw
      · rw [percent_of_part h hwhole]
        decide

theorem percent_hexadecimal (h : IsHexadecimal volume n) : settingsVolumeToPercent volume = scaled n := by
  have hlooks := looksHexadecimal_of h
  obtain ⟨x, digits, hs, hx, hdigits, rfl⟩ := h
  have hread := CString.stoull_hexadecimal hs hx hdigits
  by_cases hfits : ofDigits 16 digits < ulongModulus
  · rw [if_pos hfits] at hread
    rw [percent_of_some (ne_empty_of_toList hs) (by rw [baseOf, if_pos hlooks, hread]),
      if_neg (fun h => by rw [hlooks] at h; cases h.1)]
  · rw [if_neg hfits] at hread
    rw [percent_of_none (by rw [baseOf, if_pos hlooks, hread]),
      scaled_of_le (le_trans (by decide) (not_lt.mp hfits))]

theorem percent_decimal (h : IsDecimal volume n) :
    settingsVolumeToPercent volume = if n ≤ 100 then (n : ℤ) else scaled n := by
  have hlooks := looksHexadecimal_of_decimal h
  obtain ⟨hdigits, rfl⟩ := h
  have hbase : baseOf volume = 10 := by rw [baseOf, hlooks]; rfl
  have hread := CString.stoull_decimal hdigits
  have hne : volume ≠ "" := by
    rintro rfl
    exact absurd rfl hdigits.1
  by_cases hfits : ofDigits 10 volume.toList < ulongModulus
  · rw [if_pos hfits] at hread
    rw [percent_of_some hne (by rw [hbase, hread])]
    exact if_congr (and_iff_right hlooks) rfl rfl
  · have hlarge : ulongModulus ≤ ofDigits 10 volume.toList := not_lt.mp hfits
    rw [if_neg hfits] at hread
    rw [percent_of_none (by rw [hbase, hread]), if_neg (fun hle => absurd (hlarge.trans hle) (by decide)),
      scaled_of_le (le_trans (by decide) hlarge)]

end Branches

/-! ### The curve -/

/-- **What a volume text means.** -/
structure VolumeCurve (percent : String → ℤ) : Prop where
  range : ∀ volume, 0 ≤ percent volume ∧ percent volume ≤ 100
  hexadecimal : ∀ volume n, IsHexadecimal volume n → percent volume = percentOf n
  monotone : ∀ volume volume' m n, IsHexadecimal volume m → IsHexadecimal volume' n → m ≤ n →
    percent volume ≤ percent volume'
  percents : ∀ volume n, IsDecimal volume n → n ≤ 100 → percent volume = n
  decimal : ∀ volume volume' n, IsDecimal volume n → 100 < n → IsHexadecimal volume' n →
    percent volume = percent volume'

/-- The overflow of `stoull` is caught like garbage, and full volume is where the curve ends. -/
theorem settingsVolumeToPercent_curve : VolumeCurve settingsVolumeToPercent where
  range := percent_range
  hexadecimal volume n h := (percent_hexadecimal h).trans (scaled_eq_percentOf n)
  monotone volume volume' m n hm hn hle := by
    rw [percent_hexadecimal hm, percent_hexadecimal hn]
    exact scaled_mono hle
  percents volume n h hle := by rw [percent_decimal h, if_pos hle]
  decimal volume volume' n h hlt h' := by
    rw [percent_decimal h, if_neg (not_le.mpr hlt), percent_hexadecimal h']

end OpenMadt
