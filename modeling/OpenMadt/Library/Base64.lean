import Mathlib.Data.Nat.Notation
import Mathlib.Data.List.TakeWhile

/-!
# Base64

The base 64 encoding of RFC 4648 with padding, and the block decoder that most libraries offer under
it: four characters become three bytes, a padding character counting as zero bits.

* `decodeBlock_encode` — the block decoder gives back the bytes, followed by one zero byte for each
  padding character.
* `padding_encode` — the padding of an encoding; `encode_range` — its characters; `length_encode` — its length.
* `length_of_decodeBlock` — the block decoder gives three bytes for every four characters.
-/

namespace Base64

/-- The padding character `=`. -/
abbrev pad : UInt8 := 0x3d

/-- The character for a value below 64. -/
def digit (n : ℕ) : UInt8 :=
  if n < 26 then UInt8.ofNat (65 + n)
  else if n < 52 then UInt8.ofNat (97 + (n - 26))
  else if n < 62 then UInt8.ofNat (48 + (n - 52))
  else if n = 62 then 0x2b
  else 0x2f

/-- The value of a character; a padding character counts as zero. -/
def value? (c : UInt8) : Option ℕ :=
  if 65 ≤ c ∧ c ≤ 90 then some (c.toNat - 65)
  else if 97 ≤ c ∧ c ≤ 122 then some (c.toNat - 97 + 26)
  else if 48 ≤ c ∧ c ≤ 57 then some (c.toNat - 48 + 52)
  else if c = 0x2b then some 62
  else if c = 0x2f then some 63
  else if c = pad then some 0
  else none

/-- The encoding with padding. -/
def encode : List UInt8 → List UInt8
  | [] => []
  | [a] => [digit (a.toNat / 4), digit (a.toNat % 4 * 16), pad, pad]
  | [a, b] =>
    [digit (a.toNat / 4), digit (a.toNat % 4 * 16 + b.toNat / 16), digit (b.toNat % 16 * 4), pad]
  | a :: b :: c :: rest =>
    digit (a.toNat / 4) :: digit (a.toNat % 4 * 16 + b.toNat / 16)
      :: digit (b.toNat % 16 * 4 + c.toNat / 64) :: digit (c.toNat % 64) :: encode rest

/-- The three bytes of four values. -/
def block (p q r s : ℕ) : List UInt8 :=
  [UInt8.ofNat (p * 4 + q / 16), UInt8.ofNat (q % 16 * 16 + r / 4), UInt8.ofNat (r % 4 * 64 + s)]

/-- Three bytes for every four characters; none for a character outside of the alphabet, or an
incomplete block. -/
def decodeBlock : List UInt8 → Option (List UInt8)
  | [] => some []
  | p :: q :: r :: s :: rest =>
    match value? p, value? q, value? r, value? s, decodeBlock rest with
    | some p, some q, some r, some s, some tail => some (block p q r s ++ tail)
    | _, _, _, _, _ => none
  | _ => none

/-- The number of padding characters at the end of a text. -/
def padding (text : List UInt8) : ℕ := (text.reverse.takeWhile (· == pad)).length

/-! ### One block -/

theorem value?_digit {n : ℕ} (h : n < 64) : value? (digit n) = some n := by
  have hall : ∀ k : Fin 64, value? (digit k) = some k.val := by decide
  exact hall ⟨n, h⟩

theorem value?_pad : value? pad = some 0 := by decide

theorem digit_ne_pad {n : ℕ} (h : n < 64) : (digit n == pad) = false := by
  have hall : ∀ k : Fin 64, (digit k == pad) = false := by decide
  exact hall ⟨n, h⟩

theorem ofNat_eq (a : UInt8) {n : ℕ} (h : n = a.toNat) : UInt8.ofNat n = a := by
  rw [h, UInt8.ofNat_toNat]

/-- The values that three bytes are cut into make up the same bytes again. -/
theorem block_eq (a b c : UInt8) :
    block (a.toNat / 4) (a.toNat % 4 * 16 + b.toNat / 16) (b.toNat % 16 * 4 + c.toNat / 64)
      (c.toNat % 64) = [a, b, c] := by
  have hb := b.toNat_lt
  have hc := c.toNat_lt
  rw [block, ofNat_eq a (by omega), ofNat_eq b (by omega), ofNat_eq c (by omega)]

theorem block_two (a b : UInt8) :
    block (a.toNat / 4) (a.toNat % 4 * 16 + b.toNat / 16) (b.toNat % 16 * 4) 0 = [a, b, 0] := by
  simpa using block_eq a b 0

theorem block_one (a : UInt8) : block (a.toNat / 4) (a.toNat % 4 * 16) 0 0 = [a, 0, 0] := by
  simpa using block_eq a 0 0

/-! ### Whole texts -/

theorem encode_ne_nil {x : List UInt8} (h : x ≠ []) : encode x ≠ [] := by
  match x, h with
  | [a], _ => simp [encode]
  | [a, b], _ => simp [encode]
  | a :: b :: c :: rest, _ => simp [encode]

/-- Four characters for every three bytes, or less, at the end. -/
theorem length_encode (x : List UInt8) : (encode x).length = 4 * ((x.length + 2) / 3) := by
  induction x using encode.induct with
  | case1 => rfl
  | case2 a => simp only [encode, List.length_cons, List.length_nil]
  | case3 a b => simp only [encode, List.length_cons, List.length_nil]
  | case4 a b c rest ih =>
    simp only [encode, List.length_cons, ih]
    omega

/-- Three bytes for every four characters. -/
theorem length_of_decodeBlock {text bytes : List UInt8} (h : decodeBlock text = some bytes) :
    bytes.length = 3 * (text.length / 4) := by
  induction text using decodeBlock.induct generalizing bytes with
  | case1 =>
    cases h
    rfl
  | case2 p q r s rest p' q' r' s' tail htail hs hr hq hp ih =>
    simp only [decodeBlock, hp, hq, hr, hs, htail, Option.some.injEq] at h
    have hblock : (block p' q' r' s').length = 3 := rfl
    rw [← h, List.length_append, hblock, ih htail]
    simp only [List.length_cons]
    omega
  | case3 p q r s rest hnone ih =>
    rw [decodeBlock] at h
    split at h
    next p' q' r' s' tail hp hq hr hs htail => exact absurd htail (hnone p' q' r' s' tail hp hq hr hs)
    next => cases h
  | case4 text hnil hblocks =>
    unfold decodeBlock at h
    split at h
    next => exact absurd rfl hnil
    next p q r s rest => exact absurd rfl (hblocks p q r s rest)
    next => cases h

theorem digit_range (n : ℕ) : 32 < digit n ∧ digit n < 128 := by
  have hrange : ∀ k < 128, 32 < k → 32 < UInt8.ofNat k ∧ UInt8.ofNat k < 128 := by decide
  unfold digit
  split
  · exact hrange (65 + n) (by omega) (by omega)
  · split
    · exact hrange (97 + (n - 26)) (by omega) (by omega)
    · split
      · exact hrange (48 + (n - 52)) (by omega) (by omega)
      · split <;> decide

/-- An encoding is a text of ASCII characters, and none of them is a control character. -/
theorem encode_range (x : List UInt8) : ∀ c ∈ encode x, 32 < c ∧ c < 128 := by
  have hpad : 32 < pad ∧ pad < 128 := by decide
  induction x using encode.induct with
  | case1 => simp [encode]
  | case2 a => simp [encode, digit_range, hpad]
  | case3 a b => simp [encode, digit_range, hpad]
  | case4 a b c rest ih => simpa [encode, digit_range] using ih

theorem ascii_encode (x : List UInt8) : ∀ c ∈ encode x, c < 128 := fun c hc => (encode_range x c hc).2

/-- A text that begins with an encoding is padded like its rest, unless there is no rest. -/
theorem padding_append (front : List UInt8) {rest : List UInt8} (h : ∃ c ∈ rest, (c == pad) = false) :
    padding (front ++ rest) = padding rest := by
  obtain ⟨c, hc, hne⟩ := h
  rw [padding, padding, List.reverse_append, List.takeWhile_append, if_neg]
  intro hlen
  have hall := List.takeWhile_eq_self_iff.mp
    ((List.takeWhile_prefix _).eq_of_length hlen) c (List.mem_reverse.mpr hc)
  rw [hne] at hall
  cases hall

/-- The first character is a digit. -/
theorem exists_digit_mem_encode {x : List UInt8} (h : x ≠ []) :
    ∃ c ∈ encode x, (c == pad) = false := by
  cases x with
  | nil => exact absurd rfl h
  | cons a x =>
    have ha := a.toNat_lt
    refine ⟨digit (a.toNat / 4), ?_, digit_ne_pad (by omega)⟩
    rcases x with _ | ⟨b, _ | ⟨c, rest⟩⟩ <;> simp [encode]

theorem padding_encode (x : List UInt8) : padding (encode x) = (3 - x.length % 3) % 3 := by
  induction x using encode.induct with
  | case1 => rfl
  | case2 a =>
    have ha := a.toNat_lt
    simp [encode, padding, digit_ne_pad (n := a.toNat % 4 * 16) (by omega)]
  | case3 a b =>
    have hb := b.toNat_lt
    simp [encode, padding, digit_ne_pad (n := b.toNat % 16 * 4) (by omega)]
  | case4 a b c rest ih =>
    have hmod : (a :: b :: c :: rest).length % 3 = rest.length % 3 := by
      simp only [List.length_cons]
      omega
    rw [hmod, ← ih]
    by_cases hrest : rest = []
    · have hc := c.toNat_lt
      simp [hrest, encode, padding, digit_ne_pad (n := c.toNat % 64) (by omega)]
    · exact padding_append [_, _, _, _] (exists_digit_mem_encode hrest)

/-- **The block decoder undoes the encoding**, up to one zero byte for each padding character. -/
theorem decodeBlock_encode (x : List UInt8) :
    decodeBlock (encode x) = some (x ++ List.replicate (padding (encode x)) 0) := by
  rw [padding_encode]
  induction x using encode.induct with
  | case1 => rfl
  | case2 a =>
    have ha := a.toNat_lt
    simp only [encode, decodeBlock, value?_digit (n := a.toNat / 4) (by omega),
      value?_digit (n := a.toNat % 4 * 16) (by omega), value?_pad, block_one]
    rfl
  | case3 a b =>
    have ha := a.toNat_lt
    have hb := b.toNat_lt
    simp only [encode, decodeBlock, value?_digit (n := a.toNat / 4) (by omega),
      value?_digit (n := a.toNat % 4 * 16 + b.toNat / 16) (by omega),
      value?_digit (n := b.toNat % 16 * 4) (by omega), value?_pad, block_two]
    rfl
  | case4 a b c rest ih =>
    have ha := a.toNat_lt
    have hb := b.toNat_lt
    have hc := c.toNat_lt
    have hmod : (a :: b :: c :: rest).length % 3 = rest.length % 3 := by
      simp only [List.length_cons]
      omega
    simp only [encode, decodeBlock, value?_digit (n := a.toNat / 4) (by omega),
      value?_digit (n := a.toNat % 4 * 16 + b.toNat / 16) (by omega),
      value?_digit (n := b.toNat % 16 * 4 + c.toNat / 64) (by omega),
      value?_digit (n := c.toNat % 64) (by omega), ih, block_eq, hmod]
    rfl

/-- Without as many bytes as there are padding characters, the decoded bytes are the encoded ones. -/
theorem take_decoded (x : List UInt8) :
    (x ++ List.replicate (padding (encode x)) 0).take
      ((x ++ List.replicate (padding (encode x)) (0 : UInt8)).length - padding (encode x)) = x := by
  rw [List.length_append, List.length_replicate, Nat.add_sub_cancel, List.take_left]

end Base64
