import OpenMadt.Platform

/-!
# Base 64 in buffers

`base64Encode` and `base64Decode` allocate a buffer, let OpenSSL write into it, and cut it to the length that
OpenSSL returns as an `int`.

* `Evp` — `EVP_EncodeBlock` and `EVP_DecodeBlock`, with what they write and return; `Evp.Documented` — what
  OpenSSL documents, for texts whose length is an `int`.
* `Evp.base64Encode`, `Evp.base64Decode` — the functions with their buffers; a write past the end of a buffer is
  a fault.
* `base64Encode_fits`, `base64Decode_fits` — the buffers are large enough, and the functions compute what
  `Platform.base64Encode` and `Platform.base64Decode` stand for.
* `roundTrips_iff` — for which lengths decoding gives back what was encoded.
-/

namespace OpenMadt

/-- `std::numeric_limits<int>::max()`. -/
abbrev INT32_MAX : ℕ := 2147483647

/-- The two functions of OpenSSL.  They get a text and its length as an `int`, and give the returned `int` and the
bytes that they write from the beginning of the other buffer on. -/
structure Evp where
  encodeBlock : Bytes → Int32 → Int32 × Bytes
  decodeBlock : Bytes → Int32 → Int32 × Bytes

/-- How a call can go wrong. -/
inductive BufferFault where
  /-- A write past the end of a buffer. -/
  | overrun
  /-- `std::length_error`. -/
  | lengthError
  deriving DecidableEq

/-- The length of padded base 64. -/
abbrev encodedLength (n : ℕ) : ℕ := 4 * ((n + 2) / 3)

/-- A `std::string` of the given size has room for so many bytes, and for a terminating zero. -/
def HasRoom (size : ℕ) (written : Bytes) : Prop :=
  written.length ≤ size ∨ written.length = size + 1 ∧ written.getLast? = some 0

instance (size : ℕ) (written : Bytes) : Decidable (HasRoom size written) := inferInstanceAs (Decidable (_ ∨ _))

/-- The contents of a zeroed `std::string` after the write. -/
def filled (size : ℕ) (written : Bytes) : Bytes := (written ++ List.replicate (size - written.length) 0).take size

/-- `std::string::resize`. -/
def resize (contents : Bytes) (n : ℕ) : Bytes := (contents ++ List.replicate (n - contents.length) 0).take n

namespace Evp

variable (evp : Evp)

/-- `base64Encode`. -/
def base64Encode (input : Bytes) : Except BufferFault Bytes :=
  if input = [] then .ok []
  else
    let size := encodedLength input.length
    let (encoded, written) := evp.encodeBlock input (Int32.ofNat input.length)
    if ¬ HasRoom size written then .error .overrun
    -- a negative `int` is a huge `std::size_t`
    else if encoded.toInt < 0 then .error .lengthError
    else .ok (resize (filled size written) encoded.toInt.toNat)

/-- `base64Decode`; no result if it returns false. -/
def base64Decode (input : Bytes) : Except BufferFault (Option Bytes) :=
  if input = [] then .ok (some [])
  else
    let size := input.length * 3 / 4 + 3
    let (decoded, written) := evp.decodeBlock input (Int32.ofNat input.length)
    if ¬ HasRoom size written then .error .overrun
    else if decoded.toInt < 0 then .ok none
    else
      -- one byte less for each `=` at the end
      let decodedSize := decoded.toInt.toNat - Base64.padding input
      .ok (some (resize (filled size written) decodedSize))

/-- What OpenSSL documents: `EVP_EncodeBlock` writes padded base 64 and a terminating zero and returns the length
without the zero; `EVP_DecodeBlock` writes three bytes for every four characters, a padding character counting as
zero bits, and returns their number, which is never more than that. -/
structure Documented : Prop where
  encodeBlock : ∀ x, encodedLength x.length ≤ INT32_MAX →
    evp.encodeBlock x (Int32.ofNat x.length) = (Int32.ofNat (encodedLength x.length), Base64.encode x ++ [0])
  decodeBlock : ∀ x bytes, (Base64.encode x).length ≤ INT32_MAX →
    Base64.decodeBlock (Base64.encode x) = some bytes →
    evp.decodeBlock (Base64.encode x) (Int32.ofNat (Base64.encode x).length)
      = (Int32.ofNat bytes.length, bytes)
  atMost : ∀ text, text.length ≤ INT32_MAX →
    (evp.decodeBlock text (Int32.ofNat text.length)).1.toInt ≤ 3 * (text.length / 4 : ℕ)

end Evp

/-! ### Buffers -/

/-- The terminating zero is not part of the contents. -/
theorem filled_append_zero {size : ℕ} {written : Bytes} (h : written.length = size) :
    filled size (written ++ [0]) = written := by
  have hzero : size - (written ++ [0]).length = 0 := by
    rw [List.length_append, List.length_singleton]
    omega
  rw [filled, hzero, List.replicate_zero, List.append_nil, ← h, List.take_left]

theorem length_resize (contents : Bytes) (n : ℕ) : (resize contents n).length = n := by
  rw [resize, List.length_take, List.length_append, List.length_replicate]
  omega

theorem resize_of_le {contents : Bytes} {n : ℕ} (h : n ≤ contents.length) : resize contents n = contents.take n := by
  rw [resize, Nat.sub_eq_zero_of_le h, List.replicate_zero, List.append_nil]

/-- Cutting a filled buffer within what was written. -/
theorem resize_filled {size n : ℕ} {written : Bytes} (hn : n ≤ written.length) (hsize : written.length ≤ size) :
    resize (filled size written) n = written.take n := by
  have hlength : (filled size written).length = size := by
    rw [filled, List.length_take, List.length_append, List.length_replicate]
    omega
  rw [resize_of_le (by omega), filled, List.take_take, Nat.min_eq_left (by omega), List.take_append_of_le_length hn]

theorem toInt_ofNat {n : ℕ} (h : n ≤ INT32_MAX) : (Int32.ofNat n).toInt = n :=
  Int32.toInt_ofNat_of_lt (Nat.lt_of_le_of_lt h (by decide))

/-! ### The functions compute base 64 -/

theorem encodedLength_le_iff (n : ℕ) : encodedLength n ≤ INT32_MAX ↔ n ≤ 1610612733 := by
  show 4 * ((n + 2) / 3) ≤ 2147483647 ↔ n ≤ 1610612733
  omega

/-- The buffer of `base64Encode` has room for the encoding, and its last place is for the terminating zero. -/
theorem base64Encode_fits {evp : Evp} (hevp : evp.Documented) {x : Bytes} (h : x.length ≤ 1610612733) :
    evp.base64Encode x = .ok (Base64.encode x) := by
  have hint := (encodedLength_le_iff x.length).mpr h
  have hlength : (Base64.encode x).length = encodedLength x.length := Base64.length_encode x
  unfold Evp.base64Encode
  split
  next hx =>
    rw [hx]
    rfl
  next =>
    have hroom : HasRoom (encodedLength x.length) (Base64.encode x ++ [0]) :=
      Or.inr ⟨by rw [List.length_append, List.length_singleton, hlength], List.getLast?_concat⟩
    have hsign : ¬ (encodedLength x.length : ℤ) < 0 := by omega
    simp only [hevp.encodeBlock x hint, not_true_eq_false, hroom, if_false, filled_append_zero hlength,
      toInt_ofNat hint, hsign, Int.toNat_natCast]
    rw [resize_of_le hlength.ge, ← hlength, List.take_length]

/-- The buffer of `base64Decode` has room for three bytes for every four characters, and it is cut to the bytes
that were encoded. -/
theorem base64Decode_fits {evp : Evp} (hevp : evp.Documented) {x : Bytes} (h : x.length ≤ 1610612733) :
    evp.base64Decode (Base64.encode x) = .ok (some x) := by
  have hint : (Base64.encode x).length ≤ INT32_MAX := by
    rw [Base64.length_encode]
    exact (encodedLength_le_iff x.length).mpr h
  have hdecoded := Base64.decodeBlock_encode x
  have hlength := Base64.length_of_decodeBlock hdecoded
  set decoded := x ++ List.replicate (Base64.padding (Base64.encode x)) 0 with hset
  unfold Evp.base64Decode
  split
  next hx =>
    have hnil : x = [] := by
      by_contra hne
      exact Base64.encode_ne_nil hne hx
    rw [hnil]
  next =>
    have hfits : decoded.length ≤ (Base64.encode x).length * 3 / 4 + 3 := by omega
    have hroom : HasRoom ((Base64.encode x).length * 3 / 4 + 3) decoded := Or.inl hfits
    have hdecodedInt : (Int32.ofNat decoded.length).toInt = decoded.length := toInt_ofNat (by omega)
    have hsign : ¬ (decoded.length : ℤ) < 0 := by omega
    have hcut : decoded.length - Base64.padding (Base64.encode x) ≤ decoded.length := Nat.sub_le _ _
    simp only [hevp.decodeBlock x decoded hint hdecoded, hroom, not_true_eq_false, if_false, hdecodedInt, hsign,
      Int.toNat_natCast]
    rw [resize_filled hcut hfits, hset, Base64.take_decoded]

/-- The bytes of `Platform.base64Encode` are what the buffer holds in the end. -/
theorem base64Encode_platform {I G : Type} {P : Platform I G} (hssl : P.OpenSsl) {evp : Evp} (hevp : evp.Documented)
    {x : Bytes} (h : x.length ≤ 1610612733) : evp.base64Encode x = .ok (utf8 (P.base64Encode x)) := by
  rw [base64Encode_fits hevp h, base64Encode_eq hssl, utf8_text (Base64.ascii_encode x)]

theorem base64Decode_platform {I G : Type} {P : Platform I G} (hssl : P.OpenSsl) {evp : Evp} (hevp : evp.Documented)
    {x : Bytes} (h : x.length ≤ 1610612733) :
    evp.base64Decode (Base64.encode x) = .ok (P.base64Decode (Base64.encode x)) := by
  rw [base64Decode_fits hevp h, base64Decode_encode hssl]

/-! ### Longer texts -/

/-- The length of an encoding is an `int`, whatever OpenSSL writes and returns. -/
theorem length_le_of_base64Encode {evp : Evp} {x text : Bytes} (h : evp.base64Encode x = .ok text) :
    text.length ≤ INT32_MAX := by
  unfold Evp.base64Encode at h
  split at h
  next =>
    cases h
    exact Nat.zero_le _
  next =>
    simp only at h
    split at h
    next => cases h
    next =>
      split at h
      next => cases h
      next =>
        cases h
        rw [length_resize]
        exact Int.toNat_le.mpr (Int.le_of_lt_add_one (Int32.toInt_lt _))

/-- Decoding gives at most three bytes for every four characters. -/
theorem length_le_of_base64Decode {evp : Evp} (hevp : evp.Documented) {text x : Bytes}
    (hint : text.length ≤ INT32_MAX) (h : evp.base64Decode text = .ok (some x)) :
    x.length ≤ 3 * (text.length / 4) := by
  unfold Evp.base64Decode at h
  split at h
  next =>
    cases h
    exact Nat.zero_le _
  next =>
    simp only at h
    split at h
    next => cases h
    next =>
      split at h
      next => cases h
      next =>
        cases h
        rw [length_resize]
        exact (Nat.sub_le _ _).trans (Int.toNat_le.mpr (hevp.atMost text hint))

/-- Decoding succeeds on the encoding, and gives back the bytes; nothing is written outside of a buffer. -/
def RoundTrips (evp : Evp) (x : Bytes) : Prop :=
  ∃ text, evp.base64Encode x = .ok text ∧ evp.base64Decode text = .ok (some x)

theorem not_roundTrips {evp : Evp} (hevp : evp.Documented) {x : Bytes} (h : 1610612733 < x.length) :
    ¬ RoundTrips evp x := by
  rintro ⟨text, hencode, hdecode⟩
  have hint := length_le_of_base64Encode hencode
  have hlength := length_le_of_base64Decode hevp hint hdecode
  have hquarter : text.length / 4 ≤ 536870911 := Nat.div_le_div_right hint
  omega

/-- **The bytes come back exactly when the length of their encoding is an `int`**, which bounds the length of the
bytes by 1610612733. -/
theorem roundTrips_iff {evp : Evp} (hevp : evp.Documented) (x : Bytes) :
    RoundTrips evp x ↔ encodedLength x.length ≤ INT32_MAX := by
  rw [encodedLength_le_iff]
  constructor
  · intro hround
    by_contra hlong
    exact not_roundTrips hevp (Nat.lt_of_not_le hlong) hround
  · intro hshort
    exact ⟨Base64.encode x, base64Encode_fits hevp hshort, base64Decode_fits hevp hshort⟩

/-! ### The block functions on base 64 -/

/-- `EVP_EncodeBlock` and `EVP_DecodeBlock` on texts without white space. -/
def Evp.blocks : Evp where
  encodeBlock x n := (Int32.ofNat (encodedLength n.toNatClampNeg), Base64.encode (x.take n.toNatClampNeg) ++ [0])
  decodeBlock text n :=
    match Base64.decodeBlock (text.take n.toNatClampNeg) with
    | none => (-1, [])
    | some bytes => (Int32.ofNat bytes.length, bytes)

theorem toNatClampNeg_ofNat {n : ℕ} (h : n ≤ INT32_MAX) : (Int32.ofNat n).toNatClampNeg = n :=
  Int32.toNatClampNeg_ofNat_of_lt (Nat.lt_of_le_of_lt h (by decide))

theorem Evp.blocks_documented : Evp.blocks.Documented where
  encodeBlock x h := by
    have hlength : x.length ≤ INT32_MAX := by
      have hx := (encodedLength_le_iff x.length).mp h
      exact le_trans hx (by decide)
    simp only [Evp.blocks, toNatClampNeg_ofNat hlength, List.take_length]
  decodeBlock x bytes h hbytes := by
    simp only [Evp.blocks, toNatClampNeg_ofNat h, List.take_length, hbytes]
  atMost text h := by
    simp only [Evp.blocks, toNatClampNeg_ofNat h, List.take_length]
    split
    next =>
      have hminus : (-1 : Int32).toInt = -1 := by decide
      show (-1 : Int32).toInt ≤ _
      omega
    next bytes hbytes =>
      have hlength := Base64.length_of_decodeBlock hbytes
      have hbound : bytes.length ≤ INT32_MAX := by
        show _ ≤ 2147483647
        have htext : text.length ≤ 2147483647 := h
        omega
      show (Int32.ofNat bytes.length).toInt ≤ _
      rw [toInt_ofNat hbound]
      exact Int.ofNat_le.mpr hlength.le

theorem roundTrips_zero_pad : Evp.blocks.Documented ∧ RoundTrips Evp.blocks [0, Base64.pad] :=
  ⟨Evp.blocks_documented, (roundTrips_iff Evp.blocks_documented [0, Base64.pad]).mpr (by decide)⟩

/-- The encoding of 1610612734 bytes has 2147483648 characters. -/
theorem not_roundTrips_zeros :
    (List.replicate 1610612734 (0 : UInt8)).length < INT32_MAX ∧
      ¬ RoundTrips Evp.blocks (List.replicate 1610612734 0) := by
  have hlength : (List.replicate 1610612734 (0 : UInt8)).length = 1610612734 := List.length_replicate
  constructor
  · rw [hlength]
    decide
  · apply not_roundTrips Evp.blocks_documented
    rw [hlength]
    decide

end OpenMadt
