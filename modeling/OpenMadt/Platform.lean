import OpenMadt.CString
import OpenMadt.Gui
import OpenMadt.Library.Base64

/-!
# What the server is built on

The libraries behind `madt-server.cpp`, as parameters: the JSON parser and printer, OpenSSL, libuuid,
the clocks, the GUI.  Nothing is assumed of them here; a theorem that relies on one of them says so.
The helper functions at the top of the file come with them.
-/

namespace OpenMadt

/-- A `steady_clock` time point, in nanoseconds. -/
abbrev Time := ℤ

/-- `std::chrono::seconds(n)`. -/
def seconds (n : ℤ) : Time := n * 1000000000

/-- The libraries, and what the compiler decides. -/
structure Platform (I G : Type) where
  gui : Gui.Port I G
  /-- `json::parse`; none where it throws. -/
  parse : Bytes → Option Json
  /-- `dump`. -/
  dump : Json → Bytes
  /-- The text that `EVP_EncodeBlock` writes. -/
  encodeBlock : Bytes → Bytes
  /-- The bytes that `EVP_DecodeBlock` writes; none if it returns -1. -/
  decodeBlock : Bytes → Option Bytes
  /-- The digest of `HMAC` with SHA-256, from key and message. -/
  hmacSha256 : Bytes → Bytes → Option Bytes
  /-- The value of a double converted to `int` when it is out of range. -/
  undefinedCast : Rat → ℤ
  /-- The arguments of a call are evaluated in an unspecified order: the last one first? -/
  urlFirst : Bool
  SOFTWARE_VERSION : String

/-- Libraries that do what the real ones do on the texts in the tables, with the GUI of `gui.cpp`;
`dumped` is what is printed. -/
def Platform.sample (texts : List (Bytes × Json)) (digests : List ((Bytes × Bytes) × Bytes) := [])
    (dumped : Bytes := []) : Platform Gui.Outside Gui.GuiState where
  gui := Gui.GuiState.port
  parse requestText := List.lookup requestText texts
  dump _ := dumped
  encodeBlock := Base64.encode
  decodeBlock := Base64.decodeBlock
  hmacSha256 key message :=
    some ((List.lookup (key, message) digests).getD (List.replicate 32 0))
  undefinedCast _ := 0
  urlFirst := false
  SOFTWARE_VERSION := "1"

/-- The sample parser finds each of its texts, if no text is in the table twice. -/
theorem parse_sample {texts : List (Bytes × Json)} {digests : List ((Bytes × Bytes) × Bytes)}
    {dumped : Bytes} (hdistinct : (texts.map Prod.fst).Nodup) {requestText : Bytes} {json : Json}
    (h : (requestText, json) ∈ texts) :
    (Platform.sample texts digests dumped).parse requestText = some json := by
  show List.lookup requestText texts = some json
  induction texts with
  | nil => cases h
  | cons entry texts ih =>
    rw [List.map_cons, List.nodup_cons] at hdistinct
    rcases List.mem_cons.mp h with rfl | h
    · exact List.lookup_cons_self
    · have hne : requestText ≠ entry.1 := by
        rintro rfl
        exact hdistinct.1 (List.mem_map.mpr ⟨_, h, rfl⟩)
      rw [List.lookup_cons, beq_false_of_ne hne]
      exact ih hdistinct.2 h

/-- What the processing of one request takes from its surroundings. -/
structure Input (I : Type) where
  /-- `steady_clock::now()`. -/
  now : Time
  /-- The next `generate_uuid()`. -/
  uuid : String
  /-- The bytes from `RAND_bytes`; none if it fails. -/
  random : Option Bytes
  /-- `currentTimestampUtc()`. -/
  timestamp : String
  gui : I

/-- A `std::string` of single-byte characters as a text. -/
def text (bytes : Bytes) : String := String.ofList (bytes.map fun b => Char.ofNat b.toNat)

/-- One hexadecimal digit. -/
def hexDigit (n : ℕ) : Char := Char.ofNat (if n < 10 then 48 + n else 87 + n)

/-- `toHex`. -/
def toHex (data : Bytes) : String :=
  String.ofList (data.flatMap fun b => [hexDigit (b.toNat / 16), hexDigit (b.toNat % 16)])

namespace Platform

variable {I G : Type} (P : Platform I G)

/-- `base64Encode`. -/
def base64Encode (input : Bytes) : String := if input = [] then "" else text (P.encodeBlock input)

/-- `base64Decode`. -/
def base64Decode (input : Bytes) : Option Bytes :=
  if input = [] then some []
  else
    match P.decodeBlock input with
    | none => none
    | some decoded =>
      let padding := (input.reverse.takeWhile (· == 0x3d)).length
      some (decoded.take (decoded.length - padding))

/-- `computeHmacSha256`, which is empty if the digest cannot be computed. -/
def computeHmacSha256 (key message : String) : String :=
  match P.hmacSha256 (utf8 key) (utf8 message) with
  | none => ""
  | some digest => toHex digest

/-- `generateRandomToken`. -/
def generateRandomToken (random : Option Bytes) : Option String := random.map P.base64Encode

end Platform

/-! ### Base 64 of texts -/

theorem utf8_text_eq (bytes : Bytes) :
    utf8 (text bytes) = bytes.flatMap fun b => String.utf8EncodeChar (Char.ofNat b.toNat) := by
  simp [utf8, text, String.toUTF8, List.utf8Encode, List.flatMap_map]

theorem utf8_text {bytes : Bytes} (h : ∀ b ∈ bytes, b < 128) : utf8 (text bytes) = bytes := by
  have hchar : ∀ n : Fin 128, String.utf8EncodeChar (Char.ofNat n) = [UInt8.ofNat n] := by decide
  rw [utf8_text_eq]
  induction bytes with
  | nil => rfl
  | cons b bytes ih =>
    rw [List.forall_mem_cons] at h
    have hb := hchar ⟨b.toNat, UInt8.lt_iff_toNat_lt.mp h.1⟩
    rw [List.flatMap_cons, hb, UInt8.ofNat_toNat, ih h.2]
    rfl

/-- What OpenSSL documents: `EVP_EncodeBlock` writes padded base 64, and `EVP_DecodeBlock` makes
three bytes of every four characters of it, with zero bits for the padding; `HMAC` gives the 32 bytes
of a SHA-256 digest. -/
structure Platform.OpenSsl {I G : Type} (P : Platform I G) : Prop where
  encodeBlock : ∀ x, P.encodeBlock x = Base64.encode x
  decodeBlock : ∀ x, P.decodeBlock (Base64.encode x) = Base64.decodeBlock (Base64.encode x)
  hmacSha256 : ∀ key message, ∃ digest, digest.length = 32 ∧ P.hmacSha256 key message = some digest

theorem base64Encode_eq {I G : Type} {P : Platform I G} (hssl : P.OpenSsl) (x : Bytes) :
    P.base64Encode x = text (Base64.encode x) := by
  unfold Platform.base64Encode
  split
  next hx =>
    rw [hx]
    rfl
  next => rw [hssl.encodeBlock]

/-- The hand-written removal of the padding gives back what was encoded. -/
theorem base64Decode_encode {I G : Type} {P : Platform I G} (hssl : P.OpenSsl) (x : Bytes) :
    P.base64Decode (Base64.encode x) = some x := by
  unfold Platform.base64Decode
  by_cases hx : x = []
  · rw [hx]
    rfl
  · rw [if_neg (Base64.encode_ne_nil hx), hssl.decodeBlock, Base64.decodeBlock_encode]
    exact congrArg some (Base64.take_decoded x)

/-- `secureEquals`. -/
def secureEquals (left right : String) : Bool :=
  (utf8 left).length == (utf8 right).length && utf8 left == utf8 right

theorem utf8_injective : Function.Injective utf8 := by
  intro s t h
  apply String.toByteArray_inj.mp
  exact ByteArray.ext (Array.toList_inj.mp h)

/-- The comparison is equality. -/
theorem secureEquals_iff {left right : String} : secureEquals left right = true ↔ left = right := by
  simp only [secureEquals, Bool.and_eq_true, beq_iff_eq]
  constructor
  · exact fun h => utf8_injective h.2
  · rintro rfl
    exact ⟨rfl, rfl⟩

end OpenMadt
