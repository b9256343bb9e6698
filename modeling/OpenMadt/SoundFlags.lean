import OpenMadt.Numerals
import OpenMadt.Refinement
import Mathlib.Data.Nat.Bitwise

/-!
# The flags of a `PlaySound`

`handlePlaySound` gets its flags as a text, which `parseSoundFlags` hands to `strtoul`.  The text is meant
to be an unsigned constant of C; `strtoul` takes more than that, and what it returns is cut to 32 bits.

* `SupportedFlags` — the alias bit, and no bit that is not supported.
* `passesFlagChecks_iff` — the texts that pass the checks.
* `Misread` — the texts that pass although they are no constant for supported flags.
* `flagsMeant_iff` — for which texts the checks do what they are there for.
-/

namespace OpenMadt.Server

open CString

/-! ### Flags as numbers -/

/-- The bit `0x00010000` is set, and no bit outside `0x00010013`. -/
structure SupportedFlags (n : ℕ) : Prop where
  aliasBit : n.testBit 16 = true
  supported : ∀ k, n.testBit k = true → Nat.testBit 0x00010013 k = true

theorem SupportedFlags.lt {n : ℕ} (h : SupportedFlags n) : n < 2 ^ 17 := by
  refine Nat.lt_pow_two_of_testBit n fun k hk => ?_
  by_contra hbit
  have hmask := h.supported k (Bool.not_eq_false _ ▸ hbit)
  rw [Nat.testBit_lt_two_pow (lt_of_lt_of_le (by decide) (Nat.pow_le_pow_right (by decide) hk))] at hmask
  cases hmask

/-- The test for unsupported flags. -/
theorem and_not_eq_zero_iff (flags mask : UInt32) :
    flags &&& ~~~mask = 0 ↔ ∀ k, flags.toNat.testBit k = true → mask.toNat.testBit k = true := by
  have hbit : ∀ (v : UInt32) k, v.toNat.testBit k = v.toBitVec.getLsbD k := fun v k => by
    rw [← UInt32.toNat_toBitVec, BitVec.testBit_toNat]
  simp only [hbit]
  rw [← UInt32.toBitVec_inj, UInt32.toBitVec_and, UInt32.toBitVec_not]
  constructor
  · intro h k hk
    have hlt : k < 32 := by
      by_contra hle
      rw [BitVec.getLsbD_of_ge _ _ (not_lt.mp hle)] at hk
      cases hk
    have hzero := congrArg (fun v => v.getLsbD k) h
    simpa [hlt, hk, BitVec.getLsbD_and, BitVec.getLsbD_not] using hzero
  · intro h
    apply BitVec.eq_of_getLsbD_eq
    intro k hk
    have hkept := h k
    simp only [BitVec.getLsbD_and, BitVec.getLsbD_not, hk]
    cases hflag : flags.toBitVec.getLsbD k with
    | false => simp
    | true => simp [hkept hflag]

/-- The test for a single bit. -/
theorem and_bit_ne_zero_iff (flags : UInt32) {mask : UInt32} {k : ℕ} (hmask : mask.toNat = 2 ^ k) :
    flags &&& mask ≠ 0 ↔ flags.toNat.testBit k = true := by
  rw [Ne, ← UInt32.toNat_inj, UInt32.toNat_and, hmask, Nat.and_two_pow]
  cases flags.toNat.testBit k <;> simp

theorem supportedFlags_iff (value : ℕ) :
    (UInt32.ofNat value &&& ~~~SUPPORTED_SOUND_FLAGS = 0 ∧ UInt32.ofNat value &&& SOUNDFLAG_ALIAS ≠ 0)
      ↔ SupportedFlags (value % 4294967296) := by
  rw [and_not_eq_zero_iff, and_bit_ne_zero_iff (k := 16) _ rfl, UInt32.toNat_ofNat']
  exact ⟨fun h => ⟨h.2, h.1⟩, fun h => ⟨h.supported, h.aliasBit⟩⟩

/-! ### The checks -/

/-- The text is parsed, and the flags are supported and have the alias bit. -/
def PassesFlagChecks (request : Json) : Prop :=
  ∃ soundFlags, parseSoundFlags request = .ok (some soundFlags)
    ∧ soundFlags &&& ~~~SUPPORTED_SOUND_FLAGS = 0 ∧ soundFlags &&& SOUNDFLAG_ALIAS ≠ 0

/-- What the flags are read as. -/
theorem soundFlagsOf_eq_some_iff {request : Json} {encodedFlags : String}
    (hflags : stringMember request "soundFlags" = some encodedFlags) (soundFlags : UInt32) :
    soundFlagsOf request = some soundFlags
      ↔ ∃ value, ReadsAll (cstr encodedFlags) value ∧ UInt32.ofNat value = soundFlags := by
  have hof : soundFlagsOf request
      = if (strtoul 0 (cstr encodedFlags)).outOfRange || (strtoul 0 (cstr encodedFlags)).rest ≠ [] then none
        else some (UInt32.ofNat (strtoul 0 (cstr encodedFlags)).value) := by
    rw [soundFlagsOf, hflags]
    rfl
  rw [hof]
  constructor
  · intro h
    split at h
    · cases h
    next hgood =>
      rw [Bool.or_eq_true, not_or, Bool.not_eq_true, decide_eq_true_eq, not_not] at hgood
      exact ⟨_, readsAll_iff.mp ⟨hgood.1, hgood.2, rfl⟩, Option.some.inj h⟩
  · rintro ⟨value, hreads, rfl⟩
    obtain ⟨hrange, hrest, rfl⟩ := readsAll_iff.mpr hreads
    rw [hrange, hrest]
    rfl

/-- **What passes.** -/
theorem passesFlagChecks_iff {request : Json} {encodedFlags : String}
    (hflags : stringMember request "soundFlags" = some encodedFlags) :
    PassesFlagChecks request
      ↔ ∃ value, ReadsAll (cstr encodedFlags) value ∧ SupportedFlags (value % 4294967296) := by
  have hread := soundFlagsOf_eq_some_iff hflags
  rw [PassesFlagChecks, parseSoundFlags_eq]
  constructor
  · rintro ⟨soundFlags, hsome, hchecks⟩
    obtain ⟨value, hreads, rfl⟩ := (hread soundFlags).mp (Except.ok.inj hsome)
    exact ⟨value, hreads, (supportedFlags_iff value).mp hchecks⟩
  · rintro ⟨value, hreads, hsupported⟩
    have hsome := (hread (UInt32.ofNat value)).mpr ⟨value, hreads, rfl⟩
    exact ⟨UInt32.ofNat value, congrArg Except.ok hsome, (supportedFlags_iff value).mpr hsupported⟩

/-- A request that does not pass is refused. -/
theorem decodePlaySound_refused {request : Json} (h : ¬ PassesFlagChecks request) :
    decodePlaySound request = .Refused := by
  unfold decodePlaySound
  cases hid : stringMember request "soundId" with
  | none => rfl
  | some soundId =>
    cases hflags : soundFlagsOf request with
    | none => rfl
    | some soundFlags =>
      have hnone : soundFor soundId soundFlags = none := by
        unfold soundFor
        by_cases hsupported : soundFlags &&& ~~~SUPPORTED_SOUND_FLAGS ≠ 0
        · rw [if_pos hsupported]
        · by_cases halias : soundFlags &&& SOUNDFLAG_ALIAS = 0
          · rw [if_neg hsupported, if_pos halias]
          · refine absurd ⟨soundFlags, ?_, not_not.mp hsupported, halias⟩ h
            rw [parseSoundFlags_eq, hflags]
      simp only [hnone]

section Handler

variable {I G : Type} (P : Platform I G) (i : Input I) (bev : Conn) (w : World G)

/-- It is answered with `BAD_REQUEST`, and nothing else happens. -/
theorem handlePlaySound_refused {request : Json} (h : ¬ PassesFlagChecks request) :
    under bev w (handlePlaySound P i bev request) = .ok (w.reply bev (response .MTSRC_BAD_REQUEST)) := by
  rw [under_handlePlaySound, decodeAs, decodePlaySound_refused h]
  rfl

end Handler

/-! ### What is meant -/

/-- The text is an unsigned constant of C for supported flags. -/
def DenotesFlags (encodedFlags : String) : Prop := ∃ n, Numeral encodedFlags.toList n ∧ SupportedFlags n

/-- Bits 0 to 31 of a number with a sign. -/
def lowBits (negative : Bool) (n : ℕ) : ℕ := ((if negative then -(n : ℤ) else n) % 4294967296).toNat

/-- The text is a constant below `2^64`, and its low bits are supported flags; but there are blanks or a
sign before it, or there is a NUL behind it, or it has other bits as well. -/
def Misread (encodedFlags : String) : Prop :=
  ∃ (blanks sign numeral tail : List Char) (negative : Bool) (n : ℕ),
    encodedFlags.toList = blanks ++ (sign ++ numeral) ++ tail ∧ (∀ c ∈ blanks, isspace c = true)
      ∧ Sign negative sign ∧ Numeral numeral n ∧ n < 18446744073709551616
      ∧ (tail = [] ∨ tail.head? = some '\x00') ∧ SupportedFlags (lowBits negative n)
      ∧ (blanks ≠ [] ∨ sign ≠ [] ∨ tail ≠ [] ∨ 4294967296 ≤ n)

/-- What the flag checks are there for. -/
structure FlagsMeant {I G : Type} (P : Platform I G) (i : Input I) (bev : Conn) (w : World G)
    (encodedFlags : String) : Prop where
  only : ∀ request, stringMember request "soundFlags" = some encodedFlags → PassesFlagChecks request →
    DenotesFlags encodedFlags
  refused : ∀ request, stringMember request "soundFlags" = some encodedFlags → ¬ DenotesFlags encodedFlags →
    under bev w (handlePlaySound P i bev request) = .ok (w.reply bev (response .MTSRC_BAD_REQUEST))

theorem returned_mod (negative : Bool) {n : ℕ} (h : n < ulongModulus) :
    returned negative n % 4294967296 = lowBits negative n := by
  have hlt : n < 18446744073709551616 := h
  cases negative with
  | false =>
    show n % 4294967296 = ((n : ℤ) % 4294967296).toNat
    omega
  | true =>
    show (18446744073709551616 - n) % 18446744073709551616 % 4294967296 = (-(n : ℤ) % 4294967296).toNat
    omega

/-- A C string ends at the first NUL. -/
theorem cstr_append {s : String} {front tail : List Char} (hs : s.toList = front ++ tail)
    (hfront : ∀ c ∈ front, c ≠ '\x00') (htail : tail = [] ∨ tail.head? = some '\x00') : cstr s = front := by
  rw [cstr, hs, List.takeWhile_append_of_pos (fun c hc => bne_iff_ne.mpr (hfront c hc))]
  rcases htail with rfl | htail
  · exact List.append_nil _
  · cases tail with
    | nil => exact List.append_nil _
    | cons c rest =>
      cases htail
      exact List.append_nil _

/-- Signs, blanks and digits are no NUL. -/
theorem signed_ne_nul {blanks sign numeral : List Char} {negative : Bool} {n : ℕ}
    (hblanks : ∀ c ∈ blanks, isspace c = true) (hsign : Sign negative sign) (hnumeral : Numeral numeral n) :
    ∀ c ∈ blanks ++ (sign ++ numeral), c ≠ '\x00' := by
  intro c hc hnul
  subst hnul
  rcases List.mem_append.mp hc with hblank | hc
  · exact absurd (hblanks _ hblank) (by decide)
  · rcases List.mem_append.mp hc with hmem | hmem
    · cases hsign <;> simp at hmem
    · exact absurd (hnumeral.le_toNat _ hmem) (by decide)

/-- A constant is read as the number that it denotes. -/
theorem soundFlagsOf_of_numeral {request : Json} {encodedFlags : String} {n : ℕ}
    (hflags : stringMember request "soundFlags" = some encodedFlags) (h : Numeral encodedFlags.toList n)
    (hlt : n < ulongModulus) : soundFlagsOf request = some (UInt32.ofNat n) := by
  have hblanks : ∀ c ∈ ([] : List Char), isspace c = true := fun c hc => absurd hc List.not_mem_nil
  have hcstr : cstr encodedFlags = encodedFlags.toList :=
    cstr_append (List.append_nil _).symm (signed_ne_nul hblanks .none h) (Or.inl rfl)
  refine (soundFlagsOf_eq_some_iff hflags _).mpr ⟨n, ?_, rfl⟩
  rw [hcstr]
  exact .signed hblanks .none h hlt

/-- A misread text passes. -/
theorem passes_of_misread {request : Json} {encodedFlags : String}
    (hflags : stringMember request "soundFlags" = some encodedFlags) (h : Misread encodedFlags) :
    PassesFlagChecks request := by
  obtain ⟨blanks, sign, numeral, tail, negative, n, hs, hblanks, hsign, hnumeral, hlt, htail, hlow, -⟩ := h
  have hcstr : cstr encodedFlags = blanks ++ (sign ++ numeral) :=
    cstr_append hs (signed_ne_nul hblanks hsign hnumeral) htail
  refine (passesFlagChecks_iff hflags).mpr ⟨returned negative n, ?_, ?_⟩
  · rw [hcstr]
    exact .signed hblanks hsign hnumeral hlt
  · rw [returned_mod negative hlt]
    exact hlow

/-- It is no constant for supported flags. -/
theorem not_denotesFlags_of_misread {encodedFlags : String} (h : Misread encodedFlags) :
    ¬ DenotesFlags encodedFlags := by
  rintro ⟨m, hwhole, hsupported⟩
  obtain ⟨blanks, sign, numeral, tail, negative, n, hs, hblanks, hsign, hnumeral, -, htail, -, hmore⟩ := h
  have hdigit := hwhole.le_toNat
  rw [hs] at hdigit hwhole
  -- there is no room for anything but digits
  have hnoblanks : blanks = [] := by
    apply List.eq_nil_iff_forall_not_mem.mpr
    intro c hc
    have hlow := toNat_of_isspace (hblanks c hc)
    have hhigh := hdigit c (by simp [hc])
    omega
  have hnosign : sign = [] := by
    cases hsign with
    | none => rfl
    | plus => exact absurd (hdigit '+' (by simp)) (by decide)
    | minus => exact absurd (hdigit '-' (by simp)) (by decide)
  have hnotail : tail = [] := by
    rcases htail with rfl | hhead
    · rfl
    · exact absurd (hdigit '\x00' (by simp [List.mem_of_mem_head? hhead])) (by decide)
  rw [hnoblanks, hnosign, hnotail, List.nil_append, List.nil_append, List.append_nil] at hwhole
  have hn : n < 2 ^ 17 := by
    rw [← hwhole.unique hnumeral]
    exact hsupported.lt
  rcases hmore with hne | hne | hne | hle
  · exact hne hnoblanks
  · exact hne hnosign
  · exact hne hnotail
  · omega

/-- A text that passes is a constant for supported flags, or it is misread. -/
theorem denotesFlags_or_misread {request : Json} {encodedFlags : String}
    (hflags : stringMember request "soundFlags" = some encodedFlags) (h : PassesFlagChecks request) :
    DenotesFlags encodedFlags ∨ Misread encodedFlags := by
  obtain ⟨value, hreads, hsupported⟩ := (passesFlagChecks_iff hflags).mp h
  obtain ⟨tail, hall, htail⟩ : ∃ tail, encodedFlags.toList = cstr encodedFlags ++ tail
      ∧ (tail = [] ∨ tail.head? = some '\x00') := by
    refine ⟨encodedFlags.toList.dropWhile (· != '\x00'), List.takeWhile_append_dropWhile.symm, ?_⟩
    cases hdrop : encodedFlags.toList.dropWhile (· != '\x00') with
    | nil => exact Or.inl rfl
    | cons c rest =>
      have hhead := List.head?_dropWhile_not (· != '\x00') encodedFlags.toList
      rw [hdrop] at hhead
      exact Or.inr (congrArg some (by simpa using hhead))
  generalize cstr encodedFlags = front at hall hreads
  cases hreads with
  | empty => exact absurd hsupported.aliasBit (by decide)
  | @signed blanks sign numeral negative n hblanks hsign hnumeral hfits =>
    rw [returned_mod negative hfits] at hsupported
    by_cases hmore : blanks ≠ [] ∨ sign ≠ [] ∨ tail ≠ [] ∨ 4294967296 ≤ n
    · exact Or.inr ⟨blanks, sign, numeral, tail, negative, n, hall, hblanks, hsign, hnumeral, hfits, htail,
        hsupported, hmore⟩
    · rw [not_or, not_or, not_or, not_not, not_not, not_not, not_le] at hmore
      obtain ⟨rfl, rfl, rfl, hlt⟩ := hmore
      rw [List.nil_append, List.nil_append, List.append_nil] at hall
      cases hsign with
      | none =>
        have hlow : lowBits false n = n := by
          show ((n : ℤ) % 4294967296).toNat = n
          omega
        exact Or.inl ⟨n, hall ▸ hnumeral, hlow ▸ hsupported⟩

/-- **When the flag checks do what they are there for.**  A text that is no unsigned constant of C for
supported flags is refused, unless it is one that `strtoul` and the cut to 32 bits turn into such flags. -/
theorem flagsMeant_iff {I G : Type} (P : Platform I G) (i : Input I) (bev : Conn) (w : World G)
    (encodedFlags : String) : FlagsMeant P i bev w encodedFlags ↔ ¬ Misread encodedFlags := by
  constructor
  · intro h hmisread
    have hflags : stringMember (.obj [("soundFlags", .str encodedFlags)]) "soundFlags" = some encodedFlags := rfl
    exact not_denotesFlags_of_misread hmisread (h.only _ hflags (passes_of_misread hflags hmisread))
  · intro h
    have honly : ∀ request, stringMember request "soundFlags" = some encodedFlags →
        PassesFlagChecks request → DenotesFlags encodedFlags :=
      fun request hflags hpasses => (denotesFlags_or_misread hflags hpasses).resolve_right h
    exact ⟨honly, fun request hflags hnot =>
      handlePlaySound_refused P i bev w fun hpasses => hnot (honly request hflags hpasses)⟩

/-- The text `0x100010000` has a bit that is cut off. -/
theorem misread_high_bit : Misread "0x100010000" := by
  have hdigits : Digits 16 ['1', '0', '0', '0', '1', '0', '0', '0', '0'] :=
    ⟨by decide, List.all_eq_true.mp (by decide)⟩
  have hvalue : ofDigits 16 ['1', '0', '0', '0', '1', '0', '0', '0', '0'] = 4295032832 := by decide
  have hnumeral : Numeral ['0', 'x', '1', '0', '0', '0', '1', '0', '0', '0', '0'] 4295032832 :=
    hvalue ▸ .hexadecimal (Or.inl rfl) hdigits
  have hlow : lowBits false 4295032832 = 2 ^ 16 := by decide
  have hsupported : SupportedFlags (lowBits false 4295032832) := by
    rw [hlow]
    refine ⟨rfl, fun k hk => ?_⟩
    rw [Nat.testBit_two_pow, decide_eq_true_eq] at hk
    rw [← hk]
    rfl
  exact ⟨[], [], _, [], false, _, rfl, fun c hc => absurd hc List.not_mem_nil, .none, hnumeral, by decide,
    Or.inl rfl, hsupported, Or.inr (Or.inr (Or.inr (by decide)))⟩

/-- A request for flags with bit 32 is accepted. -/
theorem passes_high_bit :
    PassesFlagChecks (.obj [("req", .str "PlaySound"), ("soundId", .str "SystemExit"),
        ("soundFlags", .str "0x100010000")])
      ∧ ¬ DenotesFlags "0x100010000" :=
  ⟨passes_of_misread rfl misread_high_bit, not_denotesFlags_of_misread misread_high_bit⟩

end OpenMadt.Server
