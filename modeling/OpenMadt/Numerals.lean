import OpenMadt.CString
import Mathlib.Data.List.TakeWhile

/-!
# Numerals

What `strtoul` and `stoull` make of the unsigned integer constants of C.

* `Numeral` — the constants, decimal, hexadecimal or octal, with their values.
* `ReadsAll` — a constant behind blanks and a sign, with what `strtoul` returns for it.
* `readsAll_iff` — for base 0: the strings that are read to the end, and what is read.
* `stoull_decimal`, `stoull_hexadecimal` — for the bases 10 and 16: the numerals, of any length.
-/

namespace OpenMadt.CString

/-! ### Digits -/

/-- One digit or more. -/
def Digits (base : ℕ) (digits : List Char) : Prop := digits ≠ [] ∧ ∀ c ∈ digits, isDigitOf base c = true

/-- The unsigned integer constants, and the number that each denotes. -/
inductive Numeral : List Char → ℕ → Prop where
  | decimal {digits : List Char} (hdigits : Digits 10 digits) (hhead : digits.head? ≠ some '0') :
      Numeral digits (ofDigits 10 digits)
  | hexadecimal {x : Char} {digits : List Char} (hx : x = 'x' ∨ x = 'X') (hdigits : Digits 16 digits) :
      Numeral ('0' :: x :: digits) (ofDigits 16 digits)
  | octal {digits : List Char} (hdigits : ∀ c ∈ digits, isDigitOf 8 c = true) :
      Numeral ('0' :: digits) (ofDigits 8 ('0' :: digits))

/-- Digits come after the blanks, the signs and NUL. -/
theorem le_toNat_of_digit {base : ℕ} {c : Char} (h : isDigitOf base c = true) : 48 ≤ c.toNat := by
  rw [isDigitOf, digitValue] at h
  by_cases hdecimal : '0' ≤ c ∧ c ≤ '9'
  · exact hdecimal.1
  · by_cases hlower : 'a' ≤ c ∧ c ≤ 'z'
    · exact le_trans (by decide) (show 'a'.toNat ≤ c.toNat from hlower.1)
    · by_cases hupper : 'A' ≤ c ∧ c ≤ 'Z'
      · exact le_trans (by decide) (show 'A'.toNat ≤ c.toNat from hupper.1)
      · simp [hdecimal, hlower, hupper] at h

theorem toNat_of_isspace {c : Char} (h : isspace c = true) : c.toNat < 48 := by
  rw [isspace, Bool.or_eq_true, beq_iff_eq, Bool.and_eq_true, decide_eq_true_eq, decide_eq_true_eq] at h
  rcases h with rfl | ⟨-, hle⟩
  · decide
  · exact lt_of_le_of_lt (show c.toNat ≤ '\x0d'.toNat from hle) (by decide)

theorem isspace_eq_false {c : Char} (h : 48 ≤ c.toNat) : isspace c = false := by
  by_contra hspace
  have := toNat_of_isspace (Bool.not_eq_false _ ▸ hspace)
  omega

theorem Numeral.le_toNat {numeral : List Char} {n : ℕ} (h : Numeral numeral n) :
    ∀ c ∈ numeral, 48 ≤ c.toNat := by
  intro c hc
  cases h with
  | decimal hdigits hhead => exact le_toNat_of_digit (hdigits.2 c hc)
  | hexadecimal hx hdigits =>
    rcases List.mem_cons.mp hc with rfl | hc
    · decide
    · rcases List.mem_cons.mp hc with rfl | hc
      · rcases hx with rfl | rfl <;> decide
      · exact le_toNat_of_digit (hdigits.2 c hc)
  | octal hdigits =>
    rcases List.mem_cons.mp hc with rfl | hc
    · decide
    · exact le_toNat_of_digit (hdigits c hc)

/-! ### The prefix -/

/-- `0x` in front of a hexadecimal digit is a prefix in base 16 and in base 0. -/
theorem takePrefix_hexadecimal {base : ℕ} {x : Char} {digits : List Char} (hbase : base = 0 ∨ base = 16)
    (hx : x = 'x' ∨ x = 'X') (hdigits : Digits 16 digits) :
    takePrefix base ('0' :: x :: digits) = (16, digits) := by
  cases digits with
  | nil => exact absurd rfl hdigits.1
  | cons d rest =>
    have hd : isDigitOf 16 d = true := hdigits.2 d List.mem_cons_self
    rw [takePrefix, if_pos ⟨hbase, hx, hd⟩]

/-- In the other bases there is no prefix. -/
theorem takePrefix_of_ne {base : ℕ} (hzero : base ≠ 0) (hsixteen : base ≠ 16) (s : List Char) :
    takePrefix base s = (base, s) := by
  unfold takePrefix
  split <;> simp [hzero, hsixteen]

/-- In base 0 a leading zero means octal digits, or the hexadecimal prefix. -/
theorem takePrefix_zero (u : List Char) :
    takePrefix 0 ('0' :: u) = (8, '0' :: u) ∨ ∃ x digits, u = x :: digits ∧ (x = 'x' ∨ x = 'X')
      ∧ takePrefix 0 ('0' :: u) = (16, digits) := by
  rcases u with _ | ⟨x, _ | ⟨d, rest⟩⟩
  · exact Or.inl rfl
  · exact Or.inl rfl
  · by_cases hhex : (x = 'x' ∨ x = 'X') ∧ isDigitOf 16 d = true
    · exact Or.inr ⟨x, d :: rest, rfl, hhex.1, by rw [takePrefix, if_pos ⟨Or.inl rfl, hhex⟩]⟩
    · refine Or.inl ?_
      rw [takePrefix, if_neg (fun h => hhex h.2), if_pos rfl]

theorem takePrefix_decimal {digits : List Char} (hhead : digits.head? ≠ some '0') :
    takePrefix 0 digits = (10, digits) := by
  cases digits with
  | nil => rfl
  | cons c rest =>
    have hc : c ≠ '0' := fun heq => hhead (congrArg some heq)
    unfold takePrefix
    split
    next heq => exact absurd (List.cons.inj heq).1 hc
    next heq => exact absurd (List.cons.inj heq).1 hc
    next => exact if_pos rfl

/-- **Base 0 reads the constants of C.** -/
theorem numeral_iff {u : List Char} {n : ℕ} :
    Numeral u n ↔ Digits (takePrefix 0 u).1 (takePrefix 0 u).2
      ∧ n = ofDigits (takePrefix 0 u).1 (takePrefix 0 u).2 := by
  constructor
  · intro h
    cases h with
    | decimal hdigits hhead =>
      rw [takePrefix_decimal hhead]
      exact ⟨hdigits, rfl⟩
    | hexadecimal hx hdigits =>
      rw [takePrefix_hexadecimal (Or.inl rfl) hx hdigits]
      exact ⟨hdigits, rfl⟩
    | @octal digits hdigits =>
      have hoctal : takePrefix 0 ('0' :: digits) = (8, '0' :: digits) := by
        rcases takePrefix_zero digits with hoctal | ⟨x, rest, rfl, hx, -⟩
        · exact hoctal
        · -- the letter of the prefix is no octal digit
          have hdigit := hdigits x List.mem_cons_self
          rcases hx with rfl | rfl
          · exact absurd hdigit (by decide)
          · exact absurd hdigit (by decide)
      rw [hoctal]
      have hzero : isDigitOf 8 '0' = true := by decide
      exact ⟨⟨List.cons_ne_nil _ _, List.forall_mem_cons.mpr ⟨hzero, hdigits⟩⟩, rfl⟩
  · rintro ⟨hdigits, rfl⟩
    cases u with
    | nil => exact absurd rfl hdigits.1
    | cons c rest =>
      by_cases hc : c = '0'
      · subst hc
        rcases takePrefix_zero rest with hoctal | ⟨x, digits, rfl, hx, hhex⟩
        · rw [hoctal] at hdigits ⊢
          exact .octal (List.forall_mem_cons.mp hdigits.2).2
        · rw [hhex] at hdigits ⊢
          exact .hexadecimal hx hdigits
      · have hhead : (c :: rest).head? ≠ some '0' := fun heq => hc (Option.some.inj heq)
        rw [takePrefix_decimal hhead] at hdigits ⊢
        exact .decimal hdigits hhead

/-- A constant denotes one number. -/
theorem Numeral.unique {u : List Char} {m n : ℕ} (hm : Numeral u m) (hn : Numeral u n) : m = n := by
  rw [(numeral_iff.mp hm).2, (numeral_iff.mp hn).2]

/-! ### Blanks and signs -/

/-- A sign, or nothing. -/
inductive Sign : Bool → List Char → Prop where
  | none : Sign false []
  | plus : Sign false ['+']
  | minus : Sign true ['-']

theorem takeSign_append {negative : Bool} {sign u : List Char} (hsign : Sign negative sign)
    (hu : ∀ c ∈ u, 48 ≤ c.toNat) : takeSign (sign ++ u) = (negative, u) := by
  cases hsign with
  | none =>
    cases u with
    | nil => rfl
    | cons c rest =>
      have hc : 48 ≤ c.toNat := hu c List.mem_cons_self
      rw [List.nil_append, takeSign]
      · intro _ heq
        rw [(List.cons.inj heq).1] at hc
        exact absurd hc (by decide)
      · intro _ heq
        rw [(List.cons.inj heq).1] at hc
        exact absurd hc (by decide)
  | plus => rfl
  | minus => rfl

theorem exists_sign (u : List Char) :
    ∃ sign, Sign (takeSign u).1 sign ∧ u = sign ++ (takeSign u).2 := by
  unfold takeSign
  split
  · exact ⟨['-'], .minus, rfl⟩
  · exact ⟨['+'], .plus, rfl⟩
  · exact ⟨[], .none, rfl⟩

/-- Blanks in front of anything that begins with no blank. -/
theorem dropWhile_blanks {blanks u : List Char} (hblanks : ∀ c ∈ blanks, isspace c = true)
    (hu : ∀ c ∈ u.head?, isspace c = false) : (blanks ++ u).dropWhile isspace = u := by
  rw [List.dropWhile_append_of_pos hblanks]
  cases u with
  | nil => rfl
  | cons c rest =>
    have hc : isspace c = false := hu c rfl
    rw [List.dropWhile_cons, hc]
    rfl

/-! ### The whole string -/

/-- What is returned for a number that fits: a negated one wraps around. -/
def returned (negative : Bool) (n : ℕ) : ℕ :=
  if negative then (ulongModulus - n) % ulongModulus else n

section Strtoul

variable {base radix : ℕ} {negative : Bool} {s u digits : List Char}

/-- Digits up to the end. -/
theorem strtoul_digits (hsign : takeSign (s.dropWhile isspace) = (negative, u))
    (hradix : takePrefix base u = (radix, digits)) (hdigits : Digits radix digits) :
    (strtoul base s).converted = true ∧ (strtoul base s).rest = []
      ∧ ((strtoul base s).outOfRange = true ↔ ulongModulus ≤ ofDigits radix digits)
      ∧ (ofDigits radix digits < ulongModulus →
        (strtoul base s).value = returned negative (ofDigits radix digits)) := by
  have htake : digits.takeWhile (isDigitOf radix) = digits := List.takeWhile_eq_self_iff.mpr hdigits.2
  have hdrop : digits.dropWhile (isDigitOf radix) = [] := List.dropWhile_eq_nil_iff.mpr hdigits.2
  have hne : digits ≠ [] := hdigits.1
  unfold strtoul returned
  simp only [hsign, hradix, htake, hdrop, if_neg hne]
  by_cases hlarge : ulongModulus ≤ ofDigits radix digits
  · simp [hlarge, not_lt.mpr hlarge]
  · cases negative <;> simp [hlarge]

/-- What is read to the end is empty or ends in digits. -/
theorem digits_of_rest (hsign : takeSign (s.dropWhile isspace) = (negative, u))
    (hradix : takePrefix base u = (radix, digits)) (hs : s ≠ []) (hrest : (strtoul base s).rest = []) :
    Digits radix digits := by
  unfold strtoul at hrest
  simp only [hsign, hradix] at hrest
  by_cases hnone : digits.takeWhile (isDigitOf radix) = []
  · rw [if_pos hnone] at hrest
    exact absurd hrest hs
  · have hdrop : digits.dropWhile (isDigitOf radix) = [] := by
      rw [if_neg hnone] at hrest
      split at hrest
      · exact hrest
      · split at hrest
        · exact hrest
        · exact hrest
    have hall := List.dropWhile_eq_nil_iff.mp hdrop
    exact ⟨fun hnil => hnone (by rw [hnil]; rfl), hall⟩

end Strtoul

/-- The strings that `strtoul` reads to the end in base 0 without an error, and what it returns. -/
inductive ReadsAll : List Char → ℕ → Prop where
  | empty : ReadsAll [] 0
  | signed {blanks sign numeral : List Char} {negative : Bool} {n : ℕ}
      (hblanks : ∀ c ∈ blanks, isspace c = true) (hsign : Sign negative sign) (hnumeral : Numeral numeral n)
      (hfits : n < ulongModulus) : ReadsAll (blanks ++ (sign ++ numeral)) (returned negative n)

/-- Behind the blanks there is the sign. -/
theorem takeSign_blanks {blanks sign numeral : List Char} {negative : Bool} {n : ℕ}
    (hblanks : ∀ c ∈ blanks, isspace c = true) (hsign : Sign negative sign)
    (hnumeral : Numeral numeral n) :
    takeSign ((blanks ++ (sign ++ numeral)).dropWhile isspace) = (negative, numeral) := by
  rw [dropWhile_blanks hblanks, takeSign_append hsign hnumeral.le_toNat]
  cases hsign with
  | none => exact fun c hc => isspace_eq_false (hnumeral.le_toNat c (List.mem_of_mem_head? hc))
  | plus => intro c hc; cases hc; rfl
  | minus => intro c hc; cases hc; rfl

/-- **What `strtoul` accepts in base 0.** -/
theorem readsAll_iff {s : List Char} {value : ℕ} :
    ((strtoul 0 s).outOfRange = false ∧ (strtoul 0 s).rest = [] ∧ (strtoul 0 s).value = value)
      ↔ ReadsAll s value := by
  constructor
  · rintro ⟨hrange, hrest, rfl⟩
    by_cases hs : s = []
    · rw [hs]
      exact .empty
    · obtain ⟨negative, u, hsign⟩ : ∃ negative u, takeSign (s.dropWhile isspace) = (negative, u) := ⟨_, _, rfl⟩
      obtain ⟨radix, digits, hradix⟩ : ∃ radix digits, takePrefix 0 u = (radix, digits) := ⟨_, _, rfl⟩
      have hdigits := digits_of_rest hsign hradix hs hrest
      obtain ⟨-, -, hlarge, hvalue⟩ := strtoul_digits hsign hradix hdigits
      have hfits : ofDigits radix digits < ulongModulus := by
        by_contra hnot
        rw [hlarge.mpr (not_lt.mp hnot)] at hrange
        cases hrange
      obtain ⟨sign, hmatch, hsplit⟩ := exists_sign (s.dropWhile isspace)
      rw [hsign] at hmatch hsplit
      have hnumeral : Numeral u (ofDigits radix digits) :=
        numeral_iff.mpr (by rw [hradix]; exact ⟨hdigits, rfl⟩)
      have hall : s = s.takeWhile isspace ++ (sign ++ u) := by
        rw [← hsplit, List.takeWhile_append_dropWhile]
      rw [hvalue hfits]
      conv => arg 1; rw [hall]
      exact .signed (fun c hc => List.mem_takeWhile_imp hc) hmatch hnumeral hfits
  · intro h
    cases h with
    | empty => exact ⟨rfl, rfl, rfl⟩
    | @signed blanks sign numeral negative n hblanks hsign hnumeral hfits =>
      have htaken := takeSign_blanks hblanks hsign hnumeral
      obtain ⟨hdigits, rfl⟩ := numeral_iff.mp hnumeral
      obtain ⟨-, hrest, hlarge, hvalue⟩ := strtoul_digits htaken rfl hdigits
      refine ⟨?_, hrest, hvalue hfits⟩
      rw [← Bool.not_eq_true, hlarge]
      exact not_le.mpr hfits

/-! ### `stoull` -/

/-- A text without NUL. -/
theorem cstr_eq {s : String} (h : ∀ c ∈ s.toList, c ≠ '\x00') : cstr s = s.toList := by
  rw [cstr, List.takeWhile_eq_self_iff]
  exact fun c hc => bne_iff_ne.mpr (h c hc)

/-- A text of digits behind a prefix of the base. -/
theorem stoull_digits {s : String} {base radix : ℕ} {digits : List Char}
    (hall : ∀ c ∈ s.toList, 48 ≤ c.toNat) (hradix : takePrefix base s.toList = (radix, digits))
    (hdigits : Digits radix digits) :
    stoull s base = if ofDigits radix digits < ulongModulus then
      some (ofDigits radix digits, s.toList.length) else none := by
  have hcstr : cstr s = s.toList := cstr_eq fun c hc heq => by
    have := hall c hc
    rw [heq] at this
    exact absurd this (by decide)
  have hsign : takeSign (s.toList.dropWhile isspace) = (false, s.toList) := by
    have hblanks : ([] ++ s.toList).dropWhile isspace = s.toList :=
      dropWhile_blanks (fun c hc => absurd hc List.not_mem_nil)
        fun c hc => isspace_eq_false (hall c (List.mem_of_mem_head? hc))
    rw [← takeSign_append .none hall]
    exact congrArg takeSign hblanks
  obtain ⟨hconverted, hrest, hlarge, hvalue⟩ := strtoul_digits hsign hradix hdigits
  rw [stoull, hcstr]
  by_cases hfits : ofDigits radix digits < ulongModulus
  · have hrange : (strtoul base s.toList).outOfRange ≠ true := fun h => not_le.mpr hfits (hlarge.mp h)
    rw [if_pos hfits, if_pos ⟨hconverted, hrange⟩, hvalue hfits, hrest]
    rfl
  · have hrange : (strtoul base s.toList).outOfRange = true := hlarge.mpr (not_lt.mp hfits)
    rw [if_neg hfits, if_neg (fun h => h.2 hrange)]

theorem stoull_decimal {s : String} (h : Digits 10 s.toList) :
    stoull s 10 = if ofDigits 10 s.toList < ulongModulus then
      some (ofDigits 10 s.toList, s.toList.length) else none :=
  stoull_digits (fun c hc => le_toNat_of_digit (h.2 c hc))
    (takePrefix_of_ne (by decide) (by decide) s.toList) h

theorem stoull_hexadecimal {s : String} {x : Char} {digits : List Char} (hs : s.toList = '0' :: x :: digits)
    (hx : x = 'x' ∨ x = 'X') (h : Digits 16 digits) :
    stoull s 16 = if ofDigits 16 digits < ulongModulus then
      some (ofDigits 16 digits, s.toList.length) else none := by
  refine stoull_digits (fun c hc => ?_) ?_ h
  · rw [hs] at hc
    exact (Numeral.hexadecimal hx h).le_toNat c hc
  · rw [hs]
    exact takePrefix_hexadecimal (Or.inr rfl) hx h

end OpenMadt.CString
