import Mathlib.Data.List.Basic

/-!
# JSON texts as byte strings

The RFC 8259 grammar over raw bytes, with the layout kept: which byte strings are the text of a
value, of an object, of an array's elements, of an object's members.  Nothing is parsed here; a
derivation of `Text k t` says that `t` is a text of kind `k`, and induction on it is how a lexical
property of every JSON text is proved.

Strings are taken as byte sequences: any byte from `0x20` on may stand unescaped, so the multi-byte
UTF-8 sequences are included and ill-formed ones are not excluded.  Every text a strict parser
accepts is a text here.
-/

namespace JsonText

abbrev quote : UInt8 := 0x22
abbrev backslash : UInt8 := 0x5c
abbrev lbrace : UInt8 := 0x7b
abbrev rbrace : UInt8 := 0x7d
abbrev lbracket : UInt8 := 0x5b
abbrev rbracket : UInt8 := 0x5d
abbrev colon : UInt8 := 0x3a
abbrev comma : UInt8 := 0x2c

/-! ### Leaves: whitespace, strings, numbers -/

/-- The four whitespace bytes of JSON. -/
def isWs (c : UInt8) : Bool := c == 0x20 || c == 0x09 || c == 0x0a || c == 0x0d

/-- A run of whitespace. -/
def Ws (w : List UInt8) : Prop := ∀ c ∈ w, isWs c = true

def isDigit (c : UInt8) : Bool := 0x30 ≤ c && c ≤ 0x39

def isHex (c : UInt8) : Bool :=
  isDigit c || (0x41 ≤ c && c ≤ 0x46) || (0x61 ≤ c && c ≤ 0x66)

/-- The bytes that may follow a backslash, other than `u`: `"`, `\`, `/`, `b`, `f`, `n`, `r`, `t`. -/
def isEscape (c : UInt8) : Bool :=
  c == quote || c == backslash || c == 0x2f || c == 0x62 || c == 0x66 || c == 0x6e || c == 0x72
    || c == 0x74

/-- The contents of a string, between its quotes. -/
inductive Chars : List UInt8 → Prop where
  | nil : Chars []
  | plain {c : UInt8} {s : List UInt8} :
      c ≠ quote → c ≠ backslash → 0x20 ≤ c → Chars s → Chars (c :: s)
  | escape {c : UInt8} {s : List UInt8} :
      isEscape c = true → Chars s → Chars (backslash :: c :: s)
  | unicode {a b c d : UInt8} {s : List UInt8} :
      isHex a = true → isHex b = true → isHex c = true → isHex d = true → Chars s →
        Chars (backslash :: 0x75 :: a :: b :: c :: d :: s)

/-- A string text: its contents between quotes. -/
abbrev quoted (s : List UInt8) : List UInt8 := quote :: (s ++ [quote])

def Digits (d : List UInt8) : Prop := d ≠ [] ∧ ∀ c ∈ d, isDigit c = true

/-- An integer part: `0`, or digits that do not begin with `0`. -/
def IntPart (d : List UInt8) : Prop := Digits d ∧ (d.head? = some 0x30 → d = [0x30])

def Frac (f : List UInt8) : Prop := f = [] ∨ ∃ d, Digits d ∧ f = 0x2e :: d

def Exponent (e : List UInt8) : Prop :=
  e = [] ∨ ∃ mark sign d, (mark = 0x65 ∨ mark = 0x45) ∧ (sign = [] ∨ sign = [0x2b] ∨ sign = [0x2d])
    ∧ Digits d ∧ e = mark :: (sign ++ d)

def Number (n : List UInt8) : Prop :=
  ∃ sign int frac exp, (sign = [] ∨ sign = [0x2d]) ∧ IntPart int ∧ Frac frac ∧ Exponent exp
    ∧ n = sign ++ int ++ frac ++ exp

/-! ### Values, objects, elements and members -/

inductive Kind where
  | value
  | object
  | elements
  | members

/-- `Text k t`: the bytes `t` are a text of kind `k`.  One indexed family in place of four mutual
ones, so that a single induction covers them all. -/
inductive Text : Kind → List UInt8 → Prop where
  | null : Text .value [0x6e, 0x75, 0x6c, 0x6c]
  | true : Text .value [0x74, 0x72, 0x75, 0x65]
  | false : Text .value [0x66, 0x61, 0x6c, 0x73, 0x65]
  | number {n : List UInt8} : Number n → Text .value n
  | string {s : List UInt8} : Chars s → Text .value (quoted s)
  | emptyArray {w : List UInt8} : Ws w → Text .value (lbracket :: (w ++ [rbracket]))
  | array {es : List UInt8} : Text .elements es → Text .value (lbracket :: (es ++ [rbracket]))
  | ofObject {o : List UInt8} : Text .object o → Text .value o
  | emptyObject {w : List UInt8} : Ws w → Text .object (lbrace :: (w ++ [rbrace]))
  | object {ms : List UInt8} : Text .members ms → Text .object (lbrace :: (ms ++ [rbrace]))
  | element {w₁ v w₂ : List UInt8} :
      Ws w₁ → Text .value v → Ws w₂ → Text .elements (w₁ ++ v ++ w₂)
  | elements {w₁ v w₂ es : List UInt8} :
      Ws w₁ → Text .value v → Ws w₂ → Text .elements es →
        Text .elements (w₁ ++ v ++ w₂ ++ comma :: es)
  | member {w₁ s w₂ w₃ v w₄ : List UInt8} :
      Ws w₁ → Chars s → Ws w₂ → Ws w₃ → Text .value v → Ws w₄ →
        Text .members (w₁ ++ quoted s ++ w₂ ++ colon :: (w₃ ++ v ++ w₄))
  | members {w₁ s w₂ w₃ v w₄ ms : List UInt8} :
      Ws w₁ → Chars s → Ws w₂ → Ws w₃ → Text .value v → Ws w₄ → Text .members ms →
        Text .members (w₁ ++ quoted s ++ w₂ ++ colon :: (w₃ ++ v ++ w₄ ++ comma :: ms))

/-! ### Plain bytes: everything outside strings that is not a brace -/

/-- A byte that is neither a quote nor a brace. -/
def Plain (c : UInt8) : Prop := c ≠ quote ∧ c ≠ lbrace ∧ c ≠ rbrace

instance : DecidablePred Plain := fun _ => inferInstanceAs (Decidable (_ ∧ _))

theorem plain_of_isWs {c : UInt8} (h : isWs c = true) : Plain c := by
  simp only [isWs, Bool.or_eq_true, beq_iff_eq] at h
  rcases h with ((rfl | rfl) | rfl) | rfl <;> decide

theorem plain_of_isDigit {c : UInt8} (h : isDigit c = true) : Plain c := by
  refine ⟨?_, ?_, ?_⟩ <;> rintro rfl <;> revert h <;> decide

theorem Ws.plain {w : List UInt8} (h : Ws w) : ∀ c ∈ w, Plain c :=
  fun c hc => plain_of_isWs (h c hc)

theorem Digits.plain {d : List UInt8} (h : Digits d) : ∀ c ∈ d, Plain c :=
  fun c hc => plain_of_isDigit (h.2 c hc)

/-- A number has no quote and no brace in it. -/
theorem Number.plain {n : List UInt8} (h : Number n) : ∀ c ∈ n, Plain c := by
  obtain ⟨sign, int, frac, exp, hsign, hint, hfrac, hexp, rfl⟩ := h
  have hs : ∀ c ∈ sign, Plain c := by
    rcases hsign with rfl | rfl
    · simp
    · exact List.forall_mem_singleton.mpr (by decide)
  have hf : ∀ c ∈ frac, Plain c := by
    rcases hfrac with rfl | ⟨d, hd, rfl⟩
    · simp
    · exact List.forall_mem_cons.mpr ⟨by decide, hd.plain⟩
  have he : ∀ c ∈ exp, Plain c := by
    rcases hexp with rfl | ⟨mark, sg, d, hmark, hsg, hd, rfl⟩
    · simp
    · refine List.forall_mem_cons.mpr ⟨by rcases hmark with rfl | rfl <;> decide, ?_⟩
      refine List.forall_mem_append.mpr ⟨?_, hd.plain⟩
      rcases hsg with rfl | rfl | rfl
      · simp
      · exact List.forall_mem_singleton.mpr (by decide)
      · exact List.forall_mem_singleton.mpr (by decide)
  exact List.forall_mem_append.mpr
    ⟨List.forall_mem_append.mpr ⟨List.forall_mem_append.mpr ⟨hs, hint.1.plain⟩, hf⟩, he⟩

/-- An object text begins with its opening brace. -/
theorem Text.object_head {t : List UInt8} (h : Text .object t) : ∃ r, t = lbrace :: r := by
  cases h with
  | emptyObject _ => exact ⟨_, rfl⟩
  | object _ => exact ⟨_, rfl⟩

end JsonText
