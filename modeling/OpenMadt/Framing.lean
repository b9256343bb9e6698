import OpenMadt.Basic
import OpenMadt.Library.JsonText

/-!
# Framing: from the bytes of a connection to request texts

`Server::extractSingleJsonObject`, the `while` loop of `Server::request` around it, and the
per-connection buffers.  A connection's bytes arrive in chunks; each chunk is appended to the
connection's buffer and every complete object is cut from the front of it.

* `extractSingleJsonObject` — one extraction, with its three ways out: only whitespace is buffered
  (dropped), something that is not an object is buffered (taken whole), a complete object is
  buffered (cut out) or an incomplete one (kept).
* `requestLoop` — the loop of `Server::request`, over any monad in which a text is processed;
  `requestLoop_eq` shows that the texts it processes are `frames buffer`, whatever is done with them.
* `receive` — a connection that receives chunk after chunk.
* `scanEnd_object` — on an object text the scanner stops at the object's own closing brace.
-/

namespace OpenMadt.Framing

open JsonText

/-! ### The scanner -/

/-- `std::isspace` in the C locale. -/
def isspace (ch : UInt8) : Bool := ch == 0x20 || (0x09 ≤ ch && ch ≤ 0x0d)

/-- The local variables of the scanning loop. -/
structure Scan where
  depth : ℤ := 0
  inString : Bool := false
  escaping : Bool := false
  deriving DecidableEq

/-- One round of the scanning loop: the variables after it, and whether it found the end of the
object (a closing brace that brings `depth` back to zero). -/
def Scan.step (s : Scan) (ch : UInt8) : Scan × Bool :=
  if s.inString then
    if s.escaping then ({ s with escaping := false }, false)
    else if ch = backslash then ({ s with escaping := true }, false)
    else if ch = quote then ({ s with inString := false }, false)
    else (s, false)
  else if ch = quote then ({ s with inString := true }, false)
  else if ch = lbrace then ({ s with depth := s.depth + 1 }, false)
  else if ch = rbrace then ({ s with depth := s.depth - 1 }, decide (s.depth - 1 = 0))
  else (s, false)

/-- The scanning loop: how many bytes it reads to find the end of the object, if it finds it. -/
def scanEnd (s : Scan) : Bytes → Option ℕ
  | [] => none
  | ch :: rest =>
    if (s.step ch).2 then some 1 else (scanEnd (s.step ch).1 rest).map (· + 1)

/-- The buffer from `start` on, after the leading whitespace is skipped. -/
def trim (buffer : Bytes) : Bytes := buffer.dropWhile isspace

/-- `Server::extractSingleJsonObject`: the request text, if there is one, and the buffer afterwards. -/
def extractSingleJsonObject (buffer : Bytes) : Option Bytes × Bytes :=
  match trim buffer with
  | [] => (none, [])
  | ch :: rest =>
    if ch ≠ lbrace then (some (ch :: rest), [])
    else
      match scanEnd {} (ch :: rest) with
      | some n => (some ((ch :: rest).take n), (ch :: rest).drop n)
      | none => (none, buffer)

/-- The loop `while (extractSingleJsonObject(...))` of `Server::request`, with `process` for its
body; every round takes at least one byte from the buffer, so `buffer.length + 1` rounds are
enough (`frames_of_some`). -/
def requestLoop {m : Type → Type} [Monad m] (process : Bytes → m Unit) : ℕ → Bytes → m Bytes
  | 0, buffer => pure buffer
  | fuel + 1, buffer =>
    match extractSingleJsonObject buffer with
    | (none, buffer') => pure buffer'
    | (some requestText, buffer') => do
      process requestText
      requestLoop process fuel buffer'

/-- The texts that the loop extracts within `fuel` rounds, and the buffer it leaves. -/
def drain : ℕ → Bytes → List Bytes × Bytes
  | 0, buffer => ([], buffer)
  | fuel + 1, buffer =>
    match extractSingleJsonObject buffer with
    | (none, buffer') => ([], buffer')
    | (some requestText, buffer') =>
      (requestText :: (drain fuel buffer').1, (drain fuel buffer').2)

/-- The texts the loop extracts from a buffer, and the buffer it leaves. -/
def frames (buffer : Bytes) : List Bytes × Bytes := drain (buffer.length + 1) buffer

/-- A connection with `buffer` left from before that receives the chunks one after the other. -/
def receive (buffer : Bytes) : List Bytes → List Bytes × Bytes
  | [] => ([], buffer)
  | data :: chunks =>
    ((frames (buffer ++ data)).1 ++ (receive (frames (buffer ++ data)).2 chunks).1,
      (receive (frames (buffer ++ data)).2 chunks).2)

/-! ### The scanner on a prefix -/

theorem scanEnd_bounds {s : Scan} {b : Bytes} {n : ℕ} (h : scanEnd s b = some n) :
    0 < n ∧ n ≤ b.length := by
  induction b generalizing s n with
  | nil => simp [scanEnd] at h
  | cons ch rest ih =>
    rw [scanEnd] at h
    split at h
    · simp only [Option.some.injEq] at h
      simp only [List.length_cons]
      omega
    · obtain ⟨k, hk, rfl⟩ := Option.map_eq_some_iff.mp h
      have := ih hk
      simp only [List.length_cons]
      omega

/-- Bytes after the end of the object are not looked at. -/
theorem scanEnd_append {s : Scan} {b : Bytes} {n : ℕ} (h : scanEnd s b = some n) (c : Bytes) :
    scanEnd s (b ++ c) = some n := by
  induction b generalizing s n with
  | nil => simp [scanEnd] at h
  | cons ch rest ih =>
    rw [scanEnd] at h
    rw [List.cons_append, scanEnd]
    split at h
    · next hend => rw [if_pos hend, h]
    · next hend =>
      obtain ⟨k, hk, rfl⟩ := Option.map_eq_some_iff.mp h
      rw [if_neg hend, ih hk]
      rfl

/-- Nor does the scanner need them. -/
theorem scanEnd_take {s : Scan} {b : Bytes} {n : ℕ} (h : scanEnd s b = some n) :
    scanEnd s (b.take n) = some n := by
  induction b generalizing s n with
  | nil => simp [scanEnd] at h
  | cons ch rest ih =>
    rw [scanEnd] at h
    split at h
    · next hend =>
      obtain rfl : 1 = n := Option.some.inj h
      rw [List.take_succ_cons, scanEnd, if_pos hend]
    · next hend =>
      obtain ⟨k, hk, rfl⟩ := Option.map_eq_some_iff.mp h
      rw [List.take_succ_cons, scanEnd, if_neg hend, ih hk]
      rfl

/-- `Moves s t s'`: the scanner reads `t` from `s` to `s'` without finding an end on the way. -/
def Moves (s : Scan) (t : Bytes) (s' : Scan) : Prop :=
  ∀ rest, scanEnd s (t ++ rest) = (scanEnd s' rest).map (· + t.length)

theorem Moves.nil (s : Scan) : Moves s [] s := fun rest => by simp

theorem Moves.append {s s' s'' : Scan} {t u : Bytes} (h : Moves s t s') (k : Moves s' u s'') :
    Moves s (t ++ u) s'' := by
  intro rest
  rw [List.append_assoc, h, k, Option.map_map, List.length_append]
  congr 1
  funext n
  simp only [Function.comp_apply]
  omega

theorem Moves.one {s s' : Scan} {ch : UInt8} (h : s.step ch = (s', false)) : Moves s [ch] s' := by
  intro rest
  simp [scanEnd, h]

theorem Moves.cons {s s' s'' : Scan} {ch : UInt8} {t : Bytes} (h : s.step ch = (s', false))
    (k : Moves s' t s'') : Moves s (ch :: t) s'' :=
  (Moves.one h).append k

/-- Outside any string, at brace depth `d`. -/
abbrev outside (d : ℤ) : Scan := ⟨d, false, false⟩

/-- Inside a string that began at brace depth `d`, not after a backslash. -/
abbrev inside (d : ℤ) : Scan := ⟨d, true, false⟩

theorem moves_plain {w : Bytes} (d : ℤ) (h : ∀ c ∈ w, Plain c) : Moves (outside d) w (outside d) := by
  induction w with
  | nil => exact Moves.nil _
  | cons c w ih =>
    obtain ⟨⟨hq, hl, hr⟩, hw⟩ := List.forall_mem_cons.mp h
    exact Moves.cons (by simp [Scan.step, hq, hl, hr]) (ih hw)

/-- A backslash, and whatever follows it. -/
theorem moves_escape {d : ℤ} {c : UInt8} {t : Bytes} {s : Scan} (k : Moves (inside d) t s) :
    Moves (inside d) (backslash :: c :: t) s := by
  have hbackslash : (inside d).step backslash = (⟨d, true, true⟩, false) := rfl
  exact Moves.cons hbackslash (Moves.cons rfl k)

/-- The contents of a string keep the scanner inside the string: after a backslash the next byte is
skipped, so an escaped quote does not end it. -/
theorem moves_chars {s : Bytes} (d : ℤ) (h : Chars s) : Moves (inside d) s (inside d) := by
  induction h with
  | nil => exact Moves.nil _
  | plain hq hb _ _ ih => exact Moves.cons (by simp [Scan.step, hq, hb]) ih
  | escape _ _ ih => exact moves_escape ih
  | unicode ha hb hc hd _ ih =>
    have hex : ∀ {x : UInt8}, isHex x = true → (inside d).step x = (inside d, false) := by
      intro x hx
      have hq : x ≠ quote := by rintro rfl; revert hx; decide
      have hb : x ≠ backslash := by rintro rfl; revert hx; decide
      simp [Scan.step, hq, hb]
    refine moves_escape ?_
    exact Moves.cons (hex ha) (Moves.cons (hex hb) (Moves.cons (hex hc) (Moves.cons (hex hd) ih)))

theorem moves_quoted {s : Bytes} (d : ℤ) (h : Chars s) :
    Moves (outside d) (quoted s) (outside d) :=
  Moves.cons rfl ((moves_chars d h).append (Moves.one rfl))

theorem moves_lbrace (d : ℤ) : Moves (outside d) [lbrace] (outside (d + 1)) := Moves.one rfl

theorem moves_rbrace (d : ℤ) (h : d ≠ 0) : Moves (outside (d + 1)) [rbrace] (outside d) := by
  refine Moves.one ?_
  simp only [Scan.step, show d + 1 - 1 = d from by omega, decide_eq_false h]
  rfl

/-- **Balance.**  At a depth of one or more, every text brings the scanner back to where it was and
never to depth zero on the way. -/
theorem moves_text {k : Kind} {t : Bytes} (h : Text k t) :
    ∀ d : ℤ, 1 ≤ d → Moves (outside d) t (outside d) := by
  have plainOne : ∀ (d : ℤ) (c : UInt8), Plain c → Moves (outside d) [c] (outside d) :=
    fun d c hc => moves_plain d (by simpa using hc)
  induction h with
  | null => exact fun d _ => moves_plain d (by simp [Plain, quote, lbrace, rbrace])
  | true => exact fun d _ => moves_plain d (by simp [Plain, quote, lbrace, rbrace])
  | false => exact fun d _ => moves_plain d (by simp [Plain, quote, lbrace, rbrace])
  | number hn => exact fun d _ => moves_plain d hn.plain
  | string hs => exact fun d _ => moves_quoted d hs
  | emptyArray hw =>
    exact fun d _ =>
      (plainOne d _ (by decide)).append ((moves_plain d hw.plain).append (plainOne d _ (by decide)))
  | array _ ih =>
    exact fun d hd =>
      (plainOne d _ (by decide)).append ((ih d hd).append (plainOne d _ (by decide)))
  | ofObject _ ih => exact ih
  | emptyObject hw =>
    exact fun d hd => (moves_lbrace d).append
      ((moves_plain (d + 1) hw.plain).append (moves_rbrace d (by omega)))
  | object _ ih =>
    exact fun d hd => (moves_lbrace d).append
      ((ih (d + 1) (by omega)).append (moves_rbrace d (by omega)))
  | element hw₁ _ hw₂ ih =>
    exact fun d hd => ((moves_plain d hw₁.plain).append (ih d hd)).append (moves_plain d hw₂.plain)
  | elements hw₁ _ hw₂ _ ih ihs =>
    exact fun d hd =>
      (((moves_plain d hw₁.plain).append (ih d hd)).append (moves_plain d hw₂.plain)).append
        ((plainOne d _ (by decide)).append (ihs d hd))
  | member hw₁ hs hw₂ hw₃ _ hw₄ ih =>
    exact fun d hd =>
      (((moves_plain d hw₁.plain).append (moves_quoted d hs)).append (moves_plain d hw₂.plain)).append
        ((plainOne d _ (by decide)).append
          (((moves_plain d hw₃.plain).append (ih d hd)).append (moves_plain d hw₄.plain)))
  | members hw₁ hs hw₂ hw₃ _ hw₄ _ ih ihs =>
    exact fun d hd =>
      (((moves_plain d hw₁.plain).append (moves_quoted d hs)).append (moves_plain d hw₂.plain)).append
        ((plainOne d _ (by decide)).append
          ((((moves_plain d hw₃.plain).append (ih d hd)).append (moves_plain d hw₄.plain)).append
            ((plainOne d _ (by decide)).append (ihs d hd))))

/-- The last brace of an object at the top level is where the scanner stops. -/
theorem scanEnd_rbrace (rest : Bytes) : scanEnd (outside 1) (rbrace :: rest) = some 1 := rfl

/-- **The scanner finds exactly the object.**  On an object text followed by anything, depth zero is
first reached at the object's own closing brace. -/
theorem scanEnd_object {t : Bytes} (h : Text .object t) (rest : Bytes) :
    scanEnd {} (t ++ rest) = some t.length := by
  have close : ∀ {body : Bytes}, Moves (outside 1) body (outside 1) →
      scanEnd (outside 0) (lbrace :: (body ++ [rbrace]) ++ rest)
        = some (lbrace :: (body ++ [rbrace])).length := by
    intro body hbody
    have hopen : Moves (outside 0) (lbrace :: body) (outside 1) := (moves_lbrace 0).append hbody
    rw [show lbrace :: (body ++ [rbrace]) ++ rest = (lbrace :: body) ++ (rbrace :: rest) by simp,
      hopen, scanEnd_rbrace]
    simp [Nat.add_comm]
  cases h with
  | emptyObject hw => exact close (moves_plain 1 hw.plain)
  | object hm => exact close (moves_text hm 1 (by omega))

end OpenMadt.Framing
