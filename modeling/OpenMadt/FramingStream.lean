import OpenMadt.Framing
import Mathlib.Data.List.DropRight
import Mathlib.Data.List.TakeWhile
import Mathlib.Data.Nat.Init

/-!
# How a byte stream splits into requests

The framing of `Framing.lean` seen from the whole stream instead of the chunks.  `objects b` reads
the complete objects off the front of `b` and stops at what is left: nothing, an incomplete object,
or a stray byte where an object should begin.  It knows nothing of buffers and chunks.

* `objects_append` — reading a stream in two pieces is reading it at once, as long as the first
  piece does not end in stray bytes.
* `receive_eq_frames` — the chunked connection extracts exactly these objects when the stream has
  no stray byte, however it was divided.
* `chunk_independent_iff` — for an arbitrary stream, the division does not matter **iff** nothing
  follows the first stray byte.  The last section shows a stream for which it does.
-/

namespace OpenMadt.Framing

open JsonText

/-! ### Whitespace at the front -/

theorem trim_append (b c : Bytes) : trim (b ++ c) = if trim b = [] then trim c else trim b ++ c := by
  by_cases h : trim b = []
  · rw [if_pos h, trim, List.dropWhile_append, if_pos (by simpa [trim] using h)]
    rfl
  · rw [if_neg h, trim, List.dropWhile_append, if_neg (by simpa [trim] using h)]
    rfl

theorem trim_trim (b : Bytes) : trim (trim b) = trim b := List.dropWhile_idempotent _ b

theorem trim_length_le (b : Bytes) : (trim b).length ≤ b.length :=
  (List.dropWhile_suffix isspace).length_le

theorem trim_head_not_space {b rest : Bytes} {ch : UInt8} (h : trim b = ch :: rest) :
    isspace ch = false := by
  have hhead := List.head?_dropWhile_not isspace b
  rw [show b.dropWhile isspace = ch :: rest from h] at hhead
  simpa using hhead

theorem trim_cons_of_not_space {ch : UInt8} (rest : Bytes) (h : isspace ch = false) :
    trim (ch :: rest) = ch :: rest := by
  simp [trim, h]

theorem isspace_of_isWs {c : UInt8} (h : isWs c = true) : isspace c = true := by
  simp only [isWs, Bool.or_eq_true, beq_iff_eq] at h
  rcases h with ((rfl | rfl) | rfl) | rfl <;> decide

theorem trim_eq_nil_iff (b : Bytes) : trim b = [] ↔ ∀ c ∈ b, isspace c = true :=
  List.dropWhile_eq_nil_iff

theorem trim_takeWhile (b : Bytes) : trim (b.takeWhile isspace) = [] :=
  (trim_eq_nil_iff _).mpr (fun _ hc => List.mem_takeWhile_imp hc)

/-- A request text takes at least one byte from the buffer. -/
theorem extract_length_lt {b b' text : Bytes} (h : extractSingleJsonObject b = (some text, b')) :
    b'.length < b.length := by
  have hle := trim_length_le b
  rw [extractSingleJsonObject] at h
  split at h
  · simp at h
  · next ch rest htrim =>
    rw [htrim] at hle
    simp only [List.length_cons] at hle
    split at h
    · obtain rfl : [] = b' := (Prod.mk.inj h).2
      simp only [List.length_nil]
      omega
    · split at h
      · next n hn =>
        obtain rfl := (Prod.mk.inj h).2
        have hb := scanEnd_bounds hn
        rw [List.length_drop]
        simp only [List.length_cons] at hb ⊢
        omega
      · simp at h

/-! ### The complete objects of a stream -/

/-- The remainder begins where an object should, with some other byte. -/
def stray : Bytes → Bool
  | [] => false
  | ch :: _ => ch != lbrace

/-- The complete objects at the front of a stream, and what is left from the first place on where no
complete object can be read. -/
def objects (b : Bytes) : List Bytes × Bytes :=
  match _h : trim b with
  | [] => ([], [])
  | ch :: rest =>
    if ch ≠ lbrace then ([], ch :: rest)
    else
      match _hn : scanEnd {} (ch :: rest) with
      | some n =>
        ((ch :: rest).take n :: (objects ((ch :: rest).drop n)).1,
          (objects ((ch :: rest).drop n)).2)
      | none => ([], ch :: rest)
termination_by b.length
decreasing_by
  all_goals
    have hb := scanEnd_bounds _hn
    have hle := trim_length_le b
    rw [_h] at hle
    rw [List.length_drop]
    simp only [List.length_cons] at hb hle ⊢
    omega

theorem objects_of_space {b : Bytes} (h : trim b = []) : objects b = ([], []) := by
  rw [objects]
  split
  · rfl
  · next h' => simp [h] at h'

theorem objects_of_stray {b rest : Bytes} {ch : UInt8} (h : trim b = ch :: rest) (hch : ch ≠ lbrace) :
    objects b = ([], ch :: rest) := by
  rw [objects]
  split
  · next h' => simp [h] at h'
  · next ch' rest' h' =>
    obtain ⟨rfl, rfl⟩ := List.cons.inj (h.symm.trans h')
    rw [if_pos hch]

theorem objects_of_open {b rest : Bytes} (h : trim b = lbrace :: rest)
    (hn : scanEnd {} (lbrace :: rest) = none) : objects b = ([], lbrace :: rest) := by
  rw [objects]
  split
  · next h' => simp [h] at h'
  · next ch' rest' h' =>
    obtain ⟨rfl, rfl⟩ := List.cons.inj (h.symm.trans h')
    rw [if_neg (by simp)]
    split
    · next n hn' => simp [hn] at hn'
    · rfl

theorem objects_of_closed {b rest : Bytes} {n : ℕ} (h : trim b = lbrace :: rest)
    (hn : scanEnd {} (lbrace :: rest) = some n) :
    objects b = ((lbrace :: rest).take n :: (objects ((lbrace :: rest).drop n)).1,
      (objects ((lbrace :: rest).drop n)).2) := by
  rw [objects]
  split
  · next h' => simp [h] at h'
  · next ch' rest' h' =>
    obtain ⟨rfl, rfl⟩ := List.cons.inj (h.symm.trans h')
    rw [if_neg (by simp)]
    split
    · next m hm =>
      obtain rfl : n = m := Option.some.inj (hn.symm.trans hm)
      rfl
    · next hn' => simp [hn] at hn'

/-- The four ways a buffer can begin, as one induction principle: whitespace only, a stray byte, an
incomplete object, or a complete object followed by a shorter stream. -/
theorem objects_induction {P : Bytes → Prop}
    (space : ∀ b, trim b = [] → P b)
    (strayByte : ∀ b ch rest, trim b = ch :: rest → ch ≠ lbrace → P b)
    (openObject : ∀ b rest, trim b = lbrace :: rest → scanEnd {} (lbrace :: rest) = none → P b)
    (closedObject : ∀ b rest n, trim b = lbrace :: rest → scanEnd {} (lbrace :: rest) = some n →
      P ((lbrace :: rest).drop n) → P b)
    (b : Bytes) : P b := by
  induction hlen : b.length using Nat.strong_induction_on generalizing b with
  | _ len ih =>
    subst hlen
    cases h : trim b with
    | nil => exact space b h
    | cons ch rest =>
      by_cases hch : ch = lbrace
      · subst hch
        cases hn : scanEnd {} (lbrace :: rest) with
        | none => exact openObject b rest h hn
        | some n =>
          refine closedObject b rest n h hn (ih _ ?_ _ rfl)
          have hb := scanEnd_bounds hn
          have hle := trim_length_le b
          rw [h] at hle
          rw [List.length_drop]
          omega
      · exact strayByte b ch rest h hch

theorem objects_congr {b c : Bytes} (h : trim b = trim c) : objects b = objects c := by
  cases hb : trim b with
  | nil => rw [objects_of_space hb, objects_of_space (h.symm.trans hb)]
  | cons ch rest =>
    by_cases hch : ch = lbrace
    · subst hch
      cases hn : scanEnd {} (lbrace :: rest) with
      | none => rw [objects_of_open hb hn, objects_of_open (h.symm.trans hb) hn]
      | some n => rw [objects_of_closed hb hn, objects_of_closed (h.symm.trans hb) hn]
    · rw [objects_of_stray hb hch, objects_of_stray (h.symm.trans hb) hch]

theorem objects_trim (b : Bytes) : objects (trim b) = objects b := objects_congr (trim_trim b)

theorem trim_append_of_cons {b rest : Bytes} {ch : UInt8} (h : trim b = ch :: rest) (c : Bytes) :
    trim (b ++ c) = ch :: (rest ++ c) := by
  rw [trim_append, if_neg (by simp [h]), h, List.cons_append]

/-- **Reading in two pieces.**  What the first piece leaves unread is put in front of the second
piece; a stray byte in the first piece keeps everything after it. -/
theorem objects_append (b c : Bytes) :
    objects (b ++ c) =
      if stray (objects b).2 then ((objects b).1, (objects b).2 ++ c)
      else ((objects b).1 ++ (objects ((objects b).2 ++ c)).1,
        (objects ((objects b).2 ++ c)).2) := by
  induction b using objects_induction with
  | space b h =>
    have hbc : objects (b ++ c) = objects c := objects_congr (by rw [trim_append, if_pos h])
    simp [objects_of_space h, stray, hbc]
  | strayByte b ch rest h hch =>
    rw [objects_of_stray h hch, objects_of_stray (trim_append_of_cons h c) hch]
    simp [stray, hch]
  | openObject b rest h hn =>
    have hbc : objects (b ++ c) = objects (lbrace :: rest ++ c) := by
      refine objects_congr ?_
      rw [trim_append_of_cons h, List.cons_append, trim_cons_of_not_space _ (trim_head_not_space h)]
    rw [objects_of_open h hn, hbc]
    simp [stray]
  | closedObject b rest n h hn ih =>
    have hlen := (scanEnd_bounds hn).2
    have hn' : scanEnd {} (lbrace :: (rest ++ c)) = some n := scanEnd_append hn c
    rw [objects_of_closed h hn, objects_of_closed (trim_append_of_cons h c) hn',
      ← List.cons_append, List.take_append_of_le_length hlen, List.drop_append_of_le_length hlen, ih]
    split <;> rfl

/-- A remainder is left as it is when it is read again. -/
theorem objects_remainder (b : Bytes) : objects (objects b).2 = ([], (objects b).2) := by
  induction b using objects_induction with
  | space b h =>
    rw [objects_of_space h]
    exact objects_of_space rfl
  | strayByte b ch rest h hch =>
    rw [objects_of_stray h hch]
    exact objects_of_stray (trim_cons_of_not_space _ (trim_head_not_space h)) hch
  | openObject b rest h hn =>
    rw [objects_of_open h hn]
    exact objects_of_open (trim_cons_of_not_space _ (trim_head_not_space h)) hn
  | closedObject b rest n h hn ih =>
    rw [objects_of_closed h hn]
    exact ih

/-- The stream is its remainder after a part that reads as the objects and nothing else. -/
theorem objects_split (b : Bytes) :
    ∃ p, b = p ++ (objects b).2 ∧ objects p = ((objects b).1, []) := by
  induction b using objects_induction with
  | space b h =>
    rw [objects_of_space h]
    exact ⟨b, by simp, objects_of_space h⟩
  | strayByte b ch rest h hch =>
    rw [objects_of_stray h hch]
    refine ⟨b.takeWhile isspace, ?_, objects_of_space (trim_takeWhile b)⟩
    rw [← h]
    exact List.takeWhile_append_dropWhile.symm
  | openObject b rest h hn =>
    rw [objects_of_open h hn]
    refine ⟨b.takeWhile isspace, ?_, objects_of_space (trim_takeWhile b)⟩
    rw [← h]
    exact List.takeWhile_append_dropWhile.symm
  | closedObject b rest n h hn ih =>
    obtain ⟨p, hp, hobj⟩ := ih
    have hlen := (scanEnd_bounds hn).2
    rw [objects_of_closed h hn]
    refine ⟨b.takeWhile isspace ++ ((lbrace :: rest).take n ++ p), ?_, ?_⟩
    · rw [List.append_assoc, List.append_assoc, ← hp, List.take_append_drop, ← h]
      exact List.takeWhile_append_dropWhile.symm
    · have htake : (lbrace :: rest).take n = lbrace :: rest.take (n - 1) := by
        obtain ⟨k, rfl⟩ : ∃ k, n = k + 1 := ⟨n - 1, by have := (scanEnd_bounds hn).1; omega⟩
        rfl
      have htrim : trim (b.takeWhile isspace ++ ((lbrace :: rest).take n ++ p))
          = lbrace :: (rest.take (n - 1) ++ p) := by
        rw [trim_append, if_pos (trim_takeWhile b), htake, List.cons_append]
        exact trim_cons_of_not_space _ (by decide)
      have hn' : scanEnd {} (lbrace :: (rest.take (n - 1) ++ p)) = some n := by
        rw [← List.cons_append, ← htake]
        exact scanEnd_append (scanEnd_take hn) p
      have hlen' : ((lbrace :: rest).take n).length = n := by
        rw [List.length_take]
        omega
      rw [objects_of_closed htrim hn', ← List.cons_append, ← htake, List.take_left' hlen',
        List.drop_left' hlen', hobj]

/-! ### The loop of `Server::request` -/

/-- Rounds beyond the first `b.length + 1` change nothing. -/
theorem drain_congr_fuel {m n : ℕ} {b : Bytes} (hm : b.length < m) (hn : b.length < n) :
    drain m b = drain n b := by
  induction m generalizing n b with
  | zero => omega
  | succ m ih =>
    obtain ⟨n, rfl⟩ : ∃ k, n = k + 1 := ⟨n - 1, by omega⟩
    rw [drain, drain]
    split
    · rfl
    · next text b' hex =>
      have hlt := extract_length_lt hex
      rw [ih (by omega) (show b'.length < n by omega)]

/-- The loop ends when `extractSingleJsonObject` returns false. -/
theorem frames_of_none {b b' : Bytes} (h : extractSingleJsonObject b = (none, b')) :
    frames b = ([], b') := by
  rw [frames, drain, h]

/-- **The loop runs to its end.**  After a request text it goes on with what is left, so `frames` is
the unbounded `while` loop. -/
theorem frames_of_some {b b' text : Bytes} (h : extractSingleJsonObject b = (some text, b')) :
    frames b = (text :: (frames b').1, (frames b').2) := by
  rw [frames, drain, h]
  simp only [frames, drain_congr_fuel (extract_length_lt h) (Nat.lt_succ_self b'.length)]

/-- **What the loop processes.**  In any monad, the loop of `Server::request` is: process the texts
of `frames` one after the other, then leave the rest in the buffer. -/
theorem requestLoop_eq {m : Type → Type} [Monad m] [LawfulMonad m] (process : Bytes → m Unit)
    (b : Bytes) :
    requestLoop process (b.length + 1) b = (do
      (frames b).1.forM process
      pure (frames b).2) := by
  have hloop : ∀ (fuel : ℕ) (b : Bytes), requestLoop process fuel b = (do
      (drain fuel b).1.forM process
      pure (drain fuel b).2) := by
    intro fuel
    induction fuel with
    | zero => intro b; simp [requestLoop, drain]
    | succ fuel ih =>
      intro b
      rw [requestLoop, drain]
      split
      · simp
      · simp [ih]
  exact hloop _ b

/-- A stream that ends in stray bytes: these are one more frame, and nothing stays buffered. -/
theorem frames_of_stray {b : Bytes} (h : stray (objects b).2 = true) :
    frames b = ((objects b).1 ++ [(objects b).2], []) := by
  have hnil : frames [] = ([], []) := rfl
  induction b using objects_induction with
  | space b hb => simp [objects_of_space hb, stray] at h
  | strayByte b ch rest hb hch =>
    have hex : extractSingleJsonObject b = (some (ch :: rest), []) := by
      simp [extractSingleJsonObject, hb, hch]
    rw [frames_of_some hex, objects_of_stray hb hch]
    simp [hnil]
  | openObject b rest hb hn => simp [objects_of_open hb hn, stray] at h
  | closedObject b rest n hb hn ih =>
    have hex : extractSingleJsonObject b
        = (some ((lbrace :: rest).take n), (lbrace :: rest).drop n) := by
      simp [extractSingleJsonObject, hb, hn]
    rw [objects_of_closed hb hn] at h ⊢
    rw [frames_of_some hex, ih h]
    rfl

/-- A stream without stray bytes: the frames are its objects, and the incomplete object at its end
stays buffered, with or without the whitespace in front of it. -/
theorem frames_of_clean {b : Bytes} (h : stray (objects b).2 = false) :
    (frames b).1 = (objects b).1 ∧ trim (frames b).2 = (objects b).2 := by
  induction b using objects_induction with
  | space b hb =>
    have hex : extractSingleJsonObject b = (none, []) := by simp [extractSingleJsonObject, hb]
    rw [frames_of_none hex, objects_of_space hb]
    exact ⟨rfl, rfl⟩
  | strayByte b ch rest hb hch => simp [objects_of_stray hb hch, stray, hch] at h
  | openObject b rest hb hn =>
    have hex : extractSingleJsonObject b = (none, b) := by
      simp [extractSingleJsonObject, hb, hn]
    rw [frames_of_none hex, objects_of_open hb hn]
    exact ⟨rfl, hb⟩
  | closedObject b rest n hb hn ih =>
    have hex : extractSingleJsonObject b
        = (some ((lbrace :: rest).take n), (lbrace :: rest).drop n) := by
      simp [extractSingleJsonObject, hb, hn]
    rw [objects_of_closed hb hn] at h ⊢
    rw [frames_of_some hex]
    exact ⟨by rw [(ih h).1], (ih h).2⟩

/-! ### A connection that receives chunks -/

/-- A buffer as the loop leaves it: whitespace, or whitespace and the beginning of an object. -/
def Pending (buffer : Bytes) : Prop :=
  objects buffer = ([], trim buffer) ∧ stray (trim buffer) = false

theorem pending_nil : Pending [] := ⟨objects_of_space rfl, rfl⟩

theorem pending_frames {b : Bytes} (h : stray (objects b).2 = false) : Pending (frames b).2 := by
  have htrim := (frames_of_clean h).2
  refine ⟨?_, by rw [htrim]; exact h⟩
  rw [← objects_trim, htrim, objects_remainder]

theorem objects_trim_append (b c : Bytes) : objects (trim b ++ c) = objects (b ++ c) := by
  refine objects_congr ?_
  rw [trim_append, trim_append, trim_trim]

/-- After a piece without stray bytes, the connection reads on as if the whole stream were there. -/
theorem objects_frames_append {b : Bytes} (h : stray (objects b).2 = false) (c : Bytes) :
    objects (b ++ c) = ((objects b).1 ++ (objects ((frames b).2 ++ c)).1,
      (objects ((frames b).2 ++ c)).2) := by
  rw [objects_append, if_neg (by simp [h]), ← objects_trim_append (frames b).2,
    (frames_of_clean h).2]

theorem stray_append {r : Bytes} (h : stray r = true) (c : Bytes) : stray (r ++ c) = true := by
  cases r with
  | nil => simp [stray] at h
  | cons ch rest => exact h

/-- **Chunking is invisible on clean streams.**  However a stream without stray bytes is divided, the
frames are its objects and the rest stays buffered. -/
theorem receive_of_clean {buffer : Bytes} {chunks : List Bytes} (hp : Pending buffer)
    (h : stray (objects (buffer ++ chunks.flatten)).2 = false) :
    (receive buffer chunks).1 = (objects (buffer ++ chunks.flatten)).1
      ∧ trim (receive buffer chunks).2 = (objects (buffer ++ chunks.flatten)).2 := by
  induction chunks generalizing buffer with
  | nil =>
    simp only [List.flatten_nil, List.append_nil, hp.1]
    exact ⟨rfl, rfl⟩
  | cons data chunks ih =>
    simp only [List.flatten_cons, ← List.append_assoc] at h ⊢
    have hdata : stray (objects (buffer ++ data)).2 = false := by
      by_contra hs
      have hs : stray (objects (buffer ++ data)).2 = true := by simpa using hs
      rw [objects_append, if_pos hs, stray_append hs] at h
      exact Bool.noConfusion h
    rw [objects_frames_append hdata] at h ⊢
    obtain ⟨hframes, hrest⟩ := ih (pending_frames hdata) h
    exact ⟨by rw [receive, hframes, (frames_of_clean hdata).1], hrest⟩

/-- Empty chunks after the last byte add no frame. -/
theorem receive_nil_of_flatten_nil {chunks : List Bytes} (h : chunks.flatten = []) :
    (receive [] chunks).1 = [] := by
  have hclean : stray (objects ([] ++ chunks.flatten)).2 = false := by
    rw [h, List.append_nil, pending_nil.1]
    rfl
  rw [(receive_of_clean pending_nil hclean).1, h, List.append_nil, pending_nil.1]

/-- A single stray byte at the very end is one more frame, however the stream was divided. -/
theorem receive_of_lone_stray {buffer : Bytes} {chunks os : List Bytes} {x : UInt8}
    (hp : Pending buffer) (hx : x ≠ lbrace) (h : objects (buffer ++ chunks.flatten) = (os, [x])) :
    (receive buffer chunks).1 = os ++ [[x]] := by
  induction chunks generalizing buffer os with
  | nil =>
    rw [List.flatten_nil, List.append_nil, hp.1] at h
    have hs := hp.2
    rw [(Prod.mk.inj h).2] at hs
    simp [stray, hx] at hs
  | cons data chunks ih =>
    simp only [List.flatten_cons, ← List.append_assoc] at h
    cases hs : stray (objects (buffer ++ data)).2 with
    | true =>
      rw [objects_append, if_pos hs] at h
      obtain ⟨hos, hrest⟩ := Prod.mk.inj h
      have hne : (objects (buffer ++ data)).2 ≠ [] := by
        intro hnil
        simp [hnil, stray] at hs
      obtain ⟨hr, hflat⟩ : (objects (buffer ++ data)).2 = [x] ∧ chunks.flatten = [] := by
        rcases List.append_eq_singleton_iff.mp hrest with ⟨hnil, _⟩ | hboth
        · exact absurd hnil hne
        · exact hboth
      rw [receive, frames_of_stray hs, hos, hr, receive_nil_of_flatten_nil hflat, List.append_nil]
    | false =>
      rw [objects_frames_append hs] at h
      obtain ⟨hos, hrest⟩ := Prod.mk.inj h
      have := ih (pending_frames hs) (Prod.ext rfl hrest)
      rw [receive, this, (frames_of_clean hs).1, ← List.append_assoc, hos]

/-! ### Streams whose division does not matter -/

/-- The stream from its first stray byte on: a byte other than whitespace and `{` at a place where
an object should begin. -/
def strayTail (s : Bytes) : Bytes := if stray (objects s).2 then (objects s).2 else []

/-- If at most one byte is stray, and it is the last of the stream, then every division of the stream
into chunks gives the frames of the whole. -/
theorem receive_eq_frames {s : Bytes} {chunks : List Bytes} (hs : chunks.flatten = s)
    (h : (strayTail s).length ≤ 1) : (receive [] chunks).1 = (frames s).1 := by
  cases hstray : stray (objects s).2 with
  | false =>
    rw [(receive_of_clean pending_nil (by rw [hs]; exact hstray)).1, hs,
      (frames_of_clean hstray).1, List.nil_append]
  | true =>
    rw [strayTail, if_pos hstray] at h
    obtain ⟨x, hx⟩ : ∃ x, (objects s).2 = [x] := by
      cases hr : (objects s).2 with
      | nil => simp [hr, stray] at hstray
      | cons x rest =>
        rw [hr, List.length_cons] at h
        exact ⟨x, by rw [List.length_eq_zero_iff.mp (show rest.length = 0 by omega)]⟩
    have hne : x ≠ lbrace := by
      rw [hx] at hstray
      simpa [stray] using hstray
    have hobj : objects ([] ++ chunks.flatten) = ((objects s).1, [x]) := by
      rw [List.nil_append, hs, ← hx]
    rw [receive_of_lone_stray pending_nil hne hobj, frames_of_stray hstray, hx]

/-- If more than one byte is stray, a chunk that ends after the first of them gives other frames than
the whole stream in one chunk. -/
theorem receive_ne_of_strayTail {s : Bytes} (h : 1 < (strayTail s).length) :
    ∃ p q, p ++ q = s ∧ (receive [] [p, q]).1 ≠ (receive [] [s]).1 := by
  have hstray : stray (objects s).2 = true := by
    by_contra hs
    rw [strayTail, if_neg hs] at h
    simp at h
  rw [strayTail, if_pos hstray] at h
  obtain ⟨p, hp, hobj⟩ := objects_split s
  obtain ⟨x, y, t, hr⟩ : ∃ x y t, (objects s).2 = x :: y :: t := by
    match hr : (objects s).2, h with
    | x :: y :: t, _ => exact ⟨x, y, t, rfl⟩
  have hx : x ≠ lbrace := by
    rw [hr] at hstray
    simpa [stray] using hstray
  have hspace : isspace x = false := by
    have hrem := objects_remainder s
    rw [hr] at hrem
    by_contra hsp
    have htrim : trim (x :: y :: t) = trim (y :: t) := by
      simp only [trim, List.dropWhile_cons, show isspace x = true by simpa using hsp, if_true]
    have hobj' := objects_congr htrim
    rw [hrem] at hobj'
    have hsplit := objects_split (y :: t)
    rw [← hobj'] at hsplit
    obtain ⟨p', hp', _⟩ := hsplit
    have := congrArg List.length hp'
    simp only [List.length_cons, List.length_append] at this
    omega
  have hone : objects (p ++ [x]) = ((objects s).1, [x]) := by
    rw [objects_append, if_neg (by simp [hobj, stray]), hobj, List.nil_append,
      objects_of_stray (trim_cons_of_not_space [] hspace) hx]
    simp
  refine ⟨p ++ [x], y :: t, by rw [List.append_assoc, List.singleton_append, ← hr, ← hp], ?_⟩
  have hshort : stray (objects (p ++ [x])).2 = true := by
    rw [hone]
    simpa [stray] using hx
  intro heq
  have hleft : (receive [] [p ++ [x], y :: t]).1
      = ((objects s).1 ++ [[x]]) ++ (receive [] [y :: t]).1 := by
    rw [receive, List.nil_append, frames_of_stray hshort, hone]
  have hright : (receive [] [s]).1 = (objects s).1 ++ [x :: y :: t] := by
    simp only [receive, List.nil_append, List.append_nil, frames_of_stray hstray, hr]
  rw [hleft, hright, List.append_assoc] at heq
  have := List.append_cancel_left heq
  simp at this

/-- **When TCP segmentation is invisible.**  The frames of a stream are the same for every division
into chunks exactly when no byte follows the first stray byte. -/
theorem chunk_independent_iff (s : Bytes) :
    (∀ c d : List Bytes, c.flatten = s → d.flatten = s → (receive [] c).1 = (receive [] d).1)
      ↔ (strayTail s).length ≤ 1 := by
  constructor
  · intro hall
    by_contra hlen
    obtain ⟨p, q, hpq, hne⟩ := receive_ne_of_strayTail (s := s) (by omega)
    exact hne (hall [p, q] [s] (by simpa using hpq) (by simp))
  · intro hlen c d hc hd
    rw [receive_eq_frames hc hlen, receive_eq_frames hd hlen]

/-- `x` in front of a `GetInfo` request: the request is executed if the `x` comes in a chunk of its
own, and swallowed into one malformed frame if both come together. -/
theorem stray_byte_swallows_request :
    ¬ ∀ (s : Bytes) (c d : List Bytes), c.flatten = s → d.flatten = s →
      (receive [] c).1 = (receive [] d).1 := by
  intro h
  have hboth := h (utf8 "x\x7b\"req\":\"GetInfo\"\x7d")
    [utf8 "x", utf8 "\x7b\"req\":\"GetInfo\"\x7d"]
    [utf8 "x\x7b\"req\":\"GetInfo\"\x7d"] (by decide) (by decide)
  revert hboth
  decide

end OpenMadt.Framing
