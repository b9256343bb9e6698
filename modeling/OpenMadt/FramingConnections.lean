import OpenMadt.FramingStream

/-!
# The connections of a server

`Server::connectionBuffers` under any interleaving of received chunks and closed connections.
`traffic` runs it and logs which text is handed to `json::parse` for which connection.

The main result is `frames_of_session`: a session of a connection, from its first byte to its close,
hands over exactly the objects it sent, each once and in order — whatever the chunks, whatever the
other connections send, and also when its pointer was used by an earlier connection.
-/

namespace OpenMadt.Framing

open JsonText

/-- `Server::connectionBuffers`. -/
abbrev Buffers := StdMap Conn Bytes

/-- `readcb` passing a chunk to `Server::request`, or `eventcb` closing a connection. -/
inductive Traffic where
  | chunk (bev : Conn) (data : Bytes)
  | close (bev : Conn)
  deriving DecidableEq

/-- `connectionBuffers[bev]`, which is empty for a connection not seen before. -/
def Buffers.of (bufs : Buffers) (bev : Conn) : Bytes := bufs[bev]?.getD []

/-- The buffering of `Server::request`: the texts handed to `json::parse`, and the buffers after. -/
def Buffers.request (bufs : Buffers) (bev : Conn) (data : Bytes) : List Bytes × Buffers :=
  ((frames (bufs.of bev ++ data)).1, bufs.insert bev (frames (bufs.of bev ++ data)).2)

/-- `Server::eraseConnection`, as far as the buffers go. -/
def Buffers.eraseConnection (bufs : Buffers) (bev : Conn) : Buffers := bufs.erase bev

/-- A run: every text handed to `json::parse`, with its connection, and the buffers at the end. -/
def traffic (bufs : Buffers) : List Traffic → List (Conn × Bytes) × Buffers
  | [] => ([], bufs)
  | .chunk bev data :: events =>
    ((bufs.request bev data).1.map (fun text => (bev, text))
        ++ (traffic (bufs.request bev data).2 events).1,
      (traffic (bufs.request bev data).2 events).2)
  | .close bev :: events => traffic (bufs.eraseConnection bev) events

/-- The texts in a log that belong to one connection. -/
def textsOf (bev : Conn) (log : List (Conn × Bytes)) : List Bytes :=
  (log.filter (fun entry => entry.1 == bev)).map Prod.snd

/-- The chunks that one connection sends in a run. -/
def chunksOf (bev : Conn) : List Traffic → List Bytes
  | [] => []
  | .chunk other data :: events =>
    if other = bev then data :: chunksOf bev events else chunksOf bev events
  | .close _ :: events => chunksOf bev events

/-- After `past`, the connection `bev` is not open: its pointer was never used, or not since it was
last closed. -/
inductive Unused (bev : Conn) : List Traffic → Prop where
  | start : Unused bev []
  | closed (past : List Traffic) : Unused bev (past ++ [.close bev])
  | chunk {past : List Traffic} {other : Conn} (data : Bytes) :
      other ≠ bev → Unused bev past → Unused bev (past ++ [.chunk other data])
  | otherClosed {past : List Traffic} (other : Conn) :
      Unused bev past → Unused bev (past ++ [.close other])

/-! ### One connection among the others -/

theorem of_insert (bufs : Buffers) (bev other : Conn) (b : Bytes) :
    Buffers.of (bufs.insert other b) bev = if other = bev then b else bufs.of bev := by
  unfold Buffers.of
  rw [StdMap.getElem?_insert]
  split <;> rfl

theorem of_erase (bufs : Buffers) (bev other : Conn) :
    Buffers.of (bufs.eraseConnection other) bev = if other = bev then [] else bufs.of bev := by
  unfold Buffers.of Buffers.eraseConnection
  rw [StdMap.getElem?_erase]
  split <;> rfl

theorem textsOf_append (bev : Conn) (log log' : List (Conn × Bytes)) :
    textsOf bev (log ++ log') = textsOf bev log ++ textsOf bev log' := by
  simp [textsOf]

theorem textsOf_map (bev other : Conn) (texts : List Bytes) :
    textsOf bev (texts.map (fun text => (other, text))) = if other = bev then texts else [] := by
  induction texts with
  | nil => simp [textsOf]
  | cons text texts ih =>
    by_cases h : other = bev
    · simpa [textsOf, h] using ih
    · simp [textsOf, h]

/-- **Separation.**  As long as it is not closed, a connection sees only its own chunks: its texts
and its buffer are those of `receive`, whatever the others do. -/
theorem traffic_receive (bev : Conn) :
    ∀ (events : List Traffic) (bufs : Buffers), (∀ e ∈ events, e ≠ .close bev) →
      textsOf bev (traffic bufs events).1 = (receive (bufs.of bev) (chunksOf bev events)).1
        ∧ (traffic bufs events).2.of bev = (receive (bufs.of bev) (chunksOf bev events)).2 := by
  intro events
  induction events with
  | nil => exact fun bufs _ => ⟨rfl, rfl⟩
  | cons e events ih =>
    intro bufs hopen
    obtain ⟨he, hrest⟩ := List.forall_mem_cons.mp hopen
    cases e with
    | chunk other data =>
      obtain ⟨htexts, hbuf⟩ := ih (bufs.request other data).2 hrest
      rw [traffic, textsOf_append, textsOf_map, htexts, hbuf]
      by_cases hb : other = bev
      · subst hb
        simp [Buffers.request, of_insert, chunksOf, receive]
      · simp [Buffers.request, of_insert, chunksOf, hb]
    | close other =>
      have hb : other ≠ bev := by
        rintro rfl
        exact he rfl
      obtain ⟨htexts, hbuf⟩ := ih (bufs.eraseConnection other) hrest
      rw [traffic, htexts, hbuf]
      simp [of_erase, chunksOf, hb]

theorem traffic_append (bufs : Buffers) (past events : List Traffic) :
    (traffic bufs (past ++ events)).2 = (traffic (traffic bufs past).2 events).2 := by
  induction past generalizing bufs with
  | nil => rfl
  | cons e past ih =>
    cases e with
    | chunk bev data => exact ih _
    | close bev => exact ih _

/-- A pointer that is not in use has no bytes buffered. -/
theorem of_unused {bev : Conn} {past : List Traffic} (h : Unused bev past) :
    (traffic ∅ past).2.of bev = [] := by
  induction h with
  | start => rfl
  | closed past =>
    rw [traffic_append]
    simp [traffic, of_erase]
  | chunk data hne _ ih =>
    rw [traffic_append]
    simp [traffic, Buffers.request, of_insert, hne, ih]
  | otherClosed other _ ih =>
    rw [traffic_append]
    simp [traffic, of_erase, ih]

/-! ### Sessions of valid objects -/

/-- A JSON object text with JSON whitespace before and after it. -/
structure Padded where
  before : Bytes
  text : Bytes
  after : Bytes
  before_ws : Ws before
  text_object : Text .object text
  after_ws : Ws after

/-- The bytes of a sequence of padded objects. -/
def streamOf (objs : List Padded) : Bytes := objs.flatMap (fun o => o.before ++ o.text ++ o.after)

theorem trim_ws {w : Bytes} (h : Ws w) : trim w = [] :=
  (trim_eq_nil_iff w).mpr (fun c hc => isspace_of_isWs (h c hc))

theorem objects_ws_append {w : Bytes} (h : Ws w) (b : Bytes) : objects (w ++ b) = objects b :=
  objects_congr (by rw [trim_append, if_pos (trim_ws h)])

theorem objects_object_append {t : Bytes} (h : Text .object t) (b : Bytes) :
    objects (t ++ b) = (t :: (objects b).1, (objects b).2) := by
  have hn := scanEnd_object h b
  obtain ⟨r, rfl⟩ := h.object_head
  have htrim : trim (lbrace :: r ++ b) = lbrace :: (r ++ b) :=
    trim_cons_of_not_space _ (by decide)
  rw [objects_of_closed htrim hn, ← List.cons_append, List.take_left, List.drop_left]

/-- A stream of valid objects reads as these objects, and nothing is left. -/
theorem objects_streamOf (objs : List Padded) :
    objects (streamOf objs) = (objs.map Padded.text, []) := by
  induction objs with
  | nil => exact objects_of_space rfl
  | cons o objs ih =>
    rw [streamOf, List.flatMap_cons, ← streamOf, List.append_assoc, List.append_assoc,
      objects_ws_append o.before_ws, objects_object_append o.text_object,
      objects_ws_append o.after_ws, ih]
    rfl

/-- **A session hands over exactly its objects.**  `past` is everything that happened before the
session of `bev` began, on this and all other connections; `session` is an interleaving with the
other connections in which `bev` is not closed.  If the chunks of `bev` make up a stream of valid
objects, then the texts handed to `json::parse` for it are these objects, and its buffer is left with
whitespace at most. -/
theorem frames_of_session (past session : List Traffic) (bev : Conn) (objs : List Padded)
    (hstart : Unused bev past) (hopen : ∀ e ∈ session, e ≠ .close bev)
    (hbytes : (chunksOf bev session).flatten = streamOf objs) :
    textsOf bev (traffic (traffic ∅ past).2 session).1 = objs.map Padded.text
      ∧ ∀ c ∈ (traffic (traffic ∅ past).2 session).2.of bev, isspace c = true := by
  obtain ⟨htexts, hbuf⟩ := traffic_receive bev session (traffic ∅ past).2 hopen
  have hobj : objects ([] ++ (chunksOf bev session).flatten) = (objs.map Padded.text, []) := by
    rw [List.nil_append, hbytes, objects_streamOf]
  obtain ⟨hframes, hrest⟩ := receive_of_clean pending_nil (by rw [hobj]; rfl)
  rw [hobj] at hframes hrest
  rw [htexts, hbuf, of_unused hstart]
  exact ⟨hframes, (trim_eq_nil_iff _).mp hrest⟩

/-- The object `{"a":"}\""}`: a brace and an escaped quote inside its string. -/
def trickyObject : Padded where
  before := []
  text := utf8 "\x7b\"a\":\"\x7d\\\"\"\x7d"
  after := [0x20]
  before_ws := by simp [Ws]
  text_object :=
    Text.object (@Text.member [] [0x61] [] [] (quoted [rbrace, backslash, quote]) [] (by simp [Ws])
      (.plain (by decide) (by decide) (by decide) .nil) (by simp [Ws]) (by simp [Ws])
      (.string (.plain (by decide) (by decide) (by decide) (.escape (by decide) .nil)))
      (by simp [Ws]))
  after_ws := List.forall_mem_singleton.mpr (by decide)

/-- Pointer 7 was closed with half an object buffered and is in use again; its object is split inside
the escape, with an empty chunk in between, while connection 9 sends stray braces and is closed. -/
theorem frames_of_session_reused :
    textsOf 7 (traffic (traffic ∅ [.chunk 7 [lbrace], .close 7]).2
        [.chunk 7 (trickyObject.text.take 8), .chunk 9 [rbrace, lbrace], .chunk 7 [], .close 9,
          .chunk 7 (trickyObject.text.drop 8 ++ [0x20])]).1 = [trickyObject].map Padded.text
      ∧ ∀ c ∈ (traffic (traffic ∅ [.chunk 7 [lbrace], .close 7]).2
        [.chunk 7 (trickyObject.text.take 8), .chunk 9 [rbrace, lbrace], .chunk 7 [], .close 9,
          .chunk 7 (trickyObject.text.drop 8 ++ [0x20])]).2.of 7, isspace c = true :=
  frames_of_session [.chunk 7 [lbrace], .close 7] _ 7 [trickyObject] (.closed [.chunk 7 [lbrace]])
    (by decide) (by decide)

end OpenMadt.Framing
