import OpenMadt.Refinement

/-!
# One response for each request

What a client may rely on: every text that is cut from its stream is answered once, on its own
connection, in the order of the texts.  It holds as long as no handler looks up a key that is not
there, and `frameOk` says when that is.

* `request_eq` — a chunk is processed text by text.
* `execute_answers` — a plan is answered once, whatever it is.
* `decode_eq_error_iff` — reading a text fails exactly when it is not `frameOk`.
* `answeredInOrder_iff` — hence a chunk is answered in order exactly when all its texts are `frameOk`.
-/

namespace OpenMadt.Server

open Handler

variable {I G : Type} (P : Platform I G)

/-! ### A chunk, text by text -/

/-- The texts processed one after the other, the first one with the surroundings `inputs k`. -/
def serveAll (inputs : ℕ → Input I) (bev : Conn) : ℕ → List Bytes → World G → Except Fault (World G)
  | _, [], w => .ok w
  | k, requestText :: texts, w => do
    let w ← outcome (processFrame P (inputs k) bev requestText) w
    serveAll inputs bev (k + 1) texts w

theorem run_processNext (inputs : ℕ → Input I) (bev : Conn) (requestText : Bytes) (k : ℕ)
    (g : Unit → StateT ℕ (Handler G) Unit) :
    (Service.processNext P inputs bev requestText >>= g).run k
      = processFrame P (inputs k) bev requestText >>= fun _ => (g ()).run (k + 1) := by
  simp [Service.processNext]

theorem run_forM (inputs : ℕ → Input I) (bev : Conn) (texts : List Bytes) :
    ∀ (k : ℕ) (w : World G), match serveAll P inputs bev k texts w with
      | .ok w' => ((texts.forM (Service.processNext P inputs bev)).run k).run w
          = (.ok ((), k + texts.length), w')
      | .error fault => (((texts.forM (Service.processNext P inputs bev)).run k).run w).1
          = .error fault := by
  induction texts with
  | nil => exact fun k w => rfl
  | cons requestText texts ih =>
    intro k w
    rw [show List.forM (requestText :: texts) (Service.processNext P inputs bev)
        = Service.processNext P inputs bev requestText >>= fun _ =>
            texts.forM (Service.processNext P inputs bev) from rfl,
      run_processNext, run_bind, serveAll, outcome]
    rcases (processFrame P (inputs k) bev requestText).run w with ⟨fault | _, w'⟩
    · rfl
    · simp only [ok_bind]
      have hrest := ih (k + 1) w'
      cases hs : serveAll P inputs bev (k + 1) texts w' with
      | ok w'' =>
        rw [hs] at hrest
        simp only [hrest, List.length_cons, show k + 1 + texts.length = k + (texts.length + 1) by omega]
      | error fault =>
        rw [hs] at hrest
        exact hrest

/-- **A chunk is processed text by text.** -/
theorem request_eq (inputs : ℕ → Input I) (bev : Conn) (data : Bytes) (s : Service G) :
    Service.request P inputs bev data s
      = (serveAll P inputs bev 0 (Framing.frames (s.buffers.of bev ++ data)).1 s.world).map fun w =>
          { buffers := s.buffers.insert bev (Framing.frames (s.buffers.of bev ++ data)).2
            world := w } := by
  unfold Service.request
  simp only [Framing.requestLoop_eq]
  generalize Framing.frames (s.buffers.of bev ++ data) = fs
  have hloop := run_forM P inputs bev fs.1 0 s.world
  have hbind : (do
        fs.1.forM (Service.processNext P inputs bev)
        pure fs.2 : StateT ℕ (Handler G) Bytes).run 0
      = (fs.1.forM (Service.processNext P inputs bev)).run 0 >>= fun r => pure (fs.2, r.2) := by
    simp
  rw [hbind, run_bind]
  cases hs : serveAll P inputs bev 0 fs.1 s.world with
  | ok w' =>
    rw [hs] at hloop
    simp only [hloop]
    rfl
  | error fault =>
    rw [hs] at hloop
    rcases hrun : ((fs.1.forM (Service.processNext P inputs bev)).run 0).run s.world with ⟨r, w'⟩
    rw [hrun] at hloop
    obtain rfl : r = .error fault := hloop
    rfl

/-! ### Texts whose keys are there -/

/-- A value that `get<int>` converts. -/
def convertsToInt : Json → Bool
  | .int _ | .float _ | .bool _ => true
  | _ => false

/-- The optional arguments of a new tab or shortcut have the right types. -/
def optionalsOk (request : Json) : Bool :=
  (request.find? "iconUrl").all Json.isString &&
    (request.find? "preferredPos").all convertsToInt && (request.find? "flags").all convertsToInt

/-- A handler that gets as far as looking up a key without a guard finds it in the object. -/
def keysPresent (request : Json) : RequestCode → Bool
  | .BlinkTab | .ActivateTab | .KillTab => request.contains "tabId"
  | .KillShortcut => request.contains "shortcutId"
  | .NavigateTo =>
    if P.urlFirst then
      request.contains "url" && (!(stringMember request "url").isSome || request.contains "tabId")
    else
      request.contains "tabId" && (!(stringMember request "tabId").isSome || request.contains "url")
  | .NewWebTab | .NewShortcut => !optionalsOk request || request.contains "url"
  | _ => true

/-- No key that is looked up in the text without a guard is absent.  A text that is no JSON, or no
object, makes the library throw. -/
def frameOk (requestText : Bytes) : Bool :=
  match P.parse requestText with
  | some (.obj members) =>
    match (Json.obj members).find? "req" with
    | some (.str reqName) => keysPresent P (.obj members) (convertStringToMadtRequest reqName)
    | some _ => true
    | none => false
  | _ => true

/-! ### How reading a request fails -/

theorem stringAt_obj (members : List (String × Json)) (key : String) :
    stringAt (.obj members) key = match (Json.obj members).find? key with
      | some v => v.getString
      | none => .error .absentKey := by
  rw [Json.find?_obj]
  simp only [stringAt, Json.index]
  cases members.lookup key with
  | none => rfl
  | some v => rfl

/-- Reading goes wrong in one way only. -/
def Readable (x : Except Fault Request) : Prop := ∀ fault, x = .error fault → fault = .absentKey

theorem readable_ok (request : Request) : Readable (.ok request) := by
  intro fault h
  cases h

theorem readable_attempt {α : Type} {x : Except Fault α} {k : α → Except Fault Request}
    (hx : x ≠ .error .unanswered) (hk : ∀ a, Readable (k a)) : Readable (attempt x k) := by
  intro fault h
  match x, hx, h with
  | .ok a, _, h => exact hk a fault h
  | .error .exception, _, h => cases h
  | .error .absentKey, _, h => cases h; rfl
  | .error .unanswered, hx, _ => exact absurd rfl hx

theorem stringAt_ne_unanswered (request : Json) (key : String) :
    stringAt request key ≠ .error .unanswered := by
  cases request with
  | obj members =>
    rw [stringAt_obj]
    cases (Json.obj members).find? key with
    | none => nofun
    | some v => rcases Json.getString_okOrThrows v with ⟨a, h⟩ | h <;> simp only [h] <;> nofun
  | _ => nofun

theorem value_ne_unanswered {α : Type} {x : Except Fault α} (h : Json.OkOrThrows x) :
    x ≠ .error .unanswered := by
  rcases h with ⟨a, rfl⟩ | rfl <;> nofun

theorem readable_attempt_stringAt (request : Json) (key : String)
    (k : String → Except Fault Request) (hk : ∀ a, Readable (k a)) :
    Readable (attempt (stringAt request key) k) :=
  readable_attempt (stringAt_ne_unanswered request key) hk

theorem readable_decodeNew (request : Json) (k : String → String → ℤ → ℤ → Request) :
    Readable (decodeNew P request k) := by
  refine readable_attempt (value_ne_unanswered
    (Json.value_okOrThrows Json.getString_okOrThrows _ _ _)) fun iconUrl => ?_
  refine readable_attempt (value_ne_unanswered
    (Json.value_okOrThrows (Json.getInt_okOrThrows _) _ _ _)) fun preferredPos => ?_
  refine readable_attempt (value_ne_unanswered
    (Json.value_okOrThrows (Json.getInt_okOrThrows _) _ _ _)) fun flags => ?_
  exact readable_attempt_stringAt request "url" _ fun url => readable_ok _

theorem readable_decodeAs (request : Json) (code : RequestCode) :
    Readable (decodeAs P request code) := by
  cases code with
  | NewWebTab => exact readable_decodeNew P request _
  | NewShortcut => exact readable_decodeNew P request _
  | BlinkTab => exact readable_attempt_stringAt request "tabId" _ fun _ => readable_ok _
  | ActivateTab => exact readable_attempt_stringAt request "tabId" _ fun _ => readable_ok _
  | KillTab => exact readable_attempt_stringAt request "tabId" _ fun _ => readable_ok _
  | KillShortcut => exact readable_attempt_stringAt request "shortcutId" _ fun _ => readable_ok _
  | NavigateTo =>
    simp only [decodeAs, decodeNavigateTo]
    split
    · exact readable_attempt_stringAt request "url" _ fun _ =>
        readable_attempt_stringAt request "tabId" _ fun _ => readable_ok _
    · exact readable_attempt_stringAt request "tabId" _ fun _ =>
        readable_attempt_stringAt request "url" _ fun _ => readable_ok _
  | _ => exact readable_ok _

theorem readable_decode (requestText : Bytes) : Readable (decode P requestText) := by
  unfold decode
  cases P.parse requestText with
  | none => exact readable_ok _
  | some request =>
    exact readable_attempt_stringAt request "req" _ fun _ => readable_decodeAs P request _

theorem attempt_stringAt_iff {members : List (String × Json)} {key : String} {Q : Prop}
    {k : String → Except Fault Request} (hk : ∀ a, k a = .error .absentKey ↔ Q) :
    attempt (stringAt (.obj members) key) k = .error .absentKey
      ↔ (Json.obj members).contains key = false ∨ (stringMember (.obj members) key).isSome ∧ Q := by
  rw [stringAt_obj, Json.contains, stringMember]
  cases (Json.obj members).find? key with
  | none => simp [attempt]
  | some v =>
    cases v with
    | str a => simpa [attempt, Json.getString, asString] using hk a
    | _ => simp [attempt, Json.getString, asString]

theorem attempt_value_iff {α : Type} {get : Json → Except Fault α} {test : Json → Bool}
    {members : List (String × Json)} {key : String} {fallback : α} {Q : Prop}
    {k : α → Except Fault Request}
    (hget : ∀ v, if test v then ∃ a, get v = .ok a else get v = .error .exception)
    (hk : ∀ a, k a = .error .absentKey ↔ Q) :
    attempt ((Json.obj members).value get key fallback) k = .error .absentKey
      ↔ ((Json.obj members).find? key).all test = true ∧ Q := by
  rw [Json.find?_obj, Json.value]
  cases members.lookup key with
  | none => simpa [attempt] using hk fallback
  | some v =>
    have hv := hget v
    split at hv
    next htest =>
      obtain ⟨a, ha⟩ := hv
      simpa [attempt, ha, htest] using hk a
    next htest => simp [attempt, hv, htest]

theorem getString_test (v : Json) :
    if v.isString then ∃ a, v.getString = .ok a else v.getString = .error .exception := by
  cases v with
  | str a => exact ⟨a, rfl⟩
  | _ => rfl

theorem getInt_test (undefinedCast : Rat → ℤ) (v : Json) :
    if convertsToInt v then ∃ n, v.getInt undefinedCast = .ok n
    else v.getInt undefinedCast = .error .exception := by
  cases v with
  | int n => exact ⟨_, rfl⟩
  | float q => exact ⟨_, rfl⟩
  | bool b => exact ⟨_, rfl⟩
  | _ => rfl

theorem ok_ne_absentKey (request : Request) :
    (Except.ok request : Except Fault Request) = .error .absentKey ↔ False := by
  simp

theorem decodeNew_eq_error_iff (members : List (String × Json))
    (k : String → String → ℤ → ℤ → Request) :
    decodeNew P (.obj members) k = .error .absentKey
      ↔ optionalsOk (.obj members) = true ∧ (Json.obj members).contains "url" = false := by
  have hurl : ∀ iconUrl preferredPos flags,
      attempt (stringAt (.obj members) "url") (fun url => .ok (k url iconUrl preferredPos flags))
        = .error .absentKey ↔ (Json.obj members).contains "url" = false := by
    intro iconUrl preferredPos flags
    rw [attempt_stringAt_iff fun url => ok_ne_absentKey _, and_false, or_false]
  rw [decodeNew, attempt_value_iff getString_test fun iconUrl =>
    attempt_value_iff (getInt_test _) fun preferredPos =>
      attempt_value_iff (getInt_test _) fun flags => hurl iconUrl preferredPos flags]
  simp only [optionalsOk, Bool.and_eq_true, and_assoc]

theorem decodeAs_eq_error_iff (members : List (String × Json)) (code : RequestCode) :
    decodeAs P (.obj members) code = .error .absentKey ↔ keysPresent P (.obj members) code = false := by
  cases code with
  | NewWebTab => simp [decodeAs, decodeNew_eq_error_iff, keysPresent]
  | NewShortcut => simp [decodeAs, decodeNew_eq_error_iff, keysPresent]
  | BlinkTab => simp [decodeAs, attempt_stringAt_iff fun _ => ok_ne_absentKey _, keysPresent]
  | ActivateTab => simp [decodeAs, attempt_stringAt_iff fun _ => ok_ne_absentKey _, keysPresent]
  | KillTab => simp [decodeAs, attempt_stringAt_iff fun _ => ok_ne_absentKey _, keysPresent]
  | KillShortcut => simp [decodeAs, attempt_stringAt_iff fun _ => ok_ne_absentKey _, keysPresent]
  | NavigateTo =>
    have hsecond : ∀ (key : String) (f : String → Request),
        attempt (stringAt (.obj members) key) (fun a => .ok (f a)) = .error .absentKey
          ↔ (Json.obj members).contains key = false := by
      intro key f
      rw [attempt_stringAt_iff fun _ => ok_ne_absentKey _, and_false, or_false]
    simp only [decodeAs, decodeNavigateTo, keysPresent]
    split
    · rw [attempt_stringAt_iff fun url => hsecond "tabId" fun tabId => .NavigateTo tabId url]
      simp only [Bool.and_eq_false_iff, Bool.or_eq_false_iff, Bool.not_eq_false']
    · rw [attempt_stringAt_iff fun tabId => hsecond "url" fun url => .NavigateTo tabId url]
      simp only [Bool.and_eq_false_iff, Bool.or_eq_false_iff, Bool.not_eq_false']
  | _ => simp [decodeAs, keysPresent]

theorem decode_eq_error_iff (requestText : Bytes) :
    decode P requestText = .error .absentKey ↔ frameOk P requestText = false := by
  unfold decode frameOk
  cases P.parse requestText with
  | none => simp
  | some request =>
    cases request with
    | obj members =>
      simp only [stringAt_obj]
      cases (Json.obj members).find? "req" with
      | none => simp [attempt]
      | some v =>
        cases v with
        | str reqName => exact decodeAs_eq_error_iff P members _
        | _ => simp [attempt, Json.getString]
    | _ => simp [attempt, stringAt, Json.index, bind, Except.bind]

/-- A text is read into a request exactly when it is `frameOk`. -/
theorem decode_eq_ok_iff (requestText : Bytes) :
    (∃ request, decode P requestText = .ok request) ↔ frameOk P requestText = true := by
  rw [← Bool.not_eq_false, ← decode_eq_error_iff]
  cases hdecode : decode P requestText with
  | ok request => simp
  | error fault => simp [readable_decode P requestText fault hdecode]

/-! ### One answer for each text -/

variable (i : Input I) (bev : Conn)

/-- A plan is answered once, unless the GUI leaves its question unanswered. -/
theorem execute_answers (w : World G) (p : Plan) :
    execute P i bev w p = .error .unanswered
      ∨ ∃ w' json, execute P i bev w p = .ok w' ∧ w'.sent = w.sent ++ [(bev, json)] := by
  cases p with
  | answer s json => exact Or.inr ⟨_, json, rfl, rfl⟩
  | stop s json exitCode => exact Or.inr ⟨_, json, rfl, rfl⟩
  | ask c k =>
    rw [execute, Plan.run]
    cases P.gui.call i.gui c w.gui with
    | none => exact Or.inl rfl
    | some r => exact Or.inr ⟨_, (k r.1).2, rfl, rfl⟩

/-- A text is answered once exactly when it is `frameOk`. -/
theorem processFrame_answers_iff {w : World G} {requestText : Bytes}
    (h : outcome (processFrame P i bev requestText) w ≠ .error .unanswered) :
    (∃ w' json, outcome (processFrame P i bev requestText) w = .ok w'
        ∧ w'.sent = w.sent ++ [(bev, json)])
      ↔ frameOk P requestText = true := by
  rw [processFrame_eq] at h ⊢
  rw [← decode_eq_ok_iff]
  generalize decode P requestText = decoded at h ⊢
  cases decoded with
  | error fault => simp [serve]
  | ok request =>
    rcases execute_answers P i bev w (plan P i bev w.server request) with hnone | hsome
    · exact absurd hnone h
    · simpa [serve] using hsome

/-- The texts are processed one after the other, and each puts one response, to `bev`, behind those
that were sent before. -/
inductive Answered (inputs : ℕ → Input I) : ℕ → List Bytes → World G → World G → Prop
  | nil (k : ℕ) (w : World G) : Answered inputs k [] w w
  | cons {k : ℕ} {requestText : Bytes} {texts : List Bytes} {w w₁ w₂ : World G} {json : Json}
      (hstep : outcome (processFrame P (inputs k) bev requestText) w = .ok w₁)
      (hsent : w₁.sent = w.sent ++ [(bev, json)]) (hrest : Answered inputs (k + 1) texts w₁ w₂) :
      Answered inputs k (requestText :: texts) w w₂

theorem serveAll_answered_iff (inputs : ℕ → Input I) (texts : List Bytes) :
    ∀ (k : ℕ) (w : World G), serveAll P inputs bev k texts w ≠ .error .unanswered →
      ((∃ w', Answered P bev inputs k texts w w' ∧ serveAll P inputs bev k texts w = .ok w')
        ↔ ∀ requestText ∈ texts, frameOk P requestText = true) := by
  induction texts with
  | nil => exact fun k w _ => ⟨fun _ => by simp, fun _ => ⟨w, .nil k w, rfl⟩⟩
  | cons requestText texts ih =>
    intro k w hanswered
    rw [serveAll] at hanswered ⊢
    have hhead : outcome (processFrame P (inputs k) bev requestText) w ≠ .error .unanswered := by
      intro h
      rw [h] at hanswered
      exact hanswered rfl
    have honce := processFrame_answers_iff P (inputs k) bev hhead
    rw [List.forall_mem_cons, ← honce]
    constructor
    · rintro ⟨w', hall, hserve⟩
      cases hall with
      | cons hstep hsent hrest =>
        rw [hstep, ok_bind] at hserve hanswered
        exact ⟨⟨_, _, hstep, hsent⟩, (ih (k + 1) _ hanswered).mp ⟨w', hrest, hserve⟩⟩
    · rintro ⟨⟨w₁, json, hstep, hsent⟩, hok⟩
      rw [hstep, ok_bind] at hanswered ⊢
      obtain ⟨w', hrest, hserve⟩ := (ih (k + 1) w₁ hanswered).mpr hok
      exact ⟨w', .cons hstep hsent hrest, hserve⟩

/-- What a client relies on: each text that the chunk completes is answered once, on its connection
and in its turn, and the server goes on. -/
def AnsweredInOrder (inputs : ℕ → Input I) (data : Bytes) (s : Service G) : Prop :=
  ∃ w, Answered P bev inputs 0 (Framing.frames (s.buffers.of bev ++ data)).1 s.world w
    ∧ Service.request P inputs bev data s = .ok
        { buffers := s.buffers.insert bev (Framing.frames (s.buffers.of bev ++ data)).2
          world := w }

/-- **When a chunk is answered in order.**  For every connection, chunk and state, and a GUI that
leaves no command unanswered while the chunk is processed: every text is answered once and in order,
and no absent key is looked up, exactly when all texts of the chunk are `frameOk`. -/
theorem answeredInOrder_iff (inputs : ℕ → Input I) (data : Bytes) (s : Service G)
    (hgui : Service.request P inputs bev data s ≠ .error .unanswered) :
    AnsweredInOrder P bev inputs data s
      ↔ ∀ requestText ∈ (Framing.frames (s.buffers.of bev ++ data)).1,
          frameOk P requestText = true := by
  rw [request_eq] at hgui
  unfold AnsweredInOrder
  rw [request_eq]
  generalize Framing.frames (s.buffers.of bev ++ data) = fs at hgui ⊢
  have hserve : serveAll P inputs bev 0 fs.1 s.world ≠ .error .unanswered := by
    intro h
    rw [h] at hgui
    exact hgui rfl
  rw [← serveAll_answered_iff P bev inputs fs.1 0 s.world hserve]
  cases serveAll P inputs bev 0 fs.1 s.world with
  | error fault => simp [Except.map]
  | ok w => simp [Except.map]

theorem processFrame_ne_unanswered (hgui : P.gui.Answers) (requestText : Bytes) (w : World G) :
    outcome (processFrame P i bev requestText) w ≠ .error .unanswered := by
  rw [processFrame_eq]
  intro h
  cases hdecode : decode P requestText with
  | error fault =>
    rw [hdecode, readable_decode P requestText fault hdecode] at h
    cases h
  | ok request =>
    rw [hdecode, serve, execute] at h
    cases hplan : plan P i bev w.server request with
    | answer s json => rw [hplan] at h; cases h
    | stop s json exitCode => rw [hplan] at h; cases h
    | ask c k =>
      obtain ⟨r, hr⟩ := Option.isSome_iff_exists.mp (hgui i.gui c w.gui)
      rw [hplan, Plan.run, hr] at h
      cases h

theorem serveAll_ne_unanswered (hgui : P.gui.Answers) (inputs : ℕ → Input I) (texts : List Bytes)
    (k : ℕ) (w : World G) : serveAll P inputs bev k texts w ≠ .error .unanswered := by
  induction texts generalizing k w with
  | nil =>
    intro h
    cases h
  | cons requestText texts ih =>
    intro h
    rw [serveAll] at h
    cases hstep : outcome (processFrame P (inputs k) bev requestText) w with
    | ok w' =>
      rw [hstep] at h
      exact ih (k + 1) w' h
    | error fault =>
      rw [hstep] at h
      cases h
      exact processFrame_ne_unanswered P (inputs k) bev hgui requestText w hstep

/-- With a GUI that always answers, no command is left unanswered. -/
theorem request_ne_unanswered (hgui : P.gui.Answers) (inputs : ℕ → Input I) (data : Bytes)
    (s : Service G) : Service.request P inputs bev data s ≠ .error .unanswered := by
  rw [request_eq]
  intro h
  cases hserve : serveAll P inputs bev 0 (Framing.frames (s.buffers.of bev ++ data)).1 s.world with
  | ok w => rw [hserve] at h; cases h
  | error fault =>
    rw [hserve] at h
    cases h
    exact serveAll_ne_unanswered P bev hgui inputs _ 0 s.world hserve

/-! ### Two clients -/

/-- The texts of two clients: one asks for the information and then for the map of the tabs, the
other one sends an empty object. -/
def samplePlatform : Platform Gui.Outside Gui.GuiState :=
  .sample [(utf8 "\x7b\"req\":\"GetInfo\"\x7d", .obj [("req", .str "GetInfo")]),
    (utf8 "\x7b\"req\":\"GetTabMap\"\x7d", .obj [("req", .str "GetTabMap")]),
    (utf8 "\x7b\x7d", .obj [])]

def sampleInput : Input Gui.Outside where
  now := 0
  uuid := "00000000-0000-0000-0000-000000000001"
  random := none
  timestamp := "2024-01-01T00:00:00Z"
  gui := {}

/-- The service with the default configuration, before the browser exists. -/
def sampleService : Service Gui.GuiState where
  buffers := ∅
  world :=
    { server := Server.start "1" "2024-01-01T00:00:00Z" {}, gui := .start {}, sent := []
      stopped := false }

theorem answeredInOrder_twice :
    AnsweredInOrder samplePlatform 7 (fun _ => sampleInput)
      (utf8 "\x7b\"req\":\"GetInfo\"\x7d \x7b\"req\":\"GetTabMap\"\x7d") sampleService :=
  (answeredInOrder_iff samplePlatform 7 (fun _ => sampleInput) _ sampleService
    fun h => absurd (congrArg Except.isOk h) (by decide)).mpr (by decide)

/-- An empty object is answered by nothing but a failed assertion. -/
theorem emptyObject_not_answered :
    Service.request samplePlatform (fun _ => sampleInput) 7 (utf8 "\x7b\x7d") sampleService
        = .error .absentKey
      ∧ ¬ AnsweredInOrder samplePlatform 7 (fun _ => sampleInput) (utf8 "\x7b\x7d") sampleService := by
  have hfault : Service.request samplePlatform (fun _ => sampleInput) 7 (utf8 "\x7b\x7d") sampleService
      = .error .absentKey := rfl
  refine ⟨hfault, ?_⟩
  rintro ⟨w, -, hok⟩
  rw [hfault] at hok
  cases hok

end OpenMadt.Server
