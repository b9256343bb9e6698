import OpenMadt.Expiry

/-!
# The time in an `IAmAlive`

The `TTL` of an `IAmAlive` is a JSON integer, and `handleIAmAlive` makes an `int` of it before it looks
at its sign.  What a client means by the number and what the server does about it agree for most numbers.

* `TtlMeant` — what an `IAmAlive` means: zero destroys, a negative number is refused, any other gives the
  tab or shortcut that many seconds.
* `alive_refused`, `alive_killed`, `alive_leased` — what the request does, by the sign of the `int`.
* `mem_pruned_iff` — what a lease tick removes, along any run.
* `ttlMeant_iff` — for which numbers the request does what it means.
-/

namespace OpenMadt.Server

open Gui Run

/-! ### Integers -/

/-- The integers that `nlohmann::json` represents as such: 64 bits, with or without a sign. -/
def Fits64 (n : ℤ) : Prop := -9223372036854775808 ≤ n ∧ n < 18446744073709551616

instance (n : ℤ) : Decidable (Fits64 n) := inferInstanceAs (Decidable (_ ∧ _))

/-- What the parser makes of the integer `n`: one that does not fit becomes a floating-point number. -/
inductive IsInteger (n : ℤ) : Json → Prop where
  | int (hfits : Fits64 n) : IsInteger n (.int n)
  | float (hfits : ¬ Fits64 n) (q : Rat) : IsInteger n (.float q)

/-- The sign of the `int` is bit 31. -/
theorem toInt32_neg_iff (n : ℤ) : Json.toInt32 n < 0 ↔ 2147483648 ≤ n % 4294967296 := by
  rw [Json.toInt32, Int.bmod_def]
  split <;> omega

/-! ### Live tabs and shortcuts -/

/-- The browser has it, once it has executed what is queued. -/
def Kind.Shown : Kind → String → GuiState → Prop
  | .tab, id, g => ∃ b, g.pending = some b ∧ id ∈ b.list
  | .shortcut, id, g => ∃ b, g.pending = some b ∧ id ∈ b.shortcuts

/-- The same by the account of `holdings`. -/
def Kind.Held : Kind → String → Holdings → Prop
  | .tab, id, holdings => holdings.pages id ≠ none
  | .shortcut, id, holdings => id ∈ holdings.shortcuts

/-- The signal that destroys it. -/
def Kind.killSignal : Kind → String → Browser.Signal
  | .tab, id => .KillTab id true
  | .shortcut, id => .KillShortcut id

/-- The server without it. -/
def Kind.forget : Kind → String → Server → Server
  | .tab, id, s => s.forgetOwnedTab id
  | .shortcut, id, s => { s with shortcutLeases := s.shortcutLeases.erase id }

/-- The server with a new deadline for it. -/
def Kind.lease : Kind → String → Time → Server → Server
  | .tab, id, deadline, s => { s with tabLeases := s.tabLeases.insert id (some deadline) }
  | .shortcut, id, deadline, s => { s with shortcutLeases := s.shortcutLeases.insert id (some deadline) }

/-- The server and the browser have it. -/
def Kind.Live (k : Kind) (id : String) (w : World GuiState) : Prop :=
  id ∈ k.leases w.server ∧ k.Shown id w.gui

/-- What the browser will hold is what the browser after its queue holds. -/
theorem holdings_of_pending {g : GuiState} (h : g.Settled) {b : Browser} (hpending : g.pending = some b) :
    g.holdings = b.holdings := by
  cases hbrowser : g.browser with
  | none =>
    rw [GuiState.pending, hbrowser] at hpending
    cases hpending
  | some b₀ =>
    rw [GuiState.pending, hbrowser] at hpending
    rw [execAll_holdings h.kills (show GuiState.execAll b₀ g.queue = some b from hpending),
      GuiState.holdings, hbrowser]

/-- **The server's table is the browser's.** -/
theorem shown_iff {used : List String} {w : World GuiState} (h : InStep used w) (k : Kind) (id : String) :
    k.Shown id w.gui ↔ id ∈ k.leases w.server := by
  have htable : id ∈ k.leases w.server ↔ k.Held id w.gui.holdings := by
    cases k with
    | tab => exact h.agrees.tabs id
    | shortcut => exact h.agrees.shortcuts id
  cases hpending : w.gui.pending with
  | none =>
    have hbrowser : w.gui.browser = none := by
      by_contra hne
      obtain ⟨b, hb⟩ := Option.ne_none_iff_exists'.mp hne
      obtain ⟨b', hb'⟩ := GuiState.exists_pending h.settled hb
      rw [hpending] at hb'
      cases hb'
    rw [htable, GuiState.holdings, hbrowser]
    cases k with
    | tab => simp [Kind.Shown, Kind.Held, hpending, Holdings.empty]
    | shortcut => simp [Kind.Shown, Kind.Held, hpending, Holdings.empty]
  | some b =>
    rw [htable, holdings_of_pending h.settled hpending]
    cases k with
    | tab =>
      simp only [Kind.Shown, Kind.Held, hpending, Option.some.injEq, exists_eq_left', Browser.holdings]
      rw [← Std.ExtTreeMap.isSome_getElem?_iff_mem, Option.isSome_iff_ne_none, ne_eq, ne_eq,
        Option.map_eq_none_iff]
    | shortcut =>
      simp only [Kind.Shown, Kind.Held, hpending, Option.some.injEq, exists_eq_left', Browser.holdings,
        Set.mem_ofPred_eq]

theorem live_iff {used : List String} {w : World GuiState} (h : InStep used w) (k : Kind) (id : String) :
    k.Live id w ↔ id ∈ k.leases w.server := by
  rw [Kind.Live, shown_iff h, and_self]

/-! ### The request -/

/-- An `IAmAlive` that names one tab, or one shortcut, and the time `n`. -/
structure Kind.IsAlive (k : Kind) (id : String) (n : ℤ) (request : Json) : Prop where
  req : request.find? "req" = some (.str "IAmAlive")
  ttl : ∃ v, request.find? "TTL" = some v ∧ IsInteger n v
  named : match k with
    | .tab => stringMember request "tabId" = some id ∧ stringMember request "shortcutId" = none
    | .shortcut => stringMember request "tabId" = none ∧ stringMember request "shortcutId" = some id

section Requests

variable {P : Platform Outside GuiState} {k : Kind} {id : String} {n : ℤ} {request : Json}
  {requestText : Bytes} {i : Input Outside} {bev : Conn} {w : World GuiState}

/-- The request as the handler reads it. -/
theorem decode_alive (hrequest : k.IsAlive id n request) (hparse : P.parse requestText = some request) :
    decode P requestText = .ok
      (if Fits64 n ∧ 0 ≤ Json.toInt32 n then k.alive id (Json.toInt32 n) else .Refused) := by
  obtain ⟨hreq, ⟨v, httl, hinteger⟩, hnamed⟩ := hrequest
  have hname : stringAt request "req" = .ok "IAmAlive" := by
    rw [stringAt, Json.index_of_find? hreq]
    rfl
  rw [decode, hparse]
  show attempt (stringAt request "req") _ = _
  rw [hname]
  show Except.ok (decodeIAmAlive request) = _
  rw [decodeIAmAlive, httl]
  cases hinteger with
  | int hfits =>
    cases k with
    | tab =>
      rw [hnamed.1, hnamed.2]
      dsimp only
      split
      next hneg => rw [if_neg (fun h => by omega)]
      next hnonneg => rw [if_pos ⟨hfits, by omega⟩]; rfl
    | shortcut =>
      rw [hnamed.1, hnamed.2]
      dsimp only
      split
      next hneg => rw [if_neg (fun h => by omega)]
      next hnonneg => rw [if_pos ⟨hfits, by omega⟩]; rfl
  | float hfits q => rw [if_neg (fun h => hfits h.1)]

theorem alive_refused (hrequest : k.IsAlive id n request) (hparse : P.parse requestText = some request)
    (hrefused : ¬ (Fits64 n ∧ 0 ≤ Json.toInt32 n)) :
    outcome (processFrame P i bev requestText) w = .ok (w.reply bev (response .MTSRC_BAD_REQUEST)) := by
  rw [processFrame_eq, decode_alive hrequest hparse, if_neg hrefused]
  rfl

/-- The plan for it, if there is such a tab or shortcut. -/
theorem plan_alive {s : Server} (hmem : id ∈ k.leases s) (ttl : ℤ) :
    plan P i bev s (k.alive id ttl)
      = if ttl = 0 then
          askFor s (.signal (k.killSignal id)) fun _ => (k.forget id s, response .MTSRC_OK)
        else .answer (k.lease id (i.now + seconds ttl) s) (response .MTSRC_OK) := by
  cases k with
  | tab =>
    have hmem : s.hasTab id = true := decide_eq_true hmem
    show (if !s.hasTab id then _ else _) = _
    rw [hmem]
    rfl
  | shortcut =>
    have hmem : ¬ id ∉ s.shortcutLeases := not_not.mpr hmem
    show (if id ∉ s.shortcutLeases then _ else _) = _
    rw [if_neg hmem]
    rfl

/-- A signal meets the browser after its queue. -/
theorem callSignal_of_pending {g : GuiState} {b : Browser} (h : g.pending = some b)
    (signal : Browser.Signal) : g.callSignal signal
      = (b.exec signal).map fun r => (some r.2, { g with browser := some r.1, queue := [] }) := by
  obtain ⟨b₀, hbrowser, hall⟩ := Option.bind_eq_some_iff.mp h
  rw [GuiState.callSignal, hbrowser]
  dsimp only
  rw [hall]

/-- What is shown can be killed. -/
theorem killed_of_shown {g : GuiState} (h : k.Shown id g) :
    ∃ resp g', g.callSignal (k.killSignal id) = some (some resp, g') ∧ resp.result = .OK := by
  cases k with
  | tab =>
    obtain ⟨b, hpending, hmem⟩ := h
    refine ⟨_, _, callSignal_of_pending hpending _, ?_⟩
    have hexec : b.exec (.KillTab id true) = some (b.onKillTab id true) := rfl
    rcases result_killTab hexec with hok | ⟨-, hnone⟩
    · exact hok
    · have hpage := Std.ExtTreeMap.isSome_getElem?_iff_mem.mpr hmem
      rw [Option.map_eq_none_iff.mp hnone] at hpage
      cases hpage
  | shortcut =>
    obtain ⟨b, hpending, hmem⟩ := h
    refine ⟨_, _, callSignal_of_pending hpending _, ?_⟩
    have hexec : b.exec (.KillShortcut id) = some (b.onKillShortcut id) := rfl
    rcases result_killShortcut hexec with hok | ⟨-, hnone⟩
    · exact hok
    · exact absurd hmem hnone

theorem not_mem_forget {used : List String} (h : InStep used w) (hlive : id ∈ k.leases w.server) :
    id ∉ k.leases (k.forget id w.server) := by
  cases k with
  | tab =>
    have hid : id ≠ "" := by
      rintro rfl
      exact (h.agrees.tabs "").mp hlive h.agrees.named
    show id ∉ (w.server.forgetOwnedTab id).tabLeases
    rw [forgetOwnedTab, if_neg hid]
    simp
  | shortcut =>
    show id ∉ w.server.shortcutLeases.erase id
    simp

/-- A question that succeeds. -/
theorem run_askFor {s : Server} {c : Gui.Call} {answer : CmdResponse → Server × Json} {resp : CmdResponse}
    {g' : GuiState} (hcall : P.gui.call i.gui c w.gui = some (some resp, g')) (hok : resp.result = .OK) :
    (askFor s c answer).run P i bev w
      = some (World.reply { w with server := (answer resp).1, gui := g' } bev (answer resp).2) := by
  rw [askFor, Plan.run, hcall, Option.map_some]
  dsimp only
  rw [if_pos hok]

/-- `IAmAlive` with the `int` zero. -/
theorem alive_killed (i : Input Outside) (bev : Conn) (hgui : P.gui = GuiState.port) {used : List String}
    (h : InStep used w) (hlive : id ∈ k.leases w.server) (hrequest : k.IsAlive id n request)
    (hparse : P.parse requestText = some request) (hfits : Fits64 n) (hzero : Json.toInt32 n = 0) :
    ∃ w', outcome (processFrame P i bev requestText) w = .ok w' ∧ id ∉ k.leases w'.server := by
  obtain ⟨resp, g', hcall, hok⟩ := killed_of_shown ((shown_iff h k id).mpr hlive)
  have hcall : P.gui.call i.gui (.signal (k.killSignal id)) w.gui = some (some resp, g') := by
    rw [hgui]
    exact hcall
  refine ⟨World.reply { w with server := k.forget id w.server, gui := g' } bev (response .MTSRC_OK), ?_,
    not_mem_forget h hlive⟩
  rw [processFrame_eq, decode_alive hrequest hparse, if_pos ⟨hfits, hzero.ge⟩, serve, plan_alive hlive,
    if_pos hzero, execute, run_askFor hcall hok]

/-- `IAmAlive` with a positive `int`. -/
theorem alive_leased (i : Input Outside) (bev : Conn) (hlive : id ∈ k.leases w.server)
    (hrequest : k.IsAlive id n request) (hparse : P.parse requestText = some request) (hfits : Fits64 n)
    (hpos : 0 < Json.toInt32 n) :
    outcome (processFrame P i bev requestText) w = .ok (World.reply
      { w with server := k.lease id (i.now + seconds (Json.toInt32 n)) w.server } bev
        (response .MTSRC_OK)) := by
  rw [processFrame_eq, decode_alive hrequest hparse, if_pos ⟨hfits, hpos.le⟩, serve, plan_alive hlive,
    if_neg hpos.ne']
  rfl

theorem mem_lease (deadline : Time) (s : Server) : id ∈ k.leases (k.lease id deadline s) := by
  cases k with
  | tab =>
    show id ∈ s.tabLeases.insert id (some deadline)
    simp
  | shortcut =>
    show id ∈ s.shortcutLeases.insert id (some deadline)
    simp

end Requests

/-! ### The deadline -/

section Deadline

variable {P : Platform Outside GuiState} {k : Kind} {id : String} {n : ℤ} {deadline : Time}
  {trace later : List (World GuiState × Event Outside × World GuiState)} {w w' : World GuiState}
  {softwareVersion timestamp : String} {config : RuntimeConfig}

/-- The timer does what the last `IAmAlive` says: what lasts is kept, and what is over goes. -/
theorem mem_pruned_iff
    (hrun : Steps (Traced (Step P GuiState.Moves))
      (World.start softwareVersion timestamp config (GuiState.start config)) trace w)
    (hnonempty : "" ∉ uuids trace) (hfresh : (uuids trace).Nodup) (hlive : id ∈ k.leases w.server)
    (hlast : LastRenewal P k trace id deadline) (now : Time) :
    id ∈ k.leases (pruneExpiredTabs P now w).server ↔ now < deadline := by
  have howners := owners_of_run hrun hnonempty hfresh
  have hlease := ((leaseLog_of_run hrun hnonempty hfresh k).lease id deadline).mpr ⟨hlive, hlast⟩
  have hexpired : id ∈ expired now (k.leases w.server) ↔ deadline ≤ now := by
    rw [Server.mem_expired_iff, hlease]
    constructor
    · rintro ⟨deadline', heq, hdue⟩
      rw [Option.some.inj (Option.some.inj heq)]
      exact hdue
    · exact fun hdue => ⟨deadline, rfl, hdue⟩
  rw [← Std.ExtTreeMap.isSome_getElem?_iff_mem, leases_pruneExpiredTabs howners]
  split
  next hmem => exact iff_of_false (by simp) (Int.not_lt.mpr (hexpired.mp hmem))
  next hmem =>
    rw [hlease]
    exact iff_of_true rfl (Int.not_le.mp fun hdue => hmem (hexpired.mpr hdue))

/-- A renewal that no later one replaces. -/
theorem lastRenewal_append {entry : World GuiState × Event Outside × World GuiState}
    (hentry : Renews P k id deadline entry)
    (hlater : ∀ later' ∈ later, ∀ deadline', ¬ Renews P k id deadline' later') :
    LastRenewal P k (trace ++ entry :: later) id deadline :=
  ⟨trace, entry, later, rfl, hentry, fun later' hmem ⟨deadline', hrenews⟩ =>
    hlater later' hmem deadline' hrenews⟩

/-- **What an `IAmAlive` means** for the live tab or shortcut that it names, with `n` any integer: zero
destroys it; a negative number is refused, and nothing changes; any other number does not destroy it, and
once the answer is `MTSRC_OK`, no lease tick of any later run takes it away before its time, unless
another `IAmAlive` for it comes in between. -/
structure TtlMeant (P : Platform Outside GuiState) (k : Kind) (id : String) (n : ℤ)
    (trace : List (World GuiState × Event Outside × World GuiState)) (i : Input Outside) (bev : Conn)
    (requestText : Bytes) (w w' : World GuiState) : Prop where
  destroyed : n = 0 → id ∉ k.leases w'.server ∧ ¬ k.Shown id w'.gui
  refused : n < 0 → w' = w.reply bev (response .MTSRC_BAD_REQUEST)
  kept : 1 ≤ n → k.Live id w'
  lasts : 1 ≤ n → Confirmed bev w w' → ∀ later w₁, Steps (Traced (Step P GuiState.Moves)) w' later w₁ →
    "" ∉ uuids later → (uuids (trace ++ (w, .request i bev requestText, w') :: later)).Nodup →
    (∀ entry ∈ later, ∀ deadline, ¬ Renews P k id deadline entry) →
    ∀ now < i.now + seconds n, k.Live id w₁ → k.Live id (pruneExpiredTabs P now w₁)

/-- A request that is refused, for a number that is not zero. -/
theorem ttlMeant_refused {i : Input Outside} {bev : Conn} {requestText : Bytes} (hn : n ≠ 0)
    (hlive : k.Live id w) :
    TtlMeant P k id n trace i bev requestText w (w.reply bev (response .MTSRC_BAD_REQUEST)) := by
  refine ⟨fun hzero => absurd hzero hn, fun _ => rfl, fun _ => hlive, fun _ hconfirmed => ?_⟩
  have hcode := succeeds_response_iff.mp ((confirmed_iff rfl).mp hconfirmed)
  cases hcode

/-- The events of a run with one more request. -/
theorem uuids_append_cons {i : Input Outside} {bev : Conn} {requestText : Bytes} :
    uuids (trace ++ (w, .request i bev requestText, w') :: later) = uuids trace ++ i.uuid :: uuids later := by
  rw [uuids, List.filterMap_append, List.filterMap_cons]
  rfl

section Answers

variable {i : Input Outside} {bev : Conn} {requestText : Bytes} (hgui : P.gui = GuiState.port)
  (hrun : Steps (Traced (Step P GuiState.Moves))
    (World.start softwareVersion timestamp config (GuiState.start config)) trace w)
  (hnonempty : "" ∉ uuids trace ++ [i.uuid]) (hfresh : (uuids trace ++ [i.uuid]).Nodup)
  (hout : outcome (processFrame P i bev requestText) w = .ok w')

include hgui hrun hnonempty hfresh hout

/-- The server and the browser agree after the request. -/
theorem inStep_after : InStep (uuids trace ++ [i.uuid]) w' := by
  rw [List.mem_append, not_or] at hnonempty
  have hafter := (inStep_of_trace hgui hrun hnonempty.1 (List.nodup_append.mp hfresh).1).step hgui
    (Step.request hout) (fun heq => hnonempty.2 (by rw [Option.some.inj heq]; simp)) fun uuid huuid hmem => ?_
  · exact hafter
  · rw [← Option.some.inj huuid] at hmem
    exact (List.nodup_append.mp hfresh).2.2 _ hmem _ (by simp) rfl

/-- An `IAmAlive` with the `int` zero means what it does only if its number is zero. -/
theorem ttlMeant_killed_iff (hlive : id ∈ k.leases w.server) (hgone : id ∉ k.leases w'.server) :
    TtlMeant P k id n trace i bev requestText w w' ↔ n = 0 := by
  have hafter := inStep_after hgui hrun hnonempty hfresh hout
  constructor
  · intro hmeant
    rcases lt_trichotomy n 0 with hneg | hzero | hpos
    · rw [hmeant.refused hneg] at hgone
      exact absurd hlive hgone
    · exact hzero
    · exact absurd (hmeant.kept hpos).1 hgone
  · rintro rfl
    refine ⟨fun _ => ⟨hgone, fun hshown => hgone ((shown_iff hafter k id).mp hshown)⟩, fun h => ?_, fun h => ?_,
      fun h => ?_⟩ <;> omega

/-- An `IAmAlive` with a positive `int` means what it does only if its number is that `int`. -/
theorem ttlMeant_leased_iff {m : ℤ} (hm : 0 < m) (hle : 0 < n → m ≤ n)
    (hdecode : decode P requestText = .ok (k.alive id m)) (hlive : id ∈ k.leases w'.server)
    (hsent : w'.sent = w.sent ++ [(bev, response .MTSRC_OK)]) :
    TtlMeant P k id n trace i bev requestText w w' ↔ n = m := by
  have hconfirmed : Confirmed bev w w' := (confirmed_iff hsent).mpr (succeeds_response_iff.mpr rfl)
  have hrenews : Renews P k id (i.now + seconds m) (w, .request i bev requestText, w') :=
    ⟨⟨m, hdecode, hm.ne', rfl⟩, hconfirmed⟩
  have hlater : ∀ {later w₁}, Steps (Traced (Step P GuiState.Moves)) w' later w₁ →
      Steps (Traced (Step P GuiState.Moves))
        (World.start softwareVersion timestamp config (GuiState.start config))
        (trace ++ (w, .request i bev requestText, w') :: later) w₁ :=
    fun hsteps => hrun.append (.cons ⟨rfl, rfl, .request hout⟩ hsteps)
  have hafter := inStep_after hgui hrun hnonempty hfresh hout
  rw [List.mem_append, List.mem_singleton, not_or] at hnonempty
  have hnames : ∀ {later}, "" ∉ uuids later →
      "" ∉ uuids (trace ++ (w, .request i bev requestText, w') :: later) := by
    intro later hlater
    rw [uuids_append_cons, List.mem_append, List.mem_cons, not_or, not_or]
    exact ⟨hnonempty.1, hnonempty.2, hlater⟩
  constructor
  · intro hmeant
    rcases lt_trichotomy n 0 with hneg | rfl | hpos
    · -- it is answered, not refused
      rw [hmeant.refused hneg] at hsent
      simp [World.reply, response] at hsent
      cases hsent
    · exact absurd hlive (hmeant.destroyed rfl).1
    · by_contra hne
      have hlt : i.now + seconds m < i.now + seconds n := by
        have hless : m < n := lt_of_le_of_ne (hle hpos) (Ne.symm hne)
        exact Int.add_lt_add_left (Int.mul_lt_mul_of_pos_right hless (by decide)) i.now
      -- the timer at the time that the server has understood
      have htick := hmeant.lasts hpos hconfirmed [] w' (.nil w') List.not_mem_nil
        (by rw [uuids_append_cons]; exact hfresh) (by simp) _ hlt ((live_iff hafter k id).mpr hlive)
      have hpruned := (mem_pruned_iff (hlater (.nil w')) (hnames List.not_mem_nil)
        (by rw [uuids_append_cons]; exact hfresh) hlive (lastRenewal_append hrenews (by simp)) _).mp htick.1
      exact lt_irrefl _ hpruned
  · rintro rfl
    refine ⟨fun h => ?_, fun h => ?_, fun _ => (live_iff hafter k id).mpr hlive, fun _ _ later w₁ hsteps hnew
      hall hquiet now hnow hbefore => ?_⟩
    · omega
    · omega
    · have htick := (inStep_of_trace hgui (hlater hsteps) (hnames hnew) hall).pruneExpiredTabs hgui now
      rw [live_iff htick]
      exact (mem_pruned_iff (hlater hsteps) (hnames hnew) hall hbefore.1 (lastRenewal_append hrenews hquiet)
        now).mpr hnow

end Answers

/-- **For which numbers an `IAmAlive` means what it says**: in every reachable state, for every live tab or
shortcut, the request is answered, and its effect is the right one if and only if its number does not fit
64 bits, or is less than 2^31 and not negative, or has bit 31 set. -/
theorem ttlMeant_iff (hgui : P.gui = GuiState.port)
    (hrun : Steps (Traced (Step P GuiState.Moves))
      (World.start softwareVersion timestamp config (GuiState.start config)) trace w)
    {i : Input Outside} (hnonempty : "" ∉ uuids trace ++ [i.uuid]) (hfresh : (uuids trace ++ [i.uuid]).Nodup)
    (hlive : id ∈ k.leases w.server) {request : Json} (hrequest : k.IsAlive id n request)
    {requestText : Bytes} (hparse : P.parse requestText = some request) (bev : Conn) :
    ∃ w', outcome (processFrame P i bev requestText) w = .ok w' ∧
      (TtlMeant P k id n trace i bev requestText w w'
        ↔ ¬ Fits64 n ∨ (0 ≤ n ∧ n < 2147483648) ∨ 2147483648 ≤ n % 4294967296) := by
  have hinStep := inStep_of_trace hgui hrun (fun h => hnonempty (List.mem_append_left _ h))
    (List.nodup_append.mp hfresh).1
  rw [← toInt32_neg_iff]
  by_cases hread : Fits64 n ∧ 0 ≤ Json.toInt32 n
  · obtain ⟨hfits, hnonneg⟩ := hread
    have hbounds := Json.toInt32_bounds n
    by_cases hzero : Json.toInt32 n = 0
    · obtain ⟨w', hout, hgone⟩ := alive_killed i bev hgui hinStep hlive hrequest hparse hfits hzero
      refine ⟨w', hout, (ttlMeant_killed_iff hgui hrun hnonempty hfresh hout hlive hgone).trans ?_⟩
      constructor
      · rintro rfl
        exact Or.inr (Or.inl ⟨le_rfl, by omega⟩)
      · rintro (hno | hrange | hneg)
        · exact absurd hfits hno
        · rw [← hzero, Json.toInt32_of_range (by omega)]
        · omega
    · have hpos : 0 < Json.toInt32 n := by omega
      have hout := alive_leased i bev hlive hrequest hparse hfits hpos
      refine ⟨_, hout, (ttlMeant_leased_iff hgui hrun hnonempty hfresh hout hpos (fun hn => ?_) ?_
        (mem_lease _ _) rfl).trans ?_⟩
      · by_contra hlt
        rw [Json.toInt32_of_range (by omega)] at hlt
        exact hlt le_rfl
      · rw [decode_alive hrequest hparse, if_pos ⟨hfits, hnonneg⟩]
      · constructor
        · intro heq
          exact Or.inr (Or.inl (by omega))
        · rintro (hno | hrange | hneg)
          · exact absurd hfits hno
          · rw [Json.toInt32_of_range (by omega)]
          · omega
  · refine ⟨_, alive_refused hrequest hparse hread, iff_of_true (ttlMeant_refused (fun hzero => ?_)
      ((live_iff hinStep k id).mpr hlive)) ?_⟩
    · rw [hzero] at hread
      exact hread ⟨by decide, by decide⟩
    · by_cases hfits : Fits64 n
      · exact Or.inr (Or.inr (Int.not_le.mp fun h => hread ⟨hfits, h⟩))
      · exact Or.inl hfits

end Deadline

/-- Thirty seconds for a tab. -/
theorem ttlMeant_thirty : ∃ trace w w', trace.map (fun entry => entry.2.1) = leaseEvents.take 3
    ∧ Steps (Traced (Step tabPlatform GuiState.Moves))
        (World.start "1" "2024-01-01T00:00:00Z" {} (.start {})) trace w
    ∧ outcome (processFrame tabPlatform sampleInput 7 aliveText) w = .ok w'
    ∧ TtlMeant tabPlatform .tab leasedId 30 trace sampleInput 7 aliveText w w' := by
  have hrun : Steps (Step tabPlatform GuiState.Moves)
      (World.start "1" "2024-01-01T00:00:00Z" {} (.start {})) (leaseEvents.take 3) _ :=
    .cons (.gui .startup) (.cons (.request rfl) (.cons (.request rfl) (.nil _)))
  obtain ⟨trace, hevents, htraced⟩ := hrun.traced
  have huuids : uuids trace = [extraId, leasedId] := by
    rw [uuids_eq, hevents]
    rfl
  have halive : Kind.tab.IsAlive leasedId 30
      (.obj [("req", .str "IAmAlive"), ("TTL", .int 30), ("tabId", .str leasedId)]) :=
    ⟨rfl, ⟨_, rfl, .int (by decide)⟩, rfl, rfl⟩
  have hparse : tabPlatform.parse aliveText
      = some (.obj [("req", .str "IAmAlive"), ("TTL", .int 30), ("tabId", .str leasedId)]) := rfl
  obtain ⟨w', hout, hiff⟩ := ttlMeant_iff rfl htraced (i := sampleInput) (by rw [huuids]; decide)
    (by rw [huuids]; decide) (by decide +kernel) halive hparse 7
  exact ⟨trace, _, w', hevents, htraced, hout, hiff.mpr (Or.inr (Or.inl (by decide)))⟩

/-- An `IAmAlive` with 2^32 seconds. -/
def hugeText : Bytes :=
  utf8 ("\x7b\"req\":\"IAmAlive\",\"TTL\":4294967296,\"tabId\":\"" ++ leasedId ++ "\"\x7d")

def hugeRequest : Json :=
  .obj [("req", .str "IAmAlive"), ("TTL", .int 4294967296), ("tabId", .str leasedId)]

def hugePlatform : Platform Outside GuiState :=
  .sample [(newTabText, .obj [("req", .str "NewWebTab"), ("url", .str "m")]), (hugeText, hugeRequest)]

/-- A tab is destroyed by an `IAmAlive` that gives it 2^32 seconds: as an `int`, that is zero. -/
theorem ttl_destroys : ¬ ∀ (P : Platform Outside GuiState), P.gui = GuiState.port →
    ∀ (softwareVersion timestamp : String) (config : RuntimeConfig)
      (trace : List (World GuiState × Event Outside × World GuiState)) (w : World GuiState),
      Steps (Traced (Step P GuiState.Moves))
        (World.start softwareVersion timestamp config (GuiState.start config)) trace w →
      ∀ i : Input Outside, "" ∉ uuids trace ++ [i.uuid] → (uuids trace ++ [i.uuid]).Nodup →
      ∀ (k : Kind) (id : String) (n : ℤ) (request : Json) (requestText : Bytes) (bev : Conn),
        id ∈ k.leases w.server → k.IsAlive id n request → P.parse requestText = some request →
        ∃ w', outcome (processFrame P i bev requestText) w = .ok w'
          ∧ TtlMeant P k id n trace i bev requestText w w' := by
  intro hall
  have hrun : Steps (Step hugePlatform GuiState.Moves)
      (World.start "1" "2024-01-01T00:00:00Z" {} (.start {}))
      [.gui, .request { sampleInput with uuid := leasedId } 7 newTabText] _ :=
    .cons (.gui .startup) (.cons (.request rfl) (.nil _))
  obtain ⟨trace, hevents, htraced⟩ := hrun.traced
  have huuids : uuids trace = [leasedId] := by
    rw [uuids_eq, hevents]
    rfl
  have halive : Kind.tab.IsAlive leasedId 4294967296 hugeRequest :=
    ⟨rfl, ⟨_, rfl, .int (by decide)⟩, rfl, rfl⟩
  have hparse : hugePlatform.parse hugeText = some hugeRequest := rfl
  obtain ⟨w', hout, hmeant⟩ := hall hugePlatform rfl "1" "2024-01-01T00:00:00Z" {} trace _ htraced sampleInput
    (by rw [huuids]; decide) (by rw [huuids]; decide) .tab leasedId 4294967296 hugeRequest hugeText 7
    (by decide +kernel) halive hparse
  have hinStep := inStep_of_trace rfl htraced (by rw [huuids]; decide) (by rw [huuids]; decide)
  obtain ⟨w'', hout', hgone⟩ := alive_killed sampleInput 7 rfl hinStep (by decide +kernel) halive
    hparse (by decide) (by decide)
  rw [hout] at hout'
  cases hout'
  exact hgone (hmeant.kept (by decide)).1

end OpenMadt.Server
