import OpenMadt.Gui
import OpenMadt.Holdings

/-!
# What the GUI thread will hold

The server sends kills that it does not wait for, so the browser lags behind.  `GuiState.holdings` is
what the browser holds once its queue is empty; every function of the port is described by what it
does to these holdings, and the queue is not mentioned again.

* `Settled` — the queue has kills only, and is empty as long as there is no browser.
* `holdings_post`, `holdings_callSignal`, `holdings_call` — the functions of the port.
* `Moves` — what the GUI thread does by itself, which changes nothing in these holdings.
-/

namespace OpenMadt.Gui

/-- The signals that the server does not wait for. -/
def IsKill : Browser.Signal → Prop
  | .KillTab _ forceDestroy => forceDestroy = true
  | .KillShortcut _ => True
  | _ => False

theorem result_killTab {b b' : Browser} {uuid : String} {resp : CmdResponse}
    (h : b.exec (.KillTab uuid true) = some (b', resp)) :
    resp.result = .OK ∨ resp.result = .TAB_NOT_FOUND ∧ b.holdings.pages uuid = none := by
  rw [← show (b.onKillTab uuid true).2 = resp from congrArg Prod.snd (Option.some.inj h)]
  cases hpage : b.list[uuid]? with
  | none =>
    refine Or.inr ⟨?_, by simp [Browser.holdings, hpage]⟩
    simp only [Browser.onKillTab, hpage]
  | some page =>
    refine Or.inl ?_
    simp only [Browser.onKillTab, hpage]
    split
    · rfl
    · split <;> rfl

theorem result_killShortcut {b b' : Browser} {shortcutId : String} {resp : CmdResponse}
    (h : b.exec (.KillShortcut shortcutId) = some (b', resp)) :
    resp.result = .OK ∨ resp.result = .TAB_NOT_FOUND ∧ shortcutId ∉ b.holdings.shortcuts := by
  rw [← show (b.onKillShortcut shortcutId).2 = resp from congrArg Prod.snd (Option.some.inj h)]
  unfold Browser.onKillShortcut
  split
  · exact Or.inl rfl
  next hmem => exact Or.inr ⟨rfl, hmem⟩

/-- A kill succeeds, or there is nothing to kill: either way it has the same effect. -/
theorem holdings_kill {signal : Browser.Signal} (hkill : IsKill signal) {b b' : Browser}
    {resp : CmdResponse} (h : b.exec signal = some (b', resp)) :
    b'.holdings = b.holdings.after signal .OK := by
  cases signal with
  | KillTab uuid forceDestroy =>
    obtain rfl : forceDestroy = true := hkill
    rw [holdings_exec (show Fresh b (.KillTab uuid true) from trivial) h]
    rcases result_killTab h with hok | ⟨hmissing, hnone⟩
    · rw [hok]
    · rw [hmissing]
      refine Holdings.ext ?_ ?_
      · simp [Holdings.after, Holdings.dropPage, ← hnone]
      · simp [Holdings.after, Holdings.dropPage]
  | KillShortcut shortcutId =>
    rw [holdings_exec (show Fresh b (.KillShortcut shortcutId) from trivial) h]
    rcases result_killShortcut h with hok | ⟨hmissing, hnone⟩
    · rw [hok]
    · rw [hmissing]
      refine Holdings.ext rfl (Set.ext fun id => ?_)
      simp only [Holdings.after, Holdings.dropShortcut, Set.mem_ofPred_eq]
      exact ⟨fun hid => ⟨hid, fun heq => hnone (heq ▸ hid)⟩, fun hid => hid.1⟩
  | _ => exact hkill.elim

/-- After some kills. -/
def Holdings.afterAll (h : Holdings) (kills : List Browser.Signal) : Holdings :=
  kills.foldl (fun h signal => h.after signal .OK) h

theorem afterAll_empty {kills : List Browser.Signal} (hkills : ∀ signal ∈ kills, IsKill signal) :
    Holdings.empty.afterAll kills = Holdings.empty := by
  have hone : ∀ signal, IsKill signal → Holdings.empty.after signal .OK = Holdings.empty := by
    intro signal hkill
    cases signal with
    | KillTab uuid forceDestroy =>
      obtain rfl : forceDestroy = true := hkill
      refine Holdings.ext (funext fun id => ?_) ?_
      · by_cases h : id = uuid <;> simp [Holdings.after, Holdings.dropPage, Holdings.empty, h]
      · simp [Holdings.after, Holdings.dropPage]
    | KillShortcut shortcutId =>
      refine Holdings.ext rfl (Set.ext fun id => ?_)
      simp [Holdings.after, Holdings.dropShortcut, Holdings.empty]
    | _ => exact hkill.elim
  induction kills with
  | nil => rfl
  | cons signal kills ih =>
    rw [List.forall_mem_cons] at hkills
    rw [Holdings.afterAll, List.foldl_cons, hone signal hkills.1]
    exact ih hkills.2

theorem execAll_holdings {kills : List Browser.Signal} (hkills : ∀ signal ∈ kills, IsKill signal)
    {b b' : Browser} (h : GuiState.execAll b kills = some b') :
    b'.holdings = b.holdings.afterAll kills := by
  induction kills generalizing b with
  | nil => cases h; rfl
  | cons signal kills ih =>
    rw [List.forall_mem_cons] at hkills
    rw [GuiState.execAll] at h
    cases hexec : b.exec signal with
    | none => rw [hexec] at h; cases h
    | some r =>
      obtain ⟨b₁, resp⟩ := r
      rw [hexec] at h
      rw [ih hkills.2 h, holdings_kill hkills.1 hexec]
      rfl

namespace GuiState

/-- What the browser holds once its queue is empty. -/
def holdings (g : GuiState) : Holdings :=
  match g.browser with
  | none => .empty
  | some b => b.holdings.afterAll g.queue

/-- The queue has kills only, and nothing is queued for a browser that does not exist. -/
structure Settled (g : GuiState) : Prop where
  kills : ∀ signal ∈ g.queue, IsKill signal
  noBrowser : g.browser = none → g.queue = []

theorem holdings_of_queue_nil {g : GuiState} {b : Browser} (hbrowser : g.browser = some b)
    (hqueue : g.queue = []) : g.holdings = b.holdings := by
  rw [holdings, hbrowser, hqueue]
  rfl

theorem settled_of_queue_nil {g : GuiState} (h : g.queue = []) : Settled g :=
  ⟨by simp [h], fun _ => h⟩

/-! ### The queue -/

/-- A kill that is not waited for. -/
theorem holdings_post {g : GuiState} (h : Settled g) {signal : Browser.Signal}
    (hkill : IsKill signal) :
    Settled (g.post signal) ∧ (g.post signal).holdings = g.holdings.after signal .OK := by
  unfold post
  cases hbrowser : g.browser with
  | none =>
    refine ⟨h, ?_⟩
    have hkills : ∀ other ∈ [signal], IsKill other := by simpa using hkill
    have hempty := afterAll_empty hkills
    simp only [holdings, hbrowser]
    exact hempty.symm
  | some b =>
    constructor
    · refine ⟨?_, by simp⟩
      simp only [List.mem_append, List.mem_singleton]
      rintro other (hother | rfl)
      · exact h.kills other hother
      · exact hkill
    · simp only [holdings, hbrowser, Holdings.afterAll, List.foldl_append, List.foldl_cons,
        List.foldl_nil]

theorem holdings_drainQueue {g g' : GuiState} (h : Settled g) (hdrain : g.drainQueue = some g') :
    g'.queue = [] ∧ g'.holdings = g.holdings := by
  unfold drainQueue at hdrain
  cases hbrowser : g.browser with
  | none =>
    rw [hbrowser] at hdrain
    cases hdrain
    exact ⟨rfl, by simp [holdings, hbrowser]⟩
  | some b =>
    rw [hbrowser] at hdrain
    obtain ⟨b', hexec, rfl⟩ := Option.map_eq_some_iff.mp hdrain
    exact ⟨rfl, by simp only [holdings, hbrowser, execAll_holdings h.kills hexec]; rfl⟩

/-- The browser that comes into existence holds nothing. -/
theorem holdings_createBrowser {g : GuiState} (h : Settled g) :
    Settled g.createBrowser ∧ g.createBrowser.holdings = g.holdings := by
  unfold createBrowser
  split
  · exact ⟨h, rfl⟩
  next hcreate =>
    have hbrowser : g.browser = none := by
      cases hb : g.browser with
      | none => rfl
      | some b => simp [hb] at hcreate
    have hqueue := h.noBrowser hbrowser
    refine ⟨⟨h.kills, nofun⟩, ?_⟩
    simp only [holdings, hbrowser, hqueue]
    refine Holdings.ext (funext fun id => ?_) (Set.ext fun id => ?_)
    · simp [Holdings.afterAll, Browser.holdings, Browser.ApplySettings, Browser.new, Holdings.empty]
    · simp [Holdings.afterAll, Browser.holdings, Browser.ApplySettings, Browser.new, Holdings.empty]

/-! ### The functions of the port -/

/-- The ids of new tabs and shortcuts are fresh for what the browser will hold. -/
def FreshFor (h : Holdings) : Browser.Signal → Prop
  | .NewWebTab _ _ _ _ uuid => h.pages uuid = none
  | .NewShortcut _ _ _ _ shortcutId => shortcutId ∉ h.shortcuts
  | _ => True

theorem freshFor_of_newId {h : Holdings} {signal : Browser.Signal}
    (hnew : ∀ id, signal.newId? = some id → id ∉ h.ids) : FreshFor h signal := by
  cases signal with
  | NewWebTab url iconUrl preferredPos flags uuid =>
    exact not_not.mp fun hpage => hnew uuid rfl (Or.inl hpage)
  | NewShortcut url iconUrl preferredPos flags shortcutId =>
    exact fun hmem => hnew shortcutId rfl (Or.inr hmem)
  | _ => trivial

theorem fresh_of_freshFor {b : Browser} {signal : Browser.Signal} (h : FreshFor b.holdings signal) :
    Fresh b signal := by
  cases signal with
  | NewWebTab url iconUrl preferredPos flags uuid =>
    intro hmem
    obtain ⟨page, hpage⟩ := Option.isSome_iff_exists.mp
      (Std.ExtTreeMap.isSome_getElem?_iff_mem.mpr hmem)
    simp [FreshFor, Browser.holdings, hpage] at h
  | NewShortcut url iconUrl preferredPos flags shortcutId => exact h
  | _ => trivial

/-- A signal that is waited for meets the browser after its queue, if there is a browser. -/
theorem callSignal_cases {g g' : GuiState} {signal : Browser.Signal} {gResp : Option CmdResponse}
    (h : g.callSignal signal = some (gResp, g')) :
    (g.browser = none ∧ gResp = none ∧ g' = g)
      ∨ ∃ b b₁ b' resp, g.browser = some b ∧ execAll b g.queue = some b₁
        ∧ b₁.exec signal = some (b', resp) ∧ gResp = some resp
        ∧ g' = { g with browser := some b', queue := [] } := by
  unfold callSignal at h
  cases hbrowser : g.browser with
  | none =>
    rw [hbrowser] at h
    cases h
    exact Or.inl ⟨rfl, rfl, rfl⟩
  | some b =>
    rw [hbrowser] at h
    dsimp only at h
    cases hall : execAll b g.queue with
    | none => rw [hall] at h; cases h
    | some b₁ =>
      rw [hall] at h
      obtain ⟨⟨b', resp⟩, hexec, heq⟩ := Option.map_eq_some_iff.mp h
      cases heq
      exact Or.inr ⟨b, b₁, b', resp, rfl, hall, hexec, rfl, rfl⟩

/-- A signal that is waited for, on what the browser will hold. -/
theorem holdings_callSignal {g g' : GuiState} {signal : Browser.Signal}
    {gResp : Option CmdResponse} (h : g.callSignal signal = some (gResp, g'))
    (hsettled : g.Settled) (hfresh : FreshFor g.holdings signal) :
    (gResp = none ∧ g' = g)
      ∨ ∃ (b b' : Browser) (resp : CmdResponse), b.holdings = g.holdings
        ∧ b.exec signal = some (b', resp) ∧ gResp = some resp ∧ g'.Settled
        ∧ g'.holdings = g.holdings.after signal resp.result := by
  rcases callSignal_cases h with ⟨-, rfl, rfl⟩ | ⟨b, b₁, b', resp, hbrowser, hall, hexec, rfl, rfl⟩
  · exact Or.inl ⟨rfl, rfl⟩
  · have hb : b₁.holdings = g.holdings := by
      simp only [holdings, hbrowser, execAll_holdings hsettled.kills hall]
    rw [← hb] at hfresh
    refine Or.inr ⟨b₁, b', resp, hb, hexec, rfl, settled_of_queue_nil rfl, ?_⟩
    rw [← hb, ← holdings_exec (fresh_of_freshFor hfresh) hexec]
    rfl

/-- A lambda meets the application, if it runs, after the queue; the startup timer fires before that,
or afterwards. -/
theorem invoke_cases {o : Outside} {lambda : GuiState → Option (CmdResponse × GuiState)}
    {g g' : GuiState} {gResp : Option CmdResponse} (h : invoke o lambda g = some (gResp, g')) :
    (g.appInstance = false ∧ gResp = none ∧ g' = g)
      ∨ g.appInstance = true ∧ ∃ g₁ resp g₂,
        (if o.startup = .beforeCommand then g.createBrowser else g).drainQueue = some g₁
        ∧ lambda g₁ = some (resp, g₂) ∧ gResp = some resp
        ∧ g' = if o.startup = .afterCommand then g₂.createBrowser else g₂ := by
  unfold invoke at h
  cases happ : g.appInstance with
  | false =>
    rw [happ] at h
    cases h
    exact Or.inl ⟨rfl, rfl, rfl⟩
  | true =>
    simp only [happ, Bool.not_true, Bool.false_eq_true, if_false] at h
    split at h
    · cases h
    next g₁ hdrain =>
      obtain ⟨⟨resp, g₂⟩, hlambda, heq⟩ := Option.map_eq_some_iff.mp h
      cases heq
      exact Or.inr ⟨rfl, g₁, resp, g₂, hdrain, hlambda, rfl, rfl⟩

/-- A lambda that holds on to everything, with or without the startup timer. -/
theorem holdings_invoke {o : Outside} {lambda : GuiState → Option (CmdResponse × GuiState)}
    (hlambda : ∀ {g resp g'}, lambda g = some (resp, g') →
      g'.queue = g.queue ∧ g'.holdings = g.holdings)
    {g g' : GuiState} {gResp : Option CmdResponse} (h : invoke o lambda g = some (gResp, g'))
    (hsettled : Settled g) : Settled g' ∧ g'.holdings = g.holdings := by
  rcases invoke_cases h with ⟨-, -, rfl⟩ | ⟨-, g₁, resp, g₂, hdrain, hg₂, -, rfl⟩
  · exact ⟨hsettled, rfl⟩
  have hstart : Settled (if o.startup = .beforeCommand then g.createBrowser else g)
      ∧ (if o.startup = .beforeCommand then g.createBrowser else g).holdings = g.holdings := by
    split
    · exact holdings_createBrowser hsettled
    · exact ⟨hsettled, rfl⟩
  obtain ⟨hqueue, hheld⟩ := holdings_drainQueue hstart.1 hdrain
  obtain ⟨hqueue₂, hheld₂⟩ := hlambda hg₂
  have hsettled₂ : Settled g₂ := settled_of_queue_nil (hqueue₂.trans hqueue)
  have hall : g₂.holdings = g.holdings := hheld₂.trans (hheld.trans hstart.2)
  split
  · exact ⟨(holdings_createBrowser hsettled₂).1, (holdings_createBrowser hsettled₂).2.trans hall⟩
  · exact ⟨hsettled₂, hall⟩

theorem holdings_applySettings {o : Outside} {settings : SettingsState} {g g' : GuiState}
    {resp : CmdResponse} (h : applySettings o settings g = some (resp, g')) :
    g'.queue = g.queue ∧ g'.holdings = g.holdings := by
  unfold applySettings at h
  dsimp only at h
  split at h
  · cases h
  · cases h
    refine ⟨rfl, ?_⟩
    unfold holdings
    cases g.browser with
    | none => rfl
    | some b => rfl

/-- The functions that are no signals change nothing in the holdings. -/
theorem holdings_call {o : Outside} {c : Call} {g g' : GuiState} {gResp : Option CmdResponse}
    (h : g.call o c = some (gResp, g')) (hsignal : ∀ signal, c ≠ .signal signal)
    (hsettled : Settled g) : Settled g' ∧ g'.holdings = g.holdings := by
  cases c with
  | signal signal => exact absurd rfl (hsignal signal)
  | GetCharacteristics => cases h; exact ⟨hsettled, rfl⟩
  | CaptureScreenshot fileName =>
    refine holdings_invoke (fun hl => ?_) h hsettled
    cases hl
    exact ⟨rfl, rfl⟩
  | ApplySettings settings => exact holdings_invoke holdings_applySettings h hsettled
  | PlaySound soundId soundFlags soundFile soundPlayerCommand =>
    refine holdings_invoke (fun hl => ?_) h hsettled
    cases hl
    exact ⟨rfl, rfl⟩

/-! ### The GUI thread by itself -/

/-- What the GUI thread does by itself: the startup timer fires, or the next queued signal is
executed. -/
inductive Moves (g : GuiState) : GuiState → Prop where
  | startup : Moves g g.createBrowser
  | execNext {g' : GuiState} (hbrowser : g.browser.isSome) (h : g.execNext = some g') : Moves g g'

theorem holdings_execNext {g g' : GuiState} (hsettled : Settled g) (h : g.execNext = some g') :
    Settled g' ∧ g'.holdings = g.holdings := by
  unfold execNext at h
  split at h
  next b signal queue hbrowser hqueue =>
    obtain ⟨⟨b', resp⟩, hexec, rfl⟩ := Option.map_eq_some_iff.mp h
    have hkills := hsettled.kills
    rw [hqueue, List.forall_mem_cons] at hkills
    refine ⟨⟨hkills.2, nofun⟩, ?_⟩
    simp only [holdings, hbrowser, hqueue, holdings_kill hkills.1 hexec]
    rfl
  · cases h
    exact ⟨hsettled, rfl⟩

theorem Moves.holdings {g g' : GuiState} (h : Moves g g') (hsettled : Settled g) :
    Settled g' ∧ g'.holdings = g.holdings := by
  cases h with
  | startup => exact holdings_createBrowser hsettled
  | execNext _ h => exact holdings_execNext hsettled h

end GuiState

end OpenMadt.Gui
