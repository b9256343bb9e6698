import OpenMadt.Threads

/-!
# Requests to exit

`Stop` and `Restart` are answered at once; then the exit code is stored, and a `quit` is queued to the
GUI thread if there is an application.  Meanwhile `Gui::run` may be anywhere.

* `Program.Lost` — a request was answered and carried out, and the event loop goes on without a `quit`.
* `ReturnsLast` — `Gui::run` returns the exit code of the last request that was answered.
* `Timely` — a request does not fall into the time when `Gui::run` starts or returns.
* `heeded_of_run` — in a run of timely steps no request is lost, and the exit code is right.
-/

namespace OpenMadt

open Run Gui
open Gui (Call CmdResponse Browser GuiState Outside)

/-- The server thread has answered a request to exit, and its exit code is not stored yet. -/
def Task.Storing : Task → Prop
  | .requestExit _ _ => True
  | _ => False

/-- The server thread is in `requestExit`. -/
def Task.Exiting : Task → Prop
  | .requestExit _ _ | .stop (some _) | .quit (some _) => True
  | _ => False

theorem Task.Storing.exiting {task : Task} (h : task.Storing) : task.Exiting := by
  cases task with
  | requestExit => trivial
  | _ => exact h.elim

namespace Program

/-- A `quit` is in the queue, or `exec` was told to quit. -/
def QuitPending (p : Program) : Prop := Posted.quit ∈ p.gui.posted ∨ p.gui.quitting = true

/-- A request to exit was answered and carried out, all events were executed, and the event loop goes on
without a `quit`. -/
def Lost (p : Program) : Prop :=
  p.accepted ≠ [] ∧ ¬ p.task.Exiting ∧ p.gui.point.Running ∧ p.gui.posted = [] ∧ p.gui.quitting = false

/-- If `Gui::run` returns, it returns the exit code of the last request that was answered. -/
def ReturnsLast : Program × ThreadEvent × Program → Prop
  | (p, _, p') => ∀ exitCode last, p.gui.point = .returnExitCode →
      p'.gui.point = .stopProcess exitCode → p.accepted.getLast? = some last → exitCode = last

/-- The time of a request to exit is a good one.

* When `requestExit` looks for the application, it is there, or `exec` has returned.
* `requestedExitCode` is not reset after it was set.
* No `quit` of a request is wasted on `processEvents`.
* `Gui::run` does not return while an exit code is about to be stored. -/
def Timely (p : Program) : ThreadEvent → Prop
  | .server (.next _) =>
    match p.task with
    | .quit (some _) => p.gui.appInstance = true ∨ p.gui.point.Ended
    | _ => True
  | .gui .statement =>
    match p.gui.point with
    | .resetExitCode => p.gui.requestedExitCode = 0
    | .returnExitCode => ¬ p.task.Storing
    | _ => True
  | .gui (.execute _) =>
    match p.gui.posted with
    | .quit :: posted => p.gui.point.Starting → p.accepted ≠ [] → p.task.Exiting ∨ Posted.quit ∈ posted
    | _ => True
  | _ => True

/-- The exit codes that were stored. -/
def stored (p : Program) : List ℤ :=
  match p.task with
  | .requestExit _ _ => p.accepted.dropLast
  | _ => p.accepted

/-- The invariant: `requestedExitCode` is the last exit code that was stored, and a request that was
carried out has its `quit` pending until the event loop ends. -/
structure Heeded (p : Program) : Prop where
  exitCode : p.gui.requestedExitCode = p.stored.getLast?.getD 0
  last : ∀ exitCode r, p.task = .requestExit exitCode r → p.accepted.getLast? = some exitCode
  quit : p.accepted ≠ [] → p.task.Exiting ∨ p.gui.point.Ended ∨ p.QuitPending

variable {G : Type} {P : Platform Outside G} {moves : Browser → Browser → Prop} {p p' : Program}

theorem Heeded.not_lost (hp : p.Heeded) : ¬ p.Lost := by
  rintro ⟨haccepted, hexiting, hrunning, hposted, hquitting⟩
  rcases hp.quit haccepted with h | h | h | h
  · exact hexiting h
  · exact h.2 hrunning
  · rw [hposted] at h
    cases h
  · rw [hquitting] at h
    cases h

theorem stored_of_not_storing (h : ¬ p.task.Storing) : p.stored = p.accepted := by
  unfold stored
  split
  · next htask =>
    rw [htask] at h
    exact absurd trivial h
  · rfl

/-! ### The server thread -/

/-- A step of the server thread that has nothing to do with a request to exit. -/
structure Ordinary (p p' : Program) : Prop where
  accepted : p'.accepted = p.accepted
  exitCode : p'.gui.requestedExitCode = p.gui.requestedExitCode
  before : ¬ p.task.Exiting
  after : ¬ p'.task.Exiting
  posted : ∃ events, p'.gui.posted = p.gui.posted ++ events

theorem QuitPending.of_append {events : List Posted} (h : p.QuitPending)
    (hposted : p'.gui.posted = p.gui.posted ++ events) (hquitting : p'.gui.quitting = p.gui.quitting) :
    p'.QuitPending := by
  rcases h with h | h
  · exact Or.inl (hposted ▸ List.mem_append_left events h)
  · exact Or.inr (hquitting.trans h)

theorem Heeded.ordinary (hp : p.Heeded) (h : Ordinary p p') (hsame : SamePlace p p') : p'.Heeded := by
  have hstored := stored_of_not_storing (mt Task.Storing.exiting h.before)
  have hstored' := stored_of_not_storing (mt Task.Storing.exiting h.after)
  refine ⟨?_, ?_, ?_⟩
  · rw [h.exitCode, hp.exitCode, hstored, hstored', h.accepted]
  · intro exitCode r htask
    have hafter := h.after
    rw [htask] at hafter
    exact absurd trivial hafter
  · rw [h.accepted, hsame.point]
    intro haccepted
    obtain ⟨events, hposted⟩ := h.posted
    rcases hp.quit haccepted with hexiting | hend | hpending
    · exact absurd hexiting h.before
    · exact Or.inr (Or.inl hend)
    · exact Or.inr (Or.inr (hpending.of_append hposted hsame.quitting))

theorem ordinary_call {o : Outside} {c : Call} {k : Option CmdResponse → Server × Json} {r : Reading}
    {stage : Stage} (htask : p.task = .call stage c k r) (h : p.call o c k r stage = some p') :
    Ordinary p p' := by
  have hbefore : ¬ p.task.Exiting := by rw [htask]; exact id
  rcases call_cases h with ⟨gResp, rfl⟩ | ⟨stage', rfl⟩ | rfl
  · exact ⟨rfl, rfl, hbefore, id, [], (List.append_nil _).symm⟩
  · exact ⟨rfl, rfl, hbefore, id, [], (List.append_nil _).symm⟩
  · exact ⟨rfl, rfl, hbefore, id, _, rfl⟩

theorem heeded_serve (hp : p.Heeded) {r : Reading} (htask : p.task = .reading r) (r' : Reading)
    (plan : Server.Plan) : (p.serve r' plan).Heeded := by
  have hbefore : ¬ p.task.Exiting := by rw [htask]; exact id
  cases plan with
  | answer =>
    exact hp.ordinary ⟨rfl, rfl, hbefore, id, [], (List.append_nil _).symm⟩ (samePlace_serve ..)
  | ask =>
    exact hp.ordinary ⟨rfl, rfl, hbefore, id, [], (List.append_nil _).symm⟩ (samePlace_serve ..)
  | stop s json exitCode =>
    refine ⟨?_, ?_, fun _ => Or.inl trivial⟩
    · show p.gui.requestedExitCode = (p.accepted ++ [exitCode]).dropLast.getLast?.getD 0
      rw [List.dropLast_concat, hp.exitCode, stored_of_not_storing (mt Task.Storing.exiting hbefore)]
    · intro exitCode' r'' htask'
      cases htask'
      exact List.getLast?_concat

/-- **One step of the server thread.** -/
theorem ServerStep.heeded {e : ServerEvent} (h : ServerStep P p e p') (hp : p.Heeded)
    (htimely : p.Timely (.server e)) : p'.Heeded := by
  have hsame := h.samePlace
  have hnone : ∃ events, p.gui.posted = p.gui.posted ++ events := ⟨[], (List.append_nil _).symm⟩
  have hordinary : ∀ {task : Task}, p.task = task → ¬ task.Exiting → ¬ p'.task.Exiting →
      p'.accepted = p.accepted → p'.gui.requestedExitCode = p.gui.requestedExitCode →
      (∃ events, p'.gui.posted = p.gui.posted ++ events) → p'.Heeded :=
    fun htask hbefore hafter haccepted hexitCode hposted =>
      hp.ordinary ⟨haccepted, hexitCode, htask ▸ hbefore, hafter, hposted⟩ hsame
  cases h with
  | request htask => exact heeded_serve hp htask _ _
  | call htask hcall => exact hp.ordinary (ordinary_call htask hcall) hsame
  | @requestExit i exitCode r htask =>
    refine ⟨?_, by rintro _ _ ⟨⟩, fun _ => Or.inl trivial⟩
    show exitCode = p.accepted.getLast?.getD 0
    rw [hp.last exitCode r htask]
    rfl
  | @stop i after htask =>
    cases after with
    | none => exact hordinary htask id id rfl rfl hnone
    | some r =>
      have hstored : p.stored = p.accepted := stored_of_not_storing (by rw [htask]; exact id)
      refine ⟨?_, by rintro _ _ ⟨⟩, fun _ => Or.inl trivial⟩
      show p.gui.requestedExitCode = p.accepted.getLast?.getD 0
      rw [hp.exitCode, hstored]
  | @quit i after htask =>
    have hposted : ∃ events, (if p.gui.appInstance then p.gui.post .quit else p.gui).posted
        = p.gui.posted ++ events := by
      split
      · exact ⟨_, rfl⟩
      · exact hnone
    have hexitCode : (if p.gui.appInstance then p.gui.post .quit else p.gui).requestedExitCode
        = p.gui.requestedExitCode := by
      split <;> rfl
    cases after with
    | none => exact hordinary htask id id rfl hexitCode hposted
    | some r =>
      have hstored : p.stored = p.accepted := stored_of_not_storing (by rw [htask]; exact id)
      refine ⟨?_, by rintro _ _ ⟨⟩, fun _ => Or.inr ?_⟩
      · show _ = p.accepted.getLast?.getD 0
        rw [hexitCode, hp.exitCode, hstored]
      · unfold Timely at htimely
        rw [htask] at htimely
        rcases htimely with happ | hend
        · refine Or.inr (Or.inl ?_)
          dsimp only
          rw [happ]
          exact List.mem_append_right _ List.mem_cons_self
        · exact Or.inl (by rwa [hsame.point])
  | @kill i s signals htask =>
    refine hordinary htask id id rfl ?_ ?_
    · dsimp only
      split <;> rfl
    · dsimp only
      split
      · exact ⟨_, rfl⟩
      · exact hnone
  | _ htask => exact hordinary htask id id rfl rfl hnone

/-! ### The main thread -/

theorem Heeded.gui (hp : p.Heeded) (hsame : SameServer p p')
    (hexitCode : p'.gui.requestedExitCode = p.gui.requestedExitCode)
    (hquit : p.accepted ≠ [] → p.gui.point.Ended ∨ p.QuitPending →
      p.task.Exiting ∨ p'.gui.point.Ended ∨ p'.QuitPending) : p'.Heeded := by
  have hstored : p'.stored = p.stored := by
    unfold stored
    rw [hsame.task, hsame.accepted]
  refine ⟨?_, ?_, ?_⟩
  · rw [hexitCode, hp.exitCode, hstored]
  · rw [hsame.task, hsame.accepted]
    exact hp.last
  · rw [hsame.task, hsame.accepted]
    intro haccepted
    rcases hp.quit haccepted with hexiting | hrest
    · exact Or.inl hexiting
    · exact hquit haccepted hrest

/-- No statement has to do with the queue or with `exec`, and one with the exit code. -/
theorem statement_quit (h : p.statement = some p') :
    p'.gui.posted = p.gui.posted ∧ p'.gui.quitting = p.gui.quitting
      ∧ (p.gui.point = .resetExitCode ∧ p'.gui.requestedExitCode = 0
        ∨ p'.gui.requestedExitCode = p.gui.requestedExitCode) := by
  unfold statement at h
  split at h <;> cases h
  case h_2 hpoint => exact ⟨rfl, rfl, Or.inl ⟨hpoint, rfl⟩⟩
  all_goals exact ⟨rfl, rfl, Or.inr rfl⟩

theorem starting_of_processing {point : Point} (h : point.Processing) (hrunning : ¬ point.Running) :
    point.Starting := by
  rcases h with rfl | rfl | h
  · trivial
  · trivial
  · exact absurd h hrunning

/-- **One step of the main thread.** -/
theorem GuiStep.heeded {e : GuiEvent} (h : GuiStep moves p e p') (hp : p.Heeded)
    (htimely : p.Timely (.gui e)) : p'.Heeded := by
  have hsame := h.sameServer
  have hkept : e ≠ .leave → p'.gui.requestedExitCode = p.gui.requestedExitCode →
      (p.QuitPending → p'.QuitPending) → p'.Heeded := by
    intro he hexitCode hpending
    refine hp.gui hsame hexitCode fun _ hquit => ?_
    rcases hquit with hend | hquit
    · exact Or.inr (Or.inl ((h.ended_iff he).mpr hend))
    · exact Or.inr (Or.inr (hpending hquit))
  have hpopped : ∀ {event : Posted} {posted : List Posted}, p.gui.posted = event :: posted →
      event ≠ .quit → Posted.quit ∈ p.gui.posted → Posted.quit ∈ posted := by
    intro event posted hposted hevent hmem
    rw [hposted] at hmem
    rcases List.mem_cons.mp hmem with heq | hmem
    · exact absurd heq.symm hevent
    · exact hmem
  cases h with
  | statement hstatement =>
    obtain ⟨hposted, hquitting, hexitCode⟩ := statement_quit hstatement
    refine hkept (by rintro ⟨⟩) ?_ ?_
    · rcases hexitCode with ⟨hpoint, hzero⟩ | hexitCode
      · unfold Timely at htimely
        rw [hpoint] at htimely
        rw [hzero, htimely]
      · exact hexitCode
    · unfold QuitPending
      rw [hposted, hquitting]
      exact id
  | command hpoint hposted hexec =>
    rw [execCommand_eq hexec] at hkept ⊢
    exact hkept (by rintro ⟨⟩) rfl (Or.imp_left (hpopped hposted (by rintro ⟨⟩)))
  | signal hpoint hposted hexec =>
    rw [execCommand_eq hexec] at hkept ⊢
    exact hkept (by rintro ⟨⟩) rfl (Or.imp_left (hpopped hposted (by rintro ⟨⟩)))
  | @quit o posted hpoint hposted =>
    by_cases hrunning : p.gui.point.Running
    · have hexec : GuiThread.execQuit { p.gui with posted := posted }
          = { p.gui with posted := posted, quitting := true } := GuiThread.execQuit_of_running hrunning
      rw [hexec] at hkept ⊢
      exact hkept (by rintro ⟨⟩) rfl fun _ => Or.inr rfl
    · have hexec : GuiThread.execQuit { p.gui with posted := posted }
          = { p.gui with posted := posted } := GuiThread.execQuit_of_not_running hrunning
      rw [hexec] at hsame ⊢
      refine hp.gui hsame rfl fun haccepted hquit => ?_
      unfold Timely at htimely
      rw [hposted] at htimely
      rcases htimely (starting_of_processing hpoint hrunning) haccepted with hexiting | hmem
      · exact Or.inl hexiting
      · exact Or.inr (Or.inr (Or.inl hmem))
  | timer =>
    refine hkept (by rintro ⟨⟩) (GuiThread.fireTimer_requestedExitCode _) ?_
    unfold QuitPending
    rw [GuiThread.fireTimer_posted, GuiThread.fireTimer_quitting]
    exact id
  | closeWindow => exact hkept (by rintro ⟨⟩) rfl fun _ => Or.inr rfl
  | leave => exact hp.gui hsame rfl fun _ _ => Or.inr (Or.inl (by show Point.cancelStartup.Ended; decide))
  | join => exact hkept (by rintro ⟨⟩) rfl id
  | browser => exact hkept (by rintro ⟨⟩) rfl id

/-! ### Runs -/

theorem heeded_start (softwareVersion timestamp : String) (runtimeConfig : RuntimeConfig) :
    (start softwareVersion timestamp runtimeConfig).Heeded :=
  ⟨rfl, by rintro _ _ ⟨⟩, fun haccepted => absurd rfl haccepted⟩

theorem ThreadStep.heeded {e : ThreadEvent} (h : ThreadStep P moves p e p') (hp : p.Heeded)
    (htimely : p.Timely e) : p'.Heeded := by
  cases h with
  | server h => exact h.heeded hp htimely
  | gui h => exact h.heeded hp htimely

/-- `Gui::run` returns by a statement. -/
theorem ThreadStep.returns {e : ThreadEvent} {exitCode : ℤ} (h : ThreadStep P moves p e p')
    (hpoint : p.gui.point = .returnExitCode) (hpoint' : p'.gui.point = .stopProcess exitCode) :
    e = .gui .statement ∧ exitCode = p.gui.requestedExitCode := by
  have hprocessing : ¬ p.gui.point.Processing := by rw [hpoint]; decide
  cases h with
  | server h =>
    rw [h.samePlace.point, hpoint] at hpoint'
    cases hpoint'
  | gui h =>
    cases h with
    | statement h =>
      simp only [statement, hpoint, Option.some.injEq] at h
      subst h
      cases hpoint'
      exact ⟨rfl, rfl⟩
    | command h => exact absurd h hprocessing
    | signal h => exact absurd h hprocessing
    | quit h => exact absurd h hprocessing
    | timer h => exact absurd (Or.inr (Or.inr (Or.inl h))) hprocessing
    | closeWindow h => exact absurd (Or.inr (Or.inr h)) hprocessing
    | leave => cases hpoint'
    | join => cases hpoint'
    | browser h => exact absurd (Or.inr (Or.inr h)) hprocessing

theorem ThreadStep.returnsLast {e : ThreadEvent} (h : ThreadStep P moves p e p') (hp : p.Heeded)
    (htimely : p.Timely e) : ReturnsLast (p, e, p') := by
  intro exitCode last hpoint hpoint' hlast
  obtain ⟨rfl, rfl⟩ := h.returns hpoint hpoint'
  have hstoring : ¬ p.task.Storing := by
    unfold Timely at htimely
    rwa [hpoint] at htimely
  rw [hp.exitCode, stored_of_not_storing hstoring, hlast]
  rfl

/-- **No request to exit is lost** in a run of timely steps, however the two threads and the user
interleave, and `Gui::run` returns the exit code of the last request that was answered. -/
theorem heeded_of_run {softwareVersion timestamp : String} {runtimeConfig : RuntimeConfig}
    {trace : List (Program × ThreadEvent × Program)}
    (hrun : Steps (Traced (ThreadStep P moves)) (start softwareVersion timestamp runtimeConfig) trace p)
    (htimely : ∀ entry ∈ trace, entry.1.Timely entry.2.1) :
    ∀ entry ∈ trace, ¬ entry.2.2.Lost ∧ ReturnsLast entry := by
  have hsteps := hrun.forall_clean (fun hp htimely h => h.heeded hp htimely)
    (heeded_start softwareVersion timestamp runtimeConfig) htimely
  intro entry hentry
  obtain ⟨hbefore, hstep, hafter⟩ := hsteps entry hentry
  exact ⟨hafter.not_lost, hstep.returnsLast hbefore (htimely entry hentry)⟩

/-! ### Two restarts -/

/-- A restart while the event loop is running. -/
theorem heeded_of_restart : ∃ trace p,
    Steps (Traced (ThreadStep threadPlatform fun _ _ => False)) sampleStart trace p
      ∧ (∀ entry ∈ trace, ¬ entry.2.2.Lost ∧ ReturnsLast entry)
      ∧ p.accepted = [1] ∧ p.gui.point = .returned 1 := by
  have hrun : Steps (Traced (ThreadStep threadPlatform fun _ _ => False)) sampleStart
      [(_, .gui .statement, _), (_, .gui .statement, _), (_, .gui .statement, _),
        (_, .gui .statement, _), (_, .gui .statement, _), (_, .server (.read 7 restartText), _),
        (_, goesOn, _), (_, goesOn, _), (_, goesOn, _), (_, goesOn, _), (_, goesOn, _),
        (_, .gui (.execute {}), _), (_, .gui .leave, _), (_, .gui .statement, _),
        (_, .gui .statement, _), (_, .gui .statement, _), (_, .gui .statement, _),
        (_, .gui .statement, _), (_, goesOn, _), (_, goesOn, _), (_, goesOn, _), (_, goesOn, _),
        (_, .gui .join, _)] _ :=
    .cons ⟨rfl, rfl, .gui (.statement rfl)⟩ <|
    .cons ⟨rfl, rfl, .gui (.statement rfl)⟩ <|
    .cons ⟨rfl, rfl, .gui (.statement rfl)⟩ <|
    .cons ⟨rfl, rfl, .gui (.statement rfl)⟩ <|
    .cons ⟨rfl, rfl, .gui (.statement rfl)⟩ <|
    .cons ⟨rfl, rfl, .server (.read rfl rfl)⟩ <|
    .cons ⟨rfl, rfl, .server (.receive rfl rfl (by decide))⟩ <|
    .cons ⟨rfl, rfl, .server (.request rfl rfl rfl)⟩ <|
    .cons ⟨rfl, rfl, .server (.requestExit rfl)⟩ <|
    .cons ⟨rfl, rfl, .server (.stop rfl)⟩ <|
    .cons ⟨rfl, rfl, .server (.quit rfl)⟩ <|
    .cons ⟨rfl, rfl, .gui (.quit (Or.inr (Or.inr (Or.inl rfl))) rfl)⟩ <|
    .cons ⟨rfl, rfl, .gui (.leave rfl rfl)⟩ <|
    .cons ⟨rfl, rfl, .gui (.statement rfl)⟩ <|
    .cons ⟨rfl, rfl, .gui (.statement rfl)⟩ <|
    .cons ⟨rfl, rfl, .gui (.statement rfl)⟩ <|
    .cons ⟨rfl, rfl, .gui (.statement rfl)⟩ <|
    .cons ⟨rfl, rfl, .gui (.statement rfl)⟩ <|
    .cons ⟨rfl, rfl, .server (.done rfl rfl rfl)⟩ <|
    .cons ⟨rfl, rfl, .server (.stopped rfl rfl)⟩ <|
    .cons ⟨rfl, rfl, .server (.stop rfl)⟩ <|
    .cons ⟨rfl, rfl, .server (.quit rfl)⟩ <|
    .cons ⟨rfl, rfl, .gui (.join rfl rfl)⟩ <| .nil _
  refine ⟨_, _, hrun, heeded_of_run hrun ?_, rfl, rfl⟩
  refine List.forall_mem_cons.mpr ⟨trivial, List.forall_mem_cons.mpr ⟨rfl, ?_⟩⟩
  iterate 8 refine List.forall_mem_cons.mpr ⟨trivial, ?_⟩
  refine List.forall_mem_cons.mpr ⟨Or.inl rfl, List.forall_mem_cons.mpr ⟨False.elim, ?_⟩⟩
  iterate 4 refine List.forall_mem_cons.mpr ⟨trivial, ?_⟩
  refine List.forall_mem_cons.mpr ⟨id, ?_⟩
  iterate 6 refine List.forall_mem_cons.mpr ⟨trivial, ?_⟩
  exact fun _ hentry => by cases hentry

/-- **A restart that is lost**: it comes before there is an application, and the server thread has ended
by the time the event loop starts. -/
theorem lost_at_start : ∃ trace p,
    Steps (Traced (ThreadStep threadPlatform fun _ _ => False)) sampleStart trace p
      ∧ (∃ entry ∈ trace, entry.2.1 = .server (.read 7 restartText))
      ∧ p.accepted = [1] ∧ p.Lost ∧ p.task = .ended ∧ p.gui.requestedExitCode = 0 := by
  have hrun : Steps (Traced (ThreadStep threadPlatform fun _ _ => False)) sampleStart
      [(_, .server (.read 7 restartText), _), (_, goesOn, _), (_, goesOn, _), (_, goesOn, _),
        (_, goesOn, _), (_, goesOn, _), (_, goesOn, _), (_, goesOn, _), (_, goesOn, _), (_, goesOn, _),
        (_, .gui .statement, _), (_, .gui .statement, _), (_, .gui .statement, _),
        (_, .gui .statement, _), (_, .gui .statement, _)] _ :=
    .cons ⟨rfl, rfl, .server (.read rfl rfl)⟩ <|
    .cons ⟨rfl, rfl, .server (.receive rfl rfl (by decide))⟩ <|
    .cons ⟨rfl, rfl, .server (.request rfl rfl rfl)⟩ <|
    .cons ⟨rfl, rfl, .server (.requestExit rfl)⟩ <|
    .cons ⟨rfl, rfl, .server (.stop rfl)⟩ <|
    .cons ⟨rfl, rfl, .server (.quit rfl)⟩ <|
    .cons ⟨rfl, rfl, .server (.done rfl rfl rfl)⟩ <|
    .cons ⟨rfl, rfl, .server (.stopped rfl rfl)⟩ <|
    .cons ⟨rfl, rfl, .server (.stop rfl)⟩ <|
    .cons ⟨rfl, rfl, .server (.quit rfl)⟩ <|
    .cons ⟨rfl, rfl, .gui (.statement rfl)⟩ <|
    .cons ⟨rfl, rfl, .gui (.statement rfl)⟩ <|
    .cons ⟨rfl, rfl, .gui (.statement rfl)⟩ <|
    .cons ⟨rfl, rfl, .gui (.statement rfl)⟩ <|
    .cons ⟨rfl, rfl, .gui (.statement rfl)⟩ <| .nil _
  refine ⟨_, _, hrun, ⟨_, List.mem_of_getElem? (i := 0) rfl, rfl⟩, rfl, ?_, rfl, rfl⟩
  exact ⟨by decide, id, Or.inl rfl, rfl, rfl⟩

end Program

end OpenMadt
