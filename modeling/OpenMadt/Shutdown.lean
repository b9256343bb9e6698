import OpenMadt.Threads

/-!
# Commands at the end of the event loop

The server thread waits for the response to a command, and the event loop that would execute the command
ends: by a request, by the user, or because the process is told to end.

* `Task.Committed` — the server thread is going to wait, because it has seen its pointer set.
* `Program.Stuck`, `CanLeave` — it waits for a response that nobody makes; it can still come to its end.
* `canLeave_iff` — once the loop has ended, the thread can leave its own exactly if it is not committed
  to an unanswered command.
* `free_iff_orderly` — the exact condition for a run.
-/

namespace OpenMadt

open Run Gui
open Gui (Call CmdResponse Browser GuiState Outside)

/-- The server thread waits for the response of its call. -/
def Task.Waiting : Task → Prop
  | .call .wait _ _ _ => True
  | _ => False

/-- The server thread waits, or whatever happens it will: its function has seen the pointer set and does
not look at it again. -/
def Task.Committed : Task → Prop
  | .call .wait _ _ _ => True
  | .call .post c _ _ | .call .return c _ _ => c.Rereads = false
  | _ => False

/-- The server thread, by its next step, commits itself to wait. -/
def Task.Commits (gui : GuiThread) : Task → Prop
  | .call .test c _ _ => c.IsQueued = true ∧ c.Rereads = false ∧ gui.guard c = true
  | .call .return c _ _ => c.Rereads = true ∧ gui.guard c = true
  | _ => False

theorem Task.Waiting.committed {task : Task} (h : task.Waiting) : task.Committed := by
  unfold Task.Waiting at h
  split at h
  · trivial
  · exact h.elim

namespace Program

/-- The server thread waits for a response that is not ready, and the event loop has ended. -/
def Stuck (p : Program) : Prop := p.task.Waiting ∧ p.gResp = none ∧ p.gui.point.Ended

/-- The server thread is stuck, or is going to be. -/
def Doomed (p : Program) : Prop := p.task.Committed ∧ p.gResp = none ∧ p.gui.point.Ended

theorem Stuck.doomed {p : Program} (h : p.Stuck) : p.Doomed := ⟨h.1.committed, h.2⟩

variable {G : Type} (P : Platform Outside G)

/-- The threads go on with what they do, and nothing comes from outside. -/
inductive OwnStep : Program → ThreadEvent → Program → Prop where
  | server {p p' : Program} {i : Input Outside} (h : ServerStep P p (.next i) p') :
      OwnStep p (.server (.next i)) p'
  | statement {p p' : Program} (h : p.statement = some p') : OwnStep p (.gui .statement) p'

/-- The next text of the server thread is one that it does not survive. -/
def Faults (p : Program) : Prop :=
  ∃ r requestText texts fault, p.task = .reading r ∧ r.texts = requestText :: texts
    ∧ Server.decode P requestText = .error fault

/-- The threads can bring the server thread to its end by themselves, if no text ends the process
before. -/
def CanLeave (p : Program) : Prop :=
  ∃ p', Reaches (OwnStep P) p p' ∧ (p'.task = .ended ∨ p'.Faults P)

variable {P} {moves : Browser → Browser → Prop} {p p' : Program}

theorem OwnStep.threadStep {e : ThreadEvent} (h : OwnStep P p e p') : ThreadStep P moves p e p' := by
  cases h with
  | server h => exact .server h
  | statement h => exact .gui (.statement h)

/-! ### Commitments -/

/-- The next step of a call: the thread is committed afterwards exactly if it was and still waits, or
commits itself. -/
theorem committed_call {o : Outside} {c : Call} {k : Option CmdResponse → Server × Json} {r : Reading}
    {stage : Stage} (htask : p.task = .call stage c k r) (h : p.call o c k r stage = some p') :
    p'.task.Committed ∧ p'.gResp = none
      ↔ (p.task.Committed ∨ p.task.Commits p.gui) ∧ p.gResp = none := by
  unfold Task.Committed Task.Commits
  rw [htask]
  cases stage with
  | test =>
    simp only [call] at h
    split at h
    · split at h
      · cases h
        simp_all
      · split at h <;> cases h <;> simp_all [finish]
    · cases h
      simp_all [finish]
  | post =>
    cases h
    simp
  | «return» =>
    simp only [call] at h
    split at h
    · cases h
      simp_all [finish]
    · next hguard =>
      cases h
      cases hrereads : c.Rereads with
      | false => simp [hrereads]
      | true =>
        have hset : p.gui.guard c = true := by simpa [hrereads] using hguard
        simp [hset]
  | wait =>
    obtain ⟨gResp, hready, rfl⟩ := Option.map_eq_some_iff.mp h
    simp_all [finish]

theorem not_committed_serve (p : Program) (r : Reading) (plan : Server.Plan) :
    ¬ (p.serve r plan).task.Committed := by
  cases plan <;> exact id

/-- Only the next step of a call has to do with commitments. -/
theorem ServerStep.call_or {e : ServerEvent} (h : ServerStep P p e p') :
    (∃ i stage c k r, e = .next i ∧ p.task = .call stage c k r
      ∧ p.call i.gui c k r stage = some p')
      ∨ ¬ (p.task.Committed ∨ p.task.Commits p.gui) ∧ ¬ p'.task.Committed := by
  have hbefore : ∀ {task : Task}, p.task = task → ¬ (task.Committed ∨ task.Commits p.gui) →
      ¬ p'.task.Committed → ¬ (p.task.Committed ∨ p.task.Commits p.gui) ∧ ¬ p'.task.Committed :=
    fun htask hbefore hafter => ⟨htask ▸ hbefore, hafter⟩
  cases h with
  | call htask hcall => exact Or.inl ⟨_, _, _, _, _, rfl, htask, hcall⟩
  | request htask => exact Or.inr (hbefore htask (not_or.mpr ⟨id, id⟩) (not_committed_serve _ _ _))
  | @quit _ after htask =>
    refine Or.inr (hbefore htask (not_or.mpr ⟨id, id⟩) ?_)
    cases after <;> exact id
  | _ htask => exact Or.inr (hbefore htask (not_or.mpr ⟨id, id⟩) id)

/-- No promise is broken: `exec` does not return while the server thread is committed to wait for a
response that is not ready, and after its return no function commits the thread to wait for one. -/
def Orderly (p : Program) : ThreadEvent → Prop
  | .gui .leave => ¬ (p.task.Committed ∧ p.gResp = none)
  | .server (.next _) => ¬ (p.task.Commits p.gui ∧ p.gResp = none ∧ p.gui.point.Ended)
  | _ => True

/-- The main thread makes a response only by executing something. -/
theorem GuiStep.gResp_eq {e : GuiEvent} (h : GuiStep moves p e p') :
    p'.gResp = p.gResp ∨ p.gui.point.Processing ∧ p'.gResp ≠ none := by
  cases h with
  | statement h => exact Or.inl (gResp_statement h)
  | command hpoint => exact Or.inr ⟨hpoint, Option.some_ne_none _⟩
  | _ => exact Or.inl rfl

/-- **One step** of a program that is not doomed. -/
theorem ThreadStep.doomed_iff {e : ThreadEvent} (h : ThreadStep P moves p e p') (hp : ¬ p.Doomed) :
    ¬ p'.Doomed ↔ p.Orderly e := by
  cases h with
  | @server _ e h =>
    rcases h.call_or with ⟨i, stage, c, k, r, rfl, htask, hcall⟩ | ⟨hbefore, hafter⟩
    · have hafter := committed_call htask hcall
      have hpoint := h.samePlace.point
      unfold Doomed at hp ⊢
      rw [← and_assoc] at hp ⊢
      rw [hafter, hpoint]
      show _ ↔ ¬ (p.task.Commits p.gui ∧ p.gResp = none ∧ p.gui.point.Ended)
      refine not_congr ⟨fun hdoomed => ?_, fun hbroken => ?_⟩
      · -- it was not committed before
        obtain ⟨⟨hold | hnew, hnone⟩, hend⟩ := hdoomed
        · exact absurd ⟨⟨hold, hnone⟩, hend⟩ hp
        · exact ⟨hnew, hnone, hend⟩
      · obtain ⟨hnew, hnone, hend⟩ := hbroken
        exact ⟨⟨Or.inr hnew, hnone⟩, hend⟩
    · refine iff_of_true (fun hdoomed => hafter hdoomed.1) ?_
      cases e with
      | next i => exact fun hbroken => hbefore (Or.inr hbroken.1)
      | _ => trivial
  | @gui _ e h =>
    have htask := h.sameServer.task
    by_cases he : e = .leave
    · subst he
      cases h with
      | leave =>
        show ¬ (p.task.Committed ∧ p.gResp = none ∧ Point.cancelStartup.Ended)
          ↔ ¬ (p.task.Committed ∧ p.gResp = none)
        simp [show Point.cancelStartup.Ended from by decide]
    · have hended := h.ended_iff he
      have horderly : p.Orderly (.gui e) := by
        cases e with
        | leave => exact absurd rfl he
        | _ => trivial
      refine iff_of_true ?_ horderly
      rintro ⟨hcommitted, hnone, hend⟩
      refine hp ⟨htask ▸ hcommitted, ?_, hended.mp hend⟩
      rcases h.gResp_eq with heq | ⟨-, hsome⟩
      · rwa [← heq]
      · exact absurd hnone hsome

/-- **A doomed program** stays doomed, and its server thread never ends. -/
theorem ThreadStep.doomed {e : ThreadEvent} (h : ThreadStep P moves p e p') (hp : p.Doomed) :
    p'.Doomed := by
  obtain ⟨hcommitted, hnone, hend⟩ := hp
  cases h with
  | @server _ e h =>
    rcases h.call_or with ⟨i, stage, c, k, r, rfl, htask, hcall⟩ | ⟨hbefore, -⟩
    · obtain ⟨hafter, hnone'⟩ := (committed_call htask hcall).mpr ⟨Or.inl hcommitted, hnone⟩
      exact ⟨hafter, hnone', by rwa [h.samePlace.point]⟩
    · exact absurd (Or.inl hcommitted) hbefore
  | @gui _ e h =>
    refine ⟨h.sameServer.task ▸ hcommitted, ?_, (ThreadStep.gui h).ended (P := P) hend⟩
    rcases h.gResp_eq with heq | ⟨hprocessing, -⟩
    · rwa [heq]
    · exact absurd hend (not_ended_of_processing hprocessing)

/-- A doomed program does not come to its end. -/
theorem Doomed.not_canLeave (hp : p.Doomed) : ¬ p.CanLeave P := by
  rintro ⟨p', hreaches, hend⟩
  have hdoomed := hreaches.invariant Doomed
    (fun h hstep => (hstep.threadStep : ThreadStep P (fun _ _ => False) _ _ _).doomed h) hp
  have hcommitted := hdoomed.1
  rcases hend with hended | ⟨r, _, _, _, htask, _⟩
  · rw [hended] at hcommitted
    exact hcommitted
  · rw [htask] at hcommitted
    exact hcommitted

/-! ### The way to the join -/

/-- How many statements there are from the end of the event loop to the join. -/
def left : Point → ℕ
  | .cancelStartup => 5
  | .clearAppInstance => 4
  | .clearBrowser => 3
  | .returnExitCode => 2
  | .stopProcess _ => 1
  | .join _ | .returned _ => 0
  | _ => 6

theorem left_le_iff (point : Point) : left point ≤ 5 ↔ point.Ended := by
  cases point <;> simp [left, Point.Ended, Point.Starting, Point.Running]

/-- What the main thread has done on its way is done. -/
structure Sound (p : Program) : Prop where
  appInstance : left p.gui.point ≤ 3 → p.gui.appInstance = false
  browser : left p.gui.point ≤ 2 → p.gui.browser = none
  stopped : left p.gui.point ≤ 0 → p.stopped = true

theorem sound_of_left (h : ¬ left p.gui.point ≤ 5) : p.Sound :=
  ⟨fun hleft => absurd hleft (by omega), fun hleft => absurd hleft (by omega),
    fun hleft => absurd hleft (by omega)⟩

theorem sound_start (softwareVersion timestamp : String) (runtimeConfig : RuntimeConfig) :
    (start softwareVersion timestamp runtimeConfig).Sound :=
  sound_of_left (by show ¬ left .setAppInstance ≤ 5; decide)

theorem sound_statement (h : p.statement = some p') (hp : p.Sound) : p'.Sound := by
  have happ := hp.appInstance
  have hbrowser := hp.browser
  unfold statement at h
  split at h <;> cases h
  all_goals
    next hpoint =>
    rw [hpoint] at happ hbrowser
    constructor <;> simp_all [left, GuiThread.setStartupState]

theorem stopped_serve (hp : p.stopped = true) (r : Reading) (plan : Server.Plan) :
    (p.serve r plan).stopped = true := by
  cases plan with
  | stop => rfl
  | _ => exact hp

theorem stopped_call {o : Outside} {c : Call} {k : Option CmdResponse → Server × Json} {r : Reading}
    {stage : Stage} (h : p.call o c k r stage = some p') : p'.stopped = p.stopped := by
  rcases call_cases h with ⟨gResp, rfl⟩ | ⟨stage', rfl⟩ | rfl <;> rfl

theorem stopped_server {e : ServerEvent} (h : ServerStep P p e p') (hp : p.stopped = true) :
    p'.stopped = true := by
  cases h with
  | request => exact stopped_serve hp _ _
  | call _ hcall => rwa [stopped_call hcall]
  | _ => exact hp

theorem ThreadStep.sound {e : ThreadEvent} (h : ThreadStep P moves p e p') (hp : p.Sound) : p'.Sound := by
  cases h with
  | server h =>
    have hsame := h.samePlace
    refine ⟨?_, ?_, ?_⟩
    · rw [hsame.point, hsame.appInstance]
      exact hp.appInstance
    · rw [hsame.point, hsame.browser]
      exact hp.browser
    · rw [hsame.point]
      exact fun hleft => stopped_server h (hp.stopped hleft)
  | @gui _ e h =>
    have hprocessing : p.gui.point.Processing → e ≠ .leave → p'.Sound := fun hpoint he =>
      sound_of_left fun hleft =>
        not_ended_of_processing hpoint ((h.ended_iff he).mp ((left_le_iff _).mp hleft))
    cases h with
    | statement h => exact sound_statement h hp
    | command hpoint => exact hprocessing hpoint (by rintro ⟨⟩)
    | signal hpoint => exact hprocessing hpoint (by rintro ⟨⟩)
    | quit hpoint => exact hprocessing hpoint (by rintro ⟨⟩)
    | timer hpoint => exact hprocessing (Or.inr (Or.inr (Or.inl hpoint))) (by rintro ⟨⟩)
    | closeWindow hpoint => exact hprocessing (Or.inr (Or.inr hpoint)) (by rintro ⟨⟩)
    | leave =>
      have hleft : left .cancelStartup = 5 := rfl
      constructor <;> exact fun h => absurd (hleft.symm.trans_le h) (by decide)
    | join hpoint =>
      have hleft : left p.gui.point = 0 := by rw [hpoint]; rfl
      exact ⟨fun _ => hp.appInstance (by omega), fun _ => hp.browser (by omega),
        fun _ => hp.stopped (by omega)⟩
    | browser hpoint => exact hprocessing (Or.inr (Or.inr hpoint)) (by rintro ⟨⟩)

/-- The main thread has come to its join. -/
def Joining (p : Program) : Prop :=
  p.gui.appInstance = false ∧ p.gui.browser = none ∧ p.stopped = true

theorem Joining.guard (h : p.Joining) (c : Call) : p.gui.guard c = false := by
  cases c with
  | signal s => exact Option.isSome_eq_false_iff.mpr (Option.isNone_iff_eq_none.mpr h.2.1)
  | _ => exact h.1

/-- A statement on the way. -/
theorem exists_statement (hend : p.gui.point.Ended) (hleft : left p.gui.point ≠ 0) :
    ∃ p', p.statement = some p' ∧ left p'.gui.point + 1 = left p.gui.point := by
  unfold statement
  cases hpoint : p.gui.point with
  | cancelStartup => exact ⟨_, rfl, rfl⟩
  | clearAppInstance => exact ⟨_, rfl, rfl⟩
  | clearBrowser => exact ⟨_, rfl, rfl⟩
  | returnExitCode => exact ⟨_, rfl, rfl⟩
  | stopProcess => exact ⟨_, rfl, rfl⟩
  | join => exact absurd (by rw [hpoint]; rfl) hleft
  | returned => exact absurd (by rw [hpoint]; rfl) hleft
  | _ =>
    rw [hpoint] at hend
    exact absurd hend (by decide)

/-- From the end of the event loop the main thread comes, by itself, to its join. -/
theorem reaches_join (P : Platform Outside G) (hend : p.gui.point.Ended) (hp : p.Sound) :
    ∃ p', Reaches (OwnStep P) p p' ∧ p'.Joining ∧ p'.task = p.task ∧ p'.gResp = p.gResp := by
  induction hn : left p.gui.point generalizing p with
  | zero =>
    exact ⟨p, .refl _ p, ⟨hp.appInstance (by omega), hp.browser (by omega), hp.stopped (by omega)⟩,
      rfl, rfl⟩
  | succ n ih =>
    obtain ⟨q, hstatement, hleft⟩ := exists_statement hend (by omega)
    obtain ⟨p', hreaches, hjoining, htask, hgResp⟩ :=
      ih ((ended_statement hstatement).mpr hend) (sound_statement hstatement hp) (by omega)
    exact ⟨p', .head (.statement hstatement) hreaches, hjoining,
      htask.trans (sameServer_statement hstatement).task, hgResp.trans (gResp_statement hstatement)⟩

/-- The server thread, with cleared pointers, gets to a state with `Q`. -/
def Gets (P : Platform Outside G) (p : Program)
    (Q : Task → Prop) : Prop :=
  ∃ p', Reaches (OwnStep P) p p' ∧ p'.Joining ∧ (Q p'.task ∨ p'.Faults P)

theorem Gets.next {i : Input Outside} {Q : Task → Prop} (h : ServerStep P p (.next i) p')
    (hgets : p'.Gets P Q) : p.Gets P Q := by
  obtain ⟨q, hreaches, hq⟩ := hgets
  exact ⟨q, .head (.server h) hreaches, hq⟩

theorem Gets.bind {Q Q' : Task → Prop} (h : p.Gets P Q)
    (hrest : ∀ q : Program, q.Joining → Q q.task → q.Gets P Q') : p.Gets P Q' := by
  obtain ⟨q, hreaches, hjoining, hq | hfaults⟩ := h
  · obtain ⟨q', hreaches', hq'⟩ := hrest q hjoining hq
    exact ⟨q', hreaches.trans hreaches', hq'⟩
  · exact ⟨q, hreaches, hjoining, Or.inr hfaults⟩

theorem Gets.here {Q : Task → Prop} (hjoining : p.Joining) (h : Q p.task) : p.Gets P Q :=
  ⟨p, .refl _ p, hjoining, Or.inl h⟩

section Calls

variable {c : Call} {k : Option CmdResponse → Server × Json} {r : Reading} (i : Input Outside)

include i

theorem gets_of_wait (hjoining : p.Joining) (htask : p.task = .call .wait c k r) (hready : p.gResp ≠ none) :
    p.Gets P (· = .reading r) := by
  obtain ⟨gResp, hgResp⟩ := Option.ne_none_iff_exists'.mp hready
  have hstep : p.call i.gui c k r .wait = some (p.finish r (k (some gResp))) := by
    rw [call, hgResp]
    rfl
  exact .next (.call htask hstep) (.here hjoining rfl)

theorem gets_of_return (hjoining : p.Joining) (htask : p.task = .call .return c k r)
    (hready : c.Rereads = false → p.gResp ≠ none) : p.Gets P (· = .reading r) := by
  cases hrereads : c.Rereads with
  | true =>
    have hstep : p.call i.gui c k r .return = some (p.finish r (k none)) := by
      rw [call, hrereads, hjoining.guard]
      rfl
    exact .next (.call htask hstep) (.here hjoining rfl)
  | false =>
    have hstep : p.call i.gui c k r .return = some { p with task := .call .wait c k r } := by
      rw [call, hrereads]
      rfl
    exact .next (.call htask hstep) (gets_of_wait i hjoining rfl (hready hrereads))

theorem gets_of_call {stage : Stage} (hjoining : p.Joining) (htask : p.task = .call stage c k r)
    (hready : p.task.Committed → p.gResp ≠ none) : p.Gets P (· = .reading r) := by
  rw [htask] at hready
  cases stage with
  | wait => exact gets_of_wait i hjoining htask (hready trivial)
  | «return» => exact gets_of_return i hjoining htask hready
  | post =>
    have hstep : p.call i.gui c k r .post
        = some { p with gui := p.gui.post (.command c), task := .call .return c k r } := rfl
    exact .next (.call htask hstep) (gets_of_return i hjoining rfl hready)
  | test =>
    cases hqueued : c.IsQueued with
    | false =>
      have hstep : p.call i.gui c k r .test
          = some (p.finish r (k (some (p.gui.state.callGetCharacteristics i.gui)))) := by
        rw [call, hqueued]
        rfl
      exact .next (.call htask hstep) (.here hjoining rfl)
    | true =>
      cases hrereads : c.Rereads with
      | true =>
        have hstep : p.call i.gui c k r .test = some { p with task := .call .return c k r } := by
          rw [call, hqueued, hrereads, hjoining.guard]
          rfl
        refine .next (.call htask hstep) (gets_of_return i hjoining rfl fun h => ?_)
        rw [hrereads] at h
        cases h
      | false =>
        have hstep : p.call i.gui c k r .test = some (p.finish r (k none)) := by
          rw [call, hqueued, hrereads, hjoining.guard]
          rfl
        exact .next (.call htask hstep) (.here hjoining rfl)

/-- `Gui::stop` has no application to tell. -/
theorem gets_of_quit {after : Option Reading} (hjoining : p.Joining) (htask : p.task = .quit after) :
    p.Gets P (· = resume after) := by
  have hstep := ServerStep.quit (P := P) (i := i) htask
  rw [hjoining.1] at hstep
  exact .next hstep (.here hjoining rfl)

theorem gets_of_stop {after : Option Reading} (hjoining : p.Joining) (htask : p.task = .stop after) :
    p.Gets P (· = resume after) :=
  .next (.stop (i := i) htask) (gets_of_quit i hjoining rfl)

theorem gets_of_requestExit {exitCode : ℤ} (hjoining : p.Joining) (htask : p.task = .requestExit exitCode r) :
    p.Gets P (· = .reading r) := by
  show p.Gets P (· = resume (some r))
  exact .next (.requestExit (i := i) htask) (gets_of_stop i hjoining rfl)

/-- A request is carried out, whatever the plan for it. -/
theorem gets_of_serve (hjoining : p.Joining) (plan : Server.Plan) :
    (p.serve r plan).Gets P (· = .reading r) := by
  cases plan with
  | answer => exact .here hjoining rfl
  | stop => exact gets_of_requestExit i ⟨hjoining.1, hjoining.2.1, rfl⟩ rfl
  | ask => exact gets_of_call i hjoining rfl fun hcommitted => hcommitted.elim

/-- All texts are processed, up to one that is not survived. -/
theorem gets_of_texts {texts : List Bytes} (hjoining : p.Joining)
    (htask : p.task = .reading { r with texts := texts }) :
    p.Gets P (· = .reading { r with texts := [] }) := by
  induction texts generalizing p with
  | nil => exact .here hjoining htask
  | cons requestText texts ih =>
    cases hdecode : Server.decode P requestText with
    | error fault =>
      exact ⟨p, .refl _ p, hjoining, Or.inr ⟨_, requestText, texts, fault, htask, rfl, hdecode⟩⟩
    | ok request =>
      refine .next (.request (i := i) htask rfl hdecode) ?_
      refine (gets_of_serve i hjoining _).bind fun q hq hreading => ?_
      exact ih hq hreading

/-- The input buffer is emptied. -/
theorem gets_of_reading (hjoining : p.Joining) (htask : p.task = .reading r) :
    p.Gets P (· = .listening) := by
  induction hn : r.input.length using Nat.strong_induction_on generalizing p r with
  | _ n ih =>
    refine (gets_of_texts i hjoining (r := r) htask).bind fun q hq hreading => ?_
    by_cases hinput : r.input = []
    · exact .next (.done (i := i) hreading rfl hinput) (.here hq rfl)
    · refine .next (.receive (i := i) hreading rfl hinput) (ih _ ?_ hq rfl rfl)
      have hpos := List.length_pos_iff.mpr hinput
      show (r.input.drop 1024).length < n
      rw [List.length_drop]
      omega

theorem gets_of_kill {signals : List Browser.Signal} (hjoining : p.Joining) (htask : p.task = .kill signals) :
    p.Gets P (· = .listening) := by
  induction signals generalizing p with
  | nil => exact .next (.killed (i := i) htask) (.here hjoining rfl)
  | cons s signals ih =>
    have hstep := ServerStep.kill (P := P) (i := i) htask
    rw [hjoining.2.1] at hstep
    exact .next hstep (ih hjoining rfl)

theorem gets_of_listening (hjoining : p.Joining) (htask : p.task = .listening) :
    p.Gets P (· = .ended) := by
  show p.Gets P (· = resume none)
  exact .next (.stopped (i := i) htask hjoining.2.2) (gets_of_stop i hjoining rfl)

end Calls

/-- **With its pointers cleared**, the program comes to an end of its server thread, unless the thread is
committed to wait for a response that is not ready. -/
theorem gets_ended (hjoining : p.Joining) (hready : p.task.Committed → p.gResp ≠ none) :
    p.Gets P (· = .ended) := by
  have i : Input Outside := Server.sampleInput
  have hlistening : ∀ q : Program, q.Joining → q.task = .listening → q.Gets P (· = .ended) :=
    fun q hq htask => gets_of_listening i hq htask
  have hreading : ∀ (r : Reading) (q : Program), q.Joining → q.task = .reading r →
      q.Gets P (· = .ended) :=
    fun r q hq htask => (gets_of_reading i hq htask).bind hlistening
  have hresume : ∀ (after : Option Reading) (q : Program), q.Joining → q.task = resume after →
      q.Gets P (· = .ended) := by
    intro after q hq htask
    cases after with
    | none => exact .here hq htask
    | some r => exact hreading r q hq htask
  cases htask : p.task with
  | listening => exact hlistening p hjoining htask
  | reading r => exact hreading r p hjoining htask
  | call stage c k r => exact (gets_of_call i hjoining htask hready).bind (hreading r)
  | requestExit exitCode r => exact (gets_of_requestExit i hjoining htask).bind (hreading r)
  | stop after => exact (gets_of_stop i hjoining htask).bind (hresume after)
  | quit after => exact (gets_of_quit i hjoining htask).bind (hresume after)
  | kill signals => exact (gets_of_kill i hjoining htask).bind hlistening
  | ended => exact .here hjoining htask

/-- **Once the event loop has ended**, the server thread can leave its own exactly if it is not committed
to wait for a response that nobody will make. -/
theorem canLeave_iff (hend : p.gui.point.Ended) (hp : p.Sound) : p.CanLeave P ↔ ¬ p.Doomed := by
  constructor
  · exact fun hleave hdoomed => hdoomed.not_canLeave hleave
  · intro hdoomed
    obtain ⟨q, hreaches, hjoining, htask, hgResp⟩ := reaches_join P hend hp
    have hready : q.task.Committed → q.gResp ≠ none := fun hcommitted hnone =>
      hdoomed ⟨htask ▸ hcommitted, hgResp ▸ hnone, hend⟩
    have hgets : q.Gets P (· = .ended) := gets_ended hjoining hready
    obtain ⟨q', hreaches', -, hq'⟩ := hgets
    exact ⟨q', hreaches.trans hreaches', hq'⟩

/-! ### Runs -/

/-- The server thread is not stuck, and once the event loop has ended it can leave its own. -/
def Free (P : Platform Outside G) (p : Program) : Prop :=
  ¬ p.Stuck ∧ (p.gui.point.Ended → p.CanLeave P)

theorem free_iff (hp : p.Sound) : p.Free P ↔ ¬ p.Doomed := by
  constructor
  · rintro ⟨-, hleave⟩ hdoomed
    exact hdoomed.not_canLeave (hleave hdoomed.2.2)
  · intro hdoomed
    exact ⟨fun hstuck => hdoomed hstuck.doomed, fun hend => (canLeave_iff hend hp).mpr hdoomed⟩

/-- **When the server thread can always leave**: in every run, however the two threads and the user
interleave, no state is stuck and the thread can leave once the event loop has ended, exactly if all
steps of the run are orderly. -/
theorem free_iff_orderly {softwareVersion timestamp : String} {runtimeConfig : RuntimeConfig}
    {trace : List (Program × ThreadEvent × Program)}
    (hrun : Steps (Traced (ThreadStep P moves)) (start softwareVersion timestamp runtimeConfig) trace p) :
    (∀ entry ∈ trace, entry.2.2.Free P) ↔ ∀ entry ∈ trace, entry.1.Orderly entry.2.1 := by
  have hstart := sound_start softwareVersion timestamp runtimeConfig
  have hsteps := hrun.forall_iff (I := fun p => p.Sound ∧ p.Free P)
    (fun hp h => (free_iff (h.sound hp.1)).trans (h.doomed_iff ((free_iff hp.1).mp hp.2)))
    (fun hp h hfree => ⟨h.sound hp.1, hfree⟩)
    ⟨hstart, (free_iff hstart).mpr fun hdoomed => hdoomed.1⟩
  exact hsteps

/-! ### Two ends -/

/-- A command is executed before the user closes the window. -/
theorem free_of_closeWindow : ∃ trace p,
    Steps (Traced (ThreadStep threadPlatform fun _ _ => False)) sampleStart trace p
      ∧ (∃ entry ∈ trace, entry.2.1 = .server (.read 7 tabMapText))
      ∧ (∀ entry ∈ trace, entry.2.2.Free threadPlatform) ∧ p.gui.point = .returned 0 := by
  have hrun : Steps (Traced (ThreadStep threadPlatform fun _ _ => False)) sampleStart
      [(_, .gui .statement, _), (_, .gui .statement, _), (_, .gui .statement, _),
        (_, .gui .statement, _), (_, .gui .statement, _), (_, .gui .timer, _), (_, .gui .statement, _),
        (_, .server (.read 7 tabMapText), _), (_, goesOn, _), (_, goesOn, _), (_, goesOn, _),
        (_, goesOn, _), (_, goesOn, _), (_, .gui (.execute {}), _), (_, goesOn, _),
        (_, .gui .closeWindow, _), (_, .gui .leave, _), (_, .gui .statement, _),
        (_, .gui .statement, _), (_, .gui .statement, _), (_, .gui .statement, _),
        (_, .gui .statement, _), (_, goesOn, _), (_, goesOn, _), (_, goesOn, _), (_, goesOn, _),
        (_, .gui .join, _)] _ :=
    .cons ⟨rfl, rfl, .gui (.statement rfl)⟩ <|
    .cons ⟨rfl, rfl, .gui (.statement rfl)⟩ <|
    .cons ⟨rfl, rfl, .gui (.statement rfl)⟩ <|
    .cons ⟨rfl, rfl, .gui (.statement rfl)⟩ <|
    .cons ⟨rfl, rfl, .gui (.statement rfl)⟩ <|
    .cons ⟨rfl, rfl, .gui (.timer rfl rfl)⟩ <|
    .cons ⟨rfl, rfl, .gui (.statement rfl)⟩ <|
    .cons ⟨rfl, rfl, .server (.read rfl rfl)⟩ <|
    .cons ⟨rfl, rfl, .server (.receive rfl rfl (by decide))⟩ <|
    .cons ⟨rfl, rfl, .server (.request rfl rfl rfl)⟩ <|
    .cons ⟨rfl, rfl, .server (.call rfl rfl)⟩ <|
    .cons ⟨rfl, rfl, .server (.call rfl rfl)⟩ <|
    .cons ⟨rfl, rfl, .server (.call rfl rfl)⟩ <|
    .cons ⟨rfl, rfl, .gui (.command (Or.inr (Or.inr (Or.inl rfl))) rfl rfl)⟩ <|
    .cons ⟨rfl, rfl, .server (.call rfl rfl)⟩ <|
    .cons ⟨rfl, rfl, .gui (.closeWindow (Or.inl rfl))⟩ <|
    .cons ⟨rfl, rfl, .gui (.leave rfl rfl)⟩ <|
    .cons ⟨rfl, rfl, .gui (.statement rfl)⟩ <|
    .cons ⟨rfl, rfl, .gui (.statement rfl)⟩ <|
    .cons ⟨rfl, rfl, .gui (.statement rfl)⟩ <|
    .cons ⟨rfl, rfl, .gui (.statement rfl)⟩ <|
    .cons ⟨rfl, rfl, .gui (.statement rfl)⟩ <|
    .cons ⟨rfl, rfl, .server (.done rfl rfl rfl)⟩ <|
    .cons ⟨rfl, rfl, .server (.stopped rfl rfl)⟩ <|
    .cons ⟨rfl, rfl, .server (.stop rfl)⟩ <|
    .cons ⟨rfl, rfl, .server (.quit rfl)⟩ <|
    .cons ⟨rfl, rfl, .gui (.join rfl rfl)⟩ <| .nil _
  refine ⟨_, _, hrun, ⟨_, List.mem_of_getElem? (i := 7) rfl, rfl⟩, (free_iff_orderly hrun).mpr ?_, rfl⟩
  iterate 8 refine List.forall_mem_cons.mpr ⟨trivial, ?_⟩
  iterate 5 refine List.forall_mem_cons.mpr ⟨fun h => h.2.2.2 (Or.inl rfl), ?_⟩
  refine List.forall_mem_cons.mpr ⟨trivial, ?_⟩
  refine List.forall_mem_cons.mpr ⟨fun h => h.2.2.2 (Or.inl rfl), ?_⟩
  refine List.forall_mem_cons.mpr ⟨trivial, List.forall_mem_cons.mpr ⟨fun h => h.1, ?_⟩⟩
  iterate 5 refine List.forall_mem_cons.mpr ⟨trivial, ?_⟩
  iterate 4 refine List.forall_mem_cons.mpr ⟨fun h => h.1, ?_⟩
  exact List.forall_mem_cons.mpr ⟨trivial, fun _ hentry => by cases hentry⟩

/-- **A server thread that is stuck**: the client asks for the tabs right after its `Stop`, and the event
loop ends before it has executed the command. -/
theorem stuck_after_stop : ∃ trace p,
    Steps (Traced (ThreadStep threadPlatform fun _ _ => False)) sampleStart trace p
      ∧ (∃ entry ∈ trace, entry.2.1 = .server (.read 7 (stopText ++ tabMapText)))
      ∧ p.Stuck ∧ ¬ p.CanLeave threadPlatform := by
  have hrun : Steps (Traced (ThreadStep threadPlatform fun _ _ => False)) sampleStart
      [(_, .gui .statement, _), (_, .gui .statement, _), (_, .gui .statement, _),
        (_, .gui .statement, _), (_, .gui .statement, _), (_, .gui .timer, _), (_, .gui .statement, _),
        (_, .server (.read 7 (stopText ++ tabMapText)), _), (_, goesOn, _), (_, goesOn, _),
        (_, goesOn, _), (_, goesOn, _), (_, goesOn, _), (_, .gui (.execute {}), _), (_, goesOn, _),
        (_, goesOn, _), (_, .gui .leave, _), (_, goesOn, _), (_, goesOn, _)] _ :=
    .cons ⟨rfl, rfl, .gui (.statement rfl)⟩ <|
    .cons ⟨rfl, rfl, .gui (.statement rfl)⟩ <|
    .cons ⟨rfl, rfl, .gui (.statement rfl)⟩ <|
    .cons ⟨rfl, rfl, .gui (.statement rfl)⟩ <|
    .cons ⟨rfl, rfl, .gui (.statement rfl)⟩ <|
    .cons ⟨rfl, rfl, .gui (.timer rfl rfl)⟩ <|
    .cons ⟨rfl, rfl, .gui (.statement rfl)⟩ <|
    .cons ⟨rfl, rfl, .server (.read rfl rfl)⟩ <|
    .cons ⟨rfl, rfl, .server (.receive rfl rfl (by decide))⟩ <|
    .cons ⟨rfl, rfl, .server (.request rfl rfl rfl)⟩ <|
    .cons ⟨rfl, rfl, .server (.requestExit rfl)⟩ <|
    .cons ⟨rfl, rfl, .server (.stop rfl)⟩ <|
    .cons ⟨rfl, rfl, .server (.quit rfl)⟩ <|
    .cons ⟨rfl, rfl, .gui (.quit (Or.inr (Or.inr (Or.inl rfl))) rfl)⟩ <|
    .cons ⟨rfl, rfl, .server (.request rfl rfl rfl)⟩ <|
    .cons ⟨rfl, rfl, .server (.call rfl rfl)⟩ <|
    .cons ⟨rfl, rfl, .gui (.leave rfl rfl)⟩ <|
    .cons ⟨rfl, rfl, .server (.call rfl rfl)⟩ <|
    .cons ⟨rfl, rfl, .server (.call rfl rfl)⟩ <| .nil _
  refine ⟨_, _, hrun, ⟨_, List.mem_of_getElem? (i := 7) rfl, rfl⟩, ?_⟩
  suffices hstuck : Stuck _ from ⟨hstuck, hstuck.doomed.not_canLeave⟩
  exact ⟨trivial, rfl, by decide⟩

end Program

end OpenMadt
