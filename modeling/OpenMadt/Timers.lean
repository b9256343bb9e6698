import OpenMadt.Library.Run
import Mathlib.Data.List.Nodup
import Mathlib.Logic.Function.Basic

/-!
# Timers

The timers of `process.cpp`.  `timerCreate` and `timerSingleCreate` both return the address of a libevent
event; the events of periodic timers are owned by the registry `ctx.events`, and the event of a one-shot timer
by a record that its callback releases.  `timerDelete` looks the address up in the registry.

* `Context`, `TimerStep` — the registry, the events and the records, and what can happen: calls of the three
  functions, and firings.  An address that has been freed may be given out again.
* `Status`, `ServiceStep` — what a timer is for its user, and what the functions are there for.
* `Represents` — how the events and the records stand for the statuses; `Represents.step` — each step does
  what it is there for, unless `timerDelete` is called for a one-shot timer that waits, or for a timer that is
  gone while another one is registered under its address.
* `timersSound_of_clean` — in a run without such calls no deleted timer fires, no timer is affected by the
  deletion of another one, and a one-shot timer fires once and is released once.

Of libevent this assumes that an event is invoked only while it is pending, that a persistent event stays
pending and any other does not, and that a freed event is never invoked.  The events for signals and file
descriptors are left out.
-/

namespace OpenMadt.Process

/-! ### The registry, the events and the records -/

/-- An address on the heap; none is null. -/
abbrev Address := ℕ

/-- A timer, by the number of successful creations before its own.  It stands for the callback and the argument
that were given then. -/
abbrev Timer := ℕ

/-- What libevent calls. -/
inductive Target where
  /-- The callback that was given to `timerCreate`. -/
  | callback (timer : Timer)
  | timerCallBack (cbParams : Address)
  deriving DecidableEq

/-- A `struct event`. -/
structure TimerEvent where
  persist : Bool
  target : Target
  pending : Bool
  deriving DecidableEq

/-- `timerCBParams_t`. -/
structure TimerCBParams where
  callback : Timer
  event : Address
  deriving DecidableEq

/-- The state of `process.cpp` and of libevent; `handles` are the addresses that the creations have returned. -/
structure Context where
  /-- `ctx.events`. -/
  events : List Address
  heap : Address → Option TimerEvent
  records : Address → Option TimerCBParams
  /-- What has been called and has not returned. -/
  running : Option Target
  handles : List Address

namespace Context

/-- After `setup`. -/
def init : Context where
  events := []
  heap := fun _ => none
  records := fun _ => none
  running := none
  handles := []

/-- `timerCreate`, with the event that `event_new` returns. -/
def timerCreate (ev : Address) (s : Context) : Context :=
  { s with
    heap := Function.update s.heap ev
      (some { persist := true, target := .callback s.handles.length, pending := true })
    events := s.events ++ [ev]
    handles := s.handles ++ [ev] }

/-- `timerSingleCreate`, with the record and the event. -/
def timerSingleCreate (cbParams ev : Address) (s : Context) : Context :=
  { s with
    heap := Function.update s.heap ev
      (some { persist := false, target := .timerCallBack cbParams, pending := true })
    records := Function.update s.records cbParams (some { callback := s.handles.length, event := ev })
    handles := s.handles ++ [ev] }

/-- `deleteRegisteredEvent`. -/
def deleteRegisteredEvent (ev : Address) (s : Context) : Context :=
  if ev ∈ s.events then
    { s with
      events := s.events.erase ev
      heap := Function.update s.heap ev none }
  else s

/-- `timerDelete`. -/
def timerDelete (timer : Address) (s : Context) : Context := s.deleteRegisteredEvent timer

/-- The timer whose callback a call to the target reaches. -/
def callbackOf (s : Context) : Target → Option Timer
  | .callback timer => some timer
  | .timerCallBack cbParams => (s.records cbParams).map TimerCBParams.callback

/-- The timer that the event at an address belongs to. -/
def owner (s : Context) (ev : Address) : Option Timer := (s.heap ev).bind fun event => s.callbackOf event.target

/-- libevent takes a pending event and calls its target. -/
def fire (ev : Address) (event : TimerEvent) (s : Context) : Context :=
  { s with
    heap := Function.update s.heap ev (some { event with pending := event.persist })
    running := some event.target }

/-- The end of `timerCallBack`: the record goes, and its event with it. -/
def release (cbParams : Address) (record : TimerCBParams) (s : Context) : Context :=
  { s with
    heap := Function.update s.heap record.event none
    records := Function.update s.records cbParams none
    running := none }

/-- Nothing is at the address. -/
def Free (s : Context) (a : Address) : Prop := s.heap a = none ∧ s.records a = none

end Context

/-- What happens, from the point of view of the callers. -/
inductive TimerLabel where
  | timerCreate (timer : Timer)
  | timerSingleCreate (timer : Timer)
  /-- A creation that returns null. -/
  | failed
  | timerDelete (timer : Timer)
  /-- `timerDelete` with null. -/
  | deleteNull
  /-- The callback of the timer is called. -/
  | invoked (timer : Timer)
  | returned (timer : Timer)
  /-- The callback returns and the record is released. -/
  | released (timer : Timer)
  deriving DecidableEq

/-- What can happen next.  Callbacks may call the functions as well; libevent calls one callback at a time. -/
inductive TimerStep : Context → TimerLabel → Context → Prop where
  | timerCreate {s : Context} {ev : Address} (hfree : s.Free ev) :
      TimerStep s (.timerCreate s.handles.length) (s.timerCreate ev)
  | timerSingleCreate {s : Context} {cbParams ev : Address} (hfree : s.Free cbParams) (hfree' : s.Free ev)
      (hne : cbParams ≠ ev) :
      TimerStep s (.timerSingleCreate s.handles.length) (s.timerSingleCreate cbParams ev)
  | failed {s : Context} : TimerStep s .failed s
  | timerDelete {s : Context} {timer : Timer} {handle : Address} (hhandle : s.handles[timer]? = some handle) :
      TimerStep s (.timerDelete timer) (s.timerDelete handle)
  | deleteNull {s : Context} : TimerStep s .deleteNull s
  | invoked {s : Context} {ev : Address} {event : TimerEvent} {timer : Timer} (hidle : s.running = none)
      (hevent : s.heap ev = some event) (hpending : event.pending = true)
      (hcallback : s.callbackOf event.target = some timer) :
      TimerStep s (.invoked timer) (s.fire ev event)
  | returned {s : Context} {timer : Timer} (hrunning : s.running = some (.callback timer)) :
      TimerStep s (.returned timer) { s with running := none }
  | released {s : Context} {cbParams : Address} {record : TimerCBParams}
      (hrunning : s.running = some (.timerCallBack cbParams)) (hrecord : s.records cbParams = some record) :
      TimerStep s (.released record.callback) (s.release cbParams record)

/-! ### What the functions are there for -/

/-- What a timer is for its user. -/
inductive Status where
  | unused
  /-- Periodic, and fires until it is deleted. -/
  | periodic
  | cancelled
  /-- One-shot, and has not fired. -/
  | waiting
  /-- One-shot, and deleted before it fired. -/
  | revoked
  /-- One-shot, and its callback runs. -/
  | fired
  | finished
  deriving DecidableEq

/-- What a deletion makes of a timer. -/
def Status.deleted : Status → Status
  | .periodic => .cancelled
  | .waiting => .revoked
  | status => status

/-- The timers as they are meant: by their statuses. -/
inductive ServiceStep : (Timer → Status) → TimerLabel → (Timer → Status) → Prop where
  | timerCreate {status : Timer → Status} {timer : Timer} (h : status timer = .unused) :
      ServiceStep status (.timerCreate timer) (Function.update status timer .periodic)
  | timerSingleCreate {status : Timer → Status} {timer : Timer} (h : status timer = .unused) :
      ServiceStep status (.timerSingleCreate timer) (Function.update status timer .waiting)
  | failed {status : Timer → Status} : ServiceStep status .failed status
  | timerDelete {status : Timer → Status} {timer : Timer} (h : status timer ≠ .unused) :
      ServiceStep status (.timerDelete timer) (Function.update status timer (status timer).deleted)
  | deleteNull {status : Timer → Status} : ServiceStep status .deleteNull status
  | periodic {status : Timer → Status} {timer : Timer} (h : status timer = .periodic) :
      ServiceStep status (.invoked timer) status
  | once {status : Timer → Status} {timer : Timer} (h : status timer = .waiting) :
      ServiceStep status (.invoked timer) (Function.update status timer .fired)
  | returned {status : Timer → Status} {timer : Timer} : ServiceStep status (.returned timer) status
  | released {status : Timer → Status} {timer : Timer} (h : status timer = .fired) :
      ServiceStep status (.released timer) (Function.update status timer .finished)

/-- The callback will not be called again. -/
def Status.Quiet (status : Status) : Prop :=
  status = .cancelled ∨ status = .revoked ∨ status = .fired ∨ status = .finished

theorem Status.quiet_deleted {status : Status} (h : status ≠ .unused) : status.deleted.Quiet := by
  cases status <;> simp [Status.deleted, Status.Quiet] at h ⊢

section Service

variable {status status' : Timer → Status} {label : TimerLabel} {labels : List TimerLabel} {timer : Timer}

/-- **What is quiet stays quiet.** -/
theorem quiet_step (hstep : ServiceStep status label status') (hquiet : (status timer).Quiet) :
    (status' timer).Quiet ∧ label ≠ .invoked timer := by
  have hother : ∀ {t : Timer} {new : Status}, (t = timer → new.Quiet) →
      (Function.update status t new timer).Quiet := by
    intro t new hnew
    by_cases heq : t = timer
    · rw [heq, Function.update_self]
      exact hnew heq
    · rw [Function.update_of_ne (Ne.symm heq)]
      exact hquiet
  cases hstep with
  | timerCreate h =>
    refine ⟨hother fun heq => ?_, by simp⟩
    rw [← heq, h] at hquiet
    simp [Status.Quiet] at hquiet
  | timerSingleCreate h =>
    refine ⟨hother fun heq => ?_, by simp⟩
    rw [← heq, h] at hquiet
    simp [Status.Quiet] at hquiet
  | failed => exact ⟨hquiet, by simp⟩
  | timerDelete h => exact ⟨hother fun _ => Status.quiet_deleted h, by simp⟩
  | deleteNull => exact ⟨hquiet, by simp⟩
  | periodic h =>
    refine ⟨hquiet, fun heq => ?_⟩
    cases heq
    simp [Status.Quiet, h] at hquiet
  | once h =>
    refine ⟨hother fun _ => by simp [Status.Quiet], fun heq => ?_⟩
    cases heq
    simp [Status.Quiet, h] at hquiet
  | returned => exact ⟨hquiet, by simp⟩
  | released h => exact ⟨hother fun _ => by simp [Status.Quiet], by simp⟩

theorem quiet_run (hrun : Run.Steps ServiceStep status labels status') (hquiet : (status timer).Quiet) :
    .invoked timer ∉ labels := by
  have hne := hrun.forall_events (fun status => (status timer).Quiet) (fun label => label ≠ .invoked timer)
    (fun h hstep => (quiet_step hstep h).symm) hquiet
  exact fun hmem => hne _ hmem rfl

/-- **A deleted timer does not fire.** -/
theorem silent_of_run {before after : List TimerLabel}
    (hrun : Run.Steps ServiceStep status (before ++ .timerDelete timer :: after) status') :
    .invoked timer ∉ after := by
  obtain ⟨a, b, -, hstep, hafter⟩ := hrun.split
  cases hstep with
  | timerDelete h =>
    refine quiet_run hafter ?_
    rw [Function.update_self]
    exact Status.quiet_deleted h

/-- What has happened to a one-shot timer of the status. -/
def Account (labels : List TimerLabel) (timer : Timer) : Status → Prop
  | .unused => .timerSingleCreate timer ∉ labels ∧ labels.count (.invoked timer) = 0
      ∧ labels.count (.released timer) = 0
  | .periodic | .cancelled => .timerSingleCreate timer ∉ labels
  | .waiting | .revoked => labels.count (.invoked timer) = 0 ∧ labels.count (.released timer) = 0
  | .fired => labels.count (.invoked timer) = 1 ∧ labels.count (.released timer) = 0
  | .finished => labels.count (.invoked timer) = 1 ∧ labels.count (.released timer) = 1

/-- A label that is none of those that count. -/
theorem Account.append {now : Status} (h : Account labels timer now)
    (hsingle : label ≠ .timerSingleCreate timer) (hinvoked : label ≠ .invoked timer)
    (hreleased : label ≠ .released timer) : Account (labels ++ [label]) timer now := by
  cases now <;> simpa [Account, hsingle.symm, hinvoked, hreleased] using h

theorem Account.deleted {now : Status} (h : Account labels timer now) (hused : now ≠ .unused) :
    Account labels timer now.deleted := by
  cases now with
  | unused => exact absurd rfl hused
  | _ => exact h

/-- What happens to another timer does not count. -/
theorem Account.other {t : Timer} {new : Status} (h : Account labels timer (status timer)) (hne : timer ≠ t)
    (hsingle : label ≠ .timerSingleCreate timer) (hinvoked : label ≠ .invoked timer)
    (hreleased : label ≠ .released timer) :
    Account (labels ++ [label]) timer (Function.update status t new timer) := by
  rw [Function.update_of_ne hne]
  exact h.append hsingle hinvoked hreleased

/-- The account of a one-shot timer that has not been deleted in time. -/
theorem Account.once {now : Status} (h : Account labels timer now) (hsingle : .timerSingleCreate timer ∈ labels)
    (hunrevoked : now ≠ .revoked) :
    labels.count (.invoked timer) ≤ 1
      ∧ ((now = .waiting ∨ now = .fired) ∧ labels.count (.released timer) = 0
        ∨ ¬ (now = .waiting ∨ now = .fired) ∧ labels.count (.released timer) = 1) := by
  cases now with
  | unused => exact absurd hsingle h.1
  | periodic => exact absurd hsingle h
  | cancelled => exact absurd hsingle h
  | waiting => exact ⟨by rw [h.1]; decide, Or.inl ⟨Or.inl rfl, h.2⟩⟩
  | revoked => exact absurd rfl hunrevoked
  | fired => exact ⟨Nat.le_of_eq h.1, Or.inl ⟨Or.inr rfl, h.2⟩⟩
  | finished => exact ⟨Nat.le_of_eq h.1, Or.inr ⟨by decide, h.2⟩⟩

/-- **The step lemma.** -/
theorem Account.step (hstep : ServiceStep status label status') (h : Account labels timer (status timer)) :
    Account (labels ++ [label]) timer (status' timer) := by
  cases hstep with
  | @timerCreate t hunused =>
    by_cases heq : timer = t
    · subst heq
      rw [hunused] at h
      rw [Function.update_self]
      simpa [Account] using h.1
    · exact h.other heq (by simp) (by simp) (by simp)
  | @timerSingleCreate t hunused =>
    by_cases heq : timer = t
    · subst heq
      rw [hunused] at h
      rw [Function.update_self]
      simpa [Account] using h.2
    · exact h.other heq (by simpa using Ne.symm heq) (by simp) (by simp)
  | failed => exact h.append (by simp) (by simp) (by simp)
  | @timerDelete t hused =>
    by_cases heq : timer = t
    · subst heq
      rw [Function.update_self]
      exact (h.deleted hused).append (by simp) (by simp) (by simp)
    · exact h.other heq (by simp) (by simp) (by simp)
  | deleteNull => exact h.append (by simp) (by simp) (by simp)
  | @periodic t hperiodic =>
    by_cases heq : timer = t
    · subst heq
      rw [hperiodic] at h ⊢
      simpa [Account] using h
    · exact h.append (by simp) (by simpa using Ne.symm heq) (by simp)
  | @once t hwaiting =>
    by_cases heq : timer = t
    · subst heq
      rw [hwaiting] at h
      rw [Function.update_self]
      simpa [Account] using h
    · exact h.other heq (by simp) (by simpa using Ne.symm heq) (by simp)
  | returned => exact h.append (by simp) (by simp) (by simp)
  | @released t hfired =>
    by_cases heq : timer = t
    · subst heq
      rw [hfired] at h
      rw [Function.update_self]
      simpa [Account] using h
    · exact h.other heq (by simp) (by simp) (by simpa using Ne.symm heq)

/-- **The run lemma.** -/
theorem account_of_run (hrun : Run.Steps ServiceStep (fun _ => .unused) labels status) :
    Account labels timer (status timer) :=
  hrun.history (fun labels status => Account labels timer (status timer))
    (fun _ h hstep => h.step hstep)
    (show Account [] timer .unused from ⟨List.not_mem_nil, rfl, rfl⟩)

end Service

/-! ### How the code represents the statuses -/

/-- The event at `a` is the one of a timer with the status. -/
inductive EventOf (s : Context) (timer : Timer) (a : Address) : Status → Prop where
  | periodic (hevent : s.heap a = some { persist := true, target := .callback timer, pending := true }) :
      EventOf s timer a .periodic
  | waiting {cbParams : Address}
      (hevent : s.heap a = some { persist := false, target := .timerCallBack cbParams, pending := true })
      (hrecord : s.records cbParams = some { callback := timer, event := a }) : EventOf s timer a .waiting
  | fired {cbParams : Address}
      (hevent : s.heap a = some { persist := false, target := .timerCallBack cbParams, pending := false })
      (hrecord : s.records cbParams = some { callback := timer, event := a })
      (hrunning : s.running = some (.timerCallBack cbParams)) : EventOf s timer a .fired

/-- The timer has an event. -/
def Status.HasEvent (status : Status) : Prop := status = .periodic ∨ status = .waiting ∨ status = .fired

/-- The events, the records and the registry stand for the statuses. -/
structure Represents (s : Context) (status : Timer → Status) : Prop where
  unused : ∀ timer, status timer = .unused ↔ s.handles.length ≤ timer
  event : ∀ timer, (status timer).HasEvent → ∃ a, s.handles[timer]? = some a ∧ EventOf s timer a (status timer)
  owned : ∀ a event, s.heap a = some event →
    ∃ timer, s.handles[timer]? = some a ∧ EventOf s timer a (status timer)
  record : ∀ cbParams record, s.records cbParams = some record → ∃ pending, s.heap record.event
    = some { persist := false, target := .timerCallBack cbParams, pending := pending }
  nodup : s.events.Nodup
  registered : ∀ a, a ∈ s.events ↔ ∃ event, s.heap a = some event ∧ event.persist = true
  running : ∀ cbParams, s.running = some (.timerCallBack cbParams) → ∃ timer a, status timer = .fired
    ∧ s.records cbParams = some { callback := timer, event := a }
  unrevoked : ∀ timer, status timer ≠ .revoked

theorem represents_init : Represents Context.init fun _ => .unused where
  unused := fun timer => iff_of_true rfl (Nat.zero_le timer)
  event := fun timer h => by simp [Status.HasEvent] at h
  owned := fun a event h => by cases h
  record := fun cbParams record h => by cases h
  nodup := List.nodup_nil
  registered := fun a => by simp [Context.init]
  running := fun cbParams h => by cases h
  unrevoked := fun timer => by simp

section Steps

variable {s s' : Context} {status : Timer → Status} {timer : Timer} {a ev : Address} {now : Status}

theorem EventOf.heap_ne_none (h : EventOf s timer a now) : s.heap a ≠ none := by
  cases h with
  | periodic hevent => rw [hevent]; simp
  | waiting hevent hrecord => rw [hevent]; simp
  | fired hevent hrecord hrunning => rw [hevent]; simp

/-- **Frame.**  The event and its record stay as they are. -/
theorem EventOf.frame (h : EventOf s timer a now) (hheap : s'.heap a = s.heap a)
    (hrecords : ∀ cbParams, s.records cbParams = some { callback := timer, event := a } →
      s'.records cbParams = s.records cbParams)
    (hrunning : now = .fired → s'.running = s.running) : EventOf s' timer a now := by
  cases h with
  | periodic hevent => exact .periodic (hheap.trans hevent)
  | waiting hevent hrecord => exact .waiting (hheap.trans hevent) ((hrecords _ hrecord).trans hrecord)
  | fired hevent hrecord hrun =>
    exact .fired (hheap.trans hevent) ((hrecords _ hrecord).trans hrecord) ((hrunning rfl).trans hrun)

theorem EventOf.owner (h : EventOf s timer a now) : s.owner a = some timer := by
  cases h with
  | periodic hevent => rw [Context.owner, hevent]; rfl
  | waiting hevent hrecord =>
    rw [Context.owner, hevent]
    show (s.records _).map TimerCBParams.callback = some timer
    rw [hrecord]
    rfl
  | fired hevent hrecord hrunning =>
    rw [Context.owner, hevent]
    show (s.records _).map TimerCBParams.callback = some timer
    rw [hrecord]
    rfl

/-- An event belongs to one timer. -/
theorem EventOf.unique {timer' : Timer} {now' : Status} (h : EventOf s timer a now) (h' : EventOf s timer' a now') :
    timer = timer' :=
  Option.some.inj (h.owner.symm.trans h'.owner)

theorem lt_of_handle (h : s.handles[timer]? = some a) : timer < s.handles.length := by
  rw [List.getElem?_eq_some_iff] at h
  exact h.1

/-- The event of a timer is at its handle. -/
theorem Represents.eventOf (hrep : Represents s status) (hhandle : s.handles[timer]? = some a)
    (hevent : (status timer).HasEvent) : EventOf s timer a (status timer) := by
  obtain ⟨a', ha', hof⟩ := hrep.event timer hevent
  rw [hhandle] at ha'
  cases ha'
  exact hof

/-- A timer gets a new status, and the others keep theirs with their events. -/
structure Replaces (s : Context) (status : Timer → Status) (timer : Timer) (a : Address) (new : Status)
    (s' : Context) : Prop where
  own : ∀ b, s.handles[timer]? = some b → b = a
  handle : s'.handles[timer]? = some a
  handles : ∀ t, t ≠ timer → s'.handles[t]? = s.handles[t]?
  heap : ∀ b, b ≠ a → s'.heap b = s.heap b
  kept : ∀ t b, t ≠ timer → EventOf s t b (status t) → EventOf s' t b (status t)
  used : new ≠ .unused ∧ new ≠ .revoked
  eventOf : EventOf s' timer a new ∨ s'.heap a = none ∧ ¬ new.HasEvent

/-- **One timer changes.**  What is left to show is about the records and the registry. -/
theorem Represents.replace {new : Status} (hrep : Represents s status) (h : Replaces s status timer a new s')
    (hrecord : ∀ cbParams record, s'.records cbParams = some record → ∃ pending, s'.heap record.event
      = some { persist := false, target := .timerCallBack cbParams, pending := pending })
    (hnodup : s'.events.Nodup)
    (hregistered : ∀ b, b ∈ s'.events ↔ ∃ event, s'.heap b = some event ∧ event.persist = true)
    (hrunning : ∀ cbParams, s'.running = some (.timerCallBack cbParams) →
      ∃ t b, Function.update status timer new t = .fired
        ∧ s'.records cbParams = some { callback := t, event := b }) :
    Represents s' (Function.update status timer new) := by
  have hstatus : ∀ {t : Timer}, t ≠ timer → Function.update status timer new t = status t := fun hne =>
    Function.update_of_ne hne _ _
  refine ⟨fun t => ?_, fun t hevent => ?_, fun b found hfound => ?_, hrecord, hnodup, hregistered, hrunning,
    fun t => ?_⟩
  · by_cases heq : t = timer
    · rw [heq, Function.update_self]
      exact iff_of_false h.used.1 (Nat.not_le_of_lt (lt_of_handle h.handle))
    · rw [hstatus heq, hrep.unused, ← List.getElem?_eq_none_iff, ← List.getElem?_eq_none_iff, h.handles t heq]
  · by_cases heq : t = timer
    · subst heq
      rw [Function.update_self] at hevent ⊢
      exact ⟨a, h.handle, h.eventOf.resolve_right fun hgone => hgone.2 hevent⟩
    · rw [hstatus heq] at hevent ⊢
      obtain ⟨b, hb, hown⟩ := hrep.event t hevent
      exact ⟨b, by rw [h.handles t heq, hb], h.kept t b heq hown⟩
  · by_cases heq : b = a
    · subst heq
      refine ⟨timer, h.handle, ?_⟩
      rw [Function.update_self]
      refine h.eventOf.resolve_right fun hgone => ?_
      rw [hgone.1] at hfound
      cases hfound
    · obtain ⟨t, ht, hown⟩ := hrep.owned b found ((h.heap b heq).symm.trans hfound)
      have hne : t ≠ timer := by
        rintro rfl
        exact heq (h.own b ht)
      refine ⟨t, by rw [h.handles t hne, ht], ?_⟩
      rw [hstatus hne]
      exact h.kept t b hne hown
  · by_cases heq : t = timer
    · rw [heq, Function.update_self]
      exact h.used.2
    · rw [hstatus heq]
      exact hrep.unrevoked t

/-- What the two creations have in common. -/
structure Creates (s : Context) (ev : Address) (event : TimerEvent) (new : Status) (s' : Context) : Prop where
  free : s.Free ev
  used : new = .periodic ∨ new = .waiting
  handles : s'.handles = s.handles ++ [ev]
  heap : s'.heap = Function.update s.heap ev (some event)
  events : s'.events = if event.persist then s.events ++ [ev] else s.events
  running : s'.running = s.running
  kept : ∀ cbParams record, s.records cbParams = some record → s'.records cbParams = some record
  record : ∀ cbParams record, s'.records cbParams = some record → s.records cbParams = some record
    ∨ record.event = ev ∧ event = { persist := false, target := .timerCallBack cbParams, pending := true }
  eventOf : EventOf s' s.handles.length ev new

theorem creates_timerCreate (hfree : s.Free ev) :
    Creates s ev { persist := true, target := .callback s.handles.length, pending := true } .periodic
      (s.timerCreate ev) where
  free := hfree
  used := Or.inl rfl
  handles := rfl
  heap := rfl
  events := rfl
  running := rfl
  kept := fun _ _ h => h
  record := fun _ _ h => Or.inl h
  eventOf := .periodic (Function.update_self _ _ _)

theorem creates_timerSingleCreate {cbParams : Address} (hfree : s.Free cbParams) (hfree' : s.Free ev) :
    Creates s ev { persist := false, target := .timerCallBack cbParams, pending := true } .waiting
      (s.timerSingleCreate cbParams ev) where
  free := hfree'
  used := Or.inr rfl
  handles := rfl
  heap := rfl
  events := rfl
  running := rfl
  kept := fun p record h => by
    have hne : p ≠ cbParams := by
      rintro rfl
      rw [hfree.2] at h
      cases h
    exact (Function.update_of_ne hne _ _).trans h
  record := fun p record h => by
    by_cases heq : p = cbParams
    · subst heq
      have hsame : some { callback := s.handles.length, event := ev } = some record :=
        (Function.update_self p _ s.records).symm.trans h
      cases hsame
      exact Or.inr ⟨rfl, rfl⟩
    · exact Or.inl ((Function.update_of_ne heq _ _).symm.trans h)
  eventOf := .waiting (Function.update_self _ _ _) (Function.update_self _ _ _)

/-- **A creation.**  The new timer has its event, and the others keep theirs. -/
theorem Represents.create {event : TimerEvent} {new : Status} (hrep : Represents s status)
    (h : Creates s ev event new s') : Represents s' (Function.update status s.handles.length new) := by
  have hne_of : ∀ {a : Address}, s.heap a ≠ none → a ≠ ev := by
    rintro a hsome rfl
    exact hsome h.free.1
  have hheap : ∀ a, a ≠ ev → s'.heap a = s.heap a := by
    intro a hne
    rw [h.heap, Function.update_of_ne hne]
  have hnew : s'.heap ev = some event := by
    rw [h.heap, Function.update_self]
  have hreplaces : Replaces s status s.handles.length ev new s' :=
    { own := fun b hb => absurd (lt_of_handle hb) (Nat.lt_irrefl _)
      handle := by rw [h.handles, List.getElem?_concat_length]
      handles := fun t hne => by
        rw [h.handles]
        rcases Nat.lt_or_gt_of_ne hne with hlt | hgt
        · exact List.getElem?_append_left hlt
        · rw [List.getElem?_eq_none (Nat.le_of_lt hgt), List.getElem?_eq_none]
          rw [List.length_append, List.length_singleton]
          exact hgt
      heap := hheap
      kept := fun t a _ hown => hown.frame (hheap a (hne_of hown.heap_ne_none))
        (fun _ hrecord => (h.kept _ _ hrecord).trans hrecord.symm) fun _ => h.running
      used := by rcases h.used with rfl | rfl <;> decide
      eventOf := Or.inl h.eventOf }
  refine hrep.replace hreplaces (fun cbParams record hrecord => ?_) ?_ (fun a => ?_) fun cbParams hrunning => ?_
  · rcases h.record cbParams record hrecord with hbefore | ⟨hown, hevent⟩
    · obtain ⟨pending, hfound⟩ := hrep.record cbParams record hbefore
      exact ⟨pending, (hheap _ (hne_of (by rw [hfound]; simp))).trans hfound⟩
    · exact ⟨true, by rw [hown, hnew, hevent]⟩
  · rw [h.events]
    split
    · refine List.nodup_append.mpr ⟨hrep.nodup, List.nodup_singleton _, ?_⟩
      rintro a hmem b hb rfl
      obtain ⟨found, hfound, -⟩ := (hrep.registered a).mp hmem
      exact hne_of (by rw [hfound]; simp) (List.mem_singleton.mp hb)
    · exact hrep.nodup
  · by_cases heq : a = ev
    · subst heq
      have hnot : a ∉ s.events := by
        intro hmem
        obtain ⟨found, hfound, -⟩ := (hrep.registered a).mp hmem
        rw [h.free.1] at hfound
        cases hfound
      rw [h.events, hnew]
      cases hpersist : event.persist <;> simp [hnot, hpersist]
    · rw [hheap a heq, ← hrep.registered, h.events]
      cases event.persist <;> simp [heq]
  · rw [h.running] at hrunning
    obtain ⟨timer, a, hfired, hrecord⟩ := hrep.running cbParams hrunning
    refine ⟨timer, a, ?_, h.kept _ _ hrecord⟩
    have hne : timer ≠ s.handles.length := by
      rintro rfl
      rw [(hrep.unused _).mpr (Nat.le_refl _)] at hfired
      cases hfired
    rw [Function.update_of_ne hne, hfired]

/-- Registered events are those of periodic timers. -/
theorem Represents.mem_events_iff (hrep : Represents s status) :
    a ∈ s.events ↔ ∃ timer, s.handles[timer]? = some a ∧ status timer = .periodic := by
  rw [hrep.registered]
  constructor
  · rintro ⟨event, hevent, hpersist⟩
    obtain ⟨timer, hhandle, hof⟩ := hrep.owned a event hevent
    refine ⟨timer, hhandle, ?_⟩
    generalize status timer = now at hof
    cases hof with
    | periodic hevent' => rfl
    | waiting hevent' hrecord => rw [hevent] at hevent'; cases hevent'; cases hpersist
    | fired hevent' hrecord hrunning => rw [hevent] at hevent'; cases hevent'; cases hpersist
  · rintro ⟨timer, hhandle, hperiodic⟩
    have hof := hrep.eventOf hhandle (Or.inl hperiodic)
    rw [hperiodic] at hof
    cases hof with
    | periodic hevent => exact ⟨_, hevent, rfl⟩

/-- A record belongs to a one-shot timer that has not finished. -/
theorem Represents.of_record (hrep : Represents s status) {cbParams : Address} {record : TimerCBParams}
    (h : s.records cbParams = some record) :
    s.handles[record.callback]? = some record.event
      ∧ (status record.callback = .waiting ∨ status record.callback = .fired) := by
  obtain ⟨pending, hevent⟩ := hrep.record cbParams record h
  obtain ⟨timer, hhandle, hof⟩ := hrep.owned record.event _ hevent
  have hshared : ∀ {p : Address} {pending' : Bool},
      s.heap record.event = some { persist := false, target := .timerCallBack p, pending := pending' } →
      s.records p = some { callback := timer, event := record.event } → timer = record.callback := by
    intro p pending' hevent' hrecord
    rw [hevent] at hevent'
    cases hevent'
    rw [h] at hrecord
    rw [Option.some.inj hrecord]
  generalize hnow : status timer = now at hof
  cases hof with
  | periodic hevent' => rw [hevent] at hevent'; cases hevent'
  | waiting hevent' hrecord =>
    obtain rfl := hshared hevent' hrecord
    exact ⟨hhandle, Or.inl hnow⟩
  | fired hevent' hrecord hrunning =>
    obtain rfl := hshared hevent' hrecord
    exact ⟨hhandle, Or.inr hnow⟩

/-- What the ways to free the event of a timer have in common. -/
structure Frees (s : Context) (timer : Timer) (a : Address) (new : Status) (s' : Context) : Prop where
  gone : new = .cancelled ∨ new = .finished
  handles : s'.handles = s.handles
  heap : s'.heap = Function.update s.heap a none
  events : s'.events = s.events.erase a
  records : ∀ cbParams record, s'.records cbParams = some record
    ↔ s.records cbParams = some record ∧ record.callback ≠ timer
  running : ∀ cbParams record, s.records cbParams = some record → record.callback ≠ timer →
    (s'.running = some (.timerCallBack cbParams) ↔ s.running = some (.timerCallBack cbParams))
  called : ∀ cbParams, s'.running = some (.timerCallBack cbParams) →
    s.running = some (.timerCallBack cbParams) ∧ ∀ record, s.records cbParams = some record →
      record.callback ≠ timer

/-- **The event of a timer is freed.**  The others keep theirs. -/
theorem Represents.free {new : Status} (hrep : Represents s status) (hof : EventOf s timer a (status timer))
    (hhandle : s.handles[timer]? = some a) (h : Frees s timer a new s') :
    Represents s' (Function.update status timer new) := by
  have hheap : ∀ b, b ≠ a → s'.heap b = s.heap b := by
    intro b hne
    rw [h.heap, Function.update_of_ne hne]
  have hold : ∀ t b, t ≠ timer → EventOf s t b (status t) → EventOf s' t b (status t) := by
    intro t b hne hown
    have hb : b ≠ a := by
      rintro rfl
      exact hne (hown.unique hof)
    have hkept : ∀ {p : Address}, s.records p = some { callback := t, event := b } →
        s'.records p = some { callback := t, event := b } := fun hrecord => (h.records _ _).mpr ⟨hrecord, hne⟩
    generalize status t = now at hown
    cases hown with
    | periodic hevent => exact .periodic ((hheap b hb).trans hevent)
    | waiting hevent hrecord => exact .waiting ((hheap b hb).trans hevent) (hkept hrecord)
    | fired hevent hrecord hrunning =>
      exact .fired ((hheap b hb).trans hevent) (hkept hrecord) ((h.running _ _ hrecord hne).mpr hrunning)
  have hgone : s'.heap a = none := by
    rw [h.heap, Function.update_self]
  have hreplaces : Replaces s status timer a new s' :=
    { own := fun b hb => (Option.some.inj (hhandle.symm.trans hb)).symm
      handle := by rw [h.handles, hhandle]
      handles := fun t _ => by rw [h.handles]
      heap := hheap
      kept := hold
      used := by rcases h.gone with rfl | rfl <;> decide
      eventOf := Or.inr ⟨hgone, by rcases h.gone with rfl | rfl <;> simp [Status.HasEvent]⟩ }
  refine hrep.replace hreplaces (fun cbParams record hrecord => ?_) ?_ (fun b => ?_) fun cbParams hrunning => ?_
  · obtain ⟨hbefore, hne⟩ := (h.records cbParams record).mp hrecord
    obtain ⟨pending, hevent⟩ := hrep.record cbParams record hbefore
    refine ⟨pending, (hheap _ ?_).trans hevent⟩
    intro heq
    obtain ⟨hown, hstate⟩ := hrep.of_record hbefore
    rw [heq] at hown
    exact hne ((hrep.eventOf hown (Or.inr hstate)).unique hof)
  · rw [h.events]
    exact hrep.nodup.erase a
  · rw [h.events, hrep.nodup.mem_erase_iff, hrep.registered, h.heap]
    by_cases heq : b = a
    · simp [heq]
    · simp [heq]
  · obtain ⟨hbefore, hne⟩ := h.called cbParams hrunning
    obtain ⟨t, b, hfired, hrecord⟩ := hrep.running cbParams hbefore
    have hother : t ≠ timer := hne _ hrecord
    exact ⟨t, b, by rw [Function.update_of_ne hother, hfired], (h.records _ _).mpr ⟨hrecord, hother⟩⟩

/-- A deletion from the registry. -/
theorem Represents.frees_timerDelete (hrep : Represents s status) (hhandle : s.handles[timer]? = some a)
    (hperiodic : status timer = .periodic) : Frees s timer a .cancelled (s.timerDelete a) := by
  have hmem : a ∈ s.events := hrep.mem_events_iff.mpr ⟨timer, hhandle, hperiodic⟩
  have hother : ∀ cbParams record, s.records cbParams = some record → record.callback ≠ timer := by
    rintro cbParams record hrecord rfl
    rcases (hrep.of_record hrecord).2 with hstate | hstate <;> rw [hperiodic] at hstate <;> cases hstate
  rw [Context.timerDelete, Context.deleteRegisteredEvent, if_pos hmem]
  exact
    { gone := Or.inl rfl
      handles := rfl
      heap := rfl
      events := rfl
      records := fun p record => ⟨fun hrecord => ⟨hrecord, hother p record hrecord⟩, fun hrecord => hrecord.1⟩
      running := fun _ _ _ _ => Iff.rfl
      called := fun p hrunning => ⟨hrunning, hother p⟩ }

/-- The end of a one-shot timer. -/
theorem Represents.frees_release (hrep : Represents s status) {cbParams : Address} {record : TimerCBParams}
    (hrunning : s.running = some (.timerCallBack cbParams)) (hrecord : s.records cbParams = some record) :
    Frees s record.callback record.event .finished (s.release cbParams record) := by
  obtain ⟨hhandle, hstate⟩ := hrep.of_record hrecord
  have hnot : record.event ∉ s.events := by
    intro hmem
    obtain ⟨timer, hown, hperiodic⟩ := hrep.mem_events_iff.mp hmem
    have hsame : timer = record.callback :=
      (hrep.eventOf hown (Or.inl hperiodic)).unique (hrep.eventOf hhandle (Or.inr hstate))
    rw [hsame] at hperiodic
    rcases hstate with hstate | hstate <;> rw [hperiodic] at hstate <;> cases hstate
  have hunique : ∀ p found, s.records p = some found → found.callback = record.callback → p = cbParams := by
    intro p found hfound hsame
    have hevent := (hrep.of_record hfound).1
    rw [hsame, hhandle] at hevent
    obtain ⟨pending, hleft⟩ := hrep.record p found hfound
    obtain ⟨pending', hright⟩ := hrep.record cbParams record hrecord
    rw [← Option.some.inj hevent, hright] at hleft
    cases hleft
    rfl
  refine
    { gone := Or.inr rfl
      handles := rfl
      heap := rfl
      events := (List.erase_of_not_mem hnot).symm
      records := fun p found => ?_
      running := fun p found hfound hne => iff_of_false (fun h => by cases h) fun h => ?_
      called := fun p h => by cases h }
  · show Function.update s.records cbParams none p = some found ↔ _
    by_cases heq : p = cbParams
    · subst heq
      rw [Function.update_self]
      refine iff_of_false (fun h => by cases h) fun h => ?_
      rw [hrecord] at h
      cases h.1
      exact h.2 rfl
    · rw [Function.update_of_ne heq]
      exact ⟨fun h => ⟨h, fun hsame => heq (hunique p found h hsame)⟩, fun h => h.1⟩
  · rw [hrunning] at h
    cases h
    rw [hrecord] at hfound
    cases hfound
    exact hne rfl

/-- The callback of a one-shot timer runs only while its record says so. -/
theorem Represents.not_fired (hrep : Represents s status)
    (h : ∀ cbParams, s.running ≠ some (.timerCallBack cbParams)) (timer : Timer) : status timer ≠ .fired := by
  intro hfired
  obtain ⟨a, -, hof⟩ := hrep.event timer (Or.inr (Or.inr hfired))
  rw [hfired] at hof
  cases hof with
  | fired hevent hrecord hrunning => exact h _ hrunning

/-- A callback of a periodic timer begins or ends. -/
theorem Represents.call (hrep : Represents s status) (running : Option Target)
    (hbefore : ∀ cbParams, s.running ≠ some (.timerCallBack cbParams))
    (hafter : ∀ cbParams, running ≠ some (.timerCallBack cbParams)) :
    Represents { s with running := running } status := by
  have hold : ∀ {t : Timer} {b : Address}, EventOf s t b (status t) →
      EventOf { s with running := running } t b (status t) := fun hown =>
    hown.frame rfl (fun _ _ => rfl) fun hfired => absurd hfired (hrep.not_fired hbefore _)
  refine ⟨hrep.unused, fun t hevent => ?_, fun b found hfound => ?_, hrep.record, hrep.nodup, hrep.registered,
    fun cbParams hrunning => absurd hrunning (hafter cbParams), hrep.unrevoked⟩
  · obtain ⟨b, hb, hown⟩ := hrep.event t hevent
    exact ⟨b, hb, hold hown⟩
  · obtain ⟨t, ht, hown⟩ := hrep.owned b found hfound
    exact ⟨t, ht, hold hown⟩

/-- The event of a one-shot timer is invoked: it is no longer pending, and the callback runs. -/
theorem Represents.once {cbParams : Address} (hrep : Represents s status) (hidle : s.running = none)
    (hhandle : s.handles[timer]? = some ev)
    (hevent : s.heap ev = some { persist := false, target := .timerCallBack cbParams, pending := true })
    (hrecord : s.records cbParams = some { callback := timer, event := ev }) :
    Represents (s.fire ev { persist := false, target := .timerCallBack cbParams, pending := true })
      (Function.update status timer .fired) := by
  have hnotfired := hrep.not_fired (fun cbParams => by rw [hidle]; simp)
  have hof : EventOf s timer ev .waiting := .waiting hevent hrecord
  have hreplaces : Replaces s status timer ev .fired
      (s.fire ev { persist := false, target := .timerCallBack cbParams, pending := true }) :=
    { own := fun b hb => (Option.some.inj (hhandle.symm.trans hb)).symm
      handle := hhandle
      handles := fun _ _ => rfl
      heap := fun b hne => Function.update_of_ne hne _ _
      kept := fun t b hne hown => by
        have hb : b ≠ ev := by
          rintro rfl
          exact hne (hown.unique hof)
        exact hown.frame (Function.update_of_ne hb _ _) (fun _ _ => rfl) fun hfired =>
          absurd hfired (hnotfired t)
      used := by decide
      eventOf := Or.inl (.fired (Function.update_self _ _ _) hrecord rfl) }
  refine hrep.replace hreplaces (fun p record hp => ?_) hrep.nodup (fun b => ?_) fun p hrunning => ?_
  · obtain ⟨pending, hfound⟩ := hrep.record p record hp
    by_cases heq : record.event = ev
    · rw [heq, hevent] at hfound
      cases hfound
      exact ⟨false, by rw [heq]; exact Function.update_self _ _ _⟩
    · exact ⟨pending, (Function.update_of_ne heq _ _).trans hfound⟩
  · show b ∈ s.events ↔ ∃ event, Function.update s.heap ev _ b = some event ∧ event.persist = true
    rw [hrep.registered]
    by_cases heq : b = ev
    · subst heq
      rw [hevent, Function.update_self]
      simp
    · rw [Function.update_of_ne heq]
  · cases hrunning
    exact ⟨timer, ev, Function.update_self _ _ _, hrecord⟩

/-! ### One step -/

/-- A deletion of a one-shot timer that waits, or of a timer that is gone while another one is registered under
its address, does not do what it is there for. -/
def Clean (s : Context) : TimerLabel → Prop
  | .timerDelete timer => ∀ handle, s.handles[timer]? = some handle →
      (s.owner handle = some timer → handle ∈ s.events
        ∨ ∃ event, s.heap handle = some event ∧ event.pending = false)
      ∧ (handle ∈ s.events → s.owner handle = some timer)
  | _ => True

/-- A clean deletion. -/
theorem Represents.timerDelete (hrep : Represents s status) (hhandle : s.handles[timer]? = some a)
    (hclean : Clean s (.timerDelete timer)) :
    Represents (s.timerDelete a) (Function.update status timer (status timer).deleted) := by
  obtain ⟨hwaits, howner⟩ := hclean a hhandle
  by_cases hperiodic : status timer = .periodic
  · have hof := hrep.eventOf hhandle (Or.inl hperiodic)
    have hfrees := hrep.frees_timerDelete hhandle hperiodic
    rw [hperiodic]
    exact hrep.free hof hhandle hfrees
  · -- the registry has nothing under the address
    have hnot : a ∉ s.events := by
      intro hmem
      obtain ⟨t, ht, hregistered⟩ := hrep.mem_events_iff.mp hmem
      have hof := (hrep.eventOf ht (Or.inl hregistered)).owner
      rw [howner hmem] at hof
      rw [← Option.some.inj hof] at hregistered
      exact hperiodic hregistered
    have hkept : (status timer).deleted = status timer := by
      by_cases hwaiting : status timer = .waiting
      · have hof := hrep.eventOf hhandle (Or.inr (Or.inl hwaiting))
        rcases hwaits hof.owner with hmem | ⟨event, hevent, hpending⟩
        · exact absurd hmem hnot
        · rw [hwaiting] at hof
          cases hof with
          | waiting hevent' hrecord =>
            rw [hevent] at hevent'
            cases hevent'
            cases hpending
      · generalize status timer = now at hperiodic hwaiting
        cases now <;> first | rfl | contradiction
    rw [hkept, Function.update_eq_self, Context.timerDelete, Context.deleteRegisteredEvent, if_neg hnot]
    exact hrep

/-- The event that is invoked is the one of the timer. -/
theorem Represents.invoked {event : TimerEvent} (hrep : Represents s status) (hidle : s.running = none)
    (hevent : s.heap ev = some event) (hpending : event.pending = true)
    (hcallback : s.callbackOf event.target = some timer) :
    ∃ status', ServiceStep status (.invoked timer) status' ∧ Represents (s.fire ev event) status' := by
  obtain ⟨t, hhandle, hof⟩ := hrep.owned ev event hevent
  have hsame : t = timer := by
    have howner := hof.owner
    rw [Context.owner, hevent, Option.bind_some, hcallback] at howner
    exact (Option.some.inj howner).symm
  subst hsame
  generalize hnow : status t = now at hof
  cases hof with
  | periodic hevent' =>
    rw [hevent] at hevent'
    cases hevent'
    refine ⟨status, .periodic hnow, ?_⟩
    have hheap : Function.update s.heap ev
        (some { persist := true, target := .callback t, pending := true }) = s.heap := by
      rw [← hevent, Function.update_eq_self]
    have hcalled := hrep.call (some (.callback t)) (fun cbParams => by rw [hidle]; simp) (by simp)
    show Represents { s with
      heap := Function.update s.heap ev (some { persist := true, target := .callback t, pending := true })
      running := some (.callback t) } status
    rw [hheap]
    exact hcalled
  | waiting hevent' hrecord =>
    rw [hevent] at hevent'
    cases hevent'
    exact ⟨_, .once hnow, hrep.once hidle hhandle hevent hrecord⟩
  | fired hevent' hrecord hrunning =>
    rw [hidle] at hrunning
    cases hrunning

/-- **The step lemma.**  A clean step does what it is there for. -/
theorem Represents.step {label : TimerLabel} (hrep : Represents s status) (hstep : TimerStep s label s')
    (hclean : Clean s label) : ∃ status', ServiceStep status label status' ∧ Represents s' status' := by
  have hfresh : status s.handles.length = .unused := (hrep.unused _).mpr (Nat.le_refl _)
  cases hstep with
  | timerCreate hfree => exact ⟨_, .timerCreate hfresh, hrep.create (creates_timerCreate hfree)⟩
  | timerSingleCreate hfree hfree' hne =>
    exact ⟨_, .timerSingleCreate hfresh, hrep.create (creates_timerSingleCreate hfree hfree')⟩
  | failed => exact ⟨status, .failed, hrep⟩
  | @timerDelete timer handle hhandle =>
    have hused : status timer ≠ .unused := by
      rw [ne_eq, hrep.unused]
      exact Nat.not_le_of_lt (lt_of_handle hhandle)
    exact ⟨_, .timerDelete hused, hrep.timerDelete hhandle hclean⟩
  | deleteNull => exact ⟨status, .deleteNull, hrep⟩
  | invoked hidle hevent hpending hcallback => exact hrep.invoked hidle hevent hpending hcallback
  | returned hrunning =>
    exact ⟨status, .returned, hrep.call none (fun cbParams => by rw [hrunning]; simp) (by simp)⟩
  | @released cbParams record hrunning hrecord =>
    obtain ⟨timer, a, hfired, hfound⟩ := hrep.running cbParams hrunning
    rw [hrecord] at hfound
    cases hfound
    obtain ⟨hhandle, hstate⟩ := hrep.of_record hrecord
    exact ⟨_, .released hfired,
      hrep.free (hrep.eventOf hhandle (Or.inr hstate)) hhandle (hrep.frees_release hrunning hrecord)⟩

end Steps

/-! ### Whole runs -/

/-- One step with the states around it. -/
abbrev TimerEntry := Context × TimerLabel × Context

/-- What has happened. -/
def labels (trace : List TimerEntry) : List TimerLabel := trace.map fun entry => entry.2.1

/-- The record of a one-shot timer has not been released. -/
def HasRecord (s : Context) (timer : Timer) : Prop :=
  ∃ cbParams record, s.records cbParams = some record ∧ record.callback = timer

/-- What a user of the timers relies on. -/
structure TimersSound (trace : List TimerEntry) (s : Context) : Prop where
  /-- A timer that has been deleted, a one-shot timer before it fired, is not invoked again. -/
  silent : ∀ before timer after, labels trace = before ++ .timerDelete timer :: after →
    (.timerSingleCreate timer ∈ before → .invoked timer ∉ before) → .invoked timer ∉ after
  /-- The events of the other timers stay as they are. -/
  separate : ∀ entry ∈ trace, ∀ timer other a, entry.2.1 = .timerDelete timer → other ≠ timer →
    entry.1.owner a = some other → entry.2.2.owner a = some other ∧ entry.2.2.heap a = entry.1.heap a
      ∧ (a ∈ entry.2.2.events ↔ a ∈ entry.1.events)
  once : ∀ timer, .timerSingleCreate timer ∈ labels trace → (labels trace).count (.invoked timer) ≤ 1
  released : ∀ timer, .timerSingleCreate timer ∈ labels trace →
    HasRecord s timer ∧ (labels trace).count (.released timer) = 0
      ∨ ¬ HasRecord s timer ∧ (labels trace).count (.released timer) = 1

section Runs

variable {trace : List TimerEntry} {s s' : Context} {status : Timer → Status}

/-- **The run lemma.**  A clean run is one of the timers as they are meant. -/
theorem Represents.run (hrun : Run.Steps (Run.Traced TimerStep) s trace s') (hrep : Represents s status)
    (hclean : ∀ entry ∈ trace, Clean entry.1 entry.2.1) :
    ∃ status', Run.Steps ServiceStep status (labels trace) status' ∧ Represents s' status' :=
  hrun.simulates (fun hrep hclean hstep => hrep.step hstep hclean) hrep hclean

/-- Waiting timers and running ones have their record. -/
theorem Represents.hasRecord_iff (hrep : Represents s status) (timer : Timer) :
    HasRecord s timer ↔ status timer = .waiting ∨ status timer = .fired := by
  constructor
  · rintro ⟨cbParams, record, hrecord, rfl⟩
    exact (hrep.of_record hrecord).2
  · intro h
    obtain ⟨a, -, hof⟩ := hrep.event timer (Or.inr h)
    generalize status timer = now at h hof
    cases hof with
    | periodic hevent => rcases h with h | h <;> cases h
    | waiting hevent hrecord => exact ⟨_, _, hrecord, rfl⟩
    | fired hevent hrecord hrunning => exact ⟨_, _, hrecord, rfl⟩

/-- A clean deletion leaves the other timers alone. -/
theorem separate_of_clean {timer other : Timer} {a : Address}
    (hstep : TimerStep s (.timerDelete timer) s') (hclean : Clean s (.timerDelete timer)) (hne : other ≠ timer)
    (howner : s.owner a = some other) :
    s'.owner a = some other ∧ s'.heap a = s.heap a ∧ (a ∈ s'.events ↔ a ∈ s.events) := by
  cases hstep with
  | @timerDelete _ handle hhandle =>
    rw [Context.timerDelete, Context.deleteRegisteredEvent]
    by_cases hmem : handle ∈ s.events
    · have ha : a ≠ handle := by
        rintro rfl
        rw [(hclean a hhandle).2 hmem] at howner
        exact hne (Option.some.inj howner).symm
      have hheap : Function.update s.heap handle none a = s.heap a := Function.update_of_ne ha _ _
      rw [if_pos hmem]
      refine ⟨?_, hheap, List.mem_erase_of_ne ha⟩
      rw [← howner, Context.owner, Context.owner]
      exact congrArg (fun event => event.bind fun event => s.callbackOf event.target) hheap
    · rw [if_neg hmem]
      exact ⟨howner, rfl, Iff.rfl⟩

/-- **Timers are sound in clean runs.**  In every state that is reached without a deletion of a waiting one-shot
timer, or of a timer that is gone while another one is registered under its address. -/
theorem timersSound_of_clean (hrun : Run.Steps (Run.Traced TimerStep) Context.init trace s)
    (hclean : ∀ entry ∈ trace, Clean entry.1 entry.2.1) : TimersSound trace s := by
  obtain ⟨status, hservice, hrep⟩ := represents_init.run hrun hclean
  have hone : ∀ timer, .timerSingleCreate timer ∈ labels trace →
      (labels trace).count (.invoked timer) ≤ 1
        ∧ ((status timer = .waiting ∨ status timer = .fired) ∧ (labels trace).count (.released timer) = 0
          ∨ ¬ (status timer = .waiting ∨ status timer = .fired)
            ∧ (labels trace).count (.released timer) = 1) := fun timer hsingle =>
    (account_of_run hservice).once hsingle (hrep.unrevoked timer)
  refine ⟨fun before timer after hsplit _ => ?_, fun entry hentry timer other a hlabel hne howner => ?_,
    fun timer hsingle => ?_, fun timer hsingle => ?_⟩
  · rw [hsplit] at hservice
    exact silent_of_run hservice
  · have hstep := (hrun.forall_clean (I := fun _ => True) (fun _ _ _ => trivial) trivial hclean entry hentry).2.1
    rw [hlabel] at hstep
    have hlocal := hclean entry hentry
    rw [hlabel] at hlocal
    exact separate_of_clean hstep hlocal hne howner
  · exact (hone timer hsingle).1
  · rw [hrep.hasRecord_iff]
    exact (hone timer hsingle).2

/-- A periodic timer fires and deletes itself in its callback, and a one-shot timer fires under its address. -/
theorem timersSound_reused : ∃ trace s, labels trace = [.timerCreate 0, .invoked 0, .timerDelete 0, .returned 0,
      .timerSingleCreate 1, .invoked 1, .timerDelete 1, .released 1] ∧ TimersSound trace s := by
  have hrun : Run.Steps (Run.Traced TimerStep) Context.init
      [(_, .timerCreate 0, _), (_, .invoked 0, _), (_, .timerDelete 0, _), (_, .returned 0, _),
        (_, .timerSingleCreate 1, _), (_, .invoked 1, _), (_, .timerDelete 1, _), (_, .released 1, _)] _ :=
    .cons ⟨rfl, rfl, @TimerStep.timerCreate _ 8 ⟨rfl, rfl⟩⟩ <|
      .cons ⟨rfl, rfl, @TimerStep.invoked _ 8 _ _ rfl rfl rfl rfl⟩ <|
      .cons ⟨rfl, rfl, .timerDelete rfl⟩ <| .cons ⟨rfl, rfl, .returned rfl⟩ <|
      .cons ⟨rfl, rfl, @TimerStep.timerSingleCreate _ 16 8 ⟨rfl, rfl⟩ ⟨rfl, rfl⟩ (by decide)⟩ <|
      .cons ⟨rfl, rfl, @TimerStep.invoked _ 8 _ _ rfl rfl rfl rfl⟩ <|
      .cons ⟨rfl, rfl, .timerDelete rfl⟩ <|
      .cons ⟨rfl, rfl, @TimerStep.released _ 16 { callback := 1, event := 8 } rfl rfl⟩ <| .nil _
  refine ⟨_, _, rfl, timersSound_of_clean hrun ?_⟩
  simp only [List.forall_mem_cons]
  refine ⟨trivial, trivial, fun handle hhandle => ?_, trivial, trivial, trivial, fun handle hhandle => ?_, trivial,
    fun entry hentry => absurd hentry List.not_mem_nil⟩
  · cases hhandle
    exact ⟨fun _ => Or.inl (by decide), fun _ => rfl⟩
  · cases hhandle
    exact ⟨fun _ => Or.inr ⟨_, rfl, rfl⟩, fun hmem => absurd hmem (by decide)⟩

/-- A one-shot timer fires after its deletion. -/
theorem fires_after_deletion : ¬ ∀ trace s, Run.Steps (Run.Traced TimerStep) Context.init trace s →
    TimersSound trace s := by
  intro hall
  have hrun : Run.Steps (Run.Traced TimerStep) Context.init
      [(_, .timerSingleCreate 0, _), (_, .timerDelete 0, _), (_, .invoked 0, _)] _ :=
    .cons ⟨rfl, rfl, @TimerStep.timerSingleCreate _ 16 8 ⟨rfl, rfl⟩ ⟨rfl, rfl⟩ (by decide)⟩ <|
      .cons ⟨rfl, rfl, .timerDelete rfl⟩ <| .cons ⟨rfl, rfl, @TimerStep.invoked _ 8 _ _ rfl rfl rfl rfl⟩ <|
      .nil _
  have hsilent := (hall _ _ hrun).silent [.timerSingleCreate 0] 0 [.invoked 0] rfl (fun _ => by simp)
  exact hsilent List.mem_cons_self

end Runs

end OpenMadt.Process
