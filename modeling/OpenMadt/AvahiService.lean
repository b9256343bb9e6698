import OpenMadt.CString
import OpenMadt.Library.Run
import Std.Data.String.ToInt

/-!
# The DNS-SD announcement

`AvahiService.cpp`, as it is built with `MADT_USE_AVAHI`: the entry group that announces the server is
filled from three places, `setTxt`, the client callback and the group callback.

* `AvahiService` — the members that the announcement depends on, and the functions.
* `AvahiStep` — the calls and the callbacks, each as one step, with what Avahi answers in it.
* `nameAt` — the names that are tried one after the other; all are different.
* `announces_latest` — what the group holds in every state.

Of Avahi this assumes that a reset empties the group, that a failed add leaves it as it was and that
`is_empty` tells whether an entry was added.
-/

namespace OpenMadt

open CString (cstr)

/-- The argument of `setTxt`. -/
abbrev Txt := List (String × String)

/-- A service in an entry group.  Avahi takes C strings. -/
structure ServiceEntry where
  name : List Char
  type : List Char
  port : UInt16
  txt : List (List Char × List Char)
  deriving DecidableEq

/-- What the calls in `createOrUpdateService` return. -/
structure AvahiReturns where
  /-- `avahi_entry_group_new` is not null. -/
  group : Bool
  add : ℤ
  commit : ℤ

inductive AvahiClientState where
  | registering
  | running
  | collision
  | failure
  | connecting
  deriving DecidableEq

inductive AvahiEntryGroupState where
  | uncommited
  | registering
  | established
  | collision
  | failure
  deriving DecidableEq

/-- The members of `AvahiService`; the group is the list of its entries, and `none` is the null
pointer. -/
structure AvahiService where
  m_baseName : String
  m_currentName : String
  m_type : String
  m_port : UInt16
  m_txt : Txt
  m_running : Bool
  m_renameCount : ℤ
  m_group : Option (List ServiceEntry)
  deriving DecidableEq

namespace AvahiService

abbrev INT_MAX : ℤ := 2147483647

/-- The constructor. -/
def new (name type : String) (port : UInt16) : AvahiService where
  m_baseName := name
  m_currentName := name
  m_type := type
  m_port := port
  m_txt := []
  m_running := false
  m_renameCount := 0
  m_group := none

/-- The list that `createOrUpdateService` makes of `m_txt`. -/
def txtList (txt : Txt) : List (List Char × List Char) := txt.map fun kv => (cstr kv.1, cstr kv.2)

/-- The entry that `createOrUpdateService` adds. -/
def entry (s : AvahiService) : ServiceEntry where
  name := cstr s.m_currentName
  type := cstr s.m_type
  port := s.m_port
  txt := txtList s.m_txt

/-- The part of `createOrUpdateService` that works on an existing group. -/
def addService (returns : AvahiReturns) (entries : List ServiceEntry) (s : AvahiService) :
    AvahiService :=
  if entries ≠ [] then s
  else if returns.add < 0 then s
  -- a failed commit is only logged
  else { s with m_group := some (entries ++ [s.entry]) }

/-- `AvahiService::createOrUpdateService`. -/
def createOrUpdateService (returns : AvahiReturns) (s : AvahiService) : AvahiService :=
  match s.m_group with
  | some entries => s.addService returns entries
  | none => if returns.group then { s with m_group := some [] }.addService returns [] else s

/-- `AvahiService::resetGroup` on `m_group`. -/
def resetGroup (s : AvahiService) : AvahiService := { s with m_group := s.m_group.map fun _ => [] }

/-- `AvahiService::nextName` and the assignment of its result, unless the counter overflows, which is
undefined. -/
def nextName (s : AvahiService) : Option AvahiService :=
  if s.m_renameCount < INT_MAX then
    some { s with
      m_renameCount := s.m_renameCount + 1
      m_currentName := s.m_baseName ++ "-" ++ (s.m_renameCount + 1).repr }
  else none

/-- `AvahiService::setTxt`. -/
def setTxt (returns : AvahiReturns) (txt : Txt) (s : AvahiService) : AvahiService :=
  let s := { s with m_txt := txt }
  if !s.m_running then s else s.resetGroup.createOrUpdateService returns

/-- `AvahiService::handleClientState`. -/
def handleClientState (returns : AvahiReturns) (state : AvahiClientState) (s : AvahiService) :
    AvahiService :=
  match state with
  | .running => s.createOrUpdateService returns
  | .registering | .collision | .failure | .connecting => s

/-- `AvahiService::handleGroupState`. -/
def handleGroupState (returns : AvahiReturns) (state : AvahiEntryGroupState) (s : AvahiService) :
    Option AvahiService :=
  match state with
  | .collision => s.nextName.map fun s => s.resetGroup.createOrUpdateService returns
  | .uncommited | .registering | .established | .failure => some s

end AvahiService

/-- A call of the server, or a callback of Avahi. -/
inductive AvahiEvent where
  | start
  | stop
  | setTxt (txt : Txt) (returns : AvahiReturns)
  | clientCallback (state : AvahiClientState) (returns : AvahiReturns)
  | groupCallback (state : AvahiEntryGroupState) (returns : AvahiReturns)

/-- What can happen next.  A callback that comes while `start` still runs is taken as coming right after
it: the callbacks do not use `m_running`, and the thread that is in `start` calls nothing else. -/
inductive AvahiStep : AvahiService → AvahiEvent → AvahiService → Prop where
  | start {s : AvahiService} (hstopped : s.m_running = false) :
      AvahiStep s .start { s with m_running := true }
  | stop {s : AvahiService} (hrunning : s.m_running = true) :
      AvahiStep s .stop { s with m_group := none, m_running := false }
  | setTxt {s : AvahiService} (txt : Txt) (returns : AvahiReturns) :
      AvahiStep s (.setTxt txt returns) (s.setTxt returns txt)
  | clientCallback {s : AvahiService} (state : AvahiClientState) (returns : AvahiReturns)
      (hrunning : s.m_running = true) :
      AvahiStep s (.clientCallback state returns) (s.handleClientState returns state)
  | groupCallback {s s' : AvahiService} {entries : List ServiceEntry} (state : AvahiEntryGroupState)
      (returns : AvahiReturns) (hgroup : s.m_group = some entries)
      (hhandle : s.handleGroupState returns state = some s') :
      AvahiStep s (.groupCallback state returns) s'

/-- One step with the states around it. -/
abbrev AvahiEntry := AvahiService × AvahiEvent × AvahiService

/-- The list given by the most recent `setTxt`. -/
def latestTxt (trace : List AvahiEntry) : Txt :=
  trace.foldl (fun latest entry =>
    match entry.2.1 with
    | .setTxt txt _ => txt
    | _ => latest) []

/-- The name that a step reports as colliding. -/
def collidedName (entry : AvahiEntry) : Option String :=
  match entry.2.1 with
  | .groupCallback .collision _ => some entry.1.m_currentName
  | _ => none

/-- The names that were reported as colliding. -/
def collided (trace : List AvahiEntry) : List String := trace.filterMap collidedName

namespace AvahiService

/-! ### The names -/

/-- The name after `n` collisions. -/
def nameAt (base : String) (n : ℤ) : String := if n = 0 then base else base ++ "-" ++ n.repr

/-- **All names are different.** -/
theorem nameAt_injective (base : String) {m n : ℤ} (h : nameAt base m = nameAt base n) : m = n := by
  have hlonger : ∀ k : ℤ, base ≠ base ++ "-" ++ k.repr := by
    intro k heq
    have hlength := congrArg String.length heq
    rw [String.length_append, String.length_append] at hlength
    have : "-".length = 1 := rfl
    omega
  by_cases hm : m = 0
  · by_cases hn : n = 0
    · rw [hm, hn]
    · rw [nameAt, if_pos hm, nameAt, if_neg hn] at h
      exact absurd h (hlonger n)
  · by_cases hn : n = 0
    · rw [nameAt, if_neg hm, nameAt, if_pos hn] at h
      exact absurd h.symm (hlonger m)
    · rw [nameAt, if_neg hm, nameAt, if_neg hn] at h
      have hlist := congrArg String.toList h
      simp only [String.toList_append] at hlist
      exact Int.repr_injective (String.toList_injective (List.append_cancel_left hlist))

/-! ### What the group holds -/

/-- The group holds nothing, or what the members say. -/
def Current (s : AvahiService) : Prop :=
  ∀ entries, s.m_group = some entries → entries = [] ∨ entries = [s.entry]

theorem addService_spec (returns : AvahiReturns) {entries : List ServiceEntry} {s : AvahiService}
    (hgroup : s.m_group = some entries) (hcurrent : s.Current) :
    ∃ entries', s.addService returns entries = { s with m_group := some entries' }
      ∧ (entries' = [] ∨ entries' = [s.entry]) := by
  have hsame : { s with m_group := some entries } = s := by rw [← hgroup]
  by_cases hempty : entries = []
  · by_cases hadd : returns.add < 0
    · exact ⟨entries, by rw [addService, if_neg (not_not_intro hempty), if_pos hadd, hsame],
        Or.inl hempty⟩
    · exact ⟨[s.entry], by rw [addService, if_neg (not_not_intro hempty), if_neg hadd, hempty]; rfl,
        Or.inr rfl⟩
  · exact ⟨entries, by rw [addService, if_pos hempty, hsame], hcurrent entries hgroup⟩

/-- Only the group changes, and it holds what the members say. -/
theorem createOrUpdateService_spec (returns : AvahiReturns) {s : AvahiService} (hcurrent : s.Current) :
    ∃ group, s.createOrUpdateService returns = { s with m_group := group }
      ∧ (s.createOrUpdateService returns).Current := by
  cases hgroup : s.m_group with
  | some entries =>
    obtain ⟨entries', heq, hentries⟩ := addService_spec returns hgroup hcurrent
    refine ⟨some entries', by rw [createOrUpdateService, hgroup]; exact heq, ?_⟩
    rw [createOrUpdateService, hgroup]
    show (s.addService returns entries).Current
    rw [heq]
    rintro _ ⟨⟩
    exact hentries
  | none =>
    by_cases hnew : returns.group = true
    · have hempty : { s with m_group := some [] }.Current := by
        rintro _ ⟨⟩
        exact Or.inl rfl
      obtain ⟨entries', heq, hentries⟩ := addService_spec returns rfl hempty
      have hall : s.createOrUpdateService returns = { s with m_group := some entries' } := by
        rw [createOrUpdateService, hgroup]
        show (if returns.group = true then _ else _) = _
        rw [if_pos hnew, heq]
      refine ⟨some entries', hall, ?_⟩
      rw [hall]
      rintro _ ⟨⟩
      exact hentries
    · have hall : s.createOrUpdateService returns = s := by
        rw [createOrUpdateService, hgroup]
        show (if returns.group = true then _ else _) = _
        rw [if_neg hnew]
      exact ⟨none, by rw [hall, ← hgroup], by rw [hall]; exact hcurrent⟩

/-- After a reset any text and any name may be announced. -/
theorem current_resetGroup (s : AvahiService) : s.resetGroup.Current := by
  intro entries hgroup
  cases h : s.m_group with
  | none => rw [resetGroup, h] at hgroup; cases hgroup
  | some old =>
    rw [resetGroup, h] at hgroup
    exact Or.inl (Option.some.inj hgroup).symm

/-- What holds in every state. -/
structure Announcing (trace : List AvahiEntry) (s : AvahiService) : Prop where
  txt : s.m_txt = latestTxt trace
  stopped : s.m_running = false → s.m_group = none
  current : s.Current
  name : s.m_currentName = nameAt s.m_baseName s.m_renameCount
  count : 0 ≤ s.m_renameCount
  collided : ∀ name ∈ collided trace, ∃ n < s.m_renameCount, name = nameAt s.m_baseName n

variable {trace : List AvahiEntry} {s s' : AvahiService}

theorem latestTxt_append (entry : AvahiEntry) :
    latestTxt (trace ++ [entry]) = match entry.2.1 with
      | .setTxt txt _ => txt
      | _ => latestTxt trace := by
  simp [latestTxt]

theorem collided_append (entry : AvahiEntry) :
    OpenMadt.collided (trace ++ [entry]) = OpenMadt.collided trace ++ (collidedName entry).toList :=
  Run.filterMap_concat _ _ _

/-- A running service fills its group, and what it was told before is announced. -/
theorem announcing_create (returns : AvahiReturns) (hcurrent : s.Current) (hrunning : s.m_running = true)
    (htxt : s.m_txt = latestTxt trace) (hname : s.m_currentName = nameAt s.m_baseName s.m_renameCount)
    (hcount : 0 ≤ s.m_renameCount)
    (hcollided : ∀ name ∈ OpenMadt.collided trace, ∃ n < s.m_renameCount, name = nameAt s.m_baseName n) :
    Announcing trace (s.createOrUpdateService returns) := by
  obtain ⟨group, heq, hcurrent'⟩ := createOrUpdateService_spec returns hcurrent
  rw [heq] at hcurrent' ⊢
  exact ⟨htxt, fun hstopped => absurd (hrunning.symm.trans hstopped) (by decide), hcurrent', hname, hcount,
    hcollided⟩

/-- An event that only fills the group. -/
theorem Announcing.create (h : Announcing trace s) (returns : AvahiReturns) {entry : AvahiEntry}
    (htxt : latestTxt (trace ++ [entry]) = latestTxt trace) (hcollided : collidedName entry = none)
    (hrunning : s.m_running = true) :
    Announcing (trace ++ [entry]) (s.createOrUpdateService returns) := by
  refine announcing_create returns h.current hrunning (htxt ▸ h.txt) h.name h.count ?_
  rw [collided_append, hcollided]
  exact fun name hmem => h.collided name (by simpa using hmem)

/-- An event that changes nothing. -/
theorem Announcing.keep (h : Announcing trace s) {entry : AvahiEntry}
    (htxt : latestTxt (trace ++ [entry]) = latestTxt trace) (hcollided : collidedName entry = none) :
    Announcing (trace ++ [entry]) s := by
  refine ⟨htxt ▸ h.txt, h.stopped, h.current, h.name, h.count, ?_⟩
  rw [collided_append, hcollided]
  exact fun name hmem => h.collided name (by simpa using hmem)

/-- `setTxt`: the text changes, and a running service announces it. -/
theorem Announcing.setTxt (h : Announcing trace s) (txt : Txt) (returns : AvahiReturns) :
    Announcing (trace ++ [(s, .setTxt txt returns, s.setTxt returns txt)]) (s.setTxt returns txt) := by
  have hcollided : ∀ name, name ∈ OpenMadt.collided
      (trace ++ [(s, .setTxt txt returns, s.setTxt returns txt)]) → name ∈ OpenMadt.collided trace := by
    intro name hmem
    rw [collided_append] at hmem
    simpa [collidedName] using hmem
  cases hrunning : s.m_running with
  | false =>
    have heq : s.setTxt returns txt = { s with m_txt := txt } := by
      simp only [AvahiService.setTxt, hrunning, Bool.not_false, if_true]
    rw [heq] at hcollided ⊢
    refine ⟨by rw [latestTxt_append], fun _ => h.stopped hrunning, ?_, h.name, h.count,
      fun name hmem => h.collided name (hcollided name hmem)⟩
    intro entries hgroup
    exact absurd ((h.stopped hrunning).symm.trans hgroup) (by simp)
  | true =>
    have heq : s.setTxt returns txt
        = { s with m_txt := txt }.resetGroup.createOrUpdateService returns := by
      simp only [AvahiService.setTxt, hrunning, Bool.not_true, if_false, Bool.false_eq_true]
    rw [heq] at hcollided ⊢
    exact announcing_create returns (current_resetGroup _) hrunning (by rw [latestTxt_append]; rfl) h.name
      h.count fun name hmem => h.collided name (hcollided name hmem)

/-- A collision: the current name joins the reported ones, and the next one takes its place. -/
theorem Announcing.collision (h : Announcing trace s) (returns : AvahiReturns)
    {entries : List ServiceEntry} (hgroup : s.m_group = some entries)
    (hhandle : s.handleGroupState returns .collision = some s') :
    Announcing (trace ++ [(s, .groupCallback .collision returns, s')]) s' := by
  have hrunning : s.m_running = true := by
    cases hrunning : s.m_running with
    | true => rfl
    | false =>
      rw [h.stopped hrunning] at hgroup
      cases hgroup
  obtain ⟨next, hnext, rfl⟩ := Option.map_eq_some_iff.mp hhandle
  have hcount := h.count
  by_cases hoverflow : s.m_renameCount < INT_MAX
  · rw [nextName, if_pos hoverflow] at hnext
    obtain rfl := Option.some.inj hnext
    refine announcing_create returns (current_resetGroup _) hrunning
      (by rw [latestTxt_append]; exact h.txt) ?_ ?_ ?_
    · show s.m_baseName ++ "-" ++ (s.m_renameCount + 1).repr
        = nameAt s.m_baseName (s.m_renameCount + 1)
      rw [nameAt, if_neg (by omega)]
    · show 0 ≤ s.m_renameCount + 1
      omega
    · intro name hmem
      show ∃ n < s.m_renameCount + 1, name = nameAt s.m_baseName n
      rw [collided_append, List.mem_append] at hmem
      rcases hmem with hmem | hmem
      · obtain ⟨n, hlt, hname⟩ := h.collided name hmem
        exact ⟨n, by omega, hname⟩
      · obtain rfl := List.mem_singleton.mp hmem
        exact ⟨s.m_renameCount, by omega, h.name⟩
  · rw [nextName, if_neg hoverflow] at hnext
    cases hnext

/-- **The step lemma.** -/
theorem Announcing.step (h : Announcing trace s) {event : AvahiEvent} (hstep : AvahiStep s event s') :
    Announcing (trace ++ [(s, event, s')]) s' := by
  cases hstep with
  | start hstopped =>
    obtain ⟨htxt, hgroup, hcurrent, hname, hcount, hcollided⟩ := h
    refine ⟨by rw [latestTxt_append]; exact htxt, (by rintro ⟨⟩), hcurrent, hname, hcount, ?_⟩
    rw [collided_append]
    exact fun name hmem => hcollided name (by simpa [collidedName] using hmem)
  | stop hrunning =>
    obtain ⟨htxt, hgroup, hcurrent, hname, hcount, hcollided⟩ := h
    refine ⟨by rw [latestTxt_append]; exact htxt, fun _ => rfl, by rintro _ ⟨⟩, hname, hcount, ?_⟩
    rw [collided_append]
    exact fun name hmem => hcollided name (by simpa [collidedName] using hmem)
  | setTxt txt returns => exact h.setTxt txt returns
  | clientCallback state returns hrunning =>
    have htxt : latestTxt (trace ++ [(s, .clientCallback state returns,
        s.handleClientState returns state)]) = latestTxt trace := latestTxt_append _
    cases state with
    | running => exact h.create returns htxt rfl hrunning
    | registering => exact h.keep htxt rfl
    | collision => exact h.keep htxt rfl
    | failure => exact h.keep htxt rfl
    | connecting => exact h.keep htxt rfl
  | groupCallback state returns hgroup hhandle =>
    have htxt : latestTxt (trace ++ [(s, .groupCallback state returns, s')]) = latestTxt trace :=
      latestTxt_append _
    cases state with
    | collision => exact h.collision returns hgroup hhandle
    | uncommited => obtain rfl := Option.some.inj hhandle; exact h.keep htxt rfl
    | registering => obtain rfl := Option.some.inj hhandle; exact h.keep htxt rfl
    | established => obtain rfl := Option.some.inj hhandle; exact h.keep htxt rfl
    | failure => obtain rfl := Option.some.inj hhandle; exact h.keep htxt rfl

/-- Nothing has been announced. -/
theorem announcing_new (name type : String) (port : UInt16) : Announcing [] (new name type port) where
  txt := rfl
  stopped := fun _ => rfl
  current := by rintro _ ⟨⟩
  name := rfl
  count := Int.le_refl 0
  collided := fun name hmem => by cases hmem

/-- **The run lemma.** -/
theorem announcing_of_run {name type : String} {port : UInt16}
    (hrun : Run.Steps (Run.Traced AvahiStep) (new name type port) trace s) : Announcing trace s :=
  hrun.history Announcing (fun _ h hentry => by
    obtain ⟨rfl, rfl, hstep⟩ := hentry
    exact h.step hstep) (announcing_new name type port)

/-! ### The announcement -/

/-- **What is announced is current.**  A group that is not empty holds one entry, with the current name
and the latest text as C strings; and the current name has not collided. -/
theorem announces_latest {name type : String} {port : UInt16}
    (hrun : Run.Steps (Run.Traced AvahiStep) (new name type port) trace s) :
    (∀ entries, s.m_group = some entries → entries ≠ [] →
        ∃ entry, entries = [entry] ∧ entry.name = cstr s.m_currentName
          ∧ entry.txt = txtList (latestTxt trace))
      ∧ s.m_currentName ∉ OpenMadt.collided trace := by
  have h := announcing_of_run hrun
  constructor
  · intro entries hgroup hne
    rcases h.current entries hgroup with hempty | hentry
    · exact absurd hempty hne
    · exact ⟨s.entry, hentry, rfl, by rw [← h.txt]; rfl⟩
  · intro hmem
    obtain ⟨n, hlt, hname⟩ := h.collided _ hmem
    rw [h.name] at hname
    have := nameAt_injective _ hname
    omega

/-- Avahi does all that it is asked to. -/
def done : AvahiReturns := { group := true, add := 0, commit := 0 }

/-- The service `madt`, running and announced with a text of one entry. -/
def announced (name text : String) (value : List Char) (count : ℤ) : AvahiService where
  m_baseName := "madt"
  m_currentName := name
  m_type := "_itxpt_socket._tcp"
  m_port := 5000
  m_txt := [("release", text)]
  m_running := true
  m_renameCount := count
  m_group := some [⟨name.toList, "_itxpt_socket._tcp".toList, 5000, [("release".toList, value)]⟩]

/-- The service is announced, collides, and is announced again with its new name; an add that failed is
made up for when the client runs again. -/
theorem announces_latest_renamed :
    ∃ trace, latestTxt trace = [("release", "1.3")] ∧ OpenMadt.collided trace = ["madt"]
      ∧ (∃ entry, [entry] = (announced "madt-1" "1.3" "1.3".toList 1).m_group.getD []
          ∧ entry.name = cstr "madt-1" ∧ entry.txt = txtList (latestTxt trace))
      ∧ "madt-1" ∉ OpenMadt.collided trace := by
  have hrun : Run.Steps (Run.Traced AvahiStep) (new "madt" "_itxpt_socket._tcp" 5000)
      [(_, .setTxt [("release", "1.2")] done, _), (_, .start, _), (_, .clientCallback .running done, _),
        (_, .groupCallback .collision done, _), (_, .setTxt [("release", "1.3")] { done with add := -1 }, _),
        (_, .clientCallback .running done, _)]
      (announced "madt-1" "1.3" "1.3".toList 1) :=
    .cons ⟨rfl, rfl, .setTxt _ done⟩ <| .cons ⟨rfl, rfl, .start rfl⟩ <|
      .cons ⟨rfl, rfl, .clientCallback .running done rfl⟩ <|
      .cons ⟨rfl, rfl, .groupCallback .collision done rfl rfl⟩ <| .cons ⟨rfl, rfl, .setTxt _ _⟩ <|
      .cons ⟨rfl, rfl, .clientCallback .running done rfl⟩ <| .nil _
  obtain ⟨hgroup, hname⟩ := announces_latest hrun
  obtain ⟨entry, hentry, hown, htxt⟩ := hgroup _ rfl (List.cons_ne_nil _ _)
  exact ⟨_, rfl, rfl, ⟨entry, hentry.symm, hown, htxt⟩, hname⟩

/-- The text is cut at a NUL. -/
theorem txt_cut_at_nul :
    ¬ ∀ (name type : String) (port : UInt16) (trace : List AvahiEntry) (s : AvahiService),
        Run.Steps (Run.Traced AvahiStep) (new name type port) trace s →
        (∀ entries, s.m_group = some entries → entries ≠ [] →
            ∃ entry, entries = [entry] ∧ entry.name = s.m_currentName.toList
              ∧ entry.txt = (latestTxt trace).map fun kv => (kv.1.toList, kv.2.toList))
          ∧ s.m_currentName ∉ OpenMadt.collided trace := by
  intro hall
  have hrun : Run.Steps (Run.Traced AvahiStep) (new "madt" "_itxpt_socket._tcp" 5000)
      [(_, .setTxt [("release", "1\x00.3")] done, _), (_, .start, _),
        (_, .clientCallback .running done, _)]
      (announced "madt" "1\x00.3" "1".toList 0) :=
    .cons ⟨rfl, rfl, .setTxt _ done⟩ <| .cons ⟨rfl, rfl, .start rfl⟩ <|
      .cons ⟨rfl, rfl, .clientCallback .running done rfl⟩ <| .nil _
  obtain ⟨entry, hentry, -, htxt⟩ := (hall _ _ _ _ _ hrun).1 _ rfl (List.cons_ne_nil _ _)
  obtain rfl := List.singleton_inj.mp hentry
  have hcut : [("release".toList, "1".toList)] ≠ [("release".toList, "1\x00.3".toList)] := by decide
  exact hcut htxt

end AvahiService

end OpenMadt
