import OpenMadt.Basic
import OpenMadt.Library.Run
import Mathlib.Data.List.Nodup

/-!
# Loading icons

`IconLoader.cpp`: calls of `loadIcon` for one URL share one network request, and all callbacks of the
URL are called when its reply has finished.

* `IconLoader.loadIcon` — the function, up to what it calls last: the callback, or `manager->get`.
* `IconThread`, `IconStep` — the GUI thread with its call stack.  A callback may call `loadIcon` again,
  or start an event loop in which further replies finish, so the walks over the pending callbacks nest.
* `Sound` — the agreement of the cache, the pending callbacks, the replies and the walks.
* `goes_on` — no walk is disturbed by what its callbacks do.
* `each_callback_once` — what is called, with which icon, and what is still to come.
-/

namespace OpenMadt.Gui

/-! ### The loader -/

/-- A `QIcon`, where `none` is the null icon `QIcon()`. -/
abbrev QIcon (Pixmap : Type) := Option Pixmap

/-- What Qt makes of URLs, and of the data that a reply brings. -/
structure Qt (Url Data Pixmap : Type) where
  isValid : Url → Bool
  isEmpty : Url → Bool
  toString : Url → String
  loadFromData : Data → Option Pixmap

/-- A `QNetworkReply` that has finished. -/
inductive Reply (Data : Type) where
  | error
  | noError (data : Data)

/-- A callback: the number of the call of `loadIcon` that brought it. -/
abbrev Callback := ℕ

/-- The members of `IconLoader`. -/
structure IconLoader (Pixmap : Type) where
  cache : StdMap String (QIcon Pixmap)
  pending : StdMap String (List Callback)

/-- What `loadIcon` does last. -/
inductive Loading (Pixmap : Type) where
  | called (icon : QIcon Pixmap)
  | queued
  | requested

variable {Url Data Pixmap : Type}

namespace Qt

variable (Q : Qt Url Data Pixmap)

/-- The icon that the handler of `finished` makes of a reply. -/
def icon : Reply Data → QIcon Pixmap
  | .error => none
  | .noError data => Q.loadFromData data

/-- The URL is one that a request is made for. -/
def Loads (url : Url) : Prop := Q.isValid url = true ∧ Q.isEmpty url = false

instance (url : Url) : Decidable (Q.Loads url) :=
  inferInstanceAs (Decidable (Q.isValid url = true ∧ Q.isEmpty url = false))

end Qt

variable (Q : Qt Url Data Pixmap)

/-- `IconLoader::loadIcon`. -/
def IconLoader.loadIcon (url : Url) (onLoaded : Callback) (l : IconLoader Pixmap) :
    Loading Pixmap × IconLoader Pixmap :=
  if !Q.isValid url || Q.isEmpty url then (.called none, l)
  else
    let key := Q.toString url
    match l.cache[key]? with
    | some icon => (.called icon, l)
    | none =>
      let callbacks := l.pending.getD key [] ++ [onLoaded]
      let l := { l with pending := l.pending.insert key callbacks }
      if callbacks.length > 1 then (.queued, l) else (.requested, l)

/-- What a call of `loadIcon` can do. -/
theorem IconLoader.loadIcon_cases (url : Url) (onLoaded : Callback) (l : IconLoader Pixmap) :
    (¬ Q.Loads url ∧ l.loadIcon Q url onLoaded = (.called none, l))
    ∨ (∃ icon, Q.Loads url ∧ l.cache[Q.toString url]? = some icon
        ∧ l.loadIcon Q url onLoaded = (.called icon, l))
    ∨ (∃ callbacks, Q.Loads url ∧ l.cache[Q.toString url]? = none
        ∧ l.pending[Q.toString url]? = some callbacks ∧ callbacks ≠ []
        ∧ l.loadIcon Q url onLoaded = (.queued,
          { l with pending := l.pending.insert (Q.toString url) (callbacks ++ [onLoaded]) }))
    ∨ (Q.Loads url ∧ l.cache[Q.toString url]? = none ∧ l.pending.getD (Q.toString url) [] = []
        ∧ l.loadIcon Q url onLoaded = (.requested,
          { l with pending := l.pending.insert (Q.toString url) [onLoaded] })) := by
  by_cases hloads : Q.Loads url
  · have hguard : ¬ (!Q.isValid url || Q.isEmpty url) = true := by simp [hloads.1, hloads.2]
    simp only [loadIcon, if_neg hguard]
    cases hcache : l.cache[Q.toString url]? with
    | some icon => exact Or.inr (Or.inl ⟨icon, hloads, rfl, rfl⟩)
    | none =>
      cases hpending : l.pending.getD (Q.toString url) [] with
      | nil => exact Or.inr (Or.inr (Or.inr ⟨hloads, rfl, rfl, by simp⟩))
      | cons c callbacks =>
        have hsome : l.pending[Q.toString url]? = some (c :: callbacks) := by
          rw [Std.ExtTreeMap.getD_eq_getD_getElem?] at hpending
          cases hentry : l.pending[Q.toString url]? with
          | none => simp [hentry] at hpending
          | some callbacks' => rw [← hpending, hentry]; rfl
        exact Or.inr (Or.inr (Or.inl ⟨c :: callbacks, hloads, rfl, hsome, by simp, by simp⟩))
  · have hguard : (!Q.isValid url || Q.isEmpty url) = true := by
      simp only [Qt.Loads, not_and, Bool.not_eq_false] at hloads
      cases hvalid : Q.isValid url with
      | false => rfl
      | true => simp [hloads hvalid]
    exact Or.inl ⟨hloads, by rw [loadIcon, if_pos hguard]⟩

/-! ### The GUI thread -/

/-- A function on the call stack. -/
inductive Frame (Url Pixmap : Type) where
  | callback (c : Callback)
  /-- The handler of `finished`, in its loop over the callbacks: the next one it calls is at `it`. -/
  | walk (reply : Url) (icon : QIcon Pixmap) (it stop : ℕ)

/-- The reply whose callbacks are walked. -/
def Frame.walked : Frame Url Pixmap → Option Url
  | .callback _ => none
  | .walk reply _ _ _ => some reply

/-- The event loop runs, or a callback that may call anything. -/
def MayCall : List (Frame Url Pixmap) → Prop
  | .walk _ _ _ _ :: _ => False
  | _ => True

/-- The GUI thread, with the replies that have not finished. -/
structure IconThread (Url Pixmap : Type) where
  loader : IconLoader Pixmap
  replies : List Url
  frames : List (Frame Url Pixmap)
  /-- The number of calls of `loadIcon` so far. -/
  calls : ℕ

/-- What happens on the thread. -/
inductive IconEvent (Url Data Pixmap : Type) where
  | loadIcon (onLoaded : Callback) (url : Url) (loading : Loading Pixmap)
  | finished (url : Url) (reply : Reply Data)
  | call (c : Callback) (icon : QIcon Pixmap)
  /-- The loop has ended: the callbacks are erased. -/
  | erased (url : Url)
  | returned (c : Callback)

namespace IconThread

/-- Nothing was loaded. -/
def initial : IconThread Url Pixmap where
  loader := { cache := ∅, pending := ∅ }
  replies := []
  frames := []
  calls := 0

/-- The URLs whose reply has not finished, or is still being handled. -/
def outstanding (t : IconThread Url Pixmap) : List Url :=
  t.replies ++ t.frames.filterMap Frame.walked

/-- A call of `loadIcon`, with the request or the call of the callback. -/
def loadIcon (url : Url) (t : IconThread Url Pixmap) :
    IconEvent Url Data Pixmap × IconThread Url Pixmap :=
  match t.loader.loadIcon Q url t.calls with
  | (.called icon, loader) =>
    (.loadIcon t.calls url (.called icon),
      { t with loader, frames := .callback t.calls :: t.frames, calls := t.calls + 1 })
  | (.queued, loader) => (.loadIcon t.calls url .queued, { t with loader, calls := t.calls + 1 })
  | (.requested, loader) =>
    (.loadIcon t.calls url .requested,
      { t with loader, replies := t.replies ++ [url], calls := t.calls + 1 })

/-- The handler of `finished`, up to its loop. -/
def finished (url : Url) (reply : Reply Data) (replies : List Url) (t : IconThread Url Pixmap) :
    IconThread Url Pixmap :=
  { t with
    loader := { t.loader with cache := t.loader.cache.insert (Q.toString url) (Q.icon reply) }
    replies
    frames :=
      match t.loader.pending[Q.toString url]? with
      | some callbacks => .walk url (Q.icon reply) 0 callbacks.length :: t.frames
      | none => t.frames }

end IconThread

/-- What the thread can do next.  The loop holds iterators into the vector of callbacks, so it can only
go on if the vector still is as long as when it began. -/
inductive IconStep : IconThread Url Pixmap → IconEvent Url Data Pixmap → IconThread Url Pixmap → Prop
  where
  | loadIcon {t : IconThread Url Pixmap} (url : Url) (hfree : MayCall t.frames) :
      IconStep t (t.loadIcon Q url).1 (t.loadIcon Q url).2
  | finished {t : IconThread Url Pixmap} (before : List Url) (url : Url) (after : List Url)
      (reply : Reply Data) (hfree : MayCall t.frames) (hreplies : t.replies = before ++ url :: after) :
      IconStep t (.finished url reply) (t.finished Q url reply (before ++ after))
  | call {t : IconThread Url Pixmap} {url : Url} {icon : QIcon Pixmap} {it stop : ℕ}
      {rest : List (Frame Url Pixmap)} {callbacks : List Callback} {c : Callback}
      (hframes : t.frames = .walk url icon it stop :: rest) (hit : it ≠ stop)
      (hpending : t.loader.pending[Q.toString url]? = some callbacks)
      (hvalid : callbacks.length = stop) (hcallback : callbacks[it]? = some c) :
      IconStep t (.call c icon)
        { t with frames := .callback c :: .walk url icon (it + 1) stop :: rest }
  | erased {t : IconThread Url Pixmap} {url : Url} {icon : QIcon Pixmap} {stop : ℕ}
      {rest : List (Frame Url Pixmap)} {callbacks : List Callback}
      (hframes : t.frames = .walk url icon stop stop :: rest)
      (hpending : t.loader.pending[Q.toString url]? = some callbacks)
      (hvalid : callbacks.length = stop) :
      IconStep t (.erased url)
        { t with
          loader := { t.loader with pending := t.loader.pending.erase (Q.toString url) }
          frames := rest }
  | returned {t : IconThread Url Pixmap} {c : Callback} {rest : List (Frame Url Pixmap)}
      (hframes : t.frames = .callback c :: rest) :
      IconStep t (.returned c) { t with frames := rest }

/-! ### What happened -/

namespace IconEvent

/-- The URL of a call of `loadIcon`. -/
def loaded : IconEvent Url Data Pixmap → Option Url
  | .loadIcon _ url _ => some url
  | _ => none

/-- The URL that a request is made for. -/
def requested : IconEvent Url Data Pixmap → Option Url
  | .loadIcon _ url .requested => some url
  | _ => none

/-- The callback that is called, and what with. -/
def called : IconEvent Url Data Pixmap → Option (Callback × QIcon Pixmap)
  | .loadIcon c _ (.called icon) => some (c, icon)
  | .call c icon => some (c, icon)
  | _ => none

end IconEvent

/-- The URLs of the calls of `loadIcon`: that of a callback is at its number. -/
def loaded (events : List (IconEvent Url Data Pixmap)) : List Url := events.filterMap IconEvent.loaded

/-- The network requests, by their URL. -/
def requested (events : List (IconEvent Url Data Pixmap)) : List Url :=
  events.filterMap IconEvent.requested

/-- The calls of callbacks, with the icons. -/
def called (events : List (IconEvent Url Data Pixmap)) : List (Callback × QIcon Pixmap) :=
  events.filterMap IconEvent.called

/-- `icon` is the icon of `url`: the one made of a reply for it, or the null icon if none is asked for. -/
def IsIconOf (events : List (IconEvent Url Data Pixmap)) (url : Url) (icon : QIcon Pixmap) : Prop :=
  (¬ Q.Loads url ∧ icon = none)
    ∨ ∃ reply, .finished url reply ∈ events ∧ icon = Q.icon reply

/-! ### The invariant -/

/-- The reply for `url` is outstanding, and the first `it` callbacks of the URL were called. -/
def Progress (t : IconThread Url Pixmap) (url : Url) (it : ℕ) : Prop :=
  (url ∈ t.replies ∧ it = 0) ∨ ∃ icon stop, .walk url icon it stop ∈ t.frames

/-- The cache, the pending callbacks, the replies and the walks agree with what happened. -/
structure Sound (events : List (IconEvent Url Data Pixmap)) (t : IconThread Url Pixmap) : Prop where
  calls : t.calls = (loaded events).length
  /-- There is one reply for a key. -/
  outstanding_nodup : (t.outstanding.map Q.toString).Nodup
  loads : ∀ url ∈ t.outstanding, Q.Loads url
  uncached : ∀ url ∈ t.replies, t.loader.cache[Q.toString url]? = none
  awaited : ∀ url ∈ t.replies, ∃ callbacks, t.loader.pending[Q.toString url]? = some callbacks
  /-- The callbacks that a walk goes over are the ones that were pending when it began. -/
  walk : ∀ url icon it stop, .walk url icon it stop ∈ t.frames →
    t.loader.cache[Q.toString url]? = some icon ∧ it ≤ stop
      ∧ ∃ callbacks, t.loader.pending[Q.toString url]? = some callbacks ∧ callbacks.length = stop
  /-- Pending callbacks wait for an outstanding reply for their own URL. -/
  pending : ∀ (k : String) (callbacks : List Callback), t.loader.pending[k]? = some callbacks →
    callbacks.Nodup ∧ (∃ url ∈ t.outstanding, Q.toString url = k)
      ∧ ∀ c ∈ callbacks, ∃ url, (loaded events)[c]? = some url ∧ Q.Loads url ∧ Q.toString url = k
  nonempty : ∀ k : String, t.loader.pending[k]? ≠ some []
  progress : ∀ url it, Progress t url it → ∀ callbacks,
    t.loader.pending[Q.toString url]? = some callbacks → ∀ j c, callbacks[j]? = some c →
      (c ∈ (called events).map Prod.fst ↔ j < it)
  placed : ∀ (c : Callback) url, (loaded events)[c]? = some url → c ∈ (called events).map Prod.fst ∨
    ∃ callbacks, t.loader.pending[Q.toString url]? = some callbacks ∧ c ∈ callbacks
  called_icon : ∀ (c : Callback) icon, (c, icon) ∈ called events → ∃ url, (loaded events)[c]? = some url
    ∧ (¬ Q.Loads url ∧ icon = none ∨ Q.Loads url ∧ t.loader.cache[Q.toString url]? = some icon)
  answered : ∀ (k : String) icon, t.loader.cache[k]? = some icon → ∃ url reply,
    .finished url reply ∈ events ∧ Q.toString url = k ∧ Q.Loads url ∧ icon = Q.icon reply
  asked : ∀ url ∈ requested events, url ∈ t.replies ∨ (t.loader.cache[Q.toString url]?).isSome
  called_nodup : ((called events).map Prod.fst).Nodup
  requested_nodup : (requested events).Nodup

/-- Nothing has happened. -/
theorem sound_initial : Sound Q [] (IconThread.initial : IconThread Url Pixmap) where
  calls := rfl
  outstanding_nodup := List.nodup_nil
  loads := by simp [IconThread.initial, IconThread.outstanding]
  uncached := by simp [IconThread.initial]
  awaited := by simp [IconThread.initial]
  walk := by simp [IconThread.initial]
  pending := by simp [IconThread.initial]
  nonempty := by simp [IconThread.initial]
  progress := by simp [IconThread.initial]
  placed := by simp [loaded]
  called_icon := by simp [called]
  answered := by simp [IconThread.initial]
  asked := by simp [requested]
  called_nodup := List.nodup_nil
  requested_nodup := List.nodup_nil

variable {Q} {events : List (IconEvent Url Data Pixmap)} {t : IconThread Url Pixmap}

/-! One more event, in the lists of what happened. -/

theorem loaded_append (event : IconEvent Url Data Pixmap) :
    loaded (events ++ [event]) = loaded events ++ event.loaded.toList := Run.filterMap_concat _ _ _

theorem requested_append (event : IconEvent Url Data Pixmap) :
    requested (events ++ [event]) = requested events ++ event.requested.toList := Run.filterMap_concat _ _ _

theorem called_append (event : IconEvent Url Data Pixmap) :
    called (events ++ [event]) = called events ++ event.called.toList := Run.filterMap_concat _ _ _

theorem loaded_same {event : IconEvent Url Data Pixmap} (h : event.loaded = none) :
    loaded (events ++ [event]) = loaded events := by
  rw [loaded_append, h]
  exact List.append_nil _

theorem requested_same {event : IconEvent Url Data Pixmap} (h : event.requested = none) :
    requested (events ++ [event]) = requested events := by
  rw [requested_append, h]
  exact List.append_nil _

theorem called_same {event : IconEvent Url Data Pixmap} (h : event.called = none) :
    called (events ++ [event]) = called events := by
  rw [called_append, h]
  exact List.append_nil _

/-- A reply is outstanding until its callbacks have been walked. -/
theorem mem_outstanding {url : Url} : url ∈ t.outstanding ↔
    url ∈ t.replies ∨ ∃ icon it stop, .walk url icon it stop ∈ t.frames := by
  rw [IconThread.outstanding, List.mem_append, List.mem_filterMap]
  constructor
  · rintro (hreply | ⟨frame, hframe, hwalked⟩)
    · exact Or.inl hreply
    · cases frame with
      | callback c => cases hwalked
      | walk reply icon it stop =>
        obtain rfl := Option.some.inj hwalked
        exact Or.inr ⟨icon, it, stop, hframe⟩
  · rintro (hreply | ⟨icon, it, stop, hframe⟩)
    · exact Or.inl hreply
    · exact Or.inr ⟨_, hframe, rfl⟩

namespace Sound

theorem loaded_calls (h : Sound Q events t) : (loaded events)[t.calls]? = none := by
  rw [h.calls]
  exact List.getElem?_eq_none (Nat.le_refl _)

/-- The next callback has the URL of the call that brings it. -/
theorem loaded_new (h : Sound Q events t) (url : Url) : (loaded events ++ [url])[t.calls]? = some url := by
  rw [h.calls, List.getElem?_concat_length]

/-- A callback was given before, or by this call. -/
theorem loaded_cases (h : Sound Q events t) {c : Callback} {url url' : Url}
    (hurl : (loaded events ++ [url])[c]? = some url') :
    (loaded events)[c]? = some url' ∨ c = t.calls ∧ url' = url := by
  by_cases hc : c < (loaded events).length
  · rw [List.getElem?_append_left hc] at hurl
    exact Or.inl hurl
  · have hlen := (List.getElem?_eq_some_iff.mp hurl).1
    rw [List.length_append, List.length_singleton] at hlen
    have hnew : c = t.calls := by
      rw [h.calls]
      exact Nat.le_antisymm (Nat.lt_succ_iff.mp hlen) (Nat.le_of_not_lt hc)
    rw [hnew, h.loaded_new url] at hurl
    exact Or.inr ⟨hnew, (Option.some.inj hurl).symm⟩

/-- A callback has not been called before it was given. -/
theorem fresh (h : Sound Q events t) : t.calls ∉ (called events).map Prod.fst := by
  intro hmem
  obtain ⟨⟨c, icon⟩, hcalled, rfl⟩ := List.mem_map.mp hmem
  obtain ⟨url, hurl, -⟩ := h.called_icon t.calls icon hcalled
  rw [h.loaded_calls] at hurl
  cases hurl

/-- Nor does it wait. -/
theorem not_pending (h : Sound Q events t) {k : String} {callbacks : List Callback}
    (hpending : t.loader.pending[k]? = some callbacks) : t.calls ∉ callbacks := by
  intro hmem
  obtain ⟨-, -, howner⟩ := h.pending k callbacks hpending
  obtain ⟨url, hurl, -⟩ := howner t.calls hmem
  rw [h.loaded_calls] at hurl
  cases hurl

/-- A callback waits for one key. -/
theorem key_unique (h : Sound Q events t) {k k' : String} {callbacks callbacks' : List Callback}
    (hpending : t.loader.pending[k]? = some callbacks) (hpending' : t.loader.pending[k']? = some callbacks')
    {c : Callback} (hc : c ∈ callbacks) (hc' : c ∈ callbacks') : k = k' := by
  obtain ⟨-, -, howner⟩ := h.pending k callbacks hpending
  obtain ⟨-, -, howner'⟩ := h.pending k' callbacks' hpending'
  obtain ⟨url, hurl, -, rfl⟩ := howner c hc
  obtain ⟨url', hurl', -, rfl⟩ := howner' c hc'
  rw [hurl] at hurl'
  rw [Option.some.inj hurl']

/-- Answers stay. -/
theorem answered_keep (h : Sound Q events t) (event : IconEvent Url Data Pixmap) (k : String)
    (icon : QIcon Pixmap) (hcache : t.loader.cache[k]? = some icon) : ∃ url reply,
      .finished url reply ∈ events ++ [event] ∧ Q.toString url = k ∧ Q.Loads url ∧ icon = Q.icon reply := by
  obtain ⟨url, reply, hmem, hrest⟩ := h.answered k icon hcache
  exact ⟨url, reply, List.mem_append_left _ hmem, hrest⟩

/-- A key that is not in the cache is not walked. -/
theorem not_walked (h : Sound Q events t) {key : String} (hcache : t.loader.cache[key]? = none) {url : Url}
    {icon : QIcon Pixmap} {it stop : ℕ} (hwalk : .walk url icon it stop ∈ t.frames) : Q.toString url ≠ key := by
  rintro rfl
  obtain ⟨hsome, -⟩ := h.walk url icon it stop hwalk
  rw [hcache] at hsome
  cases hsome

/-- It has no outstanding reply if nothing waits for it. -/
theorem not_outstanding (h : Sound Q events t) {key : String} (hcache : t.loader.cache[key]? = none)
    (hpending : t.loader.pending[key]? = none) {url : Url} (hurl : url ∈ t.outstanding) :
    Q.toString url ≠ key := by
  rcases mem_outstanding.mp hurl with hreply | ⟨icon, it, stop, hwalk⟩
  · rintro rfl
    obtain ⟨callbacks, hsome⟩ := h.awaited url hreply
    rw [hpending] at hsome
    cases hsome
  · exact h.not_walked hcache hwalk

/-- What waits for it has not been called. -/
theorem not_called (h : Sound Q events t) {key : String} (hcache : t.loader.cache[key]? = none)
    {callbacks : List Callback} (hpending : t.loader.pending[key]? = some callbacks) {c : Callback}
    (hc : c ∈ callbacks) : c ∉ (called events).map Prod.fst := by
  intro hmem
  obtain ⟨-, ⟨url, hurl, rfl⟩, -⟩ := h.pending key callbacks hpending
  rcases mem_outstanding.mp hurl with hreply | ⟨icon, it, stop, hwalk⟩
  · obtain ⟨j, hj⟩ := List.mem_iff_getElem?.mp hc
    have hlt := (h.progress url 0 (Or.inl ⟨hreply, rfl⟩) callbacks hpending j c hj).mp hmem
    exact Nat.not_lt_zero j hlt
  · exact h.not_walked hcache hwalk rfl

/-- The other outstanding replies are for other keys. -/
theorem other_key (h : Sound Q events t) {url url' : Url} {others : List Url}
    (hperm : t.outstanding.Perm (url :: others)) (hurl' : url' ∈ others) :
    Q.toString url' ≠ Q.toString url := by
  have hnodup := (hperm.map Q.toString).nodup_iff.mp h.outstanding_nodup
  rw [List.map_cons, List.nodup_cons] at hnodup
  intro hkey
  exact hnodup.1 (hkey ▸ List.mem_map_of_mem hurl')

end Sound

/-! ### The steps -/

/-- The URL of a callback stays what it is. -/
theorem loaded_keep {c : Callback} {url : Url} (event : IconEvent Url Data Pixmap)
    (h : (loaded events)[c]? = some url) : (loaded (events ++ [event]))[c]? = some url := by
  obtain ⟨hc, -⟩ := List.getElem?_eq_some_iff.mp h
  rw [loaded_append, List.getElem?_append_left hc, h]

namespace Sound

/-- A callback returns. -/
theorem returned (h : Sound Q events t) {c : Callback} {rest : List (Frame Url Pixmap)}
    (hframes : t.frames = .callback c :: rest) :
    Sound Q (events ++ [.returned c]) { t with frames := rest } := by
  have hwalk : ∀ url icon it stop, .walk url icon it stop ∈ rest → .walk url icon it stop ∈ t.frames :=
    fun url icon it stop hmem => hframes ▸ List.mem_cons_of_mem _ hmem
  have houtstanding : IconThread.outstanding { t with frames := rest } = t.outstanding := by
    simp only [IconThread.outstanding, hframes, List.filterMap_cons, Frame.walked]
  have hloaded : loaded (events ++ [.returned c]) = loaded events := loaded_same rfl
  have hcalled : called (events ++ [.returned c]) = called events := called_same rfl
  have hrequested : requested (events ++ [.returned c]) = requested events := requested_same rfl
  have hprogress : ∀ url it, Progress { t with frames := rest } url it → Progress t url it := by
    rintro url it (hreply | ⟨icon, stop, hmem⟩)
    · exact Or.inl hreply
    · exact Or.inr ⟨icon, stop, hwalk _ _ _ _ hmem⟩
  constructor
  case calls =>
    rw [hloaded]
    exact h.calls
  case outstanding_nodup =>
    rw [houtstanding]
    exact h.outstanding_nodup
  case loads =>
    rw [houtstanding]
    exact h.loads
  case uncached => exact h.uncached
  case awaited => exact h.awaited
  case walk => exact fun url icon it stop hmem => h.walk url icon it stop (hwalk _ _ _ _ hmem)
  case pending =>
    rw [houtstanding, hloaded]
    exact h.pending
  case nonempty => exact h.nonempty
  case progress =>
    rw [hcalled]
    exact fun url it hp => h.progress url it (hprogress url it hp)
  case placed =>
    rw [hcalled, hloaded]
    exact h.placed
  case called_icon =>
    rw [hcalled, hloaded]
    exact h.called_icon
  case answered => exact h.answered_keep _
  case asked =>
    rw [hrequested]
    exact h.asked
  case called_nodup =>
    rw [hcalled]
    exact h.called_nodup
  case requested_nodup =>
    rw [hrequested]
    exact h.requested_nodup

/-- A call of `loadIcon` that calls its callback at once. -/
theorem load_called (h : Sound Q events t) {url : Url} {icon : QIcon Pixmap}
    (hicon : ¬ Q.Loads url ∧ icon = none
      ∨ Q.Loads url ∧ t.loader.cache[Q.toString url]? = some icon) :
    Sound Q (events ++ [.loadIcon t.calls url (.called icon)])
      { t with frames := .callback t.calls :: t.frames, calls := t.calls + 1 } := by
  have hloaded : loaded (events ++ [.loadIcon t.calls url (.called icon)]) = loaded events ++ [url] :=
    loaded_append _
  have hcalled : called (events ++ [.loadIcon t.calls url (.called icon)])
      = called events ++ [(t.calls, icon)] := called_append _
  have hrequested : requested (events ++ [.loadIcon t.calls url (.called icon)]) = requested events :=
    requested_same rfl
  have hwalk : ∀ url' icon' it stop, .walk url' icon' it stop ∈ Frame.callback t.calls :: t.frames →
      .walk url' icon' it stop ∈ t.frames := by
    intro url' icon' it stop hmem
    rcases List.mem_cons.mp hmem with heq | hmem
    · cases heq
    · exact hmem
  constructor
  case calls =>
    rw [hloaded, List.length_append, ← h.calls]; rfl
  case outstanding_nodup => exact h.outstanding_nodup
  case loads => exact h.loads
  case uncached => exact h.uncached
  case awaited => exact h.awaited
  case walk => exact fun url' icon' it stop hmem => h.walk url' icon' it stop (hwalk _ _ _ _ hmem)
  case pending =>
    intro k callbacks hpending
    obtain ⟨hnodup, hreply, howner⟩ := h.pending k callbacks hpending
    refine ⟨hnodup, hreply, fun c hc => ?_⟩
    obtain ⟨url', hurl', hloads⟩ := howner c hc
    exact ⟨url', loaded_keep _ hurl', hloads⟩
  case nonempty => exact h.nonempty
  case progress =>
    intro url' it hp callbacks hpending j c hc
    have hold : Progress t url' it := by
      rcases hp with hreply | ⟨icon', stop, hmem⟩
      · exact Or.inl hreply
      · exact Or.inr ⟨icon', stop, hwalk _ _ _ _ hmem⟩
    -- a pending callback was given by an earlier call
    have hne : c ≠ t.calls := by
      rintro rfl
      exact h.not_pending hpending (List.mem_of_getElem? hc)
    rw [hcalled, List.map_append, List.mem_append, ← h.progress url' it hold callbacks hpending j c hc]
    simp [hne]
  case placed =>
    intro c url' hurl'
    rw [hloaded] at hurl'
    rw [hcalled, List.map_append, List.mem_append]
    rcases h.loaded_cases hurl' with hurl' | ⟨rfl, rfl⟩
    · rcases h.placed c url' hurl' with hdone | hwait
      · exact Or.inl (Or.inl hdone)
      · exact Or.inr hwait
    · exact Or.inl (Or.inr (List.mem_singleton_self _))
  case called_icon =>
    intro c icon' hmem
    rw [hcalled, List.mem_append, List.mem_singleton] at hmem
    rcases hmem with hmem | heq
    · obtain ⟨url', hurl', hrest⟩ := h.called_icon c icon' hmem
      exact ⟨url', loaded_keep _ hurl', hrest⟩
    · obtain ⟨rfl, rfl⟩ := Prod.mk.inj heq
      exact ⟨url, by rw [hloaded]; exact h.loaded_new url, hicon⟩
  case answered => exact h.answered_keep _
  case asked =>
    rw [hrequested]
    exact h.asked
  case called_nodup =>
    rw [hcalled, List.map_append]
    exact h.called_nodup.append (List.nodup_singleton _) (by simpa using h.fresh)
  case requested_nodup =>
    rw [hrequested]
    exact h.requested_nodup

end Sound

/-- How a call joins the callbacks that wait for its URL: as one more of them, or as the first one, with a
request. -/
inductive Joins (Q : Qt Url Data Pixmap) (t : IconThread Url Pixmap) (url : Url) :
    Loading Pixmap → List Callback → List Url → Prop where
  | queued {callbacks : List Callback} (hpending : t.loader.pending[Q.toString url]? = some callbacks) :
      Joins Q t url .queued callbacks t.replies
  | requested (hpending : t.loader.pending[Q.toString url]? = none) :
      Joins Q t url .requested [] (t.replies ++ [url])

namespace Joins

variable {url : Url} {loading : Loading Pixmap} {callbacks : List Callback} {replies : List Url}

theorem called_eq (hjoins : Joins Q t url loading callbacks replies) :
    called (events ++ [.loadIcon t.calls url loading]) = called events := by
  cases hjoins with
  | queued hpending => exact called_same rfl
  | requested hpending => exact called_same rfl

theorem mem_replies (hjoins : Joins Q t url loading callbacks replies) {url' : Url} (hmem : url' ∈ t.replies) :
    url' ∈ replies := by
  cases hjoins with
  | queued hpending => exact hmem
  | requested hpending => exact List.mem_append_left _ hmem

theorem of_mem_replies (hjoins : Joins Q t url loading callbacks replies) {url' : Url}
    (hmem : url' ∈ replies) : url' ∈ t.replies ∨ url' = url := by
  cases hjoins with
  | queued hpending => exact Or.inl hmem
  | requested hpending => exact (List.mem_append.mp hmem).imp_right List.mem_singleton.mp

/-- The callbacks that already wait are the ones of the table. -/
theorem pending_eq (hjoins : Joins Q t url loading callbacks replies) {callbacks' : List Callback}
    (hsome : t.loader.pending[Q.toString url]? = some callbacks') : callbacks' = callbacks := by
  cases hjoins with
  | queued hpending => exact Option.some.inj (hsome.symm.trans hpending)
  | requested hpending =>
    rw [hpending] at hsome
    cases hsome

theorem owners (h : Sound Q events t) (hjoins : Joins Q t url loading callbacks replies) :
    callbacks.Nodup ∧ ∀ c ∈ callbacks, ∃ url', (loaded events)[c]? = some url'
      ∧ Q.Loads url' ∧ Q.toString url' = Q.toString url := by
  cases hjoins with
  | queued hpending =>
    obtain ⟨hnodup, -, howner⟩ := h.pending _ callbacks hpending
    exact ⟨hnodup, howner⟩
  | requested hpending => exact ⟨List.nodup_nil, fun c hc => absurd hc List.not_mem_nil⟩

theorem not_mem (h : Sound Q events t) (hjoins : Joins Q t url loading callbacks replies) :
    t.calls ∉ callbacks := by
  cases hjoins with
  | queued hpending => exact h.not_pending hpending
  | requested hpending => exact List.not_mem_nil

theorem not_called (h : Sound Q events t) (hjoins : Joins Q t url loading callbacks replies)
    (hcache : t.loader.cache[Q.toString url]? = none) {c : Callback} (hc : c ∈ callbacks) :
    c ∉ (called events).map Prod.fst := by
  cases hjoins with
  | queued hpending => exact h.not_called hcache hpending hc
  | requested hpending => cases hc

/-- The first callback of a URL comes with a new reply, the others share one. -/
theorem answer (h : Sound Q events t) (hjoins : Joins Q t url loading callbacks replies) :
    ∃ url' ∈ replies ++ t.frames.filterMap Frame.walked, Q.toString url' = Q.toString url := by
  cases hjoins with
  | queued hpending => exact (h.pending _ _ hpending).2.1
  | requested hpending =>
    exact ⟨url, List.mem_append_left _ (List.mem_append_right _ (List.mem_singleton_self url)), rfl⟩

theorem keys_nodup (h : Sound Q events t) (hjoins : Joins Q t url loading callbacks replies)
    (hcache : t.loader.cache[Q.toString url]? = none) :
    ((replies ++ t.frames.filterMap Frame.walked).map Q.toString).Nodup := by
  cases hjoins with
  | queued hpending => exact h.outstanding_nodup
  | requested hpending =>
    have hperm : (t.replies ++ [url] ++ t.frames.filterMap Frame.walked).Perm (url :: t.outstanding) := by
      rw [List.append_assoc]
      exact List.perm_middle
    refine (hperm.map Q.toString).nodup_iff.mpr (List.nodup_cons.mpr ⟨?_, h.outstanding_nodup⟩)
    intro hmem
    obtain ⟨url', hurl', hkey⟩ := List.mem_map.mp hmem
    exact h.not_outstanding hcache hpending hurl' hkey

theorem asked (h : Sound Q events t) (hjoins : Joins Q t url loading callbacks replies) {url' : Url}
    (hmem : url' ∈ Gui.requested (events ++ [.loadIcon t.calls url loading])) :
    url' ∈ replies ∨ (t.loader.cache[Q.toString url']?).isSome := by
  cases hjoins with
  | queued hpending =>
    rw [requested_same rfl] at hmem
    exact h.asked url' hmem
  | requested hpending =>
    rw [requested_append] at hmem
    rcases List.mem_append.mp hmem with hmem | hmem
    · exact (h.asked url' hmem).imp_left (List.mem_append_left _)
    · exact Or.inl (List.mem_append_right _ hmem)

/-- There is no second request for a URL. -/
theorem requested_nodup (h : Sound Q events t) (hjoins : Joins Q t url loading callbacks replies)
    (hcache : t.loader.cache[Q.toString url]? = none) :
    (Gui.requested (events ++ [.loadIcon t.calls url loading])).Nodup := by
  cases hjoins with
  | queued hpending =>
    rw [requested_same rfl]
    exact h.requested_nodup
  | requested hpending =>
    rw [requested_append]
    refine h.requested_nodup.append (List.nodup_singleton url) (List.disjoint_singleton.mpr fun hmem => ?_)
    rcases h.asked url hmem with hreply | hsome
    · exact h.not_outstanding hcache hpending (mem_outstanding.mpr (Or.inl hreply)) rfl
    · rw [hcache] at hsome
      cases hsome

end Joins

namespace Sound

/-- A call of `loadIcon` that appends its callback to the pending ones, and asks for the icon if it is
the first. -/
theorem load_pending (h : Sound Q events t) {url : Url} {loading : Loading Pixmap}
    {callbacks : List Callback} {replies : List Url} (hloads : Q.Loads url)
    (hcache : t.loader.cache[Q.toString url]? = none) (hjoins : Joins Q t url loading callbacks replies) :
    Sound Q (events ++ [.loadIcon t.calls url loading])
      { t with
        loader := { t.loader with
          pending := t.loader.pending.insert (Q.toString url) (callbacks ++ [t.calls]) }
        replies
        calls := t.calls + 1 } := by
  have hloaded : loaded (events ++ [.loadIcon t.calls url loading]) = loaded events ++ [url] :=
    loaded_append _
  have hcalled : called (events ++ [.loadIcon t.calls url loading]) = called events := hjoins.called_eq
  constructor
  case calls =>
    rw [hloaded, List.length_append, ← h.calls]; rfl
  case outstanding_nodup =>
    have hkeys := hjoins.keys_nodup h hcache
    exact hkeys
  case loads =>
    intro url' hurl'
    rcases mem_outstanding.mp hurl' with hmem | hwalk
    · rcases hjoins.of_mem_replies hmem with hold | rfl
      · exact h.loads url' (mem_outstanding.mpr (Or.inl hold))
      · exact hloads
    · exact h.loads url' (mem_outstanding.mpr (Or.inr hwalk))
  case uncached =>
    intro url' hmem
    rcases hjoins.of_mem_replies hmem with hold | rfl
    · exact h.uncached url' hold
    · exact hcache
  case awaited =>
    intro url' hmem
    rw [StdMap.getElem?_insert]
    split
    next => exact ⟨_, rfl⟩
    next hkey =>
      rcases hjoins.of_mem_replies hmem with hold | rfl
      · exact h.awaited url' hold
      · exact absurd rfl hkey
  case walk =>
    intro url' icon it stop hmem
    rw [StdMap.getElem?_insert, if_neg (Ne.symm (h.not_walked hcache hmem))]
    exact h.walk url' icon it stop hmem
  case pending =>
    intro k callbacks' hpending
    rw [StdMap.getElem?_insert] at hpending
    split at hpending
    next hkey =>
      obtain rfl := Option.some.inj hpending
      obtain ⟨hnodup, howner⟩ := hjoins.owners h
      obtain ⟨url', hurl', hkey'⟩ := hjoins.answer h
      refine ⟨hnodup.append (List.nodup_singleton _) (by simpa using hjoins.not_mem h),
        ⟨url', hurl', hkey'.trans hkey⟩, fun c hc => ?_⟩
      rcases List.mem_append.mp hc with hc | hc
      · obtain ⟨url'', hurl'', hloads'', hkey''⟩ := howner c hc
        exact ⟨url'', loaded_keep _ hurl'', hloads'', hkey''.trans hkey⟩
      · rw [List.mem_singleton.mp hc]
        exact ⟨url, by rw [hloaded]; exact h.loaded_new url, hloads, hkey⟩
    next =>
      obtain ⟨hnodup, ⟨url', hurl', hkey'⟩, howner⟩ := h.pending k callbacks' hpending
      refine ⟨hnodup, ⟨url', ?_, hkey'⟩, fun c hc => ?_⟩
      · exact mem_outstanding.mpr ((mem_outstanding.mp hurl').imp_left hjoins.mem_replies)
      · obtain ⟨url'', hurl'', hrest⟩ := howner c hc
        exact ⟨url'', loaded_keep _ hurl'', hrest⟩
  case nonempty =>
    intro k
    rw [StdMap.getElem?_insert]
    split
    · simp
    · exact h.nonempty k
  case progress =>
    intro url' it hp callbacks' hpending j c hc
    rw [hcalled]
    rw [StdMap.getElem?_insert] at hpending
    split at hpending
    next hkey =>
      -- none of the callbacks for this key has been called
      obtain rfl := Option.some.inj hpending
      have hzero : it = 0 := by
        rcases hp with ⟨-, hzero⟩ | ⟨icon, stop, hwalk⟩
        · exact hzero
        · exact absurd hkey.symm (h.not_walked hcache hwalk)
      rw [hzero]
      refine iff_of_false (fun hmem => ?_) (Nat.not_lt_zero j)
      rcases List.mem_append.mp (List.mem_of_getElem? hc) with hc | hc
      · exact hjoins.not_called h hcache hc hmem
      · exact h.fresh (List.mem_singleton.mp hc ▸ hmem)
    next hkey =>
      refine h.progress url' it ?_ callbacks' hpending j c hc
      rcases hp with ⟨hmem, hzero⟩ | hwalk
      · rcases hjoins.of_mem_replies hmem with hmem | rfl
        · exact Or.inl ⟨hmem, hzero⟩
        · exact absurd rfl hkey
      · exact Or.inr hwalk
  case placed =>
    intro c url' hurl'
    rw [hloaded] at hurl'
    rw [hcalled, StdMap.getElem?_insert]
    rcases h.loaded_cases hurl' with hurl' | ⟨rfl, rfl⟩
    · refine (h.placed c url' hurl').imp_right fun ⟨callbacks', hpending, hmem⟩ => ?_
      split
      next hkey =>
        rw [← hkey] at hpending
        exact ⟨_, rfl, List.mem_append_left _ (hjoins.pending_eq hpending ▸ hmem)⟩
      next => exact ⟨callbacks', hpending, hmem⟩
    · rw [if_pos rfl]
      exact Or.inr ⟨_, rfl, List.mem_append_right _ (List.mem_singleton_self _)⟩
  case called_icon =>
    rw [hcalled]
    intro c icon hmem
    obtain ⟨url', hurl', hrest⟩ := h.called_icon c icon hmem
    exact ⟨url', loaded_keep _ hurl', hrest⟩
  case answered => exact h.answered_keep _
  case asked => exact fun url' hmem => hjoins.asked h hmem
  case called_nodup =>
    rw [hcalled]
    exact h.called_nodup
  case requested_nodup => exact hjoins.requested_nodup h hcache

/-- A reply finishes: the walk over its callbacks begins. -/
theorem finished (h : Sound Q events t) {before after : List Url} {url : Url} (reply : Reply Data)
    (hreplies : t.replies = before ++ url :: after) :
    Sound Q (events ++ [.finished url reply]) (t.finished Q url reply (before ++ after)) := by
  have hurl : url ∈ t.replies := by rw [hreplies]; simp
  obtain ⟨callbacks, hcallbacks⟩ := h.awaited url hurl
  have huncached := h.uncached url hurl
  have hperm : t.outstanding.Perm (url :: (before ++ after ++ t.frames.filterMap Frame.walked)) := by
    rw [IconThread.outstanding, hreplies, List.append_assoc, List.append_assoc]
    exact List.perm_middle
  have hframes : (t.finished Q url reply (before ++ after)).frames
      = .walk url (Q.icon reply) 0 callbacks.length :: t.frames := by
    simp only [IconThread.finished, hcallbacks]
  have houtstanding : (t.finished Q url reply (before ++ after)).outstanding.Perm t.outstanding := by
    have : (t.finished Q url reply (before ++ after)).outstanding
        = before ++ after ++ url :: t.frames.filterMap Frame.walked := by
      rw [IconThread.outstanding, hframes]
      rfl
    rw [this]
    exact List.perm_middle.trans hperm.symm
  have hloaded : loaded (events ++ [.finished url reply]) = loaded events := loaded_same rfl
  have hcalled : called (events ++ [.finished url reply]) = called events := called_same rfl
  have hrequested : requested (events ++ [.finished url reply]) = requested events := requested_same rfl
  have hreply : ∀ url' ∈ before ++ after, url' ∈ t.replies ∧ Q.toString url' ≠ Q.toString url := by
    intro url' hmem
    refine ⟨?_, h.other_key hperm (List.mem_append_left _ hmem)⟩
    rw [hreplies]
    rcases List.mem_append.mp hmem with hmem | hmem
    · exact List.mem_append_left _ hmem
    · exact List.mem_append_right _ (List.mem_cons_of_mem _ hmem)
  have hcache : ∀ k : String, (t.finished Q url reply (before ++ after)).loader.cache[k]?
      = if Q.toString url = k then some (Q.icon reply) else t.loader.cache[k]? :=
    fun k => StdMap.getElem?_insert _ _ _ _
  have hold : ∀ {k : String} {icon : QIcon Pixmap}, t.loader.cache[k]? = some icon →
      Q.toString url ≠ k := by
    rintro k icon hsome rfl
    rw [huncached] at hsome
    cases hsome
  constructor
  case calls =>
    rw [hloaded]
    exact h.calls
  case outstanding_nodup => exact (houtstanding.map Q.toString).nodup_iff.mpr h.outstanding_nodup
  case loads => exact fun url' hmem => h.loads url' (houtstanding.mem_iff.mp hmem)
  case uncached =>
    intro url' hmem
    obtain ⟨hmem, hne⟩ := hreply url' hmem
    rw [hcache, if_neg (Ne.symm hne)]
    exact h.uncached url' hmem
  case awaited => exact fun url' hmem => h.awaited url' (hreply url' hmem).1
  case walk =>
    intro url' icon it stop hmem
    rw [hframes] at hmem
    rw [hcache]
    rcases List.mem_cons.mp hmem with heq | hmem
    · obtain ⟨rfl, rfl, rfl, rfl⟩ := Frame.walk.inj heq
      exact ⟨if_pos rfl, Nat.zero_le _, callbacks, hcallbacks, rfl⟩
    · have hwalk := h.walk url' icon it stop hmem
      rw [if_neg (hold hwalk.1)]
      exact hwalk
  case pending =>
    intro k callbacks' hpending
    obtain ⟨hnodup, ⟨url', hurl', hkey⟩, howner⟩ := h.pending k callbacks' hpending
    rw [hloaded]
    exact ⟨hnodup, ⟨url', houtstanding.mem_iff.mpr hurl', hkey⟩, howner⟩
  case nonempty => exact h.nonempty
  case progress =>
    intro url' it hp
    rw [hcalled]
    refine h.progress url' it ?_
    rcases hp with ⟨hmem, hzero⟩ | ⟨icon, stop, hmem⟩
    · exact Or.inl ⟨(hreply url' hmem).1, hzero⟩
    · rw [hframes] at hmem
      rcases List.mem_cons.mp hmem with heq | hmem
      · obtain ⟨rfl, rfl, rfl, rfl⟩ := Frame.walk.inj heq
        exact Or.inl ⟨hurl, rfl⟩
      · exact Or.inr ⟨icon, stop, hmem⟩
  case placed =>
    rw [hcalled, hloaded]
    exact h.placed
  case called_icon =>
    rw [hcalled, hloaded]
    intro c icon hmem
    obtain ⟨url', hurl', hicon⟩ := h.called_icon c icon hmem
    refine ⟨url', hurl', hicon.imp_right fun ⟨hloads, hsome⟩ => ⟨hloads, ?_⟩⟩
    rw [hcache, if_neg (hold hsome), hsome]
  case answered =>
    intro k icon hsome
    rw [hcache] at hsome
    split at hsome
    next hkey =>
      exact ⟨url, reply, by simp, hkey, h.loads url (mem_outstanding.mpr (Or.inl hurl)),
        (Option.some.inj hsome).symm⟩
    next =>
      exact h.answered_keep _ k icon hsome
  case asked =>
    rw [hrequested]
    intro url' hmem
    rw [hcache]
    by_cases hkey : Q.toString url = Q.toString url'
    · rw [if_pos hkey]
      exact Or.inr rfl
    · rw [if_neg hkey]
      refine (h.asked url' hmem).imp_left fun hmem => ?_
      rw [hreplies] at hmem
      rcases List.mem_append.mp hmem with hmem | hmem
      · exact List.mem_append_left _ hmem
      · rcases List.mem_cons.mp hmem with rfl | hmem
        · exact absurd rfl hkey
        · exact List.mem_append_right _ hmem
  case called_nodup =>
    rw [hcalled]
    exact h.called_nodup
  case requested_nodup =>
    rw [hrequested]
    exact h.requested_nodup

/-- The walk calls its next callback. -/
theorem call (h : Sound Q events t) {url : Url} {icon : QIcon Pixmap} {it stop : ℕ}
    {rest : List (Frame Url Pixmap)} {callbacks : List Callback} {c : Callback}
    (hframes : t.frames = .walk url icon it stop :: rest) (hit : it ≠ stop)
    (hpending : t.loader.pending[Q.toString url]? = some callbacks) (hcallback : callbacks[it]? = some c) :
    Sound Q (events ++ [.call c icon])
      { t with frames := .callback c :: .walk url icon (it + 1) stop :: rest } := by
  have hloaded : loaded (events ++ [.call c icon]) = loaded events := loaded_same rfl
  have hcalled : called (events ++ [.call c icon]) = called events ++ [(c, icon)] := called_append _
  have hrequested : requested (events ++ [.call c icon]) = requested events := requested_same rfl
  have houtstanding : IconThread.outstanding
      { t with frames := .callback c :: .walk url icon (it + 1) stop :: rest } = t.outstanding := by
    simp only [IconThread.outstanding, hframes, List.filterMap_cons, Frame.walked]
  have hhead : .walk url icon it stop ∈ t.frames := by rw [hframes]; exact List.mem_cons_self
  have hrest : ∀ url' icon' it' stop', .walk url' icon' it' stop' ∈ rest →
      .walk url' icon' it' stop' ∈ t.frames ∧ Q.toString url' ≠ Q.toString url := by
    intro url' icon' it' stop' hmem
    refine ⟨by rw [hframes]; exact List.mem_cons_of_mem _ hmem, ?_⟩
    have hperm : t.outstanding.Perm (url :: (t.replies ++ rest.filterMap Frame.walked)) := by
      rw [IconThread.outstanding, hframes]
      exact List.perm_middle
    exact h.other_key hperm (List.mem_append_right _ (List.mem_filterMap.mpr ⟨_, hmem, rfl⟩))
  have hwalk : ∀ {url' icon' it' stop'},
      .walk url' icon' it' stop' ∈ Frame.callback c :: .walk url icon (it + 1) stop :: rest →
      (url' = url ∧ icon' = icon ∧ it' = it + 1 ∧ stop' = stop)
        ∨ .walk url' icon' it' stop' ∈ rest := by
    intro url' icon' it' stop' hmem
    simpa using hmem
  obtain ⟨hcached, hle, -⟩ := h.walk url icon it stop hhead
  obtain ⟨hnodup, -, howner⟩ := h.pending _ callbacks hpending
  obtain ⟨hit', hget⟩ := List.getElem?_eq_some_iff.mp hcallback
  have hfresh : c ∉ (called events).map Prod.fst := fun hmem =>
    absurd ((h.progress url it (Or.inr ⟨icon, stop, hhead⟩) callbacks hpending it c hcallback).mp hmem)
      (Nat.lt_irrefl it)
  constructor
  case calls =>
    rw [hloaded]
    exact h.calls
  case outstanding_nodup =>
    rw [houtstanding]
    exact h.outstanding_nodup
  case loads =>
    rw [houtstanding]
    exact h.loads
  case uncached => exact h.uncached
  case awaited => exact h.awaited
  case walk =>
    intro url' icon' it' stop' hmem
    rcases hwalk hmem with ⟨rfl, rfl, rfl, rfl⟩ | hmem
    · obtain ⟨-, -, hlength⟩ := h.walk _ _ _ _ hhead
      exact ⟨hcached, Nat.lt_of_le_of_ne hle hit, hlength⟩
    · exact h.walk url' icon' it' stop' (hrest _ _ _ _ hmem).1
  case pending =>
    rw [houtstanding, hloaded]
    exact h.pending
  case nonempty => exact h.nonempty
  case progress =>
    intro url' it' hp callbacks' hpending' j c' hc'
    rw [hcalled, List.map_append, List.mem_append, List.map_singleton, List.mem_singleton]
    by_cases hkey : Q.toString url' = Q.toString url
    · -- this walk: `c` is the next of its callbacks
      rw [hkey, hpending] at hpending'
      obtain rfl := Option.some.inj hpending'
      have hit'' : it' = it + 1 := by
        rcases hp with ⟨hmem, -⟩ | ⟨icon', stop', hmem⟩
        · have := h.uncached url' hmem
          rw [hkey, hcached] at this
          cases this
        · rcases hwalk hmem with ⟨-, -, rfl, -⟩ | hmem
          · rfl
          · exact absurd hkey (hrest _ _ _ _ hmem).2
      have hsame : c' = c ↔ j = it := by
        obtain ⟨hj, hgetj⟩ := List.getElem?_eq_some_iff.mp hc'
        rw [← hget, ← hgetj]
        exact hnodup.getElem_inj_iff
      rw [h.progress url it (Or.inr ⟨icon, stop, hhead⟩) callbacks hpending j c' hc', hsame, hit'']
      exact Nat.lt_succ_iff_lt_or_eq.symm
    · -- a callback for another key
      have hne : c' ≠ c := by
        rintro rfl
        exact hkey (h.key_unique hpending' hpending (List.mem_of_getElem? hc') (List.mem_of_getElem? hcallback))
      have hold : Progress t url' it' := by
        rcases hp with hreply | ⟨icon', stop', hmem⟩
        · exact Or.inl hreply
        · rcases hwalk hmem with ⟨rfl, -⟩ | hmem
          · exact absurd rfl hkey
          · exact Or.inr ⟨icon', stop', (hrest _ _ _ _ hmem).1⟩
      rw [h.progress url' it' hold callbacks' hpending' j c' hc']
      simp [hne]
  case placed =>
    rw [hloaded, hcalled]
    intro c' url' hurl'
    refine (h.placed c' url' hurl').imp_left fun hmem => ?_
    rw [List.map_append]
    exact List.mem_append_left _ hmem
  case called_icon =>
    rw [hloaded, hcalled]
    intro c' icon' hmem
    rcases List.mem_append.mp hmem with hmem | hmem
    · exact h.called_icon c' icon' hmem
    · obtain ⟨rfl, rfl⟩ := Prod.mk.inj (List.mem_singleton.mp hmem)
      obtain ⟨url', hurl', hloads, hkey⟩ := howner c' (List.mem_of_getElem? hcallback)
      exact ⟨url', hurl', Or.inr ⟨hloads, hkey ▸ hcached⟩⟩
  case answered => exact h.answered_keep _
  case asked =>
    rw [hrequested]
    exact h.asked
  case called_nodup =>
    rw [hcalled, List.map_append]
    exact h.called_nodup.append (List.nodup_singleton _) (by simpa using hfresh)
  case requested_nodup =>
    rw [hrequested]
    exact h.requested_nodup

/-- The walk is over: all its callbacks were called. -/
theorem erased (h : Sound Q events t) {url : Url} {icon : QIcon Pixmap} {stop : ℕ}
    {rest : List (Frame Url Pixmap)} {callbacks : List Callback}
    (hframes : t.frames = .walk url icon stop stop :: rest)
    (hpending : t.loader.pending[Q.toString url]? = some callbacks) (hvalid : callbacks.length = stop) :
    Sound Q (events ++ [.erased url])
      { t with
        loader := { t.loader with pending := t.loader.pending.erase (Q.toString url) }
        frames := rest } := by
  have hloaded : loaded (events ++ [.erased url]) = loaded events := loaded_same rfl
  have hcalled : called (events ++ [.erased url]) = called events := called_same rfl
  have hrequested : requested (events ++ [.erased url]) = requested events := requested_same rfl
  have hperm : t.outstanding.Perm (url :: (t.replies ++ rest.filterMap Frame.walked)) := by
    rw [IconThread.outstanding, hframes]
    exact List.perm_middle
  have hsub : ∀ {url'}, url' ∈ t.replies ++ rest.filterMap Frame.walked →
      url' ∈ t.outstanding ∧ Q.toString url ≠ Q.toString url' := fun hmem =>
    ⟨hperm.mem_iff.mpr (List.mem_cons_of_mem _ hmem), Ne.symm (h.other_key hperm hmem)⟩
  have hhead : .walk url icon stop stop ∈ t.frames := by rw [hframes]; exact List.mem_cons_self
  have hrest : ∀ {url' icon' it' stop'}, .walk url' icon' it' stop' ∈ rest →
      .walk url' icon' it' stop' ∈ t.frames := by
    intro url' icon' it' stop' hmem
    rw [hframes]
    exact List.mem_cons_of_mem _ hmem
  have hkeep : ∀ {k : String} {callbacks' : List Callback},
      (t.loader.pending.erase (Q.toString url))[k]? = some callbacks' →
      Q.toString url ≠ k ∧ t.loader.pending[k]? = some callbacks' := by
    intro k callbacks' hsome
    rw [StdMap.getElem?_erase] at hsome
    split at hsome
    next => cases hsome
    next hkey => exact ⟨hkey, hsome⟩
  constructor
  case calls =>
    rw [hloaded]
    exact h.calls
  case outstanding_nodup =>
    have hnodup := (hperm.map Q.toString).nodup_iff.mp h.outstanding_nodup
    exact (List.nodup_cons.mp hnodup).2
  case loads => exact fun url' hmem => h.loads url' (hsub hmem).1
  case uncached => exact h.uncached
  case awaited =>
    intro url' hmem
    rw [StdMap.getElem?_erase, if_neg (hsub (List.mem_append_left _ hmem)).2]
    exact h.awaited url' hmem
  case walk =>
    intro url' icon' it' stop' hmem
    rw [StdMap.getElem?_erase,
      if_neg (hsub (List.mem_append_right _ (List.mem_filterMap.mpr ⟨_, hmem, rfl⟩))).2]
    exact h.walk url' icon' it' stop' (hrest hmem)
  case pending =>
    intro k callbacks' hsome
    obtain ⟨hne, hsome⟩ := hkeep hsome
    obtain ⟨hnodup, ⟨url', hurl', hkey⟩, howner⟩ := h.pending k callbacks' hsome
    rw [hloaded]
    refine ⟨hnodup, ⟨url', ?_, hkey⟩, howner⟩
    rcases List.mem_cons.mp (hperm.mem_iff.mp hurl') with rfl | hmem
    · exact absurd hkey hne
    · exact hmem
  case nonempty => exact fun k hnil => h.nonempty k (hkeep hnil).2
  case progress =>
    intro url' it hp callbacks' hsome
    rw [hcalled]
    refine h.progress url' it ?_ callbacks' (hkeep hsome).2
    rcases hp with hreply | ⟨icon', stop', hmem⟩
    · exact Or.inl hreply
    · exact Or.inr ⟨icon', stop', hrest hmem⟩
  case placed =>
    rw [hloaded, hcalled]
    intro c url' hurl'
    rcases h.placed c url' hurl' with hdone | ⟨callbacks', hsome, hmem⟩
    · exact Or.inl hdone
    · by_cases hkey : Q.toString url = Q.toString url'
      · rw [← hkey, hpending] at hsome
        obtain rfl := Option.some.inj hsome
        obtain ⟨j, hj⟩ := List.mem_iff_getElem?.mp hmem
        have hlt : j < stop := hvalid ▸ (List.getElem?_eq_some_iff.mp hj).1
        exact Or.inl ((h.progress url stop (Or.inr ⟨icon, stop, hhead⟩) callbacks hpending j c hj).mpr hlt)
      · exact Or.inr ⟨callbacks', by rw [StdMap.getElem?_erase, if_neg hkey, hsome], hmem⟩
  case called_icon =>
    rw [hloaded, hcalled]
    exact h.called_icon
  case answered => exact h.answered_keep _
  case asked =>
    rw [hrequested]
    exact h.asked
  case called_nodup =>
    rw [hcalled]
    exact h.called_nodup
  case requested_nodup =>
    rw [hrequested]
    exact h.requested_nodup

/-- A call of `loadIcon`. -/
theorem loadIcon (h : Sound Q events t) (url : Url) :
    Sound Q (events ++ [(t.loadIcon Q url).1]) (t.loadIcon Q url).2 := by
  obtain ⟨hloads, heq⟩ | ⟨icon, hloads, hcache, heq⟩ | ⟨callbacks, hloads, hcache, hpending, -, heq⟩
    | ⟨hloads, hcache, hpending, heq⟩ := t.loader.loadIcon_cases Q url t.calls
  · simp only [IconThread.loadIcon, heq]
    exact h.load_called (Or.inl ⟨hloads, rfl⟩)
  · simp only [IconThread.loadIcon, heq]
    exact h.load_called (Or.inr ⟨hloads, hcache⟩)
  · simp only [IconThread.loadIcon, heq]
    exact h.load_pending hloads hcache (.queued hpending)
  · simp only [IconThread.loadIcon, heq]
    have hnone : t.loader.pending[Q.toString url]? = none := by
      rw [Std.ExtTreeMap.getD_eq_getD_getElem?] at hpending
      cases hentry : t.loader.pending[Q.toString url]? with
      | none => rfl
      | some callbacks =>
        rw [hentry] at hpending
        exact absurd (hentry.trans (congrArg some hpending)) (h.nonempty _)
    exact h.load_pending hloads hcache (.requested hnone)

/-- **The step lemma.** -/
theorem step (h : Sound Q events t) {event : IconEvent Url Data Pixmap} {t' : IconThread Url Pixmap}
    (hstep : IconStep Q t event t') : Sound Q (events ++ [event]) t' := by
  cases hstep with
  | loadIcon url _ => exact h.loadIcon url
  | finished before url after reply _ hreplies => exact h.finished reply hreplies
  | call hframes hit hpending _ hcallback => exact h.call hframes hit hpending hcallback
  | erased hframes hpending hvalid => exact h.erased hframes hpending hvalid
  | returned hframes => exact h.returned hframes

end Sound

/-! ### All runs -/

/-- **The run lemma.** -/
theorem sound_of_run (hrun : Run.Steps (IconStep Q) IconThread.initial events t) : Sound Q events t :=
  hrun.history (Sound Q) (fun _ hsound hstep => hsound.step hstep) (sound_initial Q)

/-- **No walk is disturbed.**  Whatever ran inside the callbacks, a walk that is on top of the stack can
go on; nothing else can happen then. -/
theorem goes_on (hrun : Run.Steps (IconStep Q) IconThread.initial events t) {url : Url}
    {icon : QIcon Pixmap} {it stop : ℕ} {rest : List (Frame Url Pixmap)}
    (hframes : t.frames = .walk url icon it stop :: rest) : ∃ event t', IconStep Q t event t' := by
  obtain ⟨-, hle, callbacks, hpending, hvalid⟩ :=
    (sound_of_run hrun).walk url icon it stop (by rw [hframes]; exact List.mem_cons_self)
  by_cases hit : it = stop
  · subst hit
    exact ⟨_, _, .erased hframes hpending hvalid⟩
  · have hlt : it < callbacks.length := by omega
    exact ⟨_, _, .call hframes hit hpending hvalid (List.getElem?_eq_getElem hlt)⟩

/-- **Each callback once, with its own icon.**  The text of a URL that is loaded determines the URL. -/
theorem each_callback_once
    (htext : ∀ url url', Q.Loads url → Q.Loads url' → Q.toString url = Q.toString url' → url = url')
    (hrun : Run.Steps (IconStep Q) IconThread.initial events t) :
    ((called events).map Prod.fst).Nodup
      ∧ (∀ c icon, (c, icon) ∈ called events →
          ∃ url, (loaded events)[c]? = some url ∧ IsIconOf Q events url icon)
      ∧ (∀ (c : Callback) url, (loaded events)[c]? = some url → c ∉ (called events).map Prod.fst →
          url ∈ t.outstanding)
      ∧ (requested events).Nodup
      ∧ ∀ (c c' : Callback) url icon icon', (loaded events)[c]? = some url →
          (loaded events)[c']? = some url → (c, icon) ∈ called events → (c', icon') ∈ called events →
          icon = icon' := by
  have hsound := sound_of_run hrun
  refine ⟨hsound.called_nodup, ?_, ?_, hsound.requested_nodup, ?_⟩
  · intro c icon hcalled
    obtain ⟨url, hurl, hrefused | ⟨hloads, hcache⟩⟩ := hsound.called_icon c icon hcalled
    · exact ⟨url, hurl, Or.inl hrefused⟩
    · obtain ⟨url', reply, hfinished, hkey, hloads', hicon⟩ := hsound.answered _ icon hcache
      obtain rfl := htext url' url hloads' hloads hkey
      exact ⟨url', hurl, Or.inr ⟨reply, hfinished, hicon⟩⟩
  · intro c url hurl hwaits
    obtain hdone | ⟨callbacks, hpending, hmem⟩ := hsound.placed c url hurl
    · exact absurd hdone hwaits
    · obtain ⟨-, ⟨url', hurl', hkey⟩, howner⟩ := hsound.pending _ callbacks hpending
      obtain ⟨url'', hurl'', hloads, -⟩ := howner c hmem
      rw [hurl] at hurl''
      obtain rfl := Option.some.inj hurl''
      obtain rfl := htext url' url (hsound.loads url' hurl') hloads hkey
      exact hurl'
  · intro c c' url icon icon' hurl hurl' hcalled hcalled'
    obtain ⟨url₁, hurl₁, hicon⟩ := hsound.called_icon c icon hcalled
    obtain ⟨url₂, hurl₂, hicon'⟩ := hsound.called_icon c' icon' hcalled'
    obtain rfl := Option.some.inj (hurl₁.symm.trans hurl)
    obtain rfl := Option.some.inj (hurl₂.symm.trans hurl')
    rcases hicon with ⟨hrefused, rfl⟩ | ⟨hloads, hcache⟩
    · rcases hicon' with ⟨-, rfl⟩ | ⟨hloads, -⟩
      · rfl
      · exact absurd hloads hrefused
    · rcases hicon' with ⟨hrefused, -⟩ | ⟨-, hcache'⟩
      · exact absurd hloads hrefused
      · exact Option.some.inj (hcache.symm.trans hcache')

/-- Texts as URLs, of which the empty one is empty and those with a blank are invalid; an image is a
number other than 0. -/
def sampleQt : Qt String ℕ ℕ where
  isValid url := !url.toList.contains ' '
  isEmpty url := url.isEmpty
  toString url := url
  loadFromData data := if data = 0 then none else some data

/-- The icon `a` is asked for twice; when it has come, the first callback asks for it again, and for one
whose URL is invalid. -/
def sampleEvents : List (IconEvent String ℕ ℕ) :=
  [.loadIcon 0 "a" .requested, .loadIcon 1 "a" .queued, .finished "a" (.noError 7), .call 0 (some 7),
    .loadIcon 2 "a" (.called (some 7)), .returned 2, .loadIcon 3 "b c" (.called none), .returned 3,
    .returned 0, .call 1 (some 7), .returned 1, .erased "a", .loadIcon 4 "d" .requested]

/-- Where the sample run ends. -/
def sampleThread : IconThread String ℕ where
  loader := { cache := (∅ : StdMap String (QIcon ℕ)).insert "a" (some 7), pending :=
    (((((∅ : StdMap String (List Callback)).insert "a" [0]).insert "a" [0, 1]).erase "a").insert "d" [4]) }
  replies := ["d"]
  frames := []
  calls := 5

theorem sampleRun : Run.Steps (IconStep sampleQt) IconThread.initial sampleEvents sampleThread :=
  .cons (.loadIcon "a" trivial) <|
  .cons (.loadIcon "a" trivial) <|
  .cons (.finished [] "a" [] (.noError 7) trivial rfl) <|
  .cons (.call rfl (by decide) rfl rfl rfl) <|
  .cons (.loadIcon "a" trivial) <|
  .cons (.returned rfl) <|
  .cons (.loadIcon "b c" trivial) <|
  .cons (.returned rfl) <|
  .cons (.returned rfl) <|
  .cons (.call rfl (by decide) rfl rfl rfl) <|
  .cons (.returned rfl) <|
  .cons (.erased rfl rfl rfl) <|
  .cons (.loadIcon "d" trivial) <|
  .nil _

theorem each_callback_once_sample :
    called sampleEvents = [(0, some 7), (2, some 7), (3, none), (1, some 7)]
      ∧ ((called sampleEvents).map Prod.fst).Nodup ∧ IsIconOf sampleQt sampleEvents "a" (some 7)
      ∧ "d" ∈ sampleThread.outstanding ∧ (requested sampleEvents).Nodup := by
  have htext : ∀ url url', sampleQt.Loads url → sampleQt.Loads url' →
      sampleQt.toString url = sampleQt.toString url' → url = url' := fun _ _ _ _ h => h
  obtain ⟨honce, hicon, hwaits, hrequests, -⟩ := each_callback_once htext sampleRun
  obtain ⟨url, hurl, hown⟩ := hicon 1 (some 7) (by decide)
  have ha : (loaded sampleEvents)[1]? = some "a" := rfl
  obtain rfl := Option.some.inj (hurl.symm.trans ha)
  exact ⟨rfl, honce, hown, hwaits 4 "d" rfl (by decide), hrequests⟩

end OpenMadt.Gui
