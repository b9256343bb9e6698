import Mathlib.Algebra.GroupWithZero.Nat
import Mathlib.Data.List.Induction

/-!
# Backlogs

Something comes in and something is taken out again, in amounts that are given by a sequence of events; what is
not taken out is left for later, and now and then everything is thrown away.

* `backlog` — what is left after some events.
* `backlog_le_iff` — how much is left, by the stretches of events up to now.
* `backlog_eq_zero_iff` — nothing is left exactly if in each of them as much could be taken out as came in.
-/

namespace Backlog

variable {E : Type} (arrives leaves : E → ℕ) (resets : E → Bool)

/-- What is left after one more event. -/
def after (left : ℕ) (e : E) : ℕ := if resets e then 0 else left + arrives e - leaves e

/-- What is left after the events; at first there is nothing. -/
def backlog (events : List E) : ℕ := events.foldl (after arrives leaves resets) 0

theorem backlog_append_singleton (events : List E) (e : E) :
    backlog arrives leaves resets (events ++ [e])
      = after arrives leaves resets (backlog arrives leaves resets events) e := by
  rw [backlog, List.foldl_append]
  rfl

/-- In each stretch of events up to now, and since the last reset, at most `k` more comes in than can be taken
out. -/
def Bounded (k : ℕ) (events : List E) : Prop :=
  ∀ earlier recent, events = earlier ++ recent → (∀ e ∈ recent, resets e = false) →
    (recent.map arrives).sum ≤ (recent.map leaves).sum + k

variable {arrives leaves resets} {events : List E} {e : E} {k : ℕ}

theorem bounded_of_resets (he : resets e = true) : Bounded arrives leaves resets k (events ++ [e]) := by
  intro earlier recent hsplit hrecent
  rcases List.eq_nil_or_concat recent with rfl | ⟨recent, last, rfl⟩
  · simp
  · rw [List.concat_eq_append, ← List.append_assoc] at hsplit
    obtain ⟨-, hlast⟩ := List.append_inj' hsplit rfl
    obtain rfl := List.singleton_inj.mp hlast
    rw [hrecent e (by simp)] at he
    cases he

/-- One more event, which is no reset, belongs to every stretch but the empty one. -/
theorem bounded_append_singleton (he : resets e = false) :
    Bounded arrives leaves resets k (events ++ [e])
      ↔ ∀ earlier recent, events = earlier ++ recent → (∀ e ∈ recent, resets e = false) →
        (recent.map arrives).sum + arrives e ≤ (recent.map leaves).sum + leaves e + k := by
  constructor
  · rintro h earlier recent rfl hrecent
    have hlonger := h earlier (recent ++ [e]) (List.append_assoc _ _ _) (by
      intro e' he'
      rcases List.mem_append.mp he' with he' | he'
      · exact hrecent e' he'
      · rwa [List.mem_singleton.mp he'])
    simpa using hlonger
  · intro h earlier recent hsplit hrecent
    rcases List.eq_nil_or_concat recent with rfl | ⟨recent, last, rfl⟩
    · simp
    · rw [List.concat_eq_append] at hsplit hrecent ⊢
      rw [← List.append_assoc] at hsplit
      obtain ⟨hevents, hlast⟩ := List.append_inj' hsplit rfl
      obtain rfl := List.singleton_inj.mp hlast
      have hshorter := h earlier recent hevents fun e' he' => hrecent e' (List.mem_append_left _ he')
      simpa using hshorter

/-- **What is left** is the most that any stretch of events up to now has brought in beyond what could be taken
out in it. -/
theorem backlog_le_iff : backlog arrives leaves resets events ≤ k ↔ Bounded arrives leaves resets k events := by
  induction events using List.reverseRecOn generalizing k with
  | nil =>
    refine iff_of_true (Nat.zero_le k) fun earlier recent hsplit _ => ?_
    obtain ⟨-, rfl⟩ := List.append_eq_nil_iff.mp hsplit.symm
    simp
  | append_singleton events e ih =>
    rw [backlog_append_singleton, after]
    cases he : resets e with
    | true => exact iff_of_true (Nat.zero_le k) (bounded_of_resets he)
    | false =>
      rw [if_neg Bool.false_ne_true, bounded_append_singleton he]
      by_cases hroom : arrives e ≤ leaves e + k
      · -- what came in before may have left as much as there is room for
        have hbefore := ih (k := leaves e + k - arrives e)
        rw [show backlog arrives leaves resets events + arrives e - leaves e ≤ k
          ↔ backlog arrives leaves resets events ≤ leaves e + k - arrives e by omega, hbefore]
        refine forall₄_congr fun earlier recent hsplit hrecent => ?_
        omega
      · -- the last event alone brings in too much
        refine iff_of_false (by omega) fun h => hroom ?_
        have hlast := h events [] (List.append_nil _).symm (by simp)
        simpa using hlast

/-- **Nothing is left** exactly if each stretch of events up to now could take out what it has brought in. -/
theorem backlog_eq_zero_iff : backlog arrives leaves resets events = 0
    ↔ Bounded arrives leaves resets 0 events := by
  rw [← Nat.le_zero, backlog_le_iff]

end Backlog
