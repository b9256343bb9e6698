import Mathlib.Data.Int.Order.Basic
import Mathlib.Data.List.Nodup
import Mathlib.Logic.Function.Basic

/-!
# Assignments without collisions

A partial assignment gives some keys a value.  It is `Distinct` when no value is given to two keys.
Three operations keep that: giving a key a value that nobody holds, taking a key's value away, and
giving a group of keys new values all at once (`reassign`).  The last one may shuffle values within
the group, so what it needs is that every new value is either free or held inside the group.

Where the values come from a list, keys and values can be counted (`exists_free`, `length_lt_of_free`).
Where they are numbers below a bound, a key can ask for one of them (`Gets`).
-/

namespace Assignment

variable {α β : Type} [DecidableEq α]

/-- No value is given to two keys. -/
def Distinct (f : α → Option β) : Prop :=
  ∀ ⦃a a' : α⦄ ⦃v : β⦄, f a = some v → f a' = some v → a = a'

/-- Nobody holds the value. -/
def Free (f : α → Option β) (v : β) : Prop := ∀ a, f a ≠ some v

/-- Give each key of the list its new value; the other keys keep theirs. -/
def reassign (f : α → Option β) (moves : List (α × β)) (a : α) : Option β :=
  match moves.lookup a with
  | some v => some v
  | none => f a

omit [DecidableEq α] in
theorem distinct_none : Distinct (fun _ : α => (none : Option β)) := fun _ _ _ h => nomatch h

/-- Placing a key at a free value. -/
theorem Distinct.place {f : α → Option β} (h : Distinct f) {v : β} (hv : Free f v) (k : α) :
    Distinct (Function.update f k (some v)) := by
  have other : ∀ {a w}, a ≠ k → Function.update f k (some v) a = some w → f a = some w ∧ w ≠ v := by
    intro a w ha haw
    rw [Function.update_of_ne ha] at haw
    exact ⟨haw, fun hwv => hv a (hwv ▸ haw)⟩
  intro a a' w ha ha'
  by_cases hk : a = k <;> by_cases hk' : a' = k
  · rw [hk, hk']
  · obtain ⟨-, hne⟩ := other hk' ha'
    rw [hk, Function.update_self, Option.some.injEq] at ha
    exact absurd ha.symm hne
  · obtain ⟨-, hne⟩ := other hk ha
    rw [hk', Function.update_self, Option.some.injEq] at ha'
    exact absurd ha'.symm hne
  · exact h (other hk ha).1 (other hk' ha').1

/-- Taking a key's value away. -/
theorem Distinct.release {f : α → Option β} (h : Distinct f) (k : α) :
    Distinct (Function.update f k none) := by
  have other : ∀ {a w}, Function.update f k none a = some w → f a = some w := by
    intro a w haw
    by_cases ha : a = k
    · rw [ha, Function.update_self] at haw
      exact nomatch haw
    · rwa [Function.update_of_ne ha] at haw
  exact fun a a' w ha ha' => h (other ha) (other ha')

theorem mem_of_lookup {moves : List (α × β)} {a : α} {v : β} (h : moves.lookup a = some v) :
    (a, v) ∈ moves := by
  obtain ⟨before, after, rfl, -⟩ := List.lookup_eq_some_iff.mp h
  simp

theorem not_mem_of_lookup_eq_none {moves : List (α × β)} {a : α} (h : moves.lookup a = none) :
    a ∉ moves.map Prod.fst := by
  intro hmem
  obtain ⟨p, hp, rfl⟩ := List.mem_map.mp hmem
  simpa using List.lookup_eq_none_iff.mp h p hp

/-- **Simultaneous reassignment.**  The new values are pairwise distinct, and whoever holds one of
them gets a new value too. -/
theorem Distinct.reassign {f : α → Option β} (h : Distinct f) {moves : List (α × β)}
    (htargets : (moves.map Prod.snd).Nodup)
    (hheld : ∀ v ∈ moves.map Prod.snd, ∀ a, f a = some v → a ∈ moves.map Prod.fst) :
    Distinct (reassign f moves) := by
  -- a value after the move is a target of its key, or an old value outside all targets
  have cases : ∀ {a v}, Assignment.reassign f moves a = some v →
      (a, v) ∈ moves ∨ f a = some v ∧ v ∉ moves.map Prod.snd := by
    intro a v hav
    unfold Assignment.reassign at hav
    cases hl : moves.lookup a with
    | some w =>
      simp only [hl, Option.some.injEq] at hav
      exact Or.inl (hav ▸ mem_of_lookup hl)
    | none =>
      simp only [hl] at hav
      exact Or.inr ⟨hav, fun hv => not_mem_of_lookup_eq_none hl (hheld v hv a hav)⟩
  intro a a' v ha ha'
  rcases cases ha with hm | ⟨hf, hv⟩ <;> rcases cases ha' with hm' | ⟨hf', hv'⟩
  · exact congrArg Prod.fst (List.inj_on_of_nodup_map htargets hm hm' rfl)
  · exact absurd (List.mem_map_of_mem (f := Prod.snd) hm) hv'
  · exact absurd (List.mem_map_of_mem (f := Prod.snd) hm') hv
  · exact h hf hf'

/-! ### Counting -/

omit [DecidableEq α] in
/-- Fewer keys than values: some value is free. -/
theorem exists_free {f : α → Option β} {keys : List α} {values : List β} (hvalues : values.Nodup)
    (hlen : keys.length < values.length) : ∃ v ∈ values, ∀ a ∈ keys, f a ≠ some v := by
  by_contra hnone
  have hsub : values ⊆ keys.filterMap f := by
    intro v hv
    by_contra hno
    exact hnone ⟨v, hv, fun a ha haw => hno (List.mem_filterMap.mpr ⟨a, ha, haw⟩)⟩
  have hle := hvalues.length_le_of_subset hsub
  have hle' := List.length_filterMap_le f keys
  omega

omit [DecidableEq α] in
/-- If every key has a value of the list and one value is free, there are fewer keys than values. -/
theorem Distinct.length_lt_of_free {f : α → Option β} (h : Distinct f) {keys : List α}
    {values : List β} (hkeys : keys.Nodup) (hheld : ∀ a ∈ keys, ∃ v ∈ values, f a = some v) {v : β}
    (hv : v ∈ values) (hfree : ∀ a ∈ keys, f a ≠ some v) : keys.length < values.length := by
  have hnodup : (keys.filterMap f).Nodup := hkeys.filterMap fun a a' w ha ha' => h ha ha'
  have hfresh : v ∉ keys.filterMap f := by
    intro hmem
    obtain ⟨a, ha, haw⟩ := List.mem_filterMap.mp hmem
    exact hfree a ha haw
  have hsub : v :: keys.filterMap f ⊆ values := by
    refine List.cons_subset.mpr ⟨hv, fun w hw => ?_⟩
    obtain ⟨a, ha, haw⟩ := List.mem_filterMap.mp hw
    obtain ⟨w', hw', haw'⟩ := hheld a ha
    exact Option.some.inj (haw.symm.trans haw') ▸ hw'
  have hle := (List.nodup_cons.mpr ⟨hfresh, hnodup⟩).length_le_of_subset hsub
  have hall : (keys.filterMap f).length = keys.length := by
    rw [List.filterMap_length_eq_length]
    intro a ha
    obtain ⟨w, -, haw⟩ := hheld a ha
    rw [haw, Option.isSome_some]
  rw [List.length_cons] at hle
  omega

/-! ### Numbered values -/

/-- What a key gets that asks for a number: this one, if it is below the bound, and the first free one
otherwise. -/
structure Gets (f : α → Option ℤ) (bound asked v : ℤ) : Prop where
  inRange : 0 ≤ v ∧ v < bound
  free : Free f v
  granted : 0 ≤ asked ∧ asked < bound → v = asked
  first : ¬ (0 ≤ asked ∧ asked < bound) → ∀ v', 0 ≤ v' → v' < v → ¬ Free f v'

end Assignment
